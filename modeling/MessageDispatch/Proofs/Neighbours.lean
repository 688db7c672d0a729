import MessageDispatch.Proofs.MethodIds

/-!
# Message methods and their neighbours

A message method does not depend on the contract around it. Every bound contract that has the
method gives the same outcome to a call, whatever its other methods and their order, its name and
its address. And the order in which methods are declared matters neither to building a contract nor
to binding it.
-/

namespace MessageDispatch

namespace Contract

/-- Which identity methods are missing does not depend on the order of declaration. -/
theorem withIdentity_perm {declared reordered : List Method} (h : declared.Perm reordered) :
    (withIdentity declared).Perm (withIdentity reordered) := by
  refine List.foldl_rel (r := List.Perm) h fun which _ ms ns same => ?_
  simp only [same.any_eq]
  split
  · exact same
  · exact same.append_right _

theorem build_eq_ok_iff {name : String} {declared : List Method} {c : Contract} :
    build name declared = .ok c ↔ c.name = name ∧ c.methods = withIdentity declared := by
  unfold build
  split
  case h_1 method repeated =>
    constructor
    · intro h
      cases h
    · rintro ⟨-, methods⟩
      have none_repeated := firstRepeat?_eq_none_iff.2
        ⟨methods ▸ c.distinct, fun s _ => List.not_mem_nil⟩
      rw [none_repeated] at repeated
      cases repeated
  case h_2 distinct =>
    obtain ⟨n, ms, nodup⟩ := c
    simp [eq_comm]

/-- A contract can be built of methods if these and the missing identity methods have distinct
names. -/
theorem exists_build_iff {name : String} {declared : List Method} :
    (∃ c, build name declared = .ok c) ↔ ((withIdentity declared).map (·.name)).Nodup := by
  constructor
  · rintro ⟨c, h⟩
    exact (build_eq_ok_iff.1 h).2 ▸ c.distinct
  · intro distinct
    exact ⟨⟨name, withIdentity declared, distinct⟩, build_eq_ok_iff.2 ⟨rfl, rfl⟩⟩

theorem exists_build_perm {declared reordered : List Method} (h : declared.Perm reordered)
    (name : String) :
    (∃ c, build name declared = .ok c) ↔ ∃ c, build name reordered = .ok c := by
  rw [exists_build_iff, exists_build_iff]
  exact ((withIdentity_perm h).map _).nodup_iff

/-- Contracts built of the same methods have the same methods. -/
theorem methods_perm {declared reordered : List Method} (h : declared.Perm reordered)
    {name name' : String} {c c' : Contract} (hc : build name declared = .ok c)
    (hc' : build name' reordered = .ok c') : c.methods.Perm c'.methods := by
  rw [(build_eq_ok_iff.1 hc).2, (build_eq_ok_iff.1 hc').2]
  exact withIdentity_perm h

end Contract

namespace Dispatcher

variable {cfg : Configuration} {contract contract' : Contract} {a a' : UInt64} {d d' : Dispatcher}

theorem exists_bind_perm (h : contract.methods.Perm contract'.methods) (cfg : Configuration)
    (a a' : UInt64) :
    (∃ d, bind contract cfg a = .ok d) ↔ ∃ d, bind contract' cfg a' = .ok d := by
  simp only [exists_bind_iff, h.mem_iff]

/-- The route of a message method does not come to the dispatcher. -/
theorem runRoute_message (d : Dispatcher) (answer : Answering) (p : Pipeline) (c : Call)
    (s : Installation) :
    d.runRoute answer (.message p) c s = (some (p.run c s).1, (p.run c s).2) :=
  rfl

section Shared

variable (hd : bind contract cfg a = .ok d) (hd' : bind contract' cfg a' = .ok d') {m : Method}
include hd hd'

/-- Bound contracts give the same outcome to calls of a message method that they share. -/
theorem invoke_shared (hm : m ∈ contract.methods) (hm' : m ∈ contract'.methods)
    (hk : m.kind = .message) (depth depth' : Nat) (id : Identity) (requested : Ty)
    (values : List (Option Value)) (s : Installation) :
    d.invoke depth id m.name requested values s =
      d'.invoke depth' id m.name requested values s := by
  simp only [invoke_eq hd hm, invoke_eq hd' hm', Configuration.route, hk, invokeRoute,
    runRoute_message]

/-- The same for calls by place, at the place that the method has in either contract. -/
theorem invokeId_shared {i j : Nat} (hi : contract.methods[i]? = some m)
    (hj : contract'.methods[j]? = some m) (hk : m.kind = .message) (depth depth' : Nat)
    (id : Identity) (requested : Ty) (values : List (Option Value)) (s : Installation) :
    d.invokeId depth i id requested values s = d'.invokeId depth' j id requested values s := by
  rw [← invoke_eq_invokeId hd hi, ← invoke_eq_invokeId hd' hj]
  exact invoke_shared hd hd' (List.mem_of_getElem? hi) (List.mem_of_getElem? hj) hk _ _ _ _ _ _

end Shared

/-- **Neighbours do not matter to message methods.** Two contracts bound under the same policies
give the same outcome to every call of a message method that they share, by name and by place; the
objects that the call builds are told apart by the same identity in both. Declaring methods in
another order changes neither whether a contract is built of them nor whether it binds. -/
theorem invoke_despite_neighbours (cfg : Configuration) :
    (∀ contract contract' a a' d d', bind contract cfg a = .ok d →
        bind contract' cfg a' = .ok d' →
        ∀ name m, contract.method? name = some m → contract'.method? name = some m →
          m.kind = .message →
          ∀ depth depth' id requested values s,
            d.invoke depth id name requested values s =
                d'.invoke depth' id name requested values s ∧
              ∀ i j, contract.methods[i]? = some m → contract'.methods[j]? = some m →
                d.invokeId depth i id requested values s =
                  d'.invokeId depth' j id requested values s) ∧
      ∀ declared reordered : List Method, declared.Perm reordered → ∀ name,
        ((∃ c, Contract.build name declared = .ok c) ↔
            ∃ c, Contract.build name reordered = .ok c) ∧
          ∀ c c', Contract.build name declared = .ok c → Contract.build name reordered = .ok c' →
            ∀ a a', (∃ d, bind c cfg a = .ok d) ↔ ∃ d, bind c' cfg a' = .ok d := by
  constructor
  · intro contract contract' a a' d d' hd hd' name m found found' hk depth depth' id requested
      values s
    obtain ⟨hm, rfl⟩ := Contract.method?_eq_some_iff.1 found
    obtain ⟨hm', -⟩ := Contract.method?_eq_some_iff.1 found'
    exact ⟨invoke_shared hd hd' hm hm' hk depth depth' id requested values s,
      fun i j hi hj => invokeId_shared hd hd' hi hj hk depth depth' id requested values s⟩
  · intro declared reordered h name
    refine ⟨Contract.exists_build_perm h name, fun c c' hc hc' a a' => ?_⟩
    exact exists_bind_perm (Contract.methods_perm h hc hc') cfg a a'

/-- The greeting, declared after other methods. -/
def crowdMethods : List Method :=
  [.identity .display, .provided "hail" (.delegate ⟨[1]⟩ "greeting"), greeting]

/-- The contract of these methods. -/
def crowd : Contract where
  name := "Crowd"
  methods := Contract.withIdentity crowdMethods
  distinct := by decide

theorem build_crowd : Contract.build "Crowd" crowdMethods = .ok crowd :=
  Contract.build_eq_ok_iff.2 ⟨rfl, rfl⟩

theorem bind_crowd : bind crowd {} 0x2f = .ok (layOut crowd {} 0x2f) :=
  rfl

theorem invoke_greeting_in_crowd :
    (layOut crowd {} 0x2f).invoke 1 ⟨[0]⟩ "greeting" .text [some (.string "Ada"), none] .start =
        greeter.invoke 0 ⟨[0]⟩ "greeting" .text [some (.string "Ada"), none] .start ∧
      ∃ c, Contract.build "Crowd" crowdMethods.reverse = .ok c ∧ ∃ d, bind c {} 0x3f = .ok d := by
  obtain ⟨shared, reordered⟩ := invoke_despite_neighbours {}
  obtain ⟨builds, binds⟩ := reordered crowdMethods _ crowdMethods.reverse_perm.symm "Crowd"
  obtain ⟨c, hc⟩ := builds.1 ⟨crowd, build_crowd⟩
  refine ⟨?_, c, hc, (binds crowd c build_crowd hc 0x2f 0x3f).1 ⟨_, bind_crowd⟩⟩
  exact (shared crowd greetings _ _ _ _ bind_crowd bind_greetings "greeting" greeting rfl rfl rfl
    1 0 ⟨[0]⟩ .text [some (.string "Ada"), none] .start).1

end Dispatcher

end MessageDispatch
