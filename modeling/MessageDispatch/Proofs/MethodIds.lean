import Mathlib.Data.List.Nodup
import MessageDispatch.Proofs.MessageCall

/-!
# Method ids

A bound contract keeps its methods, their routes and the places of their names in three lists. The
lists agree: names and places correspond one to one, looking a method up by name through the table
or in the contract itself gives the same method, and the route at a place is the one for the method
at that place (`Route.Fits`). So calling by name and calling by place are the same, and a place that
the table does not have is reported as an unknown method.
-/

namespace MessageDispatch

/-- The method of a name is the one method of the contract with that name. -/
theorem Contract.method?_eq_some_iff {c : Contract} {name : String} {m : Method} :
    c.method? name = some m ↔ m ∈ c.methods ∧ m.name = name := by
  constructor
  · intro h
    exact ⟨List.mem_of_find?_eq_some h, by simpa using List.find?_some h⟩
  · rintro ⟨hm, rfl⟩
    obtain ⟨n, hn⟩ : ∃ n, c.method? m.name = some n :=
      Option.isSome_iff_exists.1 (List.find?_isSome.2 ⟨m, hm, beq_self_eq_true _⟩)
    have same : n.name = m.name := by simpa using List.find?_some hn
    rw [hn, List.inj_on_of_nodup_map c.distinct (List.mem_of_find?_eq_some hn) hm same]

/-- The route is the one that the kind of the method says; the policies of a message method's
pipeline accept the method. -/
inductive Route.Fits (m : Method) : Route → Prop where
  | message {p : Pipeline} (kind : m.kind = .message)
      (accepted : (⟨p.keys, p.arguments, p.results⟩ : Configuration).accept m.signature = .ok ()) :
      Fits m (.message p)
  | identity {which : IdentityMethod} (kind : m.kind = .identity which) : Fits m (.identity which)
  | provided {body : Body} (kind : m.kind = .provided body) : Fits m (.provided body)

namespace Dispatcher

variable {contract : Contract} {cfg : Configuration} {address : UInt64} {d : Dispatcher}

/-- The route at the place of a method is for that method. -/
theorem route_fits (hd : bind contract cfg address = .ok d) {i : Nat} {m : Method}
    (hi : contract.methods[i]? = some m) : ∃ route, d.routes[i]? = some route ∧ route.Fits m := by
  have hm : m ∈ contract.methods := List.mem_of_getElem? hi
  refine ⟨cfg.route m, ?_, ?_⟩
  · obtain ⟨rfl, -⟩ := bind_eq_ok_iff.1 hd
    simp [layOut, hi]
  · unfold Configuration.route
    cases hk : m.kind with
    | message => exact .message hk (accept_of_bind hd hm hk)
    | identity which => exact .identity hk
    | provided body => exact .provided hk

/-- The table and the contract lead from a name to the same method. -/
theorem methodId?_bind (hd : bind contract cfg address = .ok d) (name : String) :
    (d.methodId? name).bind (contract.methods[·]?) = contract.method? name := by
  apply Option.ext
  intro m
  rw [Option.bind_eq_some_iff, Contract.method?_eq_some_iff]
  constructor
  · rintro ⟨i, hi, hm⟩
    obtain ⟨n, hn, rfl⟩ := (methodId?_eq_some_iff hd).1 hi
    obtain rfl : n = m := Option.some.inj (hn.symm.trans hm)
    exact ⟨List.mem_of_getElem? hm, rfl⟩
  · rintro ⟨hm, rfl⟩
    obtain ⟨i, hi⟩ := List.mem_iff_getElem?.1 hm
    exact ⟨i, methodId?_eq hd hi, hi⟩

/-- A name has a place if the contract has a method of that name. -/
theorem isSome_methodId? (hd : bind contract cfg address = .ok d) (name : String) :
    (d.methodId? name).isSome = (contract.method? name).isSome := by
  rw [← methodId?_bind hd]
  cases hi : d.methodId? name with
  | none => rfl
  | some i =>
    obtain ⟨m, hm, -⟩ := (methodId?_eq_some_iff hd).1 hi
    simp [hm]

/-- Every place has exactly one name. -/
theorem existsUnique_methodId? (hd : bind contract cfg address = .ok d) {i : Nat}
    (hi : i < contract.methods.length) : ∃! name, d.methodId? name = some i := by
  have hm : contract.methods[i]? = some contract.methods[i] := List.getElem?_eq_getElem hi
  refine ⟨contract.methods[i].name, methodId?_eq hd hm, ?_⟩
  intro name h
  obtain ⟨n, hn, rfl⟩ := (methodId?_eq_some_iff hd).1 h
  rw [hm] at hn
  cases hn
  rfl

/-- No name is listed twice, so it does not matter from which end the table is searched. -/
theorem lookup_reverse_index (hd : bind contract cfg address = .ok d) (name : String) :
    d.index.reverse.lookup name = d.methodId? name := by
  have distinct : (d.index.map (·.1)).Nodup := index_keys hd ▸ contract.distinct
  have reversed : (d.index.reverse.map (·.1)).Nodup := by
    rw [List.map_reverse]
    exact List.nodup_reverse.2 distinct
  apply Option.ext
  intro i
  rw [methodId?, lookup_eq_some_iff_mem distinct, lookup_eq_some_iff_mem reversed,
    List.mem_reverse]

/-- A place that the table does not have. -/
theorem invokeId_of_length_le (hd : bind contract cfg address = .ok d) {i : Nat}
    (hi : contract.methods.length ≤ i) (depth : Nat) (id : Identity) (requested : Ty)
    (values : List (Option Value)) (s : Installation) :
    d.invokeId depth i id requested values s =
      (some (.error ⟨s!"#{i}", .built, .unknownMethod contract.name s!"#{i}"⟩), s) := by
  obtain ⟨rfl, -⟩ := bind_eq_ok_iff.1 hd
  have hm : (layOut contract cfg address).contract.methods[i]? = none :=
    List.getElem?_eq_none hi
  cases depth <;> simp only [invokeId, invokeAt, hm] <;> rfl

/-- A call by name is the call by the place of that name, if it has one. -/
theorem invoke_eq_methodId? (hd : bind contract cfg address = .ok d) (name : String)
    (depth : Nat) (id : Identity) (requested : Ty) (values : List (Option Value))
    (s : Installation) :
    d.invoke depth id name requested values s =
      match d.methodId? name with
      | some i => d.invokeId depth i id requested values s
      | none => (some (.error ⟨name, .built, .unknownMethod contract.name name⟩), s) := by
  cases h : d.methodId? name with
  | some i =>
    obtain ⟨m, hi, rfl⟩ := (methodId?_eq_some_iff hd).1 h
    exact invoke_eq_invokeId hd hi depth id requested values s
  | none =>
    have hc : d.contract = contract := by
      obtain ⟨rfl, -⟩ := bind_eq_ok_iff.1 hd
      rfl
    cases depth <;> simp only [invoke, invokeName, h, hc]

/-- **The table is a faithful index of the contract.** Names and places correspond one to one, and
lead to the methods and routes of the contract; a call by name is the same call by place. -/
theorem bind_indexes_methods (hd : bind contract cfg address = .ok d) :
    (∀ name i, d.methodId? name = some i ↔ ∃ m, contract.methods[i]? = some m ∧ m.name = name) ∧
    (∀ i < contract.methods.length, ∃! name, d.methodId? name = some i) ∧
    (∀ name, (d.methodId? name).isSome = (contract.method? name).isSome ∧
      (d.methodId? name).bind (contract.methods[·]?) = contract.method? name ∧
      d.index.reverse.lookup name = d.methodId? name) ∧
    d.routes.length = contract.methods.length ∧
    (∀ (i : Nat) m, contract.methods[i]? = some m →
      ∃ route, d.routes[i]? = some route ∧ route.Fits m) ∧
    (∀ depth id name requested values s,
      d.invoke depth id name requested values s =
        match d.methodId? name with
        | some i => d.invokeId depth i id requested values s
        | none => (some (.error ⟨name, .built, .unknownMethod contract.name name⟩), s)) ∧
    (∀ i, contract.methods.length ≤ i → ∀ depth id requested values s,
      d.invokeId depth i id requested values s =
        (some (.error ⟨s!"#{i}", .built, .unknownMethod contract.name s!"#{i}"⟩), s)) := by
  refine ⟨?_, ?_, ?_, ?_, ?_, ?_, ?_⟩
  · intro name i
    exact methodId?_eq_some_iff hd
  · intro i hi
    exact existsUnique_methodId? hd hi
  · intro name
    exact ⟨isSome_methodId? hd name, methodId?_bind hd name, lookup_reverse_index hd name⟩
  · obtain ⟨rfl, -⟩ := bind_eq_ok_iff.1 hd
    simp [layOut]
  · intro i m hi
    exact route_fits hd hi
  · intro depth id name requested values s
    exact invoke_eq_methodId? hd name depth id requested values s
  · intro i hi depth id requested values s
    exact invokeId_of_length_le hd hi depth id requested values s

theorem greeter_indexes_methods :
    greeter.methodId? "hash_code" = some 2 ∧
      greeter.invoke 0 ⟨[0]⟩ "hash_code" (.integer ⟨false, .w64⟩) [] .start =
        greeter.invokeId 0 2 ⟨[0]⟩ (.integer ⟨false, .w64⟩) [] .start ∧
      (greeter.invokeId 0 4 ⟨[0]⟩ .text [] .start).1 =
        some (.error ⟨"#4", .built, .unknownMethod "Greetings" "#4"⟩) := by
  obtain ⟨names, -, -, -, -, by_name, outside⟩ := bind_indexes_methods bind_greetings
  have third : greeter.methodId? "hash_code" = some 2 :=
    (names "hash_code" 2).2 ⟨.identity .hash, rfl, rfl⟩
  refine ⟨third, ?_, ?_⟩
  · rw [by_name, third]
  · rw [outside 4 (by decide)]
    rfl

end Dispatcher

end MessageDispatch
