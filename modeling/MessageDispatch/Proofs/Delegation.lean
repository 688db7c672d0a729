import Mathlib.Logic.Function.Iterate
import MessageDispatch.Proofs.Neighbours

/-!
# Delegation between provided methods

A provided method can hand its calls on to another method by its name, with the values that it was
called with. One such step changes nothing of an outcome but the method and the stage that an error
names (`Dispatcher.invoke_of_handsOn`), so neither does a chain of them (`invoke_of_delegates`). A
chain that ends at a message method gives the outcome of that method, whose call is the innermost of
the calls nested in one another: what it builds is told apart by the identity of that call. Such a
chain has no cycles, since names lead to one method each.
-/

namespace MessageDispatch

namespace Contract

/-- A provided method of the contract that hands its calls, of `count` values each, on to the method
of a name. -/
structure HandsOn (c : Contract) (count : Nat) (m : Method) (next : String) : Prop where
  member : m ∈ c.methods
  count : m.signature.parameters.length = count
  returns : m.signature.returns = .text
  body : ∃ id, m.kind = .provided (.delegate id next)

/-- Methods that each hand their calls on to the next, and the last one to the target; all have as
many parameters as the target. -/
inductive Delegates (c : Contract) (target : Method) : List Method → Prop where
  | last {m : Method} (handsOn : c.HandsOn target.signature.parameters.length m target.name) :
      Delegates c target [m]
  | next {m n : Method} {ms : List Method}
      (handsOn : c.HandsOn target.signature.parameters.length m n.name)
      (rest : Delegates c target (n :: ms)) : Delegates c target (m :: n :: ms)

end Contract

/-- The outcome of a method that hands its calls on: an error keeps its cause, and says that this
method made no result. -/
def Outcome.relayed {α : Type} (name : String) (o : Outcome α) : Outcome α :=
  (o.1.map (·.mapError fun e => ⟨name, .resultTransformed, e.source⟩), o.2)

theorem Outcome.relayed_relayed {α : Type} (name inner : String) (o : Outcome α) :
    (o.relayed inner).relayed name = o.relayed name := by
  rcases o with ⟨_ | e | x, after⟩ <;> rfl

namespace Dispatcher

variable {contract : Contract} {cfg : Configuration} {address : UInt64} {d : Dispatcher}

/-- One step of delegation. -/
theorem invoke_of_handsOn (hd : bind contract cfg address = .ok d) {m : Method} {next : String}
    {values : List (Option Value)} (h : contract.HandsOn values.length m next) (depth : Nat)
    (id : Identity) (s : Installation) :
    d.invoke (depth + 1) id m.name .text values s =
      (d.invoke depth (id.part 0) next .text values s).relayed m.name := by
  obtain ⟨own, body⟩ := h.body
  let call : Call := ⟨m.signature, values, id, h.count.symm⟩
  have called : Call.of? id m.signature values = .ok call := dif_pos h.count.symm
  rw [invoke_eq hd h.member, invokeRoute, if_pos h.returns.symm, called, Configuration.route, body]
  simp only [runRoute, Body.delegate, Program.run, nested]
  rcases d.invoke depth (id.part 0) next .text values s with ⟨_ | e | text, after⟩
  · rfl
  · rfl
  · rfl

/-- A chain of delegation. -/
theorem invoke_of_delegates (hd : bind contract cfg address = .ok d) {target m : Method}
    {ms : List Method} (h : contract.Delegates target (m :: ms)) {values : List (Option Value)}
    (count : values.length = target.signature.parameters.length) (depth : Nat) (id : Identity)
    (s : Installation) :
    d.invoke (depth + ms.length + 1) id m.name .text values s =
      (d.invoke depth ((·.part 0)^[ms.length + 1] id) target.name .text values s).relayed
        m.name := by
  generalize hchain : m :: ms = chain at h
  induction h generalizing m ms id with
  | last handsOn =>
    cases hchain
    exact invoke_of_handsOn hd (count ▸ handsOn) depth id s
  | @next m n ms handsOn _ ih =>
    cases hchain
    rw [invoke_of_handsOn hd (count ▸ handsOn), List.length_cons, ← Nat.add_assoc,
      ih (id.part 0) rfl, Outcome.relayed_relayed, ← Function.iterate_succ_apply]

/-- Calls of a message method have an outcome. -/
theorem exists_outcome_of_message (hd : bind contract cfg address = .ok d) {m : Method}
    (hm : m ∈ contract.methods) (hk : m.kind = .message) (depth : Nat) (id : Identity)
    (requested : Ty) (values : List (Option Value)) (s : Installation) :
    ∃ outcome after, d.invoke depth id m.name requested values s = (some outcome, after) := by
  rw [invoke_eq hd hm, Configuration.route, hk, invokeRoute]
  split
  · cases Call.of? id m.signature values with
    | error e => exact ⟨_, _, rfl⟩
    | ok c =>
      simp only [runRoute_message]
      rcases cfg.pipeline.run c s with ⟨e | v, after⟩
      · exact ⟨_, _, rfl⟩
      · exact ⟨_, _, rfl⟩
  · exact ⟨_, _, rfl⟩

/-- **Delegation is transparent.** Where provided methods hand their calls on, one to the next and
the last to a message method, a call of the first gives the text that the message method gives, or
fails with the cause that it fails with, as a call of the first that made no result. -/
theorem invoke_through_delegates (hd : bind contract cfg address = .ok d)
    {first target : Method} {rest : List Method} (chain : contract.Delegates target (first :: rest))
    (hm : target ∈ contract.methods) (message : target.kind = .message)
    {values : List (Option Value)} (count : values.length = target.signature.parameters.length)
    {depth : Nat} (deep : rest.length < depth) (direct : Nat) (id : Identity) (s : Installation) :
    ∃ outcome after,
      d.invoke direct ((·.part 0)^[rest.length + 1] id) target.name .text values s =
          (some outcome, after) ∧
        (d.invoke depth id first.name .text values s).2 = after ∧
        (∀ text, (d.invoke depth id first.name .text values s).1 = some (.ok text) ↔
          outcome = .ok text) ∧
        ∀ e, outcome = .error e →
          (d.invoke depth id first.name .text values s).1 =
            some (.error ⟨first.name, .resultTransformed, e.source⟩) := by
  obtain ⟨below, rfl⟩ : ∃ below, depth = below + rest.length + 1 :=
    ⟨depth - rest.length - 1, by omega⟩
  obtain ⟨outcome, after, innermost⟩ := exists_outcome_of_message hd hm message direct
    ((·.part 0)^[rest.length + 1] id) .text values s
  have relayed := invoke_of_delegates hd chain count below id s
  rw [invoke_shared hd hd hm hm message below direct, innermost] at relayed
  refine ⟨outcome, after, innermost, ?_⟩
  rw [relayed]
  cases outcome with
  | error e =>
    refine ⟨rfl, fun text => by simp [Outcome.relayed, Except.mapError], fun f hf => ?_⟩
    cases hf
    rfl
  | ok text =>
    refine ⟨rfl, fun text => by simp [Outcome.relayed, Except.mapError], fun f hf => ?_⟩
    cases hf

/-- A method with the parameters of the greeting that hands its calls on. -/
def relay (name next : String) : Method :=
  ⟨{ greeting.signature with name := name, key := none }, .provided (.delegate ⟨[1]⟩ next)⟩

/-- A hail that is a salute, which is a greeting. -/
def relays : Contract where
  name := "Relays"
  methods := Contract.withIdentity [relay "hail" "salute", greeting, relay "salute" "greeting"]
  distinct := by decide

theorem bind_relays : bind relays {} 0x1f = .ok (layOut relays {} 0x1f) :=
  rfl

theorem delegates_relays :
    relays.Delegates greeting [relay "hail" "salute", relay "salute" "greeting"] := by
  have hail : relays.HandsOn 2 (relay "hail" "salute") "salute" :=
    ⟨List.mem_cons_self, rfl, rfl, _, rfl⟩
  have salute : relays.HandsOn 2 (relay "salute" "greeting") "greeting" :=
    ⟨List.mem_cons_of_mem _ (List.mem_cons_of_mem _ List.mem_cons_self), rfl, rfl, _, rfl⟩
  exact .next hail (.last salute)

theorem invoke_hail :
    ((layOut relays {} 0x1f).invoke 2 ⟨[0]⟩ "hail" .text
        [some (.string "Ada"), some (.host "Player" "P1")] .start).1 =
        some (.ok (.translatable ⟨"message.greeting",
          [.named "name" (.component (.literal "Ada")),
            .target ⟨.host "Player" "P1", ⟨[1, 0, 0, 0]⟩⟩]⟩)) ∧
      ((layOut relays {} 0x1f).invoke 2 ⟨[0]⟩ "hail" .text [none, none] .start).1 =
        some (.error ⟨"hail", .resultTransformed, .nullArgument "greeting" "name"⟩) := by
  have hm : greeting ∈ relays.methods := List.mem_cons_of_mem _ List.mem_cons_self
  have deep : [relay "salute" "greeting"].length < 2 := by decide
  constructor
  · have given : [some (Value.string "Ada"), some (Value.host "Player" "P1")].length =
        greeting.signature.parameters.length := rfl
    obtain ⟨outcome, after, direct, -, served, -⟩ :=
      invoke_through_delegates bind_relays delegates_relays hm rfl given deep 0 ⟨[0]⟩ .start
    cases direct
    exact (served _).2 rfl
  · have nulls : [none, (none : Option Value)].length = greeting.signature.parameters.length := rfl
    obtain ⟨outcome, after, direct, -, -, failed⟩ :=
      invoke_through_delegates bind_relays delegates_relays hm rfl nulls deep 0 ⟨[0]⟩ .start
    cases direct
    exact failed _ rfl

end Dispatcher

end MessageDispatch
