import MessageDispatch.Proofs.BuiltIn
import MessageDispatch.Proofs.Table

/-!
# Extended registries

What is made of a registry by more registrations contains what the registry contained, and the types
registered (`Registry.contains_insertAll`). So the positional policy over an extended adapter
accepts what it accepted before, and so does the standard result policy. The named policy asks the
adapter first: a registration takes parameters over from the routes after it. A tag that is taken
over keeps its name, and nothing else of the claims depends on its route; a bundle or a target that
is taken over claims a name that nobody claimed before. Where that does not happen, acceptance goes
through the same claims (`NamedArguments.acceptParameter_withAdapter`), and a contract that binds
stays bound.
-/

namespace MessageDispatch

namespace Registry

variable {F : Ty → Type}

/-- Gives entries to types, one after the other. -/
def insertAll (r : Registry F) (entries : List ((t : Ty) × F t)) : Registry F :=
  entries.foldl (fun r e => r.insert e.1 e.2) r

theorem contains_insertAll (r : Registry F) (entries : List ((t : Ty) × F t)) (t : Ty) :
    (r.insertAll entries).contains t = true ↔ r.contains t = true ∨ t ∈ entries.map (·.1) := by
  induction entries generalizing r with
  | nil => simp [insertAll]
  | cons e entries ih =>
    have step : r.insertAll (e :: entries) = (r.insert e.1 e.2).insertAll entries := rfl
    rw [step, ih, contains_insert, List.map_cons, List.mem_cons, Bool.or_eq_true, beq_iff_eq]
    rw [or_assoc, or_left_comm]

end Registry

namespace Adapter

/-- One registration, in one of its three forms. -/
inductive Registration where
  | argument (t : Ty) (convert : Identity → t.Carrier → Argument)
  | component (t : Ty) (convert : Identity → t.Carrier → Text)
  | string (t : Ty) (convert : t.Carrier → String)

/-- The type that is registered. -/
def Registration.type : Registration → Ty
  | .argument t _ => t
  | .component t _ => t
  | .string t _ => t

/-- The conversion that is registered. -/
def Registration.conversion : (r : Registration) → Conversion r.type
  | .argument _ convert => convert
  | .component _ convert => fun id c => .component (convert id c)
  | .string _ convert => fun _ c => .component (.literal (convert c))

/-- Registers in a draft. -/
def Draft.register (d : Draft) : Registration → Draft
  | .argument t convert => d.argument t convert
  | .component t convert => d.component t convert
  | .string t convert => d.string t convert

/-- The adapter with further registrations. -/
def extend (a : Adapter) (rs : List Registration) : Adapter :=
  (rs.foldl Draft.register a.toDraft).build

theorem Draft.conversions_register (d : Draft) (r : Registration) :
    (d.register r).conversions = d.conversions.insert r.type r.conversion := by
  cases r <;> rfl

theorem conversions_foldl_register (d : Draft) (rs : List Registration) :
    (rs.foldl Draft.register d).conversions =
      d.conversions.insertAll (rs.map fun r => ⟨r.type, r.conversion⟩) := by
  induction rs generalizing d with
  | nil => rfl
  | cons r rs ih =>
    rw [List.foldl_cons, ih, d.conversions_register]
    rfl

/-- Supported are the types supported before and those registered. -/
theorem supports_extend_iff (a : Adapter) (rs : List Registration) (t : Ty) :
    (a.extend rs).supports t = true ↔ a.supports t = true ∨ t ∈ rs.map (·.type) := by
  have conversions : (a.extend rs).conversions =
      a.conversions.insertAll (rs.map fun r => ⟨r.type, r.conversion⟩) :=
    conversions_foldl_register a.toDraft rs
  rw [supports, conversions, Registry.contains_insertAll, List.map_map]
  rfl

end Adapter

namespace Transformer

/-- One registration: a type and its rendering. -/
abbrev Registration : Type :=
  (t : Ty) × (Text → t.Carrier)

/-- The transformer with further registrations. -/
def extend (r : Transformer) (rs : List Registration) : Transformer :=
  (rs.foldl (fun d e => d.register e.1 e.2) r.toDraft).build

theorem renderings_foldl_register (d : Draft) (rs : List Registration) :
    (rs.foldl (fun d e => d.register e.1 e.2) d).renderings = d.renderings.insertAll rs := by
  induction rs generalizing d with
  | nil => rfl
  | cons e rs ih =>
    rw [List.foldl_cons, ih]
    rfl

/-- Supported are the types supported before and those registered. -/
theorem supports_extend_iff (r : Transformer) (rs : List Registration) (t : Ty) :
    (r.extend rs).supports t = true ↔ r.supports t = true ∨ t ∈ rs.map (·.1) := by
  have renderings : (r.extend rs).renderings = r.renderings.insertAll rs :=
    renderings_foldl_register r.toDraft rs
  rw [supports, renderings, Registry.contains_insertAll]
  rfl

end Transformer

/-- The second adapter supports what the first one supports. -/
def Adapter.Covers (wider a : Adapter) : Prop :=
  ∀ t, a.supports t = true → wider.supports t = true

theorem Adapter.covers_extend (a : Adapter) (rs : List Registration) : (a.extend rs).Covers a :=
  fun t h => (a.supports_extend_iff rs t).2 (.inl h)

/-- Over an adapter that supports more, the positional policy accepts more. -/
theorem PositionalArguments.accept_of_covers {p : PositionalArguments} {wider : Adapter}
    (covers : wider.Covers p.adapter) {m : Signature} (h : p.accept m = .ok ()) :
    PositionalArguments.accept ⟨wider⟩ m = .ok () := by
  have supported := acceptFrom_eq_ok_iff.1 h
  apply acceptFrom_eq_ok_iff.2
  intro q hq
  exact covers q.type (supported q hq)

/-- A transformer with further registrations serves more return types. -/
theorem ResultPolicy.accept_extend {transformer : Transformer} (rs : List Transformer.Registration)
    {m : Signature} (h : (ResultPolicy.standard transformer).accept m = .ok ()) :
    (ResultPolicy.standard (transformer.extend rs)).accept m = .ok () := by
  have served :
      (transformer.supports m.returns || Translatable.isAssignableTo m.returns) = true := by
    by_contra unserved
    simp [accept, unserved] at h
  have wider : ((transformer.extend rs).supports m.returns ||
      Translatable.isAssignableTo m.returns) = true := by
    rw [Bool.or_eq_true] at served ⊢
    rcases served with supported | assignable
    · exact .inl ((transformer.supports_extend_iff rs _).2 (.inl supported))
    · exact .inr assignable
  exact if_pos wider

namespace NamedArguments

variable {p : NamedArguments} {wider : Adapter}

/-- The policy over another adapter. -/
def withAdapter (p : NamedArguments) (adapter : Adapter) : NamedArguments :=
  { p with adapter := adapter }

/-- The other adapter takes over a parameter that the policy passes through, as a bundle of tags or
as the target. -/
structure Captures (p : NamedArguments) (wider : Adapter) (q : Parameter) : Prop where
  supported : wider.supports q.type = true
  unsupported : p.adapter.supports q.type = false
  passed : p.route? q = some .bundle ∨ p.route? q = some .target

/-- A parameter with a route keeps it over a wider adapter, or goes by its name before and after. -/
theorem route?_withAdapter (covers : wider.Covers p.adapter) {q : Parameter}
    (hr : p.route? q ≠ none) (free : ¬ p.Captures wider q) :
    (p.withAdapter wider).route? q = p.route? q ∨
      p.TakesName q ∧ (p.withAdapter wider).TakesName q := by
  cases hs : p.adapter.supports q.type with
  | true =>
    left
    simp [route?, withAdapter, hs, covers _ hs]
  | false =>
    cases hw : wider.supports q.type with
    | false =>
      left
      simp [route?, withAdapter, hs, hw]
    | true =>
      right
      have registry : (p.withAdapter wider).route? q = some .registry := by
        rw [route?]
        exact if_pos hw
      obtain none | name | bundle | target := p.route_cases q
      · exact absurd none hr
      · exact ⟨name, .inl registry⟩
      · exact absurd ⟨hw, hs, .inl bundle⟩ free
      · exact absurd ⟨hw, hs, .inr target⟩ free

/-- A parameter with a route is accepted over a wider adapter as before, with the same claims. -/
theorem acceptParameter_withAdapter (covers : wider.Covers p.adapter) {q : Parameter}
    (hr : p.route? q ≠ none) (free : ¬ p.Captures wider q) (method : String) (claims : Claims)
    (i : Nat) :
    (p.withAdapter wider).acceptParameter method claims i q =
      p.acceptParameter method claims i q := by
  obtain same | ⟨before, after⟩ := route?_withAdapter covers hr free
  · simp only [acceptParameter, same]
    rfl
  · rw [before.acceptParameter, after.acceptParameter]
    rfl

/-- The loop of acceptance over a wider adapter. -/
theorem acceptFrom_withAdapter (covers : wider.Covers p.adapter) {method : String} {claims : Claims}
    {i : Nat} {qs : List Parameter} (free : ∀ q ∈ qs, ¬ p.Captures wider q)
    (h : p.acceptFrom method claims i qs = .ok ()) :
    (p.withAdapter wider).acceptFrom method claims i qs = .ok () := by
  induction qs generalizing claims i with
  | nil => rfl
  | cons q qs ih =>
    rw [acceptFrom] at h ⊢
    have hr : p.route? q ≠ none := by
      intro none
      simp [acceptParameter, none] at h
    rw [acceptParameter_withAdapter covers hr (free q List.mem_cons_self)]
    cases ha : p.acceptParameter method claims i q with
    | error e =>
      rw [ha] at h
      cases h
    | ok after =>
      rw [ha] at h
      exact ih (fun r hr => free r (List.mem_cons_of_mem q hr)) h

end NamedArguments

/-- Declared keys, some arguments, and results by a transformer. -/
def Configuration.declaring (arguments : ArgumentPolicy) (transformer : Transformer) :
    Configuration :=
  ⟨.declared, arguments, .standard transformer⟩

namespace Dispatcher

variable {contract : Contract} {transformer : Transformer} {address : UInt64}

/-- A contract stays bound when its message methods are still accepted by the arguments. -/
theorem exists_bind_extend {arguments wider : ArgumentPolicy}
    (kept : ∀ m ∈ contract.methods, m.isMessage = true →
      arguments.accept m.signature = .ok () → wider.accept m.signature = .ok ())
    (rs : List Transformer.Registration)
    (h : ∃ d, bind contract (.declaring arguments transformer) address = .ok d) :
    ∃ d, bind contract (.declaring wider (transformer.extend rs)) address = .ok d := by
  have accepted := exists_bind_iff.1 h
  apply exists_bind_iff.2
  intro m hm message
  obtain ⟨keys, args, results⟩ := Configuration.accept_eq_ok_iff.1 (accepted m hm message)
  exact Configuration.accept_eq_ok_iff.2
    ⟨keys, kept m hm message args, ResultPolicy.accept_extend rs results⟩

/-- **Registering more unbinds no contract, unless it captures a parameter.** A contract that binds
with positional arguments binds over every extension of the adapter and of the transformer. With
named arguments it does so too, if no parameter of a message method that is passed through as a
bundle or as the target has a type that was newly registered. -/
theorem bind_extended (contract : Contract) (adapter : Adapter) (transformer : Transformer)
    (conversions : List Adapter.Registration) (renderings : List Transformer.Registration)
    (address : UInt64) :
    ((∃ d, bind contract (.declaring (.positional ⟨adapter⟩) transformer) address = .ok d) →
      ∃ d, bind contract (.declaring (.positional ⟨adapter.extend conversions⟩)
        (transformer.extend renderings)) address = .ok d) ∧
    ∀ naming : Naming,
      (∃ d, bind contract (.declaring (.named ⟨adapter, naming⟩) transformer) address = .ok d) →
      (∀ m ∈ contract.methods, m.isMessage = true → ∀ q ∈ m.signature.parameters,
        (adapter.extend conversions).supports q.type = true → adapter.supports q.type = false →
          NamedArguments.route? ⟨adapter, naming⟩ q ≠ some .bundle ∧
            NamedArguments.route? ⟨adapter, naming⟩ q ≠ some .target) →
      ∃ d, bind contract (.declaring (.named ⟨adapter.extend conversions, naming⟩)
        (transformer.extend renderings)) address = .ok d := by
  have covers : (adapter.extend conversions).Covers adapter := adapter.covers_extend conversions
  constructor
  · intro h
    refine exists_bind_extend ?_ renderings h
    intro m _ _ accepted
    exact PositionalArguments.accept_of_covers covers accepted
  · intro naming h uncaptured
    refine exists_bind_extend ?_ renderings h
    intro m hm message accepted
    have free : ∀ q ∈ m.signature.parameters,
        ¬ NamedArguments.Captures ⟨adapter, naming⟩ (adapter.extend conversions) q := by
      intro q hq captures
      obtain ⟨bundle, target⟩ :=
        uncaptured m hm message q hq captures.supported captures.unsupported
      exact captures.passed.elim bundle target
    exact NamedArguments.acceptFrom_withAdapter (p := ⟨adapter, naming⟩) covers free accepted

/-- A note on a text, with a mark, a glossary of tags, and somebody whom it is for. -/
def note : Method :=
  .message
    { name := "note"
      key := some "message.note"
      parameters :=
        [{ type := .string, name := some "text" }, { type := .tag, name := some "mark" },
          { type := .tagBundle, identifier := some "glossary" },
          { type := .host "Player", asTarget := true }] }

/-- The note, and the identity methods. -/
def notes : Contract where
  name := "Notes"
  methods := Contract.withIdentity [note]
  distinct := by decide

/-- A conversion that takes tags over from their own route. -/
def marks : List Adapter.Registration :=
  [.string .tag fun _ => "mark"]

/-- Conversions for the rest of what a note is given. -/
def glossaries : List Adapter.Registration :=
  [.string .tagBundle fun _ => "glossary", .component (.host "Player") fun _ name => .literal name]

/-- Tags may be captured, in the named style; in the positional style anything may be added. -/
theorem bind_notes_extended :
    (∃ d, bind notes (.declaring (.named ⟨Adapter.standard.extend marks, .declared⟩)
      (Transformer.empty.extend [⟨.string, fun _ => ""⟩])) 0x1f = .ok d) ∧
    ∃ d, bind notes (.declaring
      (.positional ⟨(Adapter.standard.extend (marks ++ glossaries)).extend glossaries⟩)
      (Transformer.empty.extend [⟨.string, fun _ => ""⟩])) 0x1f = .ok d := by
  constructor
  · have named := (bind_extended notes .standard .empty marks [⟨.string, fun _ => ""⟩] 0x1f).2
    refine named .declared ⟨_, rfl⟩ ?_
    intro m hm message
    have only : m = note := by
      rcases List.mem_cons.1 hm with rfl | hm
      · rfl
      · have others : ∀ n ∈ notes.methods.tail, n.isMessage = false := by decide
        rw [others m hm] at message
        cases message
    subst only
    decide
  · have positional := (bind_extended notes (Adapter.standard.extend (marks ++ glossaries)) .empty
      glossaries [⟨.string, fun _ => ""⟩] 0x1f).1
    exact positional ⟨_, rfl⟩

/-- A captured bundle claims a name, and has none. -/
example : failure? (bind notes (.declaring
    (.named ⟨Adapter.standard.extend (marks ++ glossaries), .declared⟩) .empty) 0x1f) =
      some (.unresolvableName "note" 2 "glossary") :=
  rfl

end Dispatcher

end MessageDispatch
