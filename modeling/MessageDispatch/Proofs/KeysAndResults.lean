import Mathlib.Data.List.TakeWhile
import MessageDispatch.Proofs.BuiltIn

/-!
# What acceptance foretells of keys and results

A policy is asked twice: about a method when the contract is bound, and in each call. The result
policies decide both by `ResultPolicy.Serves`, so they fail no call of an accepted method and serve
none of a rejected one. The declared key policy does not: it rejects blank keys, and resolves them.
The two halves of it agree on the methods whose key, if there is one, is not blank.
-/

namespace MessageDispatch

theorem dropWhile_all_iff {α : Type} {p : α → Bool} {xs : List α} :
    (∀ x ∈ xs.dropWhile p, p x = true) ↔ ∀ x ∈ xs, p x = true := by
  induction xs with
  | nil => simp
  | cons x xs ih =>
    by_cases hx : p x = true
    · simp [hx, ih]
    · simp [hx]

/-- Trimming leaves nothing of a text of blanks, and something of every other. -/
theorem trim_eq_empty_iff {s : String} : trim s = "" ↔ isBlankText s = true := by
  have nothing : trim s = "" ↔ trimList s.toList = [] := by
    rw [trim, ← String.toList_inj]
    simp
  rw [nothing, trimList, List.reverse_eq_nil_iff, List.dropWhile_eq_nil_iff, isBlankText,
    List.all_eq_true]
  simp only [List.mem_reverse, dropWhile_all_iff]

namespace KeyPolicy

/-- The declared policy resolves every declared key to itself. -/
theorem resolve_declared_eq_ok_iff {c : Call} {key : String} :
    declared.resolve c = .ok key ↔ c.method.key = some key := by
  unfold resolve
  cases c.method.key <;> simp

theorem resolve_declared_eq_error_iff {c : Call} {e : InvocationError} :
    declared.resolve c = .error e ↔ c.method.key = none ∧ e = .missingKey c.method.name := by
  unfold resolve
  cases c.method.key <;> simp [@eq_comm _ e]

/-- The declared policy accepts the methods with a key that is not blank. -/
theorem accept_declared_eq_ok_iff {m : Signature} :
    declared.accept m = .ok () ↔ ∃ key, m.key = some key ∧ trim key ≠ "" := by
  unfold accept
  cases m.key with
  | none => simp
  | some key => simp [trim_eq_empty_iff]

theorem accept_declared_eq_error_iff {m : Signature} {e : ValidationError} :
    declared.accept m = .error e ↔
      (∀ key, m.key = some key → trim key = "") ∧ e = .missingKey m.name := by
  unfold accept
  cases m.key with
  | none => simp [@eq_comm _ e]
  | some key =>
    by_cases hb : isBlankText key = true <;> simp [trim_eq_empty_iff, hb, @eq_comm _ e]

/-- Acceptance of the method foretells the key of the call: there is one if the method is accepted,
and only then, and it is the declared key and not blank. -/
structure Mirrors (p : KeyPolicy) (c : Call) : Prop where
  resolves : (∃ key, p.resolve c = .ok key) ↔ p.accept c.method = .ok ()
  declares : ∀ key, p.resolve c = .ok key → c.method.key = some key ∧ trim key ≠ ""

/-- **What acceptance foretells of declared keys.** The key of a call is the declared one, as it is,
and missing only where none is declared. Acceptance foretells it of every method but those that
declare a blank key. -/
theorem declared_mirrors_iff (c : Call) :
    (∀ key, declared.resolve c = .ok key ↔ c.method.key = some key) ∧
    (∀ e, declared.resolve c = .error e ↔
      c.method.key = none ∧ e = .missingKey c.method.name) ∧
    (declared.accept c.method = .ok () ↔ ∃ key, c.method.key = some key ∧ trim key ≠ "") ∧
    (∀ e, declared.accept c.method = .error e ↔
      (∀ key, c.method.key = some key → trim key = "") ∧ e = .missingKey c.method.name) ∧
    (declared.Mirrors c ↔ ∀ key, c.method.key = some key → trim key ≠ "") := by
  refine ⟨fun _ => resolve_declared_eq_ok_iff, fun _ => resolve_declared_eq_error_iff,
    accept_declared_eq_ok_iff, fun _ => accept_declared_eq_error_iff, ?_⟩
  constructor
  · intro mirrors key hk
    exact (mirrors.declares key (resolve_declared_eq_ok_iff.2 hk)).2
  · intro notBlank
    have declares : ∀ key, declared.resolve c = .ok key →
        c.method.key = some key ∧ trim key ≠ "" := by
      intro key h
      have hk := resolve_declared_eq_ok_iff.1 h
      exact ⟨hk, notBlank key hk⟩
    refine ⟨?_, declares⟩
    rw [accept_declared_eq_ok_iff]
    constructor
    · rintro ⟨key, h⟩
      exact ⟨key, declares key h⟩
    · rintro ⟨key, hk, -⟩
      exact ⟨key, resolve_declared_eq_ok_iff.2 hk⟩

/-- A call of a method whose key is an em space and a space. -/
def blankGreeting : Call where
  method := { name := "greet", key := some "\u2003 " }
  values := []
  identity := ⟨[0]⟩
  arity := rfl

/-- A blank key is resolved, though the method is rejected. -/
theorem resolve_blankGreeting :
    declared.accept blankGreeting.method = .error (.missingKey "greet") ∧
      declared.resolve blankGreeting = .ok "\u2003 " ∧ ¬ declared.Mirrors blankGreeting := by
  have rejected : declared.accept blankGreeting.method = .error (.missingKey "greet") := by
    decide +kernel
  refine ⟨rejected, rfl, ?_⟩
  intro mirrors
  have accepted := mirrors.resolves.1 ⟨_, rfl⟩
  rw [rejected] at accepted
  cases accepted

end KeyPolicy

namespace ResultPolicy

/-- What a built-in policy makes of a node: what its rendering makes of it as a text, and without a
rendering the node itself, bare or as a text. -/
theorem result?_eq_some_iff {p : ResultPolicy} {n : Translatable} {t : Ty} {v : Value} :
    p.result? n t = some v ↔
      (∃ convert, p.rendering? t = some convert ∧ v = .of t (convert (.translatable n))) ∨
        p.rendering? t = none ∧
          (t = .translatable ∧ v = .translatable n ∨ t = .text ∧ v = .text (.translatable n)) := by
  unfold result?
  cases p.rendering? t with
  | some convert => simp [eq_comm]
  | none =>
    unfold Translatable.assign?
    by_cases bare : t = .translatable
    · simp [bare, eq_comm]
    · by_cases wrapped : t = .text <;> simp [bare, wrapped, eq_comm]

/-- **Acceptance foretells results.** A built-in policy accepts a method exactly when it transforms
some node in a call of it, and then it transforms every node. What it makes has the declared type,
and comes from the rendering of that type if there is one, even for the types that can hold the node
itself. Where it fails, the two errors name the method and its return type. -/
theorem transform_mirrors_accept {p : ResultPolicy} (hb : p.BuiltIn) (c : Call) :
    (p.accept c.method = .ok () ↔ p.Serves c.method.returns) ∧
    (∀ n, (∃ v, p.transform n c = .ok v) ↔ p.accept c.method = .ok ()) ∧
    (∀ n v, p.transform n c = .ok v → v.ty = c.method.returns) ∧
    (∀ n v, p.transform n c = .ok v ↔
      (∃ convert, p.rendering? c.method.returns = some convert ∧
          v = .of c.method.returns (convert (.translatable n))) ∨
        p.rendering? c.method.returns = none ∧
          (c.method.returns = .translatable ∧ v = .translatable n ∨
            c.method.returns = .text ∧ v = .text (.translatable n))) ∧
    (∀ n e, p.transform n c = .error e ↔ p.accept c.method ≠ .ok () ∧
      e = .unsupportedReturnType c.method.name c.method.returns) ∧
    (∀ e, p.accept c.method = .error e ↔ ¬ p.Serves c.method.returns ∧
      e = p.rejection c.method) := by
  have made : ∀ n v, p.transform n c = .ok v ↔ p.result? n c.method.returns = some v := by
    intro n v
    rw [transform_eq hb]
    cases p.result? n c.method.returns <;> simp
  have served : ∀ n, (p.result? n c.method.returns).isSome = true ↔ p.accept c.method = .ok () := by
    intro n
    rw [isSome_result?, accept_eq_ok_iff hb]
  refine ⟨accept_eq_ok_iff hb, ?_, ?_, ?_, ?_, ?_⟩
  · intro n
    rw [← served n, Option.isSome_iff_exists]
    simp only [made]
  · intro n v h
    exact ty_of_result? ((made n v).1 h)
  · intro n v
    rw [made, result?_eq_some_iff]
  · intro n e
    rw [transform_eq hb, Ne, ← served n]
    cases p.result? n c.method.returns <;> simp [eq_comm]
  · intro e
    rw [accept_eq hb]
    by_cases h : p.Serves c.method.returns <;> simp [h, eq_comm]

/-- Texts are put in brackets; there is no rendering as a string. -/
def bracketing : Transformer :=
  (Transformer.Draft.empty.register .text fun t => .composite [.literal "[", t, .literal "]"]).build

/-- A call of a method that returns values of a type. -/
def label (returns : Ty) : Call where
  method := { name := "label", returns := returns }
  values := []
  identity := ⟨[0]⟩
  arity := rfl

/-- The rendering of texts goes before the node as a text, the bare node stays as it is, and strings
have no rendering. -/
theorem transform_label :
    (standard bracketing).BuiltIn ∧
      (standard bracketing).transform (.mk "hello" []) (label .text) =
        .ok (.text (.composite
          [.literal "[", .translatable (.mk "hello" []), .literal "]"])) ∧
      (standard bracketing).transform (.mk "hello" []) (label .translatable) =
        .ok (.translatable (.mk "hello" [])) ∧
      (standard bracketing).transform (.mk "hello" []) (label .string) =
        .error (.unsupportedReturnType "label" .string) := by
  have builtIn : (standard bracketing).BuiltIn := trivial
  have rejected : (standard bracketing).accept (label .string).method =
      .error (.unsupportedReturnType "label" .string) := rfl
  obtain ⟨-, -, -, texts, -, -⟩ := transform_mirrors_accept builtIn (label .text)
  obtain ⟨-, -, -, nodes, -, -⟩ := transform_mirrors_accept builtIn (label .translatable)
  obtain ⟨-, -, -, -, failures, -⟩ := transform_mirrors_accept builtIn (label .string)
  refine ⟨builtIn, ?_, ?_, ?_⟩
  · exact (texts _ _).2 (.inl ⟨fun t => .composite [.literal "[", t, .literal "]"], rfl, rfl⟩)
  · exact (nodes _ _).2 (.inr ⟨rfl, .inl ⟨rfl, rfl⟩⟩)
  · exact (failures _ _).2 ⟨by simp [rejected], rfl⟩

end ResultPolicy

end MessageDispatch
