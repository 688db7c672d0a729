import MessageDispatch.Configuration
import MessageDispatch.Proofs.NamedRun

/-!
# Built-in policies

The policies that come with the library, as opposed to custom ones: declared keys, positional and
named arguments under any number of decorators, and the two ways of making results. Of a method that
such policies accept, key and result never fail, and the arguments fail on the caller's faults only.
-/

namespace MessageDispatch

/-- Positional or named arguments, decorated any number of times. -/
def ArgumentPolicy.BuiltIn : ArgumentPolicy → Prop
  | .positional _ => True
  | .named _ => True
  | .placeholders base _ => base.BuiltIn
  | .custom .. => False

/-- The no-operation policy, or the standard one over any transformer. -/
def ResultPolicy.BuiltIn : ResultPolicy → Prop
  | .noOperation => True
  | .standard _ => True
  | .custom .. => False

/-- No policy of the configuration is a custom one. -/
structure Configuration.BuiltIn (cfg : Configuration) : Prop where
  keys : cfg.keys = .declared
  arguments : cfg.arguments.BuiltIn
  results : cfg.results.BuiltIn

theorem Configuration.accept_eq_ok_iff {cfg : Configuration} {m : Signature} :
    cfg.accept m = .ok () ↔
      cfg.keys.accept m = .ok () ∧ cfg.arguments.accept m = .ok () ∧
        cfg.results.accept m = .ok () := by
  unfold accept
  cases cfg.keys.accept m with
  | error e => simp
  | ok => cases cfg.arguments.accept m <;> simp

theorem KeyPolicy.key_of_accept {m : Signature} (h : KeyPolicy.declared.accept m = .ok ()) :
    ∃ key, m.key = some key ∧ isBlankText key = false := by
  simp only [accept] at h
  cases hk : m.key with
  | none => simp [hk] at h
  | some key =>
    cases hb : isBlankText key with
    | true => simp [hk, hb] at h
    | false => exact ⟨key, rfl, hb⟩

namespace ArgumentPolicy

/-- The policy takes the parameter's argument as the target. -/
def takesTarget : ArgumentPolicy → Parameter → Bool
  | .positional _, _ => false
  | .named p, q => p.takesTarget q
  | .placeholders base _, q => base.takesTarget q
  | .custom .., _ => false

/-- A decorator fails as its base does, and only then. -/
theorem failure?_placeholders (base : ArgumentPolicy) (b : SourceBinding) (c : Call)
    (s : Installation) :
    failure? ((placeholders base b).adapt c s).1 = failure? (base.adapt c s).1 := by
  rw [adapt]
  rcases base.adapt c s with ⟨e | inputs, s'⟩ <;> rfl

/-- Arguments of an accepted method fail at the first that its parameter does not admit. -/
theorem failure?_adapt {p : ArgumentPolicy} (hb : p.BuiltIn) {c : Call}
    (h : p.accept c.method = .ok ()) (s : Installation) :
    failure? (p.adapt c s).1 =
      c.arguments.findSome? (·.fault? p.takesTarget c.method.name) := by
  induction p with
  | positional p => exact PositionalArguments.failure?_inputs h c.values c.identity
  | named p => exact NamedArguments.failure?_inputs (.refl .none) h c.values c.identity
  | placeholders base b ih =>
    rw [failure?_placeholders]
    exact ih hb h
  | custom => exact hb.elim

end ArgumentPolicy

theorem Value.exists_of_ty_eq {v : Value} {t : Ty} (h : v.ty = t) : ∃ x, v = .of t x := by
  subst h
  exact ⟨v.content, v.of_content.symm⟩

namespace ResultPolicy

/-- The rendering that the policy has for a return type. -/
def rendering? : ResultPolicy → (t : Ty) → Option (Text → t.Carrier)
  | .standard transformer, t => transformer.renderings.find? t
  | _, _ => none

/-- What the policy makes of a node for a return type: its rendering, or the node itself. -/
def Yields (p : ResultPolicy) (n : Translatable) (t : Ty) (x : t.Carrier) : Prop :=
  match p.rendering? t with
  | some convert => x = convert (.translatable n)
  | none => n.assign? t = some (.of t x)

/-- The value that a built-in policy makes of a node for a return type. -/
def result? (p : ResultPolicy) (n : Translatable) (t : Ty) : Option Value :=
  match p.rendering? t with
  | some convert => some (.of t (convert (.translatable n)))
  | none => n.assign? t

/-- The return types that a policy serves: those it has a rendering for, and those that can hold the
node itself. -/
def Serves (p : ResultPolicy) (t : Ty) : Prop :=
  (p.rendering? t).isSome = true ∨ t = .translatable ∨ t = .text

instance (p : ResultPolicy) (t : Ty) : Decidable (p.Serves t) :=
  inferInstanceAs (Decidable (_ ∨ _ ∨ _))

/-- The error with which a built-in policy rejects a method. -/
def rejection : ResultPolicy → Signature → ValidationError
  | .noOperation, m => .notNodeSupertype m.name m.returns
  | _, m => .unsupportedReturnType m.name m.returns

theorem isSome_result? (p : ResultPolicy) (n : Translatable) (t : Ty) :
    (p.result? n t).isSome = true ↔ p.Serves t := by
  unfold result? Serves
  cases p.rendering? t with
  | some convert => simp
  | none => simp [n.isSome_assign?, Translatable.isAssignableTo]

/-- What is made for a return type is of that type. -/
theorem ty_of_result? {p : ResultPolicy} {n : Translatable} {t : Ty} {v : Value}
    (h : p.result? n t = some v) : v.ty = t := by
  unfold result? at h
  cases hr : p.rendering? t with
  | some convert =>
    simp only [hr, Option.some.injEq] at h
    rw [← h, Value.ty_of]
  | none =>
    simp only [hr] at h
    exact Translatable.ty_of_assign? h

theorem yields_iff {p : ResultPolicy} {n : Translatable} {t : Ty} {x : t.Carrier} :
    p.Yields n t x ↔ p.result? n t = some (.of t x) := by
  unfold Yields result?
  cases p.rendering? t with
  | some convert => simp [eq_comm]
  | none => rfl

/-- A built-in policy transforms to its result, and fails where it has none. -/
theorem transform_eq {p : ResultPolicy} (hb : p.BuiltIn) (n : Translatable) (c : Call) :
    p.transform n c =
      match p.result? n c.method.returns with
      | some v => .ok v
      | none => .error (.unsupportedReturnType c.method.name c.method.returns) := by
  cases p with
  | custom => exact hb.elim
  | noOperation => rfl
  | standard transformer =>
    unfold transform result? rendering?
    cases hf : transformer.renderings.find? c.method.returns with
    | some convert =>
      simp [Transformer.supports, Registry.contains, Transformer.transform, hf]
    | none =>
      simp only [Transformer.supports, Registry.contains, hf, Option.isSome_none,
        if_neg Bool.false_ne_true]
      rfl

/-- A built-in policy accepts the methods whose return types it serves. -/
theorem accept_eq {p : ResultPolicy} (hb : p.BuiltIn) (m : Signature) :
    p.accept m = if p.Serves m.returns then .ok () else .error (p.rejection m) := by
  cases p with
  | custom => exact hb.elim
  | noOperation =>
    have served : Translatable.isAssignableTo m.returns = true ↔ noOperation.Serves m.returns := by
      simp [Serves, rendering?, Translatable.isAssignableTo]
    simp only [accept, served, rejection]
  | standard transformer =>
    have served : (transformer.supports m.returns || Translatable.isAssignableTo m.returns) = true ↔
        (standard transformer).Serves m.returns := by
      simp [Serves, rendering?, Translatable.isAssignableTo, Transformer.supports,
        Registry.contains]
    simp only [accept, served, rejection]

theorem accept_eq_ok_iff {p : ResultPolicy} (hb : p.BuiltIn) {m : Signature} :
    p.accept m = .ok () ↔ p.Serves m.returns := by
  rw [accept_eq hb]
  by_cases h : p.Serves m.returns <;> simp [h]

/-- Results of an accepted method are made for every node, and are of the declared type. -/
theorem transform_of_accept {p : ResultPolicy} (hb : p.BuiltIn) {c : Call}
    (h : p.accept c.method = .ok ()) (n : Translatable) :
    ∃ x, p.transform n c = .ok (.of c.method.returns x) ∧ p.Yields n c.method.returns x := by
  have served := (p.isSome_result? n c.method.returns).2 ((accept_eq_ok_iff hb).1 h)
  obtain ⟨v, hv⟩ := Option.isSome_iff_exists.1 served
  obtain ⟨x, rfl⟩ := Value.exists_of_ty_eq (ty_of_result? hv)
  refine ⟨x, ?_, yields_iff.2 hv⟩
  rw [transform_eq hb, hv]

end ResultPolicy

end MessageDispatch
