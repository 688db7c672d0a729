import MessageDispatch.Proofs.BuiltIn
import MessageDispatch.Proofs.NamedPlaces

/-!
# Types of arguments

A built-in policy that serves a call has looked at the type of every value: each is of the type that
its parameter declares, with one exception. A ready-made target stands for itself whatever
parameter it is passed for (`Parameter.toTarget`), so where a parameter of another type is routed as
the target, a ready-made target goes through (`ArgumentPolicy.Strays`).
-/

namespace MessageDispatch

/-- Every value of the call is of the type that its parameter declares. -/
def Call.Typed (c : Call) : Prop :=
  ∀ a ∈ c.arguments, ∀ v, a.value = some v → v.ty = a.parameter.type

/-- A ready-made target is passed for a parameter of another type that is routed as the target. -/
def ArgumentPolicy.Strays (p : ArgumentPolicy) (a : Supplied) : Prop :=
  p.takesTarget a.parameter = true ∧ a.parameter.type ≠ .target ∧ ∃ t, a.value = some (.target t)

/-- Of the targets that a parameter yields, those are unexpected that are passed ready-made for a
parameter of another type. -/
theorem Parameter.toTarget_typed_iff {q : Parameter} {id : Identity} {v : Value} {t : Target}
    (h : q.toTarget id v = some t) :
    q.isTarget = true ∧ v.ty = q.type ↔ ¬ (v.ty = .target ∧ q.type ≠ .target) := by
  obtain rfl | ⟨other, declared, same, -⟩ := toTarget_eq_some_iff.1 h
  · by_cases ht : q.type = .target
    · simp [isTarget, Value.ty, ht]
    · simp [Value.ty, ht, Ne.symm ht]
  · simp [isTarget, declared, same, same ▸ other]

/-- A value that is accepted is of the declared type, or a target that strays. -/
theorem ArgumentPolicy.typed_iff_of_accepts {p : ArgumentPolicy} {a : Supplied}
    (h : a.parameter.Accepts p.takesTarget a.value) :
    (∀ v, a.value = some v → v.ty = a.parameter.type) ↔ ¬ p.Strays a := by
  constructor
  · rintro typed ⟨-, other, t, ht⟩
    exact other (typed _ ht).symm
  · intro stays v hv
    rw [hv] at h
    obtain admitted | ⟨target, t, ht⟩ := h
    · exact admitted
    · obtain rfl := Option.some.inj ht
      by_contra mistyped
      exact stays ⟨target, fun declared => mistyped declared.symm, t, hv⟩

namespace PositionalArguments

variable {p : PositionalArguments} {id : Identity} {method : String}

/-- The step of positional adaptation takes what the parameter admits. -/
theorem accepts_of_input {a : Supplied} {i : Input} (h : p.input id method a = .ok i) :
    a.parameter.Accepts (fun _ => false) a.value := by
  unfold input at h
  cases hp : a.present method with
  | error e => simp [hp] at h
  | ok v =>
    have present : a.nullFault? method = none := by rw [← a.failure?_present, hp]; rfl
    obtain rfl := Supplied.eq_of_present hp
    cases ha : p.adapter.adaptSupplied id method a a.value with
    | error e => simp [hp, ha] at h
    | ok argument =>
      cases hv : a.value with
      | none =>
        left
        change a.parameter.nullable = true
        simpa [Supplied.nullFault?, hv] using present
      | some v =>
        rw [hv] at ha
        obtain ⟨convert, x, -, rfl, -⟩ := Adapter.exists_of_adaptSupplied ha
        exact .inl (Value.ty_of _ _)

/-- The run of positional adaptation takes what the parameters admit. -/
theorem accepts_of_inputs {as : List Supplied} {added : List Input}
    (h : p.inputs id method as = .ok added) :
    ∀ a ∈ as, a.parameter.Accepts (fun _ => false) a.value := by
  induction as generalizing added with
  | nil => simp
  | cons a as ih =>
    rw [inputs] at h
    cases hi : p.input id method a with
    | error e => simp [hi] at h
    | ok i =>
      cases hrest : p.inputs id method as with
      | error e => simp [hi, hrest] at h
      | ok rest => exact List.forall_mem_cons.2 ⟨accepts_of_input hi, ih hrest⟩

end PositionalArguments

namespace NamedArguments

variable {p : NamedArguments}

/-- An argument without a fault is one that its parameter accepts. -/
theorem accepts_of_faultAfter?_eq_none {method : String} {earlier : List Supplied} {a : Supplied}
    (h : p.faultAfter? method earlier a = none) : a.parameter.Accepts p.takesTarget a.value := by
  simp only [faultAfter?, Option.or_eq_none_iff] at h
  obtain ⟨⟨⟨⟨⟨present, -⟩, -⟩, -⟩, -⟩, typed⟩ := h
  have faultless : a.fault? p.takesTarget method = none := by
    rw [Supplied.fault?, present, typed]
    rfl
  exact Supplied.fault?_eq_none_iff.1 faultless

/-- A named call that is served has arguments that their parameters accept. -/
theorem accepts_of_adapt {c : Call} {added : List Input} (h : p.adapt c = .ok added) :
    ∀ a ∈ c.arguments, a.parameter.Accepts p.takesTarget a.value := by
  intro a ha
  obtain ⟨i, hi⟩ := List.mem_iff_getElem?.1 ha
  exact accepts_of_faultAfter?_eq_none (faultAt?_eq_none_iff.1 (faultAt?_of_ok h i) a hi)

/-- A value of another type than that of its target parameter is the fault of its place, unless it
is a ready-made target or the second target. -/
theorem faultAt?_of_mistyped {c : Call} {i : Nat} {a : Supplied} {v : Value}
    (here : c.arguments[i]? = some a) (target : p.takesTarget a.parameter = true)
    (value : a.value = some v) (mistyped : v.ty ≠ a.parameter.type)
    (first : ∀ b ∈ c.arguments.take i, p.suppliesTarget b = false) :
    p.faultAt? c i =
      if v.ty = .target then none
      else some (.typeMismatch c.method.name i a.parameter.type) := by
  have place := Call.index_eq_of_getElem? here
  have route : p.route? a.parameter = some .target := takesTarget_iff.1 target
  have unnamed : ¬ p.TakesName a.parameter := by simp [TakesName, route]
  have noOther : p.targetFault? c.method.name (c.arguments.take i) a = none := by
    simpa [targetFault?] using fun _ b hb => first b hb
  rw [faultAt?, here, Option.bind_some, faultAfter?, routeFault?_of_route route,
    nameFault?_of_not_takesName unnamed, repeatFault?_of_not_takesName unnamed, noOther]
  simp [Supplied.nullFault?, Supplied.typeFault?, value, mistyped, target, place]

end NamedArguments

namespace ArgumentPolicy

/-- A call that is served has arguments that their parameters accept. -/
theorem accepts_of_adapt {p : ArgumentPolicy} (hb : p.BuiltIn) {c : Call} {s : Installation}
    {added : List Input} (h : (p.adapt c s).1 = .ok added) :
    ∀ a ∈ c.arguments, a.parameter.Accepts p.takesTarget a.value := by
  induction p generalizing added with
  | positional p => exact PositionalArguments.accepts_of_inputs h
  | named p => exact NamedArguments.accepts_of_adapt h
  | placeholders base b ih =>
    have served : failure? (base.adapt c s).1 = none := by
      rw [← failure?_placeholders base b, h]
      rfl
    obtain ⟨below, hbase⟩ := failure?_eq_none_iff.1 served
    exact ih hb hbase
  | custom => exact hb.elim

/-- **Types of the arguments of a call that is served.** Every argument is one that its parameter
accepts, and every value is of the declared type exactly when no ready-made target strays. A
parameter yields a target for those values alone that are ready-made targets, or of its type where
it was declared as the target. A mistyped value that is the first target of a call with no earlier
fault is reported as mistyped, unless it is a ready-made target; that is no fault at all. -/
theorem typed_of_adapt {p : ArgumentPolicy} (hb : p.BuiltIn) (c : Call) (s : Installation) :
    ((∃ added, (p.adapt c s).1 = .ok added) →
      (∀ a ∈ c.arguments, a.parameter.Accepts p.takesTarget a.value) ∧
        (c.Typed ↔ ∀ a ∈ c.arguments, ¬ p.Strays a)) ∧
    (∀ (q : Parameter) id v t, q.toTarget id v = some t →
      (q.isTarget = true ∧ v.ty = q.type ↔ ¬ (v.ty = .target ∧ q.type ≠ .target))) ∧
    ∀ (n : NamedArguments) i a v, c.arguments[i]? = some a → n.takesTarget a.parameter = true →
      a.value = some v → v.ty ≠ a.parameter.type →
      (∀ j < i, n.faultAt? c j = none) →
      (∀ b ∈ c.arguments.take i, n.suppliesTarget b = false) →
        (v.ty ≠ .target → n.adapt c = .error (.typeMismatch c.method.name i a.parameter.type)) ∧
        (v.ty = .target → n.faultAt? c i = none) := by
  refine ⟨?_, fun q id v t => Parameter.toTarget_typed_iff, ?_⟩
  · rintro ⟨added, h⟩
    have accepted := accepts_of_adapt hb h
    refine ⟨accepted, ?_⟩
    constructor
    · intro typed a ha
      exact (typed_iff_of_accepts (accepted a ha)).1 (typed a ha)
    · intro stay a ha
      exact (typed_iff_of_accepts (accepted a ha)).2 (stay a ha)
  · intro n i a v here target value mistyped earlier first
    have fault := NamedArguments.faultAt?_of_mistyped here target value mistyped first
    constructor
    · intro other
      rw [if_neg other] at fault
      exact NamedArguments.adapt_eq_error_iff.2 ⟨i, fault, earlier⟩
    · intro ready
      rw [fault, if_pos ready]

/-- A challenge of a player, with what the caller passes for the player. -/
def duel (rival : Value) : Call where
  method :=
    { name := "duel"
      parameters := [{ type := .host "Player", asTarget := true, identifier := some "rival" }] }
  values := [some rival]
  identity := ⟨[0]⟩
  arity := rfl

/-- A team is no player; a ready-made target of a team is taken for one. -/
theorem adapt_duel_team :
    (⟨.standard, .declared⟩ : NamedArguments).adapt (duel (.host "Team" "Red")) =
        .error (.typeMismatch "duel" 0 (.host "Player")) ∧
      ¬ (duel (.target ⟨.host "Team" "Red", ⟨[1]⟩⟩)).Typed := by
  have builtIn : (ArgumentPolicy.named ⟨.standard, .declared⟩).BuiltIn := trivial
  obtain ⟨-, -, mistyped⟩ := typed_of_adapt builtIn (duel (.host "Team" "Red")) .start
  obtain ⟨served, -, -⟩ :=
    typed_of_adapt builtIn (duel (.target ⟨.host "Team" "Red", ⟨[1]⟩⟩)) .start
  constructor
  · refine (mistyped ⟨.standard, .declared⟩ 0 _ _ rfl rfl rfl (by decide) ?_ ?_).1 (by decide)
    · intro j hj
      exact absurd hj (Nat.not_lt_zero j)
    · intro b hb
      cases hb
  · intro typed
    have stay := (served ⟨_, rfl⟩).2.1 typed _ List.mem_cons_self
    exact stay ⟨rfl, by decide, _, rfl⟩

/-- A call is served in which a ready-made target is passed for a player, and a parameter that is no
target yields one. -/
theorem adapt_duel_strays :
    (⟨.standard, .declared⟩ : NamedArguments).accept
        (duel (.target ⟨.host "Team" "Red", ⟨[1]⟩⟩)).method = .ok () ∧
      ((ArgumentPolicy.named ⟨.standard, .declared⟩).adapt
        (duel (.target ⟨.host "Team" "Red", ⟨[1]⟩⟩)) .start).1 =
          .ok [.target ⟨.host "Team" "Red", ⟨[1]⟩⟩] ∧
      ¬ (duel (.target ⟨.host "Team" "Red", ⟨[1]⟩⟩)).Typed ∧
      Parameter.isTarget { type := .string } = false ∧
      Parameter.toTarget { type := .string } ⟨[0]⟩ (.target ⟨.host "Team" "Red", ⟨[1]⟩⟩) =
        some ⟨.host "Team" "Red", ⟨[1]⟩⟩ := by
  refine ⟨rfl, rfl, ?_, rfl, rfl⟩
  intro typed
  have declared := typed _ List.mem_cons_self _ rfl
  cases declared

end ArgumentPolicy

end MessageDispatch
