import MessageDispatch.Arguments.Named
import MessageDispatch.Proofs.Positional

/-!
# Named adaptation

Acceptance and adaptation are two loops with their own claims: the names taken so far, and whether a
target was seen. They are related argument by argument. `NamedArguments.acceptSupplied` accepts an
argument as its parameter is accepted, except that a null target counts for nothing; adaptation of
the argument fails on a null that is not allowed, then as `acceptSupplied` fails, then on a value
that the route refuses, and keeps the claims of `acceptSupplied` (`failure?_input`,
`acceptSupplied_of_input`). What adaptation of an argument can do otherwise, route by route, is
`NamedArguments.Step`.
-/

namespace MessageDispatch

/-- The error of a call of a method that is rejected, for the errors that calls have too. -/
def ValidationError.atCall? : ValidationError → Option InvocationError
  | .missingKey method => some (.missingKey method)
  | .unsupportedParameter method position type => some (.unsupportedParameter method position type)
  | .unresolvableName method position _ => some (.unresolvableName method position)
  | .duplicateName method name => some (.duplicateName method name)
  | .multipleTargets method => some (.multipleTargets method)
  | .unsupportedReturnType method type => some (.unsupportedReturnType method type)
  | .notNodeSupertype method type => some (.unsupportedReturnType method type)
  | .duplicateMethod .. => none
  | .custom method message => some (.custom method message)

namespace NamedArguments

variable {p : NamedArguments}

/-- The policy takes the parameter's argument as the target. -/
def takesTarget (p : NamedArguments) (q : Parameter) : Bool :=
  p.route? q == some .target

/-- Accepts an argument after others, as its parameter; a null target counts for nothing. -/
def acceptSupplied (p : NamedArguments) (method : String) (claims : Claims) (a : Supplied) :
    Except ValidationError Claims :=
  if a.value = none ∧ p.takesTarget a.parameter = true then .ok claims
  else p.acceptParameter method claims a.index a.parameter

/-- The error that a call raises when an argument is not accepted. -/
def claimFault? (p : NamedArguments) (method : String) (claims : Claims) (a : Supplied) :
    Option InvocationError :=
  (failure? (p.acceptSupplied method claims a)).bind ValidationError.atCall?

theorem takesTarget_iff {q : Parameter} : p.takesTarget q = true ↔ p.route? q = some .target := by
  simp [takesTarget]

/-- What a route says of its parameter. -/
theorem route_sound {q : Parameter} {route : ArgumentRoute} (h : p.route? q = some route) :
    match route with
    | .registry => p.adapter.supports q.type = true
    | .tag => q.type = .tag
    | .bundle => q.type = .tagBundle
    | .target => q.isTarget = true := by
  unfold route? at h
  by_cases hs : p.adapter.supports q.type = true
  · rw [if_pos hs] at h
    cases h
    exact hs
  rw [if_neg hs] at h
  by_cases htag : q.type = .tag
  · rw [if_pos htag] at h
    cases h
    exact htag
  rw [if_neg htag] at h
  by_cases hbundle : q.type = .tagBundle
  · rw [if_pos hbundle] at h
    cases h
    exact hbundle
  rw [if_neg hbundle] at h
  by_cases ht : q.isTarget = true
  · rw [if_pos ht] at h
    cases h
    exact ht
  · rw [if_neg ht] at h
    cases h

/-- Accepts the name of a parameter after others. -/
def acceptName (p : NamedArguments) (method : String) (claims : Claims) (i : Nat) (q : Parameter) :
    Except ValidationError Claims :=
  match p.naming.resolve q with
  | none => .error (.unresolvableName method i q.label)
  | some name =>
    if name ∈ claims.names then .error (.duplicateName method name)
    else .ok { claims with names := name :: claims.names }

/-- The parameter goes by a name: it is converted, or is a tag. -/
def TakesName (p : NamedArguments) (q : Parameter) : Prop :=
  p.route? q = some .registry ∨ p.route? q = some .tag

theorem route_cases (p : NamedArguments) (q : Parameter) :
    p.route? q = none ∨ p.TakesName q ∨ p.route? q = some .bundle ∨ p.route? q = some .target := by
  unfold TakesName
  cases p.route? q with
  | none => simp
  | some route => cases route <;> simp

theorem TakesName.not_target {q : Parameter} (hr : p.TakesName q) : p.takesTarget q = false := by
  rcases hr with hr | hr <;> simp [takesTarget, hr]

theorem TakesName.acceptParameter {q : Parameter} (hr : p.TakesName q) (method : String)
    (claims : Claims) (i : Nat) :
    p.acceptParameter method claims i q = p.acceptName method claims i q := by
  rcases hr with hr | hr <;> simp only [NamedArguments.acceptParameter, hr] <;> rfl

theorem acceptSupplied_named {a : Supplied} (hr : p.TakesName a.parameter) (method : String)
    (claims : Claims) :
    p.acceptSupplied method claims a = p.acceptName method claims a.index a.parameter := by
  unfold acceptSupplied
  rw [if_neg (by simp [hr.not_target]), hr.acceptParameter]

theorem failure?_claim {a : Supplied} (hr : p.TakesName a.parameter) (method : String)
    (claims : Claims) : failure? (p.claim method claims a) = p.claimFault? method claims a := by
  unfold claimFault? claim
  rw [acceptSupplied_named hr, acceptName]
  cases p.naming.resolve a.parameter with
  | none => rfl
  | some name => by_cases hn : name ∈ claims.names <;> simp [hn, ValidationError.atCall?]

/-- A name is claimed when there is one and it is free. -/
theorem claim_eq_ok_iff {method name : String} {claims after : Claims} {a : Supplied} :
    p.claim method claims a = .ok (name, after) ↔
      p.naming.resolve a.parameter = some name ∧ name ∉ claims.names ∧
        after = { claims with names := name :: claims.names } := by
  unfold claim
  cases p.naming.resolve a.parameter with
  | none => simp
  | some n =>
    by_cases taken : n ∈ claims.names
    · simp only [taken, if_true, reduceCtorEq, Option.some.injEq, false_iff]
      rintro ⟨rfl, free, -⟩
      exact free taken
    · simp only [taken, if_false, Except.ok.injEq, Prod.mk.injEq, Option.some.injEq]
      constructor
      · rintro ⟨rfl, rfl⟩
        exact ⟨rfl, taken, rfl⟩
      · rintro ⟨rfl, -, rfl⟩
        exact ⟨rfl, rfl⟩

/-- A name is accepted when it can be claimed. -/
theorem acceptName_eq_ok_iff {method : String} {claims after : Claims} {a : Supplied} :
    p.acceptName method claims a.index a.parameter = .ok after ↔
      ∃ name, p.claim method claims a = .ok (name, after) := by
  unfold acceptName claim
  cases p.naming.resolve a.parameter with
  | none => simp
  | some n => by_cases taken : n ∈ claims.names <;> simp [taken]

theorem acceptSupplied_of_claim {a : Supplied} (hr : p.TakesName a.parameter)
    {method name : String} {claims after : Claims}
    (h : p.claim method claims a = .ok (name, after)) :
    p.acceptSupplied method claims a = .ok after := by
  rw [acceptSupplied_named hr]
  exact acceptName_eq_ok_iff.2 ⟨name, h⟩

/-- A bundle of tags claims nothing. -/
theorem acceptSupplied_bundle {a : Supplied} (hr : p.route? a.parameter = some .bundle)
    (method : String) (claims : Claims) : p.acceptSupplied method claims a = .ok claims := by
  simp [acceptSupplied, takesTarget, acceptParameter, hr]

/-- A null target claims nothing; another one must be the first. -/
theorem acceptSupplied_target {a : Supplied} (hr : p.route? a.parameter = some .target)
    (method : String) (claims : Claims) :
    p.acceptSupplied method claims a =
      if a.value = none then .ok claims
      else if claims.target then .error (.multipleTargets method)
      else .ok { claims with target := true } := by
  simp [acceptSupplied, takesTarget, acceptParameter, hr]

/-- The step of adaptation fails on a null, then on the parameter, then on the value. -/
theorem failure?_input (id : Identity) (method : String) (claims : Claims) (a : Supplied) :
    failure? (p.input id method claims a) =
      (a.nullFault? method).or
        ((p.claimFault? method claims a).or (a.typeFault? p.takesTarget method)) := by
  unfold input
  rw [← a.failure?_present]
  cases hp : a.present method with
  | error e => simp
  | ok v =>
    obtain rfl := Supplied.eq_of_present hp
    rw [failure?_ok, Option.none_or]
    cases hr : p.route? a.parameter with
    | none =>
      simp [claimFault?, acceptSupplied, acceptParameter, takesTarget, hr, ValidationError.atCall?]
    | some route =>
      cases route with
      | registry =>
        have hn : p.TakesName a.parameter := .inl hr
        have hs : p.adapter.supports a.parameter.type = true := route_sound hr
        rw [← failure?_claim hn,
          ← Adapter.failure?_adaptSupplied hs p.takesTarget hn.not_target id]
        cases p.claim method claims a with
        | error e => simp
        | ok claimed =>
          cases ha : p.adapter.adaptSupplied id method a a.value <;> simp [ha]
      | tag =>
        have hn : p.TakesName a.parameter := .inr hr
        have htype : a.parameter.type = .tag := route_sound hr
        rw [← failure?_claim hn]
        cases p.claim method claims a with
        | error e => simp
        | ok claimed =>
          simp only [Supplied.typeFault?, htype, hn.not_target]
          cases a.value with
          | none => simp
          | some v => cases v <;> simp [Value.ty]
      | bundle =>
        have ht : p.takesTarget a.parameter = false := by simp [takesTarget, hr]
        have htype : a.parameter.type = .tagBundle := route_sound hr
        simp only [claimFault?, acceptSupplied_bundle hr, Supplied.typeFault?, htype, ht]
        cases a.value with
        | none => simp
        | some v => cases v <;> simp [Value.ty]
      | target =>
        have ht : p.takesTarget a.parameter = true := takesTarget_iff.2 hr
        simp only [claimFault?, acceptSupplied_target hr]
        cases hv : a.value with
        | none => simp [Supplied.typeFault?, hv]
        | some v =>
          rw [Supplied.typeFault?_of_takesTarget ht (route_sound hr) hv (id.part a.index)]
          cases claims.target with
          | true => simp [ValidationError.atCall?]
          | false => cases hto : a.parameter.toTarget (id.part a.index) v <;> simp [hto]

/-- What the step of adaptation can do when it does not fail: the input that the argument adds, if
any, and the claims after it. -/
inductive Step (p : NamedArguments) (id : Identity) (method : String) (claims : Claims)
    (a : Supplied) : Option Input → Claims → Prop where
  | converted {name : String} {argument : Argument} {after : Claims}
      (route : p.route? a.parameter = some .registry)
      (claimed : p.claim method claims a = .ok (name, after))
      (adapted : p.adapter.adaptSupplied id method a a.value = .ok argument) :
      Step p id method claims a (some (.named name argument)) after
  | tag {name : String} {tag : Tag} {after : Claims} (route : p.route? a.parameter = some .tag)
      (claimed : p.claim method claims a = .ok (name, after)) (value : a.value = some (.tag tag)) :
      Step p id method claims a (some (.tag name tag)) after
  | nullTag {name : String} {after : Claims} (route : p.route? a.parameter = some .tag)
      (claimed : p.claim method claims a = .ok (name, after)) (value : a.value = none) :
      Step p id method claims a none after
  | bundle {tags : TagBundle} (route : p.route? a.parameter = some .bundle)
      (value : a.value = some (.tagBundle tags)) :
      Step p id method claims a (some (.bundle tags)) claims
  | nullBundle (route : p.route? a.parameter = some .bundle) (value : a.value = none) :
      Step p id method claims a none claims
  | target {v : Value} {target : Target} (route : p.route? a.parameter = some .target)
      (value : a.value = some v) (first : claims.target = false)
      (yields : a.parameter.toTarget (id.part a.index) v = some target) :
      Step p id method claims a (some (.target target)) { claims with target := true }
  | nullTarget (route : p.route? a.parameter = some .target) (value : a.value = none) :
      Step p id method claims a none claims

theorem step_of_input {id : Identity} {method : String} {claims after : Claims} {a : Supplied}
    {x : Option Input} (h : p.input id method claims a = .ok (x, after)) :
    p.Step id method claims a x after := by
  unfold input at h
  cases hp : a.present method with
  | error e => simp [hp] at h
  | ok v =>
    obtain rfl := Supplied.eq_of_present hp
    simp only [hp] at h
    cases hr : p.route? a.parameter with
    | none => simp [hr] at h
    | some route =>
      simp only [hr] at h
      cases route with
      | registry =>
        cases hc : p.claim method claims a with
        | error e => simp [hc] at h
        | ok claimed =>
          cases ha : p.adapter.adaptSupplied id method a a.value with
          | error e => simp [hc, ha] at h
          | ok argument =>
            simp only [hc, ha] at h
            cases h
            exact .converted hr hc ha
      | tag =>
        cases hc : p.claim method claims a with
        | error e => simp [hc] at h
        | ok claimed =>
          simp only [hc] at h
          cases hv : a.value with
          | none =>
            rw [hv] at h
            cases h
            exact .nullTag hr hc hv
          | some v =>
            rw [hv] at h
            cases v <;> cases h
            exact .tag hr hc hv
      | bundle =>
        cases hv : a.value with
        | none =>
          rw [hv] at h
          cases h
          exact .nullBundle hr hv
        | some v =>
          rw [hv] at h
          cases v <;> cases h
          exact .bundle hr hv
      | target =>
        cases hv : a.value with
        | none =>
          rw [hv] at h
          cases h
          exact .nullTarget hr hv
        | some v =>
          cases first : claims.target with
          | true => simp [hv, first] at h
          | false =>
            cases hto : a.parameter.toTarget (id.part a.index) v with
            | none => simp [hv, first, hto] at h
            | some target =>
              simp only [hv, first, hto, if_neg Bool.false_ne_true] at h
              cases h
              exact .target hr hv first hto

/-- The step of adaptation keeps the claims of the step of acceptance. -/
theorem acceptSupplied_of_input {id : Identity} {method : String} {claims after : Claims}
    {a : Supplied} {i : Option Input} (h : p.input id method claims a = .ok (i, after)) :
    p.acceptSupplied method claims a = .ok after := by
  cases step_of_input h with
  | converted route claimed => exact acceptSupplied_of_claim (.inl route) claimed
  | tag route claimed | nullTag route claimed => exact acceptSupplied_of_claim (.inr route) claimed
  | bundle route | nullBundle route => exact acceptSupplied_bundle route method claims
  | target route value first => simp [acceptSupplied_target route, value, first]
  | nullTarget route value => simp [acceptSupplied_target route, value]

end NamedArguments

end MessageDispatch
