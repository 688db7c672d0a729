import MessageDispatch.Proofs.Named

/-!
# Styles of arguments

Where the adapter supports the type of every parameter, the named policy converts all arguments, as
the positional policy does. Of a method that the named policy accepts, it then depends on the style
how the inputs are addressed and on nothing else: calls fail with the same error, or have the same
arguments (`NamedArguments.adapt_restyles_positional`). The two loops run side by side over the
arguments; the claims of the named one are those that acceptance went through, so no name is missing
and none is taken.
-/

namespace MessageDispatch

/-- The same arguments in two styles: under the names of the parameters, and by position. -/
inductive Restyled (naming : Naming) : List Parameter → List Input → List Input → Prop where
  | nil : Restyled naming [] [] []
  | cons {q : Parameter} {qs : List Parameter} {name : String} {argument : Argument}
      {named positional : List Input} (resolved : naming.resolve q = some name)
      (later : Restyled naming qs named positional) :
      Restyled naming (q :: qs) (.named name argument :: named) (.positional argument :: positional)

/-- Two results are the same error, or the same arguments in two styles. -/
inductive SameButStyle (naming : Naming) (qs : List Parameter) :
    Except InvocationError (List Input) → Except InvocationError (List Input) → Prop where
  | fails (e : InvocationError) : SameButStyle naming qs (.error e) (.error e)
  | serves {named positional : List Input} (restyled : Restyled naming qs named positional) :
      SameButStyle naming qs (.ok named) (.ok positional)

namespace Restyled

variable {naming : Naming} {qs : List Parameter} {named positional : List Input}

theorem length_eq (h : Restyled naming qs named positional) :
    named.length = qs.length ∧ positional.length = qs.length := by
  induction h with
  | nil => exact ⟨rfl, rfl⟩
  | cons _ _ ih => simp [ih]

/-- The inputs of one parameter. -/
theorem getElem?_eq (h : Restyled naming qs named positional) {i : Nat} {q : Parameter}
    (hq : qs[i]? = some q) : ∃ name argument, naming.resolve q = some name ∧
      named[i]? = some (.named name argument) ∧ positional[i]? = some (.positional argument) := by
  induction h generalizing i with
  | nil => cases hq
  | @cons _ _ name argument _ _ resolved _ ih =>
    cases i with
    | zero =>
      cases hq
      exact ⟨name, argument, resolved, rfl, rfl⟩
    | succ i => exact ih hq

end Restyled

namespace NamedArguments

variable {p : NamedArguments} {method : String}

/-- What a parameter that goes by a name is accepted with, its argument claims. -/
theorem claim_of_accept {a : Supplied} (hr : p.TakesName a.parameter) {claims after : Claims}
    (h : p.acceptParameter method claims a.index a.parameter = .ok after) :
    ∃ name, p.naming.resolve a.parameter = some name ∧
      p.claim method claims a = .ok (name, after) := by
  rw [hr.acceptParameter] at h
  obtain ⟨name, claimed⟩ := acceptName_eq_ok_iff.1 h
  exact ⟨name, (claim_eq_ok_iff.1 claimed).1, claimed⟩

theorem route?_of_supports {q : Parameter} (h : p.adapter.supports q.type = true) :
    p.route? q = some .registry := by
  rw [route?, if_pos h]

/-- One argument whose type is supported, and whose name is claimed: the named policy adds the
argument that the positional one adds, and fails as that one fails. -/
theorem input_restyles_positional {a : Supplied}
    (supported : p.adapter.supports a.parameter.type = true) {claims after : Claims} {name : String}
    (claimed : p.claim method claims a = .ok (name, after)) (id : Identity) :
    (∃ e, p.input id method claims a = .error e ∧
        PositionalArguments.input ⟨p.adapter⟩ id method a = .error e) ∨
      ∃ argument, p.input id method claims a = .ok (some (.named name argument), after) ∧
        PositionalArguments.input ⟨p.adapter⟩ id method a = .ok (.positional argument) := by
  rw [input, PositionalArguments.input, route?_of_supports supported]
  cases a.present method with
  | error e => exact .inl ⟨e, rfl, rfl⟩
  | ok v =>
    simp only [claimed]
    cases p.adapter.adaptSupplied id method a v with
    | error e => exact .inl ⟨e, rfl, rfl⟩
    | ok argument => exact .inr ⟨argument, rfl, rfl⟩

/-- The run over the arguments of accepted parameters of supported types. -/
theorem inputs_restyle_positional {claims : Claims} {i : Nat} {qs : List Parameter}
    (supported : ∀ q ∈ qs, p.adapter.supports q.type = true)
    (accepted : p.acceptFrom method claims i qs = .ok ()) {vs : List (Option Value)}
    (count : vs.length = qs.length) (id : Identity) :
    SameButStyle p.naming qs (p.inputs id method claims (Supplied.pair i qs vs))
      (PositionalArguments.inputs ⟨p.adapter⟩ id method (Supplied.pair i qs vs)) := by
  induction qs generalizing claims i vs with
  | nil => exact .serves .nil
  | cons q qs ih =>
    cases vs with
    | nil => cases count
    | cons v vs =>
      let a : Supplied := ⟨q, v, i⟩
      obtain ⟨first, rest⟩ := List.forall_mem_cons.1 supported
      rw [acceptFrom] at accepted
      cases ha : p.acceptParameter method claims i q with
      | error e => simp [ha] at accepted
      | ok after =>
        rw [ha] at accepted
        have hr : p.TakesName a.parameter := .inl (route?_of_supports first)
        obtain ⟨name, resolved, claimed⟩ := claim_of_accept hr (a := a) ha
        rw [Supplied.pair, inputs, PositionalArguments.inputs]
        obtain ⟨e, hn, hp⟩ | ⟨argument, hn, hp⟩ :=
          input_restyles_positional (a := a) first claimed id
        · rw [hn, hp]
          exact .fails e
        · rw [hn, hp]
          dsimp only
          have later := ih rest accepted (Nat.succ.inj count)
          generalize p.inputs id method after (Supplied.pair (i + 1) qs vs) = named at later ⊢
          generalize PositionalArguments.inputs ⟨p.adapter⟩ id method
            (Supplied.pair (i + 1) qs vs) = positional at later ⊢
          cases later with
          | fails e => exact .fails e
          | serves restyled => exact .serves (.cons resolved restyled)

/-- **The style changes how inputs are addressed, and nothing else.** Of a method whose parameters
have supported types and which the named policy accepts, the named and the positional inputs of a
call are the same arguments, or the call fails with the same error in both styles. The identity of
the call is the same in both, so what a conversion builds differs in its contents only. -/
theorem adapt_restyles_positional (p : NamedArguments) (c : Call)
    (supported : ∀ q ∈ c.method.parameters, p.adapter.supports q.type = true)
    (accepted : p.accept c.method = .ok ()) :
    (∃ e, p.adapt c = .error e ∧ PositionalArguments.adapt ⟨p.adapter⟩ c = .error e) ∨
      ∃ named positional : List Input, p.adapt c = .ok named ∧
        PositionalArguments.adapt ⟨p.adapter⟩ c = .ok positional ∧
        named.length = positional.length ∧ positional.length = c.method.parameters.length ∧
        ∀ (i : Nat) q, c.method.parameters[i]? = some q → ∃ name argument,
          p.naming.resolve q = some name ∧ named[i]? = some (.named name argument) ∧
            positional[i]? = some (.positional argument) := by
  have run := inputs_restyle_positional supported accepted c.arity c.identity
  change SameButStyle p.naming c.method.parameters (p.adapt c)
    (PositionalArguments.adapt ⟨p.adapter⟩ c) at run
  generalize p.adapt c = named at run ⊢
  generalize PositionalArguments.adapt ⟨p.adapter⟩ c = positional at run ⊢
  cases run with
  | fails e => exact .inl ⟨e, rfl, rfl⟩
  | @serves named positional restyled =>
    obtain ⟨names, positions⟩ := restyled.length_eq
    refine .inr ⟨named, positional, rfl, rfl, names.trans positions.symm, positions, ?_⟩
    intro i q hq
    exact restyled.getElem?_eq hq

/-- A call that tells who came, and leaves out how often. -/
def visitOfAda : Call where
  method :=
    { name := "visit"
      parameters :=
        [{ type := .string, name := some "who" },
          { type := .integer ⟨false, .w8⟩, identifier := some "howOften", nullable := true }] }
  values := [some (.string "Ada"), none]
  identity := ⟨[0]⟩
  arity := by decide

theorem adapt_visitOfAda :
    (⟨.standard, .declaredOrIdentifier⟩ : NamedArguments).accept visitOfAda.method = .ok () ∧
      ∃ named positional : List Input,
        (⟨.standard, .declaredOrIdentifier⟩ : NamedArguments).adapt visitOfAda = .ok named ∧
        (⟨.standard⟩ : PositionalArguments).adapt visitOfAda = .ok positional ∧
        named[0]? = some (.named "who" (.component (.literal "Ada"))) ∧
        positional[0]? = some (.positional (.component (.literal "Ada"))) ∧
        named[1]? = some (.named "how_often" .null) ∧
        positional[1]? = some (.positional .null) := by
  have supported : ∀ q ∈ visitOfAda.method.parameters, Adapter.standard.supports q.type = true := by
    decide
  have accepted : (⟨.standard, .declaredOrIdentifier⟩ : NamedArguments).accept visitOfAda.method =
      .ok () := by
    decide
  obtain ⟨e, fails, -⟩ | ⟨named, positional, hn, hp, -⟩ :=
    adapt_restyles_positional ⟨.standard, .declaredOrIdentifier⟩ visitOfAda supported accepted
  · cases fails
  · refine ⟨accepted, named, positional, hn, hp, ?_⟩
    cases hn
    cases hp
    exact ⟨rfl, rfl, rfl, rfl⟩

end NamedArguments

end MessageDispatch
