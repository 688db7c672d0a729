import MessageDispatch.Proofs.MessageCall

/-!
# Types of answers

A call that asks for the declared type can still be told that this is not the type it gets. The
declaration of an identity method or of a provided method may be given another return type than its
answers have, and binding passes over such methods: `Mistyped` says which calls fail for that. Calls
of message methods never do.
-/

namespace MessageDispatch

/-- The error says that another type was asked for than the method returns. -/
def InvocationError.IsReturnTypeMismatch (e : InvocationError) : Prop :=
  ∃ method declared requested, e = .returnTypeMismatch method declared requested

/-- A call is a call of the method that it was made of. -/
theorem Call.method_of_of? {id : Identity} {m : Signature} {values : List (Option Value)} {c : Call}
    (h : Call.of? id m values = .ok c) : c.method = m := by
  rw [Call.of?] at h
  split at h
  · cases h
    rfl
  · cases h

/-- The only fault of a caller that is about the requested type is to ask for another type. -/
theorem CallerFault.not_isReturnTypeMismatch {takesTarget : Parameter → Bool} {m : Signature}
    {values : List (Option Value)} {e : DispatchError}
    (h : CallerFault takesTarget m m.returns values e) : ¬ e.source.IsReturnTypeMismatch := by
  rintro ⟨method, declared, requested, he⟩
  cases h with
  | returnType other => exact other rfl
  | arity | null | mistyped => cases he

/-- The error of a call that asks for the declared type, when the answer has another type or the
body itself reports a mismatch of return types. -/
inductive Mistyped (d : Dispatcher) (depth : Nat) (m : Method) (c : Call) (s : Installation) :
    DispatchError → Prop where
  | identity {which : IdentityMethod} (kind : m.kind = .identity which)
      (other : which.produces ≠ m.signature.returns) :
      Mistyped d depth m c s ⟨m.name, .resultTransformed,
        .returnTypeMismatch m.name m.signature.returns m.signature.returns⟩
  | produced {body : Body} (kind : m.kind = .provided body)
      (other : body.produces ≠ m.signature.returns) {v : body.produces.Carrier}
      (run : ((body.run d.receiver c).run (d.nested depth) c.identity 0 s).1 = some (.ok v)) :
      Mistyped d depth m c s ⟨m.name, .resultTransformed,
        .returnTypeMismatch m.name m.signature.returns m.signature.returns⟩
  | reported {body : Body} (kind : m.kind = .provided body) {f : InvocationError}
      (run : ((body.run d.receiver c).run (d.nested depth) c.identity 0 s).1 = some (.error f))
      (mismatch : f.IsReturnTypeMismatch) :
      Mistyped d depth m c s ⟨m.name, .resultTransformed, f⟩

namespace Dispatcher

variable {contract : Contract} {cfg : Configuration} {address : UInt64} {d : Dispatcher} {m : Method}

theorem answerIdentity_ty (d : Dispatcher) (which : IdentityMethod) (c : Call) :
    (d.answerIdentity which c).ty = which.produces := by
  cases which with
  | equals =>
    rw [answerIdentity]
    split <;> rfl
  | hash => rfl
  | display => rfl

/-- The final check fails on values of another type than the requested one. -/
theorem deliver_eq_error_iff {m : Signature} {t : Ty} {v : Value} {e : DispatchError} :
    deliver m t v = .error e ↔
      v.ty ≠ t ∧ e = ⟨m.name, .resultTransformed, .returnTypeMismatch m.name m.returns t⟩ := by
  rw [← Value.as?_eq_none_iff, deliver]
  cases v.as? t with
  | none => simp [eq_comm]
  | some x => simp

/-- A call with the declared type fails with the error of its route, or because what the route
answers has another type. -/
theorem invoke_error_iff_runRoute (hd : bind contract cfg address = .ok d)
    (hm : m ∈ contract.methods) {values : List (Option Value)} {id : Identity} {c : Call}
    (hc : Call.of? id m.signature values = .ok c) {depth : Nat} {s : Installation}
    {e : DispatchError} :
    (d.invoke depth id m.name m.signature.returns values s).1 = some (.error e) ↔
      (d.runRoute (d.nested depth) (cfg.route m) c s).1 = some (.error e) ∨
        ∃ v, (d.runRoute (d.nested depth) (cfg.route m) c s).1 = some (.ok v) ∧
          v.ty ≠ m.signature.returns ∧
          e = ⟨m.name, .resultTransformed,
            .returnTypeMismatch m.name m.signature.returns m.signature.returns⟩ := by
  rw [invoke_eq hd hm, invokeRoute, if_pos rfl, hc]
  rcases hr : d.runRoute (d.nested depth) (cfg.route m) c s with ⟨_ | f | v, after⟩
  · simp [hr]
  · simp [hr]
  · simp [hr, deliver_eq_error_iff, Method.name]

/-- Calls of an identity method fail at the final check only. -/
theorem invoke_identity_error_iff (hd : bind contract cfg address = .ok d)
    (hm : m ∈ contract.methods) {which : IdentityMethod} (kind : m.kind = .identity which)
    {values : List (Option Value)} {id : Identity} {c : Call}
    (hc : Call.of? id m.signature values = .ok c) {depth : Nat} {s : Installation}
    {e : DispatchError} :
    (d.invoke depth id m.name m.signature.returns values s).1 = some (.error e) ↔
      which.produces ≠ m.signature.returns ∧
        e = ⟨m.name, .resultTransformed,
          .returnTypeMismatch m.name m.signature.returns m.signature.returns⟩ := by
  have answered : (d.runRoute (d.nested depth) (cfg.route m) c s).1 =
      some (.ok (d.answerIdentity which c)) := by
    simp [Configuration.route, kind, runRoute]
  rw [invoke_error_iff_runRoute hd hm hc, answered]
  simp [answerIdentity_ty]

/-- Calls of a provided method fail as the body does, or at the final check. -/
theorem invoke_provided_error_iff (hd : bind contract cfg address = .ok d)
    (hm : m ∈ contract.methods) {body : Body} (kind : m.kind = .provided body)
    {values : List (Option Value)} {id : Identity} {c : Call}
    (hc : Call.of? id m.signature values = .ok c) {depth : Nat} {s : Installation}
    {e : DispatchError} :
    (d.invoke depth id m.name m.signature.returns values s).1 = some (.error e) ↔
      (∃ f, ((body.run d.receiver c).run (d.nested depth) c.identity 0 s).1 = some (.error f) ∧
        e = ⟨m.name, .resultTransformed, f⟩) ∨
      (∃ v, ((body.run d.receiver c).run (d.nested depth) c.identity 0 s).1 = some (.ok v) ∧
        body.produces ≠ m.signature.returns ∧
        e = ⟨m.name, .resultTransformed,
          .returnTypeMismatch m.name m.signature.returns m.signature.returns⟩) := by
  have hmethod : c.method.name = m.name := by rw [Call.method_of_of? hc, Method.name]
  rw [invoke_error_iff_runRoute hd hm hc, Configuration.route, kind]
  rcases hr : (body.run d.receiver c).run (d.nested depth) c.identity 0 s with
    ⟨_ | f | v, after⟩
  · simp [runRoute, hr]
  · simp [runRoute, hr, hmethod, eq_comm]
  · simp [runRoute, hr]

/-- A failed call that the count of its values lets through is a call. -/
theorem exists_call_of_mismatch (hd : bind contract cfg address = .ok d)
    (hm : m ∈ contract.methods) {values : List (Option Value)} {depth : Nat} {id : Identity}
    {s : Installation} {e : DispatchError}
    (h : (d.invoke depth id m.name m.signature.returns values s).1 = some (.error e))
    (he : e.source.IsReturnTypeMismatch) : ∃ c, Call.of? id m.signature values = .ok c := by
  by_cases count : values.length = m.signature.parameters.length
  · exact ⟨⟨m.signature, values, id, count⟩, by simp [Call.of?, count]⟩
  · rw [invoke_of_length_ne hd hm count] at h
    cases h
    obtain ⟨method, declared, requested, he⟩ := he
    cases he

/-- **What the final check of return types finds.** A call that asks for the declared type of a
bound method is told of another type exactly when the method is an identity method or a provided one
whose answer, if there is any, is of another type than the declared one, or a provided one whose body
reports such a mismatch itself. -/
theorem invoke_mismatch_iff_mistyped (hb : cfg.BuiltIn) (hd : bind contract cfg address = .ok d)
    {i : Nat} (hi : contract.methods[i]? = some m) (values : List (Option Value)) (depth : Nat)
    (id : Identity) (s : Installation) :
    (∀ e, (d.invoke depth id m.name m.signature.returns values s).1 = some (.error e) ∧
          e.source.IsReturnTypeMismatch ↔
        ∃ c, Call.of? id m.signature values = .ok c ∧ Mistyped d depth m c s e) ∧
      d.invokeId depth i id m.signature.returns values s =
        d.invoke depth id m.name m.signature.returns values s := by
  have hm : m ∈ contract.methods := List.mem_of_getElem? hi
  refine ⟨fun e => ⟨?_, ?_⟩, (invoke_eq_invokeId hd hi depth id _ values s).symm⟩
  · rintro ⟨h, he⟩
    obtain ⟨c, hc⟩ := exists_call_of_mismatch hd hm h he
    refine ⟨c, hc, ?_⟩
    cases hk : m.kind with
    | message =>
      -- What the result policy makes has the declared type, so the fault is the caller's.
      obtain ⟨outcome, houtcome, faults⟩ :=
        invoke_message_outcome hb hd hm hk m.signature.returns values depth id s
      have hf := (faults e).1 (Option.some.inj (houtcome.symm.trans h))
      exact absurd he hf.not_isReturnTypeMismatch
    | identity which =>
      obtain ⟨other, rfl⟩ := (invoke_identity_error_iff hd hm hk hc).1 h
      exact .identity hk other
    | provided body =>
      obtain ⟨f, run, rfl⟩ | ⟨v, run, other, rfl⟩ := (invoke_provided_error_iff hd hm hk hc).1 h
      · exact .reported hk run he
      · exact .produced hk other run
  · rintro ⟨c, hc, h⟩
    cases h with
    | identity kind other =>
      exact ⟨(invoke_identity_error_iff hd hm kind hc).2 ⟨other, rfl⟩, _, _, _, rfl⟩
    | produced kind other run =>
      have h := (invoke_provided_error_iff hd hm kind hc).2 (.inr ⟨_, run, other, rfl⟩)
      exact ⟨h, _, _, _, rfl⟩
    | reported kind run mismatch =>
      have h := (invoke_provided_error_iff hd hm kind hc).2 (.inl ⟨_, run, rfl⟩)
      exact ⟨h, mismatch⟩

/-- A body that answers with a string. -/
def plainLabel : Body where
  identity := ⟨[0]⟩
  produces := .string
  run _ _ := .done (.ok "hi")

/-- A method with a string's body and the dispatcher's text, both declared to return texts. -/
def labels : Contract where
  name := "Labels"
  methods := Contract.withIdentity
    [⟨{ name := "label", returns := .text }, .provided plainLabel⟩,
      ⟨{ name := "to_string", returns := .text }, .identity .display⟩]
  distinct := by decide

/-- The labels, bound with the default configuration. -/
def labeller : Dispatcher :=
  layOut labels {} 0x1f

theorem bind_labels : bind labels {} 0x1f = .ok labeller :=
  rfl

theorem invoke_display_as_text :
    (labeller.invoke 0 ⟨[0]⟩ "to_string" .text [] .start).1 =
      some (.error ⟨"to_string", .resultTransformed,
        .returnTypeMismatch "to_string" .text .text⟩) := by
  obtain ⟨mistyped, -⟩ :=
    invoke_mismatch_iff_mistyped builtIn_default bind_labels (i := 1) rfl [] 0 ⟨[0]⟩ .start
  exact ((mistyped _).2 ⟨_, rfl, .identity rfl (by decide)⟩).1

/-- A body that never fails, and a call that asks for the declared type: the final check fails. -/
theorem invoke_label_as_declared :
    Configuration.BuiltIn {} ∧ bind labels {} 0x1f = .ok labeller ∧
      (∀ r c, plainLabel.run r c = .done (.ok "hi")) ∧
      (labeller.contract.method? "label").map (·.signature.returns) = some .text ∧
      labeller.invoke 0 ⟨[0]⟩ "label" .text [] .start =
        (some (.error ⟨"label", .resultTransformed,
          .returnTypeMismatch "label" .text .text⟩), .start) := by
  refine ⟨builtIn_default, bind_labels, fun _ _ => rfl, rfl, rfl⟩

end Dispatcher

end MessageDispatch
