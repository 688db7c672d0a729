import MessageDispatch.Proofs.Stages

/-!
# Policies that a call does not come to

The policies after the stage of an error have no part in it: a dispatcher of the contract whose
policies do the same up to that stage fails as the first one does, or would do at the address of the
other (`Dispatcher.invoke_eq_movedTo`). The address matters to bodies only, since they see the
dispatcher that they are called on. When a body has run, the failure is the same as far as the body
takes the same steps at both addresses (`Program.KeepsStep`), whatever its calls are answered there.
-/

namespace MessageDispatch

section Programs

variable {answer other : Answering} {id : Identity} {t : Ty}

/-- Two programs keep step, each under a way of answering: they make the same calls, and they end
with the same result. What a call is answered need not be the same. -/
inductive Program.KeepsStep (answer other : Answering) (id : Identity) {t : Ty} :
    Nat → Installation → Program t → Program t → Prop where
  | done {n : Nat} {s : Installation} (result : Except InvocationError t.Carrier) :
      KeepsStep answer other id n s (.done result) (.done result)
  | call {n : Nat} {s after : Installation} {method : String} {returns : Ty}
      {values : List (Option Value)}
      {next next' : Except DispatchError returns.Carrier → Program t}
      {outcome outcome' : Except DispatchError returns.Carrier}
      (here : answer (id.part n) method returns values s = (some outcome, after))
      (there : other (id.part n) method returns values s = (some outcome', after))
      (rest : KeepsStep answer other id (n + 1) after (next outcome) (next' outcome')) :
      KeepsStep answer other id n s (.call method returns values next)
        (.call method returns values next')

theorem Program.KeepsStep.run_eq {n : Nat} {s : Installation} {p q : Program t}
    (h : KeepsStep answer other id n s p q) : q.run other id n s = p.run answer id n s := by
  induction h with
  | done result => rfl
  | call here there _ ih => simp only [run, here, there, ih]

end Programs

namespace Configuration

variable {cfg other : Configuration}

/-- The policies of two configurations do the same in calls, up to the one of a stage. -/
def AgreesUpTo (stage : Stage) (cfg other : Configuration) : Prop :=
  match stage with
  | .built => True
  | .keyResolved => cfg.keys.resolve = other.keys.resolve
  | .argumentsAdapted =>
    cfg.keys.resolve = other.keys.resolve ∧ cfg.arguments.adapt = other.arguments.adapt
  | .resultTransformed =>
    cfg.keys.resolve = other.keys.resolve ∧ cfg.arguments.adapt = other.arguments.adapt ∧
      cfg.results.transform = other.results.transform

theorem AgreesUpTo.refl (stage : Stage) (cfg : Configuration) : cfg.AgreesUpTo stage cfg := by
  cases stage <;> simp [AgreesUpTo]

theorem pipeline_run_congr (h : cfg.AgreesUpTo .resultTransformed other) :
    other.pipeline.run = cfg.pipeline.run := by
  obtain ⟨hkeys, harguments, hresults⟩ := h
  funext c s
  simp only [Pipeline.run, pipeline, hkeys, harguments, hresults]

/-- A pipeline that fails at a stage has not come to the later policies. -/
theorem pipeline_run_of_error {c : Call} {s : Installation} {e : DispatchError}
    (he : (cfg.pipeline.run c s).1 = .error e) (h : cfg.AgreesUpTo e.stage other) :
    other.pipeline.run c s = cfg.pipeline.run c s := by
  cases pipeline_run_eq_iff.1 he with
  | key resolved =>
    have keys : cfg.keys.resolve = other.keys.resolve := h
    simp only [Pipeline.run, pipeline, ← keys, resolved]
  | arguments resolved adapted =>
    obtain ⟨keys, arguments⟩ := h
    simp only [Pipeline.run, pipeline, ← keys, ← arguments, resolved, adapted]
  | result => rw [pipeline_run_congr h]

end Configuration

namespace Dispatcher

variable {contract : Contract} {cfg other : Configuration} {a b : UInt64} {d d' : Dispatcher}

/-- The same table at another address. -/
def movedTo (d : Dispatcher) (b : UInt64) : Dispatcher :=
  { d with address := b }

theorem bind_movedTo (hd : bind contract cfg a = .ok d) (b : UInt64) :
    bind contract cfg b = .ok (d.movedTo b) := by
  obtain ⟨rfl, accepted⟩ := bind_eq_ok_iff.1 hd
  exact bind_eq_ok_iff.2 ⟨rfl, accepted⟩

/-- Run for the call, the body takes the same steps at an address as it takes where the dispatcher
is. -/
def StepsAlikeAt (d : Dispatcher) (b : UInt64) (depth : Nat) (body : Body) (c : Call)
    (s : Installation) : Prop :=
  Program.KeepsStep (d.nested depth) ((d.movedTo b).nested depth) c.identity 0 s
    (body.run d.receiver c) (body.run (d.movedTo b).receiver c)

/-- A body that hands its values on to another method takes the same steps wherever that method
answers the same. -/
theorem stepsAlikeAt_delegate {depth : Nat} {c : Call} {s after : Installation} {id : Identity}
    {name : String} {outcome : Except DispatchError Text}
    (here : d.nested depth (c.identity.part 0) name .text c.values s = (some outcome, after))
    (there : (d.movedTo b).nested depth (c.identity.part 0) name .text c.values s =
      (some outcome, after)) : d.StepsAlikeAt b depth (.delegate id name) c s := by
  refine .call here there ?_
  cases outcome with
  | ok text | error e => exact .done _

/-- A call that reaches a route reaches it on every dispatcher of the contract. -/
theorem Reaches.elsewhere (hd : bind contract cfg a = .ok d) (hd' : bind contract other b = .ok d')
    {id : Identity} {name : String} {requested : Ty} {values : List (Option Value)} {m : Method}
    {c : Call} (h : d.Reaches id name requested values m c) :
    d'.Reaches id name requested values m c where
  found := by
    rw [contract_of_bind hd', ← contract_of_bind hd]
    exact h.found
  declared := h.declared
  call := h.call

section SameAddress

variable (hd : bind contract cfg a = .ok d) (hd' : bind contract other a = .ok d')
  (agree : cfg.AgreesUpTo .resultTransformed other)
include hd hd' agree

/-- At one address, dispatchers of a contract whose policies do the same answer alike if they answer
alike the calls that bodies make. -/
theorem invoke_congr_of_nested {depth : Nat} (alike : d'.nested depth = d.nested depth) :
    d'.invoke depth = d.invoke depth := by
  funext id name requested values s
  obtain ⟨e, -, stops⟩ | ⟨m, c, reaches⟩ := stops_or_reaches hd depth id name requested values s
  · rw [stops hd, stops hd']
  · have reaches' := reaches.elsewhere hd hd'
    obtain ⟨rfl, -⟩ := bind_eq_ok_iff.1 hd
    obtain ⟨rfl, -⟩ := bind_eq_ok_iff.1 hd'
    have routes : (layOut contract other a).runRoute ((layOut contract other a).nested depth)
          (other.route m) c s =
        (layOut contract cfg a).runRoute ((layOut contract cfg a).nested depth)
          (cfg.route m) c s := by
      rw [alike]
      cases hk : m.kind with
      | message =>
        simp only [Configuration.route, hk, runRoute, Configuration.pipeline_run_congr agree]
      | identity | provided =>
        simp only [Configuration.route, hk]
        rfl
    rw [invoke_of_reaches hd reaches, invoke_of_reaches hd' reaches', routes]

/-- The same without a condition on the calls of bodies, at every depth. -/
theorem invoke_congr (depth : Nat) : d'.invoke depth = d.invoke depth := by
  induction depth with
  | zero => exact invoke_congr_of_nested hd hd' agree rfl
  | succ depth ih => exact invoke_congr_of_nested hd hd' agree ih

end SameAddress

section TwoAddresses

variable (hd : bind contract cfg a = .ok d) (hd' : bind contract other b = .ok d')
include hd hd'

/-- Calls of an identity method fail at the final check alike, whatever the addresses. -/
theorem invoke_identity_of_error {id : Identity} {name : String} {requested : Ty}
    {values : List (Option Value)} {m : Method} {c : Call}
    (reaches : d.Reaches id name requested values m c) {which : IdentityMethod}
    (hk : m.kind = .identity which) (produces : which.produces ≠ requested) (depth : Nat)
    (s : Installation) :
    d'.invoke depth id name requested values s = d.invoke depth id name requested values s := by
  have reaches' := reaches.elsewhere hd hd'
  have fails : ∀ d : Dispatcher, deliver m.signature requested (d.answerIdentity which c) = .error
      ⟨m.signature.name, .resultTransformed,
        .returnTypeMismatch m.signature.name m.signature.returns requested⟩ := fun d =>
    deliver_eq_error_iff.2 ⟨by rwa [answerIdentity_ty], rfl⟩
  simp only [invoke_of_reaches hd reaches, invoke_of_reaches hd' reaches', Configuration.route, hk,
    runRoute, Option.map_some, Except.bind, fails]

/-- A call that reaches the route of a message method and fails there does not come to the policies
after the stage of its error. -/
theorem invoke_message_of_error {id : Identity} {name : String} {requested : Ty}
    {values : List (Option Value)} {m : Method} {c : Call}
    (reaches : d.Reaches id name requested values m c) (hk : m.kind = .message) {depth : Nat}
    {s : Installation} {r : Except DispatchError Value} (makes : cfg.Makes name c s r)
    {e : DispatchError} (he : r.bind (deliver m.signature requested) = .error e)
    (agree : cfg.AgreesUpTo e.stage other) :
    d'.invoke depth id name requested values s = d.invoke depth id name requested values s := by
  have reaches' := reaches.elsewhere hd hd'
  have runs : other.pipeline.run c s = cfg.pipeline.run c s := by
    rw [← reaches.method_name, ← Configuration.pipeline_run_eq_iff] at makes
    cases r with
    | error f =>
      cases he
      exact Configuration.pipeline_run_of_error makes agree
    | ok v =>
      obtain ⟨-, rfl⟩ := deliver_eq_error_iff.1 he
      rw [Configuration.pipeline_run_congr agree]
  simp only [invoke_of_reaches hd reaches, invoke_of_reaches hd' reaches', Configuration.route, hk,
    runRoute, runs]

end TwoAddresses

section Failures

variable (hd : bind contract cfg a = .ok d) {depth : Nat} {id : Identity} {name : String}
  {requested : Ty} {values : List (Option Value)} {s : Installation} {e : DispatchError}
  (he : (d.invoke depth id name requested values s).1 = some (.error e))
include hd he

/-- A failed call fails alike at every address, or it has run a body. -/
theorem fails_alike_or_runs_body :
    (∀ {other b d'}, bind contract other b = .ok d' → cfg.AgreesUpTo e.stage other →
        d'.invoke depth id name requested values s = d.invoke depth id name requested values s) ∨
      e.stage = .resultTransformed ∧
        ∃ m c body, d.Reaches id name requested values m c ∧ m.kind = .provided body := by
  obtain ⟨f, -, stops⟩ | ⟨m, c, reaches⟩ := stops_or_reaches hd depth id name requested values s
  · left
    intro other b d' hd' _
    rw [stops hd', stops hd]
  · obtain ⟨r, answers, hr⟩ := (invoke_eq_some_iff_of_reaches hd reaches).1 he
    generalize hk : m.kind = kind at answers
    cases answers with
    | message makes =>
      left
      intro other b d' hd' agree
      exact invoke_message_of_error hd hd' reaches hk makes hr agree
    | identity which =>
      left
      intro other b d' hd' _
      obtain ⟨produces, -⟩ := deliver_eq_error_iff.1 hr
      rw [answerIdentity_ty] at produces
      exact invoke_identity_of_error hd hd' reaches hk produces depth s
    | failed =>
      cases hr
      exact .inr ⟨rfl, m, c, _, reaches, hk⟩
    | provided =>
      obtain ⟨-, rfl⟩ := deliver_eq_error_iff.1 hr
      exact .inr ⟨rfl, m, c, _, reaches, hk⟩

/-- **Policies after the failing stage have no part in the failure.** Another configuration fails as
this one does at the address. -/
theorem invoke_eq_movedTo (hd' : bind contract other b = .ok d')
    (agree : cfg.AgreesUpTo e.stage other) :
    d'.invoke depth id name requested values s =
      (d.movedTo b).invoke depth id name requested values s := by
  have moved := bind_movedTo hd b
  obtain alike | ⟨stage, -⟩ := fails_alike_or_runs_body hd he
  · rw [alike hd' agree, alike moved (.refl _ cfg)]
  · rw [stage] at agree
    rw [invoke_congr moved hd' agree depth]

/-- A failure is the same at another address if the body that has run takes the same steps there. -/
theorem invoke_movedTo_of_error (b : UInt64)
    (steps : ∀ m c body, d.Reaches id name requested values m c → m.kind = .provided body →
      d.StepsAlikeAt b depth body c s) :
    (d.movedTo b).invoke depth id name requested values s =
      d.invoke depth id name requested values s := by
  have moved := bind_movedTo hd b
  obtain alike | ⟨-, m, c, body, reaches, hk⟩ := fails_alike_or_runs_body hd he
  · exact alike moved (.refl _ cfg)
  · have runs : (d.movedTo b).runBody depth body c s = d.runBody depth body c s :=
      (steps m c body reaches hk).run_eq
    simp only [invoke_of_reaches hd reaches, invoke_of_reaches moved (reaches.elsewhere hd moved),
      Configuration.route, hk, runRoute_provided, runs]

end Failures

/-- **Calls end at the first failure, and later policies do not matter.** A call has the outcome
that `Ends` says, and none only if it runs a body whose calls go too deep. A failed call fails alike
on every dispatcher of the contract whose policies do the same up to the stage of the error: as it
would on the first one at the address of the other; and this is as it does, unless a body has run
that takes other steps at that address. -/
theorem invoke_first_failure (hd : bind contract cfg a = .ok d) (depth : Nat) (id : Identity)
    (name : String) (requested : Ty) (values : List (Option Value)) (s : Installation) :
    (∀ outcome, (d.invoke depth id name requested values s).1 = some outcome ↔
        d.Ends cfg depth id name requested values s outcome) ∧
      ((d.invoke depth id name requested values s).1 = none ↔
        ∃ m c body, d.Reaches id name requested values m c ∧ m.kind = .provided body ∧
          (d.runBody depth body c s).1 = none) ∧
      ∀ e, (d.invoke depth id name requested values s).1 = some (.error e) →
        ∀ other b d', bind contract other b = .ok d' → cfg.AgreesUpTo e.stage other →
          d'.invoke depth id name requested values s =
              (d.movedTo b).invoke depth id name requested values s ∧
            ((∀ m c body, d.Reaches id name requested values m c → m.kind = .provided body →
                d.StepsAlikeAt b depth body c s) →
              d'.invoke depth id name requested values s =
                d.invoke depth id name requested values s) := by
  refine ⟨fun _ => invoke_eq_some_iff_ends hd, invoke_eq_none_iff hd, ?_⟩
  intro e he other b d' hd' agree
  have policies := invoke_eq_movedTo hd he hd' agree
  refine ⟨policies, fun steps => ?_⟩
  rw [policies, invoke_movedTo_of_error hd he b steps]

/-- The greeting, and a method that hands its values on to it. -/
def hails : Contract where
  name := "Hails"
  methods := Contract.withIdentity
    [greeting, .provided "hail" (.delegate ⟨[1]⟩ "greeting")]
  distinct := by decide

/-- Policies that find no keys. -/
def keyless : Configuration where
  keys := .custom (fun c => .error (.custom c.method.name "no key")) (fun _ => .ok ())

/-- Policies that find no keys either, and take no arguments. -/
def helpless : Configuration where
  keys := .custom (fun c => .error (.custom c.method.name "no key")) (fun _ => .ok ())
  arguments := .custom (fun c s => (.error (.custom c.method.name "no arguments"), s))
    (fun _ => .ok ())

theorem bind_hails : bind hails keyless 0x1f = .ok (layOut hails keyless 0x1f) :=
  rfl

theorem bind_hails_helpless : bind hails helpless 0x2f = .ok (layOut hails helpless 0x2f) :=
  rfl

theorem bind_hails_elsewhere : bind hails keyless 0x2f = .ok (layOut hails keyless 0x2f) :=
  rfl

theorem invoke_greeting_keyless :
    (layOut hails keyless 0x1f).invoke 1 ⟨[0]⟩ "greeting" .text [none, none] .start =
        (some (.error ⟨"greeting", .keyResolved, .custom "greeting" "no key"⟩), .start) ∧
      (layOut hails helpless 0x2f).invoke 1 ⟨[0]⟩ "greeting" .text [none, none] .start =
        (some (.error ⟨"greeting", .keyResolved, .custom "greeting" "no key"⟩), .start) ∧
      (layOut hails keyless 0x2f).invoke 1 ⟨[0]⟩ "hail" .text [] .start =
        (some (.error ⟨"hail", .resultTransformed, .arityMismatch "greeting" 2 0⟩), .start) := by
  obtain ⟨ends, -, alone⟩ :=
    invoke_first_failure bind_hails 1 ⟨[0]⟩ "greeting" .text [none, none] .start
  obtain ⟨-, -, delegated⟩ := invoke_first_failure bind_hails 1 ⟨[0]⟩ "hail" .text [] .start
  have fails := (ends _).2 (.failed (m := greeting) ⟨rfl, rfl, rfl⟩ (.message (.key rfl)))
  refine ⟨rfl, (alone _ fails helpless 0x2f _ bind_hails_helpless rfl).2 ?_,
    (delegated _ rfl keyless 0x2f _ bind_hails_elsewhere ⟨rfl, rfl, rfl⟩).2 ?_⟩
  · intro m c body reaches kind
    obtain rfl : greeting = m := Option.some.inj reaches.found
    cases kind
  · -- The greeting is answered alike at both addresses, and the body fails as it does.
    intro m c body reaches kind
    obtain rfl : Method.provided "hail" (.delegate ⟨[1]⟩ "greeting") = m :=
      Option.some.inj reaches.found
    obtain rfl := MethodKind.provided.inj kind
    obtain rfl := Except.ok.inj reaches.call
    exact stepsAlikeAt_delegate rfl rfl

/-- A body that fails by telling which dispatcher it was called on. -/
def tell : Body where
  identity := ⟨[2]⟩
  produces := .string
  run r c := .done (.error (.custom c.method.name r.display))

/-- A method with that body, and one whose string is declared as a text. -/
def tells : Contract where
  name := "Tells"
  methods := Contract.withIdentity
    [.provided "tell" tell, ⟨{ name := "label", returns := .text }, .provided plainLabel⟩]
  distinct := by decide

/-- With one configuration, a call fails with two errors at two addresses: its body tells them
apart. And a call of a provided method fails although its body does not. -/
theorem invoke_tell_elsewhere :
    bind tells {} 0x1f = .ok (layOut tells {} 0x1f) ∧
      bind tells {} 0x2f = .ok (layOut tells {} 0x2f) ∧
      Configuration.AgreesUpTo .resultTransformed {} {} ∧
      (layOut tells {} 0x1f).invoke 0 ⟨[0]⟩ "tell" .string [] .start =
        (some (.error ⟨"tell", .resultTransformed, .custom "tell" "TellsImpl@1f"⟩), .start) ∧
      (layOut tells {} 0x2f).invoke 0 ⟨[0]⟩ "tell" .string [] .start =
        (some (.error ⟨"tell", .resultTransformed, .custom "tell" "TellsImpl@2f"⟩), .start) ∧
      (∀ r c, plainLabel.run r c = .done (.ok "hi")) ∧
      (layOut tells {} 0x1f).invoke 0 ⟨[0]⟩ "label" .text [] .start =
        (some (.error ⟨"label", .resultTransformed,
          .returnTypeMismatch "label" .text .text⟩), .start) :=
  ⟨rfl, rfl, .refl _ _, rfl, rfl, fun _ _ => rfl, rfl⟩

end Dispatcher

end MessageDispatch
