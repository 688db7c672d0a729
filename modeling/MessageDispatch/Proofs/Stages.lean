import MessageDispatch.Proofs.AnswerType
import MessageDispatch.Proofs.MethodIds

/-!
# Stages of calls

A call of a bound contract ends at the first thing that goes wrong, and the error says where: `Ends`
lists the ways to end, for any policies and any bodies. The hypotheses of each constructor are what
went well before and what then went wrong.
-/

namespace MessageDispatch

/-- What the policies make of a call: the error of the first that fails, else a value. -/
inductive Configuration.Makes (cfg : Configuration) (name : String) (c : Call) (s : Installation) :
    Except DispatchError Value → Prop where
  | key {e : InvocationError} (resolved : cfg.keys.resolve c = .error e) :
      Makes cfg name c s (.error ⟨name, .keyResolved, e⟩)
  | arguments {key : String} {e : InvocationError} {after : Installation}
      (resolved : cfg.keys.resolve c = .ok key)
      (adapted : cfg.arguments.adapt c s = (.error e, after)) :
      Makes cfg name c s (.error ⟨name, .argumentsAdapted, e⟩)
  | result {key : String} {inputs : List Input} {e : InvocationError} {after : Installation}
      (resolved : cfg.keys.resolve c = .ok key)
      (adapted : cfg.arguments.adapt c s = (.ok inputs, after))
      (transformed : cfg.results.transform ⟨key, inputs⟩ c = .error e) :
      Makes cfg name c s (.error ⟨name, .resultTransformed, e⟩)
  | value {key : String} {inputs : List Input} {v : Value} {after : Installation}
      (resolved : cfg.keys.resolve c = .ok key)
      (adapted : cfg.arguments.adapt c s = (.ok inputs, after))
      (transformed : cfg.results.transform ⟨key, inputs⟩ c = .ok v) : Makes cfg name c s (.ok v)

theorem Configuration.pipeline_run_eq_iff {cfg : Configuration} {c : Call} {s : Installation}
    {r : Except DispatchError Value} :
    (cfg.pipeline.run c s).1 = r ↔ cfg.Makes c.method.name c s r := by
  simp only [Pipeline.run, pipeline]
  constructor
  · rintro rfl
    cases hk : cfg.keys.resolve c with
    | error e => exact .key hk
    | ok key =>
      rcases ha : cfg.arguments.adapt c s with ⟨e | inputs, after⟩
      · exact .arguments hk ha
      · dsimp only
        cases hr : cfg.results.transform ⟨key, inputs⟩ c with
        | error e => exact .result hk ha hr
        | ok v => exact .value hk ha hr
  · intro h
    cases h with
    | key resolved => simp only [resolved]
    | arguments resolved adapted => simp only [resolved, adapted]
    | result resolved adapted transformed | value resolved adapted transformed =>
      simp only [resolved, adapted, transformed]

namespace Dispatcher

variable {contract : Contract} {cfg : Configuration} {address : UInt64} {d : Dispatcher}

/-- Runs the body of a provided method for a call. -/
def runBody (d : Dispatcher) (depth : Nat) (body : Body) (c : Call) (s : Installation) :
    Option (Except InvocationError body.produces.Carrier) × Installation :=
  (body.run d.receiver c).run (d.nested depth) c.identity 0 s

/-- What the route of a method answers to a call of the name. -/
inductive Answers (d : Dispatcher) (cfg : Configuration) (depth : Nat) (name : String) (c : Call)
    (s : Installation) : MethodKind → Except DispatchError Value → Prop where
  | message {r : Except DispatchError Value} (makes : cfg.Makes name c s r) :
      Answers d cfg depth name c s .message r
  | identity (which : IdentityMethod) :
      Answers d cfg depth name c s (.identity which) (.ok (d.answerIdentity which c))
  | failed {body : Body} {e : InvocationError}
      (run : (d.runBody depth body c s).1 = some (.error e)) :
      Answers d cfg depth name c s (.provided body) (.error ⟨name, .resultTransformed, e⟩)
  | provided {body : Body} {x : body.produces.Carrier}
      (run : (d.runBody depth body c s).1 = some (.ok x)) :
      Answers d cfg depth name c s (.provided body) (.ok (.of body.produces x))

/-- A call reaches the route of a method: the method has the name, the call asks for its declared
type, and there is one value for each of its parameters. -/
structure Reaches (d : Dispatcher) (id : Identity) (name : String) (requested : Ty)
    (values : List (Option Value)) (m : Method) (c : Call) : Prop where
  found : d.contract.method? name = some m
  declared : requested = m.signature.returns
  call : Call.of? id m.signature values = .ok c

/-- How a call ends, in the order in which things are looked at. -/
inductive Ends (d : Dispatcher) (cfg : Configuration) (depth : Nat) (id : Identity) (name : String)
    (requested : Ty) (values : List (Option Value)) (s : Installation) :
    Except DispatchError requested.Carrier → Prop where
  | unknown (absent : d.contract.method? name = none) :
      Ends d cfg depth id name requested values s
        (.error ⟨name, .built, .unknownMethod d.contract.name name⟩)
  | returnType {m : Method} (found : d.contract.method? name = some m)
      (other : requested ≠ m.signature.returns) :
      Ends d cfg depth id name requested values s
        (.error ⟨name, .built, .returnTypeMismatch name m.signature.returns requested⟩)
  | arity {m : Method} (found : d.contract.method? name = some m)
      (declared : requested = m.signature.returns)
      (count : values.length ≠ m.signature.parameters.length) :
      Ends d cfg depth id name requested values s
        (.error ⟨name, .built, .arityMismatch name m.signature.parameters.length values.length⟩)
  | failed {m : Method} {c : Call} {e : DispatchError}
      (reaches : d.Reaches id name requested values m c)
      (answers : d.Answers cfg depth name c s m.kind (.error e)) :
      Ends d cfg depth id name requested values s (.error e)
  | mistyped {m : Method} {c : Call} {v : Value} (reaches : d.Reaches id name requested values m c)
      (answers : d.Answers cfg depth name c s m.kind (.ok v)) (other : v.ty ≠ requested) :
      Ends d cfg depth id name requested values s
        (.error ⟨name, .resultTransformed,
          .returnTypeMismatch name m.signature.returns requested⟩)
  | returned {m : Method} {c : Call} {x : requested.Carrier}
      (reaches : d.Reaches id name requested values m c)
      (answers : d.Answers cfg depth name c s m.kind (.ok (.of requested x))) :
      Ends d cfg depth id name requested values s (.ok x)

/-- What a body leaves, as the answer to a call. -/
def ofBody (name : String) (body : Body) :
    Except InvocationError body.produces.Carrier → Except DispatchError Value
  | .error e => .error ⟨name, .resultTransformed, e⟩
  | .ok x => .ok (.of body.produces x)

theorem runRoute_provided (d : Dispatcher) (depth : Nat) (body : Body) (c : Call)
    (s : Installation) :
    d.runRoute (d.nested depth) (.provided body) c s =
      ((d.runBody depth body c s).1.map (ofBody c.method.name body),
        (d.runBody depth body c s).2) := by
  simp only [runRoute]
  rw [← runBody]
  rcases d.runBody depth body c s with ⟨_ | e | x, after⟩ <;> rfl

theorem runRoute_eq_some_iff {m : Method} {depth : Nat} {c : Call} {s : Installation}
    {r : Except DispatchError Value} :
    (d.runRoute (d.nested depth) (cfg.route m) c s).1 = some r ↔
      d.Answers cfg depth c.method.name c s m.kind r := by
  rw [Configuration.route]
  cases m.kind with
  | message =>
    simp only [runRoute]
    rw [Option.some.injEq, Configuration.pipeline_run_eq_iff]
    constructor
    · exact .message
    · rintro ⟨makes⟩
      exact makes
  | identity which =>
    simp only [runRoute]
    rw [Option.some.injEq]
    constructor
    · rintro rfl
      exact .identity which
    · rintro ⟨⟩
      rfl
  | provided body =>
    rw [runRoute_provided, Option.map_eq_some_iff]
    constructor
    · rintro ⟨e | x, run, rfl⟩
      · exact .failed run
      · exact .provided run
    · intro h
      cases h with
      | failed run | provided run => exact ⟨_, run, rfl⟩

theorem Reaches.method_name {id : Identity} {name : String} {requested : Ty}
    {values : List (Option Value)} {m : Method} {c : Call}
    (h : d.Reaches id name requested values m c) : c.method.name = name := by
  rw [Call.method_of_of? h.call]
  exact (Contract.method?_eq_some_iff.1 h.found).2

theorem invoke_of_absent (hd : bind contract cfg address = .ok d) {name : String}
    (absent : contract.method? name = none) (depth : Nat) (id : Identity) (requested : Ty)
    (values : List (Option Value)) (s : Installation) :
    d.invoke depth id name requested values s =
      (some (.error ⟨name, .built, .unknownMethod contract.name name⟩), s) := by
  have no_place : d.methodId? name = none := by
    rw [← Option.isNone_iff_eq_none, ← Option.not_isSome, isSome_methodId? hd, absent]
    rfl
  obtain ⟨rfl, -⟩ := bind_eq_ok_iff.1 hd
  cases depth <;> simp only [invoke, invokeName, no_place] <;> rfl

theorem contract_of_bind (hd : bind contract cfg address = .ok d) : d.contract = contract := by
  obtain ⟨rfl, -⟩ := bind_eq_ok_iff.1 hd
  rfl

/-- A call that reaches a route delivers what the route answers. -/
theorem invoke_of_reaches (hd : bind contract cfg address = .ok d) {id : Identity} {name : String}
    {requested : Ty} {values : List (Option Value)} {m : Method} {c : Call}
    (h : d.Reaches id name requested values m c) (depth : Nat) (s : Installation) :
    d.invoke depth id name requested values s =
      ((d.runRoute (d.nested depth) (cfg.route m) c s).1.map
          (·.bind (deliver m.signature requested)),
        (d.runRoute (d.nested depth) (cfg.route m) c s).2) := by
  obtain ⟨hm, rfl⟩ := Contract.method?_eq_some_iff.1 h.found
  rw [contract_of_bind hd] at hm
  rw [invoke_eq hd hm, invokeRoute, if_pos h.declared, h.call]
  dsimp only
  rcases d.runRoute (d.nested depth) (cfg.route m) c s with ⟨_ | e | v, after⟩ <;> rfl

theorem invoke_eq_some_iff_of_reaches (hd : bind contract cfg address = .ok d) {id : Identity}
    {name : String} {requested : Ty} {values : List (Option Value)} {m : Method} {c : Call}
    (h : d.Reaches id name requested values m c) {depth : Nat} {s : Installation}
    {outcome : Except DispatchError requested.Carrier} :
    (d.invoke depth id name requested values s).1 = some outcome ↔
      ∃ r, d.Answers cfg depth name c s m.kind r ∧
        r.bind (deliver m.signature requested) = outcome := by
  rw [invoke_of_reaches hd h, Option.map_eq_some_iff]
  simp only [runRoute_eq_some_iff, h.method_name]

/-- Every call of a bound contract stops short of the routes, whatever dispatcher of the contract it
is made on, or reaches a route. -/
theorem stops_or_reaches (hd : bind contract cfg address = .ok d) (depth : Nat) (id : Identity)
    (name : String) (requested : Ty) (values : List (Option Value)) (s : Installation) :
    (∃ e, d.Ends cfg depth id name requested values s (.error e) ∧
        ∀ {cfg' address' d'}, bind contract cfg' address' = .ok d' →
          d'.invoke depth id name requested values s = (some (.error e), s)) ∨
      ∃ m c, d.Reaches id name requested values m c := by
  have same := contract_of_bind hd
  cases found : contract.method? name with
  | none =>
    left
    refine ⟨_, .unknown (same ▸ found), fun hd' => ?_⟩
    rw [invoke_of_absent hd' found, same]
  | some m =>
    obtain ⟨hm, rfl⟩ := Contract.method?_eq_some_iff.1 found
    rw [← same] at found
    by_cases declared : requested = m.signature.returns
    · by_cases count : values.length = m.signature.parameters.length
      · right
        exact ⟨m, ⟨m.signature, values, id, count⟩, found, declared, by simp [Call.of?, count]⟩
      · left
        subst declared
        exact ⟨_, .arity found rfl count, fun hd' => invoke_of_length_ne hd' hm count depth id s⟩
    · left
      exact ⟨_, .returnType found declared,
        fun hd' => invoke_of_ne hd' hm declared values depth id s⟩

theorem deliver_eq_ok_iff {m : Signature} {t : Ty} {v : Value} {x : t.Carrier} :
    deliver m t v = .ok x ↔ v = .of t x := by
  rw [← Value.as?_eq_some_iff, deliver]
  cases v.as? t with
  | none => simp
  | some y => simp

/-- **The first failure is the one reported.** -/
theorem invoke_eq_some_iff_ends (hd : bind contract cfg address = .ok d) {depth : Nat}
    {id : Identity} {name : String} {requested : Ty} {values : List (Option Value)}
    {s : Installation} {outcome : Except DispatchError requested.Carrier} :
    (d.invoke depth id name requested values s).1 = some outcome ↔
      d.Ends cfg depth id name requested values s outcome := by
  have same := contract_of_bind hd
  constructor
  · intro h
    obtain ⟨e, ends, stops⟩ | ⟨m, c, reaches⟩ :=
      stops_or_reaches hd depth id name requested values s
    · rw [stops hd] at h
      cases h
      exact ends
    · obtain ⟨r, answers, hr⟩ := (invoke_eq_some_iff_of_reaches hd reaches).1 h
      obtain rfl := (Contract.method?_eq_some_iff.1 reaches.found).2
      cases r with
      | error e =>
        cases hr
        exact .failed reaches answers
      | ok v =>
        rw [Except.bind] at hr
        cases outcome with
        | error e =>
          obtain ⟨other, rfl⟩ := deliver_eq_error_iff.1 hr
          exact .mistyped reaches answers other
        | ok x =>
          obtain rfl := deliver_eq_ok_iff.1 hr
          exact .returned reaches answers
  · intro h
    cases h with
    | unknown absent =>
      rw [same] at absent ⊢
      rw [invoke_of_absent hd absent]
    | returnType found other =>
      obtain ⟨hm, rfl⟩ := Contract.method?_eq_some_iff.1 (same ▸ found)
      rw [invoke_of_ne hd hm other]
      rfl
    | arity found declared count =>
      subst declared
      obtain ⟨hm, rfl⟩ := Contract.method?_eq_some_iff.1 (same ▸ found)
      rw [invoke_of_length_ne hd hm count]
      rfl
    | failed reaches answers =>
      exact (invoke_eq_some_iff_of_reaches hd reaches).2 ⟨_, answers, rfl⟩
    | mistyped reaches answers other =>
      obtain rfl := (Contract.method?_eq_some_iff.1 reaches.found).2
      exact (invoke_eq_some_iff_of_reaches hd reaches).2
        ⟨_, answers, deliver_eq_error_iff.2 ⟨other, rfl⟩⟩
    | returned reaches answers =>
      exact (invoke_eq_some_iff_of_reaches hd reaches).2 ⟨_, answers, deliver_of _ _ _⟩

/-- A call has no outcome if it runs a body whose calls go too deep. -/
theorem invoke_eq_none_iff (hd : bind contract cfg address = .ok d) {depth : Nat} {id : Identity}
    {name : String} {requested : Ty} {values : List (Option Value)} {s : Installation} :
    (d.invoke depth id name requested values s).1 = none ↔
      ∃ m c body, d.Reaches id name requested values m c ∧ m.kind = .provided body ∧
        (d.runBody depth body c s).1 = none := by
  constructor
  · intro h
    obtain ⟨e, -, stops⟩ | ⟨m, c, reaches⟩ :=
      stops_or_reaches hd depth id name requested values s
    · rw [stops hd] at h
      cases h
    · rw [invoke_of_reaches hd reaches, Option.map_eq_none_iff, Configuration.route] at h
      cases hk : m.kind with
      | message | identity => simp [hk, runRoute] at h
      | provided body =>
        simp only [hk, runRoute_provided, Option.map_eq_none_iff] at h
        exact ⟨m, c, body, reaches, hk, h⟩
  · rintro ⟨m, c, body, reaches, hk, h⟩
    simp only [invoke_of_reaches hd reaches, Configuration.route, hk, runRoute_provided, h,
      Option.map_none]

end Dispatcher

end MessageDispatch
