import MessageDispatch.Proofs.BuiltIn
import MessageDispatch.Proofs.Table

/-!
# Calls of message methods

Under built-in policies a call of a bound message method has an outcome at every depth, and fails
for a fault of the caller only: another type was asked for than the declared one, the number of
values is wrong, or a value is not one for its parameter. Of several faults the first in this order
is reported, and of several values the first.
-/

namespace MessageDispatch

/-- What the built-in policies make of the call of an accepted method: the error of its arguments,
or the value of its node. -/
theorem Configuration.run_of_accept {cfg : Configuration} (hb : cfg.BuiltIn) {c : Call}
    (h : cfg.accept c.method = .ok ()) (s : Installation) :
    (∃ e after, cfg.arguments.adapt c s = (.error e, after) ∧
        cfg.pipeline.run c s = (.error ⟨c.method.name, .argumentsAdapted, e⟩, after)) ∨
      ∃ key inputs after x, c.method.key = some key ∧
        cfg.arguments.adapt c s = (.ok inputs, after) ∧
        cfg.pipeline.run c s = (.ok (.of c.method.returns x), after) ∧
        cfg.results.Yields ⟨key, inputs⟩ c.method.returns x := by
  obtain ⟨hkeys, harguments, hresults⟩ := cfg.accept_eq_ok_iff.1 h
  rw [hb.keys] at hkeys
  obtain ⟨key, hkey, -⟩ := KeyPolicy.key_of_accept hkeys
  have resolved : cfg.pipeline.keys.resolve c = .ok key := by
    simp [Configuration.pipeline, hb.keys, KeyPolicy.resolve, hkey]
  rw [Pipeline.run, resolved]
  rcases ha : cfg.arguments.adapt c s with ⟨e | inputs, after⟩
  · left
    refine ⟨e, after, rfl, ?_⟩
    simp [Configuration.pipeline, ha]
  · right
    obtain ⟨x, hx, hy⟩ := ResultPolicy.transform_of_accept hb.results hresults ⟨key, inputs⟩
    refine ⟨key, inputs, after, x, hkey, rfl, ?_, hy⟩
    simp [Configuration.pipeline, ha, hx]

/-- The error that the call of a message method owes to its caller: for the requested type, else for
the number of values, else for the first value that its parameter does not accept. -/
inductive CallerFault (takesTarget : Parameter → Bool) (m : Signature) (requested : Ty)
    (values : List (Option Value)) : DispatchError → Prop where
  | returnType (other : requested ≠ m.returns) :
      CallerFault takesTarget m requested values
        ⟨m.name, .built, .returnTypeMismatch m.name m.returns requested⟩
  | arity (declared : requested = m.returns) (count : values.length ≠ m.parameters.length) :
      CallerFault takesTarget m requested values
        ⟨m.name, .built, .arityMismatch m.name m.parameters.length values.length⟩
  | null (declared : requested = m.returns) (count : values.length = m.parameters.length)
      {i : Nat} {q : Parameter} (parameter : m.parameters[i]? = some q)
      (value : values[i]? = some none) (refused : q.nullable = false)
      (least : ∀ j < i, ∀ r v, m.parameters[j]? = some r → values[j]? = some v →
        r.Accepts takesTarget v) :
      CallerFault takesTarget m requested values
        ⟨m.name, .argumentsAdapted, .nullArgument m.name q.label⟩
  | mistyped (declared : requested = m.returns) (count : values.length = m.parameters.length)
      {i : Nat} {q : Parameter} {v : Value} (parameter : m.parameters[i]? = some q)
      (value : values[i]? = some (some v)) (refused : ¬ q.Accepts takesTarget (some v))
      (least : ∀ j < i, ∀ r v, m.parameters[j]? = some r → values[j]? = some v →
        r.Accepts takesTarget v) :
      CallerFault takesTarget m requested values
        ⟨m.name, .argumentsAdapted, .typeMismatch m.name i q.type⟩

/-- The first fault among the arguments is the caller's fault for the values. -/
theorem callerFault_iff_findSome? {takesTarget : Parameter → Bool} {m : Signature}
    {values : List (Option Value)} (count : values.length = m.parameters.length)
    {e : DispatchError} :
    CallerFault takesTarget m m.returns values e ↔
      ∃ f, (Supplied.pair 0 m.parameters values).findSome? (·.fault? takesTarget m.name) = some f ∧
        e = ⟨m.name, .argumentsAdapted, f⟩ := by
  constructor
  · intro h
    -- Before the least place every argument is accepted, so the search finds nothing there.
    have least_fault : ∀ {i : Nat}, (∀ j < i, ∀ r v, m.parameters[j]? = some r →
        values[j]? = some v → r.Accepts takesTarget v) →
        ∀ j < i, ∀ a, (Supplied.pair 0 m.parameters values)[j]? = some a →
          a.fault? takesTarget m.name = none := by
      intro i least j hj a ha
      obtain ⟨hp, hv, -⟩ := Supplied.getElem?_pair_eq_some_iff.1 ha
      exact Supplied.fault?_eq_none_iff.2 (least j hj _ _ hp hv)
    cases h with
    | returnType other => exact absurd rfl other
    | arity _ h => exact absurd count h
    | @null _ _ i q parameter value refused least =>
      refine ⟨_, findSome?_eq_some_iff_least.2 ⟨i, ⟨q, none, i⟩, ?_, ?_, least_fault least⟩, rfl⟩
      · exact Supplied.getElem?_pair_eq_some_iff.2 ⟨parameter, value, (Nat.zero_add i).symm⟩
      · exact Supplied.fault?_of_not_accepts (by simp [Parameter.Accepts, Parameter.Admits, refused])
    | @mistyped _ _ i q v parameter value refused least =>
      refine ⟨_, findSome?_eq_some_iff_least.2 ⟨i, ⟨q, some v, i⟩, ?_, ?_, least_fault least⟩, rfl⟩
      · exact Supplied.getElem?_pair_eq_some_iff.2 ⟨parameter, value, (Nat.zero_add i).symm⟩
      · exact Supplied.fault?_of_not_accepts refused
  · rintro ⟨f, hf, rfl⟩
    obtain ⟨i, ⟨q, v, k⟩, ha, hfault, none_before⟩ := findSome?_eq_some_iff_least.1 hf
    obtain ⟨parameter, value, hk⟩ := Supplied.getElem?_pair_eq_some_iff.1 ha
    obtain rfl : k = i := hk.trans (Nat.zero_add i)
    have refused : ¬ q.Accepts takesTarget v := fun h => by
      rw [Supplied.fault?_eq_none_iff.2 h] at hfault
      cases hfault
    have least : ∀ j < k, ∀ r w, m.parameters[j]? = some r → values[j]? = some w →
        r.Accepts takesTarget w := by
      intro j hj r w hr hw
      exact Supplied.fault?_eq_none_iff.1 (none_before j hj ⟨r, w, j⟩
        (Supplied.getElem?_pair_eq_some_iff.2 ⟨hr, hw, (Nat.zero_add j).symm⟩))
    rw [Supplied.fault?_of_not_accepts refused] at hfault
    cases v with
    | none =>
      cases hfault
      refine .null rfl count parameter value ?_ least
      simpa [Parameter.Accepts, Parameter.Admits] using refused
    | some v =>
      cases hfault
      exact .mistyped rfl count parameter value refused least

/-- The requested type is looked at first. -/
theorem callerFault_of_ne {takesTarget : Parameter → Bool} {m : Signature} {requested : Ty}
    (other : requested ≠ m.returns) {values : List (Option Value)} {e : DispatchError} :
    CallerFault takesTarget m requested values e ↔
      e = ⟨m.name, .built, .returnTypeMismatch m.name m.returns requested⟩ := by
  constructor
  · intro h
    cases h with
    | returnType => rfl
    | arity declared | null declared | mistyped declared => exact absurd declared other
  · rintro rfl
    exact .returnType other

/-- The number of values is looked at next. -/
theorem callerFault_of_length_ne {takesTarget : Parameter → Bool} {m : Signature}
    {values : List (Option Value)} (count : values.length ≠ m.parameters.length)
    {e : DispatchError} :
    CallerFault takesTarget m m.returns values e ↔
      e = ⟨m.name, .built, .arityMismatch m.name m.parameters.length values.length⟩ := by
  constructor
  · intro h
    cases h with
    | returnType other => exact absurd rfl other
    | arity => rfl
    | null _ same | mistyped _ same => exact absurd same count
  · rintro rfl
    exact .arity rfl count

/-- Faults of the caller are of four kinds. -/
theorem CallerFault.code_mem {takesTarget : Parameter → Bool} {m : Signature} {requested : Ty}
    {values : List (Option Value)} {e : DispatchError}
    (h : CallerFault takesTarget m requested values e) :
    e.source.code ∈
      ["return_type_mismatch", "arity_mismatch", "null_argument", "type_mismatch"] := by
  cases h <;> simp [InvocationError.code]

namespace Dispatcher

variable {contract : Contract} {cfg : Configuration} {address : UInt64} {d : Dispatcher} {m : Method}

/-- Of a bound method no other type than the declared one can be asked for. -/
theorem invoke_of_ne (hd : bind contract cfg address = .ok d) (hm : m ∈ contract.methods)
    {requested : Ty} (other : requested ≠ m.signature.returns) (values : List (Option Value))
    (depth : Nat) (id : Identity) (s : Installation) :
    d.invoke depth id m.name requested values s =
      (some (.error ⟨m.signature.name, .built,
        .returnTypeMismatch m.signature.name m.signature.returns requested⟩), s) := by
  rw [invoke_eq hd hm, invokeRoute, if_neg other]

/-- A bound method takes one value for each parameter. -/
theorem invoke_of_length_ne (hd : bind contract cfg address = .ok d) (hm : m ∈ contract.methods)
    {values : List (Option Value)} (count : values.length ≠ m.signature.parameters.length)
    (depth : Nat) (id : Identity) (s : Installation) :
    d.invoke depth id m.name m.signature.returns values s =
      (some (.error ⟨m.signature.name, .built,
        .arityMismatch m.signature.name m.signature.parameters.length values.length⟩), s) := by
  have hcall : Call.of? id m.signature values =
      .error (.arityMismatch m.signature.name m.signature.parameters.length values.length) := by
    simp [Call.of?, count]
  rw [invoke_eq hd hm, invokeRoute, if_pos rfl, hcall]

@[simp] theorem deliver_of (m : Signature) (t : Ty) (x : t.Carrier) :
    deliver m t (.of t x) = .ok x := by
  simp [deliver]

/-- A call of a bound message method with the declared type and the right number of values. -/
theorem invoke_message (hb : cfg.BuiltIn) (hd : bind contract cfg address = .ok d)
    (hm : m ∈ contract.methods) (hk : m.kind = .message) {values : List (Option Value)}
    (hl : values.length = m.signature.parameters.length) (depth : Nat) (id : Identity)
    (s : Installation) :
    (∃ e after, cfg.arguments.adapt ⟨m.signature, values, id, hl⟩ s = (.error e, after) ∧
        d.invoke depth id m.name m.signature.returns values s =
          (some (.error ⟨m.name, .argumentsAdapted, e⟩), after)) ∨
      ∃ key inputs after x, m.signature.key = some key ∧
        cfg.arguments.adapt ⟨m.signature, values, id, hl⟩ s = (.ok inputs, after) ∧
        d.invoke depth id m.name m.signature.returns values s = (some (.ok x), after) ∧
        cfg.results.Yields ⟨key, inputs⟩ m.signature.returns x := by
  have hroute : cfg.route m = .message cfg.pipeline := by simp [Configuration.route, hk]
  have hcall : Call.of? id m.signature values = .ok ⟨m.signature, values, id, hl⟩ := by
    simp [Call.of?, hl]
  have hinvoke : d.invoke depth id m.name m.signature.returns values s =
      d.invokeRoute (d.nested depth) m.signature (.message cfg.pipeline) id m.signature.returns
        values s := by
    rw [invoke_eq hd hm, hroute]
  rw [hinvoke, invokeRoute, if_pos rfl, hcall]
  obtain ⟨e, after, ha, hrun⟩ | ⟨key, inputs, after, x, hkey, ha, hrun, hy⟩ :=
    cfg.run_of_accept hb (c := ⟨m.signature, values, id, hl⟩) (accept_of_bind hd hm hk) s
  · left
    refine ⟨e, after, ha, ?_⟩
    simp only [runRoute, hrun]
    rfl
  · right
    refine ⟨key, inputs, after, x, hkey, ha, ?_, hy⟩
    simp only [runRoute, hrun, deliver_of]

/-- **Bound contracts serve correct calls.** A call of a message method with admitted values
returns what the result policy makes of the node with the declared key and the adapted inputs. -/
theorem invoke_of_admits (hb : cfg.BuiltIn) (hd : bind contract cfg address = .ok d)
    (hm : m ∈ contract.methods) (hk : m.kind = .message) {values : List (Option Value)}
    (hv : m.signature.Admits values) (depth : Nat) (id : Identity) (s : Installation) :
    ∃ c key inputs after x, Call.of? id m.signature values = .ok c ∧
      m.signature.key = some key ∧
      cfg.arguments.adapt c s = (.ok inputs, after) ∧
      d.invoke depth id m.name m.signature.returns values s = (some (.ok x), after) ∧
      cfg.results.Yields ⟨key, inputs⟩ m.signature.returns x := by
  have hl : values.length = m.signature.parameters.length := hv.length_eq.symm
  let c : Call := ⟨m.signature, values, id, hl⟩
  have hcall : Call.of? id m.signature values = .ok c := by simp [Call.of?, hl, c]
  have harguments := (cfg.accept_eq_ok_iff.1 (accept_of_bind hd hm hk)).2.1
  have passes : failure? (cfg.arguments.adapt c s).1 = none := by
    rw [ArgumentPolicy.failure?_adapt hb.arguments harguments, List.findSome?_eq_none_iff]
    intro a ha
    exact Supplied.fault?_of_admits (Supplied.forall_pair hv a ha) _ _
  obtain ⟨e, after, ha, -⟩ | ⟨key, inputs, after, x, hkey, ha, hinvoke, hy⟩ :=
    invoke_message hb hd hm hk hl depth id s
  · rw [ha] at passes
    cases passes
  · exact ⟨c, key, inputs, after, x, hcall, hkey, ha, hinvoke, hy⟩

/-- A greeting of somebody by name, which may be told whom it is for. -/
def greeting : Method :=
  .message
    { name := "greeting"
      key := some "message.greeting"
      parameters :=
        [{ type := .string, name := some "name" },
          { type := .host "Player", asTarget := true, nullable := true }] }

/-- The greeting, and the identity methods. -/
def greetings : Contract where
  name := "Greetings"
  methods := Contract.withIdentity [greeting]
  distinct := by decide

/-- The greetings, bound with the default configuration. -/
def greeter : Dispatcher :=
  layOut greetings {} 0x1f

theorem bind_greetings : bind greetings {} 0x1f = .ok greeter :=
  rfl

theorem builtIn_default : Configuration.BuiltIn {} :=
  ⟨rfl, trivial, trivial⟩

theorem invoke_greeting_to_player :
    greeter.invoke 0 ⟨[0]⟩ "greeting" .text
        [some (.string "Ada"), some (.host "Player" "P1")] .start =
      (some (.ok (.translatable ⟨"message.greeting",
        [.named "name" (.component (.literal "Ada")),
          .target ⟨.host "Player" "P1", ⟨[1, 0]⟩⟩]⟩)), .start) := by
  have admitted : greeting.signature.Admits
      [some (.string "Ada"), some (.host "Player" "P1")] := by
    unfold Signature.Admits
    decide
  obtain ⟨c, key, inputs, after, x, hc, hkey, ha, hinvoke, hy⟩ :=
    invoke_of_admits builtIn_default bind_greetings (m := greeting) List.mem_cons_self rfl
      admitted 0 ⟨[0]⟩ .start
  cases hc
  cases hkey
  cases ha
  cases hy
  exact hinvoke

/-- A call of a bound message method with the declared type and the right number of values fails as
the first fault among its arguments. -/
theorem failure?_invoke_message (hb : cfg.BuiltIn) (hd : bind contract cfg address = .ok d)
    (hm : m ∈ contract.methods) (hk : m.kind = .message) {values : List (Option Value)}
    (count : values.length = m.signature.parameters.length) (depth : Nat) (id : Identity)
    (s : Installation) :
    ∃ outcome, (d.invoke depth id m.name m.signature.returns values s).1 = some outcome ∧
      failure? outcome =
        ((Supplied.pair 0 m.signature.parameters values).findSome?
          (·.fault? cfg.arguments.takesTarget m.signature.name)).map
            (⟨m.signature.name, .argumentsAdapted, ·⟩) := by
  have harguments := (cfg.accept_eq_ok_iff.1 (accept_of_bind hd hm hk)).2.1
  have faults := ArgumentPolicy.failure?_adapt hb.arguments
    (c := ⟨m.signature, values, id, count⟩) harguments s
  rw [Call.arguments] at faults
  obtain ⟨f, after, ha, hinvoke⟩ | ⟨key, inputs, after, x, -, ha, hinvoke, -⟩ :=
    invoke_message hb hd hm hk count depth id s
  · rw [ha] at faults
    refine ⟨_, by rw [hinvoke], ?_⟩
    rw [← faults]
    rfl
  · rw [ha] at faults
    refine ⟨_, by rw [hinvoke], ?_⟩
    rw [← faults]
    rfl

/-- A call of a bound message method has an outcome, and its errors are the caller's faults. -/
theorem invoke_message_outcome (hb : cfg.BuiltIn) (hd : bind contract cfg address = .ok d)
    (hm : m ∈ contract.methods) (hk : m.kind = .message) (requested : Ty)
    (values : List (Option Value)) (depth : Nat) (id : Identity) (s : Installation) :
    ∃ outcome, (d.invoke depth id m.name requested values s).1 = some outcome ∧
      ∀ e, outcome = .error e ↔
        CallerFault cfg.arguments.takesTarget m.signature requested values e := by
  by_cases declared : requested = m.signature.returns
  · subst declared
    by_cases count : values.length = m.signature.parameters.length
    · obtain ⟨outcome, houtcome, hfailure⟩ :=
        failure?_invoke_message hb hd hm hk count depth id s
      refine ⟨outcome, houtcome, fun e => ?_⟩
      rw [← failure?_eq_some_iff, hfailure, Option.map_eq_some_iff,
        callerFault_iff_findSome? count]
      simp only [eq_comm]
    · refine ⟨_, by rw [invoke_of_length_ne hd hm count], fun e => ?_⟩
      rw [callerFault_of_length_ne count, Except.error.injEq, eq_comm]
  · refine ⟨_, by rw [invoke_of_ne hd hm declared], fun e => ?_⟩
    rw [callerFault_of_ne declared, Except.error.injEq, eq_comm]

/-- **Calls of bound message methods fail for their callers only.** The errors are the caller's
faults, the same by name and by place; nothing that was checked when the contract was bound is
reported by a call. -/
theorem invoke_error_iff_callerFault (hb : cfg.BuiltIn) (hd : bind contract cfg address = .ok d)
    {i : Nat} (hi : contract.methods[i]? = some m) (hk : m.kind = .message) (requested : Ty)
    (values : List (Option Value)) (depth : Nat) (id : Identity) (s : Installation) :
    (∀ e, (d.invoke depth id m.name requested values s).1 = some (.error e) ↔
        CallerFault cfg.arguments.takesTarget m.signature requested values e) ∧
      (d.invoke depth id m.name requested values s).1 ≠ none ∧
      (∀ e, (d.invoke depth id m.name requested values s).1 = some (.error e) →
        e.source.code ∈
          ["return_type_mismatch", "arity_mismatch", "null_argument", "type_mismatch"]) ∧
      d.invokeId depth i id requested values s = d.invoke depth id m.name requested values s := by
  obtain ⟨outcome, houtcome, herror⟩ :=
    invoke_message_outcome hb hd (List.mem_of_getElem? hi) hk requested values depth id s
  have faults : ∀ e, (d.invoke depth id m.name requested values s).1 = some (.error e) ↔
      CallerFault cfg.arguments.takesTarget m.signature requested values e := by
    intro e
    rw [houtcome, Option.some.injEq, herror]
  refine ⟨faults, ?_, fun e he => ((faults e).1 he).code_mem, ?_⟩
  · rw [houtcome]
    exact Option.some_ne_none outcome
  · exact (invoke_eq_invokeId hd hi depth id requested values s).symm

theorem invoke_greeting_null :
    (greeter.invoke 0 ⟨[0]⟩ "greeting" .text [none, none] .start).1 =
        some (.error ⟨"greeting", .argumentsAdapted, .nullArgument "greeting" "name"⟩) ∧
      greeter.invokeId 0 0 ⟨[0]⟩ .text [none, none] .start =
        greeter.invoke 0 ⟨[0]⟩ "greeting" .text [none, none] .start := by
  obtain ⟨faults, -, -, by_place⟩ :=
    invoke_error_iff_callerFault builtIn_default bind_greetings (m := greeting) (i := 0) rfl rfl
      .text [none, none] 0 ⟨[0]⟩ .start
  refine ⟨(faults _).2 ?_, by_place⟩
  refine .null rfl rfl (i := 0) (q := { type := .string, name := some "name" }) rfl rfl rfl ?_
  intro j hj
  exact absurd hj (Nat.not_lt_zero j)

end Dispatcher

end MessageDispatch
