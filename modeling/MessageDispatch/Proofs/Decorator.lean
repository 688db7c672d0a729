import Mathlib.Data.List.Induction
import MessageDispatch.Proofs.BuiltIn
import MessageDispatch.Proofs.Table

/-!
# Decorated argument policies

A decorator leaves acceptance and failure to the policy below it, and adds at most one bundle after
that policy's inputs: the placeholders of the scope that the method is marked with, which is the
scope attached last (`Signature.scope?_markAll`). Decorators over one another add one bundle each,
the innermost first (`ArgumentPolicy.adapt_decorated`). Those that take the source of the process
all find the same one (`Installation.effective?`), since probing again changes nothing.
-/

namespace MessageDispatch

/-- The scope that a marker is, if it is one. -/
def Value.scope? : Value → Option Scope
  | .scope s => some s
  | _ => none

namespace Signature

/-- Attaches markers from left to right. -/
def markAll (m : Signature) (attached : List Value) : Signature :=
  attached.foldl mark m

/-- A marker changes the scope of the method only if it is a scope itself. -/
theorem scope?_mark (m : Signature) (marker : Value) :
    (m.mark marker).scope? = marker.scope?.or m.scope? := by
  by_cases h : marker.ty = .scope
  · obtain ⟨scope, rfl⟩ : ∃ scope, marker = .scope scope := by
      cases marker <;> simp_all [Value.ty]
    have found : (m.mark (.scope scope)).marker? .scope = some (.scope scope) :=
      m.marker?_mark_self (.scope scope)
    simp [scope?, found, Value.scope?]
  · have none_found : marker.scope? = none := by
      cases marker <;> simp_all [Value.ty, Value.scope?]
    rw [none_found, Option.none_or, scope?, scope?, m.marker?_mark_of_ne h]

/-- The scope of a method is the one attached last, whatever else is attached. -/
theorem scope?_markAll (m : Signature) (attached : List Value) :
    (m.markAll attached).scope? = (attached.filterMap Value.scope?).getLast?.or m.scope? := by
  induction attached using List.reverseRecOn with
  | nil => rfl
  | append_singleton attached marker ih =>
    rw [markAll, List.foldl_append, List.foldl_cons, List.foldl_nil, ← markAll, scope?_mark, ih,
      List.filterMap_append, List.getLast?_append]
    cases h : marker.scope? <;> simp [h]

end Signature

namespace Installation

/-- The source that process-wide decorators use from now on, if they use one. -/
def effective? (s : Installation) : Option PlaceholderSource :=
  if s.probe.1 then s.installed else none

@[simp] theorem installed_probe (s : Installation) : s.probe.2.installed = s.installed := by
  unfold probe
  cases s.verdict.answer? <;> rfl

/-- A probe that was asked gives the same answer again. -/
@[simp] theorem probe_probe (s : Installation) : s.probe.2.probe = s.probe := by
  unfold probe
  cases hv : s.verdict.answer? with
  | none => simp
  | some b => simp [hv]

@[simp] theorem effective?_probe (s : Installation) : s.probe.2.effective? = s.effective? := by
  simp [effective?]

end Installation

namespace SourceBinding

/-- The source of a binding, if process-wide ones use `source`. -/
def under (source : Option PlaceholderSource) : SourceBinding → Option PlaceholderSource
  | .processWide => source
  | .explicit own => some own

/-- What using a binding does to the process: a process-wide one has it probed. -/
def ask : SourceBinding → Installation → Installation
  | .processWide, s => s.probe.2
  | .explicit _, s => s

/-- The bundles that decorators with these bindings add for a scope. -/
def bundles (source : Option PlaceholderSource) (bindings : List SourceBinding) (scope : Scope) :
    List Input :=
  bindings.filterMap fun b => (b.under source).map fun own => .bundle (own scope)

theorem source?_eq (b : SourceBinding) (s : Installation) :
    b.source? s = (b.under s.effective?, b.ask s) := by
  cases b with
  | explicit own => rfl
  | processWide =>
    rcases hp : s.probe with ⟨_ | _, after⟩
    · simp [source?, under, ask, Installation.effective?, hp]
    · have kept : after.installed = s.installed := by
        rw [← s.installed_probe, hp]
      simp [source?, under, ask, Installation.effective?, hp, kept]

@[simp] theorem effective?_ask (b : SourceBinding) (s : Installation) :
    (b.ask s).effective? = s.effective? := by
  cases b with
  | explicit own => rfl
  | processWide => exact s.effective?_probe

end SourceBinding

namespace ArgumentPolicy

/-- The policy below decorators, of which the first is the innermost. -/
def decorated (base : ArgumentPolicy) (bindings : List SourceBinding) : ArgumentPolicy :=
  bindings.foldl placeholders base

theorem decorated_cons (base : ArgumentPolicy) (b : SourceBinding) (bindings : List SourceBinding) :
    base.decorated (b :: bindings) = (base.placeholders b).decorated bindings :=
  rfl

variable {base : ArgumentPolicy} {c : Call} {s after : Installation}

/-- Decorators pass on the error of the policy below them. -/
theorem adapt_decorated_error {e : InvocationError} (h : base.adapt c s = (.error e, after))
    (bindings : List SourceBinding) : (base.decorated bindings).adapt c s = (.error e, after) := by
  induction bindings generalizing base with
  | nil => exact h
  | cons b bindings ih =>
    rw [decorated_cons]
    refine ih ?_
    rw [adapt, h]

/-- Decorators add nothing to the inputs of a method without a scope. -/
theorem adapt_decorated_unmarked {inputs : List Input} (h : base.adapt c s = (.ok inputs, after))
    (unmarked : c.method.scope? = none) (bindings : List SourceBinding) :
    (base.decorated bindings).adapt c s = (.ok inputs, after) := by
  induction bindings generalizing base with
  | nil => exact h
  | cons b bindings ih =>
    rw [decorated_cons]
    refine ih ?_
    simp only [adapt, h, decorate, unmarked]

/-- Decorators add their bundles in order, from the innermost on. -/
theorem adapt_decorated {inputs : List Input} (h : base.adapt c s = (.ok inputs, after))
    {scope : Scope} (marked : c.method.scope? = some scope) (bindings : List SourceBinding) :
    (base.decorated bindings).adapt c s =
      (.ok (inputs ++ SourceBinding.bundles after.effective? bindings scope),
        bindings.foldl (fun s b => b.ask s) after) := by
  induction bindings generalizing base inputs after with
  | nil => simpa [decorated, SourceBinding.bundles] using h
  | cons b bindings ih =>
    have first : (base.placeholders b).adapt c s =
        (.ok (inputs ++ SourceBinding.bundles after.effective? [b] scope), b.ask after) := by
      rw [adapt, h]
      simp only [decorate, marked, b.source?_eq]
      cases hu : b.under after.effective? <;> simp [SourceBinding.bundles, hu]
    rw [decorated_cons, ih first, SourceBinding.effective?_ask]
    simp only [SourceBinding.bundles, List.foldl_cons, List.append_assoc, ← List.filterMap_append,
      List.singleton_append]

/-- Decorators with sources of their own do nothing to the process. -/
theorem state_adapt_decorated {bindings : List SourceBinding} (h : .processWide ∉ bindings)
    (base : ArgumentPolicy) (c : Call) (s : Installation) :
    ((base.decorated bindings).adapt c s).2 = (base.adapt c s).2 := by
  have untouched : ∀ after : Installation, bindings.foldl (fun s b => b.ask s) after = after := by
    intro after
    refine List.foldlRecOn (motive := (· = after)) bindings _ rfl ?_
    rintro _ rfl b hb
    cases b with
    | processWide => exact absurd hb h
    | explicit own => rfl
  rcases hb : base.adapt c s with ⟨e | inputs, after⟩
  · rw [adapt_decorated_error hb]
  · cases hs : c.method.scope? with
    | none => rw [adapt_decorated_unmarked hb hs]
    | some scope => rw [adapt_decorated hb hs, untouched]

/-- Explicit sources all add a bundle. -/
theorem bundles_explicit (source : Option PlaceholderSource) (sources : List PlaceholderSource)
    (scope : Scope) :
    SourceBinding.bundles source (sources.map .explicit) scope =
      sources.map fun own => .bundle (own scope) := by
  simp [SourceBinding.bundles, List.filterMap_map, SourceBinding.under]

end ArgumentPolicy

/-- Configurations that accept the same methods check contracts alike. -/
theorem Configuration.checkFrom_congr {cfg other : Configuration}
    (same : ∀ m, cfg.accept m = other.accept m) (t : Tally) (ms : List Method) :
    cfg.checkFrom t ms = other.checkFrom t ms := by
  induction ms generalizing t with
  | nil => rfl
  | cons m ms ih => simp only [checkFrom, same, ih]

/-- The configuration with another argument policy. -/
def Configuration.withArguments (cfg : Configuration) (p : ArgumentPolicy) : Configuration :=
  { cfg with arguments := p }

/-- A contract binds under decorated arguments as it does under the arguments below. -/
theorem Dispatcher.failure?_bind_placeholders (contract : Contract) (cfg : Configuration)
    (base : ArgumentPolicy) (b : SourceBinding) (address : UInt64) :
    failure? (bind contract (cfg.withArguments (base.placeholders b)) address) =
      failure? (bind contract (cfg.withArguments base) address) := by
  have agree : ∀ m, (cfg.withArguments (base.placeholders b)).accept m =
      (cfg.withArguments base).accept m := fun _ => rfl
  have same : (cfg.withArguments (base.placeholders b)).check contract =
      (cfg.withArguments base).check contract :=
    Configuration.checkFrom_congr agree ⟨0, 0⟩ contract.methods
  rw [bind, bind, same]
  rcases (cfg.withArguments base).check contract with ⟨t, e | u⟩ <;> rfl

namespace ArgumentPolicy

/-- **Decorating is a conservative extension.** A decorator with a source of its own accepts and
fails as the policy below it, and adds to its inputs the bundle for the scope attached last, if any
was; decorators over one another add one bundle each. -/
theorem placeholders_extends_base (base : ArgumentPolicy) (source : PlaceholderSource)
    {m : Signature} (fresh : m.markers = []) (attached : List Value) {c : Call}
    (hc : c.method = m.markAll attached) (s : Installation) :
    (∀ n, (base.placeholders (.explicit source)).accept n = base.accept n) ∧
    (∀ e, ((base.placeholders (.explicit source)).adapt c s).1 = .error e ↔
      (base.adapt c s).1 = .error e) ∧
    (∀ inputs, (base.adapt c s).1 = .ok inputs →
      ((base.placeholders (.explicit source)).adapt c s).1 =
        match (attached.filterMap Value.scope?).getLast? with
        | some scope => .ok (inputs ++ [.bundle (source scope)])
        | none => .ok inputs) ∧
    ((base.placeholders (.explicit source)).adapt c s).2 = (base.adapt c s).2 ∧
    (∀ (cfg : Configuration) contract address,
      failure? (Dispatcher.bind contract
          (cfg.withArguments (base.placeholders (.explicit source))) address) =
        failure? (Dispatcher.bind contract (cfg.withArguments base) address)) ∧
    (∀ (sources : List PlaceholderSource) inputs scope,
      (attached.filterMap Value.scope?).getLast? = some scope →
      (base.adapt c s).1 = .ok inputs →
      ((base.decorated (sources.map .explicit)).adapt c s).1 =
        .ok (inputs ++ sources.map fun own => .bundle (own scope))) := by
  have hscope : c.method.scope? = (attached.filterMap Value.scope?).getLast? := by
    have unmarked : m.scope? = none := by simp [Signature.scope?, Signature.marker?, fresh]
    rw [hc, Signature.scope?_markAll, unmarked, Option.or_none]
  have single : base.placeholders (.explicit source) = base.decorated [.explicit source] := rfl
  refine ⟨fun _ => rfl, ?_, ?_, ?_, ?_, ?_⟩
  · intro e
    rw [← failure?_eq_some_iff, ← failure?_eq_some_iff, failure?_placeholders]
  · intro inputs h
    rw [single, ← hscope]
    have hb : base.adapt c s = (.ok inputs, (base.adapt c s).2) := by rw [← h]
    cases hs : c.method.scope? with
    | none => rw [adapt_decorated_unmarked hb hs]
    | some scope =>
      rw [adapt_decorated hb hs]
      rfl
  · rw [single]
    exact state_adapt_decorated (by simp) base c s
  · intro cfg contract address
    exact Dispatcher.failure?_bind_placeholders contract cfg base _ address
  · intro sources inputs scope hs h
    have hb : base.adapt c s = (.ok inputs, (base.adapt c s).2) := by rw [← h]
    rw [adapt_decorated hb (hscope.trans hs), bundles_explicit]

/-- A status of a player, with markers. -/
def markedStatus : Signature :=
  Signature.markAll
    { name := "status"
      key := some "player.status"
      parameters := [{ type := .string, name := some "player" }] }
    [.scope .audience, .host "Channel" "chat", .scope .global, .bool true]

/-- The call of the status for a player. -/
def statusOfAda : Call where
  method := markedStatus
  values := [some (.string "Ada")]
  identity := ⟨[0]⟩
  arity := rfl

/-- One tag, under the label of the scope. -/
def labelSource : PlaceholderSource := fun scope =>
  TagBundle.empty.give scope.label (.inserting (.literal "value"))

theorem adapt_statusOfAda :
    (((named ⟨.standard, .declared⟩).placeholders (.explicit labelSource)).adapt statusOfAda
        .start).1 =
      .ok [.named "player" (.component (.literal "Ada")), .bundle (labelSource .global)] := by
  obtain ⟨-, -, adds, -, -, -⟩ :=
    placeholders_extends_base (named ⟨.standard, .declared⟩) labelSource
      (m := { name := "status", key := some "player.status",
              parameters := [{ type := .string, name := some "player" }] })
      rfl [.scope .audience, .host "Channel" "chat", .scope .global, .bool true]
      (c := statusOfAda) rfl .start
  exact adds [.named "player" (.component (.literal "Ada"))] rfl

end ArgumentPolicy

end MessageDispatch
