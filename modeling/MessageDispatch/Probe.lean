/-!
# Capability probes

A probe finds out once whether a capability is there. Asking an unsettled probe starts a run of its
probing function; the run that finishes first settles the probe, and from then on every asker gets
that answer, also one whose own run was still going on. A probing function may itself ask the probe,
and may answer differently each time: `Probing` is what one run does, and a script says what each
run does.
-/

namespace MessageDispatch

/-- What is known of a capability. -/
inductive Capability where
  | unknown
  | available
  | unavailable
  deriving DecidableEq, Repr

namespace Capability

/-- The settled state of an answer. -/
def ofAnswer (b : Bool) : Capability :=
  if b then .available else .unavailable

/-- The answer of a settled state. -/
def answer? : Capability → Option Bool
  | .unknown => none
  | .available => some true
  | .unavailable => some false

/-- The label of a state. -/
def label : Capability → String
  | .unknown => "unknown"
  | .available => "available"
  | .unavailable => "unavailable"

/-- How a state is shown in diagnostics. -/
def describe : Capability → String
  | .unknown => "Unknown"
  | .available => "Available"
  | .unavailable => "Unavailable"

@[simp] theorem answer?_ofAnswer (b : Bool) : (ofAnswer b).answer? = some b := by
  cases b <;> rfl

end Capability

/-- What one run of a probing function does: it answers, or asks the same probe and goes on. -/
inductive Probing where
  | answer (b : Bool)
  | ask (next : Bool → Probing)

/-- A probe: its state, and how many runs it has started. -/
structure Probe where
  state : Capability
  started : Nat
  deriving DecidableEq, Repr

namespace Probe

/-- A probe that nobody has asked. -/
def fresh : Probe :=
  ⟨.unknown, 0⟩

/-- Settles an unsettled probe. -/
def settle (p : Probe) (b : Bool) : Probe :=
  match p.state with
  | .unknown => { p with state := .ofAnswer b }
  | _ => p

/-- Carries on one run of a probing function, with `ask` answering its questions; the answer of the
run settles the probe, unless it was settled meanwhile. -/
def run (ask : Probe → Option (Bool × Probe)) : Probing → Probe → Option (Bool × Probe)
  | .answer b, p =>
    let p := p.settle b
    some (p.state.answer?.getD b, p)
  | .ask next, p =>
    match ask p with
    | none => none
    | some (b, p) => run ask (next b) p

/-- Asks the probe. The `n`-th run that the probe starts does what the script says for `n`; runs may
be nested to the given depth. -/
def isAvailable (script : Nat → Probing) : Nat → Probe → Option (Bool × Probe)
  | 0, p => p.state.answer?.map (·, p)
  | depth + 1, p =>
    match p.state.answer? with
    | some b => some (b, p)
    | none => run (isAvailable script depth) (script p.started) { p with started := p.started + 1 }

/-- How a probe is shown in diagnostics. -/
def describe (p : Probe) : String :=
  s!"CapabilityProbe \x7b state: {p.state.describe} \x7d"

end Probe

end MessageDispatch
