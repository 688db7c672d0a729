import MessageDispatch.Configuration

/-!
# Binding events

Every attempt to bind a contract leaves one event, which says how the check of the contract went. An
event is written as one line of JSON with its fields in a fixed order.
-/

namespace MessageDispatch

/-- One attempt to bind a contract. An event without a rejection reports success. -/
structure BindingEvent where
  timestamp : Nat
  contract : String
  tally : Tally
  rejection : Option ValidationError

namespace BindingEvent

/-- The kind of event, which is the same for all. -/
def kind : String :=
  "contract_binding"

/-- The event of a check at a time. -/
def ofCheck (timestamp : Nat) (cfg : Configuration) (c : Contract) : BindingEvent :=
  match cfg.check c with
  | (t, .ok ()) => ⟨timestamp, c.name, t, none⟩
  | (t, .error e) => ⟨timestamp, c.name, t, some e⟩

/-- The label of the outcome. -/
def outcome (e : BindingEvent) : String :=
  if e.rejection.isSome then "rejected" else "bound"

/-- The code of the error, if the contract was rejected. -/
def errorCode? (e : BindingEvent) : Option String :=
  e.rejection.map (·.code)

/-- The text of the error, if the contract was rejected. -/
def errorText? (e : BindingEvent) : Option String :=
  e.rejection.map (·.message)

end BindingEvent

/-- A sink that keeps its events in memory, in the order in which they came. -/
structure MemorySink where
  events : List BindingEvent := []

/-- Keeps an event, after those that came before it. -/
def MemorySink.record (sink : MemorySink) (e : BindingEvent) : MemorySink :=
  ⟨sink.events ++ [e]⟩

/-- Where binding events go. -/
inductive AuditSink where
  | discard
  | stderr
  | file (path : String)
  deriving DecidableEq, Repr

end MessageDispatch
