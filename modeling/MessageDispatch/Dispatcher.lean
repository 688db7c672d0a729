import MessageDispatch.Audit
import MessageDispatch.Text.Quoted

/-!
# Dispatchers

Binding checks a contract once and lays out a table: for each method of the contract a route, and
for each name its place. A call of a message method resolves the key, adapts the arguments and
transforms the result, and ends at the first of these that fails. Identity methods are answered from
the dispatcher's address. A provided method runs its program, whose own calls go through the same
table; they may be nested to a depth that the caller of `Dispatcher.invoke` allows, and the call has
no outcome when it is used up.
-/

namespace MessageDispatch

/-- The policies that the calls of a message method go through. -/
structure Pipeline where
  keys : KeyPolicy
  arguments : ArgumentPolicy
  results : ResultPolicy

/-- The pipeline of a configuration. -/
def Configuration.pipeline (cfg : Configuration) : Pipeline :=
  ⟨cfg.keys, cfg.arguments, cfg.results⟩

namespace Pipeline

/-- The value of a call, made of its key and its adapted arguments. -/
def run (p : Pipeline) (c : Call) (s : Installation) : Except DispatchError Value × Installation :=
  match p.keys.resolve c with
  | .error e => (.error ⟨c.method.name, .keyResolved, e⟩, s)
  | .ok key =>
    match p.arguments.adapt c s with
    | (.error e, s) => (.error ⟨c.method.name, .argumentsAdapted, e⟩, s)
    | (.ok inputs, s) =>
      match p.results.transform ⟨key, inputs⟩ c with
      | .error e => (.error ⟨c.method.name, .resultTransformed, e⟩, s)
      | .ok v => (.ok v, s)

end Pipeline

/-- How the calls of a method are answered. -/
inductive Route where
  | message (pipeline : Pipeline)
  | identity (which : IdentityMethod)
  | provided (body : Body)

/-- The route of a method. -/
def Configuration.route (cfg : Configuration) (m : Method) : Route :=
  match m.kind with
  | .message => .message cfg.pipeline
  | .identity which => .identity which
  | .provided body => .provided body

/-- A bound contract: a route for each method, the places of the names, and the address. -/
structure Dispatcher where
  contract : Contract
  routes : List Route
  index : List (String × Nat)
  address : UInt64

/-- What a call leaves: an outcome, or none when nested calls went too deep, and what is known of
placeholders. -/
abbrev Outcome (α : Type) : Type :=
  Option (Except DispatchError α) × Installation

/-- A way of answering the calls of a program. -/
abbrev Answering : Type :=
  Identity → String → (returns : Ty) → List (Option Value) → Installation → Outcome returns.Carrier

/-- Runs a program; its `n`-th call is made as the part `n` of the identity. -/
def Program.run {t : Ty} (answer : Answering) (id : Identity) :
    Program t → Nat → Installation → Option (Except InvocationError t.Carrier) × Installation
  | .done result, _, s => (some result, s)
  | .call method returns values next, n, s =>
    match answer (id.part n) method returns values s with
    | (none, s) => (none, s)
    | (some outcome, s) => Program.run answer id (next outcome) (n + 1) s
termination_by structural p => p

namespace Dispatcher

/-- Lays out the table of a contract. -/
def layOut (c : Contract) (cfg : Configuration) (address : UInt64) : Dispatcher where
  contract := c
  routes := c.methods.map cfg.route
  index := c.methods.zipIdx.map fun (m, i) => (m.name, i)
  address := address

/-- Binds a contract: its dispatcher at the address, if the configuration accepts every message
method. -/
def bind (c : Contract) (cfg : Configuration) (address : UInt64) :
    Except ValidationError Dispatcher :=
  match cfg.check c with
  | (_, .ok ()) => .ok (layOut c cfg address)
  | (_, .error e) => .error e

/-- Binds a contract and reports the attempt. -/
def bindAudited (timestamp : Nat) (c : Contract) (cfg : Configuration) (address : UInt64) :
    Except ValidationError Dispatcher × BindingEvent :=
  (bind c cfg address, .ofCheck timestamp cfg c)

/-- Binds a contract and has a sink keep the event of the attempt. -/
def bindInto (sink : MemorySink) (timestamp : Nat) (c : Contract) (cfg : Configuration)
    (address : UInt64) : Except ValidationError Dispatcher × MemorySink :=
  match bindAudited timestamp c cfg address with
  | (outcome, event) => (outcome, sink.record event)

/-- What the bodies of provided methods see. -/
def receiver (d : Dispatcher) : Receiver :=
  ⟨d.contract.name, d.contract.methods.map (·.signature), d.address⟩

/-- The text by which a dispatcher shows itself. -/
def display (d : Dispatcher) : String :=
  d.receiver.display

/-- How a dispatcher is shown in diagnostics. -/
def describe (d : Dispatcher) : String :=
  s!"MessageDispatcher \x7b contract: {quoted d.contract.name}, methods: {d.routes.length} \x7d"

/-- Dispatchers are equal when they are the same. -/
def eqB (d e : Dispatcher) : Bool :=
  d.address == e.address

/-- The place of a method in the table. -/
def methodId? (d : Dispatcher) (name : String) : Option Nat :=
  d.index.lookup name

/-- An address is a number of 64 bits. -/
theorem inRange_address (a : UInt64) : IntType.InRange ⟨false, .w64⟩ a.toNat := by
  have h : a.toNat < 2 ^ 64 := a.toNat_lt
  refine ⟨Int.natCast_nonneg _, ?_⟩
  change (a.toNat : Int) < 2 ^ 64
  omega

/-- The answer of an identity method. Equality looks at the first argument only, and holds when that
is this dispatcher. -/
def answerIdentity (d : Dispatcher) (which : IdentityMethod) (c : Call) : Value :=
  match which with
  | .equals =>
    match c.values with
    | some (.dispatcher address) :: _ => .bool (address == d.address)
    | _ => .bool false
  | .hash => .integer ⟨false, .w64⟩ ⟨d.address.toNat, inRange_address d.address⟩
  | .display => .string d.display

/-- The value of a call by its route. -/
def runRoute (d : Dispatcher) (answer : Answering) (route : Route) (c : Call) (s : Installation) :
    Outcome Value :=
  match route with
  | .message pipeline =>
    match pipeline.run c s with
    | (outcome, s) => (some outcome, s)
  | .identity which => (some (.ok (d.answerIdentity which c)), s)
  | .provided body =>
    match (body.run d.receiver c).run answer c.identity 0 s with
    | (none, s) => (none, s)
    | (some (.error e), s) => (some (.error ⟨c.method.name, .resultTransformed, e⟩), s)
    | (some (.ok v), s) => (some (.ok (.of body.produces v)), s)

/-- The value of a call as what the caller asked for. -/
def deliver (m : Signature) (requested : Ty) (v : Value) : Except DispatchError requested.Carrier :=
  match v.as? requested with
  | some x => .ok x
  | none => .error ⟨m.name, .resultTransformed, .returnTypeMismatch m.name m.returns requested⟩

/-- Calls a method by route: the requested type has to be the declared one, and there has to be one
value for each parameter. -/
def invokeRoute (d : Dispatcher) (answer : Answering) (m : Signature) (route : Route)
    (id : Identity) (requested : Ty) (values : List (Option Value)) (s : Installation) :
    Outcome requested.Carrier :=
  if requested = m.returns then
    match Call.of? id m values with
    | .error e => (some (.error ⟨m.name, .built, e⟩), s)
    | .ok c =>
      match d.runRoute answer route c s with
      | (none, s) => (none, s)
      | (some (.error e), s) => (some (.error e), s)
      | (some (.ok v), s) => (some (deliver m requested v), s)
  else (some (.error ⟨m.name, .built, .returnTypeMismatch m.name m.returns requested⟩), s)

/-- Calls the method at a place of the table. -/
def invokeAt (d : Dispatcher) (answer : Answering) (i : Nat) (id : Identity) (requested : Ty)
    (values : List (Option Value)) (s : Installation) : Outcome requested.Carrier :=
  match d.contract.methods[i]?, d.routes[i]? with
  | some m, some route => d.invokeRoute answer m.signature route id requested values s
  | _, _ => (some (.error ⟨s!"#{i}", .built, .unknownMethod d.contract.name s!"#{i}"⟩), s)

/-- Calls the method of a name. -/
def invokeName (d : Dispatcher) (answer : Answering) (id : Identity) (name : String)
    (requested : Ty) (values : List (Option Value)) (s : Installation) :
    Outcome requested.Carrier :=
  match d.methodId? name with
  | some i => d.invokeAt answer i id requested values s
  | none => (some (.error ⟨name, .built, .unknownMethod d.contract.name name⟩), s)

/-- Calls the method of a name, with calls of provided methods nested to the given depth. -/
def invoke (d : Dispatcher) : Nat → Answering
  | 0 => d.invokeName fun _ _ _ _ s => (none, s)
  | depth + 1 => d.invokeName (d.invoke depth)

/-- Calls the method at a place of the table, with calls of provided methods nested to the given
depth. -/
def invokeId (d : Dispatcher) (depth i : Nat) (id : Identity) (requested : Ty)
    (values : List (Option Value)) (s : Installation) : Outcome requested.Carrier :=
  match depth with
  | 0 => d.invokeAt (fun _ _ _ _ s => (none, s)) i id requested values s
  | depth + 1 => d.invokeAt (d.invoke depth) i id requested values s

end Dispatcher

end MessageDispatch
