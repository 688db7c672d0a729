import MessageDispatch.Arguments
import MessageDispatch.Contract
import MessageDispatch.Keys
import MessageDispatch.Results

/-!
# Configurations and the check of contracts

A configuration is a set of policies. A contract is checked against it method by method in the order
of declaration; identity and provided methods are passed over. The check stops at the first method
that a policy rejects, and counts the methods before it.
-/

namespace MessageDispatch

/-- How template inputs are addressed. -/
inductive FormatStyle where
  | positional
  | named
  deriving DecidableEq, Repr

/-- The policies that a contract is bound with. -/
structure Configuration where
  keys : KeyPolicy := default
  arguments : ArgumentPolicy := default
  results : ResultPolicy := default

namespace Configuration

instance : Inhabited Configuration :=
  ⟨{}⟩

/-- The configuration for a style, over the standard adapter. -/
def forStyle : FormatStyle → Configuration
  | .positional => { arguments := .positional ⟨.standard⟩ }
  | .named => { arguments := .named ⟨.standard, .declared⟩ }

/-- Accepts the methods that the key, argument and result policies accept, asked in this order. -/
def accept (cfg : Configuration) (m : Signature) : Except ValidationError Unit :=
  match cfg.keys.accept m with
  | .error e => .error e
  | .ok () =>
    match cfg.arguments.accept m with
    | .error e => .error e
    | .ok () => cfg.results.accept m

/-- How a configuration is shown in diagnostics. -/
def describe (cfg : Configuration) : String :=
  s!"InvocationConfiguration \x7b key_policy: {cfg.keys.describe}, " ++
    s!"argument_policy: {cfg.arguments.describe}, result_policy: {cfg.results.describe} \x7d"

end Configuration

/-- How many methods a check went through. -/
structure Tally where
  messages : Nat
  skipped : Nat
  deriving DecidableEq, Repr

namespace Configuration

/-- Checks methods after those of a tally: the tally of the methods gone through, and the first
error. -/
def checkFrom (cfg : Configuration) : Tally → List Method → Tally × Except ValidationError Unit
  | t, [] => (t, .ok ())
  | t, m :: ms =>
    if m.isMessage then
      match cfg.accept m.signature with
      | .error e => (t, .error e)
      | .ok () => cfg.checkFrom { t with messages := t.messages + 1 } ms
    else cfg.checkFrom { t with skipped := t.skipped + 1 } ms

/-- Checks a contract. -/
def check (cfg : Configuration) (c : Contract) : Tally × Except ValidationError Unit :=
  cfg.checkFrom ⟨0, 0⟩ c.methods

/-- The tally of a contract that passes the check. -/
def validate (cfg : Configuration) (c : Contract) : Except ValidationError Tally :=
  match cfg.check c with
  | (t, .ok ()) => .ok t
  | (_, .error e) => .error e

end Configuration

end MessageDispatch
