import MessageDispatch.Ty

/-!
# Causes of failure

Validation errors are found once, when a contract is bound. Registry errors come from a single
conversion. Invocation errors end one call, and a dispatch error says in addition which method was
called and which stage the call did not reach. Every error has a stable `code` and one `message`.
-/

namespace MessageDispatch

/-- Why a method cannot be bound. -/
inductive ValidationError where
  | missingKey (method : String)
  | unsupportedParameter (method : String) (position : Nat) (type : Ty)
  | unresolvableName (method : String) (position : Nat) (parameter : String)
  | duplicateName (method name : String)
  | multipleTargets (method : String)
  | unsupportedReturnType (method : String) (type : Ty)
  | notNodeSupertype (method : String) (type : Ty)
  | duplicateMethod (contract method : String)
  | custom (method message : String)
  deriving DecidableEq

namespace ValidationError

/-- The stable code of the error. -/
def code : ValidationError → String
  | .missingKey .. => "missing_key"
  | .unsupportedParameter .. => "unsupported_parameter"
  | .unresolvableName .. => "unresolvable_name"
  | .duplicateName .. => "duplicate_name"
  | .multipleTargets .. => "multiple_targets"
  | .unsupportedReturnType .. => "unsupported_return_type"
  | .notNodeSupertype .. => "not_node_supertype"
  | .duplicateMethod .. => "duplicate_method"
  | .custom .. => "custom"

/-- The text of the error. -/
def message : ValidationError → String
  | .missingKey method => s!"missing key declaration on method '{method}'"
  | .unsupportedParameter method position type =>
    s!"unsupported parameter type '{type.name}' at position {position} in method '{method}'; " ++
      "register an adapter for this type"
  | .unresolvableName method position parameter =>
    s!"cannot resolve a name for parameter '{parameter}' at position {position} " ++
      s!"in method '{method}'"
  | .duplicateName method name => s!"duplicate argument name '{name}' in method '{method}'"
  | .multipleTargets method => s!"multiple target arguments declared on method '{method}'"
  | .unsupportedReturnType method type =>
    s!"unsupported return type '{type.name}' from method '{method}'; " ++
      "register a transformer for this type"
  | .notNodeSupertype method type =>
    s!"return type '{type.name}' of method '{method}' is not a supertype of TranslatableNode"
  | .duplicateMethod contract method => s!"duplicate method '{method}' in contract '{contract}'"
  | .custom method message => s!"method '{method}' rejected: {message}"

end ValidationError

/-- Why a registry could not convert a value. -/
inductive RegistryError where
  | missingAdapter (type : Ty)
  | missingTransformer (type : Ty)
  | valueMismatch (type : Ty)
  deriving DecidableEq

namespace RegistryError

/-- The stable code of the error. -/
def code : RegistryError → String
  | .missingAdapter .. => "missing_adapter"
  | .missingTransformer .. => "missing_transformer"
  | .valueMismatch .. => "value_mismatch"

/-- The text of the error. -/
def message : RegistryError → String
  | .missingAdapter type => s!"no adapter registered for type: {type.name}"
  | .missingTransformer type => s!"no transformer registered for type: {type.name}"
  | .valueMismatch type => s!"value is not a '{type.name}'"

end RegistryError

/-- Why a call failed. -/
inductive InvocationError where
  | unknownMethod (contract method : String)
  | arityMismatch (method : String) (expected actual : Nat)
  | missingKey (method : String)
  | nullArgument (method parameter : String)
  | unsupportedParameter (method : String) (position : Nat) (type : Ty)
  | typeMismatch (method : String) (position : Nat) (expected : Ty)
  | unresolvableName (method : String) (position : Nat)
  | duplicateName (method name : String)
  | multipleTargets (method : String)
  | unsupportedReturnType (method : String) (type : Ty)
  | returnTypeMismatch (method : String) (declared requested : Ty)
  | custom (method message : String)
  deriving DecidableEq

namespace InvocationError

/-- The stable code of the error. -/
def code : InvocationError → String
  | .unknownMethod .. => "unknown_method"
  | .arityMismatch .. => "arity_mismatch"
  | .missingKey .. => "missing_key"
  | .nullArgument .. => "null_argument"
  | .unsupportedParameter .. => "unsupported_parameter"
  | .typeMismatch .. => "type_mismatch"
  | .unresolvableName .. => "unresolvable_name"
  | .duplicateName .. => "duplicate_name"
  | .multipleTargets .. => "multiple_targets"
  | .unsupportedReturnType .. => "unsupported_return_type"
  | .returnTypeMismatch .. => "return_type_mismatch"
  | .custom .. => "custom"

/-- The text of the error. -/
def message : InvocationError → String
  | .unknownMethod contract method => s!"contract '{contract}' has no method '{method}'"
  | .arityMismatch method expected actual =>
    s!"method '{method}' expects {expected} arguments, got {actual}"
  | .missingKey method => s!"method '{method}' has no key declaration"
  | .nullArgument method parameter =>
    s!"argument '{parameter}' of method '{method}' must not be null"
  | .unsupportedParameter method position type =>
    s!"unsupported parameter type '{type.name}' at position {position} in method '{method}'"
  | .typeMismatch method position expected =>
    s!"argument at position {position} in method '{method}' is not a '{expected.name}'"
  | .unresolvableName method position =>
    s!"cannot resolve a name for parameter at position {position} in method '{method}'"
  | .duplicateName method name => s!"duplicate argument name '{name}' in method '{method}'"
  | .multipleTargets method => s!"multiple target arguments supplied to method '{method}'"
  | .unsupportedReturnType method type =>
    s!"unsupported return type '{type.name}' from method '{method}'"
  | .returnTypeMismatch method declared requested =>
    s!"method '{method}' returns '{declared.name}', not '{requested.name}'"
  | .custom method message => s!"method '{method}' failed: {message}"

/-- The error of a call whose argument at `position` a registry could not convert. -/
def ofRegistry (method : String) (position : Nat) : RegistryError → InvocationError
  | .missingAdapter type => .unsupportedParameter method position type
  | .missingTransformer type => .unsupportedParameter method position type
  | .valueMismatch type => .typeMismatch method position type

end InvocationError

/-- The stages that a call goes through. -/
inductive Stage where
  | built
  | keyResolved
  | argumentsAdapted
  | resultTransformed
  deriving DecidableEq, Repr

/-- The label of a stage. -/
def Stage.label : Stage → String
  | .built => "built"
  | .keyResolved => "key_resolved"
  | .argumentsAdapted => "arguments_adapted"
  | .resultTransformed => "result_transformed"

/-- Every stage, in the order of a call. -/
def Stage.all : List Stage :=
  [.built, .keyResolved, .argumentsAdapted, .resultTransformed]

/-- A failed call: the method called, the stage it did not reach, and why. -/
structure DispatchError where
  method : String
  stage : Stage
  source : InvocationError
  deriving DecidableEq

/-- The text of the error. -/
def DispatchError.message (e : DispatchError) : String :=
  s!"dispatch of '{e.method}' failed before reaching {e.stage.label}: {e.source.message}"

end MessageDispatch
