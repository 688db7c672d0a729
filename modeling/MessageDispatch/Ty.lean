import MessageDispatch.Number.Integer

/-!
# Type keys

A `Ty` names the type of a value while the program runs. Registries, parameters and return types are
keyed by it. Two keys are equal only when they are the same key; the `name` is for messages and
takes no part in equality.
-/

namespace MessageDispatch

/-- The type of a value: one of the types that the library gives a meaning to, or a type of the host
program, of which it knows the name only. -/
inductive Ty where
  | bool
  | integer (t : IntType)
  | binary32
  | binary64
  | char
  | string
  | stringLiteral
  | number
  | text
  | translatable
  | argument
  | tag
  | tagBundle
  | target
  | dispatcher
  | scope
  | host (name : String)
  deriving DecidableEq

namespace Ty

/-- The name of a type in messages. -/
def name : Ty → String
  | .bool => "bool"
  | .integer t => t.name
  | .binary32 => "f32"
  | .binary64 => "f64"
  | .char => "char"
  | .string => "alloc::string::String"
  | .stringLiteral => "&str"
  | .number => "parlance_core::argument::Number"
  | .text => "parlance_core::text::TextNode"
  | .translatable => "parlance_core::text::TranslatableNode"
  | .argument => "parlance_core::argument::TranslationArgument"
  | .tag => "parlance_core::text::Tag"
  | .tagBundle => "parlance_core::text::TagResolver"
  | .target => "parlance_core::text::FormatTarget"
  | .dispatcher => "parlance_core::dispatcher::MessageDispatcher"
  | .scope => "parlance_placeholders::scope::PlaceholderScope"
  | .host name => name

/-- The key as it is shown in diagnostics. -/
def describe (t : Ty) : String :=
  s!"TypeKey(\"{t.name}\")"

end Ty

end MessageDispatch
