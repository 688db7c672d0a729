import MessageDispatch.Error
import MessageDispatch.Registry
import MessageDispatch.Text

/-!
# Adapters: values into template arguments

An adapter converts a caller's value into a template argument by the type that its parameter
declares. Adapters grow by registration: `argument` takes any conversion, `component` one that
yields a text, `string` one that yields the content of a literal text. An adapter is a value, so
registering in a draft never reaches an adapter that was built from it before.
-/

namespace MessageDispatch

/-- A conversion of the values of a type. The identity is for the objects that it builds. -/
abbrev Conversion (t : Ty) : Type :=
  Identity → t.Carrier → Argument

/-- Conversions by type. -/
structure Adapter where
  conversions : Registry Conversion

/-- Conversions by type, still open to registration. -/
structure Adapter.Draft where
  conversions : Registry Conversion

namespace Adapter.Draft

/-- The draft without conversions. -/
def empty : Draft :=
  ⟨.empty⟩

/-- Registers a conversion for `t`, in place of an earlier one. -/
def argument (d : Draft) (t : Ty) (convert : Identity → t.Carrier → Argument) : Draft :=
  ⟨d.conversions.insert t convert⟩

/-- Registers a conversion for `t` that yields a text. -/
def component (d : Draft) (t : Ty) (convert : Identity → t.Carrier → Text) : Draft :=
  d.argument t fun id c => .component (convert id c)

/-- Registers a conversion for `t` that yields the content of a literal text. -/
def string (d : Draft) (t : Ty) (convert : t.Carrier → String) : Draft :=
  d.component t fun _ c => .literal (convert c)

/-- The adapter with the conversions registered so far. -/
def build (d : Draft) : Adapter :=
  ⟨d.conversions⟩

/-- How a draft is shown in diagnostics. -/
def describe (d : Draft) : String :=
  s!"ArgumentAdapterBuilder \x7b types: {d.conversions.size} \x7d"

end Adapter.Draft

namespace Adapter

/-- A draft that starts with the conversions of an adapter. -/
def toDraft (a : Adapter) : Draft :=
  ⟨a.conversions⟩

/-- The type has a conversion. -/
def supports (a : Adapter) (t : Ty) : Bool :=
  a.conversions.contains t

/-- How many types have a conversion. -/
def size (a : Adapter) : Nat :=
  a.conversions.size

/-- No type has a conversion. -/
def isEmpty (a : Adapter) : Bool :=
  a.conversions.isEmpty

/-- Converts a value that was passed for a parameter of type `t`. -/
def adapt (a : Adapter) (id : Identity) (t : Ty) (v : Value) : Except RegistryError Argument :=
  match a.conversions.find? t with
  | none => .error (.missingAdapter t)
  | some convert =>
    match v.as? t with
    | none => .error (.valueMismatch t)
    | some c => .ok (convert id c)

/-- How an adapter is shown in diagnostics. -/
def describe (a : Adapter) : String :=
  s!"ArgumentAdapter \x7b types: {a.size} \x7d"

/-- The machine integer types, narrow to wide. -/
def integerTypes : List IntType :=
  [⟨true, .w8⟩, ⟨true, .w16⟩, ⟨true, .w32⟩, ⟨true, .w64⟩, ⟨true, .word⟩,
    ⟨false, .w8⟩, ⟨false, .w16⟩, ⟨false, .w32⟩, ⟨false, .w64⟩, ⟨false, .word⟩]

/-- The conversions that need no registration, as a draft. -/
def standardDraft : Draft :=
  let texts := Draft.empty
    |>.argument .argument (fun _ a => a)
    |>.component .text (fun _ t => t)
    |>.component .translatable (fun _ n => .translatable n)
    |>.argument .number (fun _ n => .numeric n)
    |>.argument .bool (fun _ b => .boolean b)
    |>.string .string (fun s => s)
    |>.string .stringLiteral (fun s => s)
    |>.string .char (fun c => String.singleton c)
  let integers := integerTypes.foldl
    (fun d t => d.argument (.integer t) fun _ n => .numeric (Number.ofInteger n)) texts
  integers
    |>.argument .binary32 (fun _ x => .numeric (Number.ofBinary32 x))
    |>.argument .binary64 (fun _ x => .numeric (.float x))

/-- The adapter of texts, ready-made arguments, numbers, Booleans, strings and characters. -/
def standard : Adapter :=
  standardDraft.build

instance : Inhabited Adapter :=
  ⟨standard⟩

end Adapter

end MessageDispatch
