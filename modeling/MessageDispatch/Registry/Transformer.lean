import MessageDispatch.Error
import MessageDispatch.Registry
import MessageDispatch.Value

/-!
# Transformers: texts into results

A transformer turns the text of a message into the value that a method declares to return. It is
keyed by that type, and what it yields has the type by construction.
-/

namespace MessageDispatch

/-- Renderings by type of the result. -/
structure Transformer where
  renderings : Registry fun t => Text → t.Carrier

/-- Renderings by type, still open to registration. -/
structure Transformer.Draft where
  renderings : Registry fun t => Text → t.Carrier

namespace Transformer.Draft

/-- The draft without renderings. -/
def empty : Draft :=
  ⟨.empty⟩

/-- Registers a rendering as type `t`, in place of an earlier one. -/
def register (d : Draft) (t : Ty) (convert : Text → t.Carrier) : Draft :=
  ⟨d.renderings.insert t convert⟩

/-- The transformer with the renderings registered so far. -/
def build (d : Draft) : Transformer :=
  ⟨d.renderings⟩

/-- How a draft is shown in diagnostics. -/
def describe (d : Draft) : String :=
  s!"ComponentTransformerBuilder \x7b types: {d.renderings.size} \x7d"

end Transformer.Draft

namespace Transformer

/-- The transformer without renderings. -/
def empty : Transformer :=
  ⟨.empty⟩

instance : Inhabited Transformer :=
  ⟨empty⟩

/-- A draft that starts with the renderings of a transformer. -/
def toDraft (r : Transformer) : Draft :=
  ⟨r.renderings⟩

/-- The type has a rendering. -/
def supports (r : Transformer) (t : Ty) : Bool :=
  r.renderings.contains t

/-- How many types have a rendering. -/
def size (r : Transformer) : Nat :=
  r.renderings.size

/-- No type has a rendering. -/
def isEmpty (r : Transformer) : Bool :=
  r.renderings.isEmpty

/-- The text as a value of type `t`. -/
def transform (r : Transformer) (t : Ty) (text : Text) : Except RegistryError Value :=
  match r.renderings.find? t with
  | none => .error (.missingTransformer t)
  | some convert => .ok (.of t (convert text))

/-- What the text as a value of type `t` holds. -/
def transformInto (r : Transformer) (t : Ty) (text : Text) : Except RegistryError t.Carrier :=
  match r.transform t text with
  | .error e => .error e
  | .ok v =>
    match v.as? t with
    | none => .error (.valueMismatch t)
    | some c => .ok c

/-- How a transformer is shown in diagnostics. -/
def describe (r : Transformer) : String :=
  s!"ComponentTransformer \x7b types: {r.size} \x7d"

end Transformer

end MessageDispatch
