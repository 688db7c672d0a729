import MessageDispatch.Value

/-!
# Composing texts

Texts are built by appending. Whatever way they are nested, what counts is the sequence of their
leaves, the literal and translatable texts in reading order (`Text.leaves`).
-/

namespace MessageDispatch

namespace Text

/-- The text without content. -/
def empty : Text :=
  .literal ""

/-- `t` followed by `u`. A composite takes `u` as its last child; any other text becomes the first
child of a new composite. -/
def append (t u : Text) : Text :=
  match t with
  | .composite children => .composite (children ++ [u])
  | _ => .composite [t, u]

mutual

/-- The text holds no content: every leaf is an empty literal. -/
def isEmpty : Text → Bool
  | .literal content => content.isEmpty
  | .translatable _ => false
  | .composite children => isEmptyList children
termination_by structural t => t

/-- Every text of the list is empty. -/
def isEmptyList : List Text → Bool
  | [] => true
  | t :: ts => isEmpty t && isEmptyList ts
termination_by structural ts => ts

end

mutual

/-- The literal and translatable texts in reading order. -/
def leaves : Text → List Text
  | .literal content => [.literal content]
  | .translatable node => [.translatable node]
  | .composite children => leavesList children
termination_by structural t => t

/-- The leaves of a list of texts. -/
def leavesList : List Text → List Text
  | [] => []
  | t :: ts => leaves t ++ leavesList ts
termination_by structural ts => ts

end

end Text

namespace Translatable

/-- A node can be returned as a value of type `t`. -/
def isAssignableTo (t : Ty) : Bool :=
  t == .translatable || t == .text

/-- The node as a value of type `t`, for the two types that can hold it. -/
def assign? (n : Translatable) (t : Ty) : Option Value :=
  if t = .translatable then some (.translatable n)
  else if t = .text then some (.text (.translatable n))
  else none

theorem isSome_assign? (n : Translatable) (t : Ty) : (n.assign? t).isSome = isAssignableTo t := by
  by_cases h : t = .translatable <;> by_cases h' : t = .text <;>
    simp [assign?, isAssignableTo, h, h']

theorem ty_of_assign? {n : Translatable} {t : Ty} {v : Value} (h : n.assign? t = some v) :
    v.ty = t := by
  unfold assign? at h
  split at h
  · obtain rfl := Option.some.inj h
    simp_all [Value.ty]
  · split at h
    · obtain rfl := Option.some.inj h
      simp_all [Value.ty]
    · cases h

end Translatable

/-- The name of an input, for the two kinds that have one. -/
def Input.name? : Input → Option String
  | .named name _ => some name
  | .tag name _ => some name
  | _ => none

end MessageDispatch
