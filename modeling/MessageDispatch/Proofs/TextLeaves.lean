import MessageDispatch.Text

/-!
# Leaves of appended texts

How texts are nested depends on what was appended to what, but the leaves of an appended text are
those of the first text and then those of the second (`Text.leaves_append`), and a text is empty
exactly if its leaves are (`Text.isEmpty_iff`). Composites nest through lists, so induction over
texts is stated once, with a hypothesis for each child (`Text.nestedInduction`). Main statement:
appending concatenates leaves, whatever the trees (`Text.append_concatenates`).
-/

namespace MessageDispatch

namespace Text

/-- What holds of literal and translatable texts, and of a composite if it holds of each child,
holds of all texts. -/
@[elab_as_elim]
theorem nestedInduction {P : Text → Prop} (literal : ∀ content, P (.literal content))
    (translatable : ∀ node, P (.translatable node))
    (composite : ∀ children, (∀ t ∈ children, P t) → P (.composite children)) : ∀ t, P t
  | .literal content => literal content
  | .translatable node => translatable node
  | .composite children =>
    composite children fun t _ => nestedInduction literal translatable composite t

theorem leavesList_eq_flatMap (ts : List Text) : leavesList ts = ts.flatMap leaves := by
  induction ts with
  | nil => rfl
  | cons t ts ih => rw [leavesList, ih, List.flatMap_cons]

theorem isEmptyList_eq_all (ts : List Text) : isEmptyList ts = ts.all isEmpty := by
  induction ts with
  | nil => rfl
  | cons t ts ih => rw [isEmptyList, ih, List.all_cons]

@[simp] theorem leaves_literal (content : String) : (literal content).leaves = [literal content] :=
  rfl

@[simp] theorem leaves_translatable (node : Translatable) :
    (translatable node).leaves = [translatable node] :=
  rfl

@[simp] theorem leaves_composite (children : List Text) :
    (composite children).leaves = children.flatMap leaves :=
  leavesList_eq_flatMap children

@[simp] theorem isEmpty_composite (children : List Text) :
    (composite children).isEmpty = children.all isEmpty :=
  isEmptyList_eq_all children

theorem leaves_append (t u : Text) : (t.append u).leaves = t.leaves ++ u.leaves := by
  cases t with
  | composite children => simp [append]
  | literal content => simp [append]
  | translatable node => simp [append]

theorem isEmpty_iff {t : Text} : t.isEmpty = true ↔ ∀ leaf ∈ t.leaves, leaf = .literal "" := by
  induction t using nestedInduction with
  | literal content => simp [isEmpty]
  | translatable node => simp [isEmpty]
  | composite children ih =>
    rw [isEmpty_composite, leaves_composite, List.all_eq_true, List.forall_mem_flatMap]
    exact forall₂_congr ih

theorem isEmpty_append_iff {t u : Text} :
    (t.append u).isEmpty = true ↔ t.isEmpty = true ∧ u.isEmpty = true := by
  simp only [isEmpty_iff, leaves_append, List.forall_mem_append]

/-- Where the brackets are shows in the tree: to the left they make one child more. -/
theorem append_append_ne (t u v : Text) : (t.append u).append v ≠ t.append (u.append v) := by
  intro h
  cases t with
  | composite children => simpa using congrArg List.length (composite.inj h)
  | literal content => simpa using congrArg List.length (composite.inj h)
  | translatable node => simpa using congrArg List.length (composite.inj h)

/-- **Appending concatenates leaves.** The leaves of an appended text are those of the first text
and then those of the second. A text is empty exactly if its leaves are empty literals, so an
appended text is if both texts are. How three texts are bracketed makes no difference to the leaves,
though it always makes one to the tree. -/
theorem append_concatenates (t u v : Text) :
    (t.append u).leaves = t.leaves ++ u.leaves ∧
    (t.isEmpty = true ↔ ∀ leaf ∈ t.leaves, leaf = .literal "") ∧
    ((t.append u).isEmpty = true ↔ t.isEmpty = true ∧ u.isEmpty = true) ∧
    ((t.append u).append v).leaves = (t.append (u.append v)).leaves ∧
    (t.append u).append v ≠ t.append (u.append v) := by
  refine ⟨leaves_append t u, isEmpty_iff, isEmpty_append_iff, ?_, append_append_ne t u v⟩
  calc ((t.append u).append v).leaves
    _ = t.leaves ++ u.leaves ++ v.leaves := by rw [leaves_append, leaves_append]
    _ = t.leaves ++ (u.leaves ++ v.leaves) := List.append_assoc ..
    _ = (t.append (u.append v)).leaves := by rw [leaves_append, leaves_append]

/-- Composites without children are empty, however many of them there are. -/
example : ((composite [composite [], literal ""]).append (composite [])).isEmpty = true :=
  rfl

end Text

end MessageDispatch
