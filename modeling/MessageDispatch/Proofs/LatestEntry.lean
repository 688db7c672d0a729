import Mathlib.Data.List.Induction

/-!
# The latest entry of a key

In a list of entries that were made one after the other, a key has a latest entry, `latest?`. A
table into which the entries are put, each in place of an earlier one with its key, shows that entry
under the key, and under a key without entries what it showed in the beginning (`view_foldl`).
-/

namespace MessageDispatch

section Entries

variable {E K : Type} [DecidableEq K]

/-- The latest of the entries with a key. -/
def latest? (key : E → K) (k : K) (entries : List E) : Option E :=
  (entries.filter (key · = k)).getLast?

variable {key : E → K} {k : K}

theorem latest?_eq_none_iff {entries : List E} :
    latest? key k entries = none ↔ ∀ e ∈ entries, key e ≠ k := by
  simp [latest?]

theorem exists_latest? {entries : List E} (h : ∃ e ∈ entries, key e = k) :
    ∃ e, latest? key k entries = some e := by
  refine Option.ne_none_iff_exists'.1 fun none => ?_
  obtain ⟨e, he, hk⟩ := h
  exact latest?_eq_none_iff.1 none e he hk

theorem mem_of_latest? {entries : List E} {e : E} (h : latest? key k entries = some e) :
    e ∈ entries ∧ key e = k := by
  have last : e ∈ entries.filter (key · = k) := List.mem_of_getLast? h
  simpa using last

theorem latest?_concat (entries : List E) (e : E) :
    latest? key k (entries ++ [e]) = if k = key e then some e else latest? key k entries := by
  by_cases h : key e = k
  · simp [latest?, List.filter_append, h]
  · simp [latest?, List.filter_append, h, Ne.symm h]

/-- Entries with other keys do not count, wherever they come in. -/
theorem latest?_of_others {others : List E} (h : ∀ e ∈ others, key e ≠ k)
    (before after : List E) :
    latest? key k (before ++ others ++ after) = latest? key k (before ++ after) := by
  have none : others.filter (key · = k) = [] := by simpa [List.filter_eq_nil_iff] using h
  simp only [latest?, List.filter_append, none, List.append_nil]

/-- What one entry does to the view under a key decides what a run of entries does. -/
theorem view_foldl {D V : Type} (view : D → Option V) {put : D → E → D} {value : E → V}
    (step : ∀ d e, view (put d e) = if k = key e then some (value e) else view d)
    (d : D) (entries : List E) :
    view (entries.foldl put d) = ((latest? key k entries).map value).or (view d) := by
  induction entries using List.reverseRecOn with
  | nil => rfl
  | append_singleton entries e ih =>
    rw [List.foldl_append, List.foldl_cons, List.foldl_nil, step, ih, latest?_concat]
    split <;> rfl

end Entries

end MessageDispatch
