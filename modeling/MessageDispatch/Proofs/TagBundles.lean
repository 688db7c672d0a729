import MessageDispatch.Proofs.LatestEntry
import MessageDispatch.Proofs.Table
import MessageDispatch.TagBundle

/-!
# Merged bundles

A bundle that was made by giving tags to names and by merging has distinct names, so it is known
from its names in order and from the tags found under them (`TagBundle.eq_of_names_of_find?`).
Merging says what becomes of both: a tag of the second bundle hides one of the first (`find?_merge`),
and the new names of the second bundle follow those of the first (`names_merge`). Main statements: a
bundle is the map of all that was ever given to it, in the order of first mention
(`TagBundle.Recipe.bundle_isOrderedMap`), and merging is associative and idempotent, with the empty
bundle as unit (`TagBundle.Recipe.merge_isIdempotentMonoid`).
-/

namespace MessageDispatch

section EraseDups

variable {α : Type} [DecidableEq α]

theorem eraseDups_concat (as : List α) (a : α) :
    (as ++ [a]).eraseDups = if a ∈ as then as.eraseDups else as.eraseDups ++ [a] := by
  rw [List.eraseDups_append]
  by_cases h : a ∈ as <;> simp [List.removeAll, h, List.eraseDups_cons]

theorem eraseDups_of_nodup {as : List α} (h : as.Nodup) : as.eraseDups = as := by
  induction as using List.reverseRecOn with
  | nil => rfl
  | append_singleton as a ih =>
    obtain ⟨nodup, -, apart⟩ := List.nodup_append.1 h
    have fresh : a ∉ as := fun mem => apart a mem a (List.mem_singleton_self a) rfl
    rw [eraseDups_concat, if_neg fresh, ih nodup]

end EraseDups

namespace TagBundle

section Distinct

variable {a b : TagBundle}

theorem find?_eq_lookup (b : TagBundle) (name : String) : b.find? name = b.tags.lookup name := by
  obtain ⟨tags⟩ := b
  induction tags with
  | nil => rfl
  | cons nt tags ih =>
    obtain ⟨other, tag⟩ := nt
    by_cases h : other = name
    · subst h
      simp [find?]
    · have apart : (name == other) = false := by simpa using Ne.symm h
      rw [List.lookup_cons, apart, ← ih]
      simp [find?, h]

/-- With distinct names, what is found under a name is what the bundle lists with it. -/
theorem Distinct.find?_eq_some_iff (h : b.Distinct) {name : String} {tag : Tag} :
    b.find? name = some tag ↔ (name, tag) ∈ b.tags := by
  rw [find?_eq_lookup]
  exact lookup_eq_some_iff_mem h

/-- The bundle lists its names with the tags that are found under them. -/
theorem Distinct.tags_eq (h : b.Distinct) :
    b.tags = b.names.filterMap fun name => (b.find? name).map (name, ·) := by
  have listed : ∀ nt ∈ b.tags, (b.find? nt.1).map (nt.1, ·) = some nt := by
    intro nt hnt
    rw [h.find?_eq_some_iff.2 hnt, Option.map_some]
  rw [names, List.filterMap_map]
  exact (List.filterMap_some.symm.trans (List.filterMap_congr fun nt hnt => (listed nt hnt).symm))

/-- A bundle is known from its names in order and from the tags found under them. -/
theorem eq_of_names_of_find? (ha : a.Distinct) (hb : b.Distinct) (names : a.names = b.names)
    (found : ∀ name, a.find? name = b.find? name) : a = b := by
  have tags : a.tags = b.tags := by
    rw [ha.tags_eq, hb.tags_eq, names]
    simp only [found]
  cases a
  cases b
  exact congrArg mk tags

/-- With distinct names, the tag found is that of the latest entry. -/
theorem Distinct.find?_eq_latest (h : b.Distinct) (name : String) :
    b.find? name = (latest? Prod.fst name b.tags).map (·.2) := by
  cases hl : latest? Prod.fst name b.tags with
  | none =>
    rw [find?_eq_lookup, Option.map_none, List.lookup_eq_none_iff]
    intro nt hnt
    simpa using (latest?_eq_none_iff.1 hl nt hnt).symm
  | some nt =>
    obtain ⟨hnt, rfl⟩ := mem_of_latest? hl
    exact h.find?_eq_some_iff.2 hnt

end Distinct

section Merge

variable {a b : TagBundle}

theorem Distinct.merge (ha : a.Distinct) (b : TagBundle) : (a.merge b).Distinct := by
  obtain ⟨tags⟩ := b
  induction tags generalizing a with
  | nil => exact ha
  | cons nt tags ih => exact ih (ha.give nt.1 nt.2)

/-- Under a name the tag given last is found, be it in the second bundle or in the first. -/
theorem find?_merge_latest (a b : TagBundle) (name : String) :
    (a.merge b).find? name =
      ((latest? Prod.fst name b.tags).map (·.2)).or (a.find? name) :=
  view_foldl (·.find? name) (fun r nt => find?_give r nt.1 name nt.2) a b.tags

/-- A tag of the second bundle hides one of the first. -/
theorem find?_merge (a : TagBundle) (hb : b.Distinct) (name : String) :
    (a.merge b).find? name = (b.find? name).or (a.find? name) := by
  rw [find?_merge_latest, hb.find?_eq_latest]

/-- The names of the first bundle are followed by the new ones, each where it comes first. -/
theorem names_merge_eraseDups (a b : TagBundle) :
    (a.merge b).names = a.names ++ (b.names.filter (· ∉ a.names)).eraseDups := by
  obtain ⟨tags⟩ := b
  induction tags using List.reverseRecOn with
  | nil => simp [merge, names]
  | append_singleton tags nt ih =>
    have last : a.merge ⟨tags ++ [nt]⟩ = (a.merge ⟨tags⟩).give nt.1 nt.2 := by
      simp only [merge, List.foldl_append, List.foldl_cons, List.foldl_nil]
    have split : names ⟨tags ++ [nt]⟩ = names ⟨tags⟩ ++ [nt.1] := List.map_append
    rw [last, names_give, ih, split, List.filter_append]
    by_cases old : nt.1 ∈ a.names
    · simp [old]
    · by_cases again : nt.1 ∈ names ⟨tags⟩ <;> simp [old, again, eraseDups_concat]

/-- The names of the first bundle are followed by the new names of the second, in its order. -/
theorem names_merge (a : TagBundle) (hb : b.Distinct) :
    (a.merge b).names = a.names ++ b.names.filter (· ∉ a.names) := by
  rw [names_merge_eraseDups, eraseDups_of_nodup (hb.sublist List.filter_sublist)]

theorem distinct_empty : empty.Distinct :=
  List.nodup_nil

theorem empty_merge (h : a.Distinct) : empty.merge a = a := by
  refine eq_of_names_of_find? (distinct_empty.merge a) h ?_ fun name => ?_
  · rw [names_merge empty h]
    simp [empty, names]
  · rw [find?_merge empty h]
    exact Option.or_none

theorem merge_self (h : a.Distinct) : a.merge a = a := by
  refine eq_of_names_of_find? (h.merge a) h ?_ fun name => ?_
  · rw [names_merge a h]
    simp
  · rw [find?_merge a h, Option.or_self]

theorem merge_assoc {c : TagBundle} (ha : a.Distinct) (hb : b.Distinct) (hc : c.Distinct) :
    (a.merge b).merge c = a.merge (b.merge c) := by
  refine eq_of_names_of_find? ((ha.merge b).merge c) (ha.merge _) ?_ fun name => ?_
  · -- A name is new to `a` and `b` together if it is new to both.
    have fresh : c.names.filter (· ∉ a.names ++ b.names.filter (· ∉ a.names)) =
        (c.names.filter (· ∉ b.names)).filter (· ∉ a.names) := by
      rw [List.filter_filter]
      refine List.filter_congr fun name _ => ?_
      by_cases old : name ∈ a.names <;> simp [old]
    rw [names_merge _ hc, names_merge _ hb, names_merge _ (hb.merge c), names_merge _ hc, fresh,
      List.filter_append, List.append_assoc]
  · rw [find?_merge _ hc, find?_merge _ hb, find?_merge _ (hb.merge c), find?_merge _ hc,
      Option.or_assoc]

end Merge

/-- How a bundle is made. -/
inductive Recipe where
  | empty
  | give (r : Recipe) (name : String) (tag : Tag)
  | merge (a b : Recipe)

namespace Recipe

/-- The bundle that is made. -/
def bundle : Recipe → TagBundle
  | .empty => .empty
  | .give r name tag => r.bundle.give name tag
  | .merge a b => a.bundle.merge b.bundle

/-- What was given to the bundle, from first to last. Merging gives the tags of the other bundle, in
the order of that bundle. -/
def given : Recipe → List (String × Tag)
  | .empty => []
  | .give r name tag => r.given ++ [(name, tag)]
  | .merge a b => a.given ++ b.bundle.tags

/-- A bundle is made as if everything had been given to it one after the other. -/
theorem bundle_eq (r : Recipe) : r.bundle = TagBundle.empty.merge ⟨r.given⟩ := by
  induction r with
  | empty => rfl
  | give r name tag ih =>
    simp only [bundle, given, ih, TagBundle.merge, List.foldl_append, List.foldl_cons,
      List.foldl_nil]
  | merge a b ihA _ =>
    rw [bundle, given, ihA]
    simp only [TagBundle.merge, List.foldl_append]

theorem distinct_bundle (r : Recipe) : r.bundle.Distinct := by
  rw [bundle_eq]
  exact distinct_empty.merge _

theorem find?_bundle (r : Recipe) (name : String) :
    r.bundle.find? name = (latest? Prod.fst name r.given).map (·.2) := by
  rw [bundle_eq, find?_merge_latest]
  exact Option.or_none

theorem names_bundle (r : Recipe) : r.bundle.names = (r.given.map (·.1)).eraseDups := by
  rw [bundle_eq, names_merge_eraseDups]
  simp [TagBundle.empty, names]

/-- **A bundle is a map in insertion order.** Its names are distinct, and it counts them. Under a
name the tag given last is found, and none if the name never was given one. The names come in the
order in which they were first given a tag. So in a merged bundle the tags of the second bundle hide
those of the first, and its new names come after the names of the first. -/
theorem bundle_isOrderedMap (r : Recipe) :
    r.bundle.names.Nodup ∧ r.bundle.size = r.bundle.names.length ∧
    (∀ name, r.bundle.find? name = (latest? Prod.fst name r.given).map (·.2)) ∧
    (∀ name, r.bundle.find? name = none ↔ ∀ nt ∈ r.given, nt.1 ≠ name) ∧
    r.bundle.names = (r.given.map (·.1)).eraseDups ∧
    ∀ b : Recipe,
      (∀ name, (r.bundle.merge b.bundle).find? name =
        (b.bundle.find? name).or (r.bundle.find? name)) ∧
      (r.bundle.merge b.bundle).names =
        r.bundle.names ++ b.bundle.names.filter (· ∉ r.bundle.names) := by
  refine ⟨r.distinct_bundle, (List.length_map _).symm, r.find?_bundle, fun name => ?_,
    r.names_bundle, fun b => ⟨?_, ?_⟩⟩
  · rw [find?_bundle, Option.map_eq_none_iff, latest?_eq_none_iff]
  · exact find?_merge r.bundle b.distinct_bundle
  · exact names_merge r.bundle b.distinct_bundle

/-- A name keeps its place when its tag is replaced, in a merge too. -/
example (s t u v : Tag) :
    (((Recipe.empty.give "a" s).give "b" t).merge ((Recipe.empty.give "c" u).give "a" v)).bundle =
      ⟨[("a", v), ("b", t), ("c", u)]⟩ :=
  rfl

/-- **Bundles form an idempotent monoid under merging**, as lists of named tags. -/
theorem merge_isIdempotentMonoid (a b c : Recipe) :
    (a.bundle.merge b.bundle).merge c.bundle = a.bundle.merge (b.bundle.merge c.bundle) ∧
    a.bundle.merge .empty = a.bundle ∧ TagBundle.empty.merge a.bundle = a.bundle ∧
    a.bundle.merge a.bundle = a.bundle := by
  have ha := a.distinct_bundle
  exact ⟨merge_assoc ha b.distinct_bundle c.distinct_bundle, rfl, empty_merge ha, merge_self ha⟩

end Recipe

end TagBundle

end MessageDispatch
