import MessageDispatch.Value

/-!
# Bundles of tags

A bundle gives tags to names. Names come in the order in which they were first given; giving a name
again replaces its tag in place. So names never repeat in a bundle that was built from the empty one
by `give` and `merge` (`TagBundle.Distinct`), and looking one up finds the tag given last.
-/

namespace MessageDispatch

namespace TagBundle

/-- Gives `tag` to `name` in a list of named tags. -/
def giveIn (name : String) (tag : Tag) : List (String × Tag) → List (String × Tag)
  | [] => [(name, tag)]
  | (other, old) :: rest =>
    if other = name then (other, tag) :: rest else (other, old) :: giveIn name tag rest

/-- The bundle without tags. -/
def empty : TagBundle :=
  ⟨[]⟩

/-- The bundle in which `name` has `tag`. -/
def give (b : TagBundle) (name : String) (tag : Tag) : TagBundle :=
  ⟨giveIn name tag b.tags⟩

/-- The bundle `a` after all tags of `b` were given to it in order. -/
def merge (a b : TagBundle) : TagBundle :=
  b.tags.foldl (fun r nt => r.give nt.1 nt.2) a

/-- The bundle of a list of named tags, given from left to right. -/
def ofList (tags : List (String × Tag)) : TagBundle :=
  tags.foldl (fun r nt => r.give nt.1 nt.2) empty

/-- The tag of a name. -/
def find? (b : TagBundle) (name : String) : Option Tag :=
  (b.tags.find? (·.1 == name)).map (·.2)

/-- The names that have a tag. -/
def names (b : TagBundle) : List String :=
  b.tags.map (·.1)

/-- How many names have a tag. -/
def size (b : TagBundle) : Nat :=
  b.tags.length

/-- No name has a tag. -/
def isEmpty (b : TagBundle) : Bool :=
  b.tags.isEmpty

/-- No name occurs twice. -/
def Distinct (b : TagBundle) : Prop :=
  b.names.Nodup

theorem find?_giveIn (name query : String) (tag : Tag) (tags : List (String × Tag)) :
    ((giveIn name tag tags).find? (·.1 == query)).map (·.2) =
      if query = name then some tag else (tags.find? (·.1 == query)).map (·.2) := by
  induction tags with
  | nil =>
    by_cases h : query = name
    · simp [giveIn, h]
    · simp [giveIn, h, Ne.symm h]
  | cons nt rest ih =>
    obtain ⟨other, old⟩ := nt
    by_cases h : other = name
    · subst h
      by_cases hq : other = query
      · subst hq; simp [giveIn]
      · simp [giveIn, hq, Ne.symm hq]
    · by_cases hq : other = query
      · subst hq; simp [giveIn, h]
      · simp [giveIn, h, hq, ih]

/-- The tag given last to a name is the one found; other names keep theirs. -/
theorem find?_give (b : TagBundle) (name query : String) (tag : Tag) :
    (b.give name tag).find? query = if query = name then some tag else b.find? query :=
  find?_giveIn name query tag b.tags

theorem map_fst_giveIn (name : String) (tag : Tag) (tags : List (String × Tag)) :
    (giveIn name tag tags).map (·.1) =
      if name ∈ tags.map (·.1) then tags.map (·.1) else tags.map (·.1) ++ [name] := by
  induction tags with
  | nil => simp [giveIn]
  | cons nt rest ih =>
    obtain ⟨other, old⟩ := nt
    by_cases h : other = name
    · simp [giveIn, h]
    · have h' : ¬ name = other := fun e => h e.symm
      simp only [giveIn, h, if_false, List.map_cons, ih, List.mem_cons, h', false_or]
      split <;> simp

/-- A new name comes last; a name that has a tag keeps its place. -/
theorem names_give (b : TagBundle) (name : String) (tag : Tag) :
    (b.give name tag).names = if name ∈ b.names then b.names else b.names ++ [name] :=
  map_fst_giveIn name tag b.tags

theorem Distinct.give {b : TagBundle} (h : b.Distinct) (name : String) (tag : Tag) :
    (b.give name tag).Distinct := by
  unfold Distinct at *
  rw [names_give]
  split
  · exact h
  · rename_i hn
    rw [List.nodup_append]
    refine ⟨h, by simp, ?_⟩
    intro a ha b hb
    rw [List.mem_singleton.1 hb]
    rintro rfl
    exact hn ha

end TagBundle

end MessageDispatch
