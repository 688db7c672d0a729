import MessageDispatch.Ty

/-!
# Registries keyed by type

A registry holds, for some types, an entry whose kind depends on the type. Registering a type again
replaces its entry, so a type has at most one, and `Registry.size` counts types. Main statement:
`Registry.find?_insert`.
-/

namespace MessageDispatch

/-- Entries for distinct types. -/
structure Registry (F : Ty → Type) where
  entries : List ((t : Ty) × F t)
  distinct : (entries.map (·.1)).Nodup

namespace Registry

variable {F : Ty → Type}

/-- The registry without entries. -/
def empty : Registry F :=
  ⟨[], by simp⟩

/-- The entry of `t` in a list of entries. -/
def findIn? (t : Ty) : List ((t : Ty) × F t) → Option (F t)
  | [] => none
  | ⟨u, f⟩ :: rest => if h : u = t then some (h ▸ f) else findIn? t rest

/-- The entry of a type. -/
def find? (r : Registry F) (t : Ty) : Option (F t) :=
  findIn? t r.entries

/-- The type has an entry. -/
def contains (r : Registry F) (t : Ty) : Bool :=
  (r.find? t).isSome

/-- The registry in which `t` has the entry `f`, and other types keep theirs. -/
def insert (r : Registry F) (t : Ty) (f : F t) : Registry F where
  entries := ⟨t, f⟩ :: r.entries.filter (·.1 != t)
  distinct := by
    rw [List.map_cons, List.nodup_cons]
    constructor
    · simp
    · exact List.Nodup.sublist (List.Sublist.map _ List.filter_sublist) r.distinct

/-- How many types have an entry. -/
def size (r : Registry F) : Nat :=
  r.entries.length

/-- No type has an entry. -/
def isEmpty (r : Registry F) : Bool :=
  r.entries.isEmpty

@[simp] theorem find?_empty (t : Ty) : (empty : Registry F).find? t = none :=
  rfl

theorem findIn?_filter_of_ne {t u : Ty} (h : u ≠ t) (es : List ((t : Ty) × F t)) :
    findIn? u (es.filter (·.1 != t)) = findIn? u es := by
  induction es with
  | nil => rfl
  | cons e rest ih =>
    obtain ⟨w, f⟩ := e
    by_cases hw : w = t
    · subst hw
      simp [findIn?, Ne.symm h, ih]
    · by_cases hu : w = u
      · subst hu; simp [findIn?, hw]
      · simp [findIn?, hw, hu, ih]

/-- The entry given last is the one found. -/
@[simp] theorem find?_insert_self (r : Registry F) (t : Ty) (f : F t) :
    (r.insert t f).find? t = some f := by
  simp [find?, insert, findIn?]

/-- Registering a type leaves the others alone. -/
theorem find?_insert_of_ne (r : Registry F) {t u : Ty} (f : F t) (h : u ≠ t) :
    (r.insert t f).find? u = r.find? u := by
  simp [find?, insert, findIn?, Ne.symm h, findIn?_filter_of_ne h]

theorem isSome_findIn? (t : Ty) (es : List ((t : Ty) × F t)) :
    (findIn? t es).isSome = true ↔ t ∈ es.map (·.1) := by
  induction es with
  | nil => simp [findIn?]
  | cons e rest ih =>
    obtain ⟨w, f⟩ := e
    by_cases hw : w = t
    · simp [findIn?, hw]
    · simp only [findIn?, hw, dite_false, ih, List.map_cons, List.mem_cons, Ne.symm hw, false_or]

/-- A type is contained exactly when it is one of the keys. -/
theorem contains_iff (r : Registry F) (t : Ty) :
    r.contains t = true ↔ t ∈ r.entries.map (·.1) :=
  isSome_findIn? t r.entries

theorem contains_insert (r : Registry F) (t u : Ty) (f : F t) :
    (r.insert t f).contains u = (u == t || r.contains u) := by
  by_cases h : u = t
  · subst h; simp [contains]
  · simp [contains, find?_insert_of_ne r f h, h]

end Registry

end MessageDispatch
