import MessageDispatch.Proofs.Table
import MessageDispatch.Toml.Document

/-!
# Distinct names in documents

In a document that was read, each table gives a name once, at every depth. While a document is read
it only ever grows through `Entries.alter`, and every change that is made there adds a name that the
table did not have, or gives another value to one that it had (`Entries.Distinct.alter`). Inline
tables are made the same way, entry by entry (`value?_distinct`).
-/

namespace MessageDispatch.Toml

/-- An item whose tables, at every depth, give each name once. -/
inductive Item.Distinct : Item → Prop where
  | string (s : String) : Distinct (.string s)
  | scalar : Distinct .scalar
  | array {items : List Item} : (∀ i ∈ items, Distinct i) → Distinct (.array items)
  | table {entries : List (String × Item)} :
      (entries.map (·.1)).Nodup → (∀ e ∈ entries, Distinct e.2) → Distinct (.table entries)

namespace Item

@[simp] theorem distinct_string (s : String) : (Item.string s).Distinct :=
  .string s

@[simp] theorem distinct_array_iff {items : List Item} :
    (Item.array items).Distinct ↔ ∀ i ∈ items, i.Distinct := by
  constructor
  · intro h
    cases h with | array inside =>
    exact inside
  · exact .array

@[simp] theorem distinct_table_iff {entries : List (String × Item)} :
    (Item.table entries).Distinct ↔ (entries.map (·.1)).Nodup ∧ ∀ e ∈ entries, e.2.Distinct := by
  constructor
  · intro h
    cases h with | table names inside =>
    exact ⟨names, inside⟩
  · rintro ⟨names, inside⟩
    exact .table names inside

end Item

mutual

/-- A node whose tables, at every depth, give each name once. -/
inductive Node.Distinct : Node → Prop where
  | string (s : String) : Node.Distinct (.string s)
  | scalar : Node.Distinct .scalar
  | array {items : List Node} : (∀ n ∈ items, Node.Distinct n) → Node.Distinct (.array items)
  | tables {last : Entries} {before : List Entries} : Entries.Distinct last →
      (∀ es ∈ before, Entries.Distinct es) → Node.Distinct (.tables last before)
  | table {origin : Origin} {es : Entries} :
      Entries.Distinct es → Node.Distinct (.table origin es)

/-- Entries that give each name once, here and at every depth. -/
inductive Entries.Distinct : Entries → Prop where
  | intro {es : Entries} :
      (es.map (·.1)).Nodup → (∀ e ∈ es, Node.Distinct e.2) → Entries.Distinct es

end

namespace Entries

variable {es es' : Entries} {name : String} {n : Node}

namespace Distinct

theorem nil : Distinct [] :=
  ⟨List.nodup_nil, fun _ h => nomatch h⟩

/-- Entries grow by a name that they do not have. -/
theorem add (h : es.Distinct) (fresh : es.lookup name = none) (hn : n.Distinct) :
    Distinct (es ++ [(name, n)]) := by
  obtain ⟨names, nodes⟩ := h
  have unused : name ∉ es.map (·.1) := by
    intro used
    obtain ⟨e, he, rfl⟩ := List.mem_map.1 used
    simpa using List.lookup_eq_none_iff.1 fresh e he
  constructor
  · rw [List.map_append, List.nodup_append]
    refine ⟨names, by simp, ?_⟩
    intro a ha b hb
    cases List.mem_singleton.1 hb
    rintro rfl
    exact unused ha
  · intro e he
    obtain old | rfl := List.mem_append.1 he |>.imp_right List.mem_singleton.1
    · exact nodes e old
    · exact hn

/-- Another value for a name leaves the names as they are. -/
theorem replace (h : es.Distinct) (hn : n.Distinct) : (replace name n es).Distinct := by
  obtain ⟨names, nodes⟩ := h
  have same : (Entries.replace name n es).map (·.1) = es.map (·.1) := by
    rw [Entries.replace, List.map_map]
    apply List.map_congr_left
    intro e _
    by_cases he : e.1 = name <;> simp [he]
  constructor
  · rw [same]
    exact names
  · intro e he
    obtain ⟨old, hold, rfl⟩ := List.mem_map.1 he
    by_cases hname : old.1 = name
    · rw [if_pos hname]
      exact hn
    · rw [if_neg hname]
      exact nodes old hold

theorem of_lookup (h : es.Distinct) (found : es.lookup name = some n) : n.Distinct := by
  obtain ⟨names, nodes⟩ := h
  exact nodes _ ((lookup_eq_some_iff_mem names).1 found)

/-- What holds of the change at the end of a path holds of the change of the whole. -/
theorem alter {dotted : Bool} {change : Origin → Entries → Option Entries} {path : List String}
    {origin : Origin}
    (kept : ∀ {origin es es'}, Distinct es → change origin es = some es' → Distinct es')
    (h : es.Distinct) (altered : alter dotted change path origin es = some es') :
    es'.Distinct := by
  -- The rest of a path is altered in a table that is new, or that was distinct where it stood.
  induction path generalizing origin es es' with
  | nil => exact kept h altered
  | cons name path ih =>
    rw [Entries.alter] at altered
    cases found : es.lookup name with
    | none =>
      simp only [found, Option.map_eq_some_iff] at altered
      obtain ⟨inner, hinner, rfl⟩ := altered
      exact h.add found (.table (ih nil hinner))
    | some n =>
      have hn : n.Distinct := h.of_lookup found
      cases hn with
      | table inside =>
        simp only [found] at altered
        split at altered
        · cases altered
        · obtain ⟨inner, hinner, rfl⟩ := Option.map_eq_some_iff.1 altered
          exact h.replace (.table (ih inside hinner))
      | tables inside before =>
        simp only [found, Option.map_eq_some_iff] at altered
        obtain ⟨last, hlast, rfl⟩ := altered
        exact h.replace (.tables (ih inside hlast) before)
      | string | scalar | array => simp [found] at altered

variable {k : Key}

theorem define {origin : Origin} (h : es.Distinct) (hn : n.Distinct)
    (defined : define k n origin es = some es') : es'.Distinct := by
  apply h.alter _ defined
  intro origin es es' h added
  split at added
  case isTrue free =>
    cases added
    have fresh : es.lookup k.name = none := by
      simp only [Bool.and_eq_true, Option.isNone_iff_eq_none] at free
      exact free.2
    exact h.add fresh hn
  case isFalse => cases added

theorem openTable (h : es.Distinct) (opened : openTable k es = some es') : es'.Distinct := by
  apply h.alter _ opened
  intro origin es es' h changed
  split at changed
  · next fresh =>
    cases changed
    exact h.add fresh (.table nil)
  · next found =>
    cases changed
    cases h.of_lookup found with
    | table inside => exact h.replace (.table inside)
  · cases changed

theorem openElement (h : es.Distinct) (opened : openElement k es = some es') :
    es'.Distinct := by
  apply h.alter _ opened
  intro origin es es' h changed
  split at changed
  · next fresh =>
    cases changed
    exact h.add fresh (.tables nil fun _ h => nomatch h)
  · next last before found =>
    cases changed
    cases h.of_lookup found with
    | tables inside earlier =>
      exact h.replace (.tables nil (List.forall_mem_cons.2 ⟨inside, earlier⟩))
  · cases changed

theorem defineAt {header : List String} (h : es.Distinct) (hn : n.Distinct)
    (defined : defineAt header k n es = some es') : es'.Distinct :=
  h.alter (fun h changed => h.define hn changed) defined

end Distinct

end Entries

mutual

/-- The value that a tree spells has distinct names. -/
theorem value?_distinct (t : Tree) {n : Node} (h : value? t = some n) : n.Distinct := by
  cases t with
  | bare run =>
    rw [value?] at h
    split at h
    · cases h
      exact .scalar
    · cases h
  | text s _ =>
    rw [value?] at h
    cases h
    exact .string s
  | enclosed b parts =>
    cases b with
    | square =>
      rw [value?] at h
      obtain ⟨items, hitems, rfl⟩ := Option.map_eq_some_iff.1 h
      exact .array (items?_distinct parts hitems)
    | curly =>
      rw [value?] at h
      obtain ⟨es, hes, rfl⟩ := Option.map_eq_some_iff.1 h
      exact .table (entries?_distinct parts .nil hes)
  | blank | newline | equals | comma => cases h
termination_by structural t

theorem items?_distinct {wanted : Bool} (ts : List Tree) {items : List Node}
    (h : items? wanted ts = some items) : ∀ n ∈ items, n.Distinct := by
  cases ts with
  | nil =>
    rw [items?] at h
    cases h
    exact fun _ h => nomatch h
  | cons t ts =>
    cases t with
    | blank | newline =>
      rw [items?] at h
      exact items?_distinct ts h
    | comma =>
      rw [items?] at h
      split at h
      · cases h
      · exact items?_distinct ts h
    | equals | bare | text | enclosed =>
      simp only [items?] at h
      split at h
      · split at h
        · next n ns hn hns =>
          cases h
          exact List.forall_mem_cons.2 ⟨value?_distinct _ hn, items?_distinct ts hns⟩
        · cases h
      · cases h
termination_by structural ts

theorem entries?_distinct {slot : Slot} {es es' : Entries} (ts : List Tree) (hes : es.Distinct)
    (h : entries? slot es ts = some es') : es'.Distinct := by
  cases ts with
  | nil =>
    unfold entries? at h
    split at h <;> cases h <;> exact hes
  | cons t ts =>
    cases t with
    | blank =>
      unfold entries? at h
      exact entries?_distinct ts hes h
    | newline | comma =>
      unfold entries? at h
      split at h
      · exact entries?_distinct ts hes h
      · cases h
    | equals =>
      unfold entries? at h
      split at h
      · split at h
        · exact entries?_distinct ts hes h
        · cases h
      · exact entries?_distinct ts hes h
      · cases h
    | bare | text | enclosed =>
      simp only [entries?] at h
      split at h
      · split at h
        · exact entries?_distinct ts hes h
        · cases h
      · cases h
      · split at h
        · cases h
        · next hn =>
          split at h
          · next es defined =>
            exact entries?_distinct ts (hes.define (value?_distinct _ hn) defined) h
          · cases h
      · cases h
termination_by structural ts

end

theorem lineValue?_distinct {ts : List Tree} {n : Node} (h : lineValue? ts = some n) :
    n.Distinct := by
  unfold lineValue? at h
  split at h
  · exact value?_distinct _ h
  · cases h

/-- The value of a definition has distinct names. -/
theorem statement?_distinct {ts : List Tree} {k : Key} {n : Node}
    (h : statement? ts = some (.definition k n)) : n.Distinct := by
  unfold statement? at h
  split at h
  · split at h
    · split at h <;> simp at h
    · cases h
  · split at h
    · split at h
      · next hn =>
        cases h
        exact lineValue?_distinct hn
      · cases h
    · cases h

namespace Reader

variable {r r' : Reader}

/-- A line leaves the names of what was read distinct. -/
theorem line_distinct {ts : List Tree} (h : r.root.Distinct) (read : r.line ts = some r') :
    r'.root.Distinct := by
  unfold line at read
  split at read
  · cases read
    exact h
  · next t ts _ =>
    obtain ⟨s, said, done⟩ := Option.bind_eq_some_iff.1 read
    cases s with
    | header k =>
      obtain ⟨root, opened, rfl⟩ := Option.map_eq_some_iff.1 done
      exact h.openTable opened
    | element k =>
      obtain ⟨root, opened, rfl⟩ := Option.map_eq_some_iff.1 done
      exact h.openElement opened
    | definition k n =>
      obtain ⟨root, defined, rfl⟩ := Option.map_eq_some_iff.1 done
      exact h.defineAt (statement?_distinct said) defined

theorem lines_distinct {lines : List (List Tree)} (h : r.root.Distinct)
    (read : lines.foldlM line r = some r') : r'.root.Distinct := by
  induction lines generalizing r with
  | nil =>
    cases read
    exact h
  | cons ts lines ih =>
    rw [List.foldlM_cons] at read
    obtain ⟨next, first, rest⟩ := Option.bind_eq_some_iff.1 read
    exact ih (line_distinct h first) rest

end Reader

namespace Node

/-- A finished table has the names that it was given. -/
theorem document_names (es : Entries) : (document es).map (·.1) = es.map (·.1) := by
  induction es with
  | nil => rfl
  | cons e es ih =>
    obtain ⟨name, n⟩ := e
    rw [document, List.map_cons, List.map_cons, ih]

/-- A finished table is as distinct as its finished values are. -/
theorem table_distinct {es : Entries} (h : es.Distinct)
    (finished : (∀ e ∈ es, e.2.Distinct) → ∀ e ∈ document es, e.2.Distinct) :
    (Item.table (document es)).Distinct := by
  obtain ⟨names, nodes⟩ := h
  rw [← document_names] at names
  exact .table names (finished nodes)

mutual

/-- Finishing a node keeps names distinct. -/
theorem item_distinct (n : Node) (h : n.Distinct) : n.item.Distinct := by
  cases h with
  | string s => exact .string s
  | scalar => exact .scalar
  | array inside => exact .array (itemList_distinct _ inside)
  | tables inside earlier =>
    apply Item.Distinct.array
    apply tableList_distinct _ earlier
    rw [List.forall_mem_singleton]
    exact table_distinct inside (document_distinct _)
  | table inside => exact table_distinct inside (document_distinct _)
termination_by structural n

theorem itemList_distinct (ns : List Node) (h : ∀ n ∈ ns, n.Distinct) :
    ∀ i ∈ itemList ns, i.Distinct := by
  cases ns with
  | nil => exact fun _ h => nomatch h
  | cons n ns =>
    rw [List.forall_mem_cons] at h
    exact List.forall_mem_cons.2 ⟨item_distinct n h.1, itemList_distinct ns h.2⟩
termination_by structural ns

theorem tableList_distinct (ts : List Entries) (h : ∀ es ∈ ts, es.Distinct) {after : List Item}
    (hafter : ∀ i ∈ after, i.Distinct) : ∀ i ∈ tableList ts after, i.Distinct := by
  cases ts with
  | nil => exact hafter
  | cons es ts =>
    rw [List.forall_mem_cons] at h
    apply tableList_distinct ts h.2
    rw [List.forall_mem_cons]
    exact ⟨table_distinct h.1 (document_distinct es), hafter⟩
termination_by structural ts

theorem document_distinct (es : Entries) (h : ∀ e ∈ es, e.2.Distinct) :
    ∀ e ∈ document es, e.2.Distinct := by
  cases es with
  | nil => exact fun _ h => nomatch h
  | cons e es =>
    obtain ⟨name, n⟩ := e
    rw [List.forall_mem_cons] at h
    exact List.forall_mem_cons.2 ⟨item_distinct n h.1, document_distinct es h.2⟩
termination_by structural es

end

end Node

/-- In a document that was read, each table gives a name once. -/
theorem document?_distinct {text : String} {d : Document} (h : document? text = some d) :
    (Item.table d).Distinct := by
  unfold document? at h
  split at h
  · cases h
  · obtain ⟨r, read, rfl⟩ := Option.map_eq_some_iff.1 h
    have distinct : r.root.Distinct := Reader.lines_distinct .nil read
    exact Node.table_distinct distinct (Node.document_distinct r.root)

end MessageDispatch.Toml
