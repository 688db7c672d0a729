import MessageDispatch.Proofs.Loading
import MessageDispatch.Proofs.SettingDecoders

/-!
# Written settings

A plain document means what it says: its groups are tables, its settings are texts, and each is
taken as it is entered (`Document.means_iff`). Any two accepted documents mean the same settings
exactly if they spell the same, up to defaults (`Document.eq_iff_agrees`). What stands in an
accepted document is written for a setting, with one exception: items of an array beyond the last
field of its group change nothing (`decode?_surplus`).
-/

namespace MessageDispatch

open Toml

namespace Setting

theorem siblings_nodup (k : Setting) : k.siblings.Nodup := by
  cases k <;> decide

variable {k : Setting} {v w : String} {i : Item}

theorem Spells.allows (h : k.Spells v i) : k.Allows v := by
  cases h <;> assumption

/-- An item spells one text at most. -/
theorem Spells.unique (hv : k.Spells v i) (hw : k.Spells w i) : v = w := by
  cases hv <;> cases hw <;> rfl

end Setting

/-- A group writes one item at most for a field. -/
theorem Toml.Item.Writes.unique {fields : List String} {field : String} {g i j : Item}
    (hf : fields.Nodup) (hg : g.Distinct) (hi : g.Writes fields field i)
    (hj : g.Writes fields field j) : i = j := by
  cases hi with
  | named hi =>
    cases hj with | named hj =>
    cases hg with | table names =>
    exact eq_of_mem_of_mem names hi hj
  | placed hm hi =>
    cases hj with | placed hn hj =>
    have inside := (List.getElem?_eq_some_iff.1 hm).1
    have same := (List.getElem?_inj inside hf).1 (hm.trans hn.symm)
    subst same
    exact Option.some.inj (hi.symm.trans hj)

namespace Toml

/-- What stands in a group: a value of its table, or an item of its array. -/
inductive Item.Holds : Item → Item → Prop where
  | entry {entries : List (String × Item)} {field : String} {i : Item} :
      (field, i) ∈ entries → Holds (.table entries) i
  | element {items : List Item} {i : Item} : i ∈ items → Holds (.array items) i

/-- What stands in the array of a group beyond its last field. -/
inductive Item.HasSurplus (name : String) : Item → Item → Prop where
  | intro {fields : List String} {items : List Item} {i : Item} {n : Nat} :
      (name, fields) ∈ Settings.groups → fields.length ≤ n → items[n]? = some i →
      HasSurplus name (.array items) i

namespace Document

variable {d d' : Document} {s s' : Settings} {k : Setting} {v : String}

/-- A document writes one item at most for a setting. -/
theorem Writes.unique (hd : (Item.table d).Distinct) {i j : Item} (hi : d.Writes k i)
    (hj : d.Writes k j) : i = j := by
  cases hd with | table names inside =>
  obtain ⟨g, hg, hi⟩ := hi
  obtain ⟨g', hg', hj⟩ := hj
  obtain rfl := eq_of_mem_of_mem names hg hg'
  exact hi.unique k.siblings_nodup (inside _ hg) hj

/-- A document that spells a text for a setting. -/
def Spells (d : Document) (k : Setting) (v : String) : Prop :=
  ∃ i, d.Writes k i ∧ k.Spells v i

/-- A setting has the value that is spelt for it. -/
theorem Spells.value_eq (hd : (Item.table d).Distinct) (h : Settings.decode? d = some s)
    (spells : d.Spells k v) : s.value k = some v := by
  obtain ⟨i, hi, hv⟩ := spells
  have takes := ((Settings.decode?_eq_some_iff hd).1 h).2 k
  generalize s.value k = value at takes
  cases takes with
  | spelt hj hw =>
    cases hi.unique hd hj
    rw [hv.unique hw]
  | unwritten unwritten => exact absurd hi (unwritten i)

/-- What a document spells is spelt in another one too, unless it is a default that the other one
does not write. Names and paths have no such default. -/
def Agrees (d d' : Document) : Prop :=
  ∀ k v, d.Spells k v →
    d'.Spells k v ∨ k ≠ .names ∧ k ≠ .path ∧ k.default = some v ∧ ∀ i, ¬ d'.Writes k i

theorem agrees_of_decode? (hd : (Item.table d).Distinct) (hd' : (Item.table d').Distinct)
    (h : Settings.decode? d = some s) (h' : Settings.decode? d' = some s) : d.Agrees d' := by
  intro k v spells
  have takes := ((Settings.decode?_eq_some_iff hd').1 h').2 k
  rw [spells.value_eq hd h] at takes
  generalize hw : some v = value at takes
  cases takes with
  | spelt hi hv =>
    cases hw
    exact .inl ⟨_, hi, hv⟩
  | unwritten unwritten =>
    refine .inr ⟨?_, ?_, rfl, unwritten⟩
    · rintro rfl
      cases hw
    · rintro rfl
      cases hw

/-- Two documents mean the same settings exactly if they spell the same, up to defaults. -/
theorem eq_iff_agrees (hd : (Item.table d).Distinct) (hd' : (Item.table d').Distinct)
    (h : Settings.decode? d = some s) (h' : Settings.decode? d' = some s') :
    s = s' ↔ d.Agrees d' ∧ d'.Agrees d := by
  constructor
  · rintro rfl
    exact ⟨agrees_of_decode? hd hd' h h', agrees_of_decode? hd' hd h' h⟩
  · rintro ⟨there, back⟩
    obtain ⟨-, takes⟩ := (Settings.decode?_eq_some_iff hd).1 h
    obtain ⟨declared, takes'⟩ := (Settings.decode?_eq_some_iff hd').1 h'
    -- It is enough that the second document takes the values of the first, setting by setting.
    suffices again : Settings.decode? d' = some s from Option.some.inj (again.symm.trans h')
    refine (Settings.decode?_eq_some_iff hd').2 ⟨declared, ?_⟩
    intro k
    have first := takes k
    have second := takes' k
    generalize s.value k = v at first
    generalize s'.value k = w at second
    cases first with
    | spelt hi hv =>
      obtain ⟨j, hj, hw⟩ | ⟨-, -, default, unwritten⟩ := there k _ ⟨_, hi, hv⟩
      · exact .spelt hj hw
      · rw [← default]
        exact .unwritten unwritten
    | unwritten unwritten =>
      cases second with
      | spelt hj hw =>
        obtain ⟨i, hi, -⟩ | ⟨-, -, default, -⟩ := back k _ ⟨_, hj, hw⟩
        · exact absurd hi (unwritten i)
        · rw [default]
          exact .spelt hj hw
      | unwritten unwritten' => exact .unwritten unwritten'

/-- A document that gives a text to a setting in the table of its group. -/
def Enters (d : Document) (k : Setting) (v : String) : Prop :=
  ∃ entries, (k.group, .table entries) ∈ d ∧ (k.field, .string v) ∈ entries

/-- A document whose groups are tables and whose settings are texts. -/
structure Plain (d : Document) : Prop where
  groups : ∀ e ∈ d, ∃ entries, e.2 = .table entries
  settings : ∀ k i, d.Writes k i → ∃ v, i = .string v

/-- A document that means settings to the letter: its groups are tables of declared fields, its
settings are texts that they may have, and each setting is what is entered for it, or else its
default. -/
structure Means (d : Document) (s : Settings) : Prop where
  groups : ∀ e ∈ d, ∃ fields entries, (e.1, fields) ∈ Settings.groups ∧
    e.2 = .table entries ∧ ∀ f ∈ entries, f.1 ∈ fields
  settings : ∀ (k : Setting) entries i, (k.group, .table entries) ∈ d → (k.field, i) ∈ entries →
    ∃ v, i = .string v ∧ k.Allows v
  entered : ∀ k v, d.Enters k v → s.value k = some v
  unentered : ∀ k, (∀ v, ¬ d.Enters k v) → s.value k = k.default

theorem Enters.writes (h : d.Enters k v) : d.Writes k (.string v) := by
  obtain ⟨entries, hg, hi⟩ := h
  exact ⟨_, hg, .named hi⟩

/-- Where groups are tables, what is written for a setting stands in the table of its group. -/
theorem Writes.exists_mem (groups : ∀ e ∈ d, ∃ entries, e.2 = .table entries) {i : Item}
    (h : d.Writes k i) : ∃ entries, (k.group, .table entries) ∈ d ∧ (k.field, i) ∈ entries := by
  obtain ⟨g, hg, hi⟩ := h
  obtain ⟨entries, rfl⟩ := groups _ hg
  cases hi with | named hi =>
  exact ⟨entries, hg, hi⟩

/-- Where groups are tables, a text that is written for a setting is entered for it. -/
theorem Writes.enters (groups : ∀ e ∈ d, ∃ entries, e.2 = .table entries)
    (h : d.Writes k (.string v)) : d.Enters k v :=
  h.exists_mem groups

section ToTheLetter

variable (h : d.Means s)
include h

theorem Means.tables : ∀ e ∈ d, ∃ entries, e.2 = .table entries := by
  intro e he
  obtain ⟨-, entries, -, table, -⟩ := h.groups e he
  exact ⟨entries, table⟩

/-- What is written for a setting is a text that the setting may have. -/
theorem Means.text_of_writes {i : Item} (hi : d.Writes k i) : ∃ v, i = .string v ∧ k.Allows v := by
  obtain ⟨entries, hg, hf⟩ := hi.exists_mem h.tables
  exact h.settings k entries i hg hf

theorem Means.declared : d.Declared := by
  intro e he
  obtain ⟨fields, entries, listed, table, declared⟩ := h.groups e he
  rw [table]
  exact ⟨fields, listed, .table declared⟩

/-- Each setting takes what is entered for it, or else its default. -/
theorem Means.takes (k : Setting) : k.Takes (d.Writes k) (s.value k) := by
  by_cases entered : ∃ v, d.Enters k v
  · obtain ⟨v, hv⟩ := entered
    obtain ⟨w, same, allows⟩ := h.text_of_writes hv.writes
    cases same
    rw [h.entered k v hv]
    exact .spelt hv.writes (.text allows)
  · rw [not_exists] at entered
    rw [h.unentered k entered]
    apply Setting.Takes.unwritten
    intro i hi
    obtain ⟨v, rfl, -⟩ := h.text_of_writes hi
    exact entered v (hi.enters h.tables)

theorem Means.plain : d.Plain where
  groups := h.tables
  settings k i hi := by
    obtain ⟨v, rfl, -⟩ := h.text_of_writes hi
    exact ⟨v, rfl⟩

end ToTheLetter

/-- A text that is written for a setting is one that the setting may have, and is its value. -/
theorem takes_text_of_writes (hd : (Item.table d).Distinct)
    (takes : k.Takes (d.Writes k) (s.value k)) (hv : d.Writes k (.string v)) :
    k.Allows v ∧ s.value k = some v := by
  generalize s.value k = value at takes
  cases takes with
  | spelt hi spells =>
    cases hv.unique hd hi
    cases spells with | text allows =>
    exact ⟨allows, rfl⟩
  | unwritten unwritten => exact absurd hv (unwritten _)

/-- A plain document means what is taken from it. -/
theorem Plain.means (plain : d.Plain) (hd : (Item.table d).Distinct) (declared : d.Declared)
    (takes : ∀ k : Setting, k.Takes (d.Writes k) (s.value k)) : d.Means s where
  groups := by
    intro e he
    obtain ⟨fields, listed, group⟩ := declared e he
    obtain ⟨entries, table⟩ := plain.groups e he
    rw [table] at group
    cases group with | table names =>
    exact ⟨fields, entries, listed, table, names⟩
  settings := by
    intro k entries i hg hi
    have writes : d.Writes k i := ⟨_, hg, .named hi⟩
    obtain ⟨v, rfl⟩ := plain.settings k i writes
    exact ⟨v, rfl, (takes_text_of_writes hd (takes k) writes).1⟩
  entered k v hv := (takes_text_of_writes hd (takes k) hv.writes).2
  unentered := by
    intro k unentered
    rw [← Setting.takes_iff_of_unwritten]
    · exact takes k
    · intro i hi
      obtain ⟨v, rfl⟩ := plain.settings k i hi
      exact unentered v (hi.enters plain.groups)

/-- The documents that mean settings to the letter are the plain ones that are decoded to them. -/
theorem means_iff (hd : (Item.table d).Distinct) :
    d.Means s ↔ Settings.decode? d = some s ∧ d.Plain := by
  rw [Settings.decode?_eq_some_iff hd]
  constructor
  · intro h
    exact ⟨⟨h.declared, h.takes⟩, h.plain⟩
  · rintro ⟨⟨declared, takes⟩, plain⟩
    exact plain.means hd declared takes

/-- Every field of a group belongs to a setting. -/
theorem exists_setting {name field : String} {fields : List String}
    (listed : (name, fields) ∈ Settings.groups) (hf : field ∈ fields) :
    ∃ k : Setting, k.group = name ∧ k.siblings = fields ∧ k.field = field := by
  simp only [Settings.groups, List.mem_cons, List.not_mem_nil, or_false, Prod.mk.injEq] at listed
  obtain ⟨rfl, rfl⟩ | ⟨rfl, rfl⟩ | ⟨rfl, rfl⟩ := listed
  · obtain rfl | rfl : field = "style" ∨ field = "names" := by simpa using hf
    · exact ⟨.style, rfl, rfl, rfl⟩
    · exact ⟨.names, rfl, rfl, rfl⟩
  · obtain rfl : field = "mode" := by simpa using hf
    exact ⟨.mode, rfl, rfl, rfl⟩
  · obtain rfl | rfl : field = "sink" ∨ field = "path" := by simpa using hf
    · exact ⟨.sink, rfl, rfl, rfl⟩
    · exact ⟨.path, rfl, rfl, rfl⟩

/-- What stands in a declared group is written for a setting of the group, or is beyond its last
field. -/
theorem writes_or_surplus (declared : d.Declared) {name : String} {g i : Item}
    (hg : (name, g) ∈ d) (hi : g.Holds i) :
    (∃ k : Setting, k.group = name ∧ d.Writes k i) ∨ g.HasSurplus name i := by
  obtain ⟨fields, listed, group⟩ := declared _ hg
  cases hi with
  | entry hi =>
    cases group with | table names =>
    obtain ⟨k, rfl, hs, hf⟩ := exists_setting listed (names _ hi)
    refine .inl ⟨k, rfl, _, hg, ?_⟩
    rw [hs, hf]
    exact .named hi
  | element hi =>
    obtain ⟨n, hn⟩ := List.mem_iff_getElem?.1 hi
    by_cases inside : n < fields.length
    · have field : fields[n]? = some fields[n] := List.getElem?_eq_getElem inside
      obtain ⟨k, rfl, hs, hf⟩ := exists_setting listed (List.getElem_mem inside)
      refine .inl ⟨k, rfl, _, hg, ?_⟩
      rw [hs, hf]
      exact .placed field hn
    · exact .inr (.intro listed (by omega) hn)

end Document

end Toml

namespace Settings

variable {before after : Document} {name : String}

/-- Only the decoder of a group reads it. -/
theorem setting?_lookup_congr {α : Type} {decode : Item → Option α} {default : α} {n : String}
    {g g' : Item} (same : n = name → decode g = decode g') :
    setting? decode default ((before ++ (name, g) :: after).lookup n) =
      setting? decode default ((before ++ (name, g') :: after).lookup n) := by
  rw [List.lookup_append, List.lookup_append, List.lookup_cons, List.lookup_cons]
  cases before.lookup n with
  | some _ => rfl
  | none =>
    by_cases hn : n = name
    · simpa [hn, setting?] using same hn
    · rw [beq_false_of_ne hn]

/-- Items of an array beyond the last field change nothing. -/
theorem fields?_surplus {fields : List String} {items : List Item} (more : List Item)
    (full : fields.length ≤ items.length) :
    fields? fields (.array (items ++ more)) = fields? fields (.array items) := by
  have fuller : fields.length ≤ (items ++ more).length := by
    rw [List.length_append]
    omega
  have cut : fields.zip (items ++ more) = fields.zip items := by
    rw [List.zip_eq_zip_take_min, Nat.min_eq_left fuller, List.take_append_of_le_length full,
      @List.zip_eq_zip_take_min _ _ fields items, Nat.min_eq_left full]
  rw [fields?, fields?, cut]

theorem decode?_surplus {fields : List String} {items more : List Item}
    (listed : (name, fields) ∈ groups) (full : fields.length ≤ items.length) :
    decode? (before ++ (name, .array (items ++ more)) :: after) =
      decode? (before ++ (name, .array items) :: after) := by
  have same := fields?_surplus more full
  have arguments (h : "arguments" = name) :
      arguments? (.array (items ++ more)) = arguments? (.array items) := by
    obtain rfl : fields = ["style", "names"] := by simpa [groups, ← h] using listed
    rw [arguments?, arguments?, same]
  have result (h : "result" = name) :
      result? (.array (items ++ more)) = result? (.array items) := by
    obtain rfl : fields = ["mode"] := by simpa [groups, ← h] using listed
    rw [result?, result?, same]
  have audit (h : "audit" = name) :
      audit? (.array (items ++ more)) = audit? (.array items) := by
    obtain rfl : fields = ["sink", "path"] := by simpa [groups, ← h] using listed
    rw [audit?, audit?, same]
  apply Option.ext
  intro s
  rw [decode?_eq_some_iff_groups, decode?_eq_some_iff_groups, setting?_lookup_congr arguments,
    setting?_lookup_congr result, setting?_lookup_congr audit]
  simp only [List.forall_mem_append, List.forall_mem_cons]

/-- **A document means what it writes, except for the surplus of arrays.** Documents that are read
have distinct names. Those with distinct names are accepted if their groups are declared and each
setting takes the text that is spelt for it, or else its default. The plain ones among the accepted
are those that mean their settings to the letter. Two accepted ones mean the same settings exactly
if they spell the same, up to defaults. What stands in an accepted one is written for a setting or
is surplus, and surplus changes nothing. -/
theorem decode?_heeds_written (d : Document) :
    (∀ text, document? text = some d → (Item.table d).Distinct) ∧
    ((Item.table d).Distinct →
      (∀ s, decode? d = some s ↔ d.Declared ∧ ∀ k : Setting, k.Takes (d.Writes k) (s.value k)) ∧
      (∀ s, d.Means s ↔ decode? d = some s ∧ d.Plain) ∧
      (∀ (d' : Document) s s', (Item.table d').Distinct → decode? d = some s →
        decode? d' = some s' → (s = s' ↔ d.Agrees d' ∧ d'.Agrees d)) ∧
      (∀ s name g i, decode? d = some s → (name, g) ∈ d → g.Holds i →
        (∃ k : Setting, k.group = name ∧ d.Writes k i) ∨ g.HasSurplus name i) ∧
      ∀ before after name fields items more, d = before ++ (name, .array (items ++ more)) :: after →
        (name, fields) ∈ groups → fields.length ≤ items.length →
        decode? d = decode? (before ++ (name, .array items) :: after)) := by
  constructor
  · intro text h
    exact document?_distinct h
  · intro hd
    refine ⟨?_, ?_, ?_, ?_, ?_⟩
    · intro s
      exact decode?_eq_some_iff hd
    · intro s
      exact Document.means_iff hd
    · intro d' s s' hd' h h'
      exact Document.eq_iff_agrees hd hd' h h'
    · intro s name g i h hg hi
      have declared := ((decode?_eq_some_iff hd).1 h).1
      exact Document.writes_or_surplus declared hg hi
    · rintro before after name fields items more rfl listed full
      exact decode?_surplus listed full

/-- A document with the sink and the path of its binding events. -/
def pathDocument : Document :=
  [("audit", .table [("sink", .string "file"), ("path", .string "x.log")])]

/-- The same with a default spelt out. -/
def modeDocument : Document :=
  pathDocument ++ [("result", .table [("mode", .string "no_operation")])]

/-- The settings of both documents. -/
def pathSettings : Settings where
  audit := { sink := .file, path := some "x.log" }

theorem pathDocument_plain : pathDocument.Plain where
  groups := by simp [pathDocument]
  settings := by
    rintro k i ⟨g, hg, hi⟩
    obtain ⟨-, rfl⟩ := Prod.mk.inj (List.mem_singleton.1 hg)
    cases hi with | named hi =>
    simp only [List.mem_cons, Prod.mk.injEq, List.not_mem_nil, or_false] at hi
    obtain ⟨-, rfl⟩ | ⟨-, rfl⟩ := hi
    · exact ⟨_, rfl⟩
    · exact ⟨_, rfl⟩

/-- A document means its settings to the letter, and agrees with one that spells out a default. -/
theorem decode?_pathDocument :
    pathDocument.Means pathSettings ∧
      pathDocument.Agrees modeDocument ∧ modeDocument.Agrees pathDocument := by
  have distinct : (Item.table pathDocument).Distinct := by simp [pathDocument]
  have distinct' : (Item.table modeDocument).Distinct := by simp [modeDocument, pathDocument]
  obtain ⟨-, heeds⟩ := decode?_heeds_written pathDocument
  obtain ⟨-, means, agrees, -⟩ := heeds distinct
  have decoded : decode? pathDocument = some pathSettings := by decide +kernel
  have decoded' : decode? modeDocument = some pathSettings := by decide +kernel
  refine ⟨(means _).2 ⟨decoded, pathDocument_plain⟩, ?_⟩
  exact (agrees _ _ _ distinct' decoded decoded').1 rfl

/-- A document whose last item belongs to no setting. -/
def surplusDocument : Document :=
  [("audit", .array [.string "file", .string "x.log", .string "y.log"])]

/-- A text of such a document. -/
def surplusText : String :=
  "audit = [\"file\", \"x.log\", \"y.log\"]"

/-- Not every accepted document is meant to the letter, and an item may be written for no setting:
the text of such a document loads. -/
theorem decode?_surplusDocument :
    (Item.table surplusDocument).Distinct ∧
      decode? surplusDocument = some pathSettings ∧ ¬ surplusDocument.Means pathSettings ∧
      (∃ g, ("audit", g) ∈ surplusDocument ∧ g.Holds (.string "y.log")) ∧
      (∀ k, ¬ surplusDocument.Writes k (.string "y.log")) ∧
      load none none (fun _ => some surplusText.toUTF8) = .ok pathSettings := by
  refine ⟨by simp [surplusDocument], by decide +kernel, ?_, ?_, ?_, ?_⟩
  · intro means
    obtain ⟨_, _, _, table, _⟩ := means.groups _ List.mem_cons_self
    cases table
  · exact ⟨_, List.mem_cons_self, .element (by simp)⟩
  · rintro k ⟨g, hg, hi⟩
    obtain ⟨-, rfl⟩ := Prod.mk.inj (List.mem_singleton.1 hg)
    cases hi with | @placed _ _ n hf hi =>
    have inside : n < k.siblings.length := (List.getElem?_eq_some_iff.1 hf).1
    have two : k.siblings.length ≤ 2 := by cases k <;> decide
    -- The item stands at the third place, and no group has a third field.
    obtain rfl | rfl : n = 0 ∨ n = 1 := by omega
    · simp at hi
    · simp at hi
  · have located : (resolve none none).WithinLimits := by
      refine ⟨?_, ?_, ?_⟩ <;> decide +kernel
    have small : surplusText.toUTF8.size ≤ maxFileSize := by decide +kernel
    have spelt : parse? surplusText = some pathSettings := by decide +kernel
    have valid : pathSettings.validate = .ok () := by
      refine validate_eq_ok_iff.2 ⟨fun _ => rfl, ⟨fun _ => rfl, fun _ => ⟨_, rfl⟩⟩, ?_⟩
      intro written hw
      cases hw
      refine ⟨?_, ?_, ?_⟩ <;> decide +kernel
    have opened := ofBytes_eq_ok_iff.2 ⟨small, surplusText, rfl, spelt, valid⟩
    exact loadBy_eq_ok_iff.2 ⟨Path.checkAs_eq_ok_iff.2 located, _, rfl, opened⟩

end Settings

end MessageDispatch
