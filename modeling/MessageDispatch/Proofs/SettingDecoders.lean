import MessageDispatch.Proofs.DistinctNames
import MessageDispatch.Settings.Decode

/-!
# Decoded settings

What decoding does is said without the decoders. A document writes an item for a setting in the
group that the setting belongs to: under its name, or at its place (`Document.Writes`). An item
spells a text (`Setting.Spells`), and a setting takes the text that is spelt for it, or else its
default (`Setting.Takes`). Each decoder of a setting reads what spells it (`Settings.Reads`), each
decoder of a group its settings (`Settings.ReadsGroup`), and so a document is decoded exactly if its
groups are declared and each setting takes a value (`Settings.decode?_eq_some_iff`). Tables are
those of documents that were read, where names are distinct.
-/

namespace MessageDispatch

open Toml

/-- One of the five settings. -/
inductive Setting where
  | style
  | names
  | mode
  | sink
  | path
  deriving DecidableEq, Repr

/-- The groups of settings, each with its fields in order. -/
def Settings.groups : List (String × List String) :=
  [("arguments", ["style", "names"]), ("result", ["mode"]), ("audit", ["sink", "path"])]

/-- How the value of a setting is spelt, if it has one. -/
def Settings.value (s : Settings) : Setting → Option String
  | .style => spelling? styles s.arguments.style
  | .names => s.arguments.names.bind (spelling? nameStyles)
  | .mode => spelling? modes s.result.mode
  | .sink => spelling? sinks s.audit.sink
  | .path => s.audit.path

namespace Setting

/-- The name of the group of a setting. -/
def group : Setting → String
  | .style | .names => "arguments"
  | .mode => "result"
  | .sink | .path => "audit"

/-- The name of a setting in its group. -/
def field : Setting → String
  | .style => "style"
  | .names => "names"
  | .mode => "mode"
  | .sink => "sink"
  | .path => "path"

/-- The fields of the group of a setting. -/
def siblings : Setting → List String
  | .style | .names => ["style", "names"]
  | .mode => ["mode"]
  | .sink | .path => ["sink", "path"]

/-- The spelling of a setting that is not written, if it has one then. -/
def default : Setting → Option String :=
  Settings.value {}

/-- The texts that a setting may have: any path, and the names of the alternatives of a choice. -/
def Allows : Setting → String → Prop
  | .style, v => ∃ a, (v, a) ∈ Settings.styles
  | .names, v => ∃ a, (v, a) ∈ Settings.nameStyles
  | .mode, v => ∃ a, (v, a) ∈ Settings.modes
  | .sink, v => ∃ a, (v, a) ∈ Settings.sinks
  | .path, _ => True

/-- The items that spell a text for a setting: the text, or for a choice also a table with that one
name and nothing in it. -/
inductive Spells (k : Setting) (v : String) : Item → Prop where
  | text : k.Allows v → Spells k v (.string v)
  | tag {i : Item} : k ≠ .path → k.Allows v → i = .table [] ∨ i = .array [] →
      Spells k v (.table [(v, i)])

/-- The value that a setting takes from what is written for it: the one that is spelt there, or the
default when nothing is written. -/
inductive Takes (k : Setting) (written : Item → Prop) : Option String → Prop where
  | spelt {i : Item} {v : String} : written i → k.Spells v i → Takes k written (some v)
  | unwritten : (∀ i, ¬ written i) → Takes k written k.default

variable {k : Setting} {written : Item → Prop} {v : Option String}

/-- A setting that is not written takes its default. -/
theorem takes_iff_of_unwritten (unwritten : ∀ i, ¬ written i) :
    k.Takes written v ↔ v = k.default := by
  constructor
  · intro takes
    cases takes with
    | spelt hi => exact absurd hi (unwritten _)
    | unwritten => rfl
  · rintro rfl
    exact .unwritten unwritten

end Setting

namespace Toml

/-- An item that a group of settings can be: a table of declared fields, or any array. -/
inductive Item.IsGroup (fields : List String) : Item → Prop where
  | table {entries : List (String × Item)} :
      (∀ e ∈ entries, e.1 ∈ fields) → IsGroup fields (.table entries)
  | array (items : List Item) : IsGroup fields (.array items)

/-- What a group writes for a field: the item with its name, or the item at its place. -/
inductive Item.Writes (fields : List String) (field : String) : Item → Item → Prop where
  | named {entries : List (String × Item)} {i : Item} :
      (field, i) ∈ entries → Writes fields field (.table entries) i
  | placed {items : List Item} {i : Item} {n : Nat} :
      fields[n]? = some field → items[n]? = some i → Writes fields field (.array items) i

/-- What a document writes for a setting. -/
def Document.Writes (d : Document) (k : Setting) (i : Item) : Prop :=
  ∃ g, (k.group, g) ∈ d ∧ g.Writes k.siblings k.field i

/-- A document of groups of declared fields. -/
def Document.Declared (d : Document) : Prop :=
  ∀ e ∈ d, ∃ fields, (e.1, fields) ∈ Settings.groups ∧ e.2.IsGroup fields

namespace Item

variable {fields : List String} {g : Item}

theorem isGroup_iff_exists_fields? :
    g.IsGroup fields ↔ ∃ written, Settings.fields? fields g = some written := by
  constructor
  · intro h
    cases h with
    | array items => exact ⟨_, rfl⟩
    | table declared => exact ⟨_, if_pos (by simpa using declared)⟩
  · rintro ⟨written, h⟩
    unfold Settings.fields? at h
    split at h
    · split at h
      · next declared => exact .table (by simpa using declared)
      · cases h
    · exact .array _
    · cases h

/-- What is found for a field is what the group writes for it. -/
theorem fields?_iff_writes (hf : fields.Nodup) (hg : g.Distinct)
    {written : String → Option Item} (h : Settings.fields? fields g = some written)
    (field : String) (i : Item) : written field = some i ↔ g.Writes fields field i := by
  cases hg with
  | string | scalar => cases h
  | @array items =>
    cases h
    have names : ((fields.zip items).map (·.1)).Nodup := by
      rw [List.zip_eq_zip_take_min, List.map_fst_zip (by simp)]
      exact (List.take_sublist _ fields).nodup hf
    rw [lookup_eq_some_iff_mem names, List.mem_iff_getElem?]
    constructor
    · rintro ⟨n, hn⟩
      rw [List.getElem?_zip_eq_some] at hn
      exact .placed hn.1 hn.2
    · rintro (_ | ⟨hfield, hi⟩)
      exact ⟨_, List.getElem?_zip_eq_some.2 ⟨hfield, hi⟩⟩
  | table names inside =>
    rw [Settings.fields?] at h
    split at h
    · cases h
      rw [lookup_eq_some_iff_mem names]
      constructor
      · exact .named
      · rintro ⟨h⟩
        exact h
    · cases h

/-- What holds of the items that are found in a group is said of what the group writes. -/
theorem exists_fields?_iff (hf : fields.Nodup) (hg : g.Distinct)
    {P : (String → Option Item) → Prop} {Q : Prop}
    (same : ∀ written : String → Option Item,
      (∀ field i, written field = some i ↔ g.Writes fields field i) → (P written ↔ Q)) :
    (∃ written, Settings.fields? fields g = some written ∧ P written) ↔ g.IsGroup fields ∧ Q := by
  rw [isGroup_iff_exists_fields?]
  constructor
  · rintro ⟨written, h, hP⟩
    exact ⟨⟨written, h⟩, (same written (fields?_iff_writes hf hg h)).1 hP⟩
  · rintro ⟨⟨written, h⟩, hQ⟩
    exact ⟨written, h, (same written (fields?_iff_writes hf hg h)).2 hQ⟩

end Item

end Toml

namespace Settings

section Choices

variable {α : Type} [DecidableEq α] {alternatives : List (String × α)} {a : α} {v : String}

/-- With distinct alternatives, the spelling of a choice is the name that is listed with it. -/
theorem spelling?_eq_some_iff (distinct : (alternatives.map (·.2)).Nodup) :
    spelling? alternatives a = some v ↔ (v, a) ∈ alternatives := by
  have found : spelling? alternatives a = (alternatives.map fun e => (e.2, e.1)).lookup a := by
    clear distinct
    induction alternatives with
    | nil => rfl
    | cons e rest ih =>
      rw [List.map_cons, List.lookup_cons, ← ih, spelling?, List.find?_cons]
      by_cases h : e.2 = a
      · simp [h]
      · rw [beq_false_of_ne h, beq_false_of_ne (Ne.symm h)]
        rfl
  have values : ((alternatives.map fun e => (e.2, e.1)).map (·.1)).Nodup := by
    rw [List.map_map]
    exact distinct
  rw [found, lookup_eq_some_iff_mem values, List.mem_map]
  constructor
  · rintro ⟨e, he, same⟩
    cases same
    exact he
  · intro h
    exact ⟨(v, a), h, rfl⟩

theorem choice?_eq_some_iff {k : Setting} {i : Item} (choice : k ≠ .path)
    (allows : ∀ v, k.Allows v ↔ ∃ a, (v, a) ∈ alternatives)
    (names : (alternatives.map (·.1)).Nodup) (values : (alternatives.map (·.2)).Nodup) :
    choice? alternatives i = some a ↔ ∃ v, k.Spells v i ∧ spelling? alternatives a = some v := by
  have found (v : String) : alternatives.lookup v = some a ↔ spelling? alternatives a = some v := by
    rw [lookup_eq_some_iff_mem names, spelling?_eq_some_iff values]
  have allowed {v : String} (h : alternatives.lookup v = some a) : k.Allows v :=
    (allows v).2 ⟨a, (lookup_eq_some_iff_mem names).1 h⟩
  simp only [← found]
  constructor
  · intro h
    unfold choice? at h
    split at h
    · exact ⟨_, .text (allowed h), h⟩
    · exact ⟨_, .tag choice (allowed h) (.inl rfl), h⟩
    · exact ⟨_, .tag choice (allowed h) (.inr rfl), h⟩
    · cases h
  · rintro ⟨v, spells, h⟩
    cases spells with
    | text => exact h
    | tag _ _ empty => obtain rfl | rfl := empty <;> exact h

end Choices

/-- A decoder that reads what spells a setting; `value` says how what it gives is spelt. -/
structure Reads {α : Type} (k : Setting) (decode : Item → Option α) (default : α)
    (value : α → Option String) : Prop where
  decode_iff : ∀ i a, decode i = some a ↔ ∃ v, k.Spells v i ∧ value a = some v
  default_iff : ∀ a, value a = k.default ↔ a = default

theorem reads_style : Reads .style (choice? styles) .named (spelling? styles) where
  decode_iff i a := choice?_eq_some_iff (by decide) (fun v => Iff.rfl) (by decide) (by decide)
  default_iff a := by cases a <;> decide

theorem reads_names : Reads .names (fun i => (choice? nameStyles i).map some) none
    fun a => a.bind (spelling? nameStyles) where
  decode_iff i a := by
    have named (b : NameStyle) : choice? nameStyles i = some b ↔
        ∃ v, Setting.names.Spells v i ∧ spelling? nameStyles b = some v :=
      choice?_eq_some_iff (by decide) (fun v => Iff.rfl) (by decide) (by decide)
    cases a with
    | none => simp
    | some b => simpa using named b
  default_iff a := by
    cases a with
    | none => decide
    | some b => cases b <;> decide

theorem reads_mode : Reads .mode (choice? modes) .noOperation (spelling? modes) where
  decode_iff i a := choice?_eq_some_iff (by decide) (fun v => Iff.rfl) (by decide) (by decide)
  default_iff a := by cases a <;> decide

theorem reads_sink : Reads .sink (choice? sinks) .none (spelling? sinks) where
  decode_iff i a := choice?_eq_some_iff (by decide) (fun v => Iff.rfl) (by decide) (by decide)
  default_iff a := by cases a <;> decide

theorem reads_path : Reads .path (fun i => (text? i).map some) none id where
  decode_iff i a := by
    constructor
    · intro h
      obtain ⟨v, hv, rfl⟩ := Option.map_eq_some_iff.1 h
      unfold text? at hv
      split at hv
      · cases hv
        exact ⟨_, .text trivial, rfl⟩
      · cases hv
    · rintro ⟨v, spells, rfl⟩
      cases spells with
      | text => rfl
      | tag choice => exact absurd rfl choice
  default_iff a := Iff.rfl

/-- A setting that is decoded takes its value from what is written for it. -/
theorem Reads.setting?_eq_some_iff {α : Type} {k : Setting} {decode : Item → Option α}
    {default a : α} {value : α → Option String} (reads : Reads k decode default value)
    {found : Option Item} {written : Item → Prop} (same : ∀ i, found = some i ↔ written i) :
    setting? decode default found = some a ↔ k.Takes written (value a) := by
  cases found with
  | none =>
    have unwritten : ∀ i, ¬ written i := fun i hi => nomatch (same i).2 hi
    rw [setting?, Option.some.injEq, eq_comm, ← reads.default_iff,
      Setting.takes_iff_of_unwritten unwritten]
  | some i =>
    have hi : written i := (same i).1 rfl
    rw [setting?, reads.decode_iff]
    constructor
    · rintro ⟨v, spells, hv⟩
      rw [hv]
      exact .spelt hi spells
    · intro takes
      generalize value a = v at takes
      cases takes with
      | spelt hj spells =>
        cases (same _).2 hj
        exact ⟨_, spells, rfl⟩
      | unwritten unwritten => exact absurd hi (unwritten i)

section Groups

variable {P : Setting → Prop}

theorem forall_arguments_iff :
    (∀ k : Setting, k.group = "arguments" → P k) ↔ P .style ∧ P .names := by
  constructor
  · intro h
    exact ⟨h .style rfl, h .names rfl⟩
  · rintro ⟨style, names⟩ k hk
    cases k with
    | style => exact style
    | names => exact names
    | mode | sink | path => simp [Setting.group] at hk

theorem forall_result_iff : (∀ k : Setting, k.group = "result" → P k) ↔ P .mode := by
  constructor
  · intro h
    exact h .mode rfl
  · intro mode k hk
    cases k with
    | mode => exact mode
    | style | names | sink | path => simp [Setting.group] at hk

theorem forall_audit_iff : (∀ k : Setting, k.group = "audit" → P k) ↔ P .sink ∧ P .path := by
  constructor
  · intro h
    exact ⟨h .sink rfl, h .path rfl⟩
  · rintro ⟨sink, path⟩ k hk
    cases k with
    | sink => exact sink
    | path => exact path
    | style | names | mode => simp [Setting.group] at hk

end Groups

/-- A decoder that reads a group of settings; `value` says how what it gives is spelt. -/
structure ReadsGroup {α : Type} (name : String) (fields : List String) (decode : Item → Option α)
    (default : α) (value : α → Setting → Option String) : Prop where
  decode_iff : ∀ g a, g.Distinct → (decode g = some a ↔ g.IsGroup fields ∧
    ∀ k : Setting, k.group = name → k.Takes (g.Writes k.siblings k.field) (value a k))
  default_iff : ∀ a, (∀ k : Setting, k.group = name → value a k = k.default) ↔ a = default

theorem arguments?_eq_some_iff {g : Item} {a : ArgumentSettings} :
    arguments? g = some a ↔ ∃ written, fields? ["style", "names"] g = some written ∧
      setting? (choice? styles) .named (written "style") = some a.style ∧
      setting? (fun i => (choice? nameStyles i).map some) none (written "names") =
        some a.names := by
  rw [arguments?]
  cases fields? ["style", "names"] g with
  | none => simp
  | some written =>
    dsimp only
    constructor
    · intro h
      split at h
      · next hs hn =>
        cases h
        exact ⟨written, rfl, hs, hn⟩
      · cases h
    · rintro ⟨_, ⟨⟩, hs, hn⟩
      simp only [hs, hn]

theorem result?_eq_some_iff {g : Item} {a : ResultSettings} :
    result? g = some a ↔ ∃ written, fields? ["mode"] g = some written ∧
      setting? (choice? modes) .noOperation (written "mode") = some a.mode := by
  rw [result?]
  cases fields? ["mode"] g with
  | none => simp
  | some written =>
    dsimp only
    constructor
    · intro h
      obtain ⟨mode, hm, rfl⟩ := Option.map_eq_some_iff.1 h
      exact ⟨written, rfl, hm⟩
    · rintro ⟨_, ⟨⟩, hm⟩
      rw [hm]
      rfl

theorem audit?_eq_some_iff {g : Item} {a : AuditSettings} :
    audit? g = some a ↔ ∃ written, fields? ["sink", "path"] g = some written ∧
      setting? (choice? sinks) .none (written "sink") = some a.sink ∧
      setting? (fun i => (text? i).map some) none (written "path") = some a.path := by
  rw [audit?]
  cases fields? ["sink", "path"] g with
  | none => simp
  | some written =>
    dsimp only
    constructor
    · intro h
      split at h
      · next hs hp =>
        cases h
        exact ⟨written, rfl, hs, hp⟩
      · cases h
    · rintro ⟨_, ⟨⟩, hs, hp⟩
      simp only [hs, hp]

theorem readsGroup_arguments : ReadsGroup "arguments" ["style", "names"] arguments? {}
    fun a => Settings.value { arguments := a } where
  decode_iff g a hg := by
    rw [arguments?_eq_some_iff, forall_arguments_iff]
    apply Item.exists_fields?_iff (by decide) hg
    intro written found
    have style := reads_style.setting?_eq_some_iff (a := a.style) (found "style")
    have names := reads_names.setting?_eq_some_iff (a := a.names) (found "names")
    exact and_congr style names
  default_iff a := by
    rw [forall_arguments_iff]
    obtain ⟨style, names⟩ := a
    have hs := reads_style.default_iff style
    have hn := reads_names.default_iff names
    rw [ArgumentSettings.mk.injEq, ← hs, ← hn]
    rfl

theorem readsGroup_result : ReadsGroup "result" ["mode"] result? {}
    fun a => Settings.value { result := a } where
  decode_iff g a hg := by
    rw [result?_eq_some_iff, forall_result_iff]
    apply Item.exists_fields?_iff (by decide) hg
    intro written found
    exact reads_mode.setting?_eq_some_iff (a := a.mode) (found "mode")
  default_iff a := by
    rw [forall_result_iff]
    obtain ⟨mode⟩ := a
    have hm := reads_mode.default_iff mode
    rw [ResultSettings.mk.injEq, ← hm]
    rfl

theorem readsGroup_audit : ReadsGroup "audit" ["sink", "path"] audit? {}
    fun a => Settings.value { audit := a } where
  decode_iff g a hg := by
    rw [audit?_eq_some_iff, forall_audit_iff]
    apply Item.exists_fields?_iff (by decide) hg
    intro written found
    have sink := reads_sink.setting?_eq_some_iff (a := a.sink) (found "sink")
    have path := reads_path.setting?_eq_some_iff (a := a.path) (found "path")
    exact and_congr sink path
  default_iff a := by
    rw [forall_audit_iff]
    obtain ⟨sink, path⟩ := a
    have hs := reads_sink.default_iff sink
    have hp := reads_path.default_iff path
    rw [AuditSettings.mk.injEq, ← hs, ← hp]
    rfl

/-- A group that is decoded takes its settings from what the document writes for them. -/
theorem ReadsGroup.setting?_eq_some_iff {α : Type} {name : String} {fields : List String}
    {decode : Item → Option α} {default a : α} {value : α → Setting → Option String}
    (reads : ReadsGroup name fields decode default value) {d : Document}
    (hd : (Item.table d).Distinct) :
    setting? decode default (d.lookup name) = some a ↔
      (∀ g, (name, g) ∈ d → g.IsGroup fields) ∧
        ∀ k : Setting, k.group = name → k.Takes (d.Writes k) (value a k) := by
  cases hd with | table names inside =>
  have found (g : Item) : d.lookup name = some g ↔ (name, g) ∈ d := lookup_eq_some_iff_mem names
  cases h : d.lookup name with
  | none =>
    have absent : ∀ g, (name, g) ∉ d := by
      intro g hg
      rw [← found, h] at hg
      cases hg
    have unwritten (k : Setting) (hk : k.group = name) : ∀ i, ¬ d.Writes k i := by
      rintro i ⟨g, hg, -⟩
      exact absent g (hk ▸ hg)
    rw [setting?, Option.some.injEq, eq_comm, ← reads.default_iff]
    have takes (k : Setting) (hk : k.group = name) :
        k.Takes (d.Writes k) (value a k) ↔ value a k = k.default :=
      Setting.takes_iff_of_unwritten (unwritten k hk)
    rw [forall₂_congr takes]
    constructor
    · intro h
      exact ⟨fun g hg => absurd hg (absent g), h⟩
    · rintro ⟨-, h⟩
      exact h
  | some g =>
    have hg : (name, g) ∈ d := (found g).1 h
    have only : ∀ g', (name, g') ∈ d → g' = g := by
      intro g' hg'
      rw [← found, h] at hg'
      cases hg'
      rfl
    have writes (k : Setting) (hk : k.group = name) :
        d.Writes k = g.Writes k.siblings k.field := by
      funext i
      apply propext
      constructor
      · rintro ⟨g', hg', hi⟩
        rw [← only g' (hk ▸ hg')]
        exact hi
      · intro hi
        exact ⟨g, hk ▸ hg, hi⟩
    rw [setting?, reads.decode_iff g a (inside _ hg)]
    apply and_congr
    · constructor
      · intro group g' hg'
        rw [only g' hg']
        exact group
      · intro groups
        exact groups g hg
    · apply forall₂_congr
      intro k hk
      rw [writes k hk]

/-- A group of a declared document has the fields that are listed for it. -/
theorem isGroup_of_declared {d : Document} (declared : d.Declared) {name : String}
    {fields : List String} (listed : (name, fields) ∈ groups) {g : Item} (hg : (name, g) ∈ d) :
    g.IsGroup fields := by
  obtain ⟨fields', listed', group⟩ := declared _ hg
  have distinct : (groups.map (·.1)).Nodup := by decide
  rw [eq_of_mem_of_mem distinct listed listed']
  exact group

theorem declared_iff {d : Document} :
    d.Declared ↔ (∀ e ∈ d, e.1 ∈ ["arguments", "result", "audit"]) ∧
      (∀ g, ("arguments", g) ∈ d → g.IsGroup ["style", "names"]) ∧
      (∀ g, ("result", g) ∈ d → g.IsGroup ["mode"]) ∧
      ∀ g, ("audit", g) ∈ d → g.IsGroup ["sink", "path"] := by
  constructor
  · intro declared
    have known : ∀ e ∈ d, e.1 ∈ ["arguments", "result", "audit"] := by
      intro e he
      obtain ⟨fields, listed, -⟩ := declared e he
      exact List.mem_map_of_mem (f := (·.1)) listed
    exact ⟨known, fun g => isGroup_of_declared declared (by simp [groups]),
      fun g => isGroup_of_declared declared (by simp [groups]),
      fun g => isGroup_of_declared declared (by simp [groups])⟩
  · rintro ⟨known, arguments, result, audit⟩ ⟨name, g⟩ hg
    have hname := known _ hg
    simp only [List.mem_cons, List.not_mem_nil, or_false] at hname
    obtain rfl | rfl | rfl := hname
    · exact ⟨_, by simp [groups], arguments g hg⟩
    · exact ⟨_, by simp [groups], result g hg⟩
    · exact ⟨_, by simp [groups], audit g hg⟩

/-- Decoding goes well when all groups are known and each of them can be decoded. -/
theorem decode?_eq_some_iff_groups {d : Document} {s : Settings} :
    decode? d = some s ↔ (∀ e ∈ d, e.1 ∈ ["arguments", "result", "audit"]) ∧
      setting? arguments? {} (d.lookup "arguments") = some s.arguments ∧
      setting? result? {} (d.lookup "result") = some s.result ∧
      setting? audit? {} (d.lookup "audit") = some s.audit := by
  have known : (d.all fun e => ["arguments", "result", "audit"].contains e.1) = true ↔
      ∀ e ∈ d, e.1 ∈ ["arguments", "result", "audit"] := by
    simp only [List.all_eq_true, List.contains_iff_mem]
  rw [← known, decode?, fields?]
  cases d.all fun e => ["arguments", "result", "audit"].contains e.1 with
  | false => simp
  | true =>
    rw [if_pos rfl, eq_self_iff_true, true_and]
    dsimp only
    constructor
    · intro h
      split at h
      · next ha hr hu =>
        cases h
        exact ⟨ha, hr, hu⟩
      · cases h
    · rintro ⟨ha, hr, hu⟩
      simp only [ha, hr, hu]

/-- The decoding of a document: its groups are declared, and each setting takes its value from what
the document writes for it. -/
theorem decode?_eq_some_iff {d : Document} (hd : (Item.table d).Distinct) {s : Settings} :
    decode? d = some s ↔ d.Declared ∧ ∀ k : Setting, k.Takes (d.Writes k) (s.value k) := by
  have arguments := readsGroup_arguments.setting?_eq_some_iff (a := s.arguments) hd
  have result := readsGroup_result.setting?_eq_some_iff (a := s.result) hd
  have audit := readsGroup_audit.setting?_eq_some_iff (a := s.audit) hd
  rw [decode?_eq_some_iff_groups, declared_iff, arguments, result, audit, forall_arguments_iff,
    forall_result_iff, forall_audit_iff]
  constructor
  · rintro ⟨known, ⟨arguments, style, names⟩, ⟨result, mode⟩, audit, sink, path⟩
    refine ⟨⟨known, arguments, result, audit⟩, ?_⟩
    intro k
    cases k with
    | style => exact style
    | names => exact names
    | mode => exact mode
    | sink => exact sink
    | path => exact path
  · rintro ⟨⟨known, arguments, result, audit⟩, takes⟩
    exact ⟨known, ⟨arguments, takes .style, takes .names⟩, ⟨result, takes .mode⟩, audit,
      takes .sink, takes .path⟩

end Settings

end MessageDispatch
