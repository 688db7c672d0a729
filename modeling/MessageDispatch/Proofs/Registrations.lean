import Mathlib.Data.Finset.Card
import MessageDispatch.Proofs.Extension
import MessageDispatch.Proofs.LatestEntry

/-!
# Registries by their registrations

A draft is edited: conversions or renderings are registered in it, and at any time it is built and
drafted anew. What the registry answers for a type in the end depends on the latest registration of
the type alone.

`Adapter.Draft.converter?` and `Transformer.Draft.renderer?` show what is filed under a type as a
function on values of any type. What one registration does to this view is an equation
(`converter?_register`, `renderer?_register`), and a run of edits goes by `view_foldl`. So the
function filed under a type takes just the values of that type, or yields them, because the one
registered last for it does (`Registration.converter_eq_none_iff`, `Registration.ty_renderer`). Main
statements: `Adapter.History.adapt_latest`, `Transformer.transform_latest`.
-/

namespace MessageDispatch

/-- One step in the making of a registry: something is registered, or the registry is built and
drafted anew. -/
inductive Edit (R : Type) where
  | register (registration : R)
  | rebuild

/-- What a run of edits registers. -/
def Edit.registrations {R : Type} (edits : List (Edit R)) : List R :=
  edits.filterMap fun
    | .register r => some r
    | .rebuild => none

theorem Edit.registrations_append {R : Type} (before after : List (Edit R)) :
    registrations (before ++ after) = registrations before ++ registrations after :=
  List.filterMap_append

/-- When building and drafting anew changes nothing, a run of edits is a run of registrations. -/
theorem Edit.foldl_eq {D R : Type} {edit : D → Edit R → D} {register : D → R → D}
    (registers : ∀ d r, edit d (.register r) = register d r) (rebuilds : ∀ d, edit d .rebuild = d)
    (d : D) (edits : List (Edit R)) :
    edits.foldl edit d = (registrations edits).foldl register d := by
  induction edits generalizing d with
  | nil => rfl
  | cons e edits ih =>
    cases e with
    | register r =>
      rw [List.foldl_cons, registers]
      exact ih _
    | rebuild =>
      rw [List.foldl_cons, rebuilds]
      exact ih _

namespace Registry

variable {F : Ty → Type}

/-- One insertion, for entries seen through a function that forgets their types. -/
theorem map_find?_insert {C : Type} (forget : (t : Ty) → F t → C) (r : Registry F) (t u : Ty)
    (f : F t) :
    ((r.insert t f).find? u).map (forget u) =
      if u = t then some (forget t f) else (r.find? u).map (forget u) := by
  by_cases h : u = t
  · subst h
    rw [find?_insert_self, Option.map_some, if_pos rfl]
  · rw [find?_insert_of_ne r f h, if_neg h]

/-- The registry has as many entries as there are types among those registered. -/
theorem size_insertAll_empty (entries : List ((t : Ty) × F t)) :
    ((empty : Registry F).insertAll entries).size = (entries.map (·.1)).toFinset.card := by
  have same : (((empty : Registry F).insertAll entries).entries.map (·.1)).toFinset =
      (entries.map (·.1)).toFinset := by
    ext t
    rw [List.mem_toFinset, List.mem_toFinset, ← contains_iff, contains_insertAll]
    simp [contains]
  rw [← same, List.toFinset_card_of_nodup (distinct _), List.length_map]
  rfl

end Registry

/-- A conversion as a function of any value. -/
def Conversion.onValues (t : Ty) (convert : Conversion t) (id : Identity) (v : Value) :
    Option Argument :=
  (v.as? t).map (convert id)

namespace Adapter

/-- What is filed under a type, as a function of any value. -/
def Draft.converter? (d : Draft) (t : Ty) : Option (Identity → Value → Option Argument) :=
  (d.conversions.find? t).map (Conversion.onValues t)

/-- What a registration files under its type, as a function of any value. -/
def Registration.converter (r : Registration) : Identity → Value → Option Argument :=
  Conversion.onValues r.type r.conversion

/-- The argument that a registration makes of a value of its type. -/
inductive Registration.Converts (id : Identity) : Registration → Value → Argument → Prop where
  | argument {t : Ty} {convert : Identity → t.Carrier → Argument} (c : t.Carrier) :
    Converts id (.argument t convert) (.of t c) (convert id c)
  | component {t : Ty} {convert : Identity → t.Carrier → Text} (c : t.Carrier) :
    Converts id (.component t convert) (.of t c) (.component (convert id c))
  | string {t : Ty} {convert : t.Carrier → String} (c : t.Carrier) :
    Converts id (.string t convert) (.of t c) (.component (.literal (convert c)))

section Converter

variable {r : Registration} {id : Identity} {v : Value} {a : Argument}

theorem Registration.converter_eq_none_iff : r.converter id v = none ↔ v.ty ≠ r.type := by
  rw [converter, Conversion.onValues, Option.map_eq_none_iff, Value.as?_eq_none_iff]

theorem Registration.converts_of_converter (h : r.converter id v = some a) :
    r.Converts id v a := by
  obtain ⟨c, hc, rfl⟩ := Option.map_eq_some_iff.1 h
  obtain rfl := Value.as?_eq_some_iff.1 hc
  cases r with
  | argument => exact .argument c
  | component => exact .component c
  | string => exact .string c

end Converter

/-- A registration is filed under its type and leaves other types alone. -/
theorem Draft.converter?_register (d : Draft) (r : Registration) (t : Ty) :
    (d.register r).converter? t = if t = r.type then some r.converter else d.converter? t := by
  rw [converter?, conversions_register]
  exact Registry.map_find?_insert Conversion.onValues _ _ _ _

/-- What was registered last for a type is filed under it. -/
theorem Draft.converter?_foldl_register (rs : List Registration) (t : Ty) :
    (rs.foldl register .empty).converter? t =
      (latest? Registration.type t rs).map Registration.converter := by
  have run := view_foldl (·.converter? t) (fun d r => converter?_register d r t) .empty rs
  exact run.trans Option.or_none

theorem supports_build (d : Draft) (t : Ty) : d.build.supports t = (d.converter? t).isSome := by
  rw [Draft.converter?, Option.isSome_map]
  rfl

theorem adapt_build_of_none {d : Draft} {t : Ty} (h : d.converter? t = none) (id : Identity)
    (v : Value) : d.build.adapt id t v = .error (.missingAdapter t) := by
  have missing : d.build.conversions.find? t = none := Option.map_eq_none_iff.1 h
  rw [adapt, missing]

theorem adapt_build_of_some {d : Draft} {t : Ty} {convert : Identity → Value → Option Argument}
    (h : d.converter? t = some convert) (id : Identity) (v : Value) :
    d.build.adapt id t v = (convert id v).elim (.error (.valueMismatch t)) .ok := by
  obtain ⟨typed, found, rfl⟩ := Option.map_eq_some_iff.1 h
  have filed : d.build.conversions.find? t = some typed := found
  rw [adapt, filed, Conversion.onValues]
  cases v.as? t <;> rfl

/-- One edit of a draft. -/
def Draft.edit (d : Draft) : Edit Registration → Draft
  | .register r => d.register r
  | .rebuild => d.build.toDraft

/-- The conversions that need no registration, as registrations. -/
def standardRegistrations : List Registration :=
  [.argument .argument fun _ a => a,
    .component .text fun _ t => t,
    .component .translatable fun _ n => .translatable n,
    .argument .number fun _ n => .numeric n,
    .argument .bool fun _ b => .boolean b,
    .string .string fun s => s,
    .string .stringLiteral fun s => s,
    .string .char fun c => String.singleton c] ++
  (integerTypes.map fun t => .argument (.integer t) fun _ n => .numeric (Number.ofInteger n)) ++
  [.argument .binary32 fun _ x => .numeric (Number.ofBinary32 x),
    .argument .binary64 fun _ x => .numeric (.float x)]

theorem standardDraft_eq : standardDraft = standardRegistrations.foldl Draft.register .empty := by
  rw [standardRegistrations, List.foldl_append, List.foldl_append, List.foldl_map]
  rfl

/-- What the first draft holds. -/
inductive Origin where
  | empty
  | standard

/-- The first draft. -/
def Origin.draft : Origin → Draft
  | .empty => .empty
  | .standard => standardDraft

/-- What was registered in the first draft. -/
def Origin.registrations : Origin → List Registration
  | .empty => []
  | .standard => standardRegistrations

/-- How an adapter was made: the first draft, and what was done to it before the last build. -/
structure History where
  origin : Origin
  edits : List (Edit Registration)

namespace History

/-- The draft that is built in the end. -/
def draft (h : History) : Draft :=
  h.edits.foldl Draft.edit h.origin.draft

/-- The adapter that was made. -/
def adapter (h : History) : Adapter :=
  h.draft.build

/-- All that was registered, from first to last. -/
def registrations (h : History) : List Registration :=
  h.origin.registrations ++ Edit.registrations h.edits

theorem draft_eq (h : History) : h.draft = h.registrations.foldl Draft.register .empty := by
  have origin : h.origin.draft = h.origin.registrations.foldl Draft.register .empty := by
    cases h.origin with
    | empty => rfl
    | standard => exact standardDraft_eq
  rw [draft, registrations, List.foldl_append, ← origin]
  exact Edit.foldl_eq (fun _ _ => rfl) (fun _ => rfl) _ _

theorem converter?_draft (h : History) (t : Ty) :
    h.draft.converter? t =
      (latest? Registration.type t h.registrations).map Registration.converter := by
  rw [draft_eq, Draft.converter?_foldl_register]

section Answers

variable {g h : History} {t : Ty}

/-- Values are not converted for a type without registration. -/
theorem adapter_of_none (hl : latest? Registration.type t h.registrations = none) :
    h.adapter.supports t = false ∧ ∀ id v, h.adapter.adapt id t v = .error (.missingAdapter t) := by
  have view := h.converter?_draft t
  rw [hl, Option.map_none] at view
  refine ⟨?_, adapt_build_of_none view⟩
  rw [adapter, supports_build, view, Option.isSome_none]

/-- Values are converted by the latest registration, which refuses those of other types. -/
theorem adapter_of_some {r : Registration}
    (hl : latest? Registration.type t h.registrations = some r) :
    h.adapter.supports t = true ∧
      ∀ id v, h.adapter.adapt id t v = (r.converter id v).elim (.error (.valueMismatch t)) .ok := by
  have view := h.converter?_draft t
  rw [hl, Option.map_some] at view
  refine ⟨?_, adapt_build_of_some view⟩
  rw [adapter, supports_build, view, Option.isSome_some]

/-- Histories in which a type has the same latest registration make adapters that treat it alike. -/
theorem adapter_congr
    (same : latest? Registration.type t g.registrations =
      latest? Registration.type t h.registrations) :
    g.adapter.supports t = h.adapter.supports t ∧
      ∀ id v, g.adapter.adapt id t v = h.adapter.adapt id t v := by
  cases hl : latest? Registration.type t h.registrations with
  | none =>
    obtain ⟨supportsG, answersG⟩ := adapter_of_none (same.trans hl)
    obtain ⟨supportsH, answersH⟩ := adapter_of_none hl
    exact ⟨supportsG.trans supportsH.symm, fun id v => (answersG id v).trans (answersH id v).symm⟩
  | some r =>
    obtain ⟨supportsG, answersG⟩ := adapter_of_some (same.trans hl)
    obtain ⟨supportsH, answersH⟩ := adapter_of_some hl
    exact ⟨supportsG.trans supportsH.symm, fun id v => (answersG id v).trans (answersH id v).symm⟩

end Answers

theorem size_adapter (h : History) :
    h.adapter.size = (h.registrations.map (·.type)).toFinset.card := by
  have conversions : h.adapter.conversions =
      Registry.empty.insertAll (h.registrations.map fun r => ⟨r.type, r.conversion⟩) := by
    rw [adapter, draft_eq]
    exact conversions_foldl_register .empty h.registrations
  rw [size, conversions, Registry.size_insertAll_empty, List.map_map]
  rfl

/-- **The latest registration of a type decides.** A type that was never registered has no
conversion. For any other type, a value of another type is refused, and a value of the type becomes
what the latest registration makes of it. The size of the adapter is the number of types registered,
and registrations of other types, wherever they come in, do not matter. -/
theorem adapt_latest (h : History) (id : Identity) (t : Ty) (v : Value) :
    ((∀ r ∈ h.registrations, r.type ≠ t) →
      h.adapter.supports t = false ∧ h.adapter.adapt id t v = .error (.missingAdapter t)) ∧
    ((∃ r ∈ h.registrations, r.type = t) →
      h.adapter.supports t = true ∧
        (v.ty ≠ t → h.adapter.adapt id t v = .error (.valueMismatch t)) ∧
        (v.ty = t → ∃ r a, latest? Registration.type t h.registrations = some r ∧
          r.Converts id v a ∧ h.adapter.adapt id t v = .ok a)) ∧
    h.adapter.size = (h.registrations.map (·.type)).toFinset.card ∧
    ∀ before others after, h.edits = before ++ after →
      (∀ r ∈ Edit.registrations others, r.type ≠ t) →
        (History.mk h.origin (before ++ others ++ after)).adapter.supports t =
            h.adapter.supports t ∧
          (History.mk h.origin (before ++ others ++ after)).adapter.adapt id t v =
            h.adapter.adapt id t v := by
  refine ⟨fun unregistered => ?_, fun registered => ?_, h.size_adapter, ?_⟩
  · obtain ⟨unsupported, answers⟩ := adapter_of_none (latest?_eq_none_iff.2 unregistered)
    exact ⟨unsupported, answers id v⟩
  · obtain ⟨r, hr⟩ := exists_latest? registered
    obtain ⟨supported, answers⟩ := adapter_of_some hr
    obtain rfl : r.type = t := (mem_of_latest? hr).2
    refine ⟨supported, fun other => ?_, fun own => ?_⟩
    · rw [answers, Registration.converter_eq_none_iff.2 other]
      rfl
    · obtain ⟨a, ha⟩ : ∃ a, r.converter id v = some a :=
        Option.ne_none_iff_exists'.1 fun none => Registration.converter_eq_none_iff.1 none own
      refine ⟨r, a, hr, Registration.converts_of_converter ha, ?_⟩
      rw [answers, ha]
      rfl
  · intro before others after edits unrelated
    have same : latest? Registration.type t
        (History.mk h.origin (before ++ others ++ after)).registrations =
          latest? Registration.type t h.registrations := by
      simp only [registrations, edits, Edit.registrations_append, ← List.append_assoc]
      exact latest?_of_others unrelated _ _
    obtain ⟨supports, answers⟩ := adapter_congr same
    exact ⟨supports, answers id v⟩

/-- Players are registered twice, with a build between; truth values get another conversion than
they have by default, and teams none. -/
def players : History where
  origin := .standard
  edits :=
    [.register (.string (.host "Player") fun _ => "somebody"), .rebuild,
      .register (.argument .bool fun _ b => .boolean !b),
      .register (.component (.host "Player") fun _ name => .literal name)]

theorem adapt_players :
    players.adapter.adapt ⟨[0]⟩ (.host "Team") (.host "Team" "Red") =
        .error (.missingAdapter (.host "Team")) ∧
      players.adapter.adapt ⟨[0]⟩ (.host "Player") (.host "Team" "Red") =
        .error (.valueMismatch (.host "Player")) ∧
      (∃ r a, latest? Registration.type (.host "Player") players.registrations = some r ∧
        r.Converts ⟨[0]⟩ (.host "Player" "Ada") a ∧
        players.adapter.adapt ⟨[0]⟩ (.host "Player") (.host "Player" "Ada") = .ok a) ∧
      players.adapter.size = 21 ∧
      -- Without the conversion of truth values, players are converted alike.
      players.adapter.adapt ⟨[0]⟩ (.host "Player") (.host "Player" "Ada") =
        (History.mk .standard (players.edits.eraseIdx 2)).adapter.adapt ⟨[0]⟩ (.host "Player")
          (.host "Player" "Ada") := by
  obtain ⟨unregistered, -, size, -⟩ :=
    adapt_latest players ⟨[0]⟩ (.host "Team") (.host "Team" "Red")
  obtain ⟨-, mistyped, -, -⟩ := adapt_latest players ⟨[0]⟩ (.host "Player") (.host "Team" "Red")
  obtain ⟨-, typed, -, -⟩ := adapt_latest players ⟨[0]⟩ (.host "Player") (.host "Player" "Ada")
  obtain ⟨-, -, -, alike⟩ :=
    adapt_latest ⟨.standard, players.edits.eraseIdx 2⟩ ⟨[0]⟩ (.host "Player") (.host "Player" "Ada")
  have registered : ∃ r ∈ players.registrations, r.type = .host "Player" := by decide
  refine ⟨(unregistered (by decide)).2, (mistyped registered).2.1 (by decide),
    (typed registered).2.2 rfl, ?_, ?_⟩
  · rw [size]
    decide
  · have inserted := alike (players.edits.take 2) [players.edits[2]] (players.edits.drop 3) rfl
    exact (inserted (by decide)).2

/-- The text is that of the second registration. -/
example (id : Identity) :
    players.adapter.adapt id (.host "Player") (.host "Player" "Ada") =
      .ok (.component (.literal "Ada")) :=
  rfl

end History

end Adapter

namespace Transformer

/-- A rendering as a function to values of any type. -/
def valueRendering (t : Ty) (render : Text → t.Carrier) (text : Text) : Value :=
  .of t (render text)

/-- What is filed under a type, as a function to values of any type. -/
def Draft.renderer? (d : Draft) (t : Ty) : Option (Text → Value) :=
  (d.renderings.find? t).map (valueRendering t)

/-- What a registration files under its type, as a function to values of any type. -/
def Registration.renderer (r : Registration) : Text → Value :=
  valueRendering r.1 r.2

/-- What is registered for a type yields values of that type. -/
theorem Registration.ty_renderer (r : Registration) (text : Text) :
    (Registration.renderer r text).ty = r.1 :=
  Value.ty_of _ _

/-- A registration is filed under its type and leaves other types alone. -/
theorem Draft.renderer?_register (d : Draft) (r : Registration) (t : Ty) :
    (d.register r.1 r.2).renderer? t =
      if t = r.1 then some (Registration.renderer r) else d.renderer? t :=
  Registry.map_find?_insert valueRendering _ _ _ _

theorem supports_build (d : Draft) (t : Ty) : d.build.supports t = (d.renderer? t).isSome := by
  rw [Draft.renderer?, Option.isSome_map]
  rfl

theorem transform_build_of_none {d : Draft} {t : Ty} (h : d.renderer? t = none) (text : Text) :
    d.build.transform t text = .error (.missingTransformer t) := by
  have missing : d.build.renderings.find? t = none := Option.map_eq_none_iff.1 h
  rw [transform, missing]

theorem transform_build_of_some {d : Draft} {t : Ty} {render : Text → Value}
    (h : d.renderer? t = some render) (text : Text) :
    d.build.transform t text = .ok (render text) := by
  obtain ⟨typed, found, rfl⟩ := Option.map_eq_some_iff.1 h
  have filed : d.build.renderings.find? t = some typed := found
  rw [transform, filed]
  rfl

/-- One edit of a draft. -/
def Draft.edit (d : Draft) : Edit Registration → Draft
  | .register r => d.register r.1 r.2
  | .rebuild => d.build.toDraft

/-- The transformer that a run of edits makes. -/
def ofEdits (edits : List (Edit Registration)) : Transformer :=
  (edits.foldl Draft.edit .empty).build

section OfEdits

variable {edits : List (Edit Registration)} {t : Ty}

theorem foldl_edit (edits : List (Edit Registration)) :
    edits.foldl Draft.edit .empty =
      (Edit.registrations edits).foldl (fun d r => d.register r.1 r.2) .empty :=
  Edit.foldl_eq (fun _ _ => rfl) (fun _ => rfl) _ _

/-- What was registered last for a type is filed under it. -/
theorem renderer?_foldl_edit (edits : List (Edit Registration)) (t : Ty) :
    (edits.foldl Draft.edit .empty).renderer? t =
      (latest? Sigma.fst t (Edit.registrations edits)).map Registration.renderer := by
  have run := view_foldl (·.renderer? t) (fun d r => Draft.renderer?_register d r t) .empty
    (Edit.registrations edits)
  rw [foldl_edit]
  exact run.trans Option.or_none

theorem size_ofEdits (edits : List (Edit Registration)) :
    (ofEdits edits).size = ((Edit.registrations edits).map (·.1)).toFinset.card := by
  have renderings : (ofEdits edits).renderings =
      Registry.empty.insertAll (Edit.registrations edits) := by
    rw [ofEdits, foldl_edit]
    exact renderings_foldl_register .empty _
  rw [size, renderings, Registry.size_insertAll_empty]

/-- Nothing is made for a type that was never registered. -/
theorem ofEdits_unregistered (h : ∀ r ∈ Edit.registrations edits, r.1 ≠ t) (text : Text) :
    (ofEdits edits).supports t = false ∧
      (ofEdits edits).transform t text = .error (.missingTransformer t) ∧
      (ofEdits edits).transformInto t text = .error (.missingTransformer t) := by
  have view := renderer?_foldl_edit edits t
  rw [latest?_eq_none_iff.2 h, Option.map_none] at view
  have missing : (ofEdits edits).transform t text = .error (.missingTransformer t) :=
    transform_build_of_none view text
  refine ⟨?_, missing, ?_⟩
  · rw [ofEdits, supports_build, view, Option.isSome_none]
  · rw [transformInto, missing]

/-- For a type that was registered, the latest registration makes a value, and it has the type. -/
theorem ofEdits_latest {r : Registration}
    (h : latest? Sigma.fst t (Edit.registrations edits) = some r) (text : Text) :
    (ofEdits edits).supports r.1 = true ∧
      (ofEdits edits).transform r.1 text = .ok (Registration.renderer r text) ∧
      (ofEdits edits).transformInto r.1 text = .ok (r.2 text) := by
  obtain rfl : r.1 = t := (mem_of_latest? h).2
  have view := renderer?_foldl_edit edits r.1
  rw [h, Option.map_some] at view
  have made : (ofEdits edits).transform r.1 text = .ok (Registration.renderer r text) :=
    transform_build_of_some view text
  have typed : (Registration.renderer r text).as? r.1 = some (r.2 text) := Value.as?_of _ _
  refine ⟨?_, made, ?_⟩
  · rw [ofEdits, supports_build, view, Option.isSome_some]
  · simp only [transformInto, made, typed]

end OfEdits

/-- **A transformer makes the type that it is asked for.** It fails for the types that were never
registered, and says so. For any other type it yields a value of that type, which holds what the
latest registration makes of the text. So what is made never has to be refused for its type. The
size of the transformer is the number of types registered. -/
theorem transform_latest (edits : List (Edit Registration)) (t : Ty) (text : Text) :
    ((ofEdits edits).transform t text = .error (.missingTransformer t) ↔
      ∀ r ∈ Edit.registrations edits, r.1 ≠ t) ∧
    ((∃ r ∈ Edit.registrations edits, r.1 = t) →
      ∃ v render, latest? Sigma.fst t (Edit.registrations edits) = some ⟨t, render⟩ ∧
        (ofEdits edits).transform t text = .ok v ∧ v.ty = t ∧ v = .of t (render text) ∧
        (ofEdits edits).transformInto t text = .ok (render text)) ∧
    (∀ u, (ofEdits edits).transformInto t text ≠ .error (.valueMismatch u)) ∧
    ((∃ e, (ofEdits edits).transformInto t text = .error e) ↔
      (ofEdits edits).supports t = false) ∧
    ((ofEdits edits).supports t = true ↔ ∃ r ∈ Edit.registrations edits, r.1 = t) ∧
    (ofEdits edits).size = ((Edit.registrations edits).map (·.1)).toFinset.card := by
  cases hl : latest? Sigma.fst t (Edit.registrations edits) with
  | none =>
    have unregistered := latest?_eq_none_iff.1 hl
    obtain ⟨unsupported, missing, missingInto⟩ := ofEdits_unregistered unregistered text
    have none : ¬ ∃ r ∈ Edit.registrations edits, r.1 = t := fun ⟨r, hr, ht⟩ => unregistered r hr ht
    refine ⟨iff_of_true missing unregistered, fun registered => absurd registered none, ?_, ?_, ?_,
      size_ofEdits edits⟩
    · simp [missingInto]
    · exact iff_of_true ⟨_, missingInto⟩ unsupported
    · exact iff_of_false (by simp [unsupported]) none
  | some r =>
    obtain ⟨registered, rfl⟩ := mem_of_latest? hl
    obtain ⟨supported, made, madeInto⟩ := ofEdits_latest hl text
    refine ⟨iff_of_false ?_ ?_, ?_, ?_, ?_, iff_of_true supported ⟨r, registered, rfl⟩,
      size_ofEdits edits⟩
    · simp [made]
    · exact fun unregistered => unregistered r registered rfl
    · intro _
      exact ⟨_, r.2, rfl, made, Registration.ty_renderer r text, rfl, madeInto⟩
    · simp [madeInto]
    · simp [madeInto, supported]

/-- Strings are registered twice, with a build between, and texts once. -/
def stringsTwice : List (Edit Registration) :=
  [.register ⟨.string, fun _ => "first"⟩, .rebuild, .register ⟨.text, fun text => text⟩,
    .register ⟨.string, fun _ => "second"⟩]

theorem transform_stringsTwice :
    (ofEdits stringsTwice).transform .bool (.literal "hi") = .error (.missingTransformer .bool) ∧
      (∃ v render,
        latest? Sigma.fst .string (Edit.registrations stringsTwice) = some ⟨.string, render⟩ ∧
          (ofEdits stringsTwice).transform .string (.literal "hi") = .ok v ∧ v.ty = .string ∧
          v = .of .string (render (.literal "hi")) ∧
          (ofEdits stringsTwice).transformInto .string (.literal "hi") =
            .ok (render (.literal "hi"))) ∧
      (ofEdits stringsTwice).size = 2 := by
  obtain ⟨missing, -, -, -, -, size⟩ := transform_latest stringsTwice .bool (.literal "hi")
  obtain ⟨-, made, -, -, -, -⟩ := transform_latest stringsTwice .string (.literal "hi")
  refine ⟨missing.2 (by decide), made (by decide), ?_⟩
  rw [size]
  decide

/-- The string is that of the second registration. -/
example :
    (ofEdits stringsTwice).transform .string (.literal "hi") = .ok (.string "second") :=
  rfl

end Transformer

end MessageDispatch
