import MessageDispatch.Proofs.Loading
import Mathlib.Data.List.Flatten

/-!
# Limits on the segments of a path

The limit on components is checked on the steps that a path denotes, in which a root is added and
segments are left out that do not count. What is added or left out is short, so the limit is one on
the segments as they are written (`Path.components_fit_iff`), and a path stays within the limits
when segments are taken out of it (`Path.WithinLimits.of_sublist`). Of a text, lengths are counted
in bytes; no byte but that of a slash is a separator, so its segments are those of the text
(`Path.segments_ofString`). Main statement: `Path.checkAs_exact`.
-/

namespace MessageDispatch

namespace Path

/-- The path with the given segments. -/
def ofSegments (segments : List (List UInt8)) : Path :=
  [separator].intercalate segments

section Segments

variable {p : Path} {s : List UInt8}

@[simp] theorem segments_nil : segments [] = [[]] :=
  List.splitOn_nil separator

theorem segments_cons (b : UInt8) (p : Path) : segments (b :: p) =
    if b = separator then [] :: p.segments else p.segments.modifyHead (b :: ·) := by
  rw [segments, List.splitOn_cons_eq_if_modifyHead, segments]
  simp only [beq_iff_eq]

theorem ofSegments_segments (p : Path) : ofSegments p.segments = p :=
  List.intercalate_splitOn separator

/-- No segment contains a separator. -/
theorem separator_not_mem_of_mem_segments (h : s ∈ p.segments) : separator ∉ s := by
  induction p generalizing s with
  | nil =>
    rw [segments_nil, List.mem_singleton] at h
    simp [h]
  | cons b p ih =>
    rw [segments_cons] at h
    split at h
    case isTrue =>
      obtain rfl | h := List.mem_cons.1 h
      · exact List.not_mem_nil
      · exact ih h
    case isFalse other =>
      obtain ⟨first, rest, split⟩ := List.exists_cons_of_ne_nil (segments_ne_nil p)
      rw [split] at h ih
      obtain rfl | h := List.mem_cons.1 h
      · intro mem
        obtain e | mem := List.mem_cons.1 mem
        · exact other e.symm
        · exact ih List.mem_cons_self mem
      · exact ih (List.mem_cons_of_mem _ h)

theorem segments_ofSegments {ss : List (List UInt8)} (h : ∀ s ∈ ss, separator ∉ s) (hne : ss ≠ []) :
    (ofSegments ss).segments = ss :=
  List.splitOn_intercalate separator h hne

/-- The segments that are left out of the components have one byte at most. -/
theorem forall_filter_fit_iff {n : Nat} (hn : 1 ≤ n) {ss : List (List UInt8)} :
    (∀ c ∈ ss.filter (fun s => !s.isEmpty && s != here), c.length ≤ n) ↔
      ∀ s ∈ ss, s.length ≤ n := by
  constructor
  · intro h s hs
    by_cases empty : s = []
    · rw [empty]
      exact Nat.zero_le n
    by_cases stays : s = here
    · rw [stays]
      exact hn
    · exact h s (List.mem_filter.2 ⟨hs, by simp [empty, stays]⟩)
  · intro h c hc
    exact h c (List.mem_filter.1 hc).1

theorem components_cons_separator (p : Path) : components (separator :: p) =
    [separator] :: p.segments.filter fun s => !s.isEmpty && s != here := by
  simp [components, segments_cons]

theorem components_cons_other {b : UInt8} (relative : b ≠ separator) {first : List UInt8}
    {rest : List (List UInt8)} (split : p.segments = first :: rest) : components (b :: p) =
      (b :: first) :: rest.filter fun s => !s.isEmpty && s != here := by
  simp [components, segments_cons, relative, split]

/-- A limit on the components is one on the segments. -/
theorem components_fit_iff {n : Nat} (hn : 1 ≤ n) (p : Path) :
    (∀ c ∈ p.components, c.length ≤ n) ↔ ∀ s ∈ p.segments, s.length ≤ n := by
  match p with
  | [] => simp [components]
  | b :: p =>
    by_cases absolute : b = separator
    · subst absolute
      rw [components_cons_separator, segments_cons, if_pos rfl, List.forall_mem_cons,
        List.forall_mem_cons, forall_filter_fit_iff hn]
      simp [hn]
    · obtain ⟨first, rest, split⟩ := List.exists_cons_of_ne_nil (segments_ne_nil p)
      rw [components_cons_other absolute split, segments_cons, if_neg absolute, split,
        List.modifyHead_cons, List.forall_mem_cons, List.forall_mem_cons, forall_filter_fit_iff hn]

theorem withinLimits_iff : p.WithinLimits ↔
    1 ≤ p.length ∧ p.length ≤ maxLength ∧ ∀ s ∈ p.segments, s.length ≤ maxComponent := by
  have fit : (∀ c ∈ p.components, c.length ≤ maxComponent) ↔
      ∀ s ∈ p.segments, s.length ≤ maxComponent :=
    components_fit_iff (by decide) p
  constructor
  · intro h
    exact ⟨h.nonempty, h.total, fit.1 h.components⟩
  · rintro ⟨nonempty, total, segments⟩
    exact ⟨nonempty, total, fit.2 segments⟩

end Segments

section Sublists

variable {ss kept : List (List UInt8)}

theorem separator_cons_ofSegments (h : ss ≠ []) :
    separator :: ofSegments ss = ss.flatMap (separator :: ·) := by
  induction ss with
  | nil => exact absurd rfl h
  | cons s ss ih =>
    cases ss with
    | nil => simp [ofSegments]
    | cons t ts =>
      rw [List.flatMap_cons, ← ih (List.cons_ne_nil t ts), ofSegments, ofSegments,
        List.intercalate_cons_cons]
      simp

/-- With segments taken out, a path gets no longer. -/
theorem length_ofSegments_le (h : kept.Sublist ss) :
    (ofSegments kept).length ≤ (ofSegments ss).length := by
  by_cases none : kept = []
  · rw [none]
    exact Nat.zero_le _
  · have some : ss ≠ [] := by
      rintro rfl
      exact none (List.sublist_nil.1 h)
    have longer : (separator :: ofSegments kept).length ≤ (separator :: ofSegments ss).length := by
      rw [separator_cons_ofSegments none, separator_cons_ofSegments some]
      exact (h.flatMap _).length_le
    simpa using longer

end Sublists

section Texts

/-- The loop that lists bytes has those from some place on still before it. -/
theorem bytesFrom_eq (bytes : ByteArray) (place : Nat) (taken : List UInt8) :
    ByteArray.toList.loop bytes place taken =
      taken.reverse ++ bytes.data.toList.drop place := by
  fun_induction ByteArray.toList.loop bytes place taken with
  | case1 place taken more ih =>
    have next : place < bytes.data.toList.length := more
    calc ByteArray.toList.loop bytes (place + 1) (bytes.get! place :: taken)
      _ = taken.reverse ++ bytes.get! place :: bytes.data.toList.drop (place + 1) := by
        rw [ih, List.reverse_cons, List.append_assoc, List.singleton_append]
      _ = taken.reverse ++ bytes.data.toList.drop place := by
        rw [List.drop_eq_getElem_cons next]
        simp [ByteArray.get!, more]
  | case2 place taken done =>
    rw [List.drop_eq_nil_of_le (Nat.le_of_not_lt done), List.append_nil]

theorem toList_eq_toList_data (bytes : ByteArray) : bytes.toList = bytes.data.toList :=
  bytesFrom_eq bytes 0 []

theorem ofString_eq_flatMap (text : String) :
    Path.ofString text = text.toList.flatMap String.utf8EncodeChar := by
  have bytes : text.toUTF8 = (text.toList.flatMap String.utf8EncodeChar).toByteArray := by
    rw [← List.utf8Encode, ← String.toByteArray_ofList, String.ofList_toList,
      String.toUTF8_eq_toByteArray]
  rw [Path.ofString, bytes, toList_eq_toList_data, List.toList_data_toByteArray]

theorem length_ofString (text : String) : (Path.ofString text).length = text.utf8ByteSize := by
  rw [Path.ofString, toList_eq_toList_data]
  rfl

/-- Only a slash has the byte of a separator in it. -/
theorem separator_mem_utf8EncodeChar_iff {c : Char} :
    separator ∈ String.utf8EncodeChar c ↔ c = '/' := by
  have byte (n : Nat) : separator = UInt8.ofNat n ↔ n % 256 = 47 := by
    rw [← UInt8.toNat_inj, UInt8.toNat_ofNat']
    exact eq_comm
  have slash : c = '/' ↔ c.val.toNat = 47 := by
    rw [← Char.toNat_inj]
    rfl
  rw [slash]
  unfold String.utf8EncodeChar
  dsimp only
  split
  · rw [List.mem_singleton, byte]
    omega
  split
  · simp only [List.mem_cons, List.not_mem_nil, or_false, byte]
    omega
  split
  · simp only [List.mem_cons, List.not_mem_nil, or_false, byte]
    omega
  · simp only [List.mem_cons, List.not_mem_nil, or_false, byte]
    omega

theorem segments_append {xs : List UInt8} (h : separator ∉ xs) (p : Path) :
    segments (xs ++ p) = p.segments.modifyHead (xs ++ ·) := by
  induction xs with
  | nil =>
    obtain ⟨first, rest, split⟩ := List.exists_cons_of_ne_nil (segments_ne_nil p)
    rw [List.nil_append, split]
    rfl
  | cons b xs ih =>
    obtain ⟨other, rest⟩ := not_or.1 (mt List.mem_cons.2 h)
    rw [List.cons_append, segments_cons, if_neg (Ne.symm other), ih rest,
      List.modifyHead_modifyHead]
    rfl

/-- Bytes are separated where the characters are. -/
theorem segments_flatMap (cs : List Char) : segments (cs.flatMap String.utf8EncodeChar) =
    (cs.splitOn '/').map (·.flatMap String.utf8EncodeChar) := by
  induction cs with
  | nil => rfl
  | cons c cs ih =>
    rw [List.flatMap_cons, List.splitOn_cons_eq_if_modifyHead]
    by_cases slash : c = '/'
    · subst slash
      have byte : String.utf8EncodeChar '/' = [separator] := rfl
      rw [byte, List.singleton_append, segments_cons, if_pos rfl, if_pos (beq_self_eq_true _), ih]
      rfl
    · obtain ⟨first, rest, split⟩ := List.exists_cons_of_ne_nil (List.splitOn_ne_nil '/' cs)
      rw [segments_append (mt separator_mem_utf8EncodeChar_iff.1 slash), ih,
        if_neg (mt beq_iff_eq.1 slash), split]
      rfl

/-- The segments of a text are its parts between slashes. -/
theorem segments_ofString (text : String) : (Path.ofString text).segments =
    (text.toList.splitOn '/').map fun segment => Path.ofString (String.ofList segment) := by
  simp only [ofString_eq_flatMap, String.toList_ofList, segments_flatMap]

end Texts

section Faults

/-- The limit that a path breaks first. A path cannot be empty and too long; one that is either is
not looked into for long segments. -/
def Breaks (p : Path) : Fault → Prop
  | .empty => p.length = 0
  | .tooLong => maxLength < p.length
  | .componentTooLong =>
    1 ≤ p.length ∧ p.length ≤ maxLength ∧ ∃ s ∈ p.segments, maxComponent < s.length

theorem any_components_iff {p : Path} :
    (p.components.any fun c => decide (maxComponent < c.length)) = true ↔
      ∃ s ∈ p.segments, maxComponent < s.length := by
  have misfit := not_congr (components_fit_iff (show 1 ≤ maxComponent by decide) p)
  simpa using misfit

theorem check_eq_error_iff {p : Path} {fault : Fault} :
    p.check = .error fault ↔ p.Breaks fault := by
  unfold check
  by_cases empty : p.length = 0
  · rw [if_pos empty]
    cases fault <;> simp [Breaks, empty, maxLength]
  rw [if_neg empty]
  by_cases long : maxLength < p.length
  · rw [if_pos long]
    cases fault <;> simp [Breaks, empty, long, Nat.not_le.2 long]
  rw [if_neg long]
  by_cases oversized : ∃ s ∈ p.segments, maxComponent < s.length
  · rw [if_pos (any_components_iff.2 oversized)]
    have sized : 1 ≤ p.length ∧ p.length ≤ maxLength := by omega
    cases fault <;> simp [Breaks, empty, long, oversized, sized]
  · rw [if_neg (mt any_components_iff.1 oversized)]
    cases fault <;> simp [Breaks, empty, long, oversized]

theorem checkAs_eq_error_iff {p : Path} {role : PathRole} {e : SettingsError} :
    p.checkAs role = .error e ↔ ∃ fault, p.Breaks fault ∧ e = .path role fault := by
  rw [checkAs]
  cases outcome : p.check with
  | ok _ =>
    simp [← check_eq_error_iff, outcome]
  | error fault => simp [← check_eq_error_iff, outcome, eq_comm]

end Faults

/-- A path with segments taken out is within the limits if there is anything left of it. -/
theorem WithinLimits.of_sublist {p : Path} (h : p.WithinLimits) {kept : List (List UInt8)}
    (taken : kept.Sublist p.segments) (left : ofSegments kept ≠ []) :
    (ofSegments kept).WithinLimits := by
  obtain ⟨-, total, segments⟩ := withinLimits_iff.1 h
  have some : kept ≠ [] := by
    rintro rfl
    exact left rfl
  have parts : (ofSegments kept).segments = kept :=
    segments_ofSegments (fun s hs => separator_not_mem_of_mem_segments (taken.subset hs)) some
  refine withinLimits_iff.2 ⟨List.length_pos_iff.2 left, ?_, ?_⟩
  · calc (ofSegments kept).length
      _ ≤ (ofSegments p.segments).length := length_ofSegments_le taken
      _ = p.length := by rw [ofSegments_segments]
      _ ≤ maxLength := total
  · rw [parts]
    exact fun s hs => segments s (taken.subset hs)

/-- **The check of a path is exact.** A path passes exactly if it has 1 to 4096 bytes and none of
its segments has more than 255, whatever the segments are; otherwise it fails for the limit that it
breaks first. So a path that passes still does when segments are taken out of it, unless nothing is
left. The bytes of a text are those of its UTF-8 form, and its segments are its parts between
slashes. -/
theorem checkAs_exact (role : PathRole) (p : Path) :
    (p.checkAs role = .ok () ↔
      1 ≤ p.length ∧ p.length ≤ 4096 ∧ ∀ s ∈ p.segments, s.length ≤ 255) ∧
    (∀ e, p.checkAs role = .error e ↔ ∃ fault, p.Breaks fault ∧ e = .path role fault) ∧
    (p.checkAs role = .ok () → ∀ kept, kept.Sublist p.segments → ofSegments kept ≠ [] →
      (ofSegments kept).checkAs role = .ok ()) ∧
    ∀ text : String, (Path.ofString text).length = text.utf8ByteSize ∧
      (Path.ofString text).segments.map List.length =
        (text.toList.splitOn '/').map fun segment => (String.ofList segment).utf8ByteSize := by
  refine ⟨?_, fun e => checkAs_eq_error_iff, ?_, fun text => ⟨length_ofString text, ?_⟩⟩
  · rw [checkAs_eq_ok_iff]
    exact withinLimits_iff
  · intro ok kept taken left
    rw [checkAs_eq_ok_iff] at ok ⊢
    exact ok.of_sublist taken left
  · rw [segments_ofString, List.map_map]
    exact List.map_congr_left fun segment _ => length_ofString (String.ofList segment)

/-- The longest name of a segment. -/
def longName : List UInt8 :=
  List.replicate 255 0x61

/-- A path with every kind of segment that does not count. -/
def roundaboutPath : Path :=
  ofSegments [[], [], longName, here, [], above, longName, []]

theorem checkAs_roundaboutPath :
    roundaboutPath.checkAs .audit = .ok () ∧
    [longName, [], longName].Sublist roundaboutPath.segments ∧
    ofSegments [longName, [], longName] ≠ [] ∧
    (ofSegments [longName, [], longName]).checkAs .audit = .ok () := by
  obtain ⟨-, -, shorter, -⟩ := checkAs_exact .audit roundaboutPath
  have ok : roundaboutPath.checkAs .audit = .ok () := by decide +kernel
  have taken : [longName, [], longName].Sublist roundaboutPath.segments := by decide +kernel
  have left : ofSegments [longName, [], longName] ≠ [] := by decide +kernel
  exact ⟨ok, taken, left, shorter ok _ taken left⟩

end Path

end MessageDispatch
