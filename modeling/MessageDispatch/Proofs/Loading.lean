import MessageDispatch.Settings.Load

/-!
# Loaded settings

Loading ends well in one way only: the path is within the limits, its file is a text that is not too
long, the text spells settings, and these do not contradict each other
(`Settings.loadBy_eq_ok_iff`). What `Settings.validate` accepts is said without it by
`Settings.Consistent`. Validation and the opening of the sink look at the sink and the path
separately; on consistent settings they agree on both, so opening fails for want of access only, and
opens the path that was checked (`Settings.Consistent.auditSink_eq`).
-/

namespace MessageDispatch

namespace Path

/-- A path whose length and components are within the limits. -/
structure WithinLimits (p : Path) : Prop where
  nonempty : 0 < p.length
  total : p.length ≤ maxLength
  components : ∀ c ∈ p.components, c.length ≤ maxComponent

theorem check_eq_ok_iff {p : Path} : p.check = .ok () ↔ p.WithinLimits := by
  unfold check
  by_cases empty : p.length = 0
  · rw [if_pos empty]
    constructor
    · intro h
      cases h
    · intro limits
      have nonempty := limits.nonempty
      omega
  rw [if_neg empty]
  by_cases long : maxLength < p.length
  · rw [if_pos long]
    constructor
    · intro h
      cases h
    · intro limits
      have total := limits.total
      omega
  rw [if_neg long]
  have fits : (p.components.any fun c => decide (maxComponent < c.length)) = false ↔
      ∀ c ∈ p.components, c.length ≤ maxComponent := by
    simp
  cases oversized : p.components.any fun c => decide (maxComponent < c.length) with
  | true =>
    have misfit : ¬ ∀ c ∈ p.components, c.length ≤ maxComponent := by
      rw [← fits, oversized]
      exact Bool.noConfusion
    constructor
    · intro h
      cases h
    · intro limits
      exact absurd limits.components misfit
  | false =>
    constructor
    · intro _
      exact ⟨by omega, by omega, fits.1 oversized⟩
    · intro _
      rfl

theorem checkAs_eq_ok_iff {role : PathRole} {p : Path} :
    p.checkAs role = .ok () ↔ p.WithinLimits := by
  rw [← check_eq_ok_iff, checkAs]
  cases p.check <;> simp

end Path

/-- The bytes of a text are those that the text is read from. -/
theorem fromUTF8?_eq_some_iff {bytes : ByteArray} {text : String} :
    String.fromUTF8? bytes = some text ↔ bytes = text.toUTF8 := by
  unfold String.fromUTF8?
  split
  case isTrue valid =>
    rw [Option.some.injEq]
    constructor
    · rintro rfl
      rfl
    · rintro rfl
      rfl
  case isFalse invalid =>
    constructor
    · intro h
      cases h
    · rintro rfl
      exact absurd text.isValidUTF8 invalid

namespace Settings

/-- Settings that do not contradict each other. -/
structure Consistent (s : Settings) : Prop where
  names : s.arguments.style = .positional → s.arguments.names = none
  path : (∃ written, s.audit.path = some written) ↔ s.audit.sink = .file
  limits : ∀ written, s.audit.path = some written → (Path.ofString (trim written)).WithinLimits

theorem validate_arguments_iff {s : ArgumentSettings} :
    s.validate = .ok () ↔ (s.style = .positional → s.names = none) := by
  unfold ArgumentSettings.validate
  cases s.style with
  | named => simp
  | positional => cases s.names <;> simp

/-- A path belongs to the file sink, and is checked without the blanks at its ends. -/
theorem validate_audit_iff {s : AuditSettings} :
    s.validate = .ok () ↔ ((∃ written, s.path = some written) ↔ s.sink = .file) ∧
      ∀ written, s.path = some written → (Path.ofString (trim written)).WithinLimits := by
  unfold AuditSettings.validate AuditSettings.filePath
  cases s.sink <;> cases s.path <;> simp [Path.checkAs_eq_ok_iff]

theorem validate_eq_ok_iff {s : Settings} : s.validate = .ok () ↔ s.Consistent := by
  have parts : s.validate = .ok () ↔ s.arguments.validate = .ok () ∧ s.audit.validate = .ok () := by
    unfold validate
    cases s.arguments.validate <;> simp
  rw [parts, validate_arguments_iff, validate_audit_iff]
  constructor
  · rintro ⟨names, path, limits⟩
    exact ⟨names, path, limits⟩
  · intro h
    exact ⟨h.names, h.path, h.limits⟩

/-- Consistent settings open the sink that they name; of the file sink, exactly the path that was
checked. -/
theorem Consistent.auditSink_eq {s : Settings} (h : s.Consistent) (opens : Path → Bool) :
    (s.audit.sink ≠ .file ∧ ∃ sink, s.auditSink opens = .ok sink) ∨
      ∃ written, s.audit.sink = .file ∧ s.audit.path = some written ∧
        s.auditSink opens =
          if opens (Path.ofString (trim written)) then .ok (.file (trim written))
          else .error .inaccessible := by
  cases hs : s.audit.sink with
  | none => exact .inl ⟨by simp, .discard, by simp [auditSink, hs]⟩
  | stderr => exact .inl ⟨by simp, .stderr, by simp [auditSink, hs]⟩
  | file =>
    obtain ⟨written, hw⟩ := h.path.2 hs
    refine .inr ⟨written, rfl, hw, ?_⟩
    rw [auditSink, hs, hw]
    rfl

theorem ofBytes_eq_ok_iff {decode : String → Option Settings} {bytes : ByteArray} {s : Settings} :
    ofBytes decode bytes = .ok s ↔
      bytes.size ≤ maxFileSize ∧
        ∃ text : String, bytes = text.toUTF8 ∧ decode text = some s ∧ s.validate = .ok () := by
  constructor
  · intro h
    unfold ofBytes at h
    by_cases large : maxFileSize < bytes.size
    · rw [if_pos large] at h
      cases h
    rw [if_neg large] at h
    cases ht : String.fromUTF8? bytes with
    | none => simp [ht] at h
    | some text =>
      cases hd : decode text with
      | none => simp [ht, hd] at h
      | some t =>
        cases hv : t.validate with
        | error e => simp [ht, hd, hv] at h
        | ok =>
          simp only [ht, hd, hv] at h
          cases h
          exact ⟨by omega, text, fromUTF8?_eq_some_iff.1 ht, hd, hv⟩
  · rintro ⟨small, text, rfl, hd, hv⟩
    have ht : String.fromUTF8? text.toUTF8 = some text := fromUTF8?_eq_some_iff.2 rfl
    rw [ofBytes, if_neg (by omega), ht]
    simp only [hd, hv]

theorem loadBy_eq_ok_iff {decode : String → Option Settings} {given environment : Option Path}
    {read : Path → Option ByteArray} {s : Settings} :
    loadBy decode given environment read = .ok s ↔
      (resolve given environment).checkAs .settings = .ok () ∧
        ∃ bytes, read (resolve given environment) = some bytes ∧ ofBytes decode bytes = .ok s := by
  rw [loadBy]
  cases (resolve given environment).checkAs .settings with
  | error e => simp
  | ok =>
    cases read (resolve given environment) with
    | none => simp
    | some bytes => simp

/-- **Loading is fail-closed, and what it loads is what is opened.** Whatever reads the texts, the
settings that are loaded are those of a text of at most 65536 bytes at a path within the limits, and
they are consistent. Of consistent settings the positional style has no names, the path stands with
the file sink alone, opening the sink fails for want of access only, and it opens the path that was
checked, which is not empty and within the limits. -/
theorem load_failsClosed (decode : String → Option Settings) :
    (∀ given environment read s, loadBy decode given environment read = .ok s ↔
      (resolve given environment).WithinLimits ∧
        ∃ text : String, read (resolve given environment) = some text.toUTF8 ∧
          text.toUTF8.size ≤ 65536 ∧ decode text = some s ∧ s.validate = .ok ()) ∧
    ∀ s : Settings, s.validate = .ok () →
      (s.arguments.style = .positional → s.arguments.names = none) ∧
      ((∃ written, s.audit.path = some written) ↔ s.audit.sink = .file) ∧
      (∀ opens e, s.auditSink opens = .error e → e = .inaccessible) ∧
      ∀ written, s.audit.path = some written →
        s.audit.validate = (Path.ofString (trim written)).checkAs .audit ∧
        (∀ opens, s.auditSink opens =
          if opens (Path.ofString (trim written)) then .ok (.file (trim written))
          else .error .inaccessible) ∧
        0 < (Path.ofString (trim written)).length ∧
        (Path.ofString (trim written)).length ≤ 4096 ∧
        ∀ c ∈ (Path.ofString (trim written)).components, c.length ≤ 255 := by
  constructor
  · intro given environment read s
    rw [loadBy_eq_ok_iff, Path.checkAs_eq_ok_iff]
    constructor
    · rintro ⟨limits, bytes, hread, hbytes⟩
      obtain ⟨small, text, rfl, hdecode, valid⟩ := ofBytes_eq_ok_iff.1 hbytes
      exact ⟨limits, text, hread, small, hdecode, valid⟩
    · rintro ⟨limits, text, hread, small, hdecode, valid⟩
      exact ⟨limits, _, hread, ofBytes_eq_ok_iff.2 ⟨small, text, rfl, hdecode, valid⟩⟩
  · intro s valid
    have consistent : s.Consistent := validate_eq_ok_iff.1 valid
    refine ⟨consistent.names, consistent.path, ?_, ?_⟩
    · intro opens e failed
      obtain ⟨-, sink, opened⟩ | ⟨written, -, -, opened⟩ := consistent.auditSink_eq opens
      · rw [opened] at failed
        cases failed
      · rw [opened] at failed
        split at failed
        · cases failed
        · cases failed
          rfl
    · intro written hw
      have file : s.audit.sink = .file := consistent.path.1 ⟨written, hw⟩
      have limits := consistent.limits written hw
      refine ⟨?_, ?_, limits.nonempty, limits.total, limits.components⟩
      · rw [AuditSettings.validate, file, hw]
        rfl
      · intro opens
        obtain ⟨other, -⟩ | ⟨same, -, hs, opened⟩ := consistent.auditSink_eq opens
        · exact absurd file other
        · obtain rfl : written = same := Option.some.inj (hw.symm.trans hs)
          exact opened

/-- A document that names a file, with blanks around the name. -/
def spacedPath : String :=
  "[audit]\nsink = \"file\"\npath = \" bound.log \"\n"

/-- The document loads, and the file that is opened is the one without the blanks. -/
theorem load_spacedPath :
    ∃ s, load none none (fun _ => some spacedPath.toUTF8) = .ok s ∧
      s.auditSink (fun _ => true) = .ok (.file "bound.log") ∧
      s.auditSink (fun _ => false) = .error .inaccessible := by
  let s : Settings := { audit := { sink := .file, path := some " bound.log " } }
  obtain ⟨loads, opens⟩ := load_failsClosed parse?
  have located : (resolve none none).WithinLimits := by
    refine ⟨?_, ?_, ?_⟩ <;> decide +kernel
  have spelt : parse? spacedPath = some s := by decide +kernel
  have trimmed : trim " bound.log " = "bound.log" := by decide +kernel
  have valid : s.validate = .ok () := by
    refine validate_eq_ok_iff.2 ⟨fun _ => rfl, ⟨fun _ => rfl, fun _ => ⟨_, rfl⟩⟩, ?_⟩
    intro written hw
    cases hw
    rw [trimmed]
    refine ⟨?_, ?_, ?_⟩ <;> decide +kernel
  refine ⟨s, (loads none none _ s).2 ⟨located, spacedPath, rfl, ?_, spelt, valid⟩, ?_⟩
  · decide +kernel
  · obtain ⟨-, -, -, path⟩ := opens s valid
    obtain ⟨-, opened, -⟩ := path " bound.log " rfl
    rw [opened, opened, trimmed]
    exact ⟨rfl, rfl⟩

end Settings

end MessageDispatch
