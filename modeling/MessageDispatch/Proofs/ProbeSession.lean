import MessageDispatch.Proofs.ProbeHistory

/-!
# Sessions with probes

A session puts queries to a probe one after another: its state, or an answer. It comes to its end,
at every depth from some depth on, if nested runs of the probing function do, that is to say if some
run answers without asking. Its record tells the history of the probe, so the probe settles once,
and what callers are told fits the state that it settles in (`Probe.session_settles`).
-/

namespace MessageDispatch

namespace Probe

section Session

/-- What a caller asks of a probe. -/
inductive Query where
  | state
  | available
  deriving DecidableEq, Repr

/-- What a caller is told. -/
inductive Reply where
  | state (c : Capability)
  | available (b : Bool)
  deriving DecidableEq, Repr

/-- What is told agrees with the state that the probe ends in. -/
def Reply.Fits (final : Capability) : Reply → Prop
  | .state c => c ≠ .unknown → final = c
  | .available b => final = .ofAnswer b

/-- Puts a query to the probe. -/
def put (script : Nat → Probing) (depth : Nat) : Query → Probe → Option (Reply × Probe)
  | .state, p => some (.state p.state, p)
  | .available, p => (isAvailable script depth p).map fun (b, p) => (.available b, p)

/-- Puts queries to the probe one after another. -/
def session (script : Nat → Probing) (depth : Nat) :
    List Query → Probe → Option (List Reply × Probe)
  | [], p => some ([], p)
  | q :: qs, p =>
    match put script depth q p with
    | none => none
    | some (reply, p) =>
      match session script depth qs p with
      | none => none
      | some (replies, p) => some (reply :: replies, p)

/-- Puts a query to the probe, and records what happens. -/
def recordPut (script : Nat → Probing) (depth : Nat) :
    Query → Probe → Option (List Moment × Reply × Probe)
  | .state, p => some ([⟨.shows p.state, p.state⟩], .state p.state, p)
  | .available, p =>
    (record script depth p).map fun r => (r.moments, .available r.answer, r.after)

/-- Puts queries to the probe one after another, and records what happens. -/
def recordSession (script : Nat → Probing) (depth : Nat) :
    List Query → Probe → Option (List Moment × List Reply × Probe)
  | [], p => some ([], [], p)
  | q :: qs, p =>
    match recordPut script depth q p with
    | none => none
    | some (moments, reply, p) =>
      match recordSession script depth qs p with
      | none => none
      | some (later, replies, p) => some (moments ++ later, reply :: replies, p)

variable {script : Nat → Probing} {depth : Nat} {p : Probe}

theorem map_snd_recordPut (script : Nat → Probing) (depth : Nat) (q : Query) (p : Probe) :
    (recordPut script depth q p).map (·.2) = put script depth q p := by
  cases q with
  | state => rfl
  | available =>
    rw [recordPut, put, ← forget_record, Option.map_map, Option.map_map]
    rfl

/-- A recorded session without its moments is the session. -/
theorem map_snd_recordSession (script : Nat → Probing) (depth : Nat) (qs : List Query)
    (p : Probe) : (recordSession script depth qs p).map (·.2) = session script depth qs p := by
  induction qs generalizing p with
  | nil => rfl
  | cons q qs ih =>
    rw [recordSession, session, ← map_snd_recordPut]
    cases recordPut script depth q p with
    | none => rfl
    | some x =>
      obtain ⟨moments, reply, p⟩ := x
      simp only [Option.map_some, ← ih]
      cases recordSession script depth qs p <;> rfl

/-- A recorded query tells the history of the probe, and its reply fits the state after it. -/
theorem history_recordPut {q : Query} {after : Probe} {moments : List Moment} {reply : Reply}
    (h : recordPut script depth q p = some (moments, reply, after)) :
    History p moments after ∧ reply.Fits after.state := by
  cases q with
  | state =>
    cases h
    exact ⟨.single .shows, fun _ => rfl⟩
  | available =>
    rw [recordPut, Option.map_eq_some_iff] at h
    obtain ⟨r, hr, h⟩ := h
    cases h
    exact ⟨(tells_record hr).history, Capability.answer?_eq_some_iff.1 (tells_record hr).known⟩

/-- A reply that fits a state fits what the state becomes later. -/
theorem Reply.Fits.later {reply : Reply} {after : Probe} (fits : reply.Fits p.state)
    {moments : List Moment} (h : History p moments after) : reply.Fits after.state := by
  cases reply with
  | state c =>
    intro known
    obtain rfl := fits known
    exact (h.of_known known).1
  | available b =>
    have known : p.state ≠ .unknown := fits ▸ Capability.ofAnswer_ne_unknown b
    exact (h.of_known known).1.trans fits

/-- A recorded session tells the history of the probe, and its replies fit the last state. -/
theorem history_recordSession {qs : List Query} {after : Probe} {moments : List Moment}
    {replies : List Reply}
    (h : recordSession script depth qs p = some (moments, replies, after)) :
    History p moments after ∧ ∀ reply ∈ replies, reply.Fits after.state := by
  induction qs generalizing p moments replies with
  | nil =>
    cases h
    exact ⟨.nil _, by simp⟩
  | cons q qs ih =>
    rw [recordSession] at h
    cases hq : recordPut script depth q p with
    | none => simp [hq] at h
    | some x =>
      obtain ⟨first, reply, middle⟩ := x
      cases hs : recordSession script depth qs middle with
      | none => simp [hq, hs] at h
      | some y =>
        obtain ⟨later, rest, last⟩ := y
        simp only [hq, hs] at h
        cases h
        obtain ⟨earlier, fits⟩ := history_recordPut hq
        obtain ⟨history, all⟩ := ih hs
        exact ⟨earlier.append history, List.forall_mem_cons.2 ⟨fits.later history, all⟩⟩

end Session

section Depth

variable {script : Nat → Probing} {depth : Nat} {p : Probe}

theorem isAvailable_of_known {b : Bool} (known : p.state.answer? = some b) :
    isAvailable script depth p = some (b, p) := by
  cases depth <;> simp [isAvailable, known]

/-- A run whose questions are answered from a settled probe comes to its end, and to the answer of
the probe. -/
theorem run_of_known {b : Bool} (known : p.state.answer? = some b) (probing : Probing) :
    run (isAvailable script depth) probing p = some (b, p) := by
  induction probing with
  | answer c =>
    have settled : p.settle c = p :=
      settle_of_known (by simp [← Capability.answer?_eq_none_iff, known]) c
    simp [run, settled, known]
  | ask next ih =>
    rw [run, isAvailable_of_known known]
    exact ih b

/-- Nested runs come to an end if one of them answers without asking. -/
theorem isSome_isAvailable {k : Nat} {b : Bool} (answers : script (p.started + k) = .answer b)
    (deep : k < depth) : (isAvailable script depth p).isSome := by
  induction depth generalizing k p with
  | zero => omega
  | succ depth ih =>
    cases known : p.state.answer? with
    | some c => simp [isAvailable_of_known known]
    | none =>
      simp only [isAvailable, known]
      cases hs : script p.started with
      | answer c => rfl
      | ask next =>
        cases k with
        | zero =>
          rw [Nat.add_zero, hs] at answers
          cases answers
        | succ k =>
          -- the first question starts the next run
          have inner := ih (k := k) (p := { p with started := p.started + 1 })
            (by rw [← answers, Nat.add_assoc, Nat.add_comm 1 k]) (by omega)
          obtain ⟨⟨c, q⟩, hq⟩ := Option.isSome_iff_exists.1 inner
          have settled := Capability.answer?_eq_some_iff.2 (state_of_isAvailable hq)
          simp [run, hq, run_of_known settled]

theorem run_mono {ask deeper : Probe → Option (Bool × Probe)}
    (more : ∀ p x, ask p = some x → deeper p = some x) {probing : Probing} {x : Bool × Probe}
    (h : run ask probing p = some x) : run deeper probing p = some x := by
  induction probing generalizing p with
  | answer b => exact h
  | ask next ih =>
    rw [run] at h ⊢
    cases ha : ask p with
    | none => simp [ha] at h
    | some y =>
      rw [more p y ha]
      rw [ha] at h
      exact ih y.1 h

/-- The depth is a limit only: a call that stays within it is the same with any greater one. -/
theorem isAvailable_mono {x : Bool × Probe} (h : isAvailable script depth p = some x)
    {deeper : Nat} (le : depth ≤ deeper) : isAvailable script deeper p = some x := by
  induction depth generalizing p x deeper with
  | zero =>
    rw [isAvailable, Option.map_eq_some_iff] at h
    obtain ⟨b, known, rfl⟩ := h
    exact isAvailable_of_known known
  | succ depth ih =>
    cases deeper with
    | zero => omega
    | succ deeper =>
      rw [isAvailable] at h ⊢
      cases known : p.state.answer? with
      | some b =>
        rw [known] at h
        exact h
      | none =>
        rw [known] at h
        exact run_mono (fun _ _ h => ih h (by omega)) h

theorem put_mono {q : Query} {x : Reply × Probe} (h : put script depth q p = some x)
    {deeper : Nat} (le : depth ≤ deeper) : put script deeper q p = some x := by
  cases q with
  | state => exact h
  | available =>
    rw [put, Option.map_eq_some_iff] at h
    obtain ⟨y, hy, rfl⟩ := h
    rw [put, isAvailable_mono hy le]
    rfl

theorem session_mono {qs : List Query} {x : List Reply × Probe}
    (h : session script depth qs p = some x) {deeper : Nat} (le : depth ≤ deeper) :
    session script deeper qs p = some x := by
  induction qs generalizing p x with
  | nil => exact h
  | cons q qs ih =>
    rw [session] at h ⊢
    cases hq : put script depth q p with
    | none => simp [hq] at h
    | some y =>
      rw [put_mono hq le]
      cases hs : session script depth qs y.2 with
      | none => simp [hq, hs] at h
      | some z =>
        simp only [hq, hs] at h
        simp only [ih hs, h]

/-- Every query of a session is answered if the probe is settled, or if one of the runs within the
depth answers without asking. -/
theorem isSome_session (qs : List Query)
    (ready : (∃ b, p.state.answer? = some b) ∨
      ∃ k b, script (p.started + k) = .answer b ∧ k < depth) :
    (session script depth qs p).isSome := by
  induction qs generalizing p with
  | nil => rfl
  | cons q qs ih =>
    cases q with
    | state =>
      obtain ⟨x, hx⟩ := Option.isSome_iff_exists.1 (ih ready)
      simp [session, put, hx]
    | available =>
      have answered : (isAvailable script depth p).isSome := by
        obtain ⟨b, known⟩ | ⟨k, b, answers, deep⟩ := ready
        · simp [isAvailable_of_known known]
        · exact isSome_isAvailable answers deep
      obtain ⟨⟨b, after⟩, ha⟩ := Option.isSome_iff_exists.1 answered
      have known := Capability.answer?_eq_some_iff.2 (state_of_isAvailable ha)
      obtain ⟨x, hx⟩ := Option.isSome_iff_exists.1 (ih (.inl ⟨b, known⟩))
      simp [session, put, ha, hx]

end Depth

/-- **A probe settles once, for everybody.** If nested runs come to an end, a session with a fresh
probe does, whatever the runs answer. Its record shows that the state is settled at most once, by
the answer of the run that answers first, that every caller, also one whose own run was still going
on, gets that answer, and that no run starts after a caller got it. -/
theorem session_settles (script : Nat → Probing) (qs : List Query) :
    ((∃ n b, script n = .answer b) → ∃ depth replies p, ∀ deeper ≥ depth,
        session script deeper qs .fresh = some (replies, p)) ∧
      ∀ depth replies p, session script depth qs .fresh = some (replies, p) →
        ∃ moments, recordSession script depth qs .fresh = some (moments, replies, p) ∧
          Settles moments p.state ∧ ∀ reply ∈ replies, reply.Fits p.state := by
  constructor
  · rintro ⟨n, b, answers⟩
    have ready : script (fresh.started + n) = .answer b := by simpa [fresh] using answers
    have ended : (session script (n + 1) qs .fresh).isSome :=
      isSome_session qs (.inr ⟨n, b, ready, n.lt_succ_self⟩)
    obtain ⟨⟨replies, p⟩, h⟩ := Option.isSome_iff_exists.1 ended
    exact ⟨n + 1, replies, p, fun deeper le => session_mono h le⟩
  · intro depth replies p h
    rw [← map_snd_recordSession, Option.map_eq_some_iff] at h
    obtain ⟨⟨moments, rest⟩, hr, rfl⟩ := h
    obtain ⟨history, fits⟩ := history_recordSession hr
    exact ⟨moments, hr, history.settles rfl, fits⟩

/-- The first run asks the probe itself, and does not believe what it is told. -/
def contrary : Nat → Probing
  | 0 => .ask fun b => .answer (!b)
  | _ => .answer false

theorem session_contrary :
    ∃ moments, recordSession contrary 2 [.state, .available, .state, .available] .fresh =
        some (moments, [.state .unknown, .available false, .state .unavailable, .available false],
          ⟨.unavailable, 2⟩) ∧
      moments.map (·.event) =
        [.shows .unknown, .starts 0, .starts 1, .answers 1 false, .returns false, .answers 0 true,
          .returns false, .shows .unavailable, .returns false] ∧
      Settles moments .unavailable := by
  have ran : session contrary 2 [.state, .available, .state, .available] .fresh =
      some ([.state .unknown, .available false, .state .unavailable, .available false],
        ⟨.unavailable, 2⟩) := rfl
  obtain ⟨-, settles⟩ := session_settles contrary [.state, .available, .state, .available]
  obtain ⟨moments, recorded, settled, -⟩ := settles 2 _ _ ran
  refine ⟨moments, recorded, ?_, settled⟩
  cases recorded
  rfl

end Probe

end MessageDispatch
