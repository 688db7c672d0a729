import MessageDispatch.Probe

/-!
# Histories of probes

A probe is asked again and again, by callers and by its own probing function, so that runs of that
function can be nested and disagree. `Probe.record` is a call with everything that happens to the
probe meanwhile, moment by moment; without the moments it is the call itself
(`Probe.forget_record`). What can happen at one moment is `Probe.Undergoes`. From this alone it
follows that a probe settles once, on the answer of the run that answers first, that every caller
gets this answer, and that no run starts after a caller got one (`Probe.History.settles`).
-/

namespace MessageDispatch

theorem Capability.answer?_eq_some_iff {c : Capability} {b : Bool} :
    c.answer? = some b ↔ c = .ofAnswer b := by
  cases c <;> cases b <;> decide

theorem Capability.answer?_eq_none_iff {c : Capability} : c.answer? = none ↔ c = .unknown := by
  cases c <;> decide

theorem Capability.ofAnswer_ne_unknown (b : Bool) : ofAnswer b ≠ .unknown := by
  cases b <;> decide

namespace Probe

/-- What happens to a probe: a run of its probing function starts or answers, or a caller gets an
answer or is shown the state. -/
inductive Event where
  | starts (run : Nat)
  | answers (run : Nat) (b : Bool)
  | returns (b : Bool)
  | shows (state : Capability)

/-- The answer of a run that ends. -/
def Event.answer? : Event → Option Bool
  | .answers _ b => some b
  | _ => none

/-- An event, and the state of the probe after it. -/
structure Moment where
  event : Event
  state : Capability

/-- A call for an answer: what happened during it, the answer, and the probe after it. -/
structure Record where
  moments : List Moment
  answer : Bool
  after : Probe

/-- What is left of a record without its moments. -/
def Record.forget (r : Record) : Bool × Probe :=
  (r.answer, r.after)

/-- Carries on the run number `n`, with `ask` answering its questions. -/
def recordRun (ask : Probe → Option Record) (n : Nat) : Probing → Probe → Option Record
  | .answer b, p =>
    let p := p.settle b
    some ⟨[⟨.answers n b, p.state⟩], p.state.answer?.getD b, p⟩
  | .ask next, p =>
    match ask p with
    | none => none
    | some r =>
      match recordRun ask n (next r.answer) r.after with
      | none => none
      | some rest => some { rest with moments := r.moments ++ rest.moments }

/-- Asks the probe, and records what happens until the caller gets the answer. -/
def record (script : Nat → Probing) : Nat → Probe → Option Record
  | 0, p => p.state.answer?.map fun b => ⟨[⟨.returns b, p.state⟩], b, p⟩
  | depth + 1, p =>
    match p.state.answer? with
    | some b => some ⟨[⟨.returns b, p.state⟩], b, p⟩
    | none =>
      match recordRun (record script depth) p.started (script p.started)
          { p with started := p.started + 1 } with
      | none => none
      | some r =>
        some { r with
          moments := ⟨.starts p.started, p.state⟩ ::
            (r.moments ++ [⟨.returns r.answer, r.after.state⟩]) }

/-- Recording changes nothing about a run, if it changes nothing about its questions. -/
theorem forget_recordRun {ask : Probe → Option (Bool × Probe)} {asked : Probe → Option Record}
    (same : ∀ p, (asked p).map Record.forget = ask p) (n : Nat) (probing : Probing) (p : Probe) :
    (recordRun asked n probing p).map Record.forget = run ask probing p := by
  induction probing generalizing p with
  | answer b => rfl
  | ask next ih =>
    rw [recordRun, run, ← same p]
    cases asked p with
    | none => rfl
    | some r =>
      simp only [Option.map_some, Record.forget, ← ih]
      cases recordRun asked n (next r.answer) r.after <;> rfl

/-- A record without its moments is the call. -/
theorem forget_record (script : Nat → Probing) (depth : Nat) (p : Probe) :
    (record script depth p).map Record.forget = isAvailable script depth p := by
  induction depth generalizing p with
  | zero =>
    rw [record, isAvailable, Option.map_map]
    rfl
  | succ depth ih =>
    rw [record, isAvailable]
    cases p.state.answer? with
    | some b => rfl
    | none =>
      simp only [← forget_recordRun ih p.started]
      cases recordRun (record script depth) p.started (script p.started)
        { p with started := p.started + 1 } <;> rfl

/-- What an event does to a probe. A run starts only while nothing is known, and a caller gets only
what is known. -/
inductive Undergoes (p : Probe) : Event → Probe → Prop where
  | starts (unknown : p.state = .unknown) :
      Undergoes p (.starts p.started) { p with started := p.started + 1 }
  | answers (run : Nat) (b : Bool) : Undergoes p (.answers run b) (p.settle b)
  | returns {b : Bool} (settled : p.state.answer? = some b) : Undergoes p (.returns b) p
  | shows : Undergoes p (.shows p.state) p

/-- A probe undergoes one event after another. -/
inductive History : Probe → List Moment → Probe → Prop where
  | nil (p : Probe) : History p [] p
  | cons {p q r : Probe} {e : Event} {rest : List Moment} (first : p.Undergoes e q)
      (later : History q rest r) : History p (⟨e, q.state⟩ :: rest) r

/-- What a history does with the state of the probe, which is `final` at its end. -/
structure Settles (moments : List Moment) (final : Capability) : Prop where
  /-- Once it is known, the state does not change. -/
  once : moments.Pairwise fun m later => m.state ≠ .unknown → later.state = m.state
  stays : ∀ m ∈ moments, m.state ≠ .unknown → final = m.state
  /-- What is known is the answer of the run that answered first. -/
  first : final.answer? = moments.findSome? (·.event.answer?)
  /-- All callers get this answer. -/
  agrees : ∀ m ∈ moments, ∀ b, m.event = .returns b → m.state = .ofAnswer b ∧ final = .ofAnswer b
  /-- After a caller got it, no run starts. -/
  quiet : moments.Pairwise fun m later =>
    (∃ b, m.event = .returns b) → ∀ run, later.event ≠ .starts run
  shown : ∀ m ∈ moments, ∀ state, m.event = .shows state → state = m.state

section Step

variable {p q : Probe} {e : Event}

theorem settle_of_known (known : p.state ≠ .unknown) (b : Bool) : p.settle b = p := by
  unfold settle
  split
  · contradiction
  · rfl

/-- An event tells more about the state only if nothing was known, and the event is an answer. -/
theorem Undergoes.answer?_state (h : p.Undergoes e q) :
    q.state.answer? = p.state.answer?.or e.answer? := by
  cases h with
  | starts | returns | shows => exact (Option.or_none).symm
  | answers run b =>
    unfold settle
    cases hs : p.state with
    | unknown => exact Capability.answer?_ofAnswer b
    | available | unavailable => simp [hs, Capability.answer?]

theorem Undergoes.state_eq (h : p.Undergoes e q) (known : p.state ≠ .unknown) :
    q.state = p.state := by
  cases h with
  | starts | returns | shows => rfl
  | answers run b => rw [settle_of_known known]

theorem Undergoes.ne_starts (h : p.Undergoes e q) (known : p.state ≠ .unknown) (run : Nat) :
    e ≠ .starts run := by
  cases h with
  | starts unknown => exact absurd unknown known
  | answers | returns | shows => simp

theorem Undergoes.returned {b : Bool} (h : p.Undergoes (.returns b) q) :
    q.state = .ofAnswer b := by
  cases h with
  | returns settled => exact Capability.answer?_eq_some_iff.1 settled

end Step

namespace History

variable {p q r : Probe} {moments rest : List Moment}

theorem append (h : History p moments q) (later : History q rest r) :
    History p (moments ++ rest) r := by
  induction h with
  | nil => exact later
  | cons first _ ih => exact .cons first (ih later)

theorem single {e : Event} (h : p.Undergoes e q) : History p [⟨e, q.state⟩] q :=
  .cons h (.nil q)

/-- Nothing changes the state of a probe once it is known, and no run starts. -/
theorem of_known (h : History p moments q) (known : p.state ≠ .unknown) :
    q.state = p.state ∧ ∀ m ∈ moments, m.state = p.state ∧ ∀ run, m.event ≠ .starts run := by
  induction h with
  | nil p => simp
  | @cons p q r e rest first _ ih =>
    have same := first.state_eq known
    obtain ⟨final, all⟩ := ih (same ▸ known)
    refine ⟨final.trans same, List.forall_mem_cons.2 ⟨⟨same, first.ne_starts known⟩, ?_⟩⟩
    intro m hm
    exact ⟨(all m hm).1.trans same, (all m hm).2⟩

/-- What is known after a history was known before, or is the first answer in it. -/
theorem answer?_state (h : History p moments q) :
    q.state.answer? = p.state.answer?.or (moments.findSome? (·.event.answer?)) := by
  induction h with
  | nil p => simp
  | @cons p q r e rest first _ ih =>
    rw [ih, first.answer?_state, List.findSome?_cons, Option.or_assoc]
    cases e.answer? <;> rfl

/-- A state that is known is the last one. -/
theorem state_eq_of_known (h : History p moments q) :
    ∀ m ∈ moments, m.state ≠ .unknown → q.state = m.state := by
  induction h with
  | nil p => simp
  | @cons p q r e rest first later ih =>
    refine List.forall_mem_cons.2 ⟨?_, ih⟩
    intro known
    exact (later.of_known known).1

theorem once (h : History p moments q) :
    moments.Pairwise fun m later => m.state ≠ .unknown → later.state = m.state := by
  induction h with
  | nil p => exact .nil
  | @cons p q r e rest first later ih =>
    refine List.pairwise_cons.2 ⟨?_, ih⟩
    intro m hm known
    exact ((later.of_known known).2 m hm).1

/-- A caller gets what is known at that moment. -/
theorem returned (h : History p moments q) :
    ∀ m ∈ moments, ∀ b, m.event = .returns b → m.state = .ofAnswer b := by
  induction h with
  | nil p => simp
  | @cons p q r e rest first later ih =>
    refine List.forall_mem_cons.2 ⟨?_, ih⟩
    rintro b rfl
    exact first.returned

theorem quiet (h : History p moments q) :
    moments.Pairwise fun m later =>
      (∃ b, m.event = .returns b) → ∀ run, later.event ≠ .starts run := by
  induction h with
  | nil p => exact .nil
  | @cons p q r e rest first later ih =>
    refine List.pairwise_cons.2 ⟨?_, ih⟩
    rintro m hm ⟨b, rfl⟩
    have known : q.state ≠ .unknown := first.returned ▸ Capability.ofAnswer_ne_unknown b
    exact ((later.of_known known).2 m hm).2

theorem shown (h : History p moments q) :
    ∀ m ∈ moments, ∀ state, m.event = .shows state → state = m.state := by
  induction h with
  | nil p => simp
  | @cons p q r e rest first later ih =>
    refine List.forall_mem_cons.2 ⟨?_, ih⟩
    rintro state rfl
    cases first with
    | shows => rfl

/-- A history settles the state of a probe of which nothing was known. -/
theorem settles (h : History p moments q) (unknown : p.state = .unknown) :
    Settles moments q.state where
  once := h.once
  stays := h.state_eq_of_known
  first := by
    rw [h.answer?_state, unknown]
    rfl
  agrees := by
    intro m hm b returns
    have answered : m.state = .ofAnswer b := h.returned m hm b returns
    have known : m.state ≠ .unknown := answered ▸ Capability.ofAnswer_ne_unknown b
    exact ⟨answered, (h.state_eq_of_known m hm known).trans answered⟩
  quiet := h.quiet
  shown := h.shown

end History

/-- The record tells the history of the probe, at the end of which its answer is known. -/
structure Record.Tells (r : Record) (p : Probe) : Prop where
  history : History p r.moments r.after
  known : r.after.state.answer? = some r.answer

/-- The record of a run tells its history, if the records of its questions do. -/
theorem tells_recordRun {asked : Probe → Option Record}
    (questions : ∀ p r, asked p = some r → r.Tells p) {n : Nat} {probing : Probing} {p : Probe}
    {r : Record} (h : recordRun asked n probing p = some r) : r.Tells p := by
  induction probing generalizing p r with
  | answer b =>
    cases h
    refine ⟨.single (.answers n b), ?_⟩
    have known := (Undergoes.answers (p := p) n b).answer?_state
    cases hp : p.state.answer? with
    | none => simp [known, hp, Event.answer?]
    | some c => simp [known, hp]
  | ask next ih =>
    rw [recordRun] at h
    cases ha : asked p with
    | none => simp [ha] at h
    | some question =>
      cases hr : recordRun asked n (next question.answer) question.after with
      | none => simp [ha, hr] at h
      | some rest =>
        simp only [ha, hr] at h
        cases h
        have later := ih question.answer hr
        exact ⟨(questions p question ha).history.append later.history, later.known⟩

theorem tells_of_known {p : Probe} {b : Bool} (known : p.state.answer? = some b) :
    Record.Tells ⟨[⟨.returns b, p.state⟩], b, p⟩ p :=
  ⟨.single (.returns known), known⟩

/-- The record of a call tells its history. -/
theorem tells_record {script : Nat → Probing} {depth : Nat} {p : Probe} {r : Record}
    (h : record script depth p = some r) : r.Tells p := by
  induction depth generalizing p r with
  | zero =>
    rw [record, Option.map_eq_some_iff] at h
    obtain ⟨b, known, rfl⟩ := h
    exact tells_of_known known
  | succ depth ih =>
    rw [record] at h
    cases known : p.state.answer? with
    | some b =>
      rw [known] at h
      cases h
      exact tells_of_known known
    | none =>
      cases hr : recordRun (record script depth) p.started (script p.started)
          { p with started := p.started + 1 } with
      | none => simp [known, hr] at h
      | some run =>
        simp only [known, hr] at h
        cases h
        have starts :
            History p [⟨.starts p.started, p.state⟩] { p with started := p.started + 1 } :=
          .single (.starts (Capability.answer?_eq_none_iff.1 known))
        have tells := tells_recordRun (fun _ _ => ih) hr
        have returns := History.single (.returns tells.known)
        exact ⟨starts.append (tells.history.append returns), tells.known⟩

/-- What a caller gets is what is known afterwards. -/
theorem state_of_isAvailable {script : Nat → Probing} {depth : Nat} {p after : Probe} {b : Bool}
    (h : isAvailable script depth p = some (b, after)) : after.state = .ofAnswer b := by
  rw [← forget_record, Option.map_eq_some_iff] at h
  obtain ⟨r, hr, h⟩ := h
  cases h
  exact Capability.answer?_eq_some_iff.1 (tells_record hr).known

end Probe

end MessageDispatch
