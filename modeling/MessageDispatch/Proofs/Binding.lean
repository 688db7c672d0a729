import MessageDispatch.Proofs.BuiltIn
import MessageDispatch.Proofs.Table

/-!
# What is reported of binding

A check goes through the methods of a contract in order and stops at the first message method that a
policy rejects. Its tally counts the methods before that one, or all methods if there is none
(`Configuration.checked`). What binding returns, what validation returns and what the event says all
come from this check, so they agree attempt by attempt (`Attempt.reported`), and a sink that is
shared by a run of attempts has one event for each, in order (`Dispatcher.bindAll_reported`).
-/

namespace MessageDispatch

/-- The tally after more methods were gone through. -/
def Tally.through (t : Tally) (ms : List Method) : Tally :=
  ⟨t.messages + ms.countP (·.isMessage), t.skipped + ms.countP (!·.isMessage)⟩

@[simp] theorem Tally.through_nil (t : Tally) : t.through [] = t := by
  simp [through]

/-- A message method is counted as one. -/
theorem Tally.through_cons_message (t : Tally) {m : Method} (hm : m.isMessage = true)
    (ms : List Method) :
    t.through (m :: ms) = ({ t with messages := t.messages + 1 } : Tally).through ms := by
  simp only [through, List.countP_cons, hm, Tally.mk.injEq]
  constructor
  · simp only [if_true]
    omega
  · simp

/-- Any other method is counted as skipped. -/
theorem Tally.through_cons_other (t : Tally) {m : Method} (hm : m.isMessage = false)
    (ms : List Method) :
    t.through (m :: ms) = ({ t with skipped := t.skipped + 1 } : Tally).through ms := by
  simp only [through, List.countP_cons, hm, Tally.mk.injEq]
  constructor
  · simp
  · simp only [Bool.not_false, if_true]
    omega

namespace Configuration

/-- All policies accept the method. -/
structure Accepts (cfg : Configuration) (m : Signature) : Prop where
  keys : cfg.keys.accept m = .ok ()
  arguments : cfg.arguments.accept m = .ok ()
  results : cfg.results.accept m = .ok ()

/-- The error of the first policy that rejects the method, of keys, arguments and results in this
order. -/
inductive Rejects (cfg : Configuration) (m : Signature) (e : ValidationError) : Prop where
  | keys (rejected : cfg.keys.accept m = .error e)
  | arguments (keys : cfg.keys.accept m = .ok ()) (rejected : cfg.arguments.accept m = .error e)
  | results (keys : cfg.keys.accept m = .ok ()) (arguments : cfg.arguments.accept m = .ok ())
      (rejected : cfg.results.accept m = .error e)

/-- Of the methods, `m` is the first message method that a policy rejects. -/
structure TurnsDown (cfg : Configuration) (ms before : List Method) (m : Method)
    (e : ValidationError) : Prop where
  place : ∃ after, ms = before ++ m :: after
  message : m.isMessage = true
  earlier : ∀ n ∈ before, n.isMessage = true → cfg.Accepts n.signature
  rejected : cfg.Rejects m.signature e

/-- How a check can end that started from a tally: it passes, with all methods counted, or it stops,
with the methods counted that come before the rejected one. -/
inductive Checked (cfg : Configuration) (t : Tally) (ms : List Method) :
    Tally × Except ValidationError Unit → Prop where
  | passes (all : ∀ m ∈ ms, m.isMessage = true → cfg.Accepts m.signature) :
      Checked cfg t ms (t.through ms, .ok ())
  | stops {before : List Method} {m : Method} {e : ValidationError}
      (down : cfg.TurnsDown ms before m e) : Checked cfg t ms (t.through before, .error e)

variable {cfg : Configuration}

theorem accepts_iff {m : Signature} : cfg.Accepts m ↔ cfg.accept m = .ok () := by
  rw [accept_eq_ok_iff]
  constructor
  · intro h
    exact ⟨h.keys, h.arguments, h.results⟩
  · rintro ⟨hk, ha, hr⟩
    exact ⟨hk, ha, hr⟩

theorem rejects_of_accept {m : Signature} {e : ValidationError} (h : cfg.accept m = .error e) :
    cfg.Rejects m e := by
  unfold accept at h
  cases hk : cfg.keys.accept m with
  | error f =>
    rw [hk] at h
    cases h
    exact .keys hk
  | ok =>
    rw [hk] at h
    cases ha : cfg.arguments.accept m with
    | error f =>
      rw [ha] at h
      cases h
      exact .arguments hk ha
    | ok =>
      rw [ha] at h
      exact .results hk ha h

/-- A rejected method is not accepted. -/
theorem Rejects.not_accepts {m : Signature} {e : ValidationError} (h : cfg.Rejects m e) :
    ¬ cfg.Accepts m := by
  intro accepted
  cases h with
  | keys rejected => rw [accepted.keys] at rejected; cases rejected
  | arguments _ rejected => rw [accepted.arguments] at rejected; cases rejected
  | results _ _ rejected => rw [accepted.results] at rejected; cases rejected

/-- A method that is passed over or accepted is counted, and the check goes on after it. -/
theorem Checked.cons {t u : Tally} {m : Method} {ms : List Method}
    {r : Tally × Except ValidationError Unit} (h : cfg.Checked u ms r)
    (counted : ∀ ns, u.through ns = t.through (m :: ns))
    (passed : m.isMessage = true → cfg.Accepts m.signature) : cfg.Checked t (m :: ms) r := by
  cases h with
  | passes all =>
    rw [counted]
    refine .passes ?_
    rintro n (_ | ⟨_, hn⟩)
    · exact passed
    · exact all n hn
  | @stops before n e down =>
    obtain ⟨after, place⟩ := down.place
    rw [counted]
    refine .stops ⟨⟨after, by rw [place]; rfl⟩, down.message, ?_, down.rejected⟩
    rintro k (_ | ⟨_, hk⟩)
    · exact passed
    · exact down.earlier k hk

/-- The loop of the check. -/
theorem checked (cfg : Configuration) (t : Tally) (ms : List Method) :
    cfg.Checked t ms (cfg.checkFrom t ms) := by
  induction ms generalizing t with
  | nil =>
    have h : cfg.Checked t [] (t.through [], .ok ()) := .passes (by simp)
    rwa [t.through_nil] at h
  | cons m ms ih =>
    rw [checkFrom]
    cases hm : m.isMessage with
    | false =>
      exact (ih _).cons (fun ns => (t.through_cons_other hm ns).symm) (by simp [hm])
    | true =>
      cases ha : cfg.accept m.signature with
      | ok =>
        exact (ih _).cons (fun ns => (t.through_cons_message hm ns).symm)
          fun _ => accepts_iff.2 ha
      | error e =>
        have h : cfg.Checked t (m :: ms) (t.through [], .error e) :=
          .stops ⟨⟨ms, rfl⟩, hm, by simp, rejects_of_accept ha⟩
        rwa [t.through_nil] at h

end Configuration

/-- An attempt to bind a contract: when, which one, with which policies, and at which address. -/
structure Attempt where
  timestamp : Nat
  contract : Contract
  configuration : Configuration
  address : UInt64

/-- What the outcome of an attempt and its event have to be. -/
structure Attempt.Reported (a : Attempt) (outcome : Except ValidationError Dispatcher)
    (event : BindingEvent) : Prop where
  timestamp : event.timestamp = a.timestamp
  contract : event.contract = a.contract.name
  /-- Validation alone gives the tally of the event, or the same error. -/
  validated : a.configuration.validate a.contract = outcome.map fun _ => event.tally
  /-- Binding without a sink, at whatever address, succeeds too or gives the same error. -/
  unaudited : ∀ address,
    failure? (Dispatcher.bind a.contract a.configuration address) = failure? outcome
  accepted : (∃ d, outcome = .ok d) ↔
    ∀ m ∈ a.contract.methods, m.isMessage = true → a.configuration.Accepts m.signature
  bound : ∀ d, outcome = .ok d →
    event.outcome = "bound" ∧
      event.tally.messages = a.contract.methods.countP (·.isMessage) ∧
      event.tally.skipped = a.contract.methods.countP (!·.isMessage) ∧
      event.errorCode? = none ∧ event.errorText? = none
  rejected : ∀ e, outcome = .error e → ∃ before m,
    a.configuration.TurnsDown a.contract.methods before m e ∧
      event.outcome = "rejected" ∧
      event.tally.messages = before.countP (·.isMessage) ∧
      event.tally.skipped = before.countP (!·.isMessage) ∧
      event.errorCode? = some e.code ∧ event.errorText? = some e.message

/-- The outcome and the event of one attempt. -/
theorem Attempt.reported (a : Attempt) :
    a.Reported (Dispatcher.bind a.contract a.configuration a.address)
      (.ofCheck a.timestamp a.configuration a.contract) := by
  have checked := a.configuration.checked ⟨0, 0⟩ a.contract.methods
  change a.configuration.Checked _ _ (a.configuration.check a.contract) at checked
  generalize hr : a.configuration.check a.contract = r at checked
  cases checked with
  | passes all =>
    have hbind : ∀ address, Dispatcher.bind a.contract a.configuration address =
        .ok (Dispatcher.layOut a.contract a.configuration address) := by
      intro address
      rw [Dispatcher.bind, hr]
    have hevent : BindingEvent.ofCheck a.timestamp a.configuration a.contract =
        ⟨a.timestamp, a.contract.name, Tally.through ⟨0, 0⟩ a.contract.methods, none⟩ := by
      rw [BindingEvent.ofCheck, hr]
    rw [hbind, hevent]
    refine ⟨rfl, rfl, ?_, ?_, ?_, ?_, ?_⟩
    · rw [Configuration.validate, hr]
      rfl
    · intro address
      rw [hbind]
      rfl
    · exact ⟨fun _ => all, fun _ => ⟨_, rfl⟩⟩
    · intro d _
      exact ⟨rfl, Nat.zero_add _, Nat.zero_add _, rfl, rfl⟩
    · intro e h
      cases h
  | @stops before m e down =>
    have hbind : ∀ address, Dispatcher.bind a.contract a.configuration address = .error e := by
      intro address
      rw [Dispatcher.bind, hr]
    have hevent : BindingEvent.ofCheck a.timestamp a.configuration a.contract =
        ⟨a.timestamp, a.contract.name, Tally.through ⟨0, 0⟩ before, some e⟩ := by
      rw [BindingEvent.ofCheck, hr]
    rw [hbind, hevent]
    refine ⟨rfl, rfl, ?_, ?_, ?_, ?_, ?_⟩
    · rw [Configuration.validate, hr]
      rfl
    · intro address
      rw [hbind]
    · constructor
      · rintro ⟨d, h⟩
        cases h
      · intro all
        obtain ⟨after, place⟩ := down.place
        have hm : m ∈ a.contract.methods := by simp [place]
        exact absurd (all m hm down.message) down.rejected.not_accepts
    · intro d h
      cases h
    · intro f h
      cases h
      exact ⟨before, m, down, rfl, Nat.zero_add _, Nat.zero_add _, rfl, rfl⟩

namespace Dispatcher

/-- Makes one attempt after another, all with one sink; the outcomes come in the same order. -/
def bindAll (sink : MemorySink) :
    List Attempt → List (Except ValidationError Dispatcher) × MemorySink
  | [] => ([], sink)
  | a :: rest =>
    match bindInto sink a.timestamp a.contract a.configuration a.address with
    | (outcome, sink) =>
      match bindAll sink rest with
      | (outcomes, sink) => (outcome :: outcomes, sink)

/-- An attempt adds its event to the sink. -/
theorem bindInto_eq (sink : MemorySink) (a : Attempt) :
    bindInto sink a.timestamp a.contract a.configuration a.address =
      (bind a.contract a.configuration a.address,
        sink.record (.ofCheck a.timestamp a.configuration a.contract)) :=
  rfl

/-- **Binding, validation and audit agree.** A run of attempts with one sink gives one outcome and
one event for each attempt, in order, and these are what the attempt alone gives. -/
theorem bindAll_reported (sink : MemorySink) (attempts : List Attempt) :
    ∃ events, (bindAll sink attempts).2.events = sink.events ++ events ∧
      events.length = attempts.length ∧
      (bindAll sink attempts).1.length = attempts.length ∧
      ∀ (i : Nat) (a : Attempt), attempts[i]? = some a → ∃ outcome event,
        (bindAll sink attempts).1[i]? = some outcome ∧ events[i]? = some event ∧
          a.Reported outcome event := by
  induction attempts generalizing sink with
  | nil => exact ⟨[], by simp [bindAll], rfl, rfl, by simp⟩
  | cons a rest ih =>
    let event := BindingEvent.ofCheck a.timestamp a.configuration a.contract
    obtain ⟨events, kept, count, outcomes, reported⟩ := ih (sink.record event)
    rw [bindAll, bindInto_eq]
    refine ⟨event :: events, ?_, by simp [count], by simp [event, outcomes], ?_⟩
    · simp only [event, MemorySink.record] at kept ⊢
      simp [kept]
    · intro i b hb
      cases i with
      | zero =>
        obtain rfl : a = b := by simpa using hb
        exact ⟨_, event, rfl, rfl, a.reported⟩
      | succ i =>
        rw [List.getElem?_cons_succ] at hb
        exact reported i b hb

end Dispatcher

end MessageDispatch
