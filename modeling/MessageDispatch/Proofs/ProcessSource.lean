import Mathlib.Data.Nat.Find
import Mathlib.Data.Nat.Init
import MessageDispatch.Proofs.Decorator

/-!
# The source of a process

Two things in a process are written once: the installed source, and what was probed of it. What a
run does with both depends on which comes first. A source installed before the first call that
probes is used by every process-wide decorator of the run, and a later one is used by none, although
the process finds it when asked for placeholders (`Operation.settlesOnce`). The argument is an
induction over the run: before the first installation the process is bare, and once either thing is
written the process has settled (`Installation.Settled`) and no operation moves it on.
-/

namespace MessageDispatch

namespace Installation

/-- No source is installed, and none was found. -/
structure Bare (s : Installation) : Prop where
  installed : s.installed = none
  verdict : s.verdict ≠ .available

/-- The process has settled on what its decorators use: the installed source, which no probe has
missed, or nothing, since a probe found nothing. -/
inductive Settled : Option PlaceholderSource → Installation → Prop where
  | inUse {source : PlaceholderSource} {verdict : Capability} (found : verdict ≠ .unavailable) :
      Settled (some source) ⟨some source, verdict⟩
  | missed {installed : Option PlaceholderSource} : Settled none ⟨installed, .unavailable⟩

variable {s : Installation} {source : PlaceholderSource} {used : Option PlaceholderSource}

theorem bare_start : start.Bare :=
  ⟨rfl, by decide⟩

theorem install_of_none (h : s.installed = none) :
    s.install source = (.ok (), { s with installed := some source }) := by
  rw [install, h]

theorem install_of_some {own : PlaceholderSource} (h : s.installed = some own) :
    s.install source = (.error .alreadyInstalled, s) := by
  rw [install, h]

/-- A probe of a bare process settles it on nothing. -/
theorem Bare.settled_probe (h : s.Bare) : Settled none s.probe.2 := by
  obtain ⟨installed, verdict⟩ := s
  obtain rfl : installed = none := h.installed
  cases verdict with
  | available => exact absurd rfl h.verdict
  | unknown => exact .missed
  | unavailable => exact .missed

theorem Bare.probe (h : s.Bare) : s.probe.2.Bare := by
  obtain ⟨installed, verdict⟩ := s
  obtain rfl : installed = none := h.installed
  cases verdict with
  | available => exact absurd rfl h.verdict
  | unknown => exact ⟨rfl, by decide⟩
  | unavailable => exact ⟨rfl, by decide⟩

theorem effective?_of_installed_eq_none (h : s.installed = none) : s.effective? = none := by
  simp [effective?, h]

theorem settled_install_start (source : PlaceholderSource) :
    Settled (some source) (start.install source).2 :=
  .inUse (by decide)

theorem Settled.install (h : s.Settled used) (source : PlaceholderSource) :
    (s.install source).2.Settled used := by
  cases h with
  | inUse found => exact .inUse found
  | @missed installed => cases installed <;> exact .missed

theorem Settled.probe (h : s.Settled used) : s.probe.2.Settled used := by
  cases h with
  | @inUse source verdict found =>
    cases verdict with
    | unavailable => exact absurd rfl found
    | unknown => exact @inUse _ .available (by decide)
    | available => exact .inUse (by decide)
  | missed => exact .missed

theorem Settled.effective? (h : s.Settled used) : s.effective? = used := by
  cases h with
  | @inUse source verdict found =>
    cases verdict with
    | unavailable => exact absurd rfl found
    | unknown => rfl
    | available => rfl
  | missed => rfl

end Installation

namespace ArgumentPolicy

/-- The policy installs no source. A custom policy leaves the process as it is, or has it probed. -/
def InstallsNothing : ArgumentPolicy → Prop
  | .positional _ => True
  | .named _ => True
  | .placeholders base _ => base.InstallsNothing
  | .custom adapt _ => ∀ c s, (adapt c s).2 = s ∨ (adapt c s).2 = s.probe.2

/-- The call has the process probed: it gets through to a process-wide decorator, that is to say the
method has a scope and the policy below the decorator succeeds. A custom policy tells by what it
leaves behind. -/
def Probes : ArgumentPolicy → Call → Installation → Prop
  | .positional _, _, _ => False
  | .named _, _, _ => False
  | .placeholders base b, c, s =>
    base.Probes c s ∨
      (b = .processWide ∧ c.method.scope? ≠ none ∧ ∃ inputs, (base.adapt c s).1 = .ok inputs)
  | .custom adapt _, c, s => (adapt c s).2 ≠ s

/-- What a call does to the process is to have it probed, if anything. -/
theorem state_adapt {p : ArgumentPolicy} (quiet : p.InstallsNothing) (c : Call)
    (s : Installation) :
    (p.Probes c s ∧ (p.adapt c s).2 = s.probe.2) ∨ (¬ p.Probes c s ∧ (p.adapt c s).2 = s) := by
  induction p with
  | positional p => exact .inr ⟨id, rfl⟩
  | named p => exact .inr ⟨id, rfl⟩
  | custom adapt accept =>
    by_cases same : (adapt c s).2 = s
    · exact .inr ⟨fun probes => probes same, same⟩
    · exact .inl ⟨same, (quiet c s).resolve_left same⟩
  | placeholders base b ih =>
    specialize ih quiet
    rcases hb : base.adapt c s with ⟨e | inputs, after⟩
    · have failed : (base.placeholders b).adapt c s = (.error e, after) :=
        adapt_decorated_error hb [b]
      simpa [Probes, hb, failed] using ih
    · cases hs : c.method.scope? with
      | none =>
        have unmarked : (base.placeholders b).adapt c s = (.ok inputs, after) :=
          adapt_decorated_unmarked hb hs [b]
        simpa [Probes, hb, hs, unmarked] using ih
      | some scope =>
        have marked : ((base.placeholders b).adapt c s).2 = b.ask after :=
          congrArg Prod.snd (adapt_decorated hb hs [b])
        replace ih : (base.Probes c s ∧ after = s.probe.2) ∨ (¬ base.Probes c s ∧ after = s) := by
          rwa [hb] at ih
        cases b with
        | explicit own => simpa [Probes, SourceBinding.ask, marked] using ih
        | processWide =>
          refine .inl ⟨.inr ⟨rfl, by simp [hs], inputs, by rw [hb]⟩, ?_⟩
          rw [marked, SourceBinding.ask]
          -- whether or not the policy below has already probed
          obtain ⟨-, rfl⟩ | ⟨-, rfl⟩ := ih
          · rw [Installation.probe_probe]
          · rfl

theorem effective?_adapt {p : ArgumentPolicy} (quiet : p.InstallsNothing) (c : Call)
    (s : Installation) : (p.adapt c s).2.effective? = s.effective? := by
  obtain ⟨-, h⟩ | ⟨-, h⟩ := state_adapt quiet c s
  · rw [h, Installation.effective?_probe]
  · rw [h]

theorem installsNothing_decorated (base : ArgumentPolicy) (bindings : List SourceBinding) :
    (base.decorated bindings).InstallsNothing ↔ base.InstallsNothing := by
  induction bindings generalizing base with
  | nil => rfl
  | cons b bindings ih => rw [decorated_cons, ih, InstallsNothing]

theorem Probes.decorated {base : ArgumentPolicy} {c : Call} {s : Installation}
    (h : base.Probes c s) (bindings : List SourceBinding) :
    (base.decorated bindings).Probes c s := by
  induction bindings generalizing base with
  | nil => exact h
  | cons b bindings ih => exact ih (Or.inl h)

/-- A call has the process probed if any of its decorators is process-wide, whichever it is. -/
theorem probes_of_processWide_mem {base : ArgumentPolicy} {c : Call} {s : Installation}
    {scope : Scope} (marked : c.method.scope? = some scope) {inputs : List Input}
    (ok : (base.adapt c s).1 = .ok inputs) {bindings : List SourceBinding}
    (h : .processWide ∈ bindings) : (base.decorated bindings).Probes c s := by
  induction bindings generalizing base inputs with
  | nil => cases h
  | cons b bindings ih =>
    rw [decorated_cons]
    obtain rfl | later := List.mem_cons.mp h
    · have probes : (base.placeholders .processWide).Probes c s :=
        Or.inr ⟨rfl, by simp [marked], inputs, ok⟩
      exact probes.decorated bindings
    · have hb : base.adapt c s = (.ok inputs, (base.adapt c s).2) := by rw [← ok]
      exact ih (congrArg Prod.fst (adapt_decorated hb marked [b])) later

/-- The bundles of explicit sources are their own affair. -/
theorem bundles_eq_of_processWide_not_mem {bindings : List SourceBinding}
    (h : .processWide ∉ bindings) (source other : Option PlaceholderSource) (scope : Scope) :
    SourceBinding.bundles source bindings scope = SourceBinding.bundles other bindings scope := by
  refine List.filterMap_congr fun b hb => ?_
  cases b with
  | processWide => exact absurd hb h
  | explicit own => rfl

end ArgumentPolicy

/-- An operation of a process on its source of placeholders. -/
inductive Operation where
  | install (source : PlaceholderSource)
  | placeholders (scope : Scope)
  | accept (policy : ArgumentPolicy) (m : Signature)
  | adapt (policy : ArgumentPolicy) (c : Call)

/-- What an operation returns. -/
inductive Operation.Answer where
  | installed (result : Except PlaceholderError Unit)
  | found (bundle : Option TagBundle)
  | accepted (result : Except ValidationError Unit)
  | adapted (result : Except InvocationError (List Input))

namespace Operation

/-- Performs an operation. -/
def perform : Operation → Installation → Answer × Installation
  | .install source, s => (.installed (s.install source).1, (s.install source).2)
  | .placeholders scope, s => (.found (s.placeholders scope), s)
  | .accept policy m, s => (.accepted (policy.accept m), s)
  | .adapt policy c, s => (.adapted (policy.adapt c s).1, (policy.adapt c s).2)

/-- The operation is a call that has the process probed. -/
def Probes : Operation → Installation → Prop
  | .adapt policy c, s => policy.Probes c s
  | _, _ => False

/-- What an operation can do to a process. -/
inductive Moves (s : Installation) : Operation → Installation → Prop where
  | install (source : PlaceholderSource) : Moves s (.install source) (s.install source).2
  | probe {o : Operation} (probes : o.Probes s) : Moves s o s.probe.2
  | stay {o : Operation} (no_install : ∀ source, o ≠ .install source) (unprobed : ¬ o.Probes s) :
      Moves s o s

theorem moves_perform {o : Operation}
    (quiet : ∀ policy c, o = .adapt policy c → policy.InstallsNothing) (s : Installation) :
    Moves s o (o.perform s).2 := by
  cases o with
  | install source => exact .install source
  | placeholders scope => exact .stay (by simp) id
  | accept policy m => exact .stay (by simp) id
  | adapt policy c =>
    change Moves s _ (policy.adapt c s).2
    obtain ⟨probes, h⟩ | ⟨probes, h⟩ := ArgumentPolicy.state_adapt (quiet policy c rfl) c s
    · rw [h]
      exact .probe probes
    · rw [h]
      exact .stay (by simp) probes

/-- The process after the first `k` operations of a run. -/
def stateAt (ops : List Operation) (k : Nat) : Installation :=
  (ops.take k).foldl (fun s o => (o.perform s).2) .start

/-- What the operation at place `k` of a run returns. -/
def answerAt? (ops : List Operation) (k : Nat) : Option Answer :=
  ops[k]?.map fun o => (o.perform (stateAt ops k)).1

/-- The operation at place `k` of a run installs a source, or tries to. -/
def Installs (ops : List Operation) (k : Nat) : Prop :=
  ∃ source, ops[k]? = some (.install source)

/-- The operation at place `k` of a run is a call that has the process probed. -/
def Probing (ops : List Operation) (k : Nat) : Prop :=
  ∃ o, ops[k]? = some o ∧ o.Probes (stateAt ops k)

/-- The first installation of a run is at place `k`. -/
structure FirstInstall (ops : List Operation) (k : Nat) (source : PlaceholderSource) : Prop where
  place : ops[k]? = some (.install source)
  first : ∀ j < k, ¬ Installs ops j

/-- The first installation of a run comes before all calls that have the process probed. -/
def InTime (ops : List Operation) (source : PlaceholderSource) : Prop :=
  ∃ k, FirstInstall ops k source ∧ ∀ j < k, ¬ Probing ops j

/-- Calls of methods with a scope that succeed below their decorators get the bundles of these, and
process-wide decorators use `source`, throughout a run. -/
def Uses (ops : List Operation) (source : Option PlaceholderSource) : Prop :=
  ∀ k base bindings c inputs scope,
    ops[k]? = some (.adapt (ArgumentPolicy.decorated base bindings) c) →
    c.method.scope? = some scope → (base.adapt c (stateAt ops k)).1 = .ok inputs →
    answerAt? ops k =
      some (.adapted (.ok (inputs ++ SourceBinding.bundles source bindings scope)))

/-- What a run does with the source of its process. -/
structure SettlesOnce (ops : List Operation) : Prop where
  -- installations
  accepted : ∀ {i source}, FirstInstall ops i source →
    answerAt? ops i = some (.installed (.ok ()))
  refused : ∀ {i source j}, FirstInstall ops i source → i < j → Installs ops j →
    answerAt? ops j = some (.installed (.error .alreadyInstalled)) ∧
      stateAt ops (j + 1) = stateAt ops j
  inForce : ∀ {i source k}, FirstInstall ops i source → i < k →
    (stateAt ops k).installed = some source
  -- requests for placeholders
  found : ∀ {i source k scope}, FirstInstall ops i source → i < k →
    ops[k]? = some (.placeholders scope) → answerAt? ops k = some (.found (some (source scope)))
  missing : ∀ {k scope}, (∀ j < k, ¬ Installs ops j) → ops[k]? = some (.placeholders scope) →
    answerAt? ops k = some (.found none)
  -- calls that have the process probed
  inTime : ∀ {source}, InTime ops source → Uses ops (some source)
  late : (∀ source, ¬ InTime ops source) → Uses ops none
  -- everything else
  idle : ∀ {k}, ¬ Installs ops k → ¬ Probing ops k → stateAt ops (k + 1) = stateAt ops k
  passed : ∀ {k base bindings c},
    ops[k]? = some (.adapt (ArgumentPolicy.decorated base bindings) c) →
    (c.method.scope? = none ∨ ∃ e, (base.adapt c (stateAt ops k)).1 = .error e) →
    answerAt? ops k = some (.adapted (base.adapt c (stateAt ops k)).1) ∧
      stateAt ops (k + 1) = (base.adapt c (stateAt ops k)).2
  own : ∀ {k base bindings c},
    ops[k]? = some (.adapt (ArgumentPolicy.decorated base bindings) c) →
    .processWide ∉ bindings → stateAt ops (k + 1) = (base.adapt c (stateAt ops k)).2

section Run

variable {ops : List Operation} {k n : Nat} {o : Operation}

theorem stateAt_succ (h : ops[k]? = some o) :
    stateAt ops (k + 1) = (o.perform (stateAt ops k)).2 := by
  rw [stateAt, List.take_add_one, h, Option.toList_some, List.foldl_append]
  rfl

theorem answerAt?_eq (h : ops[k]? = some o) :
    answerAt? ops k = some (o.perform (stateAt ops k)).1 := by
  simp [answerAt?, h]

theorem stateAt_succ_of_none (h : ops[k]? = none) : stateAt ops (k + 1) = stateAt ops k := by
  rw [stateAt, List.take_add_one, h, Option.toList_none, List.append_nil, ← stateAt]

/-- The first of some installations in a run. -/
theorem exists_firstInstall (h : Installs ops k) :
    ∃ i source, FirstInstall ops i source ∧ i ≤ k := by
  classical
  obtain ⟨source, place⟩ := Nat.find_spec (p := Installs ops) ⟨k, h⟩
  exact ⟨_, source, ⟨place, fun j hj => Nat.find_min _ hj⟩, Nat.find_min' _ h⟩

variable (quiet : ∀ policy c, Operation.adapt policy c ∈ ops → policy.InstallsNothing)
include quiet

theorem moves_stateAt (h : ops[k]? = some o) :
    Moves (stateAt ops k) o (stateAt ops (k + 1)) := by
  rw [stateAt_succ h]
  refine moves_perform (fun policy c ho => quiet policy c ?_) _
  rw [← ho]
  exact List.mem_of_getElem? h

/-- What holds at a place of a run, and is kept by each move from there on, holds later. -/
theorem along {motive : Installation → Prop} (first : motive (stateAt ops n))
    (step : ∀ j o s, n ≤ j → j < k → ops[j]? = some o → Moves (stateAt ops j) o s →
      motive (stateAt ops j) → motive s) (from_n : n ≤ k) : motive (stateAt ops k) := by
  induction k, from_n using Nat.le_induction with
  | base => exact first
  | succ k from_n ih =>
    have before := ih fun j o s from_j j_lt => step j o s from_j (Nat.lt_succ_of_lt j_lt)
    cases place : ops[k]? with
    | none => rwa [stateAt_succ_of_none place]
    | some o => exact step k o _ from_n k.lt_succ_self place (moves_stateAt quiet place) before

/-- Before the first installation, the process is bare. -/
theorem bare_stateAt (none_yet : ∀ j < k, ¬ Installs ops j) : (stateAt ops k).Bare := by
  refine along quiet (n := 0) Installation.bare_start ?_ k.zero_le
  intro j o s _ j_lt place move bare
  cases move with
  | install source => exact absurd ⟨source, place⟩ (none_yet j j_lt)
  | probe => exact bare.probe
  | stay => exact bare

/-- Before the first installation and the first probing call, nothing has happened. -/
theorem stateAt_eq_start (none_yet : ∀ j < k, ¬ Installs ops j)
    (unprobed : ∀ j < k, ¬ Probing ops j) : stateAt ops k = .start := by
  refine along quiet (n := 0) (motive := (· = .start)) rfl ?_ k.zero_le
  intro j o s _ j_lt place move start
  cases move with
  | install source => exact absurd ⟨source, place⟩ (none_yet j j_lt)
  | probe probes => exact absurd ⟨o, place, probes⟩ (unprobed j j_lt)
  | stay => exact start

/-- A process that has settled stays so. -/
theorem settled_stateAt {used : Option PlaceholderSource} (settled : (stateAt ops n).Settled used)
    (from_n : n ≤ k) : (stateAt ops k).Settled used := by
  refine along quiet settled ?_ from_n
  intro j o s _ _ _ move settled
  cases move with
  | install source => exact settled.install source
  | probe => exact settled.probe
  | stay => exact settled

/-- The first installation stands. -/
theorem FirstInstall.stateAt_succ_installed {i : Nat} {source : PlaceholderSource}
    (h : FirstInstall ops i source) :
    answerAt? ops i = some (.installed (.ok ())) ∧
      (stateAt ops (i + 1)).installed = some source := by
  have bare := bare_stateAt quiet h.first
  rw [answerAt?_eq h.place, stateAt_succ h.place, perform,
    Installation.install_of_none bare.installed]
  exact ⟨rfl, rfl⟩

theorem FirstInstall.installed_stateAt {i : Nat} {source : PlaceholderSource}
    (h : FirstInstall ops i source) (later : i < k) :
    (stateAt ops k).installed = some source := by
  refine along quiet (motive := fun s => s.installed = some source)
    (h.stateAt_succ_installed quiet).2 ?_ later
  intro j o s _ _ _ move stands
  cases move with
  | install other => rwa [Installation.install_of_some stands]
  | probe => rwa [Installation.installed_probe]
  | stay => exact stands

/-- A source is used throughout if every probing call finds it to be the one in effect. -/
theorem uses_of_effective? {used : Option PlaceholderSource}
    (effective : ∀ k, Probing ops k → (stateAt ops k).effective? = used) :
    Uses ops used := by
  intro k base bindings c inputs scope place marked ok
  have base_quiet : base.InstallsNothing :=
    (base.installsNothing_decorated bindings).mp (quiet _ _ (List.mem_of_getElem? place))
  have hb : base.adapt c (stateAt ops k) = (.ok inputs, (base.adapt c (stateAt ops k)).2) := by
    rw [← ok]
  rw [answerAt?_eq place, perform, ArgumentPolicy.adapt_decorated hb marked,
    ArgumentPolicy.effective?_adapt base_quiet]
  by_cases wide : .processWide ∈ bindings
  · rw [effective k
      ⟨_, place, ArgumentPolicy.probes_of_processWide_mem marked ok wide⟩]
  · rw [ArgumentPolicy.bundles_eq_of_processWide_not_mem wide]

/-- A source that is installed in time is used by every call that probes. -/
theorem InTime.uses {source : PlaceholderSource} (h : InTime ops source) :
    Uses ops (some source) := by
  obtain ⟨i, install, unprobed⟩ := h
  refine uses_of_effective? quiet fun k probing => ?_
  have settled : (stateAt ops (i + 1)).Settled (some source) := by
    rw [stateAt_succ install.place, stateAt_eq_start quiet install.first unprobed]
    exact Installation.settled_install_start source
  have later : i < k := by
    rcases Nat.lt_trichotomy i k with later | rfl | earlier
    · exact later
    · obtain ⟨o, place, probes⟩ := probing
      rw [install.place] at place
      cases place
      exact probes.elim
    · exact absurd probing (unprobed k earlier)
  exact (settled_stateAt quiet settled later).effective?

/-- A call that probes a bare process settles it on nothing. -/
theorem Probing.settled {j : Nat} (h : Probing ops j) (none_yet : ∀ i < j, ¬ Installs ops i) :
    (stateAt ops (j + 1)).Settled none := by
  obtain ⟨o, place, probes⟩ := h
  have bare := bare_stateAt quiet none_yet
  have move := moves_stateAt quiet place
  generalize stateAt ops (j + 1) = after at move ⊢
  cases move with
  | install source => exact probes.elim
  | probe => exact bare.settled_probe
  | stay _ unprobed => exact absurd probes unprobed

/-- If no source is installed in time, no call that probes uses one. -/
theorem uses_none_of_late (late : ∀ source, ¬ InTime ops source) : Uses ops none := by
  refine uses_of_effective? quiet fun k _ => ?_
  by_cases any : ∃ j < k, Installs ops j
  · obtain ⟨j, j_lt, installs⟩ := any
    obtain ⟨i, source, install, i_le⟩ := exists_firstInstall installs
    -- some call before the first installation probed
    have too_late : ∃ n < i, Probing ops n := by
      by_contra none_probes
      exact late source ⟨i, install, fun n hn probing => none_probes ⟨n, hn, probing⟩⟩
    obtain ⟨n, n_lt, probing⟩ := too_late
    have settled := probing.settled quiet fun m hm => install.first m (Nat.lt_trans hm n_lt)
    exact (settled_stateAt quiet settled (by omega)).effective?
  · have bare := bare_stateAt quiet fun j hj installs => any ⟨j, hj, installs⟩
    exact Installation.effective?_of_installed_eq_none bare.installed

/-- An operation that neither installs nor has the process probed leaves it alone. -/
theorem stateAt_succ_of_idle (no_install : ¬ Installs ops k) (no_probe : ¬ Probing ops k) :
    stateAt ops (k + 1) = stateAt ops k := by
  cases place : ops[k]? with
  | none => exact stateAt_succ_of_none place
  | some o =>
    have move := moves_stateAt quiet place
    generalize stateAt ops (k + 1) = after at move ⊢
    cases move with
    | install source => exact absurd ⟨source, place⟩ no_install
    | probe probes => exact absurd ⟨o, place, probes⟩ no_probe
    | stay => rfl

end Run

/-- A call of a method without a scope, or one that fails below its decorators, is what it is
without them. -/
theorem perform_decorated_of_idle {base : ArgumentPolicy} {c : Call} {s : Installation}
    (idle : c.method.scope? = none ∨ ∃ e, (base.adapt c s).1 = .error e)
    (bindings : List SourceBinding) :
    perform (.adapt (base.decorated bindings) c) s = perform (.adapt base c) s := by
  have same : (base.decorated bindings).adapt c s = base.adapt c s := by
    rcases hb : base.adapt c s with ⟨e | inputs, after⟩
    · exact ArgumentPolicy.adapt_decorated_error hb bindings
    · obtain unmarked | ⟨e, he⟩ := idle
      · exact ArgumentPolicy.adapt_decorated_unmarked hb unmarked bindings
      · rw [hb] at he
        cases he
  rw [perform, perform, same]

/-- **The source of a process settles once.** Only the first installation of a run succeeds, and it
stands. If it comes before every call that has the process probed, all such calls use its source;
otherwise none of them uses any, although the process finds the source when asked for placeholders.
Nothing but these two kinds of operations changes the process. -/
theorem settlesOnce (ops : List Operation)
    (quiet : ∀ policy c, .adapt policy c ∈ ops → policy.InstallsNothing) : SettlesOnce ops where
  accepted h := (h.stateAt_succ_installed quiet).1
  refused := by
    rintro i source j first later ⟨other, place⟩
    have stands : (stateAt ops j).install other = (.error .alreadyInstalled, stateAt ops j) :=
      Installation.install_of_some (first.installed_stateAt quiet later)
    rw [answerAt?_eq place, stateAt_succ place, perform, stands]
    exact ⟨rfl, rfl⟩
  inForce h later := h.installed_stateAt quiet later
  found := by
    intro i source k scope first later place
    rw [answerAt?_eq place, perform, Installation.placeholders,
      first.installed_stateAt quiet later]
    rfl
  missing := by
    intro k scope none_yet place
    rw [answerAt?_eq place, perform, Installation.placeholders,
      (bare_stateAt quiet none_yet).installed]
    rfl
  inTime h := h.uses quiet
  late h := uses_none_of_late quiet h
  idle := stateAt_succ_of_idle quiet
  passed := by
    intro k base bindings c place idle
    rw [answerAt?_eq place, stateAt_succ place, perform_decorated_of_idle idle]
    exact ⟨rfl, rfl⟩
  own := by
    intro k base bindings c place own
    rw [stateAt_succ place, perform, ArgumentPolicy.state_adapt_decorated own]

/-- The status of a player, with the placeholders of the process. -/
def withStatus : ArgumentPolicy :=
  (ArgumentPolicy.named ⟨.standard, .declared⟩).placeholders .processWide

/-- A call asks for placeholders before a source is there, and again afterwards. -/
def askedEarly : List Operation :=
  [.accept withStatus ArgumentPolicy.markedStatus,
    .adapt withStatus ArgumentPolicy.statusOfAda,
    .install ArgumentPolicy.labelSource,
    .adapt withStatus ArgumentPolicy.statusOfAda,
    .placeholders .audience,
    .install fun _ => .empty]

theorem askedEarly_settlesOnce :
    answerAt? askedEarly 2 = some (.installed (.ok ())) ∧
    answerAt? askedEarly 3 = some (.adapted (.ok [.named "player" (.component (.literal "Ada"))])) ∧
    answerAt? askedEarly 4 = some (.found (some (ArgumentPolicy.labelSource .audience))) ∧
    answerAt? askedEarly 5 = some (.installed (.error .alreadyInstalled)) := by
  have run : SettlesOnce askedEarly := by
    refine settlesOnce askedEarly fun policy c h => ?_
    have wide : policy = withStatus := by
      simp only [askedEarly, List.mem_cons, reduceCtorEq, Operation.adapt.injEq, List.not_mem_nil,
        or_false, false_or] at h
      obtain ⟨rfl, -⟩ | ⟨rfl, -⟩ := h <;> rfl
    rw [wide]
    exact trivial
  have first : FirstInstall askedEarly 2 ArgumentPolicy.labelSource := by
    refine ⟨rfl, ?_⟩
    rintro (_ | _ | j) hj ⟨source, place⟩
    · cases place
    · cases place
    · omega
  have probing : Probing askedEarly 1 :=
    ⟨_, rfl, Or.inr ⟨rfl, by decide, _, rfl⟩⟩
  have late : ∀ source, ¬ InTime askedEarly source := by
    rintro source ⟨_ | _ | k, install, unprobed⟩
    · cases install.place
    · cases install.place
    · exact unprobed 1 (by omega) probing
  refine ⟨run.accepted first, ?_, run.found first (by decide) rfl,
    (run.refused first (by decide) ⟨_, rfl⟩).1⟩
  exact run.late late 3 (.named ⟨.standard, .declared⟩) [.processWide]
    ArgumentPolicy.statusOfAda [.named "player" (.component (.literal "Ada"))] .global rfl rfl rfl

end Operation

end MessageDispatch
