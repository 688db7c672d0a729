import MessageDispatch.Proofs.NamedPlaces

/-!
# Parameter lists of named methods

The named policy goes through the parameters of a method once and stops at the first that it cannot
take. What it accepts is nevertheless a condition on the whole list that does not look at the order
(`NamedArguments.WellFormed`). The two meet in `claimsBefore`: the claims of the run at a position
are those of the parameters before it, so what is wrong with the parameter there (`Offends`) can be
said by these, and a list that is well formed stays so under one more parameter exactly when nothing
is wrong with that (`wellFormed_concat_iff`).
-/

namespace MessageDispatch.NamedArguments

variable {p : NamedArguments} {method : String} {earlier : List Parameter} {i : Nat} {q : Parameter}

/-- The policy has a use for the parameter. -/
def Routable (p : NamedArguments) (q : Parameter) : Prop :=
  p.adapter.supports q.type = true ∨ q.type = .tag ∨ q.type = .tagBundle ∨ q.isTarget = true

/-- The parameter has to have a name: the adapter supports its type, or it is a tag. -/
def NeedsName (p : NamedArguments) (q : Parameter) : Prop :=
  p.adapter.supports q.type = true ∨ q.type = .tag

/-- The parameter can be the target, and can be nothing else. -/
def OnlyTarget (p : NamedArguments) (q : Parameter) : Prop :=
  q.isTarget = true ∧ p.adapter.supports q.type = false ∧ q.type ≠ .tag ∧ q.type ≠ .tagBundle

instance (p : NamedArguments) (q : Parameter) : Decidable (p.Routable q) :=
  inferInstanceAs (Decidable (_ ∨ _))

instance (p : NamedArguments) (q : Parameter) : Decidable (p.NeedsName q) :=
  inferInstanceAs (Decidable (_ ∨ _))

instance (p : NamedArguments) (q : Parameter) : Decidable (p.OnlyTarget q) :=
  inferInstanceAs (Decidable (_ ∧ _))

/-- The parameters can be served together: there is a use for each, those that have to have names
have different ones, and at most one of them can only be the target. -/
structure WellFormed (p : NamedArguments) (qs : List Parameter) : Prop where
  routable : ∀ q ∈ qs, p.Routable q
  named : ∀ q ∈ qs, p.NeedsName q → p.naming.resolve q ≠ none
  distinct : ((qs.filter fun q => p.NeedsName q).map p.naming.resolve).Nodup
  oneTarget : (qs.countP fun q => p.OnlyTarget q) ≤ 1

/-- What is wrong with the parameter at a position after earlier ones. -/
inductive Offends (p : NamedArguments) (method : String) (earlier : List Parameter) (i : Nat)
    (q : Parameter) : ValidationError → Prop where
  | unsupported (unknown : ¬ p.Routable q) :
      Offends p method earlier i q (.unsupportedParameter method i q.type)
  | unnamed (needs : p.NeedsName q) (unresolved : p.naming.resolve q = none) :
      Offends p method earlier i q (.unresolvableName method i q.label)
  | repeated {name : String} (needs : p.NeedsName q) (resolved : p.naming.resolve q = some name)
      (taken : ∃ r ∈ earlier, p.NeedsName r ∧ p.naming.resolve r = some name) :
      Offends p method earlier i q (.duplicateName method name)
  | secondTarget (only : p.OnlyTarget q) (first : ∃ r ∈ earlier, p.OnlyTarget r) :
      Offends p method earlier i q (.multipleTargets method)

theorem route?_eq_none_iff : p.route? q = none ↔ ¬ p.Routable q := by
  unfold route? Routable
  split_ifs <;> simp_all

theorem takesName_iff : p.TakesName q ↔ p.NeedsName q := by
  unfold TakesName route? NeedsName
  split_ifs <;> simp_all

theorem route?_eq_target_iff : p.route? q = some .target ↔ p.OnlyTarget q := by
  unfold route? OnlyTarget
  split_ifs <;> simp_all

/-- What the parameters before a position claim. -/
def claimsBefore (p : NamedArguments) (earlier : List Parameter) : Claims where
  names := (earlier.filterMap p.name?).reverse
  target := earlier.any p.takesTarget

theorem mem_names_claimsBefore {name : String} :
    name ∈ (p.claimsBefore earlier).names ↔
      ∃ r ∈ earlier, p.NeedsName r ∧ p.naming.resolve r = some name := by
  simp [claimsBefore, name?, takesName_iff]

theorem target_claimsBefore :
    (p.claimsBefore earlier).target = true ↔ ∃ r ∈ earlier, p.OnlyTarget r := by
  simp [claimsBefore, takesTarget_iff, route?_eq_target_iff]

/-- One more parameter adds its name to the claims, and its target. -/
theorem claimsBefore_concat (p : NamedArguments) (earlier : List Parameter) (q : Parameter) :
    p.claimsBefore (earlier ++ [q]) =
      ⟨(p.name? q).toList ++ (p.claimsBefore earlier).names,
        (p.claimsBefore earlier).target || p.takesTarget q⟩ := by
  cases hn : p.name? q <;> simp [claimsBefore, hn]

/-- A parameter either is rejected for what is wrong with it, or becomes one of the earlier ones. -/
theorem acceptParameter_claimsBefore (p : NamedArguments) (method : String)
    (earlier : List Parameter) (i : Nat) (q : Parameter) :
    (∃ e, p.Offends method earlier i q e ∧
        p.acceptParameter method (p.claimsBefore earlier) i q = .error e) ∨
      p.acceptParameter method (p.claimsBefore earlier) i q =
        .ok (p.claimsBefore (earlier ++ [q])) := by
  rw [claimsBefore_concat]
  obtain hr | hr | hr | hr := p.route_cases q
  · exact .inl ⟨_, .unsupported (route?_eq_none_iff.1 hr), by simp [acceptParameter, hr]⟩
  · have needs := takesName_iff.1 hr
    rw [hr.acceptParameter, acceptName, name?_of_takesName hr, hr.not_target]
    cases hn : p.naming.resolve q with
    | none => exact .inl ⟨_, .unnamed needs hn, rfl⟩
    | some name =>
      by_cases taken : name ∈ (p.claimsBefore earlier).names
      · exact .inl ⟨_, .repeated needs hn (mem_names_claimsBefore.1 taken), by simp [taken]⟩
      · exact .inr (by simp [taken])
  · have noTarget : p.takesTarget q = false := by simp [takesTarget, hr]
    exact .inr (by simp [acceptParameter, name?, TakesName, hr, noTarget])
  · by_cases seen : (p.claimsBefore earlier).target = true
    · have first := target_claimsBefore.1 seen
      exact .inl ⟨_, .secondTarget (route?_eq_target_iff.1 hr) first,
        by simp [acceptParameter, hr, seen]⟩
    · exact .inr (by simp [acceptParameter, name?, TakesName, takesTarget, hr, seen])

/-- A parameter is rejected after earlier ones if something is wrong with it. -/
theorem acceptParameter_eq_error_iff {e : ValidationError} :
    p.acceptParameter method (p.claimsBefore earlier) i q = .error e ↔
      p.Offends method earlier i q e := by
  constructor
  · intro h
    obtain ⟨f, offends, rejected⟩ | accepted := p.acceptParameter_claimsBefore method earlier i q
    · cases h.symm.trans rejected
      exact offends
    · cases h.symm.trans accepted
  · intro h
    cases h with
    | unsupported unknown => simp [acceptParameter, route?_eq_none_iff.2 unknown]
    | unnamed needs unresolved =>
      simp [(takesName_iff.2 needs).acceptParameter, acceptName, unresolved]
    | repeated needs resolved taken =>
      simp [(takesName_iff.2 needs).acceptParameter, acceptName, resolved,
        mem_names_claimsBefore.2 taken]
    | secondTarget only first =>
      simp [acceptParameter, route?_eq_target_iff.2 only, target_claimsBefore.2 first]

/-- After a parameter that is accepted, it is one of the earlier ones. -/
theorem claimsBefore_of_acceptParameter {after : Claims}
    (h : p.acceptParameter method (p.claimsBefore earlier) i q = .ok after) :
    after = p.claimsBefore (earlier ++ [q]) := by
  obtain ⟨e, -, rejected⟩ | accepted := p.acceptParameter_claimsBefore method earlier i q
  · cases h.symm.trans rejected
  · exact Except.ok.inj (h.symm.trans accepted)

theorem not_offends_of_acceptParameter {after : Claims}
    (h : p.acceptParameter method (p.claimsBefore earlier) i q = .ok after) (e : ValidationError) :
    ¬ p.Offends method earlier i q e := by
  intro offends
  rw [acceptParameter_eq_error_iff.2 offends] at h
  cases h

theorem wellFormed_nil (p : NamedArguments) : p.WellFormed [] :=
  ⟨by simp, by simp, by simp, by simp⟩

theorem WellFormed.sublist {qs rs : List Parameter} (h : p.WellFormed qs) (hs : rs.Sublist qs) :
    p.WellFormed rs where
  routable q hq := h.routable q (hs.mem hq)
  named q hq := h.named q (hs.mem hq)
  distinct := h.distinct.sublist ((hs.filter _).map _)
  oneTarget := (hs.countP_le).trans h.oneTarget

theorem WellFormed.perm {qs rs : List Parameter} (h : p.WellFormed qs) (hp : qs.Perm rs) :
    p.WellFormed rs where
  routable q hq := h.routable q (hp.mem_iff.2 hq)
  named q hq := h.named q (hp.mem_iff.2 hq)
  distinct := ((hp.filter _).map _).nodup_iff.1 h.distinct
  oneTarget := hp.countP_eq _ ▸ h.oneTarget

/-- Nothing is wrong with the last parameter of a list that is well formed. -/
theorem WellFormed.not_offends (h : p.WellFormed (earlier ++ [q])) (e : ValidationError) :
    ¬ p.Offends method earlier i q e := by
  intro offends
  have last : q ∈ earlier ++ [q] := by simp
  cases offends with
  | unsupported unknown => exact unknown (h.routable q last)
  | unnamed needs unresolved => exact h.named q last needs unresolved
  | repeated needs resolved taken =>
    obtain ⟨r, hr, needs', resolved'⟩ := taken
    have distinct := h.distinct
    rw [List.filter_append, List.map_append, List.nodup_append] at distinct
    refine distinct.2.2 (p.naming.resolve r) ?_ (p.naming.resolve q) ?_
      (resolved'.trans resolved.symm)
    · exact List.mem_map_of_mem (List.mem_filter.2 ⟨hr, decide_eq_true needs'⟩)
    · simp [needs]
  | secondTarget only first =>
    obtain ⟨r, hr, only'⟩ := first
    have positive : 0 < earlier.countP fun q => p.OnlyTarget q :=
      List.countP_pos_iff.2 ⟨r, hr, decide_eq_true only'⟩
    have atMostOne := h.oneTarget
    simp only [List.countP_append, List.countP_singleton, only, decide_true, if_true] at atMostOne
    omega

/-- A parameter with which nothing is wrong may come after a list that is well formed. -/
theorem WellFormed.concat (h : p.WellFormed earlier)
    (fine : ∀ e, ¬ p.Offends method earlier i q e) : p.WellFormed (earlier ++ [q]) where
  routable r hr := by
    obtain hr | hr := List.mem_append.1 hr
    · exact h.routable r hr
    · obtain rfl := List.mem_singleton.1 hr
      exact Decidable.not_not.1 fun unknown => fine _ (.unsupported unknown)
  named r hr needs := by
    obtain hr | hr := List.mem_append.1 hr
    · exact h.named r hr needs
    · obtain rfl := List.mem_singleton.1 hr
      exact fun unresolved => fine _ (.unnamed needs unresolved)
  distinct := by
    by_cases needs : p.NeedsName q
    · obtain ⟨name, resolved⟩ : ∃ name, p.naming.resolve q = some name :=
        Option.ne_none_iff_exists'.1 fun unresolved => fine _ (.unnamed needs unresolved)
      have fresh : some name ∉ (earlier.filter fun q => p.NeedsName q).map p.naming.resolve := by
        intro taken
        obtain ⟨r, hr, resolved'⟩ := List.mem_map.1 taken
        obtain ⟨hr, needs'⟩ := List.mem_filter.1 hr
        exact fine _ (.repeated needs resolved ⟨r, hr, of_decide_eq_true needs', resolved'⟩)
      have appended : ((earlier ++ [q]).filter fun q => p.NeedsName q).map p.naming.resolve =
          (earlier.filter fun q => p.NeedsName q).map p.naming.resolve ++ [some name] := by
        simp [needs, resolved]
      rw [appended, (List.perm_append_singleton _ _).nodup_iff]
      exact List.nodup_cons.2 ⟨fresh, h.distinct⟩
    · simpa [needs] using h.distinct
  oneTarget := by
    by_cases only : p.OnlyTarget q
    · have none_before : (earlier.countP fun q => p.OnlyTarget q) = 0 := by
        refine List.countP_eq_zero.2 fun r hr only' => ?_
        exact fine _ (.secondTarget only ⟨r, hr, of_decide_eq_true only'⟩)
      simp [List.countP_append, none_before, only]
    · simpa [List.countP_append, only] using h.oneTarget

theorem wellFormed_concat_iff (method : String) (i : Nat) :
    p.WellFormed (earlier ++ [q]) ↔
      p.WellFormed earlier ∧ ∀ e, ¬ p.Offends method earlier i q e :=
  ⟨fun h => ⟨h.sublist (List.sublist_append_left _ _), h.not_offends⟩, fun h => h.1.concat h.2⟩

/-- The run over further parameters after a list that is well formed. -/
theorem acceptFrom_eq_ok_iff (h : p.WellFormed earlier) {rest : List Parameter} :
    p.acceptFrom method (p.claimsBefore earlier) i rest = .ok () ↔
      p.WellFormed (earlier ++ rest) := by
  induction rest generalizing earlier i with
  | nil => simp [acceptFrom, h]
  | cons q rest ih =>
    rw [acceptFrom]
    cases ha : p.acceptParameter method (p.claimsBefore earlier) i q with
    | error e =>
      have offends := acceptParameter_eq_error_iff.1 ha
      have whole : (earlier ++ [q]).Sublist (earlier ++ q :: rest) := by simp
      simpa using fun all => (WellFormed.sublist all whole).not_offends e offends
    | ok after =>
      have fine := not_offends_of_acceptParameter ha
      obtain rfl := claimsBefore_of_acceptParameter ha
      simpa using ih (h.concat fine)

/-- The run is rejected at the first position where something is wrong. -/
theorem acceptFrom_eq_error_iff (h : p.WellFormed earlier) {rest : List Parameter}
    {e : ValidationError} :
    p.acceptFrom method (p.claimsBefore earlier) i rest = .error e ↔
      ∃ k q, rest[k]? = some q ∧ p.WellFormed (earlier ++ rest.take k) ∧
        p.Offends method (earlier ++ rest.take k) (i + k) q e := by
  induction rest generalizing earlier i with
  | nil => simp [acceptFrom]
  | cons q rest ih =>
    have whole : ∀ k, (earlier ++ [q]) ++ rest.take k = earlier ++ (q :: rest).take (k + 1) := by
      simp
    rw [acceptFrom]
    cases ha : p.acceptParameter method (p.claimsBefore earlier) i q with
    | error f =>
      have offends := acceptParameter_eq_error_iff.1 ha
      rw [Except.error.injEq]
      constructor
      · rintro rfl
        exact ⟨0, q, rfl, by simpa using h, by simpa using offends⟩
      · rintro ⟨k, r, hr, wellFormed, offends'⟩
        cases k with
        | zero =>
          obtain rfl := Option.some.inj hr
          have again : p.acceptParameter method (p.claimsBefore earlier) i q = .error e :=
            acceptParameter_eq_error_iff.2 (by simpa using offends')
          exact Except.error.inj (ha.symm.trans again)
        | succ k =>
          rw [← whole] at wellFormed
          have first := wellFormed.sublist (List.sublist_append_left (earlier ++ [q]) _)
          exact absurd offends (first.not_offends f)
    | ok after =>
      have fine := not_offends_of_acceptParameter ha
      obtain rfl := claimsBefore_of_acceptParameter ha
      simp only [ih (h.concat fine), whole, Nat.add_assoc, Nat.add_comm 1]
      constructor
      · rintro ⟨k, r, hr, found⟩
        exact ⟨k + 1, r, hr, found⟩
      · rintro ⟨k, r, hr, wellFormed, offends⟩
        cases k with
        | zero =>
          obtain rfl := Option.some.inj hr
          exact absurd (by simpa using offends) (fine e)
        | succ k => exact ⟨k, r, hr, wellFormed, offends⟩

theorem accept_eq_ok_iff {m : Signature} :
    p.accept m = .ok () ↔ p.WellFormed m.parameters :=
  acceptFrom_eq_ok_iff p.wellFormed_nil

theorem accept_eq_error_iff {m : Signature} {e : ValidationError} :
    p.accept m = .error e ↔ ∃ i q, m.parameters[i]? = some q ∧
      p.WellFormed (m.parameters.take i) ∧ p.Offends m.name (m.parameters.take i) i q e := by
  have run := @acceptFrom_eq_error_iff p m.name [] 0 p.wellFormed_nil m.parameters e
  simp only [List.nil_append, Nat.zero_add] at run
  exact run

/-- More parameters do not change a rejection. -/
theorem accept_error_of_append {m n : Signature} (named : n.name = m.name)
    (more : m.parameters <+: n.parameters) {e : ValidationError} (h : p.accept m = .error e) :
    p.accept n = .error e := by
  obtain ⟨rest, hrest⟩ := more
  obtain ⟨i, q, hq, wellFormed, offends⟩ := accept_eq_error_iff.1 h
  have bound : i < m.parameters.length := (List.getElem?_eq_some_iff.1 hq).1
  have same : n.parameters.take i = m.parameters.take i := by
    rw [← hrest, List.take_append_of_le_length bound.le]
  refine accept_eq_error_iff.2 ⟨i, q, ?_, same ▸ wellFormed, ?_⟩
  · rw [← hrest, List.getElem?_append_left bound, hq]
  · rw [same, named]
    exact offends

/-- The rejected position is the first that makes the parameters up to it ill-formed. -/
theorem wellFormed_and_offends_iff {m : Signature} {e : ValidationError}
    (hq : m.parameters[i]? = some q) :
    p.WellFormed (m.parameters.take i) ∧ p.Offends m.name (m.parameters.take i) i q e ↔
      (∀ j ≤ i, p.WellFormed (m.parameters.take j)) ∧
        ¬ p.WellFormed (m.parameters.take (i + 1)) ∧
          p.Offends m.name (m.parameters.take i) i q e := by
  constructor
  · rintro ⟨wellFormed, offends⟩
    refine ⟨fun j hj => ?_, fun longer => ?_, offends⟩
    · exact wellFormed.sublist (List.take_sublist_take_left hj)
    · rw [List.take_add_one, hq] at longer
      exact WellFormed.not_offends longer e offends
  · rintro ⟨shorter, -, offends⟩
    exact ⟨shorter i le_rfl, offends⟩

/-- **Accepted are exactly the well-formed parameter lists.** So the order of the parameters does
not matter, and parameters can be left out. A method is rejected for the parameter with which its
list becomes ill-formed, whatever comes after it. -/
theorem accepts_exactly_wellFormed (p : NamedArguments) (m : Signature) :
    (p.accept m = .ok () ↔ p.WellFormed m.parameters) ∧
      (∀ n : Signature, m.parameters.Perm n.parameters →
        (p.accept m = .ok () ↔ p.accept n = .ok ())) ∧
      (∀ n : Signature, n.parameters.Sublist m.parameters →
        p.accept m = .ok () → p.accept n = .ok ()) ∧
      (∀ e, p.accept m = .error e ↔ ∃ i q, m.parameters[i]? = some q ∧
        (∀ j ≤ i, p.WellFormed (m.parameters.take j)) ∧
          ¬ p.WellFormed (m.parameters.take (i + 1)) ∧
            p.Offends m.name (m.parameters.take i) i q e) ∧
      ∀ n : Signature, n.name = m.name → m.parameters <+: n.parameters →
        ∀ e, p.accept m = .error e → p.accept n = .error e := by
  refine ⟨accept_eq_ok_iff, fun n reordered => ?_, fun n fewer => ?_, fun e => ?_,
    fun n named more e => accept_error_of_append named more⟩
  · rw [accept_eq_ok_iff, accept_eq_ok_iff]
    exact ⟨fun h => h.perm reordered, fun h => h.perm reordered.symm⟩
  · rw [accept_eq_ok_iff, accept_eq_ok_iff]
    exact fun h => h.sublist fewer
  · rw [accept_eq_error_iff]
    exact exists_congr fun i => exists_congr fun q =>
      and_congr_right fun hq => wellFormed_and_offends_iff hq

/-- An announcement with the given parameters. -/
def announcement (parameters : List Parameter) : Signature :=
  { name := "announce", parameters := parameters }

/-- One parameter of each kind. -/
def announced : List Parameter :=
  [{ type := .text, identifier := some "headLine" }, { type := .tag, name := some "icon" },
    { type := .tagBundle }, { type := .host "Player", asTarget := true }]

theorem accept_announcement :
    (⟨.standard, .declaredOrIdentifier⟩ : NamedArguments).accept
        (announcement announced.reverse) = .ok () ∧
      (⟨.standard, .declaredOrIdentifier⟩ : NamedArguments).accept
        (announcement announced.tail) = .ok () ∧
      (⟨.standard, .declaredOrIdentifier⟩ : NamedArguments).accept
        (announcement (announced ++ [{ type := .string, name := some "head_line" },
          { type := .host "Guest" }])) = .error (.duplicateName "announce" "head_line") := by
  obtain ⟨-, reordered, fewer, -, -⟩ :=
    accepts_exactly_wellFormed ⟨.standard, .declaredOrIdentifier⟩ (announcement announced)
  obtain ⟨-, -, -, -, more⟩ := accepts_exactly_wellFormed ⟨.standard, .declaredOrIdentifier⟩
    (announcement (announced ++ [{ type := .string, name := some "head_line" }]))
  have accepted : (⟨.standard, .declaredOrIdentifier⟩ : NamedArguments).accept
      (announcement announced) = .ok () := by
    decide
  refine ⟨?_, ?_, ?_⟩
  · exact (reordered (announcement announced.reverse) announced.reverse_perm.symm).1 accepted
  · exact fewer (announcement announced.tail) announced.tail_sublist accepted
  · refine more _ (by rfl) ?_ _ (by decide)
    exact ⟨[{ type := .host "Guest" }], rfl⟩

end MessageDispatch.NamedArguments
