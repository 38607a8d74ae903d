import ParaEgox.DispatchSelect

/-!
# DispatchBursts — the burst caps, over any run

The services of a run are recorded newest first.  The counters of the scheduler are the lengths of the current rows in that
history, so its burst tests speak about the run: a slot that has had its burst waits while another one of its class can go,
and a class that has had its burst waits while another class could pay.
-/
namespace ParaEgox
namespace Dispatch

open Check Stateful

namespace DispatchPolicy

/-! ## Calls and services -/

structure Service where
  index : Nat
  slotClass : DispatchClass
  deriving DecidableEq

def offered (p : DispatchPolicy) (permits : DomainPermitLedger) (readiness : List DispatchReadiness) :
    Option (Nat → Bool) :=
  match p.validateReadiness readiness with
  | .error _ => none
  | .ok ready => if p.anyIndex (p.eligibleWith permits ready) then some (p.eligibleWith permits ready) else none

def service (p : DispatchPolicy) (permits : DomainPermitLedger) (readiness : List DispatchReadiness) : Option Service := do
  let eligible ← p.offered permits readiness
  let chosen ← (select eligible p).1.toOption
  let slot ← p.slots[chosen.1]?
  pure ⟨chosen.1, slot.slotClass⟩

/-- The schedulers of all runs with their services, newest first: any readiness, any ledger, failed calls included. -/
inductive Run : DispatchPolicy → List Service → Prop
  | fresh {classes : DispatchClass → DispatchClassPolicy} {specs : List DispatchSlotSpec} {p : DispatchPolicy} :
      tryNew classes specs = .ok p → Run p []
  | called {p : DispatchPolicy} {history : List Service} (permits : DomainPermitLedger)
      (readiness : List DispatchReadiness) : Run p history →
      Run (trySelectAndAcquire readiness ⟨p, permits⟩).2.policy ((p.service permits readiness).toList ++ history)

def inRow (test : Service → Bool) (history : List Service) : Nat := (history.takeWhile test).length

variable {p q : DispatchPolicy} {eligible : Nat → Bool} {permits : DomainPermitLedger}
  {readiness : List DispatchReadiness} {history : List Service}

theorem offered_some (h : p.offered permits readiness = some eligible) : ∃ i < p.slots.length, eligible i = true := by
  unfold offered at h
  split at h
  · cases h
  · split at h
    · rename_i hany
      cases h
      exact anyIndex_iff.1 hany
    · cases h

/-- **A call leaves what its selection left**: neither readiness nor permits touch the scheduler. -/
theorem policy_after (p : DispatchPolicy) (permits : DomainPermitLedger) (readiness : List DispatchReadiness) :
    (trySelectAndAcquire readiness ⟨p, permits⟩).2.policy
      = (p.offered permits readiness).elim p fun eligible => (select eligible p).2 := by
  unfold offered
  change (follow _ (lift (p.validateReadiness readiness) (⟨p, permits⟩ : Dispatcher))).2.policy = _
  cases hready : p.validateReadiness readiness with
  | error e => rfl
  | ok ready =>
    change ((if p.anyIndex ready then _ else _ : Stateful Dispatcher DispatcherError DispatchDecision)
      ⟨p, permits⟩).2.policy = _
    dsimp only
    by_cases hany : p.anyIndex (p.eligibleWith permits ready) = true
    · have hsome : p.anyIndex ready = true := by
        obtain ⟨i, hi, helig⟩ := anyIndex_iff.1 hany
        obtain ⟨slot, hslot⟩ := eligibleWith_iff.1 helig
        exact anyIndex_iff.2 ⟨i, hi, hslot.1⟩
      rw [if_pos hsome, if_pos hany, if_pos hany]
      exact selectAndAcquire_policy ⟨p, permits⟩ _
    · rw [if_neg hany, if_neg hany]
      by_cases hsome : p.anyIndex ready = true
      · rw [if_pos hsome]
        rfl
      · rw [if_neg hsome]
        rfl

/-- A selection by direct scan takes the first eligible slot from the cursor on. -/
theorem select_direct {i : Nat} {path : SelectionPath} {q : DispatchPolicy} (hdirect : p.directScan = true)
    (h : select eligible p = (.ok (i, path), q)) : (p.rotation p.directCursor).find? eligible = some i ∧
      { p with directCursor := (i + 1) % p.slots.length } = q := by
  unfold select at h
  rw [bind_run] at h
  obtain ⟨_, _, hself, h⟩ := h
  obtain ⟨rfl, rfl⟩ := self_run.1 hself
  rw [if_pos hdirect] at h
  unfold selectDirect at h
  simp only [bind_run, self_run, lift_run, update_run, pure_run, okOr_ok, Prod.mk.injEq] at h
  obtain ⟨j, _, ⟨_, _, ⟨rfl, rfl⟩, k, _, ⟨hfind, rfl⟩, _, _, rfl, rfl, rfl⟩, ⟨rfl, _⟩, rfl⟩ := h
  exact ⟨hfind, rfl⟩

theorem select_hierarchical {i : Nat} {path : SelectionPath} {q : DispatchPolicy} (hdirect : ¬ p.directScan = true)
    (h : select eligible p = (.ok (i, path), q)) : selectHierarchical eligible p = (.ok i, q) := by
  unfold select at h
  rw [bind_run] at h
  obtain ⟨_, _, hself, h⟩ := h
  obtain ⟨rfl, rfl⟩ := self_run.1 hself
  rw [if_neg hdirect] at h
  simp only [bind_run, pure_run, Prod.mk.injEq] at h
  obtain ⟨j, _, hhier, ⟨rfl, _⟩, rfl⟩ := h
  exact hhier

theorem service_some (hinv : Inv p) (hoffer : p.offered permits readiness = some eligible) :
    ∃ i path q slot, select eligible p = (.ok (i, path), q) ∧ Inv q ∧ Specs p q ∧ eligible i = true
      ∧ p.slots[i]? = some slot ∧ p.service permits readiness = some ⟨i, slot.slotClass⟩ := by
  obtain ⟨chosen, q, hrun, hserved⟩ := select_ends hinv (offered_some hoffer)
  have hlt : chosen.1 < p.slots.length := hserved.slot
  refine ⟨chosen.1, chosen.2, q, p.slots[chosen.1], hrun, hserved.inv, hserved.specs, hserved.eligible,
    List.getElem?_eq_getElem hlt, ?_⟩
  unfold service
  rw [hoffer]
  change ((select eligible p).1.toOption >>= _) = _
  rw [hrun]
  change (p.slots[chosen.1]? >>= _) = _
  rw [List.getElem?_eq_getElem hlt]
  rfl

theorem service_none (hoffer : p.offered permits readiness = none) : p.service permits readiness = none := by
  unfold service
  rw [hoffer]
  rfl

theorem called_keeps (hinv : Inv p) (permits : DomainPermitLedger) (readiness : List DispatchReadiness) :
    Specs p (trySelectAndAcquire readiness ⟨p, permits⟩).2.policy
      ∧ (trySelectAndAcquire readiness ⟨p, permits⟩).2.policy.directScan = p.directScan := by
  rw [policy_after]
  cases hoffer : p.offered permits readiness with
  | none => exact ⟨.refl p, rfl⟩
  | some eligible =>
    obtain ⟨i, path, q, slot, hselect, _, hspecs, _⟩ := service_some hinv hoffer
    rw [Option.elim_some, hselect]
    refine ⟨hspecs, ?_⟩
    by_cases hdirect : p.directScan = true
    · obtain ⟨_, rfl⟩ := select_direct hdirect hselect
      rfl
    · have hhier := select_hierarchical hdirect hselect
      obtain ⟨s, _, _, _, htallies, c, m, _, _, _, htallies', hpays, hcommit⟩ :=
        selectHierarchical_serves hinv (offered_some hoffer) hhier
      obtain ⟨_, hbooked⟩ := commitClassService_books hpays hcommit
      exact hbooked.directScan.trans (htallies.trans htallies').directScan

theorem find_rotation_after {i j : Nat} (hi : i < p.slots.length) (hj : j < p.slots.length) (hne : j ≠ i)
    (hfind : (p.rotation ((i + 1) % p.slots.length)).find? eligible = some i) : ¬ eligible j = true := by
  have hsplit : p.rotation ((i + 1) % p.slots.length)
      = (List.range (p.slots.length - 1)).map (fun offset => (i + 1 + offset) % p.slots.length) ++ [i] := by
    unfold rotation
    obtain ⟨n, hn⟩ : ∃ n, p.slots.length = n + 1 := ⟨p.slots.length - 1, by omega⟩
    have hlast : (i + 1 + n) % (n + 1) = i := by
      rw [Nat.add_assoc, Nat.add_comm 1 n, Nat.add_mod_right, Nat.mod_eq_of_lt (by omega)]
    simp only [Nat.mod_add_mod, hn, Nat.add_sub_cancel, List.range_succ, List.map_append, List.map_cons, List.map_nil,
      hlast]
  have hfresh : i ∉ (List.range (p.slots.length - 1)).map fun offset => (i + 1 + offset) % p.slots.length := by
    intro hmem
    obtain ⟨offset, hoffset, heq⟩ := List.mem_map.1 hmem
    rw [List.mem_range] at hoffset
    by_cases hlt : i + 1 + offset < p.slots.length
    · rw [Nat.mod_eq_of_lt hlt] at heq
      omega
    · rw [Nat.mod_eq_sub_mod (by omega), Nat.mod_eq_of_lt (by omega)] at heq
      omega
  rw [hsplit, List.find?_append] at hfind
  cases hearly : ((List.range (p.slots.length - 1)).map fun offset => (i + 1 + offset) % p.slots.length).find? eligible with
  | some x =>
    rw [hearly] at hfind
    cases hfind
    exact absurd (List.mem_of_find?_eq_some hearly) hfresh
  | none =>
    have hmem := mem_rotation (p := p) ((i + 1) % p.slots.length) hj
    rw [hsplit, List.mem_append, List.mem_singleton] at hmem
    exact List.find?_eq_none.1 hearly j (hmem.resolve_right hne)

/-! ## The counters of a run -/

structure Tallied (p : DispatchPolicy) (history : List Service) : Prop where
  inv : Inv p
  direct : p.directScan = true → ∀ v rest, history = v :: rest →
    v.index < p.slots.length ∧ p.directCursor = (v.index + 1) % p.slots.length
  slots : p.directScan = false → ∀ i, p.slotStreak i = min (inRow (·.index = i) history) u32Max
  classes : p.directScan = false → ∀ c, p.classStreak c = min (inRow (·.slotClass = c) history) u32Max

theorem inRow_cons (test : Service → Bool) (v : Service) (history : List Service) :
    inRow test (v :: history) = if test v then inRow test history + 1 else 0 := by
  unfold inRow
  by_cases htest : test v = true
  · rw [List.takeWhile_cons_of_pos htest, if_pos htest, List.length_cons]
  · rw [List.takeWhile_cons_of_neg htest, if_neg htest, List.length_nil]

theorem count_one (n : Nat) : min (min n u32Max + 1) u32Max = min (n + 1) u32Max := by omega

theorem Tallied.fresh {classes : DispatchClass → DispatchClassPolicy} {specs : List DispatchSlotSpec}
    (h : tryNew classes specs = .ok p) : Tallied p [] := by
  refine ⟨.fresh h, ?_, ?_, ?_⟩
  · intro _ v rest hnil
    cases hnil
  all_goals
    simp only [tryNew, bind_ok, rejectIf_ok, exists_unit, pure_ok] at h
    obtain ⟨_, _, _, rfl⟩ := h
    intro _ _
    rfl

theorem Tallied.called (h : Tallied p history) (permits : DomainPermitLedger) (readiness : List DispatchReadiness) :
    Tallied (trySelectAndAcquire readiness ⟨p, permits⟩).2.policy ((p.service permits readiness).toList ++ history) := by
  rw [policy_after]
  cases hoffer : p.offered permits readiness with
  | none =>
    rw [service_none hoffer]
    exact h
  | some eligible =>
    obtain ⟨i, path, q, slot, hselect, hinv, hspecs, heligible, hslot, hservice⟩ := service_some h.inv hoffer
    rw [hservice, Option.elim_some, hselect]
    dsimp only [Option.toList_some, List.cons_append, List.nil_append]
    by_cases hdirect : p.directScan = true
    · obtain ⟨_, rfl⟩ := select_direct hdirect hselect
      refine ⟨hinv, fun _ v rest hv => ?_, fun hno => ?_, fun hno => ?_⟩
      · cases hv
        exact ⟨lt_of_slot hslot, rfl⟩
      · exact absurd (hdirect.symm.trans hno) (by decide)
      · exact absurd (hdirect.symm.trans hno) (by decide)
    · have hhier := select_hierarchical hdirect hselect
      have hoff : p.directScan = false := by
        cases hd : p.directScan
        · rfl
        · exact absurd hd hdirect
      obtain ⟨s, _, _, hstatic, htallies, c, m, _, _, hstatic', htallies', hpays, hcommit⟩ :=
        selectHierarchical_serves h.inv (offered_some hoffer) hhier
      obtain ⟨_, hbooked⟩ := commitClassService_books hpays hcommit
      have hall := htallies.trans htallies'
      have hclass : slot.slotClass = c := by
        obtain ⟨slot', hslot', hclass', _⟩ := hbooked.slots
        obtain ⟨slot'', hslot'', heq⟩ := (hstatic.trans hstatic').specs.slot hslot
        rw [hslot'] at hslot''
        cases hslot''
        exact (congrArg (·.slotClass) heq).symm.trans hclass'
      refine ⟨hinv, fun hyes => ?_, fun _ k => ?_, fun _ k => ?_⟩
      · rw [hbooked.directScan, hall.directScan] at hyes
        exact absurd hyes hdirect
      · rw [hbooked.slotStreak, hall.slotStreak, h.slots hoff, inRow_cons, count_one]
        by_cases hk : k = i
        · rw [if_pos hk, if_pos (decide_eq_true hk.symm), hk]
        · rw [if_neg hk, if_neg (by simpa using fun h => hk h.symm)]
          rfl
      · rw [hbooked.classStreak, hall.classStreak, h.classes hoff, inRow_cons, count_one]
        by_cases hk : k = c
        · rw [if_pos hk, if_pos (decide_eq_true (hclass.trans hk.symm)), hk]
        · rw [if_neg hk, if_neg (by simpa using fun h => hk (h.symm.trans hclass))]
          rfl

theorem Run.tallied (h : Run p history) : Tallied p history := by
  induction h with
  | fresh hnew => exact .fresh hnew
  | called permits readiness _ ih => exact ih.called permits readiness

/-! ## The caps -/

/-- A pass passed over every other eligible class and then served the slot it had set aside. -/
def FellBack (p : DispatchPolicy) (eligible : Nat → Bool) (v : Service) (q : DispatchPolicy) : Prop :=
  ∃ s m, Entry eligible p s ∧ Visiting eligible s 0 m ∧ OthersShort m v.slotClass eligible
    ∧ commitClassService v.slotClass v.index eligible m = (.ok v.index, q)

/-- The slot cap: the direct scan comes to every other slot first, and preparing a class leaves out a slot that has had its
burst while another one waits. -/
theorem slot_capped (hrun : Run p history) (hoffer : p.offered permits readiness = some eligible) {v : Service}
    (hserve : p.service permits readiness = some v) {slot : DispatchSlot} (hslot : p.slots[v.index]? = some slot)
    (hburst : slot.maxBurst ≤ inRow (·.index = v.index) history) :
    p.hasOtherEligibleSlot v.index v.slotClass eligible = false := by
  have ht := hrun.tallied
  obtain ⟨i, path, q, slot', hselect, _, _, heligible, hslot', hservice⟩ := service_some ht.inv hoffer
  rw [hserve] at hservice
  cases hservice
  dsimp only at hslot hburst ⊢
  cases hslot.symm.trans hslot'
  have hpos := slot.maxBurst_pos
  by_cases hdirect : p.directScan = true
  · obtain ⟨hfind, rfl⟩ := select_direct hdirect hselect
    -- the slot was the last one served
    cases history with
    | nil => exact absurd hburst (by simp only [inRow, List.takeWhile_nil, List.length_nil]; omega)
    | cons w rest =>
      have hlast : w.index = i := by
        by_contra hne
        rw [inRow_cons, if_neg (by simpa using hne)] at hburst
        omega
      obtain ⟨hlt, hcursor⟩ := ht.direct hdirect w rest rfl
      rw [hlast] at hlt hcursor
      rw [hcursor] at hfind
      rw [Bool.eq_false_iff]
      intro hother
      obtain ⟨other, _, hother, htest⟩ := (anySlot_iff _ _).1 hother
      simp only [Bool.and_eq_true, decide_eq_true_eq] at htest
      exact find_rotation_after hlt (lt_of_slot hother) htest.1.1 hfind htest.1.2
  · have hhier := select_hierarchical hdirect hselect
    obtain ⟨s, _, _, hstatic, _, c, m, _, _, hstatic', _, ⟨cost, ⟨haffordable, _⟩, _⟩, _⟩ :=
      selectHierarchical_serves ht.inv (offered_some hoffer) hhier
    have hall := hstatic.trans hstatic'
    obtain ⟨_, hcandidate, _, _⟩ := affordable_spec haffordable
    rw [hall.candidate] at hcandidate
    obtain ⟨_, ⟨slot'', hslot'', hclass⟩, hheld⟩ := candidate_iff.1 hcandidate
    cases hslot.symm.trans hslot''
    have hexhausted : p.slotBurstExhausted i = true := by
      have hmax := slot.maxBurst_le
      have hcap : 65535 ≤ u32Max := by decide
      rw [slotBurstExhausted_iff hslot, ht.slots (Bool.eq_false_iff.2 hdirect)]
      exact Nat.le_min.2 ⟨hburst, Nat.le_trans hmax hcap⟩
    rw [hclass, Bool.eq_false_iff]
    exact fun hother => hheld ⟨hexhausted, hother⟩

/-- The class cap: a visit yields while another class is eligible, and what it set aside is served only when no other class
could pay. -/
theorem class_capped (hrun : Run p history) (hoffer : p.offered permits readiness = some eligible) {v : Service}
    (hserve : p.service permits readiness = some v) (hdirect : p.directScan = false)
    (hburst : (p.classes v.slotClass).maxBurst ≤ inRow (·.slotClass = v.slotClass) history) :
    p.hasOtherEligibleClass v.slotClass eligible = false
      ∨ FellBack p eligible v (trySelectAndAcquire readiness ⟨p, permits⟩).2.policy := by
  have ht := hrun.tallied
  obtain ⟨i, path, q, slot, hselect, _, _, _, hslot, hservice⟩ := service_some ht.inv hoffer
  rw [policy_after, hoffer, Option.elim_some, hselect]
  rw [hserve] at hservice
  cases hservice
  dsimp only at hburst ⊢
  have hhier := select_hierarchical (Bool.eq_false_iff.1 hdirect) hselect
  obtain ⟨s, hentry, _, hstatic, htallies, c, m, hdecides, _, hstatic', _, hpays, hcommit⟩ :=
    selectHierarchical_serves ht.inv (offered_some hoffer) hhier
  have hclass : slot.slotClass = c := by
    obtain ⟨_, hbooked⟩ := commitClassService_books hpays hcommit
    obtain ⟨slot', hslot', hclass', _⟩ := hbooked.slots
    obtain ⟨slot'', hslot'', heq⟩ := (hstatic.trans hstatic').specs.slot hslot
    rw [hslot'] at hslot''
    cases hslot''
    exact (congrArg (·.slotClass) heq).symm.trans hclass'
  subst hclass
  have hexhausted : p.classBurstExhausted slot.slotClass = true := by
    have hmax := (p.classes slot.slotClass).maxBurst_le
    have hcap : maxClassBurst ≤ u32Max := by decide
    rw [classBurstExhausted_iff, ht.classes hdirect]
    exact Nat.le_min.2 ⟨hburst, Nat.le_trans hmax hcap⟩
  generalize hc : slot.slotClass = c at *
  cases hdecides with
  | ready _ _ hjudged =>
    refine .inl ?_
    rw [htallies.classBurstExhausted hstatic.specs, hstatic.specs.hasOtherEligibleClass] at hjudged
    rw [Bool.eq_false_iff]
    exact fun hother => hjudged ⟨hexhausted, hother⟩
  | fallback hvisiting hshort => exact .inr ⟨s, m, hentry, hvisiting, hshort, hcommit⟩

/-- **Burst caps hold on every run.**  A slot that was selected `max_burst` or more times in a row is not selected again
while another slot of its class is eligible.  A class that was served `max_burst` or more times in a row by the hierarchical
scheduler is served again only if no other class is eligible, or if all others were short of their prepared slot in that
same pass. -/
theorem bursts_capped (hrun : Run p history) (hoffer : p.offered permits readiness = some eligible) {v : Service}
    (hserve : p.service permits readiness = some v) :
    (∀ slot, p.slots[v.index]? = some slot → slot.maxBurst ≤ inRow (·.index = v.index) history →
        p.hasOtherEligibleSlot v.index v.slotClass eligible = false)
      ∧ (p.directScan = false → (p.classes v.slotClass).maxBurst ≤ inRow (·.slotClass = v.slotClass) history →
        p.hasOtherEligibleClass v.slotClass eligible = false
          ∨ FellBack p eligible v (trySelectAndAcquire readiness ⟨p, permits⟩).2.policy) :=
  ⟨fun _ hslot hburst => slot_capped hrun hoffer hserve hslot hburst,
    fun hdirect hburst => class_capped hrun hoffer hserve hdirect hburst⟩

/-! Two stream slots that may go once in a row; the second call hears from the first slot only. -/

def burstClasses : DispatchClass → DispatchClassPolicy := fun _ =>
  ⟨2, 1, Nat.two_pos, by decide, Nat.one_pos, by decide⟩

theorem two_le_maxServiceCostTokens : 2 ≤ maxServiceCostTokens := by decide

theorem one_le_maxMinimumServiceWeight : 1 ≤ maxMinimumServiceWeight := by decide

theorem two_le_maxMinimumServiceWeight : 2 ≤ maxMinimumServiceWeight := by decide

def burstSpecs : List DispatchSlotSpec :=
  [⟨.ofNat 7, .stream, 1, 1, 1, Nat.one_pos, by decide, Nat.one_pos, one_le_maxMinimumServiceWeight, Nat.one_pos,
      by decide⟩,
    ⟨.ofNat 9, .stream, 2, 2, 1, Nat.two_pos, two_le_maxServiceCostTokens, Nat.two_pos, two_le_maxMinimumServiceWeight,
      Nat.one_pos, by decide⟩]

def burstPolicy : DispatchPolicy :=
  { samplePolicy with slots := burstSpecs.mapIdx fun cursor spec => ⟨spec, 0, cursor⟩, classes := burstClasses }

def burstReadiness : List DispatchReadiness := [⟨.ofNat 7, .ready ⟨.ofNat 7⟩⟩]

def burstReady : Nat → Bool := Function.update (fun _ => false) 0 true

def burstServed : DispatchPolicy := (trySelectAndAcquire burstReadiness ⟨burstPolicy, sampleLedger⟩).2.policy

theorem bursts_capped_twice :
    burstServed.hasOtherEligibleSlot 0 .stream (burstServed.eligibleWith sampleLedger burstReady) = false
      ∧ (burstServed.hasOtherEligibleClass .stream (burstServed.eligibleWith sampleLedger burstReady) = false
        ∨ FellBack burstServed (burstServed.eligibleWith sampleLedger burstReady) ⟨0, .stream⟩
          (trySelectAndAcquire burstReadiness ⟨burstServed, sampleLedger⟩).2.policy) := by
  have hnew : tryNew burstClasses burstSpecs = .ok burstPolicy := rfl
  have hrun : Run burstServed [⟨0, .stream⟩] := (Run.fresh hnew).called sampleLedger burstReadiness
  have hoffer : burstServed.offered sampleLedger burstReadiness
      = some (burstServed.eligibleWith sampleLedger burstReady) := rfl
  have hserve : burstServed.service sampleLedger burstReadiness = some ⟨0, .stream⟩ := by decide +kernel
  obtain ⟨hslot, hclass⟩ := bursts_capped hrun hoffer hserve
  exact ⟨hslot _ rfl (by decide +kernel), hclass rfl (by decide +kernel)⟩

end DispatchPolicy
end Dispatch
end ParaEgox
