import ParaEgox.DispatchRuns

/-!
# DispatchSelect — what one selection does

The states a selection goes through: where its passes start, the visits of a pass, the state a slot is served from.
Until the service only credit and the class in turn change; the service then books the slot and its class.
-/
namespace ParaEgox
namespace Dispatch

open Check Stateful

namespace DispatchPolicy

/-! ## What only a service changes -/

structure Tallies (p q : DispatchPolicy) : Prop where
  lastClass : q.lastClass = p.lastClass
  classBurst : q.classBurst = p.classBurst
  lastSlot : q.lastSlot = p.lastSlot
  slotBurst : q.slotBurst = p.slotBurst
  directScan : q.directScan = p.directScan
  directCursor : q.directCursor = p.directCursor

theorem Tallies.refl (p : DispatchPolicy) : Tallies p p := ⟨rfl, rfl, rfl, rfl, rfl, rfl⟩

theorem Tallies.trans {p q r : DispatchPolicy} (h : Tallies p q) (h' : Tallies q r) : Tallies p r :=
  ⟨h'.lastClass.trans h.lastClass, h'.classBurst.trans h.classBurst, h'.lastSlot.trans h.lastSlot,
    h'.slotBurst.trans h.slotBurst, h'.directScan.trans h.directScan, h'.directCursor.trans h.directCursor⟩

variable {p q s : DispatchPolicy} {eligible : Nat → Bool}

theorem preserves_tallies_update {f : DispatchPolicy → DispatchPolicy} (h : ∀ q, Tallies q (f q)) :
    Preserves (Tallies p) (update f : Scheduler Unit) :=
  preserves_update fun q hq => hq.trans (h q)

theorem creditSlots_tallies (rounds : Nat) (c : DispatchClass) (eligible : Nat → Bool) :
    Preserves (Tallies p) (creditSlots rounds c eligible) := by
  intro q hq
  unfold creditSlots
  by_cases hzero : rounds = 0
  · rw [if_pos hzero]
    exact hq
  · rw [if_neg hzero]
    exact hq.trans ⟨rfl, rfl, rfl, rfl, rfl, rfl⟩

theorem prepareSlotInClass_tallies (c : DispatchClass) (eligible : Nat → Bool) :
    Preserves (Tallies p) (prepareSlotInClass c eligible) := by
  unfold prepareSlotInClass
  refine preserves_self.bind fun _ => (preserves_lift _).bind fun _ => (preserves_lift _).bind fun _ => ?_
  exact (creditSlots_tallies _ _ _).bind fun _ => preserves_self.bind fun _ => preserves_lift _

theorem setClassDeficit_tallies (c : DispatchClass) (deficit : Nat) (p : DispatchPolicy) :
    Tallies p (setClassDeficit c deficit p) := ⟨rfl, rfl, rfl, rfl, rfl, rfl⟩

theorem advanceClassVisit_tallies (c : DispatchClass) (p : DispatchPolicy) : Tallies p (advanceClassVisit c p) :=
  ⟨rfl, rfl, rfl, rfl, rfl, rfl⟩

theorem openClassVisit_tallies (c : DispatchClass) : Preserves (Tallies p) (openClassVisit c) := by
  intro q hq
  unfold openClassVisit
  by_cases hopen : q.classVisitOpen = true
  · rw [if_pos hopen]
    exact hq
  · rw [if_neg hopen]
    have hcredit : Preserves (Tallies p) (creditClassVisit c) := by
      unfold creditClassVisit
      refine preserves_self.bind fun _ => (preserves_lift _).bind fun _ => ?_
      exact preserves_tallies_update fun q => setClassDeficit_tallies _ _ q
    have hrest : Preserves (Tallies p) (do
        creditClassVisit c
        update fun p => { p with classVisitOpen := true } : Scheduler Unit) :=
      hcredit.bind fun _ => preserves_tallies_update fun _ => ⟨rfl, rfl, rfl, rfl, rfl, rfl⟩
    exact hrest q hq

theorem judgeVisit_tallies (c : DispatchClass) (i : Nat) (eligible : Nat → Bool) :
    Preserves (Tallies p) (judgeVisit c i eligible) := by
  unfold judgeVisit
  refine preserves_self.bind fun q => (preserves_lift _).bind fun cost => ?_
  split
  · exact (preserves_tallies_update (advanceClassVisit_tallies c)).bind fun _ => preserves_pure _
  · split
    · exact (preserves_tallies_update (advanceClassVisit_tallies c)).bind fun _ => preserves_pure _
    · exact preserves_pure _

theorem visitClass_tallies (c : DispatchClass) (eligible : Nat → Bool) :
    Preserves (Tallies p) (visitClass c eligible) := by
  unfold visitClass
  refine preserves_self.bind fun q => ?_
  split
  · refine (openClassVisit_tallies c).bind fun _ => (prepareSlotInClass_tallies c eligible).bind fun i => ?_
    exact judgeVisit_tallies c i eligible
  · exact (preserves_tallies_update (advanceClassVisit_tallies c)).bind fun _ => preserves_pure _

theorem visitsUntilService_tallies (eligible : Nat → Bool) : ∀ (turn : List DispatchClass) (least : Option Nat),
    Preserves (Tallies p) (visitsUntilService eligible turn least)
  | [], _ => preserves_pure _
  | c :: turn, least => by
    unfold visitsUntilService
    refine preserves_self.bind fun q => ?_
    split
    · refine (prepareSlotInClass_tallies c eligible).bind fun _ => preserves_self.bind fun _ => ?_
      exact (preserves_lift _).bind fun _ => visitsUntilService_tallies eligible turn _
    · exact visitsUntilService_tallies eligible turn least

theorem creditEmptyRounds_tallies (rounds : Nat) (eligible : Nat → Bool) : ∀ turn : List DispatchClass,
    Preserves (Tallies p) (creditEmptyRounds rounds eligible turn)
  | [] => preserves_pure _
  | c :: turn => by
    unfold creditEmptyRounds
    refine preserves_self.bind fun q => ?_
    split
    · refine (preserves_lift _).bind fun _ => (preserves_lift _).bind fun _ => ?_
      refine (preserves_tallies_update fun q => setClassDeficit_tallies _ _ q).bind fun _ => ?_
      exact creditEmptyRounds_tallies rounds eligible turn
    · exact creditEmptyRounds_tallies rounds eligible turn

theorem fastForwardEmptyClassRounds_tallies (eligible : Nat → Bool) :
    Preserves (Tallies p) (fastForwardEmptyClassRounds eligible) := by
  unfold fastForwardEmptyClassRounds
  refine preserves_self.bind fun q => (preserves_lift _).bind fun _ => ?_
  refine (visitsUntilService_tallies eligible _ _).bind fun _ => (preserves_lift _).bind fun _ => ?_
  refine (preserves_lift _).bind fun n => ?_
  split
  · exact preserves_pure _
  · exact creditEmptyRounds_tallies n eligible _

/-! ## The service -/

def slotStreak (p : DispatchPolicy) (i : Nat) : Nat := if p.lastSlot = some i then p.slotBurst else 0

def classStreak (p : DispatchPolicy) (c : DispatchClass) : Nat := if p.lastClass = some c then p.classBurst else 0

theorem Tallies.slotStreak (h : Tallies p q) (i : Nat) : q.slotStreak i = p.slotStreak i := by
  unfold DispatchPolicy.slotStreak
  rw [h.lastSlot, h.slotBurst]

theorem Tallies.classStreak (h : Tallies p q) (c : DispatchClass) : q.classStreak c = p.classStreak c := by
  unfold DispatchPolicy.classStreak
  rw [h.lastClass, h.classBurst]

theorem classBurstExhausted_iff {c : DispatchClass} :
    p.classBurstExhausted c = true ↔ (p.classes c).maxBurst ≤ p.classStreak c := by
  have hpos := (p.classes c).maxBurst_pos
  unfold classBurstExhausted classStreak
  rw [Bool.and_eq_true, decide_eq_true_eq, decide_eq_true_eq]
  by_cases hlast : p.lastClass = some c
  · rw [if_pos hlast]
    exact and_iff_right hlast
  · rw [if_neg hlast]
    exact ⟨fun h => absurd h.1 hlast, fun h => by omega⟩

theorem slotBurstExhausted_iff {i : Nat} {slot : DispatchSlot} (hslot : p.slots[i]? = some slot) :
    p.slotBurstExhausted i = true ↔ slot.maxBurst ≤ p.slotStreak i := by
  have hpos := slot.maxBurst_pos
  unfold slotBurstExhausted slotStreak
  rw [hslot, Option.any_some, Bool.and_eq_true, decide_eq_true_eq, decide_eq_true_eq]
  by_cases hlast : p.lastSlot = some i
  · rw [if_pos hlast]
    exact and_iff_right hlast
  · rw [if_neg hlast]
    exact ⟨fun h => absurd h.1 hlast, fun h => by omega⟩

/-- **What a service books**: the price of the slot, and one more in a row for the slot and for its class. -/
structure Booked (p : DispatchPolicy) (c : DispatchClass) (i : Nat) (q : DispatchPolicy) : Prop where
  slots : ∃ slot, p.slots[i]? = some slot ∧ slot.slotClass = c ∧ slot.cost ≤ slot.deficit
    ∧ q.slots = p.slots.set i { slot with deficit := slot.deficit - slot.cost }
  slotStreak : ∀ j, q.slotStreak j = if j = i then min (p.slotStreak i + 1) u32Max else 0
  classStreak : ∀ c', q.classStreak c' = if c' = c then min (p.classStreak c + 1) u32Max else 0
  directScan : q.directScan = p.directScan

theorem recordSlotService_streak (p : DispatchPolicy) (i j : Nat) :
    (p.recordSlotService i).slotStreak j = if j = i then min (p.slotStreak i + 1) u32Max else 0 := by
  unfold recordSlotService slotStreak
  by_cases hlast : p.lastSlot = some i
  · rw [if_pos hlast]
    dsimp only
    rw [hlast]
    by_cases hj : j = i
    · rw [if_pos hj, if_pos (congrArg some hj.symm), if_pos rfl]
    · rw [if_neg hj, if_neg fun h => hj (Option.some.inj h).symm]
  · rw [if_neg hlast, if_neg hlast]
    dsimp only
    by_cases hj : j = i
    · rw [if_pos hj, if_pos (congrArg some hj.symm)]
      decide
    · rw [if_neg hj, if_neg fun h => hj (Option.some.inj h).symm]

theorem recordClassService_streak (p : DispatchPolicy) (c c' : DispatchClass) :
    (p.recordClassService c).classStreak c' = if c' = c then min (p.classStreak c + 1) u32Max else 0 := by
  unfold recordClassService classStreak
  by_cases hlast : p.lastClass = some c
  · rw [if_pos hlast]
    dsimp only
    rw [hlast]
    by_cases hc : c' = c
    · rw [if_pos hc, if_pos (congrArg some hc.symm), if_pos rfl]
    · rw [if_neg hc, if_neg fun h => hc (Option.some.inj h).symm]
  · rw [if_neg hlast, if_neg hlast]
    dsimp only
    by_cases hc : c' = c
    · rw [if_pos hc, if_pos (congrArg some hc.symm)]
      decide
    · rw [if_neg hc, if_neg fun h => hc (Option.some.inj h).symm]

theorem moveClassCursor_tallies (p : DispatchPolicy) (c : DispatchClass) (eligible : Nat → Bool) :
    Tallies p (p.moveClassCursor c eligible) := by
  unfold moveClassCursor
  split <;> exact ⟨rfl, rfl, rfl, rfl, rfl, rfl⟩

theorem recordSlotService_keeps (p : DispatchPolicy) (i : Nat) : (p.recordSlotService i).lastClass = p.lastClass
    ∧ (p.recordSlotService i).classBurst = p.classBurst ∧ (p.recordSlotService i).directScan = p.directScan := by
  unfold recordSlotService
  split <;> exact ⟨rfl, rfl, rfl⟩

theorem recordClassService_keeps (p : DispatchPolicy) (c : DispatchClass) : (p.recordClassService c).lastSlot = p.lastSlot
    ∧ (p.recordClassService c).slotBurst = p.slotBurst ∧ (p.recordClassService c).directScan = p.directScan := by
  unfold recordClassService
  split <;> exact ⟨rfl, rfl, rfl⟩

theorem commitClassService_books {c : DispatchClass} {i j : Nat} (hpays : Pays p c eligible i)
    (hrun : commitClassService c i eligible p = (.ok j, q)) : j = i ∧ Booked p c i q := by
  obtain ⟨cost, ⟨haffordable, hcost⟩, hle⟩ := hpays
  obtain ⟨_, _, _, slot, hslot, hclass, hfunds⟩ := affordable_spec haffordable
  unfold commitClassService commitSlotService at hrun
  simp only [bind_run, self_run, lift_run, update_run, pure_run, okOr_ok, subU64_ok] at hrun
  obtain ⟨_, _, ⟨rfl, rfl⟩, cost', _, ⟨hcost', rfl⟩, d, _, ⟨⟨_, rfl⟩, rfl⟩, _, _, rfl, _, t,
    ⟨_, _, ⟨rfl, rfl⟩, slot', _, ⟨hslot', rfl⟩, d', _, ⟨⟨_, rfl⟩, rfl⟩, rfl⟩, _, _, rfl, rfl, rfl⟩ := hrun
  have hsame : slot' = slot := Option.some.inj (hslot'.symm.trans hslot)
  subst hsame
  let b := (setClassDeficit c (p.classDeficit c - cost') p).setSlot i { slot' with deficit := slot'.deficit - slot'.cost }
  let f := (b.recordSlotService i).moveSlotCursor i { slot' with deficit := slot'.deficit - slot'.cost }
  have hfinal : Tallies (f.recordClassService c) ((f.recordClassService c).moveClassCursor c eligible) :=
    moveClassCursor_tallies _ _ _
  obtain ⟨hlastSlot, hslotBurst, hdirect⟩ := recordClassService_keeps f c
  obtain ⟨hlastClass, hclassBurst, hdirect'⟩ := recordSlotService_keeps b i
  refine ⟨rfl, ⟨slot', hslot, hclass, hfunds, ?_⟩, fun j => ?_, fun c' => ?_, ?_⟩
  · calc ((f.recordClassService c).moveClassCursor c eligible).slots
        = (f.recordClassService c).slots := (moveClassCursor_slots _ c eligible).1
      _ = f.slots := (recordClassService_slots f c).1
      _ = b.slots := (recordSlotService_slots b i).1
  · rw [hfinal.slotStreak j]
    unfold slotStreak
    rw [hlastSlot, hslotBurst]
    exact recordSlotService_streak b i j
  · rw [hfinal.classStreak c', recordClassService_streak]
    have hsame : f.classStreak c = p.classStreak c := by
      change (b.recordSlotService i).classStreak c = p.classStreak c
      unfold classStreak
      rw [hlastClass, hclassBurst]
      rfl
    rw [hsame]
  · exact (hfinal.directScan.trans hdirect).trans hdirect'

/-! ## The states of a selection -/

/-- The visits of a pass that has not found a slot to run yet: `n` of them are left in this state. -/
inductive Visiting (eligible : Nat → Bool) (s : DispatchPolicy) : Nat → DispatchPolicy → Prop
  | start : Visiting eligible s 4 s
  | next {n : Nat} {r r' : DispatchPolicy} {v : Visit} : Visiting eligible s (n + 1) r →
      visitClass r.classCursor eligible r = (.ok v, r') → (∀ i, v ≠ .ready i) → Visiting eligible s n r'

/-- Where a pass of the selection starts: at once, or after the fast-forward that follows a first pass in vain. -/
inductive Entry (eligible : Nat → Bool) (p : DispatchPolicy) : DispatchPolicy → Prop
  | first : Entry eligible p p
  | second {q s : DispatchPolicy} : selectHierarchicalPass eligible p = (.ok none, q) →
      fastForwardEmptyClassRounds eligible q = (.ok (), s) → Entry eligible p s

def OthersShort (m : DispatchPolicy) (c : DispatchClass) (eligible : Nat → Bool) : Prop :=
  ∀ c', c' ≠ c → m.classHasEligible c' eligible = true → Short m c' eligible

/-- Where a pass takes its slot from: a visit that found it ready, or the slot set aside once all four are over. -/
inductive Decides (eligible : Nat → Bool) (s : DispatchPolicy) : DispatchClass → Nat → DispatchPolicy → Prop
  | ready {n i : Nat} {r m : DispatchPolicy} : Visiting eligible s (n + 1) r →
      visitClass r.classCursor eligible r = (.ok (.ready i), m) →
      ¬ (s.classBurstExhausted r.classCursor = true ∧ s.hasOtherEligibleClass r.classCursor eligible = true) →
      Decides eligible s r.classCursor i m
  | fallback {c : DispatchClass} {i : Nat} {m : DispatchPolicy} : Visiting eligible s 0 m → OthersShort m c eligible →
      Decides eligible s c i m

structure Serves (eligible : Nat → Bool) (s : DispatchPolicy) (i : Nat) (q : DispatchPolicy) : Prop where
  run : ∃ c m, Decides eligible s c i m ∧ Inv m ∧ Static s m ∧ Tallies s m ∧ Pays m c eligible i
    ∧ commitClassService c i eligible m = (.ok i, q)

theorem Specs.hasOtherEligibleClass (h : Specs p q) (c : DispatchClass) (eligible : Nat → Bool) :
    q.hasOtherEligibleClass c eligible = p.hasOtherEligibleClass c eligible :=
  h.anySlot fun i spec => eligible i && decide (spec.slotClass ≠ c)

theorem Tallies.classBurstExhausted (h : Tallies p q) (hspecs : Specs p q) (c : DispatchClass) :
    q.classBurstExhausted c = p.classBurstExhausted c := by
  unfold DispatchPolicy.classBurstExhausted
  rw [h.lastClass, h.classBurst, hspecs.2]

/-- **How a visit that could pay is judged**: it yields exactly when the class has had its burst and another one waits. -/
theorem visitClass_judges (hinv : Inv p) {c : DispatchClass} {v : Visit} (hrun : visitClass c eligible p = (.ok v, q)) :
    (∀ i, v = .yielded i → p.classBurstExhausted c = true)
      ∧ ∀ i, v = .ready i → ¬ (p.classBurstExhausted c = true ∧ p.hasOtherEligibleClass c eligible = true) := by
  obtain ⟨v', q', hrun', hvisited⟩ := visitClass_ends hinv c eligible
  have hsame := hrun.symm.trans hrun'
  rw [Prod.mk.injEq, Except.ok.injEq] at hsame
  obtain ⟨rfl, rfl⟩ := hsame
  have hspecs := hvisited.static.specs
  unfold visitClass at hrun
  simp only [bind_run, self_run] at hrun
  obtain ⟨_, _, ⟨rfl, rfl⟩, hrun⟩ := hrun
  by_cases heligible : p.classHasEligible c eligible = true
  · rw [if_pos heligible] at hrun
    simp only [bind_run] at hrun
    obtain ⟨_, o, hopen, i, m, hprepare, hjudge⟩ := hrun
    have htallies : Tallies p m := by
      have ho := openClassVisit_tallies (p := p) c p (.refl p)
      rw [hopen] at ho
      have hm := prepareSlotInClass_tallies (p := p) c eligible o ho
      rwa [hprepare] at hm
    unfold judgeVisit at hjudge
    simp only [bind_run, self_run, lift_run] at hjudge
    obtain ⟨_, _, ⟨rfl, rfl⟩, cost, _, ⟨_, rfl⟩, hjudge⟩ := hjudge
    split at hjudge
    · simp only [bind_run, update_run, pure_run] at hjudge
      obtain ⟨_, _, rfl, rfl, rfl⟩ := hjudge
      exact ⟨nofun, nofun⟩
    · split at hjudge
      · rename_i hburst
        simp only [bind_run, update_run, pure_run] at hjudge
        obtain ⟨_, _, rfl, rfl, rfl⟩ := hjudge
        rw [Bool.and_eq_true, htallies.classBurstExhausted hspecs] at hburst
        exact ⟨fun _ _ => hburst.1, nofun⟩
      · rename_i hburst
        simp only [pure_run] at hjudge
        obtain ⟨rfl, rfl⟩ := hjudge
        rw [Bool.and_eq_true, htallies.classBurstExhausted hspecs, hspecs.hasOtherEligibleClass] at hburst
        exact ⟨nofun, fun _ _ => hburst⟩
  · rw [if_neg heligible] at hrun
    simp only [bind_run, update_run, pure_run] at hrun
    obtain ⟨_, _, rfl, rfl, rfl⟩ := hrun
    exact ⟨nofun, nofun⟩

/-- What a pass has on hand in the middle: the slot set aside, and every other class behind it passed over. -/
structure Midway (eligible : Nat → Bool) (n : Nat) (fallback : Option (DispatchClass × Nat)) (s p : DispatchPolicy) :
    Prop where
  inv : Inv p
  visiting : Visiting eligible s n p
  static : Static s p
  tallies : Tallies s p
  aside : ∀ c i, fallback = some (c, i) → Pays p c eligible i ∧ c ∉ upcoming n p.classCursor
    ∧ s.classBurstExhausted c = true
  behind : ∀ c, c ∉ upcoming n p.classCursor → (∀ i, fallback ≠ some (c, i)) → p.classHasEligible c eligible = true →
    Short p c eligible

theorem classBurstExhausted_unique {c c' : DispatchClass} (h : p.classBurstExhausted c = true)
    (h' : p.classBurstExhausted c' = true) : c = c' := by
  unfold classBurstExhausted at h h'
  simp only [Bool.and_eq_true, decide_eq_true_eq] at h h'
  exact Option.some.inj (h.1.symm.trans h'.1)

theorem passFrom_serves (eligible : Nat → Bool) (s : DispatchPolicy) : ∀ (n : Nat) (_ : n ≤ 4) {p : DispatchPolicy}
    (fallback : Option (DispatchClass × Nat)) (_ : Midway eligible n fallback s p) {i : Nat} {q : DispatchPolicy},
    passFrom eligible n fallback p = (.ok (some i), q) → Serves eligible s i q
  | 0, _, p, none, _, i, q, hrun => by
    unfold passFrom at hrun
    rw [pure_run] at hrun
    cases hrun.1
  | 0, _, p, some (c, j), hmid, i, q, hrun => by
    unfold passFrom at hrun
    simp only [bind_run, pure_run, Option.some.injEq] at hrun
    obtain ⟨k, _, hcommit, rfl, rfl⟩ := hrun
    obtain ⟨hpays, _, _⟩ := hmid.aside c j rfl
    obtain ⟨rfl, _⟩ := commitClassService_books hpays hcommit
    refine ⟨c, p, .fallback hmid.visiting fun c' hne heligible => ?_, hmid.inv, hmid.static, hmid.tallies, hpays, hcommit⟩
    refine hmid.behind c' (List.not_mem_nil) (fun k h => hne ?_) heligible
    cases h
    rfl
  | n + 1, hn, p, fallback, hmid, i, q, hrun => by
    unfold passFrom at hrun
    simp only [bind_run, self_run] at hrun
    obtain ⟨_, _, ⟨rfl, rfl⟩, v, r, hvisit, hrest⟩ := hrun
    obtain ⟨v', r', hrun', hv⟩ := visitClass_ends hmid.inv p.classCursor eligible
    have hsame := hvisit.symm.trans hrun'
    rw [Prod.mk.injEq, Except.ok.injEq] at hsame
    obtain ⟨rfl, rfl⟩ := hsame
    obtain ⟨hyields, hready⟩ := visitClass_judges hmid.inv hvisit
    have hfresh := not_mem_upcoming n (by omega) p.classCursor
    have htallies : Tallies p r := by
      have h := visitClass_tallies (p := p) p.classCursor eligible p (.refl p)
      rwa [hvisit] at h
    have hburst : ∀ c, p.classBurstExhausted c = s.classBurstExhausted c :=
      hmid.tallies.classBurstExhausted hmid.static.specs
    have helig : ∀ c, r.classHasEligible c eligible = p.classHasEligible c eligible := fun c =>
      hv.static.specs.classHasEligible c eligible
    cases v with
    | passed =>
      obtain ⟨hcursor, _⟩ := hv.moved nofun
      refine passFrom_serves eligible s n (by omega) fallback ⟨hv.inv, hmid.visiting.next hvisit nofun,
        hmid.static.trans hv.static, hmid.tallies.trans htallies, fun c j h => ?_, fun c hc hnot heligible => ?_⟩ hrest
      · obtain ⟨hpays, hnot, hexhausted⟩ := hmid.aside c j h
        obtain ⟨hne, hlater⟩ := not_or.1 (List.mem_cons.not.1 hnot)
        rw [hcursor]
        exact ⟨(hv.others c hne).pays hpays, hlater, hexhausted⟩
      · rw [hcursor] at hc
        rw [helig] at heligible
        by_cases hne : c = p.classCursor
        · subst hne
          exact (hv.passed rfl heligible).1
        · exact (hv.others c hne).short (hmid.behind c (List.mem_cons.not.2 (not_or.2 ⟨hne, hc⟩)) hnot heligible)
    | yielded j =>
      obtain ⟨hcursor, _⟩ := hv.moved nofun
      have hexhausted := hyields j rfl
      refine passFrom_serves eligible s n (by omega) (some (p.classCursor, j)) ⟨hv.inv, hmid.visiting.next hvisit nofun,
        hmid.static.trans hv.static, hmid.tallies.trans htallies, fun c k h => ?_, fun c hc hnot heligible => ?_⟩ hrest
      · cases h
        rw [hcursor]
        exact ⟨hv.pays j (.inl rfl), hfresh, (hburst p.classCursor).symm.trans hexhausted⟩
      · rw [hcursor] at hc
        rw [helig] at heligible
        have hne : c ≠ p.classCursor := fun h => hnot j (by rw [h])
        refine (hv.others c hne).short (hmid.behind c (List.mem_cons.not.2 (not_or.2 ⟨hne, hc⟩)) (fun k h => ?_) heligible)
        -- only one class can have had its burst
        obtain ⟨_, _, hexhausted'⟩ := hmid.aside c k h
        rw [← hburst] at hexhausted'
        exact hne (classBurstExhausted_unique hexhausted' hexhausted)
    | ready j =>
      simp only [bind_run, pure_run, Option.some.injEq] at hrest
      obtain ⟨k, _, hcommit, rfl, rfl⟩ := hrest
      have hpays := hv.pays j (.inr rfl)
      obtain ⟨rfl, _⟩ := commitClassService_books hpays hcommit
      refine ⟨p.classCursor, r, .ready hmid.visiting hvisit ?_, hv.inv, hmid.static.trans hv.static,
        hmid.tallies.trans htallies, hpays, hcommit⟩
      rw [← hburst, ← hmid.static.specs.hasOtherEligibleClass]
      exact hready k rfl

theorem Visiting.tallies {n : Nat} (h : Visiting eligible s n q) : Tallies s q := by
  induction h with
  | start => exact .refl s
  | @next n r r' v _ hvisit _ ih =>
    have hr := visitClass_tallies (p := s) r.classCursor eligible r ih
    rwa [hvisit] at hr

theorem passFrom_vain : ∀ (n : Nat) {p : DispatchPolicy} {fallback : Option (DispatchClass × Nat)},
    Visiting eligible s n p → passFrom eligible n fallback p = (.ok none, q) → Visiting eligible s 0 q
  | 0, p, none, hvisiting, hrun => by
    unfold passFrom at hrun
    rw [pure_run] at hrun
    obtain ⟨_, rfl⟩ := hrun
    exact hvisiting
  | 0, p, some (c, i), _, hrun => by
    unfold passFrom at hrun
    simp only [bind_run, pure_run] at hrun
    obtain ⟨_, _, _, hnone, _⟩ := hrun
    cases hnone
  | n + 1, p, fallback, hvisiting, hrun => by
    unfold passFrom at hrun
    simp only [bind_run, self_run] at hrun
    obtain ⟨_, _, ⟨rfl, rfl⟩, v, r, hvisit, hrest⟩ := hrun
    cases v with
    | passed => exact passFrom_vain n (hvisiting.next hvisit nofun) hrest
    | yielded i => exact passFrom_vain n (hvisiting.next hvisit nofun) hrest
    | ready i =>
      simp only [bind_run, pure_run] at hrest
      obtain ⟨_, _, _, hnone, _⟩ := hrest
      cases hnone

theorem Midway.start (hinv : Inv s) : Midway eligible 4 none s s :=
  ⟨hinv, .start, .refl s, .refl s, nofun, fun c hc => absurd (mem_upcoming_four _ c) hc⟩

/-- **A pass in vain** leaves every eligible class short of its prepared slot. -/
theorem pass_vain (hinv : Inv p) {r : DispatchPolicy} (hfirst : selectHierarchicalPass eligible p = (.ok none, r)) :
    Inv r ∧ Static p r ∧ r.classVisitOpen = false ∧ ∀ c, r.classHasEligible c eligible = true → Short r c eligible := by
  obtain ⟨found, r', hrun', hpassed⟩ := passFrom_ends eligible 4 (Nat.le_refl 4) hinv none nofun
  have hsame := hfirst.symm.trans hrun'
  rw [Prod.mk.injEq, Except.ok.injEq] at hsame
  obtain ⟨rfl, rfl⟩ := hsame
  obtain ⟨_, hstarved⟩ := hpassed
  refine ⟨hstarved.inv, hstarved.static, hstarved.closed (.inr (by simp [upcoming])), fun c hc => ?_⟩
  exact hstarved.short c (mem_upcoming_four _ c) ((hstarved.static.specs.classHasEligible c eligible).symm.trans hc)

theorem selectHierarchical_serves (hinv : Inv p) (hsome : ∃ i < p.slots.length, eligible i = true) {i : Nat}
    (hrun : selectHierarchical eligible p = (.ok i, q)) :
    ∃ s, Entry eligible p s ∧ Inv s ∧ Static p s ∧ Tallies p s ∧ Serves eligible s i q := by
  unfold selectHierarchical at hrun
  rw [bind_run] at hrun
  obtain ⟨first, r, hfirst, hrest⟩ := hrun
  cases first with
  | some j =>
    obtain ⟨rfl, rfl⟩ := pure_run.1 hrest
    exact ⟨p, .first, hinv, .refl p, .refl p, passFrom_serves eligible p 4 (Nat.le_refl 4) none (.start hinv) hfirst⟩
  | none =>
    simp only [bind_run, lift_run, okOr_ok] at hrest
    obtain ⟨_, s, hforward, second, _, hsecond, rfl, rfl⟩ := hrest
    obtain ⟨hinvR, hstaticR, hclosed, hshort⟩ := pass_vain hinv hfirst
    obtain ⟨k, hk, hke⟩ := hsome
    obtain ⟨c0, hc0⟩ := exists_class hk hke
    obtain ⟨_, s', hforward', hinvS, hstaticS, _⟩ :=
      fastForward_ends hinvR hclosed ⟨c0, (hstaticR.specs.classHasEligible c0 eligible).trans hc0⟩ hshort
    have hsame := hforward.symm.trans hforward'
    rw [Prod.mk.injEq] at hsame
    obtain ⟨_, rfl⟩ := hsame
    have htallies : Tallies r s := by
      have h := fastForwardEmptyClassRounds_tallies (p := r) eligible r (.refl r)
      rwa [hforward] at h
    exact ⟨s, .second hfirst hforward, hinvS, hstaticR.trans hstaticS,
      (passFrom_vain 4 .start hfirst).tallies.trans htallies,
      passFrom_serves eligible s 4 (Nat.le_refl 4) none (.start hinvS) hsecond⟩

end DispatchPolicy
end Dispatch
end ParaEgox
