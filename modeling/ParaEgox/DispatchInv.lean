import ParaEgox.Dispatcher

/-!
# DispatchInv — why a second pass always serves

Preparing a class leaves one of its slots affordable, and preparing it again changes nothing.  A pass that serves nothing
leaves every eligible class short of its prepared slot; the fast-forward brings the nearest of them within one quantum; the
second pass then opens that class with the quantum it lacks.
-/
namespace ParaEgox
namespace Dispatch

open Check Stateful

namespace DispatchPolicy

/-- **The invariant of the scheduler**: slots to choose from, and credit within its cap. -/
structure Inv (p : DispatchPolicy) : Prop where
  nonempty : p.slots ≠ []
  deficits : ∀ slot ∈ p.slots, slot.deficit ≤ maxDeficit
  classDeficits : ∀ c, p.classDeficit c ≤ maxDeficit

def Specs (p q : DispatchPolicy) : Prop :=
  q.slots.map (·.toDispatchSlotSpec) = p.slots.map (·.toDispatchSlotSpec) ∧ q.classes = p.classes

theorem Specs.refl (p : DispatchPolicy) : Specs p p := ⟨rfl, rfl⟩

variable {p q : DispatchPolicy} {i : Nat} {c : DispatchClass} {eligible : Nat → Bool}

theorem Specs.trans {r : DispatchPolicy} (h : Specs p q) (h' : Specs q r) : Specs p r :=
  ⟨h'.1.trans h.1, h'.2.trans h.2⟩

theorem Specs.symm (h : Specs p q) : Specs q p := ⟨h.1.symm, h.2.symm⟩

theorem Specs.length (h : Specs p q) : q.slots.length = p.slots.length := by
  have hlen := congrArg List.length h.1
  rwa [List.length_map, List.length_map] at hlen

theorem Specs.slot (h : Specs p q) {slot : DispatchSlot} (hslot : p.slots[i]? = some slot) :
    ∃ slot', q.slots[i]? = some slot' ∧ slot'.toDispatchSlotSpec = slot.toDispatchSlotSpec := by
  have hget := congrArg (·[i]?) h.1
  simp only [List.getElem?_map, hslot, Option.map_some, Option.map_eq_some_iff] at hget
  exact hget

structure Static (p q : DispatchPolicy) : Prop where
  specs : Specs p q
  slotCursor : q.slotCursor = p.slotCursor
  lastSlot : q.lastSlot = p.lastSlot
  slotBurst : q.slotBurst = p.slotBurst

theorem Static.refl (p : DispatchPolicy) : Static p p := ⟨.refl p, rfl, rfl, rfl⟩

theorem Static.trans {r : DispatchPolicy} (h : Static p q) (h' : Static q r) : Static p r :=
  ⟨h.specs.trans h'.specs, h'.slotCursor.trans h.slotCursor, h'.lastSlot.trans h.lastSlot, h'.slotBurst.trans h.slotBurst⟩

/-! ## What does not depend on credit -/

theorem anySlot_iff (p : DispatchPolicy) (test : Nat → DispatchSlot → Bool) :
    p.anySlot test = true ↔ ∃ i slot, p.slots[i]? = some slot ∧ test i slot = true := by
  simp only [anySlot, List.any_eq_true, id_eq]
  constructor
  · rintro ⟨b, hb, htest⟩
    obtain ⟨i, hi⟩ := List.mem_iff_getElem?.1 hb
    rw [List.getElem?_mapIdx, Option.map_eq_some_iff] at hi
    obtain ⟨slot, hslot, rfl⟩ := hi
    exact ⟨i, slot, hslot, htest⟩
  · rintro ⟨i, slot, hslot, htest⟩
    refine ⟨true, List.mem_iff_getElem?.2 ⟨i, ?_⟩, rfl⟩
    rw [List.getElem?_mapIdx, hslot, Option.map_some, htest]

theorem Specs.anySlot (h : Specs p q) (test : Nat → DispatchSlotSpec → Bool) :
    q.anySlot (fun i slot => test i slot.toDispatchSlotSpec) = p.anySlot fun i slot => test i slot.toDispatchSlotSpec := by
  rw [Bool.eq_iff_iff, anySlot_iff, anySlot_iff]
  constructor
  · rintro ⟨i, slot, hslot, htest⟩
    obtain ⟨slot', hslot', heq⟩ := h.symm.slot hslot
    exact ⟨i, slot', hslot', by rw [heq]; exact htest⟩
  · rintro ⟨i, slot, hslot, htest⟩
    obtain ⟨slot', hslot', heq⟩ := h.slot hslot
    exact ⟨i, slot', hslot', by rw [heq]; exact htest⟩

theorem Specs.classHasEligible (h : Specs p q) (c : DispatchClass) (eligible : Nat → Bool) :
    q.classHasEligible c eligible = p.classHasEligible c eligible :=
  h.anySlot fun i spec => eligible i && decide (spec.slotClass = c)

theorem Specs.hasOtherEligibleSlot (h : Specs p q) (i : Nat) (c : DispatchClass)
    (eligible : Nat → Bool) : q.hasOtherEligibleSlot i c eligible = p.hasOtherEligibleSlot i c eligible :=
  h.anySlot fun j spec => decide (j ≠ i) && eligible j && decide (spec.slotClass = c)

theorem Specs.any (h : Specs p q) (i : Nat) (test : DispatchSlotSpec → Bool) :
    q.slots[i]?.any (fun slot => test slot.toDispatchSlotSpec) = p.slots[i]?.any fun slot => test slot.toDispatchSlotSpec := by
  have hget := congrArg (·[i]?) h.1
  simp only [List.getElem?_map] at hget
  have hany := congrArg (Option.any test) hget
  rwa [Option.any_map, Option.any_map] at hany

theorem Static.slotBurstExhausted (h : Static p q) (i : Nat) :
    q.slotBurstExhausted i = p.slotBurstExhausted i := by
  unfold DispatchPolicy.slotBurstExhausted
  rw [h.lastSlot, h.slotBurst, h.specs.any i fun spec => decide (spec.maxBurst ≤ p.slotBurst)]

theorem Static.candidate (h : Static p q) (c : DispatchClass) (eligible : Nat → Bool) (i : Nat) :
    q.candidate c eligible i = p.candidate c eligible i := by
  unfold DispatchPolicy.candidate
  rw [h.slotBurstExhausted, h.specs.hasOtherEligibleSlot, h.specs.any i fun spec => decide (spec.slotClass = c)]

theorem Static.rotation (h : Static p q) (start : Nat) : q.rotation start = p.rotation start := by
  unfold DispatchPolicy.rotation
  rw [h.specs.length]

/-! ## Candidates -/

theorem candidate_iff :
    p.candidate c eligible i = true ↔ eligible i = true ∧ (∃ slot, p.slots[i]? = some slot ∧ slot.slotClass = c)
      ∧ ¬ (p.slotBurstExhausted i = true ∧ p.hasOtherEligibleSlot i c eligible = true) := by
  simp only [candidate, Bool.and_eq_true, Bool.not_eq_true', Bool.and_eq_false_iff, and_assoc, not_and_or,
    Bool.not_eq_true]
  refine and_congr_right fun _ => and_congr_left fun _ => ?_
  cases p.slots[i]? with
  | none => simp
  | some slot => simp

/-- **An eligible class has a candidate**: a burst cap holds one slot back only while another one waits. -/
theorem exists_candidate
    (h : p.classHasEligible c eligible = true) : ∃ i slot, p.slots[i]? = some slot ∧ p.candidate c eligible i = true := by
  obtain ⟨i, slot, hslot, htest⟩ := (anySlot_iff _ _).1 h
  rw [Bool.and_eq_true, decide_eq_true_eq] at htest
  by_cases hheld : p.slotBurstExhausted i = true ∧ p.hasOtherEligibleSlot i c eligible = true
  · obtain ⟨j, other, hother, hj⟩ := (anySlot_iff _ _).1 hheld.2
    simp only [Bool.and_eq_true, decide_eq_true_eq] at hj
    obtain ⟨⟨hne, heligible⟩, hclass⟩ := hj
    refine ⟨j, other, hother, candidate_iff.2 ⟨heligible, ⟨other, hother, hclass⟩, fun hburst => ?_⟩⟩
    -- the burst counter belongs to one slot
    have hi := hheld.1
    have hj := hburst.1
    simp only [slotBurstExhausted, Bool.and_eq_true, decide_eq_true_eq] at hi hj
    exact hne (Option.some.inj (hj.1.symm.trans hi.1))
  · exact ⟨i, slot, hslot, candidate_iff.2 ⟨htest.1, ⟨slot, hslot, htest.2⟩, hheld⟩⟩

theorem lt_of_slot {slot : DispatchSlot} (h : p.slots[i]? = some slot) :
    i < p.slots.length := (List.getElem?_eq_some_iff.1 h).1

theorem mem_rotation (start : Nat) (h : i < p.slots.length) : i ∈ p.rotation start := by
  have hpos : 0 < p.slots.length := by omega
  have hs := Nat.mod_lt start hpos
  refine List.mem_map.2 ?_
  by_cases hle : start % p.slots.length ≤ i
  · refine ⟨i - start % p.slots.length, List.mem_range.2 (by omega), ?_⟩
    rw [Nat.add_mod, Nat.mod_eq_of_lt (by omega : i - start % p.slots.length < p.slots.length),
      Nat.add_sub_cancel' hle, Nat.mod_eq_of_lt h]
  · refine ⟨p.slots.length + i - start % p.slots.length, List.mem_range.2 (by omega), ?_⟩
    rw [Nat.add_mod, Nat.mod_eq_of_lt (by omega : p.slots.length + i - start % p.slots.length < p.slots.length),
      Nat.add_sub_cancel' (by omega), Nat.add_mod_left, Nat.mod_eq_of_lt h]

theorem lt_of_mem_rotation {start : Nat} (hp : p.slots ≠ []) (h : i ∈ p.rotation start) :
    i < p.slots.length := by
  obtain ⟨offset, _, rfl⟩ := List.mem_map.1 h
  exact Nat.mod_lt _ (List.length_pos_iff.2 hp)

/-! ## Credit of slots -/

def neededRounds (slot : DispatchSlot) : Nat := (slot.cost - slot.deficit + (slot.weight - 1)) / slot.weight

theorem roundsFor_eq (slot : DispatchSlot) : roundsFor slot = .ok (neededRounds slot) := by
  have hcost := slot.cost_le
  have hweight := slot.weight_le
  have hpos := slot.weight_pos
  have hmax : maxServiceCostTokens + maxMinimumServiceWeight ≤ u64Max := by decide
  unfold roundsFor
  split
  · rename_i hzero
    rw [neededRounds, hzero, Nat.zero_add, Nat.div_eq_of_lt (by omega)]
  · have hadd : addU64 (slot.cost - slot.deficit) (slot.weight - 1) DispatcherError.counterOverflow
        = .ok (slot.cost - slot.deficit + (slot.weight - 1)) := addU64_ok.2 ⟨by omega, rfl⟩
    rw [hadd]
    rfl

theorem cost_le_of_rounds {slot : DispatchSlot} {rounds : Nat} (h : rounds = neededRounds slot) :
    slot.cost ≤ slot.deficit + rounds * slot.weight := by
  have hpos := slot.weight_pos
  have hlt := Nat.lt_div_mul_add hpos (a := slot.cost - slot.deficit + (slot.weight - 1))
  rw [← neededRounds, ← h] at hlt
  omega

theorem neededRounds_le (slot : DispatchSlot) : neededRounds slot ≤ maxServiceCostTokens := by
  have hcost := slot.cost_le
  have hpos := slot.weight_pos
  by_cases hzero : slot.cost - slot.deficit = 0
  · rw [neededRounds, hzero, Nat.zero_add, Nat.div_eq_of_lt (by omega)]
    exact Nat.zero_le _
  · refine Nat.div_le_of_le_mul ?_
    obtain ⟨m, hm⟩ : ∃ m, slot.cost - slot.deficit = m + 1 := ⟨slot.cost - slot.deficit - 1, by omega⟩
    have hmul : slot.weight + m ≤ slot.weight * (m + 1) := by
      rw [Nat.mul_succ, Nat.add_comm]
      exact Nat.add_le_add_right (Nat.le_mul_of_pos_left m hpos) _
    have hle : slot.weight * (m + 1) ≤ slot.weight * maxServiceCostTokens := Nat.mul_le_mul_left _ (by omega)
    omega

/-- The least rounds over a list of slots: every candidate needs at least as many, and one of them needs exactly so many. -/
theorem leastRounds_ok (p : DispatchPolicy) (c : DispatchClass) (eligible : Nat → Bool) : ∀ (indices : List Nat)
    (least : Option Nat), ∃ least', scan (p.leastRounds c eligible) least indices = .ok least'
      ∧ (∀ r, least = some r → ∃ r', least' = some r' ∧ r' ≤ r)
      ∧ (∀ i ∈ indices, ∀ slot, p.slots[i]? = some slot → p.candidate c eligible i = true →
          ∃ r', least' = some r' ∧ r' ≤ neededRounds slot)
      ∧ (∀ r', least' = some r' → least = some r' ∨ ∃ i ∈ indices, ∃ slot, p.slots[i]? = some slot
          ∧ p.candidate c eligible i = true ∧ r' = neededRounds slot)
  | [], least => by
    refine ⟨least, rfl, fun r hr => ⟨r, hr, Nat.le_refl r⟩, fun i hi => absurd hi List.not_mem_nil, fun r hr => .inl hr⟩
  | i :: indices, least => by
    -- what the first index makes of the value so far
    have hstep : ∃ mid, p.leastRounds c eligible least i = .ok mid
        ∧ (∀ r, least = some r → ∃ r', mid = some r' ∧ r' ≤ r)
        ∧ (∀ slot, p.slots[i]? = some slot → p.candidate c eligible i = true →
            ∃ r', mid = some r' ∧ r' ≤ neededRounds slot)
        ∧ (∀ r', mid = some r' → least = some r' ∨ ∃ slot, p.slots[i]? = some slot
            ∧ p.candidate c eligible i = true ∧ r' = neededRounds slot) := by
      unfold leastRounds
      cases hslot : p.slots[i]? with
      | none =>
        exact ⟨least, rfl, fun r hr => ⟨r, hr, Nat.le_refl r⟩, fun slot h => absurd h (by simp), fun r hr => .inl hr⟩
      | some slot =>
        dsimp only
        by_cases hcandidate : p.candidate c eligible i = true
        · rw [if_pos hcandidate, roundsFor_eq]
          refine ⟨_, rfl, fun r hr => ?_, fun slot' h _ => ?_, fun r' hr' => ?_⟩
          · subst hr
            exact ⟨_, rfl, Nat.min_le_left _ _⟩
          · cases h
            cases least with
            | none => exact ⟨_, rfl, Nat.le_refl _⟩
            | some r => exact ⟨_, rfl, Nat.min_le_right _ _⟩
          · cases least with
            | none => exact .inr ⟨slot, rfl, hcandidate, (Option.some.inj hr').symm⟩
            | some r =>
              have hmin : min r (neededRounds slot) = r' := Option.some.inj hr'
              rcases Nat.le_total r (neededRounds slot) with hle | hle
              · rw [Nat.min_eq_left hle] at hmin
                exact .inl (by rw [hmin])
              · rw [Nat.min_eq_right hle] at hmin
                exact .inr ⟨slot, rfl, hcandidate, hmin.symm⟩
        · rw [if_neg hcandidate]
          exact ⟨least, rfl, fun r hr => ⟨r, hr, Nat.le_refl r⟩, fun slot' _ h => absurd h hcandidate,
            fun r hr => .inl hr⟩
    obtain ⟨mid, hmid, hold, hfirst, hfrom⟩ := hstep
    obtain ⟨least', hrest, hold', hlater, hfrom'⟩ := leastRounds_ok p c eligible indices mid
    refine ⟨least', (scan_ok_cons _ _ _ _ _).2 ⟨mid, hmid, hrest⟩, fun r hr => ?_, fun j hj slot hslot hcandidate => ?_,
      fun r' hr' => ?_⟩
    · obtain ⟨r1, h1, hle1⟩ := hold r hr
      obtain ⟨r2, h2, hle2⟩ := hold' r1 h1
      exact ⟨r2, h2, Nat.le_trans hle2 hle1⟩
    · rcases List.mem_cons.1 hj with rfl | hj
      · obtain ⟨r1, h1, hle1⟩ := hfirst slot hslot hcandidate
        obtain ⟨r2, h2, hle2⟩ := hold' r1 h1
        exact ⟨r2, h2, Nat.le_trans hle2 hle1⟩
      · exact hlater j hj slot hslot hcandidate
    · rcases hfrom' r' hr' with hr | ⟨j, hj, slot, hslot, hcandidate, heq⟩
      · rcases hfrom r' hr with hr | ⟨slot, hslot, hcandidate, heq⟩
        · exact .inl hr
        · exact .inr ⟨i, List.mem_cons_self, slot, hslot, hcandidate, heq⟩
      · exact .inr ⟨j, List.mem_cons_of_mem _ hj, slot, hslot, hcandidate, heq⟩

def withCredit (rounds : Nat) (slot : DispatchSlot) : DispatchSlot :=
  { slot with deficit := min (slot.deficit + rounds * slot.weight) maxDeficit }

theorem creditedSlot_eq {rounds : Nat} {slot : DispatchSlot} (hrounds : rounds ≤ maxServiceCostTokens)
    (hdeficit : slot.deficit ≤ maxDeficit) : creditedSlot rounds slot = .ok (withCredit rounds slot) := by
  have hmul : rounds * slot.weight ≤ maxServiceCostTokens * maxMinimumServiceWeight :=
    Nat.mul_le_mul hrounds slot.weight_le
  have hmax : maxDeficit + maxServiceCostTokens * maxMinimumServiceWeight ≤ u64Max := by decide
  unfold creditedSlot
  rw [rejectIf_neg (by omega), addU64_ok.2 ⟨by omega, rfl⟩]
  rfl

theorem creditFrom_eq {rounds : Nat} (hrounds : rounds ≤ maxServiceCostTokens) (c : DispatchClass) (eligible : Nat → Bool) :
    ∀ (slots : List DispatchSlot) (i : Nat), (∀ slot ∈ slots, slot.deficit ≤ maxDeficit) →
      creditFrom rounds c eligible i slots = (.ok (), slots.mapIdx fun j slot =>
        if eligible (i + j) && decide (slot.slotClass = c) then withCredit rounds slot else slot)
  | [], _, _ => rfl
  | slot :: slots, i, hdeficits => by
    obtain ⟨hslot, hslots⟩ := List.forall_mem_cons.1 hdeficits
    have ih := creditFrom_eq hrounds c eligible slots (i + 1) hslots
    have hshift : (fun j (slot : DispatchSlot) =>
          if eligible (i + (j + 1)) && decide (slot.slotClass = c) then withCredit rounds slot else slot)
        = fun j slot => if eligible (i + 1 + j) && decide (slot.slotClass = c) then withCredit rounds slot else slot := by
      funext j slot
      rw [show i + (j + 1) = i + 1 + j by omega]
    rw [List.mapIdx_cons, hshift, Nat.add_zero]
    unfold creditFrom
    by_cases htest : (eligible i && decide (slot.slotClass = c)) = true
    · rw [if_pos htest, if_pos htest, creditedSlot_eq hrounds hslot, ih]
    · rw [if_neg htest, if_neg htest, ih]

/-! ## Preparing a class -/

theorem affordable_spec (h : p.affordableSlot c eligible = some i) :
    eligible i = true ∧ p.candidate c eligible i = true ∧ i ∈ p.rotation (p.slotCursor c % p.slots.length)
      ∧ ∃ slot, p.slots[i]? = some slot ∧ slot.slotClass = c ∧ slot.cost ≤ slot.deficit := by
  have hmem := List.mem_of_find?_eq_some h
  have htest := List.find?_some h
  rw [Bool.and_eq_true] at htest
  obtain ⟨hcandidate, hfunds⟩ := htest
  obtain ⟨heligible, ⟨slot, hslot, hclass⟩, _⟩ := candidate_iff.1 hcandidate
  rw [hslot, Option.any_some, decide_eq_true_eq] at hfunds
  exact ⟨heligible, hcandidate, hmem, slot, hslot, hclass, hfunds⟩

/-- What preparing a class leaves: only credit of its own slots has changed, and a slot of it is affordable. -/
structure Credited (c : DispatchClass) (eligible : Nat → Bool) (p : DispatchPolicy) (i : Nat) (q : DispatchPolicy) :
    Prop where
  slots : ∃ slots, q = { p with slots := slots }
  static : Static p q
  deficits : ∀ slot ∈ q.slots, slot.deficit ≤ maxDeficit
  others : ∀ (j : Nat) (slot : DispatchSlot), p.slots[j]? = some slot → slot.slotClass ≠ c → q.slots[j]? = some slot
  affordable : q.affordableSlot c eligible = some i

theorem static_of_slots {slots : List DispatchSlot}
    (h : slots.map (·.toDispatchSlotSpec) = p.slots.map (·.toDispatchSlotSpec)) : Static p { p with slots := slots } :=
  ⟨⟨h, rfl⟩, rfl, rfl, rfl⟩

theorem prepareSlotInClass_credits (hinv : Inv p) (heligible : p.classHasEligible c eligible = true) :
    Ends (prepareSlotInClass c eligible) p (Credited c eligible p) := by
  obtain ⟨k, kslot, hkslot, hk⟩ := exists_candidate heligible
  have hkmem := mem_rotation (p.slotCursor c % p.slots.length) (lt_of_slot hkslot)
  obtain ⟨least, hleast, _, hmin, hfrom⟩ :=
    leastRounds_ok p c eligible (p.rotation (p.slotCursor c % p.slots.length)) none
  obtain ⟨rounds, hrounds, _⟩ := hmin k hkmem kslot hkslot hk
  obtain hnone | ⟨j, hj, slot, hslot, hcandidate, heq⟩ := hfrom rounds hrounds
  · cases hnone
  have hle : rounds ≤ maxServiceCostTokens := heq ▸ neededRounds_le slot
  obtain ⟨heligibleJ, ⟨_, hslot', hclass⟩, _⟩ := candidate_iff.1 hcandidate
  cases hslot.symm.trans hslot'
  -- once credited, the slot that needed the fewest rounds is affordable
  have hfound : ∀ q, Static p q → (∃ slot', q.slots[j]? = some slot' ∧ slot'.cost ≤ slot'.deficit) →
      ∃ i, q.affordableSlot c eligible = some i := by
    rintro q hstatic ⟨slot', hget, hfunds⟩
    rw [← Option.isSome_iff_exists, affordableSlot, List.find?_isSome]
    refine ⟨j, ?_, ?_⟩
    · rw [hstatic.slotCursor, hstatic.specs.length, hstatic.rotation]
      exact hj
    · rw [hstatic.candidate, hcandidate, hget]
      simpa using hfunds
  unfold prepareSlotInClass
  rw [hrounds] at hleast
  refine ends_bind_self (ends_bind_lift hleast (ends_bind_lift (a := rounds) rfl ?_))
  have hcredit : Ends (creditSlots rounds c eligible) p fun _ q =>
      (∃ slots, q = { p with slots := slots }) ∧ Static p q ∧ (∀ slot ∈ q.slots, slot.deficit ≤ maxDeficit)
        ∧ (∀ (j : Nat) (slot : DispatchSlot), p.slots[j]? = some slot → slot.slotClass ≠ c → q.slots[j]? = some slot)
        ∧ ∃ slot', q.slots[j]? = some slot' ∧ slot'.cost ≤ slot'.deficit := by
    by_cases hzero : rounds = 0
    · refine ⟨(), p, if_pos hzero, ⟨p.slots, rfl⟩, .refl p, hinv.deficits, fun j slot h _ => h, slot, hslot, ?_⟩
      have hpaid := cost_le_of_rounds heq
      rw [hzero] at hpaid
      omega
    · have hcredited := creditFrom_eq hle c eligible p.slots 0 hinv.deficits
      refine ⟨(), _, (if_neg hzero).trans (by rw [hcredited]), ⟨_, rfl⟩, static_of_slots ?_, ?_, ?_, ?_⟩
      · refine List.ext_getElem? fun i => ?_
        rw [List.getElem?_map, List.getElem?_map, List.getElem?_mapIdx, Option.map_map]
        refine congrArg (Option.map · _) (funext fun slot => ?_)
        dsimp only [Function.comp_apply]
        split <;> rfl
      · intro slot hmem
        obtain ⟨i, hi⟩ := List.mem_iff_getElem?.1 hmem
        rw [List.getElem?_mapIdx, Option.map_eq_some_iff] at hi
        obtain ⟨old, hold, rfl⟩ := hi
        split
        · exact Nat.min_le_right _ _
        · exact hinv.deficits old (List.mem_of_getElem? hold)
      · intro i old hold hne
        rw [List.getElem?_mapIdx, hold, Option.map_some, if_neg (by simp [hne])]
      · refine ⟨withCredit rounds slot, ?_, ?_⟩
        · rw [List.getElem?_mapIdx, hslot, Option.map_some, Nat.zero_add, if_pos (by simp [heligibleJ, hclass])]
        · have hpaid := cost_le_of_rounds heq
          have hcap : slot.cost ≤ maxDeficit := Nat.le_trans slot.cost_le (by decide)
          exact Nat.le_min.2 ⟨hpaid, hcap⟩
  refine hcredit.bind ?_
  rintro _ q ⟨hslots, hstatic, hdeficits, hothers, hfunds⟩
  refine ends_bind_self ?_
  obtain ⟨i, hi⟩ := hfound _ hstatic hfunds
  exact ends_lift (by rw [hi]; rfl) ⟨hslots, hstatic, hdeficits, hothers, hi⟩

/-- **Preparing a class again changes nothing**: a slot that is affordable needs no round of credit. -/
theorem prepareSlotInClass_again
    (h : p.affordableSlot c eligible = some i) : prepareSlotInClass c eligible p = (.ok i, p) := by
  obtain ⟨_, hcandidate, hmem, slot, hslot, _, hfunds⟩ := affordable_spec h
  obtain ⟨least, hleast, _, hmin, _⟩ :=
    leastRounds_ok p c eligible (p.rotation (p.slotCursor c % p.slots.length)) none
  obtain ⟨rounds, hrounds, hle⟩ := hmin i hmem slot hslot hcandidate
  have hpos := slot.weight_pos
  have hzero : neededRounds slot = 0 := by
    rw [neededRounds, Nat.sub_eq_zero_of_le hfunds, Nat.zero_add, Nat.div_eq_of_lt (by omega)]
  have hnone : rounds = 0 := by omega
  have hends : Ends (prepareSlotInClass c eligible) p fun a s => a = i ∧ s = p := by
    unfold prepareSlotInClass
    rw [hrounds] at hleast
    refine ends_bind_self (ends_bind_lift hleast (ends_bind_lift (a := rounds) rfl ?_))
    refine ends_bind_run (a := ()) (t := p) (if_pos hnone) (ends_bind_self ?_)
    exact ends_lift (by rw [h]; rfl) ⟨rfl, rfl⟩
  obtain ⟨a, s, hrun, rfl, rfl⟩ := hends
  exact hrun

structure Prepared (c : DispatchClass) (eligible : Nat → Bool) (p : DispatchPolicy) (i : Nat) (q : DispatchPolicy) : Prop
    extends Credited c eligible p i q where
  again : ∀ j, p.affordableSlot c eligible = some j → j = i ∧ q = p

theorem prepareSlotInClass_ends (hinv : Inv p) (heligible : p.classHasEligible c eligible = true) :
    Ends (prepareSlotInClass c eligible) p (Prepared c eligible p) := by
  obtain ⟨i, q, hrun, hcredited⟩ := prepareSlotInClass_credits hinv heligible
  refine ⟨i, q, hrun, hcredited, fun j hj => ?_⟩
  have heq := hrun.symm.trans (prepareSlotInClass_again hj)
  rw [Prod.mk.injEq, Except.ok.injEq] at heq
  exact ⟨heq.1.symm, heq.2⟩

/-! ## Visits -/

structure KeepsSlots (c : DispatchClass) (p q : DispatchPolicy) : Prop where
  static : Static p q
  slots : ∀ (j : Nat) (slot : DispatchSlot), p.slots[j]? = some slot → slot.slotClass = c → q.slots[j]? = some slot

structure Keeps (c : DispatchClass) (p q : DispatchPolicy) : Prop extends KeepsSlots c p q where
  deficit : q.classDeficit c = p.classDeficit c

theorem Keeps.trans {r : DispatchPolicy} (h : Keeps c p q) (h' : Keeps c q r) : Keeps c p r :=
  ⟨⟨h.static.trans h'.static, fun j slot hslot hclass => h'.slots j slot (h.slots j slot hslot hclass) hclass⟩,
    h'.deficit.trans h.deficit⟩

theorem KeepsSlots.affordable (h : KeepsSlots c p q) (eligible : Nat → Bool) :
    q.affordableSlot c eligible = p.affordableSlot c eligible := by
  unfold affordableSlot
  rw [h.static.slotCursor, h.static.specs.length, h.static.rotation]
  refine congrArg (List.find? · _) (funext fun i => ?_)
  rw [h.static.candidate]
  cases hcandidate : p.candidate c eligible i with
  | false => rfl
  | true =>
    obtain ⟨_, ⟨slot, hslot, hclass⟩, _⟩ := candidate_iff.1 hcandidate
    rw [hslot, h.slots i slot hslot hclass]

def Prices (p : DispatchPolicy) (c : DispatchClass) (eligible : Nat → Bool) (i cost : Nat) : Prop :=
  p.affordableSlot c eligible = some i ∧ p.slotCost i = .ok cost

theorem KeepsSlots.prices (h : KeepsSlots c p q) {cost : Nat}
    (hp : Prices p c eligible i cost) : Prices q c eligible i cost := by
  obtain ⟨haffordable, hcost⟩ := hp
  obtain ⟨_, _, _, slot, hslot, hclass, _⟩ := affordable_spec haffordable
  refine ⟨(h.affordable eligible).trans haffordable, ?_⟩
  rw [← hcost, slotCost, slotCost, h.slots i slot hslot hclass, hslot]

theorem prices_unique {i' cost cost' : Nat}
    (h : Prices p c eligible i cost) (h' : Prices p c eligible i' cost') : i = i' ∧ cost = cost' := by
  have hi : i = i' := Option.some.inj (h.1.symm.trans h'.1)
  subst hi
  exact ⟨rfl, Except.ok.inj (h.2.symm.trans h'.2)⟩

theorem exists_price (h : p.affordableSlot c eligible = some i) : ∃ cost, Prices p c eligible i cost := by
  obtain ⟨_, _, _, slot, hslot, _, _⟩ := affordable_spec h
  exact ⟨slot.cost, h, by rw [slotCost, hslot]; rfl⟩

theorem price_le {cost : Nat} (h : Prices p c eligible i cost) : 0 < cost ∧ cost ≤ maxServiceCostTokens := by
  have hcost := h.2
  simp only [slotCost, bind_ok, okOr_ok, pure_ok] at hcost
  obtain ⟨slot, _, rfl⟩ := hcost
  exact ⟨slot.cost_pos, slot.cost_le⟩

def Short (p : DispatchPolicy) (c : DispatchClass) (eligible : Nat → Bool) : Prop :=
  ∃ i cost, Prices p c eligible i cost ∧ p.classDeficit c < cost

def Pays (p : DispatchPolicy) (c : DispatchClass) (eligible : Nat → Bool) (i : Nat) : Prop :=
  ∃ cost, Prices p c eligible i cost ∧ cost ≤ p.classDeficit c

def Funded (p : DispatchPolicy) (c : DispatchClass) (eligible : Nat → Bool) : Prop :=
  ∃ i cost, Prices p c eligible i cost ∧ cost ≤ p.classDeficit c + (p.classes c).quantum

theorem Keeps.short (h : Keeps c p q) (hp : Short p c eligible) : Short q c eligible := by
  obtain ⟨i, cost, hprices, hlt⟩ := hp
  exact ⟨i, cost, h.prices hprices, by rw [h.deficit]; exact hlt⟩

theorem Keeps.pays (h : Keeps c p q) (hp : Pays p c eligible i) : Pays q c eligible i := by
  obtain ⟨cost, hprices, hle⟩ := hp
  exact ⟨cost, h.prices hprices, by rw [h.deficit]; exact hle⟩

theorem Keeps.funded (h : Keeps c p q) (hp : Funded p c eligible) : Funded q c eligible := by
  obtain ⟨i, cost, hprices, hle⟩ := hp
  exact ⟨i, cost, h.prices hprices, by rw [h.deficit, h.static.specs.2]; exact hle⟩

structure Visited (c : DispatchClass) (eligible : Nat → Bool) (p : DispatchPolicy) (v : Visit) (q : DispatchPolicy) :
    Prop where
  inv : Inv q
  static : Static p q
  others : ∀ c', c' ≠ c → Keeps c' p q
  moved : (∀ i, v ≠ .ready i) → q.classCursor = c.next ∧ q.classVisitOpen = false
  passed : v = .passed → p.classHasEligible c eligible = true →
    Short q c eligible ∧ (p.classVisitOpen = false → ¬ Funded p c eligible)
  pays : ∀ i, v = .yielded i ∨ v = .ready i → Pays q c eligible i

theorem openClassVisit_run (hinv : Inv p) (c : DispatchClass) :
    openClassVisit c p = (.ok (), if p.classVisitOpen then p else
      { setClassDeficit c (min (p.classDeficit c + (p.classes c).quantum) maxDeficit) p with classVisitOpen := true }) := by
  have hdeficit := hinv.classDeficits c
  have hquantum := (p.classes c).quantum_le
  have hmax : maxDeficit + maxClassQuantum ≤ u64Max := by decide
  have hadd : addU64 (p.classDeficit c) (p.classes c).quantum DispatcherError.counterOverflow
      = .ok (p.classDeficit c + (p.classes c).quantum) := addU64_ok.2 ⟨by omega, rfl⟩
  cases hopen : p.classVisitOpen with
  | true => exact if_pos hopen
  | false =>
    have hcredit : creditClassVisit c p
        = (.ok (), setClassDeficit c (min (p.classDeficit c + (p.classes c).quantum) maxDeficit) p) := by
      change follow _ (lift (addU64 (p.classDeficit c) (p.classes c).quantum DispatcherError.counterOverflow) p) = _
      rw [hadd]
      rfl
    refine (if_neg (by rw [hopen]; decide)).trans ?_
    change follow _ (creditClassVisit c p) = _
    rw [hcredit]
    rfl

theorem opened_keeps (c : DispatchClass) :
    ∃ q, (if p.classVisitOpen then p else
        { setClassDeficit c (min (p.classDeficit c + (p.classes c).quantum) maxDeficit) p with classVisitOpen := true }) = q
      ∧ q.slots = p.slots ∧ q.classes = p.classes ∧ q.classCursor = p.classCursor ∧ Static p q
      ∧ (∀ c', c' ≠ c → q.classDeficit c' = p.classDeficit c')
      ∧ (p.classVisitOpen = false → q.classDeficit c = min (p.classDeficit c + (p.classes c).quantum) maxDeficit)
      ∧ (q.classDeficit c ≤ maxDeficit ∨ q.classDeficit c = p.classDeficit c) := by
  cases hopen : p.classVisitOpen with
  | true => exact ⟨p, rfl, rfl, rfl, rfl, .refl p, fun _ _ => rfl, fun h => absurd h (by simp), .inr rfl⟩
  | false =>
    refine ⟨_, rfl, rfl, rfl, rfl, ⟨⟨rfl, rfl⟩, rfl, rfl, rfl⟩, fun c' hne => ?_, fun _ => ?_, .inl ?_⟩
    · exact Function.update_of_ne hne _ _
    · exact Function.update_self _ _ _
    · exact (Function.update_self c _ _).le.trans (Nat.min_le_right _ _)

theorem static_moved (h : Static p q) (c : DispatchClass) : Static p (advanceClassVisit c q) :=
  ⟨h.specs, h.slotCursor, h.lastSlot, h.slotBurst⟩

theorem Keeps.moved (h : Keeps c p q) (c' : DispatchClass) :
    Keeps c p (advanceClassVisit c' q) :=
  ⟨⟨static_moved h.static c', h.slots⟩, h.deficit⟩

theorem Inv.moved (h : Inv p) (c : DispatchClass) : Inv (advanceClassVisit c p) :=
  ⟨h.nonempty, h.deficits, h.classDeficits⟩

theorem visitClass_ends (hinv : Inv p) (c : DispatchClass) (eligible : Nat → Bool) :
    Ends (visitClass c eligible) p (Visited c eligible p) := by
  unfold visitClass
  refine ends_bind_self ?_
  by_cases heligible : p.classHasEligible c eligible = true
  · rw [if_pos heligible]
    obtain ⟨o, hopened, hslots, hclasses, hcursor, hstatic, hothers, hcredit, hcap⟩ := opened_keeps (p := p) c
    refine ends_bind_run ((openClassVisit_run hinv c).trans (by rw [hopened])) ?_
    have hinvO : Inv o := by
      refine ⟨by rw [hslots]; exact hinv.nonempty, by rw [hslots]; exact hinv.deficits, fun c' => ?_⟩
      by_cases hc : c' = c
      · subst hc
        rcases hcap with hcap | hcap
        · exact hcap
        · rw [hcap]
          exact hinv.classDeficits _
      · rw [hothers c' hc]
        exact hinv.classDeficits c'
    have heligibleO : o.classHasEligible c eligible = true := (hstatic.specs.classHasEligible c eligible).trans heligible
    refine (prepareSlotInClass_ends hinvO heligibleO).bind ?_
    rintro i q ⟨⟨⟨slots, hq⟩, hprepared, hdeficits, hkept, haffordable⟩, hagain⟩
    have hdeficit : q.classDeficit = o.classDeficit := by rw [hq]
    have hinvQ : Inv q := by
      refine ⟨?_, hdeficits, fun c' => by rw [hdeficit]; exact hinvO.classDeficits c'⟩
      intro hnil
      have hlen := hprepared.specs.length
      rw [hnil, List.length_nil] at hlen
      exact hinvO.nonempty (List.length_eq_zero_iff.1 hlen.symm)
    have hstaticQ : Static p q := hstatic.trans hprepared
    have hothersQ : ∀ c', c' ≠ c → Keeps c' p q := by
      intro c' hne
      refine ⟨⟨hstaticQ, fun j slot hslot hclass => hkept j slot (by rw [hslots]; exact hslot) ?_⟩, ?_⟩
      · rw [hclass]
        exact hne
      · rw [hdeficit, hothers c' hne]
    obtain ⟨cost, hprices⟩ := exists_price haffordable
    unfold judgeVisit
    refine ends_bind_self (ends_bind_lift hprices.2 ?_)
    by_cases hshort : q.classDeficit c < cost
    · rw [if_pos hshort]
      refine ends_bind_update (ends_pure ?_)
      refine ⟨hinvQ.moved c, static_moved hstaticQ c, fun c' hne => (hothersQ c' hne).moved c, fun _ => ⟨rfl, rfl⟩, ?_, ?_⟩
      · intro _ _
        refine ⟨⟨i, cost, hprices, hshort⟩, ?_⟩
        rintro hclosed ⟨i', cost', hprices', hle⟩
        -- the class had a price before its visit, so preparing it changed nothing and its quantum paid for the slot
        have hkeeps : KeepsSlots c p o := ⟨hstatic, fun j slot hslot _ => by rw [hslots]; exact hslot⟩
        obtain ⟨rfl, rfl⟩ := hagain i' (hkeeps.prices hprices').1
        obtain ⟨_, rfl⟩ := prices_unique (hkeeps.prices hprices') hprices
        have hcost : cost' ≤ maxDeficit := Nat.le_trans (price_le hprices).2 (by decide)
        rw [hcredit hclosed] at hshort
        omega
      · rintro i' (h | h) <;> cases h
    · rw [if_neg hshort]
      have hpays : Pays q c eligible i := ⟨cost, hprices, Nat.not_lt.1 hshort⟩
      by_cases hburst : (q.classBurstExhausted c && q.hasOtherEligibleClass c eligible) = true
      · rw [if_pos hburst]
        refine ends_bind_update (ends_pure ?_)
        refine ⟨hinvQ.moved c, static_moved hstaticQ c, fun c' hne => (hothersQ c' hne).moved c, fun _ => ⟨rfl, rfl⟩, ?_, ?_⟩
        · intro h
          cases h
        · rintro i' (h | h)
          · cases h
            exact hpays
          · cases h
      · rw [if_neg hburst]
        refine ends_pure ⟨hinvQ, hstaticQ, hothersQ, fun h => absurd rfl (h i), fun h => absurd h (by simp), ?_⟩
        rintro i' (h | h)
        · cases h
        · cases h
          exact hpays
  · rw [if_neg heligible]
    refine ends_bind_update (ends_pure ?_)
    refine ⟨hinv.moved c, static_moved (.refl p) c, ?_, fun _ => ⟨rfl, rfl⟩, fun _ h => absurd h heligible, ?_⟩
    · exact fun c' _ => ⟨⟨static_moved (.refl p) c, fun _ _ h _ => h⟩, rfl⟩
    · rintro i (h | h) <;> cases h

end DispatchPolicy
end Dispatch
end ParaEgox
