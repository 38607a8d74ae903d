import ParaEgox.DispatchBursts

/-!
# DispatchShares — proportional shares within a class

Credit comes to all eligible slots of a class at once, in the same number of rounds, each slot by its weight; a service
takes the slot's cost.  So two slots that are always eligible, and whose credit is never cut off, have received credit in
proportion to their weights.
-/
namespace ParaEgox
namespace Dispatch

open Check Stateful

namespace DispatchPolicy

variable {p q s : DispatchPolicy} {eligible : Nat → Bool} {permits : DomainPermitLedger}
  {readiness : List DispatchReadiness} {history : List Service}

/-! ## Where credit is given -/

def roundsAt (p : DispatchPolicy) (c : DispatchClass) (eligible : Nat → Bool) : Option Nat :=
  match scan (p.leastRounds c eligible) none (p.rotation (p.slotCursor c % p.slots.length)) with
  | .ok least => least
  | .error _ => none

/-- The states in which a selection prepares a class: in the visits of its passes, and in the fast-forward. -/
inductive Preparing (eligible : Nat → Bool) (p : DispatchPolicy) : DispatchClass → DispatchPolicy → Prop
  | visit {s r o : DispatchPolicy} {n : Nat} : Entry eligible p s → Visiting eligible s (n + 1) r →
      r.classHasEligible r.classCursor eligible = true → openClassVisit r.classCursor r = (.ok (), o) →
      Preparing eligible p r.classCursor o
  | forward {q o : DispatchPolicy} {before after : List DispatchClass} {c : DispatchClass} {least : Option Nat} :
      selectHierarchicalPass eligible p = (.ok none, q) → DispatchClass.all = before ++ c :: after →
      visitsUntilService eligible before none q = (.ok least, o) → o.classHasEligible c eligible = true →
      Preparing eligible p c o

def Unclamped (eligible : Nat → Bool) (p : DispatchPolicy) (a : Nat) : Prop :=
  ∀ c o, Preparing eligible p c o → ∀ rounds, o.roundsAt c eligible = some rounds → ∀ slot, o.slots[a]? = some slot →
    slot.slotClass = c → eligible a = true → slot.deficit + rounds * slot.weight ≤ maxDeficit

def Raised (rounds a : Nat) (p q : DispatchPolicy) : Prop :=
  ∀ slot, p.slots[a]? = some slot → q.slots[a]? = some { slot with deficit := slot.deficit + rounds * slot.weight }

theorem Raised.of_slots {a : Nat} (h : q.slots[a]? = p.slots[a]?) : Raised 0 a p q := by
  intro slot hslot
  rw [h, hslot, Nat.zero_mul, Nat.add_zero]

theorem Raised.trans {r : DispatchPolicy} {n m a : Nat} (h : Raised n a p q) (h' : Raised m a q r) :
    Raised (n + m) a p r := by
  intro slot hslot
  rw [h' _ (h slot hslot)]
  simp only [Nat.add_mul, Nat.add_assoc]

variable {c : DispatchClass} {i bound : Nat}

/-- **Preparing a class** gives each of its eligible slots the rounds it found, up to the cap. -/
theorem prepareSlotInClass_raises (hinv : Inv p) (heligible : p.classHasEligible c eligible = true)
    (hrun : prepareSlotInClass c eligible p = (.ok i, q)) :
    ∃ rounds, p.roundsAt c eligible = some rounds ∧ rounds ≤ maxServiceCostTokens
      ∧ q.slots = p.slots.mapIdx fun a slot =>
          if eligible a && decide (slot.slotClass = c) then withCredit rounds slot else slot := by
  obtain ⟨k, kslot, hkslot, hk⟩ := exists_candidate heligible
  obtain ⟨least, hleast, _, hmin, hfrom⟩ :=
    leastRounds_ok p c eligible (p.rotation (p.slotCursor c % p.slots.length)) none
  obtain ⟨rounds, rfl, _⟩ := hmin k (mem_rotation _ (lt_of_slot hkslot)) kslot hkslot hk
  obtain hnone | ⟨_, _, slot, _, _, heq⟩ := hfrom rounds rfl
  · cases hnone
  have hle : rounds ≤ maxServiceCostTokens := heq ▸ neededRounds_le slot
  refine ⟨rounds, by rw [roundsAt, hleast], hle, ?_⟩
  unfold prepareSlotInClass at hrun
  simp only [bind_run, self_run, lift_run, okOr_ok] at hrun
  obtain ⟨_, _, ⟨rfl, rfl⟩, _, _, ⟨hscan, rfl⟩, _, _, ⟨hrounds, rfl⟩, _, _, hcredit, _, _, ⟨rfl, rfl⟩, _, rfl⟩ := hrun
  cases hleast.symm.trans hscan
  cases hrounds
  unfold creditSlots at hcredit
  by_cases hzero : rounds = 0
  · rw [if_pos hzero] at hcredit
    cases hcredit
    -- no round of credit leaves a deficit within the cap as it is
    refine (List.ext_getElem? fun a => ?_).symm
    rw [List.getElem?_mapIdx]
    cases hslot : p.slots[a]? with
    | none => rfl
    | some slot =>
      have hcap := hinv.deficits slot (List.mem_of_getElem? hslot)
      rw [Option.map_some]
      split
      · rw [hzero, withCredit, Nat.zero_mul, Nat.add_zero, Nat.min_eq_left hcap]
      · rfl
  · rw [if_neg hzero, creditFrom_eq hle c eligible p.slots 0 hinv.deficits] at hcredit
    cases hcredit
    simp only [Nat.zero_add]

/-! ## What a selection adds -/

def Takes (p : DispatchPolicy) (k : DispatchClass) (eligible : Nat → Bool) (a : Nat) : Prop :=
  eligible a = true ∧ ∃ slot, p.slots[a]? = some slot ∧ slot.slotClass = k

theorem Specs.takes (h : Specs p q) {k : DispatchClass} {a : Nat} (ht : Takes p k eligible a) : Takes q k eligible a := by
  obtain ⟨heligible, slot, hslot, hclass⟩ := ht
  obtain ⟨slot', hslot', heq⟩ := h.slot hslot
  exact ⟨heligible, slot', hslot', (congrArg (·.slotClass) heq).trans hclass⟩

def Fits (eligible : Nat → Bool) (c : DispatchClass) (o : DispatchPolicy) (a : Nat) : Prop :=
  ∀ rounds, o.roundsAt c eligible = some rounds → ∀ slot, o.slots[a]? = some slot → slot.slotClass = c →
    eligible a = true → slot.deficit + rounds * slot.weight ≤ maxDeficit

inductive VisitedSlots (c : DispatchClass) (eligible : Nat → Bool) (p q : DispatchPolicy) : Prop
  | skipped : ¬ p.classHasEligible c eligible = true → q.slots = p.slots → VisitedSlots c eligible p q
  | credited {o : DispatchPolicy} {rounds : Nat} : p.classHasEligible c eligible = true →
      openClassVisit c p = (.ok (), o) → o.slots = p.slots → o.roundsAt c eligible = some rounds →
      rounds ≤ maxServiceCostTokens →
      (q.slots = p.slots.mapIdx fun a slot =>
        if eligible a && decide (slot.slotClass = c) then withCredit rounds slot else slot) →
      VisitedSlots c eligible p q

theorem visitClass_slots (hinv : Inv p) {v : Visit} (hrun : visitClass c eligible p = (.ok v, q)) :
    VisitedSlots c eligible p q := by
  unfold visitClass at hrun
  simp only [bind_run, self_run] at hrun
  obtain ⟨_, _, ⟨rfl, rfl⟩, hrun⟩ := hrun
  by_cases heligible : p.classHasEligible c eligible = true
  · rw [if_pos heligible] at hrun
    simp only [bind_run] at hrun
    obtain ⟨_, o, hopen, i, m, hprepare, hjudge⟩ := hrun
    have hslots : q.slots = m.slots := by
      unfold judgeVisit at hjudge
      simp only [bind_run, self_run, lift_run] at hjudge
      obtain ⟨_, _, ⟨rfl, rfl⟩, cost, _, ⟨_, rfl⟩, hjudge⟩ := hjudge
      split at hjudge
      · simp only [bind_run, update_run, pure_run] at hjudge
        obtain ⟨_, _, rfl, rfl, rfl⟩ := hjudge
        rfl
      · split at hjudge
        · simp only [bind_run, update_run, pure_run] at hjudge
          obtain ⟨_, _, rfl, rfl, rfl⟩ := hjudge
          rfl
        · simp only [pure_run] at hjudge
          obtain ⟨rfl, rfl⟩ := hjudge
          rfl
    obtain ⟨o', hopened, hoslots, _, _, hostatic, hothers, _, hcap⟩ := opened_keeps (p := p) c
    have ho : o = o' := by
      have hsame := hopen.symm.trans ((openClassVisit_run hinv c).trans (by rw [hopened]))
      exact (Prod.mk.inj hsame).2
    subst ho
    have hinvO : Inv o := by
      refine ⟨by rw [hoslots]; exact hinv.nonempty, by rw [hoslots]; exact hinv.deficits, fun c' => ?_⟩
      by_cases hc : c' = c
      · subst hc
        rcases hcap with hcap | hcap
        · exact hcap
        · rw [hcap]
          exact hinv.classDeficits _
      · rw [hothers c' hc]
        exact hinv.classDeficits c'
    have heligibleO : o.classHasEligible c eligible = true := (hostatic.specs.classHasEligible c eligible).trans heligible
    obtain ⟨rounds, hrounds, hle, hmslots⟩ := prepareSlotInClass_raises hinvO heligibleO hprepare
    exact .credited heligible hopen hoslots hrounds hle (by rw [hslots, hmslots, hoslots])
  · rw [if_neg heligible] at hrun
    simp only [bind_run, update_run, pure_run] at hrun
    obtain ⟨_, _, rfl, rfl, rfl⟩ := hrun
    exact .skipped heligible rfl

theorem visitClass_raises (hinv : Inv p) {v : Visit} (hrun : visitClass c eligible p = (.ok v, q))
    (k : DispatchClass) : ∃ rounds, ∀ a, Takes p k eligible a →
      (∀ o, p.classHasEligible c eligible = true → openClassVisit c p = (.ok (), o) → Fits eligible c o a) →
      Raised rounds a p q := by
  cases visitClass_slots hinv hrun with
  | skipped _ hslots => exact ⟨0, fun a _ _ => .of_slots (by rw [hslots])⟩
  | @credited o rounds heligible hopen hoslots hrounds _ hslots =>
    by_cases hk : k = c
    · subst hk
      refine ⟨rounds, fun a ⟨ha, slot', hslot', hclass⟩ hfits slot hslot => ?_⟩
      cases hslot.symm.trans hslot'
      have hroom := hfits o heligible hopen rounds hrounds slot (by rw [hoslots]; exact hslot) hclass ha
      rw [hslots, List.getElem?_mapIdx, hslot, Option.map_some, if_pos (by simp [ha, hclass]), withCredit,
        Nat.min_eq_left hroom]
    · refine ⟨0, fun a ⟨_, slot', hslot', hclass⟩ _ => .of_slots ?_⟩
      have hne : slot'.slotClass ≠ c := hclass ▸ hk
      rw [hslots, List.getElem?_mapIdx, hslot', Option.map_some, if_neg (by simp [hne])]

theorem Visiting.raises (hentry : Entry eligible p s) (hinv : Inv s) (hspecs : Specs p s) (k : DispatchClass) {n : Nat}
    (h : Visiting eligible s n q) : Inv q ∧ Static s q ∧
      ∃ rounds, ∀ a, Takes p k eligible a → Unclamped eligible p a → Raised rounds a s q := by
  induction h with
  | start => exact ⟨hinv, .refl s, 0, fun a _ _ => .of_slots rfl⟩
  | @next n r r' v hvisiting hvisit _ ih =>
    obtain ⟨hinvR, hstatic, rounds, hraised⟩ := ih
    obtain ⟨v', r'', hrun', hv⟩ := visitClass_ends hinvR r.classCursor eligible
    have hsame := hvisit.symm.trans hrun'
    rw [Prod.mk.injEq] at hsame
    obtain ⟨_, rfl⟩ := hsame
    obtain ⟨more, hmore⟩ := visitClass_raises hinvR hvisit k
    refine ⟨hv.inv, hstatic.trans hv.static, rounds + more, fun a htakes hroom => (hraised a htakes hroom).trans ?_⟩
    refine hmore a ((hspecs.trans hstatic.specs).takes htakes) fun o heligible hopen => ?_
    exact hroom _ o (.visit hentry hvisiting heligible hopen)

theorem Decides.raises (hentry : Entry eligible p s) (hinv : Inv s) (hspecs : Specs p s) (k : DispatchClass)
    (h : Decides eligible s c i q) :
    ∃ rounds, ∀ a, Takes p k eligible a → Unclamped eligible p a → Raised rounds a s q := by
  cases h with
  | @ready n _ r _ hvisiting hvisit _ =>
    obtain ⟨hinvR, hstatic, rounds, hraised⟩ := hvisiting.raises hentry hinv hspecs k
    obtain ⟨more, hmore⟩ := visitClass_raises hinvR hvisit k
    refine ⟨rounds + more, fun a htakes hroom => (hraised a htakes hroom).trans ?_⟩
    refine hmore a ((hspecs.trans hstatic.specs).takes htakes) fun o heligible hopen => ?_
    exact hroom _ o (.visit hentry hvisiting heligible hopen)
  | fallback hvisiting _ => exact (hvisiting.raises hentry hinv hspecs k).2.2

theorem creditEmptyRounds_slots (rounds : Nat) (eligible : Nat → Bool) (slots : List DispatchSlot) :
    ∀ turn : List DispatchClass, Preserves (fun q : DispatchPolicy => q.slots = slots)
      (creditEmptyRounds rounds eligible turn)
  | [] => preserves_pure _
  | c :: turn => by
    unfold creditEmptyRounds
    refine preserves_self.bind fun q => ?_
    split
    · refine (preserves_lift _).bind fun _ => (preserves_lift _).bind fun _ => ?_
      refine Preserves.bind ?_ fun _ => creditEmptyRounds_slots rounds eligible slots turn
      exact preserves_update fun q hq => hq
    · exact creditEmptyRounds_slots rounds eligible slots turn

theorem fastForward_slots (hshort : ∀ c, p.classHasEligible c eligible = true → Short p c eligible)
    (hrun : fastForwardEmptyClassRounds eligible p = (.ok (), q)) : q.slots = p.slots := by
  unfold fastForwardEmptyClassRounds at hrun
  simp only [bind_run, self_run, lift_run] at hrun
  obtain ⟨_, _, ⟨rfl, rfl⟩, _, _, ⟨_, rfl⟩, least, r, hvisits, visits, _, ⟨_, rfl⟩, rounds, _, ⟨_, rfl⟩, hcredit⟩ := hrun
  obtain ⟨least', r', hrun', hsame, _⟩ := visitsUntilService_ends hshort DispatchClass.all none
  have heq := hvisits.symm.trans hrun'
  rw [Prod.mk.injEq] at heq
  obtain ⟨_, rfl⟩ := heq
  subst hsame
  by_cases hzero : rounds = 0
  · rw [if_pos hzero] at hcredit
    obtain ⟨_, rfl⟩ := pure_run.1 hcredit
    rfl
  · rw [if_neg hzero] at hcredit
    have h := creditEmptyRounds_slots rounds eligible r.slots DispatchClass.all r rfl
    rwa [hcredit] at h

theorem Entry.raises (hinv : Inv p) (k : DispatchClass) (h : Entry eligible p s) :
    ∃ rounds, ∀ a, Takes p k eligible a → Unclamped eligible p a → Raised rounds a p s := by
  cases h with
  | first => exact ⟨0, fun a _ _ => .of_slots rfl⟩
  | @second r _ hfirst hforward =>
    obtain ⟨_, _, rounds, hraised⟩ := (passFrom_vain 4 .start hfirst).raises .first hinv (.refl p) k
    obtain ⟨_, _, _, hshort⟩ := pass_vain hinv hfirst
    have hslots := fastForward_slots hshort hforward
    exact ⟨rounds + 0, fun a htakes hroom => (hraised a htakes hroom).trans (.of_slots (by rw [hslots]))⟩

/-! ## The account of a slot -/

/-- What a slot has been credited: the services it has had at their cost, and its deficit. -/
def account (history : List Service) (a : Nat) (slot : DispatchSlot) : Nat :=
  history.countP (fun v => decide (v.index = a)) * slot.cost + slot.deficit

/-- **A selection credits the slots that take part alike**: each by its weight, for the same number of rounds. -/
theorem called_accounts (hinv : Inv p) (hdirect : p.directScan = false)
    (hoffer : p.offered permits readiness = some eligible) (k : DispatchClass) (history : List Service) :
    ∃ rounds, ∀ a, Takes p k eligible a → Unclamped eligible p a → ∀ slot, p.slots[a]? = some slot →
      ∃ slot', (trySelectAndAcquire readiness ⟨p, permits⟩).2.policy.slots[a]? = some slot'
        ∧ slot'.toDispatchSlotSpec = slot.toDispatchSlotSpec
        ∧ account ((p.service permits readiness).toList ++ history) a slot'
          = account history a slot + rounds * slot.weight := by
  obtain ⟨i, path, q, served, hselect, _, _, _, _, hservice⟩ := service_some hinv hoffer
  rw [policy_after, hoffer, hservice, Option.elim_some, hselect]
  dsimp only [Option.toList_some, List.cons_append, List.nil_append]
  have hhier := select_hierarchical (Bool.eq_false_iff.1 hdirect) hselect
  obtain ⟨s, hentry, hinvS, hstatic, _, c, m, hdecides, _, _, _, hpays, hcommit⟩ :=
    selectHierarchical_serves hinv (offered_some hoffer) hhier
  obtain ⟨_, hbooked⟩ := commitClassService_books hpays hcommit
  obtain ⟨before, hbefore⟩ := hentry.raises hinv k
  obtain ⟨during, hduring⟩ := hdecides.raises hentry hinvS hstatic.specs k
  refine ⟨before + during, fun a htakes hroom slot hslot => ?_⟩
  have hraised := (hbefore a htakes hroom).trans (hduring a htakes hroom) slot hslot
  obtain ⟨paid, hpaid, _, hfunds, hslots⟩ := hbooked.slots
  rw [hslots, List.getElem?_set]
  unfold account
  rw [List.countP_cons]
  by_cases hi : i = a
  · subst hi
    rw [hraised] at hpaid
    cases hpaid
    rw [if_pos rfl, if_pos (lt_of_slot hraised)]
    refine ⟨_, rfl, rfl, ?_⟩
    rw [if_pos (decide_eq_true rfl), Nat.add_mul, Nat.one_mul]
    dsimp only at hfunds ⊢
    omega
  · rw [if_neg hi]
    refine ⟨_, hraised, rfl, ?_⟩
    rw [if_neg (by simpa using hi), Nat.add_zero, Nat.add_assoc]

/-! ## Room under the cap -/

def maxCredit : Nat := maxServiceCostTokens * maxMinimumServiceWeight

def Within (bound : Nat) (p : DispatchPolicy) : Prop := ∀ slot ∈ p.slots, slot.deficit ≤ bound

theorem Within.visited (h : Within bound p) (hinv : Inv p) {v : Visit}
    (hrun : visitClass c eligible p = (.ok v, q)) : Within (bound + maxCredit) q := by
  intro slot hmem
  cases visitClass_slots hinv hrun with
  | skipped _ hslots =>
    rw [hslots] at hmem
    exact Nat.le_add_right_of_le (h slot hmem)
  | @credited _ rounds _ _ _ _ hle hslots =>
    rw [hslots] at hmem
    obtain ⟨a, ha⟩ := List.mem_iff_getElem?.1 hmem
    rw [List.getElem?_mapIdx, Option.map_eq_some_iff] at ha
    obtain ⟨old, hold, rfl⟩ := ha
    have hdeficit := h old (List.mem_of_getElem? hold)
    split
    · exact (Nat.min_le_left _ _).trans (Nat.add_le_add hdeficit (Nat.mul_le_mul hle old.weight_le))
    · exact Nat.le_add_right_of_le hdeficit

theorem Visiting.within {n : Nat} (hinv : Inv s) (hbound : Within bound s) (h : Visiting eligible s n q) :
    Inv q ∧ n ≤ 4 ∧ Within (bound + (4 - n) * maxCredit) q := by
  induction h with
  | start => exact ⟨hinv, Nat.le_refl 4, by simpa using hbound⟩
  | @next n r r' v _ hvisit _ ih =>
    obtain ⟨hinvR, hn, hwithin⟩ := ih
    obtain ⟨v', r'', hrun', hv⟩ := visitClass_ends hinvR r.classCursor eligible
    have hsame := hvisit.symm.trans hrun'
    rw [Prod.mk.injEq] at hsame
    obtain ⟨_, rfl⟩ := hsame
    refine ⟨hv.inv, by omega, ?_⟩
    have hmore := hwithin.visited hinvR hvisit
    rw [Nat.add_assoc, ← Nat.succ_mul] at hmore
    rwa [show 4 - n = (4 - (n + 1)).succ by omega]

theorem Entry.within (hinv : Inv p) (hsome : ∃ i < p.slots.length, eligible i = true)
    (hbound : Within bound p) (h : Entry eligible p s) : Inv s ∧ Within (bound + 4 * maxCredit) s := by
  cases h with
  | first => exact ⟨hinv, fun slot hmem => Nat.le_add_right_of_le (hbound slot hmem)⟩
  | @second r _ hfirst hforward =>
    obtain ⟨_, _, hwithin⟩ := (passFrom_vain 4 .start hfirst).within hinv hbound
    obtain ⟨hinvR, hstatic, hclosed, hshort⟩ := pass_vain hinv hfirst
    obtain ⟨k, hk, hke⟩ := hsome
    obtain ⟨c, hc⟩ := exists_class hk hke
    obtain ⟨_, s', hrun', hinvS, _⟩ := fastForward_ends hinvR hclosed
      ⟨c, (hstatic.specs.classHasEligible c eligible).trans hc⟩ hshort
    have hsame := hforward.symm.trans hrun'
    rw [Prod.mk.injEq] at hsame
    obtain ⟨_, rfl⟩ := hsame
    refine ⟨hinvS, fun slot hmem => ?_⟩
    rw [fastForward_slots hshort hforward] at hmem
    exact hwithin slot hmem

theorem roundsAt_le {rounds : Nat} (h : p.roundsAt c eligible = some rounds) :
    rounds ≤ maxServiceCostTokens := by
  obtain ⟨least, hleast, _, _, hfrom⟩ :=
    leastRounds_ok p c eligible (p.rotation (p.slotCursor c % p.slots.length)) none
  unfold roundsAt at h
  rw [hleast] at h
  obtain hnone | ⟨_, _, slot, _, _, rfl⟩ := hfrom rounds h
  · cases hnone
  · exact neededRounds_le slot

theorem unclamped_of_within (hinv : Inv p) (hsome : ∃ i < p.slots.length, eligible i = true)
    (hbound : Within bound p) (hroom : bound + 9 * maxCredit ≤ maxDeficit) (a : Nat) : Unclamped eligible p a := by
  intro c o hpreparing rounds hrounds slot hslot _ _
  have hcredit : rounds * slot.weight ≤ maxCredit := Nat.mul_le_mul (roundsAt_le hrounds) slot.weight_le
  cases hpreparing with
  | @visit s r _ n hentry hvisiting _ hopen =>
    obtain ⟨hinvS, hwithinS⟩ := hentry.within hinv hsome hbound
    obtain ⟨hinvR, _, hwithin⟩ := hvisiting.within hinvS hwithinS
    obtain ⟨o', hopened, hoslots, _⟩ := opened_keeps (p := r) r.classCursor
    have hsame := hopen.symm.trans ((openClassVisit_run hinvR _).trans (by rw [hopened]))
    have ho : o = o' := (Prod.mk.inj hsame).2
    have hdeficit := hwithin slot (by rw [← hoslots, ← ho]; exact List.mem_of_getElem? hslot)
    have hvisits : (4 - (n + 1)) * maxCredit ≤ 3 * maxCredit := Nat.mul_le_mul_right _ (by omega)
    omega
  | @forward q _ before after _ least hfirst _ hvisits _ =>
    obtain ⟨_, _, hwithin⟩ := (passFrom_vain 4 .start hfirst).within hinv hbound
    obtain ⟨_, _, _, hshort⟩ := pass_vain hinv hfirst
    obtain ⟨_, q', hrun', rfl, _⟩ := visitsUntilService_ends hshort before none
    have hsame := hvisits.symm.trans hrun'
    rw [Prod.mk.injEq] at hsame
    obtain ⟨_, rfl⟩ := hsame
    have hdeficit := hwithin slot (List.mem_of_getElem? hslot)
    omega

/-! ## Shares -/

/-- The hierarchical runs in which two slots are eligible at every call and never lose credit to the cap. -/
inductive SharedRun (i j : Nat) : DispatchPolicy → List Service → Prop
  | fresh {classes : DispatchClass → DispatchClassPolicy} {specs : List DispatchSlotSpec} {p : DispatchPolicy} :
      tryNew classes specs = .ok p → p.directScan = false → SharedRun i j p []
  | called {p : DispatchPolicy} {history : List Service} (permits : DomainPermitLedger)
      (readiness : List DispatchReadiness) : SharedRun i j p history →
      (∀ ready, p.validateReadiness readiness = .ok ready →
        p.eligibleWith permits ready i = true ∧ p.eligibleWith permits ready j = true) →
      (∀ eligible, p.offered permits readiness = some eligible → Unclamped eligible p i ∧ Unclamped eligible p j) →
      SharedRun i j (trySelectAndAcquire readiness ⟨p, permits⟩).2.policy
        ((p.service permits readiness).toList ++ history)

theorem offered_eq (h : p.offered permits readiness = some eligible) :
    ∃ ready, p.validateReadiness readiness = .ok ready ∧ eligible = p.eligibleWith permits ready := by
  unfold offered at h
  split at h
  · cases h
  · rename_i ready hready
    split at h
    · cases h
      exact ⟨ready, hready, rfl⟩
    · cases h

def Proportional (p : DispatchPolicy) (history : List Service) (i j : Nat) : Prop :=
  ∀ si sj, p.slots[i]? = some si → p.slots[j]? = some sj → si.slotClass = sj.slotClass →
    account history i si * sj.weight = account history j sj * si.weight

theorem SharedRun.inv {j : Nat} (h : SharedRun i j p history) : Inv p ∧ p.directScan = false := by
  induction h with
  | fresh hnew hdirect => exact ⟨.fresh hnew, hdirect⟩
  | called permits readiness _ _ _ ih =>
    exact ⟨Inv.step (d := ⟨_, permits⟩) ih.1 readiness, (called_keeps ih.1 permits readiness).2.trans ih.2⟩

theorem Proportional.called {j : Nat} (h : Proportional p history i j) (hinv : Inv p) (hdirect : p.directScan = false)
    (heligible : ∀ ready, p.validateReadiness readiness = .ok ready →
      p.eligibleWith permits ready i = true ∧ p.eligibleWith permits ready j = true)
    (hroom : ∀ eligible, p.offered permits readiness = some eligible → Unclamped eligible p i ∧ Unclamped eligible p j) :
    Proportional (trySelectAndAcquire readiness ⟨p, permits⟩).2.policy
      ((p.service permits readiness).toList ++ history) i j := by
  cases hoffer : p.offered permits readiness with
  | none =>
    rw [policy_after, hoffer, service_none hoffer]
    exact h
  | some eligible =>
    obtain ⟨ready, hready, rfl⟩ := offered_eq hoffer
    obtain ⟨hi, hj⟩ := heligible ready hready
    obtain ⟨hroomI, hroomJ⟩ := hroom _ hoffer
    intro si' sj' hsi' hsj' hclass'
    -- the slots as they were before the call
    obtain ⟨hspecs, _⟩ := called_keeps hinv permits readiness
    obtain ⟨si, hsi, heqI⟩ := hspecs.symm.slot hsi'
    obtain ⟨sj, hsj, heqJ⟩ := hspecs.symm.slot hsj'
    have hclassI : si.slotClass = si'.slotClass := congrArg (·.slotClass) heqI
    have hclassJ : sj.slotClass = si'.slotClass := (congrArg (·.slotClass) heqJ).trans hclass'.symm
    obtain ⟨rounds, haccounts⟩ := called_accounts hinv hdirect hoffer si'.slotClass history
    obtain ⟨ti, hti, hspecI, haccountI⟩ := haccounts i ⟨hi, si, hsi, hclassI⟩ hroomI si hsi
    obtain ⟨tj, htj, hspecJ, haccountJ⟩ := haccounts j ⟨hj, sj, hsj, hclassJ⟩ hroomJ sj hsj
    cases hsi'.symm.trans hti
    cases hsj'.symm.trans htj
    have hwi : si'.weight = si.weight := congrArg (·.weight) hspecI
    have hwj : sj'.weight = sj.weight := congrArg (·.weight) hspecJ
    have hold := h si sj hsi hsj (hclassI.trans hclassJ.symm)
    rw [haccountI, haccountJ, hwi, hwj, Nat.add_mul, Nat.add_mul, hold, Nat.mul_right_comm]

/-- **Proportional share within a class.**  In every hierarchical run in which two slots of one class are eligible at every
call and none of their credit is cut off at the cap, after every call the services of each at their cost, with its
deficit, are in proportion to the weights. -/
theorem shares_proportional {j : Nat} (h : SharedRun i j p history) {si sj : DispatchSlot}
    (hi : p.slots[i]? = some si) (hj : p.slots[j]? = some sj) (hclass : si.slotClass = sj.slotClass) :
    (history.countP (fun v => decide (v.index = i)) * si.cost + si.deficit) * sj.weight
      = (history.countP (fun v => decide (v.index = j)) * sj.cost + sj.deficit) * si.weight := by
  have hall : Proportional p history i j := by
    clear hi hj hclass
    induction h with
    | fresh hnew _ =>
      intro si sj hi hj _
      simp only [tryNew, bind_ok, rejectIf_ok, exists_unit, pure_ok] at hnew
      obtain ⟨_, _, _, rfl⟩ := hnew
      simp only [List.getElem?_mapIdx, Option.map_eq_some_iff] at hi hj
      obtain ⟨_, _, rfl⟩ := hi
      obtain ⟨_, _, rfl⟩ := hj
      simp [account]
    | called permits readiness hrun heligible hroom ih => exact ih.called hrun.inv.1 hrun.inv.2 heligible hroom
  exact hall si sj hi hj hclass

/-! Two stream slots of different weights, both heard from. -/

def shareReadiness : List DispatchReadiness := [⟨.ofNat 7, .ready ⟨.ofNat 7⟩⟩, ⟨.ofNat 9, .ready ⟨.ofNat 9⟩⟩]

def shareReady : Nat → Bool := Function.update (Function.update (fun _ => false) 0 true) 1 true

def shareServed : DispatchPolicy := (trySelectAndAcquire shareReadiness ⟨burstPolicy, sampleLedger⟩).2.policy

theorem shares_proportional_once : ∃ si sj, shareServed.slots[0]? = some si ∧ shareServed.slots[1]? = some sj
    ∧ (1 * si.cost + si.deficit) * sj.weight = (0 * sj.cost + sj.deficit) * si.weight := by
  have hnew : tryNew burstClasses burstSpecs = .ok burstPolicy := rfl
  have hready : burstPolicy.validateReadiness shareReadiness = .ok shareReady := rfl
  have hwithin : Within 0 burstPolicy := by
    unfold Within
    decide
  have hrun : SharedRun 0 1 shareServed [⟨0, .stream⟩] := by
    refine (SharedRun.fresh hnew rfl).called sampleLedger shareReadiness (fun ready h => ?_) fun eligible h => ?_
    · cases hready.symm.trans h
      decide
    · have hroom := unclamped_of_within (.fresh hnew) (offered_some h) hwithin (by decide)
      exact ⟨hroom 0, hroom 1⟩
  exact ⟨_, _, rfl, rfl, shares_proportional hrun rfl rfl rfl⟩

end DispatchPolicy
end Dispatch
end ParaEgox
