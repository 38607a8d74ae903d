import ParaEgox.DispatchRuns

/-!
# DispatchRounds — the fast-forward equals the rounds it skips

A pass that serves nothing credits every eligible class with one quantum and changes nothing else, once the slots have been
prepared.  So the rounds that the fast-forward skips can be run one by one with the same outcome.
-/
namespace ParaEgox
namespace Dispatch

open Check Stateful

namespace DispatchPolicy

variable {p q : DispatchPolicy} {eligible : Nat → Bool}

/-! ## The plain scheduler -/

/-- Passes are repeated until one of them serves a slot, `n` of them at most. -/
def repeatPass (eligible : Nat → Bool) : Nat → Scheduler Nat
  | 0 => lift (.error .stateInconsistent)
  | n + 1 => do
    let found ← selectHierarchicalPass eligible
    match found with
    | some index => pure index
    | none => repeatPass eligible n

/-! ## Credit -/

/-- The eligible classes of the list have got `rounds` quanta. -/
def creditOf (eligible : Nat → Bool) (turn : List DispatchClass) (rounds : Nat) (p : DispatchPolicy) (c : DispatchClass) : Nat :=
  if c ∈ turn ∧ p.classHasEligible c eligible = true then p.classDeficit c + rounds * (p.classes c).quantum
  else p.classDeficit c

def credited (eligible : Nat → Bool) (turn : List DispatchClass) (rounds : Nat) (p : DispatchPolicy) : DispatchPolicy :=
  { p with classDeficit := creditOf eligible turn rounds p }

/-- Even with `rounds` quanta more no eligible class of the list can pay for its prepared slot. -/
def Waits (eligible : Nat → Bool) (turn : List DispatchClass) (rounds : Nat) (p : DispatchPolicy) : Prop :=
  ∀ c ∈ turn, p.classHasEligible c eligible = true →
    ∃ i cost, Prices p c eligible i cost ∧ p.classDeficit c + rounds * (p.classes c).quantum < cost

variable {c : DispatchClass} {rounds : Nat}

theorem creditOf_cons (eligible : Nat → Bool) {turn : List DispatchClass} (hc : c ∉ turn) (rounds : Nat)
    (p : DispatchPolicy) :
    creditOf eligible (c :: turn) rounds p
      = creditOf eligible turn rounds (setClassDeficit c (creditOf eligible [c] rounds p c) p) := by
  funext c'
  unfold creditOf
  by_cases hne : c' = c
  · subst hne
    have hset : (setClassDeficit c' (if c' ∈ [c'] ∧ p.classHasEligible c' eligible = true
        then p.classDeficit c' + rounds * (p.classes c').quantum else p.classDeficit c') p).classDeficit c'
        = if c' ∈ [c'] ∧ p.classHasEligible c' eligible = true
          then p.classDeficit c' + rounds * (p.classes c').quantum else p.classDeficit c' := Function.update_self ..
    rw [hset]
    simp [hc]
  · have hset : ∀ d, (setClassDeficit c d p).classDeficit c' = p.classDeficit c' := fun d => Function.update_of_ne hne ..
    rw [hset]
    simp only [List.mem_cons, hne, false_or]
    rfl

theorem setClassDeficit_same (c : DispatchClass) (p : DispatchPolicy) : setClassDeficit c (p.classDeficit c) p = p := by
  unfold setClassDeficit
  rw [Function.update_eq_self]

theorem creditOf_self_of_not (h : ¬p.classHasEligible c eligible = true) (rounds : Nat) :
    creditOf eligible [c] rounds p c = p.classDeficit c := by
  unfold creditOf
  rw [if_neg (fun hc => h hc.2)]

theorem creditOf_self (h : p.classHasEligible c eligible = true) (rounds : Nat) :
    creditOf eligible [c] rounds p c = p.classDeficit c + rounds * (p.classes c).quantum := by
  unfold creditOf
  rw [if_pos ⟨List.mem_singleton_self c, h⟩]

theorem Inv.setDeficit (h : Inv p) (c : DispatchClass) {deficit : Nat} (hle : deficit ≤ maxDeficit) :
    Inv (setClassDeficit c deficit p) := by
  refine ⟨h.nonempty, h.deficits, fun c' => ?_⟩
  by_cases hc : c' = c
  · subst hc
    exact (Function.update_self c' _ _).le.trans hle
  · exact (Function.update_of_ne hc _ _).le.trans (h.classDeficits c')

/-! ## A pass that serves nothing -/

theorem prices_reopened {i cost : Nat} (h : Prices p c eligible i cost) (deficit : DispatchClass → Nat)
    (cursor : DispatchClass) (visitOpen : Bool) :
    Prices { p with classDeficit := deficit, classCursor := cursor, classVisitOpen := visitOpen } c eligible i cost :=
  KeepsSlots.prices (q := { p with classDeficit := deficit, classCursor := cursor, classVisitOpen := visitOpen })
    ⟨⟨.refl p, rfl, rfl, rfl⟩, fun _ _ h _ => h⟩ h

theorem visitClass_waits (hinv : Inv p) (hclosed : p.classVisitOpen = false) (hwaits : Waits eligible [c] 1 p) :
    visitClass c eligible p
      = (.ok .passed, advanceClassVisit c (setClassDeficit c (creditOf eligible [c] 1 p c) p)) := by
  have hends : Ends (visitClass c eligible) p fun v q =>
      v = .passed ∧ q = advanceClassVisit c (setClassDeficit c (creditOf eligible [c] 1 p c) p) := by
    unfold visitClass
    refine ends_bind_self ?_
    by_cases heligible : p.classHasEligible c eligible = true
    · rw [if_pos heligible, creditOf_self heligible]
      obtain ⟨i, cost, hprices, hlt⟩ := hwaits c (List.mem_singleton_self c) heligible
      have hle := (price_le hprices).2
      have hcap : maxServiceCostTokens ≤ maxDeficit := by decide
      have hmin : min (p.classDeficit c + (p.classes c).quantum) maxDeficit
          = p.classDeficit c + 1 * (p.classes c).quantum := by omega
      have hopen : openClassVisit c p = (.ok (), { p with
          classDeficit := Function.update p.classDeficit c (p.classDeficit c + 1 * (p.classes c).quantum)
          classCursor := p.classCursor, classVisitOpen := true }) := by
        rw [openClassVisit_run hinv c, hclosed, hmin]
        rfl
      refine ends_bind_run hopen ?_
      have hprices' := prices_reopened hprices
        (Function.update p.classDeficit c (p.classDeficit c + 1 * (p.classes c).quantum)) p.classCursor true
      refine ends_bind_run (prepareSlotInClass_again hprices'.1) ?_
      unfold judgeVisit
      refine ends_bind_self (ends_bind_lift hprices'.2 ?_)
      have hshort : Function.update p.classDeficit c (p.classDeficit c + 1 * (p.classes c).quantum) c < cost := by
        rw [Function.update_self]
        exact hlt
      rw [if_pos hshort]
      exact ends_bind_update (ends_pure ⟨rfl, rfl⟩)
    · rw [if_neg heligible, creditOf_self_of_not heligible, setClassDeficit_same]
      exact ends_bind_update (ends_pure ⟨rfl, rfl⟩)
  obtain ⟨v, q, hrun, rfl, rfl⟩ := hends
  exact hrun

/-- The class that is in turn after `n` visits. -/
def turned : Nat → DispatchClass → DispatchClass
  | 0, c => c
  | n + 1, c => turned n c.next

theorem turned_four (c : DispatchClass) : turned 4 c = c := by
  cases c <;> rfl

theorem Waits.later {turn : List DispatchClass} (hc : c ∉ turn) {deficit : Nat}
    (h : Waits eligible (c :: turn) 1 p) : Waits eligible turn 1 (advanceClassVisit c (setClassDeficit c deficit p)) := by
  intro c' hmem heligible
  obtain ⟨i, cost, hprices, hlt⟩ := h c' (List.mem_cons_of_mem _ hmem) heligible
  have hne : c' ≠ c := by
    rintro rfl
    exact hc hmem
  refine ⟨i, cost, prices_reopened hprices _ _ _, ?_⟩
  have hsame : (advanceClassVisit c (setClassDeficit c deficit p)).classDeficit c' = p.classDeficit c' :=
    Function.update_of_ne hne ..
  rw [hsame]
  exact hlt

theorem passFrom_waits : ∀ (n : Nat), n ≤ 4 → ∀ {p : DispatchPolicy}, Inv p → p.classVisitOpen = false →
    Waits eligible (upcoming n p.classCursor) 1 p →
    passFrom eligible n none p
      = (.ok none, { credited eligible (upcoming n p.classCursor) 1 p with classCursor := turned n p.classCursor })
  | 0, _, p, _, _, _ => by
    have hsame : credited eligible (upcoming 0 p.classCursor) 1 p = p := by
      unfold credited creditOf
      simp [upcoming]
    rw [hsame]
    rfl
  | n + 1, hn, p, hinv, hclosed, hwaits => by
    have hfresh := not_mem_upcoming n (by omega) p.classCursor
    have hfirst : Waits eligible [p.classCursor] 1 p := by
      intro c hc
      rw [List.mem_singleton.1 hc]
      exact hwaits _ List.mem_cons_self
    have hvisit := visitClass_waits hinv hclosed hfirst
    have hle : creditOf eligible [p.classCursor] 1 p p.classCursor ≤ maxDeficit := by
      by_cases heligible : p.classHasEligible p.classCursor eligible = true
      · obtain ⟨i, cost, hprices, hlt⟩ := hwaits _ List.mem_cons_self heligible
        have hprice := (price_le hprices).2
        have hcap : maxServiceCostTokens ≤ maxDeficit := by decide
        rw [creditOf_self heligible]
        omega
      · rw [creditOf_self_of_not heligible]
        exact hinv.classDeficits _
    have hrest := passFrom_waits n (by omega) ((hinv.setDeficit p.classCursor hle).moved p.classCursor) rfl
      (hwaits.later hfresh)
    have hstep : passFrom eligible (n + 1) none p = passFrom eligible n none
        (advanceClassVisit p.classCursor
          (setClassDeficit p.classCursor (creditOf eligible [p.classCursor] 1 p p.classCursor) p)) := by
      change follow _ (visitClass p.classCursor eligible p) = _
      rw [hvisit]
      rfl
    rw [hstep, hrest]
    have hcredit := creditOf_cons eligible hfresh 1 p
    unfold credited
    change _ = (Except.ok none, { p with
      classDeficit := creditOf eligible (p.classCursor :: upcoming n p.classCursor.next) 1 p
      classCursor := turned n p.classCursor.next })
    rw [hcredit]
    unfold advanceClassVisit setClassDeficit
    rw [← hclosed]
    rfl

/-- Every eligible class has got `rounds` quanta. -/
abbrev skipped (eligible : Nat → Bool) (rounds : Nat) (p : DispatchPolicy) : DispatchPolicy :=
  credited eligible DispatchClass.all rounds p

theorem mem_all (c : DispatchClass) : c ∈ DispatchClass.all := by
  cases c <;> decide

theorem credited_congr {turn turn' : List DispatchClass} (h : ∀ c, c ∈ turn ↔ c ∈ turn') (rounds : Nat) (p : DispatchPolicy) :
    credited eligible turn rounds p = credited eligible turn' rounds p := by
  have hcredit : creditOf eligible turn rounds p = creditOf eligible turn' rounds p := by
    funext c
    unfold creditOf
    simp only [h c]
  unfold credited
  rw [hcredit]

theorem selectHierarchicalPass_waits (hinv : Inv p) (hclosed : p.classVisitOpen = false)
    (hwaits : Waits eligible DispatchClass.all 1 p) :
    selectHierarchicalPass eligible p = (.ok none, skipped eligible 1 p) := by
  have hpass := passFrom_waits 4 (Nat.le_refl 4) hinv hclosed (fun c _ => hwaits c (mem_all c))
  rw [turned_four] at hpass
  refine hpass.trans ?_
  have hall : credited eligible (upcoming 4 p.classCursor) 1 p = skipped eligible 1 p :=
    credited_congr (fun c => ⟨fun _ => mem_all c, fun _ => mem_upcoming_four _ c⟩) 1 p
  rw [hall]
  rfl

theorem creditOf_all (rounds : Nat) (p : DispatchPolicy) (c : DispatchClass) :
    creditOf eligible DispatchClass.all rounds p c
      = if p.classHasEligible c eligible = true then p.classDeficit c + rounds * (p.classes c).quantum
        else p.classDeficit c := by
  unfold creditOf
  simp only [mem_all, true_and]

theorem Waits.mono {rounds' : Nat} (hle : rounds' ≤ rounds) (h : Waits eligible DispatchClass.all rounds p) :
    Waits eligible DispatchClass.all rounds' p := by
  intro c hc heligible
  obtain ⟨i, cost, hprices, hlt⟩ := h c hc heligible
  refine ⟨i, cost, hprices, Nat.lt_of_le_of_lt ?_ hlt⟩
  exact Nat.add_le_add_left (Nat.mul_le_mul_right _ hle) _

theorem Inv.skipped (h : Inv p) (hwaits : Waits eligible DispatchClass.all rounds p) :
    Inv (skipped eligible rounds p) := by
  refine ⟨h.nonempty, h.deficits, fun c => ?_⟩
  change creditOf eligible DispatchClass.all rounds p c ≤ maxDeficit
  rw [creditOf_all]
  split
  · rename_i heligible
    obtain ⟨i, cost, hprices, hlt⟩ := hwaits c (mem_all c) heligible
    have hprice := (price_le hprices).2
    have hcap : maxServiceCostTokens ≤ maxDeficit := by decide
    omega
  · exact h.classDeficits c

theorem Waits.after_one (h : Waits eligible DispatchClass.all (rounds + 1) p) :
    Waits eligible DispatchClass.all rounds (skipped eligible 1 p) := by
  intro c hc heligible
  obtain ⟨i, cost, hprices, hlt⟩ := h c hc heligible
  refine ⟨i, cost, prices_deficit hprices _, ?_⟩
  change creditOf eligible DispatchClass.all 1 p c + rounds * (p.classes c).quantum < cost
  have heligible : p.classHasEligible c eligible = true := heligible
  rw [creditOf_all, if_pos heligible]
  rw [Nat.succ_mul] at hlt
  omega

theorem skipped_succ (rounds : Nat) (p : DispatchPolicy) :
    skipped eligible rounds (skipped eligible 1 p) = skipped eligible (rounds + 1) p := by
  have hcredit : creditOf eligible DispatchClass.all rounds (skipped eligible 1 p)
      = creditOf eligible DispatchClass.all (rounds + 1) p := by
    funext c
    rw [creditOf_all, creditOf_all]
    change (if p.classHasEligible c eligible = true
      then creditOf eligible DispatchClass.all 1 p c + rounds * (p.classes c).quantum
      else creditOf eligible DispatchClass.all 1 p c) = _
    rw [creditOf_all]
    split
    · have hmul := Nat.succ_mul rounds (p.classes c).quantum
      rw [hmul]
      omega
    · rfl
  unfold skipped credited
  rw [← hcredit]
  rfl

theorem skipped_zero (p : DispatchPolicy) : skipped eligible 0 p = p := by
  have hcredit : creditOf eligible DispatchClass.all 0 p = p.classDeficit := by
    funext c
    rw [creditOf_all, Nat.zero_mul, Nat.add_zero, ite_self]
  unfold skipped credited
  rw [hcredit]

theorem repeatPass_served (n : Nat) {i : Nat} (h : selectHierarchicalPass eligible p = (.ok (some i), q)) :
    repeatPass eligible (n + 1) p = (.ok i, q) := by
  change follow _ (selectHierarchicalPass eligible p) = _
  rw [h]
  rfl

theorem repeatPass_starved (n : Nat) (h : selectHierarchicalPass eligible p = (.ok none, q)) :
    repeatPass eligible (n + 1) p = repeatPass eligible n q := by
  change follow _ (selectHierarchicalPass eligible p) = _
  rw [h]
  rfl

theorem repeatPass_waits (n : Nat) : ∀ (rounds : Nat) {p : DispatchPolicy}, Inv p → p.classVisitOpen = false →
    Waits eligible DispatchClass.all rounds p →
    repeatPass eligible (rounds + n) p = repeatPass eligible n (skipped eligible rounds p)
  | 0, p, _, _, _ => by rw [skipped_zero, Nat.zero_add]
  | rounds + 1, p, hinv, hclosed, hwaits => by
    have hone := hwaits.mono (Nat.le_add_left 1 rounds)
    have hpass := selectHierarchicalPass_waits hinv hclosed hone
    have hrest := repeatPass_waits n rounds (hinv.skipped hone) hclosed hwaits.after_one
    rw [Nat.add_right_comm, repeatPass_starved _ hpass, hrest, skipped_succ]

/-! ## The fast-forward -/

theorem creditEmptyRounds_run (hrounds : rounds ≤ maxServiceCostTokens) : ∀ (turn : List DispatchClass),
    turn.Nodup → ∀ {p : DispatchPolicy}, Inv p → Waits eligible turn rounds p →
    creditEmptyRounds rounds eligible turn p = (.ok (), credited eligible turn rounds p)
  | [], _, p, _, _ => by
    have hsame : credited eligible [] rounds p = p := by
      unfold credited creditOf
      simp
    rw [hsame]
    rfl
  | c :: turn, hnodup, p, hinv, hwaits => by
    obtain ⟨hnot, hturn⟩ := List.nodup_cons.1 hnodup
    have hlater : ∀ d, Waits eligible turn rounds (setClassDeficit c d p) := by
      intro d c' hmem heligible
      obtain ⟨i, cost, hprices, hlt⟩ := hwaits c' (List.mem_cons_of_mem _ hmem) heligible
      have hne : c' ≠ c := by
        rintro rfl
        exact hnot hmem
      refine ⟨i, cost, prices_deficit hprices _, ?_⟩
      have hsame : (setClassDeficit c d p).classDeficit c' = p.classDeficit c' := Function.update_of_ne hne ..
      rw [hsame]
      exact hlt
    have hstep : creditEmptyRounds rounds eligible (c :: turn) p
        = creditEmptyRounds rounds eligible turn (setClassDeficit c (creditOf eligible [c] rounds p c) p)
        ∧ creditOf eligible [c] rounds p c ≤ maxDeficit := by
      by_cases heligible : p.classHasEligible c eligible = true
      · obtain ⟨i, cost, hprices, hlt⟩ := hwaits c List.mem_cons_self heligible
        have hprice := (price_le hprices).2
        have hcap : maxServiceCostTokens ≤ maxDeficit := by decide
        have hmax : maxDeficit ≤ u64Max := by decide
        have hadd : addU64 (p.classDeficit c) (rounds * (p.classes c).quantum) DispatcherError.counterOverflow
            = .ok (p.classDeficit c + rounds * (p.classes c).quantum) := addU64_ok.2 ⟨by omega, rfl⟩
        rw [creditOf_self heligible]
        refine ⟨?_, by omega⟩
        change (if p.classHasEligible c eligible then _ else _ : Scheduler Unit) p = _
        rw [if_pos heligible]
        change follow _ (lift (rejectIf _ _) p) = _
        rw [rejectIf_neg (by omega)]
        change follow _ (lift (addU64 _ _ _) p) = _
        rw [hadd]
        change creditEmptyRounds rounds eligible turn
          (setClassDeficit c (min (p.classDeficit c + rounds * (p.classes c).quantum) maxDeficit) p) = _
        rw [Nat.min_eq_left (by omega)]
      · rw [creditOf_self_of_not heligible, setClassDeficit_same]
        refine ⟨?_, hinv.classDeficits c⟩
        change (if p.classHasEligible c eligible then _ else _ : Scheduler Unit) p = _
        rw [if_neg heligible]
    rw [hstep.1, creditEmptyRounds_run hrounds turn hturn (hinv.setDeficit c hstep.2) (hlater _)]
    unfold credited
    rw [creditOf_cons eligible hnot]
    rfl

theorem Needs.minimal {v : Nat} (h : Needs p c eligible v) (hlt : rounds < v) :
    ∃ i cost, Prices p c eligible i cost ∧ p.classDeficit c + rounds * (p.classes c).quantum < cost := by
  obtain ⟨i, cost, hprices, hshort, rfl⟩ := h
  have hpos := (p.classes c).quantum_pos
  refine ⟨i, cost, hprices, ?_⟩
  unfold neededVisits at hlt
  have hmul := (Nat.le_div_iff_mul_le hpos).1 hlt
  rw [Nat.succ_mul] at hmul
  omega

theorem fastForward_run (hinv : Inv p) (hclosed : p.classVisitOpen = false)
    (hsome : ∃ c, p.classHasEligible c eligible = true)
    (hshort : ∀ c, p.classHasEligible c eligible = true → Short p c eligible) :
    ∃ rounds, fastForwardEmptyClassRounds eligible p = (.ok (), skipped eligible rounds p)
      ∧ Waits eligible DispatchClass.all rounds p := by
  obtain ⟨least, q, hvisits, rfl, -, hturn, hfrom⟩ := visitsUntilService_ends hshort DispatchClass.all none
  obtain ⟨c0, hc0⟩ := hsome
  obtain ⟨v0, hv0⟩ := (hshort c0 hc0).needs
  obtain ⟨v, rfl, -⟩ := hturn c0 (mem_all c0) hc0 v0 hv0
  obtain hnone | ⟨c, -, hc, hneeds⟩ := hfrom v rfl
  · cases hnone
  obtain ⟨hpos, hle, -⟩ := hneeds.spec
  have hwaits : Waits eligible DispatchClass.all (v - 1) q := by
    intro c' hc' heligible
    obtain ⟨v', hv'⟩ := (hshort c' heligible).needs
    obtain ⟨w, hw, hwle⟩ := hturn c' hc' heligible v' hv'
    cases hw
    exact hv'.minimal (by omega)
  have hsub : subU64 v 1 DispatcherError.stateInconsistent = .ok (v - 1) := subU64_ok.2 ⟨hpos, rfl⟩
  refine ⟨v - 1, ?_, hwaits⟩
  have hstep : fastForwardEmptyClassRounds eligible q
      = (if v - 1 = 0 then pure () else creditEmptyRounds (v - 1) eligible DispatchClass.all : Scheduler Unit) q := by
    change follow _ (lift (rejectIf (q.classVisitOpen = true) _) q) = _
    rw [rejectIf_neg (by rw [hclosed]; decide)]
    change follow _ (visitsUntilService eligible DispatchClass.all none q) = _
    rw [hvisits]
    change follow _ (lift (subU64 v 1 _) q) = _
    rw [hsub]
    rfl
  rw [hstep]
  by_cases hzero : v - 1 = 0
  · rw [if_pos hzero, hzero, skipped_zero]
    rfl
  · rw [if_neg hzero]
    exact creditEmptyRounds_run (by omega) DispatchClass.all (by decide) hinv hwaits

/-! ## Selection -/

/-- **Fast-forward equals plain rounds.**  From every reachable scheduler, with some slot eligible, the selection with its
fast-forward returns a slot, and repeating plain passes until one serves returns the same slot in the same state. -/
theorem fast_forward_equals_plain_rounds (hp : Reachable p) (hsome : ∃ i < p.slots.length, eligible i = true) :
    ∃ i q, selectHierarchical eligible p = (.ok i, q) ∧ ∃ n, ∀ m, n ≤ m → repeatPass eligible m p = (.ok i, q) := by
  have hinv := hp.inv
  obtain ⟨k, hk, hke⟩ := hsome
  have hclass := exists_class hk hke
  obtain ⟨r, q, hpass, hr⟩ := passFrom_ends eligible 4 (Nat.le_refl 4) hinv none fun c i h => by cases h
  have hpass : selectHierarchicalPass eligible p = (.ok r, q) := hpass
  cases r with
  | some i =>
    refine ⟨i, q, ?_, 1, ?_⟩
    · change follow _ (selectHierarchicalPass eligible p) = _
      rw [hpass]
      rfl
    · intro m hm
      obtain ⟨m, rfl⟩ := Nat.exists_eq_add_of_le' hm
      exact repeatPass_served m hpass
  | none =>
    obtain ⟨-, hstarved⟩ := hr
    obtain ⟨hclosed, hclassQ, hshort⟩ := hstarved.waits hclass
    obtain ⟨rounds, hforward, hwaits⟩ := fastForward_run hstarved.inv hclosed hclassQ hshort
    obtain ⟨i, t, hselect, -⟩ := selectHierarchical_ends hinv ⟨k, hk, hke⟩
    obtain ⟨r, s, hsecond, -⟩ := passFrom_ends eligible 4 (Nat.le_refl 4) (hstarved.inv.skipped hwaits) none
      fun c i h => by cases h
    have hsecond : selectHierarchicalPass eligible (skipped eligible rounds q) = (.ok r, s) := hsecond
    have hchain : selectHierarchical eligible p = (okOr r .stateInconsistent, s) := by
      change follow _ (selectHierarchicalPass eligible p) = _
      rw [hpass]
      change follow _ (fastForwardEmptyClassRounds eligible q) = _
      rw [hforward]
      change follow _ (selectHierarchicalPass eligible (skipped eligible rounds q)) = _
      rw [hsecond]
      rfl
    -- the selection returned, so its second pass served
    obtain ⟨hok, rfl⟩ := Prod.mk.inj (hchain.symm.trans hselect)
    have hserved : r = some i := okOr_ok.1 hok
    subst hserved
    refine ⟨i, _, hselect, rounds + 2, ?_⟩
    intro m hm
    obtain ⟨m, rfl⟩ := Nat.exists_eq_add_of_le' hm
    have harrange : m + (rounds + 2) = rounds + (m + 1) + 1 := by omega
    rw [harrange, repeatPass_starved _ hpass, repeatPass_waits (m + 1) rounds hstarved.inv hclosed hwaits,
      repeatPass_served m hsecond]

theorem fast_forward_equals_plain_rounds_sample :
    ∃ i q, selectHierarchical sampleReady samplePolicy = (.ok i, q)
      ∧ ∃ n, ∀ m, n ≤ m → repeatPass sampleReady m samplePolicy = (.ok i, q) := by
  have hnew : tryNew sampleClasses sampleSpecs = .ok samplePolicy := rfl
  exact fast_forward_equals_plain_rounds (.fresh hnew) ⟨1, by decide, by decide⟩

end DispatchPolicy
end Dispatch
end ParaEgox
