import ParaEgox.DispatchInv

/-!
# DispatchPass — passes, the fast-forward and the selection
-/
namespace ParaEgox
namespace Dispatch

open Check Stateful

namespace DispatchPolicy

/-! ## Service -/

structure Served (eligible : Nat → Bool) (p : DispatchPolicy) (i : Nat) (q : DispatchPolicy) : Prop where
  inv : Inv q
  specs : Specs p q
  eligible : eligible i = true
  slot : i < p.slots.length

variable {i : Nat} {p : DispatchPolicy} {eligible : Nat → Bool} {c : DispatchClass}

theorem set_specs {slots : List DispatchSlot} {slot : DispatchSlot} (h : slots[i]? = some slot) (deficit : Nat) :
    (slots.set i { slot with deficit := deficit }).map (·.toDispatchSlotSpec) = slots.map (·.toDispatchSlotSpec) := by
  refine List.ext_getElem? fun j => ?_
  rw [List.getElem?_map, List.getElem?_map, List.getElem?_set]
  by_cases hij : i = j
  · subst hij
    rw [if_pos rfl, if_pos (List.getElem?_eq_some_iff.1 h).1, h]
    rfl
  · rw [if_neg hij]

theorem recordSlotService_slots (p : DispatchPolicy) (i : Nat) : (p.recordSlotService i).slots = p.slots
    ∧ (p.recordSlotService i).classDeficit = p.classDeficit ∧ (p.recordSlotService i).classes = p.classes := by
  unfold recordSlotService
  split <;> exact ⟨rfl, rfl, rfl⟩

theorem recordClassService_slots (p : DispatchPolicy) (c : DispatchClass) : (p.recordClassService c).slots = p.slots
    ∧ (p.recordClassService c).classDeficit = p.classDeficit ∧ (p.recordClassService c).classes = p.classes := by
  unfold recordClassService
  split <;> exact ⟨rfl, rfl, rfl⟩

theorem moveClassCursor_slots (p : DispatchPolicy) (c : DispatchClass) (eligible : Nat → Bool) :
    (p.moveClassCursor c eligible).slots = p.slots ∧ (p.moveClassCursor c eligible).classDeficit = p.classDeficit
      ∧ (p.moveClassCursor c eligible).classes = p.classes := by
  unfold moveClassCursor
  split <;> exact ⟨rfl, rfl, rfl⟩

theorem commitClassService_ends (hinv : Inv p) {c : DispatchClass} {eligible : Nat → Bool} {i : Nat}
    (hpays : Pays p c eligible i) :
    Ends (commitClassService c i eligible) p fun j q => j = i ∧ Served eligible p i q := by
  obtain ⟨cost, ⟨haffordable, hcost⟩, hle⟩ := hpays
  obtain ⟨heligible, _, _, slot, hslot, hclass, hfunds⟩ := affordable_spec haffordable
  have hdeficit : slot.deficit ≤ maxDeficit := hinv.deficits slot (List.mem_of_getElem? hslot)
  unfold commitClassService
  refine ends_bind_self (ends_bind_lift hcost ?_)
  refine ends_bind_lift (subU64_ok.2 ⟨hle, rfl⟩) (ends_bind_update ?_)
  have hcommit : Ends (commitSlotService i) (setClassDeficit c (p.classDeficit c - cost) p) fun _ q =>
      q.slots = p.slots.set i { slot with deficit := slot.deficit - slot.cost } ∧ q.classes = p.classes
        ∧ q.classDeficit = Function.update p.classDeficit c (p.classDeficit c - cost) := by
    unfold commitSlotService
    refine ends_bind_self (ends_bind_lift (a := slot) (okOr_ok.2 hslot) ?_)
    refine ends_bind_lift (subU64_ok.2 ⟨hfunds, rfl⟩) (ends_update ?_)
    have hrecord := recordSlotService_slots
      ((setClassDeficit c (p.classDeficit c - cost) p).setSlot i { slot with deficit := slot.deficit - slot.cost }) i
    exact ⟨hrecord.1, hrecord.2.2, hrecord.2.1⟩
  refine hcommit.bind ?_
  rintro _ q ⟨hslots, hclasses, hdeficits⟩
  refine ends_bind_update (ends_pure ⟨rfl, ?_⟩)
  have hrecord := recordClassService_slots q c
  have hmove := moveClassCursor_slots (q.recordClassService c) c eligible
  have hfinalSlots := (hmove.1.trans hrecord.1).trans hslots
  have hfinalDeficits := (hmove.2.1.trans hrecord.2.1).trans hdeficits
  have hfinalClasses := (hmove.2.2.trans hrecord.2.2).trans hclasses
  have hspecs : Specs p ((q.recordClassService c).moveClassCursor c eligible) :=
    ⟨by rw [hfinalSlots]; exact set_specs hslot _, hfinalClasses⟩
  refine ⟨⟨?_, ?_, ?_⟩, hspecs, heligible, lt_of_slot hslot⟩
  · intro hnil
    have hlen := hspecs.length
    rw [hnil, List.length_nil] at hlen
    exact hinv.nonempty (List.length_eq_zero_iff.1 hlen.symm)
  · rw [hfinalSlots]
    intro x hx
    rcases List.mem_or_eq_of_mem_set hx with hx | rfl
    · exact hinv.deficits x hx
    · exact Nat.le_trans (Nat.sub_le _ _) hdeficit
  · intro c'
    rw [hfinalDeficits]
    by_cases hc : c' = c
    · subst hc
      rw [Function.update_self]
      exact Nat.le_trans (Nat.sub_le _ _) (hinv.classDeficits c')
    · rw [Function.update_of_ne hc]
      exact hinv.classDeficits c'

/-! ## One pass -/

def upcoming : Nat → DispatchClass → List DispatchClass
  | 0, _ => []
  | n + 1, c => c :: upcoming n c.next

theorem not_mem_upcoming : ∀ n < 4, ∀ c : DispatchClass, c ∉ upcoming n c.next := by
  intro n hn c
  have hcases : n = 0 ∨ n = 1 ∨ n = 2 ∨ n = 3 := by omega
  rcases hcases with rfl | rfl | rfl | rfl <;> cases c <;> decide

theorem mem_upcoming_four (c c' : DispatchClass) : c' ∈ upcoming 4 c := by
  cases c <;> cases c' <;> decide

/-- What a pass that served nothing leaves: every class it came to is short of its prepared slot. -/
structure Starved (eligible : Nat → Bool) (turn : List DispatchClass) (p q : DispatchPolicy) : Prop where
  inv : Inv q
  static : Static p q
  others : ∀ c, c ∉ turn → Keeps c p q
  closed : p.classVisitOpen = false ∨ turn ≠ [] → q.classVisitOpen = false
  short : ∀ c ∈ turn, p.classHasEligible c eligible = true → Short q c eligible
  unfunded : p.classVisitOpen = false → ∀ c ∈ turn, p.classHasEligible c eligible = true → ¬ Funded p c eligible

/-- **A pass**: it serves a slot, or it had none set aside and starves every class in turn. -/
def Passed (eligible : Nat → Bool) (turn : List DispatchClass) (fallback : Option (DispatchClass × Nat))
    (p : DispatchPolicy) : Option Nat → DispatchPolicy → Prop
  | some i, q => Served eligible p i q
  | none, q => fallback = none ∧ Starved eligible turn p q

theorem Served.after {q r : DispatchPolicy} (hspecs : Specs p q)
    (h : Served eligible q i r) : Served eligible p i r :=
  ⟨h.inv, hspecs.trans h.specs, h.eligible, hspecs.length ▸ h.slot⟩

theorem Keeps.refl (c : DispatchClass) (p : DispatchPolicy) : Keeps c p p := ⟨⟨.refl p, fun _ _ h _ => h⟩, rfl⟩

theorem passFrom_ends (eligible : Nat → Bool) : ∀ (n : Nat) (_ : n ≤ 4) {p : DispatchPolicy} (_ : Inv p)
    (fallback : Option (DispatchClass × Nat))
    (_ : ∀ c i, fallback = some (c, i) → Pays p c eligible i ∧ c ∉ upcoming n p.classCursor),
    Ends (passFrom eligible n fallback) p (Passed eligible (upcoming n p.classCursor) fallback p)
  | 0, _, p, hinv, none, _ => by
    refine ends_pure ⟨rfl, hinv, .refl p, fun c _ => .refl c p, fun h => h.resolve_right (absurd rfl), ?_, ?_⟩
    · exact fun c hc => absurd hc List.not_mem_nil
    · exact fun _ c hc => absurd hc List.not_mem_nil
  | 0, _, p, hinv, some (c, i), hfallback => by
    refine (commitClassService_ends hinv (hfallback c i rfl).1).bind ?_
    rintro j q ⟨rfl, hserved⟩
    exact ends_pure hserved
  | n + 1, hn, p, hinv, fallback, hfallback => by
    unfold passFrom
    refine ends_bind_self ((visitClass_ends hinv p.classCursor eligible).bind ?_)
    intro v q hv
    have hfresh := not_mem_upcoming n (by omega) p.classCursor
    -- the slot set aside before this visit can still be paid for
    have hkept : ∀ c i, fallback = some (c, i) → Pays q c eligible i ∧ c ∉ upcoming n p.classCursor.next := by
      intro c i h
      obtain ⟨hpays, hnot⟩ := hfallback c i h
      obtain ⟨hne, hlater⟩ := not_or.1 (List.mem_cons.not.1 hnot)
      exact ⟨(hv.others c hne).pays hpays, hlater⟩
    cases v with
    | passed =>
      obtain ⟨hcursor, hclosed⟩ := hv.moved fun i h => by cases h
      have hrest := passFrom_ends eligible n (by omega) hv.inv fallback (by rw [hcursor]; exact hkept)
      rw [hcursor] at hrest
      refine hrest.mono ?_
      intro r s hr
      cases r with
      | some i => exact Served.after hv.static.specs hr
      | none =>
        obtain ⟨hnone, hstarved⟩ := hr
        refine ⟨hnone, hstarved.inv, hv.static.trans hstarved.static, ?_, ?_, ?_, ?_⟩
        · intro c hc
          obtain ⟨hne, hlater⟩ := not_or.1 (List.mem_cons.not.1 hc)
          exact (hv.others c hne).trans (hstarved.others c hlater)
        · exact fun _ => hstarved.closed (.inl hclosed)
        · intro c hc heligible
          rcases List.mem_cons.1 hc with rfl | hc
          · exact (hstarved.others _ hfresh).short (hv.passed rfl heligible).1
          · exact hstarved.short c hc ((hv.static.specs.classHasEligible c eligible).trans heligible)
        · intro hopen c hc heligible
          rcases List.mem_cons.1 hc with rfl | hc
          · exact (hv.passed rfl heligible).2 hopen
          · intro hfunded
            have hne : c ≠ p.classCursor := fun h => hfresh (h ▸ hc)
            exact hstarved.unfunded hclosed c hc ((hv.static.specs.classHasEligible c eligible).trans heligible)
              ((hv.others c hne).funded hfunded)
    | yielded i =>
      obtain ⟨hcursor, hclosed⟩ := hv.moved fun i h => by cases h
      have hpays := hv.pays i (.inl rfl)
      have hrest := passFrom_ends eligible n (by omega) hv.inv (some (p.classCursor, i)) (by
        intro c j h
        cases h
        rw [hcursor]
        exact ⟨hpays, hfresh⟩)
      refine hrest.mono ?_
      intro r s hr
      cases r with
      | some j => exact Served.after hv.static.specs hr
      | none => exact absurd hr.1 (by simp)
    | ready i =>
      refine (commitClassService_ends hv.inv (hv.pays i (.inr rfl))).bind ?_
      rintro j s ⟨rfl, hserved⟩
      exact ends_pure (Served.after hv.static.specs hserved)

/-! ## The fast-forward -/

def neededVisits (p : DispatchPolicy) (c : DispatchClass) (cost : Nat) : Nat :=
  (cost - p.classDeficit c + ((p.classes c).quantum - 1)) / (p.classes c).quantum

def Needs (p : DispatchPolicy) (c : DispatchClass) (eligible : Nat → Bool) (visits : Nat) : Prop :=
  ∃ i cost, Prices p c eligible i cost ∧ p.classDeficit c < cost ∧ visits = neededVisits p c cost

theorem Needs.unique {v v' : Nat} (h : Needs p c eligible v) (h' : Needs p c eligible v') : v = v' := by
  obtain ⟨i, cost, hprices, _, rfl⟩ := h
  obtain ⟨i', cost', hprices', _, rfl⟩ := h'
  rw [(prices_unique hprices hprices').2]

/-- **The visits a class needs bring it within reach**: at least one, not more than the price, and enough. -/
theorem Needs.spec {v : Nat} (h : Needs p c eligible v) : 0 < v ∧ v ≤ maxServiceCostTokens
      ∧ ∃ i cost, Prices p c eligible i cost ∧ cost ≤ p.classDeficit c + v * (p.classes c).quantum := by
  obtain ⟨i, cost, hprices, hlt, rfl⟩ := h
  have hpos := (p.classes c).quantum_pos
  have hle := (price_le hprices).2
  have hceil := Nat.lt_div_mul_add hpos (a := cost - p.classDeficit c + ((p.classes c).quantum - 1))
  rw [← neededVisits] at hceil
  refine ⟨?_, ?_, i, cost, hprices, by omega⟩
  · exact Nat.div_pos (by omega) hpos
  · refine Nat.div_le_of_le_mul ?_
    obtain ⟨m, hm⟩ : ∃ m, cost - p.classDeficit c = m + 1 := ⟨cost - p.classDeficit c - 1, by omega⟩
    have hmul : (p.classes c).quantum + m ≤ (p.classes c).quantum * (m + 1) := by
      rw [Nat.mul_succ, Nat.add_comm]
      exact Nat.add_le_add_right (Nat.le_mul_of_pos_left m hpos) _
    have hbound : (p.classes c).quantum * (m + 1) ≤ (p.classes c).quantum * maxServiceCostTokens :=
      Nat.mul_le_mul_left _ (by omega)
    omega

theorem Short.needs (h : Short p c eligible) : ∃ v, Needs p c eligible v := by
  obtain ⟨i, cost, hprices, hlt⟩ := h
  exact ⟨_, i, cost, hprices, hlt, rfl⟩

theorem visitsFor_eq {cost : Nat} (hprices : Prices p c eligible i cost) (hlt : p.classDeficit c < cost) :
    p.visitsFor c i = .ok (neededVisits p c cost) := by
  have hle := (price_le hprices).2
  have hquantum := (p.classes c).quantum_le
  have hmax : maxServiceCostTokens + maxClassQuantum ≤ u64Max := by decide
  unfold visitsFor
  rw [hprices.2]
  have hsub : subU64 cost (p.classDeficit c) DispatcherError.stateInconsistent = .ok (cost - p.classDeficit c) :=
    subU64_ok.2 ⟨by omega, rfl⟩
  have hadd : addU64 (cost - p.classDeficit c) ((p.classes c).quantum - 1) DispatcherError.counterOverflow
      = .ok (cost - p.classDeficit c + ((p.classes c).quantum - 1)) := addU64_ok.2 ⟨by omega, rfl⟩
  change (subU64 cost (p.classDeficit c) DispatcherError.stateInconsistent >>= _) = _
  rw [hsub]
  change (rejectIf (cost - p.classDeficit c = 0) DispatcherError.stateInconsistent >>= _) = _
  rw [rejectIf_neg (by omega)]
  change (addU64 (cost - p.classDeficit c) ((p.classes c).quantum - 1) DispatcherError.counterOverflow >>= _) = _
  rw [hadd]
  rfl

theorem visitsUntilService_ends
    (hshort : ∀ c, p.classHasEligible c eligible = true → Short p c eligible) : ∀ (turn : List DispatchClass)
    (least : Option Nat), Ends (visitsUntilService eligible turn least) p fun least' q => q = p
      ∧ (∀ v, least = some v → ∃ v', least' = some v' ∧ v' ≤ v)
      ∧ (∀ c ∈ turn, p.classHasEligible c eligible = true → ∀ v, Needs p c eligible v → ∃ v', least' = some v' ∧ v' ≤ v)
      ∧ (∀ v', least' = some v' → least = some v'
          ∨ ∃ c ∈ turn, p.classHasEligible c eligible = true ∧ Needs p c eligible v')
  | [], least => by
    exact ends_pure ⟨rfl, fun v hv => ⟨v, hv, Nat.le_refl v⟩, fun c hc => absurd hc List.not_mem_nil, fun v hv => .inl hv⟩
  | c :: turn, least => by
    unfold visitsUntilService
    refine ends_bind_self ?_
    by_cases heligible : p.classHasEligible c eligible = true
    · rw [if_pos heligible]
      obtain ⟨i, cost, hprices, hlt⟩ := hshort c heligible
      have hneeds : Needs p c eligible (neededVisits p c cost) := ⟨i, cost, hprices, hlt, rfl⟩
      refine ends_bind_run (prepareSlotInClass_again hprices.1) (ends_bind_self ?_)
      refine ends_bind_lift (visitsFor_eq hprices hlt) ?_
      refine (visitsUntilService_ends hshort turn _).mono ?_
      rintro least' q ⟨rfl, hold, hturn, hfrom⟩
      obtain ⟨v1, hv1, hle1⟩ := hold _ rfl
      refine ⟨rfl, fun v hv => ?_, fun c' hc' hc'eligible v hv => ?_, fun v' hv' => ?_⟩
      · subst hv
        exact ⟨v1, hv1, Nat.le_trans hle1 (Nat.min_le_left _ _)⟩
      · rcases List.mem_cons.1 hc' with rfl | hc'
        · rw [← hneeds.unique hv]
          refine ⟨v1, hv1, Nat.le_trans hle1 ?_⟩
          cases least with
          | none => exact Nat.le_refl _
          | some v => exact Nat.min_le_right _ _
        · exact hturn c' hc' hc'eligible v hv
      · rcases hfrom v' hv' with heq | ⟨c', hc', hc'eligible, hneeds'⟩
        · cases least with
          | none =>
            cases heq
            exact .inr ⟨c, List.mem_cons_self, heligible, hneeds⟩
          | some v =>
            have hmin : min v (neededVisits q c cost) = v' := Option.some.inj heq
            rcases Nat.le_total v (neededVisits q c cost) with hle | hle
            · rw [Nat.min_eq_left hle] at hmin
              exact .inl (by rw [hmin])
            · rw [Nat.min_eq_right hle] at hmin
              exact .inr ⟨c, List.mem_cons_self, heligible, hmin ▸ hneeds⟩
        · exact .inr ⟨c', List.mem_cons_of_mem _ hc', hc'eligible, hneeds'⟩
    · rw [if_neg heligible]
      refine (visitsUntilService_ends hshort turn least).mono ?_
      rintro least' q ⟨rfl, hold, hturn, hfrom⟩
      refine ⟨rfl, hold, fun c' hc' hc'eligible => ?_, fun v' hv' => (hfrom v' hv').imp_right ?_⟩
      · rcases List.mem_cons.1 hc' with rfl | hc'
        · exact absurd hc'eligible heligible
        · exact hturn c' hc' hc'eligible
      · rintro ⟨c', hc', h⟩
        exact ⟨c', List.mem_cons_of_mem _ hc', h⟩

theorem creditEmptyRounds_ends {rounds : Nat} (hrounds : rounds ≤ maxServiceCostTokens) (eligible : Nat → Bool) :
    ∀ (turn : List DispatchClass) (_ : turn.Nodup) {p : DispatchPolicy} (_ : Inv p),
      Ends (creditEmptyRounds rounds eligible turn) p fun _ q => Inv q ∧ (∃ deficit, q = { p with classDeficit := deficit })
        ∧ (∀ c, c ∉ turn → q.classDeficit c = p.classDeficit c)
        ∧ ∀ c ∈ turn, p.classHasEligible c eligible = true →
            q.classDeficit c = min (p.classDeficit c + rounds * (p.classes c).quantum) maxDeficit
  | [], _, p, hinv => by
    exact ends_pure ⟨hinv, ⟨p.classDeficit, rfl⟩, fun _ _ => rfl, fun c hc => absurd hc List.not_mem_nil⟩
  | c :: turn, hnodup, p, hinv => by
    obtain ⟨hnot, hturn⟩ := List.nodup_cons.1 hnodup
    unfold creditEmptyRounds
    refine ends_bind_self ?_
    by_cases heligible : p.classHasEligible c eligible = true
    · rw [if_pos heligible]
      have hdeficit := hinv.classDeficits c
      have hmul : rounds * (p.classes c).quantum ≤ maxServiceCostTokens * maxClassQuantum :=
        Nat.mul_le_mul hrounds (p.classes c).quantum_le
      have hmax : maxDeficit + maxServiceCostTokens * maxClassQuantum ≤ u64Max := by decide
      refine ends_bind_lift (rejectIf_neg (by omega)) (ends_bind_lift (addU64_ok.2 ⟨by omega, rfl⟩) ?_)
      refine ends_bind_update ?_
      have hinv' : Inv (setClassDeficit c (min (p.classDeficit c + rounds * (p.classes c).quantum) maxDeficit) p) := by
        refine ⟨hinv.nonempty, hinv.deficits, fun c' => ?_⟩
        by_cases hc : c' = c
        · subst hc
          exact (Function.update_self c' _ _).le.trans (Nat.min_le_right _ _)
        · exact (Function.update_of_ne hc _ _).le.trans (hinv.classDeficits c')
      refine (creditEmptyRounds_ends hrounds eligible turn hturn hinv').mono ?_
      rintro _ q ⟨hinvQ, ⟨deficit, rfl⟩, hothers, hcredited⟩
      refine ⟨hinvQ, ⟨deficit, rfl⟩, fun c' hc' => ?_, fun c' hc' hc'eligible => ?_⟩
      · obtain ⟨hne, hlater⟩ := not_or.1 (List.mem_cons.not.1 hc')
        exact (hothers c' hlater).trans (Function.update_of_ne hne _ _)
      · rcases List.mem_cons.1 hc' with rfl | hc'
        · exact (hothers c' hnot).trans (Function.update_self c' _ _)
        · have hne : c' ≠ c := fun h => hnot (h ▸ hc')
          refine (hcredited c' hc' hc'eligible).trans ?_
          exact congrArg (fun d => min (d + rounds * (p.classes c').quantum) maxDeficit) (Function.update_of_ne hne _ _)
    · rw [if_neg heligible]
      refine (creditEmptyRounds_ends hrounds eligible turn hturn hinv).mono ?_
      rintro _ q ⟨hinvQ, hdeficit, hothers, hcredited⟩
      refine ⟨hinvQ, hdeficit, fun c' hc' => hothers c' fun h => hc' (List.mem_cons_of_mem _ h), fun c' hc' h => ?_⟩
      rcases List.mem_cons.1 hc' with rfl | hc'
      · exact absurd h heligible
      · exact hcredited c' hc' h

theorem prices_deficit {cost : Nat} (h : Prices p c eligible i cost) (deficit : DispatchClass → Nat) :
    Prices { p with classDeficit := deficit } c eligible i cost :=
  KeepsSlots.prices (q := { p with classDeficit := deficit }) ⟨⟨.refl p, rfl, rfl, rfl⟩, fun _ _ h _ => h⟩ h

/-- **The fast-forward brings some eligible class within one quantum of its prepared slot.** -/
theorem fastForward_ends (hinv : Inv p) {eligible : Nat → Bool} (hclosed : p.classVisitOpen = false)
    (hsome : ∃ c, p.classHasEligible c eligible = true)
    (hshort : ∀ c, p.classHasEligible c eligible = true → Short p c eligible) :
    Ends (fastForwardEmptyClassRounds eligible) p fun _ q => Inv q ∧ Static p q ∧ q.classVisitOpen = false
      ∧ ∃ c, p.classHasEligible c eligible = true ∧ Funded q c eligible := by
  have hall : ∀ c : DispatchClass, c ∈ DispatchClass.all := by
    intro c
    cases c <;> decide
  unfold fastForwardEmptyClassRounds
  refine ends_bind_self (ends_bind_lift (rejectIf_neg (by rw [hclosed]; decide)) ?_)
  refine (visitsUntilService_ends hshort DispatchClass.all none).bind ?_
  rintro least q ⟨rfl, _, hturn, hfrom⟩
  obtain ⟨c0, hc0⟩ := hsome
  obtain ⟨v0, hv0⟩ := (hshort c0 hc0).needs
  obtain ⟨v, rfl, _⟩ := hturn c0 (hall c0) hc0 v0 hv0
  obtain hnone | ⟨c, _, hc, hneeds⟩ := hfrom v rfl
  · cases hnone
  obtain ⟨hpos, hle, i, cost, hprices, hreach⟩ := hneeds.spec
  refine ends_bind_lift (a := v) rfl (ends_bind_lift (subU64_ok.2 ⟨by omega, rfl⟩) ?_)
  by_cases hone : v - 1 = 0
  · rw [if_pos hone]
    refine ends_pure ⟨hinv, .refl q, hclosed, c, hc, i, cost, hprices, ?_⟩
    have hv : v = 1 := by omega
    rwa [hv, Nat.one_mul] at hreach
  · rw [if_neg hone]
    refine (creditEmptyRounds_ends (by omega : v - 1 ≤ maxServiceCostTokens) eligible DispatchClass.all (by decide)
      hinv).mono ?_
    rintro _ r ⟨hinvR, ⟨deficit, rfl⟩, _, hcredited⟩
    refine ⟨hinvR, ⟨.refl q, rfl, rfl, rfl⟩, hclosed, c, hc, i, cost, prices_deficit hprices deficit, ?_⟩
    have hcredit : deficit c = min (q.classDeficit c + (v - 1) * (q.classes c).quantum) maxDeficit :=
      hcredited c (hall c) hc
    have hcap : cost ≤ maxDeficit := Nat.le_trans (price_le hprices).2 (by decide)
    have hsplit : v * (q.classes c).quantum = (v - 1) * (q.classes c).quantum + (q.classes c).quantum := by
      rw [← Nat.succ_mul]
      congr 1
      omega
    change cost ≤ deficit c + (q.classes c).quantum
    rw [hcredit]
    omega

/-! ## Selection -/

theorem exists_class (hi : i < p.slots.length)
    (h : eligible i = true) : ∃ c, p.classHasEligible c eligible = true := by
  refine ⟨(p.slots[i]).slotClass, (anySlot_iff _ _).2 ⟨i, p.slots[i], List.getElem?_eq_getElem hi, ?_⟩⟩
  rw [h]
  simp

/-- **A pass in vain closes the visit** and leaves the eligible classes waiting, each short of its price. -/
theorem Starved.waits {q : DispatchPolicy} (h : Starved eligible (upcoming 4 p.classCursor) p q)
    (hclass : ∃ c, p.classHasEligible c eligible = true) :
    q.classVisitOpen = false ∧ (∃ c, q.classHasEligible c eligible = true)
      ∧ ∀ c, q.classHasEligible c eligible = true → Short q c eligible := by
  have hsame := h.static.specs
  refine ⟨h.closed (.inr (by simp [upcoming])), ?_, fun c hc => ?_⟩
  · obtain ⟨c, hc⟩ := hclass
    exact ⟨c, (hsame.classHasEligible c eligible).trans hc⟩
  · exact h.short c (mem_upcoming_four _ c) ((hsame.classHasEligible c eligible).symm.trans hc)

/-- **A hierarchical selection serves an eligible slot whenever there is one.** -/
theorem selectHierarchical_ends (hinv : Inv p) {eligible : Nat → Bool}
    (hsome : ∃ i < p.slots.length, eligible i = true) :
    Ends (selectHierarchical eligible) p fun i q => Served eligible p i q := by
  obtain ⟨k, hk, hke⟩ := hsome
  have hclass := exists_class hk hke
  unfold selectHierarchical selectHierarchicalPass
  refine (passFrom_ends eligible 4 (Nat.le_refl 4) hinv none fun c i h => by cases h).bind ?_
  intro r q hr
  cases r with
  | some i => exact ends_pure hr
  | none =>
    obtain ⟨_, hstarved⟩ := hr
    obtain ⟨hclosed, hclassQ, hshort⟩ := hstarved.waits hclass
    refine (fastForward_ends hstarved.inv hclosed hclassQ hshort).bind ?_
    rintro _ s ⟨hinvS, hstaticS, hclosedS, c, hc, hfunded⟩
    refine (passFrom_ends eligible 4 (Nat.le_refl 4) hinvS none fun c i h => by cases h).bind ?_
    intro r t ht
    cases r with
    | some i => exact ends_lift rfl (Served.after (hstarved.static.specs.trans hstaticS.specs) ht)
    | none =>
      -- the funded class cannot have been passed over
      have hcS := (hstaticS.specs.classHasEligible c eligible).trans hc
      exact absurd hfunded (ht.2.unfunded hclosedS c (mem_upcoming_four _ c) hcS)

theorem selectDirect_ends (hinv : Inv p) {eligible : Nat → Bool} (hsome : ∃ i < p.slots.length, eligible i = true) :
    Ends (selectDirect eligible) p fun i q => Served eligible p i q := by
  obtain ⟨k, hk, hke⟩ := hsome
  have hfind : ((p.rotation p.directCursor).find? eligible).isSome := by
    rw [List.find?_isSome]
    exact ⟨k, mem_rotation _ hk, hke⟩
  obtain ⟨i, hi⟩ := Option.isSome_iff_exists.1 hfind
  unfold selectDirect
  refine ends_bind_self (ends_bind_lift (a := i) (okOr_ok.2 hi) (ends_bind_update (ends_pure ?_)))
  refine ⟨⟨hinv.nonempty, hinv.deficits, hinv.classDeficits⟩, .refl p, List.find?_some hi, ?_⟩
  exact lt_of_mem_rotation hinv.nonempty (List.mem_of_find?_eq_some hi)

theorem select_ends (hinv : Inv p) {eligible : Nat → Bool} (hsome : ∃ i < p.slots.length, eligible i = true) :
    Ends (select eligible) p fun chosen q => Served eligible p chosen.1 q := by
  unfold select
  refine ends_bind_self ?_
  by_cases hdirect : p.directScan = true
  · rw [if_pos hdirect]
    exact (selectDirect_ends hinv hsome).bind fun i q hserved => ends_pure hserved
  · rw [if_neg hdirect]
    exact (selectHierarchical_ends hinv hsome).bind fun i q hserved => ends_pure hserved

end DispatchPolicy
end Dispatch
end ParaEgox
