import ParaEgox.DispatchPass

/-!
# DispatchRuns — selection with permits, from any reachable state

The permit ledger keeps its counters in step with the active permits, so a permit that is free can be taken.  From every
reachable scheduler and ledger a selection serves a slot exactly when one is ready with a permit for its class, and takes
one permit for it.
-/
namespace ParaEgox
namespace Dispatch

open Check Stateful

namespace DomainPermitLedger

/-! ## The ledger -/

/-- **The invariant of the ledger.** -/
structure LedgerOk (l : DomainPermitLedger) : Prop where
  total_pos : 0 < l.total
  reserved_le : l.controlReserved ≤ l.total
  shared_le : l.sharedInUse ≤ l.total - l.controlReserved
  control_le : l.controlReservedInUse ≤ l.controlReserved
  shared : (l.active.countP fun a => decide (a.pool = .shared)) = l.sharedInUse
  count : l.active.length = l.sharedInUse + l.controlReservedInUse
  ids : ∀ a ∈ l.active, a.permitId ≤ l.nextPermitId
  nodup : (l.active.map (·.permitId)).Nodup

variable {l : DomainPermitLedger}

theorem LedgerOk.validateState (h : LedgerOk l) : l.validateState = .ok () := by
  obtain ⟨hpos, hreserved, hshared, hcontrol, hcountShared, hcount, _, _⟩ := h
  have htotal := l.total_le
  simp only [DomainPermitLedger.validateState, bind_ok, subU64_ok, toU32_ok, rejectIf_ok, exists_unit, not_or, not_not,
    ne_eq, Nat.not_lt]
  refine ⟨_, ⟨hreserved, rfl⟩, ⟨by omega, hshared, hcontrol⟩, _, ⟨by omega, rfl⟩, _, ⟨by omega, rfl⟩, hcount, ?_, ?_⟩
  · exact hcountShared.symm
  · rw [hcountShared]
    omega

def taken (l : DomainPermitLedger) (pool : PermitPool) : DomainPermitLedger :=
  { l with
    sharedInUse := l.sharedInUse + if pool = .shared then 1 else 0
    controlReservedInUse := l.controlReservedInUse + if pool = .controlReserved then 1 else 0
    nextPermitId := l.nextPermitId + 1
    active := Keyed.insert ActivePermit.permitId ⟨l.nextPermitId + 1, pool⟩ l.active }

theorem poolFor_isSome (l : DomainPermitLedger) (c : DispatchClass) : (l.poolFor c).isSome = l.canAcquire c := by
  unfold poolFor canAcquire
  by_cases hcontrol : c.isControl = true ∧ l.controlReservedInUse < l.controlReserved
  · simp [hcontrol.1, hcontrol.2]
  · rw [if_neg hcontrol]
    by_cases hshared : l.sharedInUse < l.total - l.controlReserved
    · simp [hshared]
    · rw [if_neg hshared]
      simp only [Option.isSome_none, hshared, decide_false, Bool.or_false]
      symm
      simpa using hcontrol

theorem poolFor_free {c : DispatchClass} {pool : PermitPool} (h : l.poolFor c = some pool) :
    (pool = .shared → l.sharedInUse < l.total - l.controlReserved)
      ∧ (pool = .controlReserved → l.controlReservedInUse < l.controlReserved) := by
  unfold poolFor at h
  split at h
  · rename_i hcontrol
    cases h
    exact ⟨fun h => absurd h (by decide), fun _ => hcontrol.2⟩
  · split at h
    · rename_i hshared
      cases h
      exact ⟨fun _ => hshared, fun h => absurd h (by decide)⟩
    · cases h

theorem LedgerOk.taken (h : LedgerOk l) {c : DispatchClass} {pool : PermitPool}
    (hpool : l.poolFor c = some pool) : LedgerOk (l.taken pool) := by
  obtain ⟨hshared, hcontrol⟩ := poolFor_free hpool
  have hperm := Keyed.insert_perm ActivePermit.permitId ⟨l.nextPermitId + 1, pool⟩ l.active
  have hfresh : l.nextPermitId + 1 ∉ l.active.map (·.permitId) := by
    intro hmem
    obtain ⟨a, ha, heq⟩ := List.mem_map.1 hmem
    have hle := h.ids a ha
    omega
  have hcountShared := h.shared
  have hcount := h.count
  have hs := h.shared_le
  have hc := h.control_le
  refine ⟨h.total_pos, h.reserved_le, ?_, ?_, ?_, ?_, fun a ha => ?_, ?_⟩
  · cases pool with
    | shared => exact hshared rfl
    | controlReserved => exact hs
  · cases pool with
    | shared => exact hc
    | controlReserved => exact hcontrol rfl
  · refine (hperm.countP_eq _).trans ?_
    rw [List.countP_cons, hcountShared]
    cases pool <;> rfl
  · refine hperm.length_eq.trans ?_
    rw [List.length_cons, hcount]
    cases pool
    · exact Nat.add_right_comm _ _ _
    · exact Nat.add_assoc _ _ _
  · rcases (Keyed.mem_insert _).1 ha with rfl | ha
    · exact Nat.le_refl _
    · exact Nat.le_succ_of_le (h.ids a ha)
  · refine (hperm.map _).nodup_iff.2 ?_
    rw [List.map_cons]
    exact List.nodup_cons.2 ⟨hfresh, h.nodup⟩

/-- **Taking a permit from a valid ledger**: it is handed out exactly when one is free; only the permit counter can run
out, and then nothing has changed. -/
theorem LedgerOk.tryAcquire (h : LedgerOk l) (c : DispatchClass) :
    DomainPermitLedger.tryAcquire c l = match l.poolFor c with
      | none => (.ok none, l)
      | some pool => if l.nextPermitId < u64Max then (.ok (some ⟨l.id, l.nextPermitId + 1, pool, true⟩), l.taken pool)
        else (.error .counterOverflow, l) := by
  have hvalid := h.validateState
  change follow _ (lift l.validateState l) = _
  rw [hvalid]
  change (match l.poolFor c with | none => _ | some pool => _ : Stateful _ _ _) l = _
  cases hpool : l.poolFor c with
  | none => rfl
  | some pool =>
    obtain ⟨hshared, hcontrol⟩ := poolFor_free hpool
    have htotal := l.total_le
    have hreserved := h.reserved_le
    dsimp only
    by_cases hroom : l.nextPermitId < u64Max
    · rw [if_pos hroom]
      have hfresh : ∀ a ∈ l.active, a.permitId ≠ l.nextPermitId + 1 := fun a ha => by
        have hle := h.ids a ha
        omega
      have hsame : (l.active.filter fun b => decide (b.permitId ≠ l.nextPermitId + 1)) = l.active :=
        List.filter_eq_self.2 fun a ha => decide_eq_true (hfresh a ha)
      have hnone : ¬ l.active.any (·.permitId = l.nextPermitId + 1) = true := by
        simp only [List.any_eq_true, decide_eq_true_eq, not_exists, not_and]
        exact hfresh
      have hends : Ends (acquireFrom pool) l fun token l' => token = ⟨l.id, l.nextPermitId + 1, pool, true⟩
          ∧ l' = l.taken pool := by
        unfold acquireFrom
        refine ends_bind_self (ends_bind_lift (addU64_ok.2 ⟨by omega, rfl⟩) (ends_bind_update ?_))
        refine ends_bind_lift (rejectIf_neg hnone) ?_
        unfold countUp insertActive
        rw [hsame]
        cases pool with
        | shared =>
          have hcap := hshared rfl
          refine Ends.bind (ends_bind_self (ends_bind_lift (toU32_ok.2 ⟨?_, rfl⟩) (ends_update (Q := fun _ l' =>
            { l' with nextPermitId := l.nextPermitId + 1 } = l.taken .shared) rfl))) ?_
          · dsimp only
            omega
          · rintro _ l' hl'
            exact ends_bind_update (ends_pure ⟨rfl, hl'⟩)
        | controlReserved =>
          have hcap := hcontrol rfl
          refine Ends.bind (ends_bind_self (ends_bind_lift (toU32_ok.2 ⟨?_, rfl⟩) (ends_update (Q := fun _ l' =>
            { l' with nextPermitId := l.nextPermitId + 1 } = l.taken .controlReserved) rfl))) ?_
          · dsimp only
            omega
          · rintro _ l' hl'
            exact ends_bind_update (ends_pure ⟨rfl, hl'⟩)
      obtain ⟨token, l', hrun, rfl, rfl⟩ := hends
      change follow _ (acquireFrom pool l) = _
      rw [hrun]
      rfl
    · rw [if_neg hroom]
      have hover : addU64 l.nextPermitId 1 PermitError.counterOverflow = .error .counterOverflow := by
        unfold addU64 rejectIf
        rw [if_pos (by omega)]
        rfl
      change follow _ (follow _ (lift (addU64 l.nextPermitId 1 PermitError.counterOverflow) l)) = _
      rw [hover]
      rfl

variable {id : Nat} {entry : ActivePermit}

theorem LedgerOk.released (h : LedgerOk l)
    (hfind : Keyed.find ActivePermit.permitId id l.active = some entry) {shared control : Nat}
    (hshared : shared + (if entry.pool = .shared then 1 else 0) = l.sharedInUse)
    (hcontrol : control + (if entry.pool = .controlReserved then 1 else 0) = l.controlReservedInUse) :
    LedgerOk { l with
      sharedInUse := shared
      controlReservedInUse := control
      active := l.active.filter fun a => decide (a.permitId ≠ id) } := by
  have hperm := Keyed.find_perm ActivePermit.permitId h.nodup hfind
  have hlen := hperm.length_eq
  have hcountP := hperm.countP_eq fun a => decide (a.pool = .shared)
  rw [List.length_cons, h.count] at hlen
  rw [List.countP_cons, h.shared] at hcountP
  have hs := h.shared_le
  have hc := h.control_le
  have hsub : (l.active.filter fun a => decide (a.permitId ≠ id)).Sublist l.active := List.filter_sublist
  refine ⟨h.total_pos, h.reserved_le, by dsimp only; omega, by dsimp only; omega, ?_, ?_, ?_, ?_⟩
  · cases hpool : entry.pool with
    | shared =>
      rw [hpool] at hcountP hshared
      simp at hcountP hshared ⊢
      omega
    | controlReserved =>
      rw [hpool] at hcountP hshared
      simp at hcountP hshared ⊢
      omega
  · cases hpool : entry.pool with
    | shared =>
      rw [hpool] at hshared hcontrol
      simp at hshared hcontrol hlen ⊢
      omega
    | controlReserved =>
      rw [hpool] at hshared hcontrol
      simp at hshared hcontrol hlen ⊢
      omega
  · exact fun a ha => h.ids a (hsub.subset ha)
  · exact (hsub.map _).nodup h.nodup

theorem LedgerOk.inUse (h : LedgerOk l) (hfind : Keyed.find ActivePermit.permitId id l.active = some entry) :
    (entry.pool = .shared → 1 ≤ l.sharedInUse) ∧ (entry.pool = .controlReserved → 1 ≤ l.controlReservedInUse) := by
  have hperm := Keyed.find_perm ActivePermit.permitId h.nodup hfind
  have hlen := hperm.length_eq
  have hcountP := hperm.countP_eq fun a => decide (a.pool = .shared)
  have hle := List.countP_le_length (p := fun a : ActivePermit => decide (a.pool = .shared))
    (l := l.active.filter fun a => decide (a.permitId ≠ id))
  rw [List.length_cons, h.count] at hlen
  rw [List.countP_cons, h.shared] at hcountP
  refine ⟨fun hpool => ?_, fun hpool => ?_⟩
  · simp only [hpool, decide_true, if_true] at hcountP
    omega
  · simp only [hpool, reduceCtorEq, decide_false, Bool.false_eq_true, if_false] at hcountP
    omega

def freed (l : DomainPermitLedger) (entry : ActivePermit) : DomainPermitLedger :=
  { l with
    sharedInUse := l.sharedInUse - if entry.pool = .shared then 1 else 0
    controlReservedInUse := l.controlReservedInUse - if entry.pool = .controlReserved then 1 else 0
    active := l.active.filter fun a => decide (a.permitId ≠ entry.permitId) }

theorem LedgerOk.freed (h : LedgerOk l)
    (hfind : Keyed.find ActivePermit.permitId id l.active = some entry) : LedgerOk (l.freed entry) := by
  obtain ⟨hshared, hcontrol⟩ := h.inUse hfind
  have hid : entry.permitId = id := (Keyed.find_mem _ hfind).2
  unfold DomainPermitLedger.freed
  rw [hid]
  refine h.released hfind ?_ ?_
  · split
    · rename_i hpool
      have hone := hshared hpool
      omega
    · rfl
  · split
    · rename_i hpool
      have hone := hcontrol hpool
      omega
    · rfl

/-- The token is active, the ledger's own, and the one an active permit is recorded for. -/
def Redeemable (l : DomainPermitLedger) (token : DomainPermitToken) : Prop :=
  token.active = true ∧ token.ledger = l.id
    ∧ ∃ entry, Keyed.find ActivePermit.permitId token.permitId l.active = some entry ∧ entry.pool = token.pool

inductive Outcome (l : DomainPermitLedger) (token : DomainPermitToken) :
    Except PermitError DomainPermitToken × DomainPermitLedger → Prop
  | taken {entry : ActivePermit} : Redeemable l token →
      Keyed.find ActivePermit.permitId token.permitId l.active = some entry → entry.pool = token.pool →
      Outcome l token (.ok { token with active := false }, l.freed entry)
  | refused (error : PermitError) : ¬ Redeemable l token → Outcome l token (.error error, l)

/-- **Giving a permit back to a valid ledger**: it is taken exactly when it is redeemable, and otherwise nothing has
changed. -/
theorem LedgerOk.release_outcome (h : LedgerOk l) (token : DomainPermitToken) :
    Outcome l token (DomainPermitLedger.release token l) := by
  have hvalid := h.validateState
  change Outcome l token (follow _ (lift l.validateState l))
  rw [hvalid]
  change Outcome l token (follow _ (lift (rejectIf (token.active = false) PermitError.alreadyReleased) l))
  cases hactive : rejectIf (token.active = false) PermitError.alreadyReleased with
  | error e =>
    refine .refused e fun hyes => ?_
    rw [rejectIf_neg (by rw [hyes.1]; decide)] at hactive
    cases hactive
  | ok _ =>
    change Outcome l token (follow _ (lift (rejectIf (token.ledger ≠ l.id) PermitError.ledgerMismatch) l))
    cases hledger : rejectIf (token.ledger ≠ l.id) PermitError.ledgerMismatch with
    | error e =>
      refine .refused e fun hyes => ?_
      rw [rejectIf_neg (not_not.2 hyes.2.1)] at hledger
      cases hledger
    | ok _ =>
      change Outcome l token (follow _ (lift (okOr (Keyed.find ActivePermit.permitId token.permitId l.active)
        PermitError.tokenMismatch) l))
      cases hfind : Keyed.find ActivePermit.permitId token.permitId l.active with
      | none =>
        refine .refused .tokenMismatch fun hyes => ?_
        obtain ⟨entry, hentry, _⟩ := hyes.2.2
        rw [hfind] at hentry
        cases hentry
      | some entry =>
        change Outcome l token (follow _ (lift (rejectIf (entry.pool ≠ token.pool) PermitError.tokenMismatch) l))
        cases hpool : rejectIf (entry.pool ≠ token.pool) PermitError.tokenMismatch with
        | error e =>
          refine .refused e fun hyes => ?_
          obtain ⟨entry', hentry, hsame⟩ := hyes.2.2
          rw [hfind] at hentry
          cases hentry
          rw [rejectIf_neg (not_not.2 hsame)] at hpool
          cases hpool
        | ok _ =>
          have hid : entry.permitId = token.permitId := (Keyed.find_mem _ hfind).2
          have hsame : entry.pool = token.pool := not_not.1 (rejectIf_ok.1 hpool)
          have howner : token.ledger = l.id := not_not.1 (rejectIf_ok.1 hledger)
          have hlive : token.active = true := Bool.eq_true_of_not_eq_false (rejectIf_ok.1 hactive)
          obtain ⟨hshared, hcontrol⟩ := h.inUse hfind
          have hends : Ends (do
              countDown entry.pool
              update fun l => { l with active := l.active.filter fun a => decide (a.permitId ≠ token.permitId) }
              pure { token with active := false } : Stateful DomainPermitLedger PermitError DomainPermitToken) l
              fun token' l' => token' = { token with active := false } ∧ l' = l.freed entry := by
            unfold countDown DomainPermitLedger.freed
            rw [hid]
            cases hp : entry.pool with
            | shared =>
              have hone := hshared hp
              refine Ends.bind (ends_bind_self (ends_bind_lift (subU64_ok.2 ⟨hone, rfl⟩)
                (ends_update (Q := fun _ l' => l' = { l with sharedInUse := l.sharedInUse - 1 }) rfl))) ?_
              rintro _ _ rfl
              exact ends_bind_update (ends_pure ⟨rfl, rfl⟩)
            | controlReserved =>
              have hone := hcontrol hp
              refine Ends.bind (ends_bind_self (ends_bind_lift (subU64_ok.2 ⟨hone, rfl⟩)
                (ends_update (Q := fun _ l' => l' = { l with controlReservedInUse := l.controlReservedInUse - 1 }) rfl))) ?_
              rintro _ _ rfl
              exact ends_bind_update (ends_pure ⟨rfl, rfl⟩)
          obtain ⟨token', l', hrun, rfl, rfl⟩ := hends
          refine (congrArg (Outcome l token) hrun).mpr ?_
          exact .taken ⟨hlive, howner, entry, hfind, hsame⟩ hfind hsame

theorem LedgerOk.release (h : LedgerOk l) (token : DomainPermitToken) :
    LedgerOk (DomainPermitLedger.release token l).2 := by
  have hout := h.release_outcome token
  generalize DomainPermitLedger.release token l = r at hout ⊢
  cases hout with
  | taken _ hfind _ => exact h.freed hfind
  | refused => exact h

/-- The ledgers of all runs: permits taken and released, in any order, with any tokens. -/
inductive Reachable : DomainPermitLedger → Prop
  | fresh {id : DomainPermitLedgerId} {total controlReserved : Nat} {total_le : total ≤ u32Max} {l : DomainPermitLedger} :
      tryNew id total controlReserved total_le = .ok l → Reachable l
  | acquired {l : DomainPermitLedger} (c : DispatchClass) : Reachable l → Reachable (DomainPermitLedger.tryAcquire c l).2
  | released {l : DomainPermitLedger} (token : DomainPermitToken) :
      Reachable l → Reachable (DomainPermitLedger.release token l).2

theorem LedgerOk.acquired (h : LedgerOk l) (c : DispatchClass) : LedgerOk (DomainPermitLedger.tryAcquire c l).2 := by
  rw [h.tryAcquire c]
  cases hpool : l.poolFor c with
  | none => exact h
  | some pool =>
    dsimp only
    by_cases hroom : l.nextPermitId < u64Max
    · rw [if_pos hroom]
      exact h.taken hpool
    · rw [if_neg hroom]
      exact h

theorem Reachable.ok (h : Reachable l) : LedgerOk l := by
  induction h with
  | @fresh id total controlReserved total_le l hnew =>
    simp only [tryNew, bind_ok, rejectIf_ok, exists_unit, pure_ok, not_or, Nat.not_lt] at hnew
    obtain ⟨⟨hpos, hle⟩, rfl⟩ := hnew
    exact ⟨Nat.pos_of_ne_zero hpos, hle, Nat.zero_le _, Nat.zero_le _, rfl, rfl,
      fun a ha => absurd ha List.not_mem_nil, List.nodup_nil⟩
  | acquired c _ ih => exact ih.acquired c
  | released token _ ih => exact ih.release token

end DomainPermitLedger

namespace DispatchPolicy

/-! ## The scheduler -/

inductive Reachable : DispatchPolicy → Prop
  | fresh {classes : DispatchClass → DispatchClassPolicy} {specs : List DispatchSlotSpec} {p : DispatchPolicy} :
      tryNew classes specs = .ok p → Reachable p
  | selected {p : DispatchPolicy} (permits : DomainPermitLedger) (readiness : List DispatchReadiness) :
      Reachable p → Reachable (trySelectAndAcquire readiness ⟨p, permits⟩).2.policy

variable {p : DispatchPolicy}

theorem anyIndex_iff {test : Nat → Bool} : p.anyIndex test = true ↔ ∃ i < p.slots.length, test i = true := by
  simp [anyIndex]

theorem Inv.fresh {classes : DispatchClass → DispatchClassPolicy} {specs : List DispatchSlotSpec}
    (h : tryNew classes specs = .ok p) : Inv p := by
  simp only [tryNew, bind_ok, rejectIf_ok, exists_unit, pure_ok] at h
  obtain ⟨hspecs, _, _, rfl⟩ := h
  refine ⟨?_, ?_, fun _ => Nat.zero_le _⟩
  · intro hnil
    have hlen := congrArg List.length hnil
    rw [List.length_mapIdx, List.length_nil] at hlen
    exact hspecs (List.length_eq_zero_iff.1 hlen)
  · intro slot hmem
    obtain ⟨i, hi⟩ := List.mem_iff_getElem?.1 hmem
    rw [List.getElem?_mapIdx, Option.map_eq_some_iff] at hi
    obtain ⟨spec, _, rfl⟩ := hi
    exact Nat.zero_le _

theorem onPermits_policy {α : Type} (I : DispatchPolicy → Prop) (x : Stateful DomainPermitLedger PermitError α) :
    Preserves (fun d : Dispatcher => I d.policy) (onPermits x) := fun _ h => h

/-- **Only the selection moves the scheduler**: acquiring its permit moves the ledger alone. -/
theorem selectAndAcquire_policy (d : Dispatcher) (eligible : Nat → Bool) :
    (selectAndAcquire eligible d).2.policy = (select eligible d.policy).2 := by
  change (follow _ (onPolicy (select eligible) d)).2.policy = _
  unfold onPolicy
  cases hselect : select eligible d.policy with
  | mk result q =>
    cases result with
    | error e => rfl
    | ok chosen =>
      have hrest : Preserves (fun d : Dispatcher => d.policy = q) (do
          let d ← self
          let slot ← lift (okOr d.policy.slots[chosen.1]? .stateInconsistent)
          let token ← onPermits (DomainPermitLedger.tryAcquire slot.slotClass)
          let permit ← lift (okOr token .permitStateChanged)
          pure (.selected ⟨⟨slot.mailbox, slot.slotClass, slot.cost, chosen.2⟩, permit⟩) :
            Stateful Dispatcher DispatcherError DispatchDecision) :=
        preserves_self.bind fun _ => (preserves_lift _).bind fun _ => (onPermits_policy (· = q) _).bind fun _ =>
          (preserves_lift _).bind fun _ => preserves_pure _
      exact hrest ⟨q, d.permits⟩ rfl

theorem Inv.selectAndAcquire {d : Dispatcher} (h : Inv d.policy) {eligible : Nat → Bool}
    (hsome : ∃ i < d.policy.slots.length, eligible i = true) : Inv (selectAndAcquire eligible d).2.policy := by
  obtain ⟨chosen, q, hrun, hserved⟩ := select_ends h hsome
  rw [selectAndAcquire_policy, hrun]
  exact hserved.inv

theorem Inv.step {d : Dispatcher} (h : Inv d.policy) (readiness : List DispatchReadiness) :
    Inv (trySelectAndAcquire readiness d).2.policy := by
  change Inv (follow _ (lift (d.policy.validateReadiness readiness) d)).2.policy
  cases hready : d.policy.validateReadiness readiness with
  | error e => exact h
  | ok ready =>
    change Inv ((if d.policy.anyIndex ready then _ else _ : Stateful Dispatcher DispatcherError DispatchDecision) d).2.policy
    by_cases hany : d.policy.anyIndex ready = true
    · rw [if_pos hany]
      by_cases heligible : d.policy.anyIndex (d.policy.eligibleWith d.permits ready) = true
      · rw [if_pos heligible]
        exact h.selectAndAcquire (anyIndex_iff.1 heligible)
      · rw [if_neg heligible]
        exact h
    · rw [if_neg hany]
      exact h

theorem Reachable.inv (h : Reachable p) : Inv p := by
  induction h with
  | fresh hnew => exact .fresh hnew
  | selected permits readiness _ ih => exact Inv.step (d := ⟨_, permits⟩) ih readiness

/-! ## Selection with permits -/

def Servable (p : DispatchPolicy) (l : DomainPermitLedger) (ready : Nat → Bool) (i : Nat) (slot : DispatchSlot) : Prop :=
  ready i = true ∧ p.slots[i]? = some slot ∧ l.canAcquire slot.slotClass = true

variable {l : DomainPermitLedger} {ready : Nat → Bool}

theorem eligibleWith_iff {i : Nat} :
    p.eligibleWith l ready i = true ↔ ∃ slot, Servable p l ready i slot := by
  unfold eligibleWith Servable
  rw [Bool.and_eq_true]
  cases p.slots[i]? with
  | none => simp
  | some slot => simp

/-- **The grant of a selection**: a servable slot, and one permit of its class out of the ledger. -/
structure Grants (p : DispatchPolicy) (l : DomainPermitLedger) (ready : Nat → Bool) (grant : DispatchGrant)
    (l' : DomainPermitLedger) : Prop where
  slot : ∃ i slot, Servable p l ready i slot ∧ grant.selection.mailbox = slot.mailbox
    ∧ grant.selection.slotClass = slot.slotClass ∧ grant.selection.cost = slot.cost
  permit : ∃ pool, l.poolFor grant.selection.slotClass = some pool
    ∧ grant.permit = ⟨l.id, l.nextPermitId + 1, pool, true⟩ ∧ l' = l.taken pool

theorem selectAndAcquire_ends (hp : Inv p) (hl : l.LedgerOk)
    (hroom : l.nextPermitId < u64Max) (hsome : ∃ i slot, Servable p l ready i slot) :
    Ends (selectAndAcquire (p.eligibleWith l ready)) ⟨p, l⟩ fun decision d =>
      ∃ grant, decision = .selected grant ∧ Grants p l ready grant d.permits := by
  obtain ⟨k, kslot, hk⟩ := hsome
  obtain ⟨chosen, q, hrun, hserved⟩ := select_ends hp ⟨k, lt_of_slot hk.2.1, eligibleWith_iff.2 ⟨kslot, hk⟩⟩
  obtain ⟨slot, hslot⟩ := eligibleWith_iff.1 hserved.eligible
  obtain ⟨slot', hslot', heq⟩ := hserved.specs.slot hslot.2.1
  have hpool : (l.poolFor slot'.slotClass).isSome := by
    rw [DomainPermitLedger.poolFor_isSome, heq]
    exact hslot.2.2
  obtain ⟨pool, hpool⟩ := Option.isSome_iff_exists.1 hpool
  have hacquire := hl.tryAcquire slot'.slotClass
  rw [hpool] at hacquire
  dsimp only at hacquire
  rw [if_pos hroom] at hacquire
  unfold selectAndAcquire
  refine ends_bind_run (a := chosen) (t := ⟨q, l⟩) ?_ (ends_bind_self (ends_bind_lift (okOr_ok.2 hslot') ?_))
  · unfold onPolicy
    rw [hrun]
  refine ends_bind_run (a := some ⟨l.id, l.nextPermitId + 1, pool, true⟩) (t := ⟨q, l.taken pool⟩) ?_ ?_
  · unfold onPermits
    rw [hacquire]
    rfl
  refine ends_bind_lift rfl (ends_pure ⟨_, rfl, ⟨chosen.1, slot, hslot, ?_, ?_, ?_⟩, pool, hpool, rfl, rfl⟩)
  · exact congrArg (·.mailbox) heq
  · exact congrArg (·.slotClass) heq
  · exact congrArg (·.cost) heq

/-- **A selection serves whenever it can.**  From every reachable scheduler and every reachable ledger with a permit number
left, on well-formed readiness: it never fails; it selects exactly when some slot is ready with a permit free for its class,
and then such a slot, taking one permit; otherwise it is idle for the reason that holds, and takes none. -/
theorem select_and_acquire_exact {p : DispatchPolicy} (hp : Reachable p) (hl : l.Reachable)
    (hroom : l.nextPermitId < u64Max) {readiness : List DispatchReadiness}
    (hready : p.validateReadiness readiness = .ok ready) :
    ((∃ i slot, Servable p l ready i slot) →
        ∃ grant, (trySelectAndAcquire readiness ⟨p, l⟩).1 = .ok (.selected grant)
          ∧ Grants p l ready grant (trySelectAndAcquire readiness ⟨p, l⟩).2.permits)
      ∧ ((∃ i < p.slots.length, ready i = true) → (¬ ∃ i slot, Servable p l ready i slot) →
          trySelectAndAcquire readiness ⟨p, l⟩ = (.ok (.idle .noDomainPermit), ⟨p, l⟩))
      ∧ ((¬ ∃ i < p.slots.length, ready i = true) →
          trySelectAndAcquire readiness ⟨p, l⟩ = (.ok (.idle .noReadyMailbox), ⟨p, l⟩)) := by
  have hrun : trySelectAndAcquire readiness ⟨p, l⟩ = (if p.anyIndex ready then
      if p.anyIndex (p.eligibleWith l ready) then selectAndAcquire (p.eligibleWith l ready)
      else pure (.idle .noDomainPermit)
    else pure (.idle .noReadyMailbox) : Stateful Dispatcher DispatcherError DispatchDecision) ⟨p, l⟩ := by
    change follow _ (lift (p.validateReadiness readiness) (⟨p, l⟩ : Dispatcher)) = _
    rw [hready]
    rfl
  have heligible : p.anyIndex (p.eligibleWith l ready) = true ↔ ∃ i slot, Servable p l ready i slot := by
    rw [anyIndex_iff]
    constructor
    · rintro ⟨i, _, hi⟩
      exact ⟨i, eligibleWith_iff.1 hi⟩
    · rintro ⟨i, slot, hslot⟩
      exact ⟨i, lt_of_slot hslot.2.1, eligibleWith_iff.2 ⟨slot, hslot⟩⟩
  refine ⟨fun hsome => ?_, fun hany hnone => ?_, fun hnone => ?_⟩
  · obtain ⟨i, slot, hslot⟩ := hsome
    rw [hrun, if_pos (anyIndex_iff.2 ⟨i, lt_of_slot hslot.2.1, hslot.1⟩), if_pos (heligible.2 ⟨i, slot, hslot⟩)]
    obtain ⟨decision, d, hends, grant, rfl, hgrant⟩ := selectAndAcquire_ends hp.inv hl.ok hroom ⟨i, slot, hslot⟩
    rw [hends]
    exact ⟨grant, rfl, hgrant⟩
  · rw [hrun, if_pos (anyIndex_iff.2 hany), if_neg (fun h => hnone (heligible.1 h))]
    rfl
  · rw [hrun, if_neg (fun h => hnone (anyIndex_iff.1 h))]
    rfl

/-! A stream slot too dear for its first quantum, and a control slot without a permit. -/

def sampleClasses : DispatchClass → DispatchClassPolicy := fun _ =>
  ⟨1, 4, by decide, by decide, by decide, by decide⟩

def sampleSpecs : List DispatchSlotSpec :=
  [⟨.ofNat 7, .control, 2, 1, 3, by decide, by decide, by decide, by decide, by decide, by decide⟩,
    ⟨.ofNat 9, .stream, 5, 1, 3, by decide, by decide, by decide, by decide, by decide, by decide⟩]

def samplePolicy : DispatchPolicy where
  slots := sampleSpecs.mapIdx fun cursor spec => ⟨spec, 0, cursor⟩
  classes := sampleClasses
  classDeficit := fun _ => 0
  classCursor := .control
  classVisitOpen := false
  slotCursor := fun _ => 0
  lastClass := none
  classBurst := 0
  lastSlot := none
  slotBurst := 0
  directScan := false
  directCursor := 0

def sampleLedger : DomainPermitLedger := ⟨⟨.ofNat 1, 1, 0⟩, 1, by decide, 0, 0, 0, 0, []⟩

def sampleReadiness : List DispatchReadiness := [⟨.ofNat 9, .ready ⟨.ofNat 9⟩⟩]

def sampleReady : Nat → Bool := Function.update (fun _ => false) 1 true

theorem select_and_acquire_exact_fast_forward :
    ∃ grant, (trySelectAndAcquire sampleReadiness ⟨samplePolicy, sampleLedger⟩).1 = .ok (.selected grant)
      ∧ Grants samplePolicy sampleLedger sampleReady grant
          (trySelectAndAcquire sampleReadiness ⟨samplePolicy, sampleLedger⟩).2.permits := by
  have hnew : tryNew sampleClasses sampleSpecs = .ok samplePolicy := rfl
  have hledger : DomainPermitLedger.tryNew ⟨.ofNat 1, 1, 0⟩ 1 0 (by decide) = .ok sampleLedger := rfl
  have hready : samplePolicy.validateReadiness sampleReadiness = .ok sampleReady := rfl
  refine (select_and_acquire_exact (.fresh hnew) (.fresh hledger) (by decide) hready).1 ⟨1, _, ?_, rfl, ?_⟩
  · decide
  · decide

end DispatchPolicy
end Dispatch
end ParaEgox
