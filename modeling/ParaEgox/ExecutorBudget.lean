import ParaEgox.Assoc
import ParaEgox.Checked
import ParaEgox.Failures
import Mathlib.Algebra.BigOperators.Group.List.Basic

/-!
# ExecutorBudget — the threads a host has promised, and the proofs that give them back

The budget holds reservations, not threads.  A reservation goes back against a proof that every worker started under it
was joined: the proof of a construction that was rolled back, or of a complete shutdown.
-/
namespace ParaEgox
namespace Executor

open Check

inductive ExecutorBudgetError
  | invalidPlan
  | invalidReservation
  | capacityExhausted
  | counterOverflow
  | identifierExhausted
  | alreadyReleased
  | ownerMismatch
  | reservationMismatch
  | joinProofMismatch
  | stateInconsistent
  deriving DecidableEq

/-- A reservation as its holder has it; the marker is the identity of the budget that gave it. -/
structure ExecutorReservation where
  marker : Nat
  reservationId : Nat
  managedWorkers : Nat
  nativeThreads : Nat
  active : Bool

structure ReservationRecord where
  managedWorkers : Nat
  nativeThreads : Nat

inductive ThreadDomainJoinKind
  | constructionRollback
  | completeShutdown
  deriving DecidableEq

structure ThreadDomainJoinProof where
  kind : ThreadDomainJoinKind
  reservation : Option ExecutorReservation
  startedWorkers : Nat
  joinedWorkers : Nat
  nativeThreadsReleased : Bool

def ThreadDomainJoinProof.markReleased (proof : ThreadDomainJoinProof) : ThreadDomainJoinProof :=
  { proof with reservation := none }

structure ExecutorBudget where
  marker : Nat
  maximumThreads : Nat
  frameworkThreads : Nat
  managedWorkers : Nat
  nativeThreads : Nat
  nextReservationId : Nat
  active : List (Nat × ReservationRecord)

structure ExecutorBudgetSnapshot where
  maximumThreads : Nat
  frameworkThreads : Nat
  managedWorkers : Nat
  nativeThreads : Nat
  activeReservations : Nat

def ExecutorBudgetSnapshot.reservedThreads (s : ExecutorBudgetSnapshot) : Nat :=
  s.frameworkThreads + s.managedWorkers + s.nativeThreads

/-- `try_fold(0_u32, checked_add)`. -/
def sumU32 (e : ExecutorBudgetError) (xs : List Nat) : Except ExecutorBudgetError Nat :=
  scan (fun total x => toU32 (total + x) e) 0 xs

namespace ExecutorBudget

def tryNew (marker maximumThreads frameworkThreads : Nat) : Except ExecutorBudgetError ExecutorBudget := do
  rejectIf (maximumThreads = 0 ∨ frameworkThreads = 0 ∨ maximumThreads < frameworkThreads) .invalidPlan
  pure ⟨marker, maximumThreads, frameworkThreads, 0, 0, 0, []⟩

def validateState (b : ExecutorBudget) : Except ExecutorBudgetError Unit := do
  rejectIf (b.maximumThreads = 0 ∨ b.frameworkThreads = 0 ∨ b.maximumThreads < b.frameworkThreads) .stateInconsistent
  let recomputedManaged ← sumU32 .stateInconsistent (b.active.map (·.2.managedWorkers))
  let recomputedNative ← sumU32 .stateInconsistent (b.active.map (·.2.nativeThreads))
  rejectIf (recomputedManaged ≠ b.managedWorkers ∨ recomputedNative ≠ b.nativeThreads) .stateInconsistent
  let managed ← toU32 (b.frameworkThreads + b.managedWorkers) .stateInconsistent
  let total ← toU32 (managed + b.nativeThreads) .stateInconsistent
  rejectIf (b.maximumThreads < total) .stateInconsistent

/-- What a reservation comes to if there is room for it: the new totals and its identity. -/
def planReservation (b : ExecutorBudget) (managedWorkers nativeThreads : Nat) :
    Except ExecutorBudgetError (Nat × Nat × Nat) := do
  b.validateState
  rejectIf (managedWorkers = 0) .invalidReservation
  let newManaged ← toU32 (b.managedWorkers + managedWorkers) .counterOverflow
  let newNative ← toU32 (b.nativeThreads + nativeThreads) .counterOverflow
  let managed ← toU32 (b.frameworkThreads + newManaged) .counterOverflow
  let total ← toU32 (managed + newNative) .counterOverflow
  rejectIf (b.maximumThreads < total) .capacityExhausted
  let reservationId ← addU64 b.nextReservationId 1 .identifierExhausted
  pure (newManaged, newNative, reservationId)

def tryReserve (managedWorkers nativeThreads : Nat) (b : ExecutorBudget) :
    Except ExecutorBudgetError ExecutorReservation × ExecutorBudget :=
  match b.planReservation managedWorkers nativeThreads with
  | .error e => (.error e, b)
  | .ok (newManaged, newNative, reservationId) =>
    let active := Assoc.put reservationId ⟨managedWorkers, nativeThreads⟩ b.active
    if (Assoc.get reservationId b.active).isSome then (.error .stateInconsistent, { b with active })
    else
      (.ok ⟨b.marker, reservationId, managedWorkers, nativeThreads, true⟩,
        { b with managedWorkers := newManaged, nativeThreads := newNative, nextReservationId := reservationId, active })

def planRelease (b : ExecutorBudget) (proof : ThreadDomainJoinProof) : Except ExecutorBudgetError (Nat × Nat × Nat) := do
  b.validateState
  let reservation ← okOr proof.reservation .alreadyReleased
  rejectIf (reservation.active = false) .alreadyReleased
  rejectIf (reservation.marker ≠ b.marker) .ownerMismatch
  let record ← okOr (Assoc.get reservation.reservationId b.active) .reservationMismatch
  rejectIf (record.managedWorkers ≠ reservation.managedWorkers ∨ record.nativeThreads ≠ reservation.nativeThreads)
    .reservationMismatch
  rejectIf (proof.startedWorkers ≠ proof.joinedWorkers ∨ reservation.managedWorkers < proof.startedWorkers
    ∨ (proof.kind = .completeShutdown ∧ proof.startedWorkers ≠ reservation.managedWorkers)
    ∨ (reservation.nativeThreads ≠ 0 ∧ proof.nativeThreadsReleased = false)) .joinProofMismatch
  let newManaged ← subU64 b.managedWorkers record.managedWorkers .stateInconsistent
  let newNative ← subU64 b.nativeThreads record.nativeThreads .stateInconsistent
  pure (reservation.reservationId, newManaged, newNative)

/-- `release`; the state is validated once more after the change, and the change stays if it is found wrong. -/
def release (proof : ThreadDomainJoinProof) (b : ExecutorBudget) :
    Except ExecutorBudgetError Unit × ExecutorBudget × ThreadDomainJoinProof :=
  match b.planRelease proof with
  | .error e => (.error e, b, proof)
  | .ok (reservationId, newManaged, newNative) =>
    let released := { b with managedWorkers := newManaged, nativeThreads := newNative,
                             active := Assoc.erase reservationId b.active }
    (released.validateState, released, proof.markReleased)

def snapshot (b : ExecutorBudget) : Except ExecutorBudgetError ExecutorBudgetSnapshot := do
  b.validateState
  let activeReservations ← toU32 b.active.length .stateInconsistent
  pure ⟨b.maximumThreads, b.frameworkThreads, b.managedWorkers, b.nativeThreads, activeReservations⟩

/-! ## What the checks come to on a sound budget -/

variable {b : ExecutorBudget}

def managedSum (b : ExecutorBudget) : Nat := (b.active.map (·.2.managedWorkers)).sum
def nativeSum (b : ExecutorBudget) : Nat := (b.active.map (·.2.nativeThreads)).sum

structure Sound (b : ExecutorBudget) : Prop where
  framework_pos : 0 < b.frameworkThreads
  managed_eq : b.managedSum = b.managedWorkers
  native_eq : b.nativeSum = b.nativeThreads
  total_le : b.frameworkThreads + b.managedWorkers + b.nativeThreads ≤ b.maximumThreads
  maximum_le : b.maximumThreads ≤ u32Max

theorem scan_toU32 (e : ExecutorBudgetError) : ∀ (xs : List Nat) (total : Nat), total + xs.sum ≤ u32Max →
    scan (fun total x => toU32 (total + x) e) total xs = .ok (total + xs.sum)
  | [], total, _ => rfl
  | x :: xs, total, h => by
    rw [List.sum_cons] at h ⊢
    refine (scan_ok_cons _ _ _ _ _).2 ⟨total + x, toU32_ok.2 ⟨by omega, rfl⟩, ?_⟩
    rw [scan_toU32 e xs (total + x) (by omega), Nat.add_assoc]

theorem sumU32_of_le (e : ExecutorBudgetError) {xs : List Nat} (h : xs.sum ≤ u32Max) : sumU32 e xs = .ok xs.sum := by
  have hscan := scan_toU32 e xs 0 (by omega)
  rw [Nat.zero_add] at hscan
  exact hscan

theorem Sound.validateState (h : b.Sound) : b.validateState = .ok () := by
  have hpos := h.framework_pos
  have htotal := h.total_le
  have hmax := h.maximum_le
  have hmanaged : sumU32 .stateInconsistent (b.active.map (·.2.managedWorkers)) = .ok b.managedWorkers := by
    have heq : (b.active.map (·.2.managedWorkers)).sum = b.managedWorkers := h.managed_eq
    rw [sumU32_of_le _ (by omega), heq]
  have hnative : sumU32 .stateInconsistent (b.active.map (·.2.nativeThreads)) = .ok b.nativeThreads := by
    have heq : (b.active.map (·.2.nativeThreads)).sum = b.nativeThreads := h.native_eq
    rw [sumU32_of_le _ (by omega), heq]
  unfold ExecutorBudget.validateState
  simp only [bind_ok, rejectIf_ok, exists_unit, hmanaged, hnative, toU32_ok]
  refine ⟨by omega, _, rfl, _, rfl, by simp, _, ⟨by omega, rfl⟩, _, ⟨by omega, rfl⟩, by omega⟩

theorem Sound.snapshot (h : b.Sound) (hactive : b.active.length ≤ u32Max) : b.snapshot =
    .ok ⟨b.maximumThreads, b.frameworkThreads, b.managedWorkers, b.nativeThreads, b.active.length⟩ := by
  unfold ExecutorBudget.snapshot
  simp only [bind_ok, exists_unit, h.validateState, toU32_ok, pure_ok]
  exact ⟨trivial, _, ⟨hactive, rfl⟩, rfl⟩

def refusals : List ExecutorBudgetError :=
  [.invalidReservation, .counterOverflow, .capacityExhausted, .identifierExhausted]

theorem failsWith_toU32 {errors : List ExecutorBudgetError} {e : ExecutorBudgetError} (n : Nat) (h : e ∈ errors) :
    FailsWith errors (toU32 n e) := by
  unfold toU32
  exact (FailsWith.rejectIf fun _ => h).bind fun _ _ => .pure _

theorem failsWith_addU64 {errors : List ExecutorBudgetError} {e : ExecutorBudgetError} (n m : Nat) (h : e ∈ errors) :
    FailsWith errors (addU64 n m e) := by
  unfold addU64
  exact (FailsWith.rejectIf fun _ => h).bind fun _ _ => .pure _

theorem Sound.planReservation_fails (h : b.Sound) (managed natives : Nat) :
    FailsWith refusals (b.planReservation managed natives) := by
  unfold planReservation
  rw [h.validateState]
  refine FailsWith.bind (fun _ he => by cases he) fun _ _ => ?_
  refine (FailsWith.rejectIf fun _ => by simp [refusals]).bind fun _ _ => ?_
  iterate 4 refine (failsWith_toU32 _ (by simp [refusals])).bind fun _ _ => ?_
  refine (FailsWith.rejectIf fun _ => by simp [refusals]).bind fun _ _ => ?_
  exact (failsWith_addU64 _ _ (by simp [refusals])).bind fun _ _ => .pure _

theorem planReservation_ok {managed natives newManaged newNative id : Nat}
    (h : b.planReservation managed natives = .ok (newManaged, newNative, id)) :
    0 < managed ∧ newManaged = b.managedWorkers + managed ∧ newNative = b.nativeThreads + natives ∧
      id = b.nextReservationId + 1 ∧ b.frameworkThreads + newManaged + newNative ≤ b.maximumThreads := by
  unfold planReservation at h
  simp only [bind_ok, rejectIf_ok, exists_unit, toU32_ok, addU64_ok, pure_ok, Prod.mk.injEq] at h
  obtain ⟨-, hpos, _, ⟨-, rfl⟩, _, ⟨-, rfl⟩, _, ⟨-, rfl⟩, _, ⟨-, rfl⟩, hcapacity, _, ⟨-, rfl⟩, rfl, rfl, rfl⟩ := h
  exact ⟨Nat.pos_of_ne_zero hpos, rfl, rfl, rfl, Nat.not_lt.1 hcapacity⟩

def reserved (b : ExecutorBudget) (managed natives : Nat) : ExecutorBudget :=
  { b with
    managedWorkers := b.managedWorkers + managed
    nativeThreads := b.nativeThreads + natives
    nextReservationId := b.nextReservationId + 1
    active := b.active ++ [(b.nextReservationId + 1, ⟨managed, natives⟩)] }

/-- **A reservation is refused and nothing changes, or it is recorded under a new identity.** -/
theorem Sound.tryReserve (h : b.Sound) (hids : ∀ id ∈ Assoc.keys b.active, id ≤ b.nextReservationId) (managed natives : Nat) :
    (∃ e ∈ refusals, tryReserve managed natives b = (.error e, b)) ∨
      (tryReserve managed natives b =
          (.ok ⟨b.marker, b.nextReservationId + 1, managed, natives, true⟩, b.reserved managed natives) ∧
        0 < managed ∧ (b.reserved managed natives).Sound) := by
  cases hplan : b.planReservation managed natives with
  | error e =>
    refine .inl ⟨e, h.planReservation_fails managed natives e hplan, ?_⟩
    unfold ExecutorBudget.tryReserve
    rw [hplan]
  | ok plan =>
    obtain ⟨newManaged, newNative, id⟩ := plan
    obtain ⟨hpos, rfl, rfl, rfl, hcapacity⟩ := planReservation_ok hplan
    have hnew : b.nextReservationId + 1 ∉ Assoc.keys b.active := fun hmem =>
      absurd (hids _ hmem) (Nat.not_le_of_lt (Nat.lt_succ_self _))
    have hget : Assoc.get (b.nextReservationId + 1) b.active = none := Assoc.get_eq_none.2 hnew
    refine .inr ⟨?_, hpos, ?_⟩
    · unfold ExecutorBudget.tryReserve
      rw [hplan]
      dsimp only
      rw [hget, Assoc.put_of_notMem hnew]
      rfl
    · have hmanaged := h.managed_eq
      have hnative := h.native_eq
      unfold managedSum at hmanaged
      unfold nativeSum at hnative
      exact
        { framework_pos := h.framework_pos
          managed_eq := by simp [managedSum, reserved, hmanaged]
          native_eq := by simp [nativeSum, reserved, hnative]
          total_le := hcapacity
          maximum_le := h.maximum_le }

structure Settles (b : ExecutorBudget) (proof : ThreadDomainJoinProof) (res : ExecutorReservation) : Prop where
  reservation : proof.reservation = some res
  active : res.active = true
  marker : res.marker = b.marker
  recorded : Assoc.get res.reservationId b.active = some ⟨res.managedWorkers, res.nativeThreads⟩
  joined : proof.startedWorkers = proof.joinedWorkers
  started_le : proof.startedWorkers ≤ res.managedWorkers
  complete : proof.kind = .completeShutdown → proof.startedWorkers = res.managedWorkers
  native : res.nativeThreads ≠ 0 → proof.nativeThreadsReleased = true

def settled (b : ExecutorBudget) (res : ExecutorReservation) : ExecutorBudget :=
  { b with
    managedWorkers := b.managedWorkers - res.managedWorkers
    nativeThreads := b.nativeThreads - res.nativeThreads
    active := Assoc.erase res.reservationId b.active }

/-- **A proof that settles a reservation is accepted**, and takes out what the reservation had put in. -/
theorem Sound.release (h : b.Sound) (hnodup : (Assoc.keys b.active).Nodup) {proof : ThreadDomainJoinProof}
    {res : ExecutorReservation} (hp : b.Settles proof res) :
    release proof b = (.ok (), b.settled res, proof.markReleased) ∧ (b.settled res).Sound := by
  have hmanaged := h.managed_eq
  have hnative := h.native_eq
  have htotal := h.total_le
  unfold managedSum at hmanaged
  unfold nativeSum at hnative
  rw [Assoc.sum_erase (·.2.managedWorkers) hnodup hp.recorded] at hmanaged
  rw [Assoc.sum_erase (·.2.nativeThreads) hnodup hp.recorded] at hnative
  dsimp only at hmanaged hnative
  have hsound : (b.settled res).Sound :=
    { framework_pos := h.framework_pos
      managed_eq := by
        show ((Assoc.erase res.reservationId b.active).map (·.2.managedWorkers)).sum = b.managedWorkers - res.managedWorkers
        omega
      native_eq := by
        show ((Assoc.erase res.reservationId b.active).map (·.2.nativeThreads)).sum = b.nativeThreads - res.nativeThreads
        omega
      total_le := by
        show b.frameworkThreads + (b.managedWorkers - res.managedWorkers) + (b.nativeThreads - res.nativeThreads) ≤
          b.maximumThreads
        omega
      maximum_le := h.maximum_le }
  have hplan : b.planRelease proof =
      .ok (res.reservationId, b.managedWorkers - res.managedWorkers, b.nativeThreads - res.nativeThreads) := by
    unfold planRelease
    simp only [bind_ok, rejectIf_ok, exists_unit, okOr_ok, subU64_ok, pure_ok, h.validateState, Prod.mk.injEq]
    refine ⟨trivial, res, hp.reservation, by simp [hp.active], by simp [hp.marker], _, hp.recorded, by simp, ?_, _,
      ⟨by dsimp only; omega, rfl⟩, _, ⟨by dsimp only; omega, rfl⟩, rfl, rfl, rfl⟩
    rintro (hne | hlt | ⟨hkind, hne⟩ | ⟨hne, hkept⟩)
    · exact hne hp.joined
    · exact absurd hp.started_le (Nat.not_le_of_lt hlt)
    · exact hne (hp.complete hkind)
    · rw [hp.native hne] at hkept
      cases hkept
  refine ⟨?_, hsound⟩
  unfold ExecutorBudget.release
  rw [hplan]
  exact congrArg (fun checked => (checked, b.settled res, proof.markReleased)) hsound.validateState

end ExecutorBudget

end Executor
end ParaEgox
