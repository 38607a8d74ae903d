import ParaEgox.Assoc
import ParaEgox.Checked
import ParaEgox.ProcessFrame
import ParaEgox.Stateful

/-!
# ProcessSession — the host's validator of one PXWP dialogue

`advance` takes frames of both directions and returns the next state or an error, leaving the accepted state as it was.
The credit table is a map by invocation; only lookups, its size and sums over its values are observed, so its order is
left open.
-/
namespace ParaEgox
namespace Process

open Check

inductive ProcessProtocolPhase
  | awaitStart
  | awaitReady
  | awaitConstruct
  | awaitConstructed
  | running
  | draining
  | awaitStop
  | stopping
  | failed
  | stopped
  deriving DecidableEq

structure CreditLease where
  creditId : U64
  responseReservationBytes : Nat
  retainedBytes : U64
  invoked : Bool

structure StartLimits where
  maxInflight : Nat
  maxRetainedBytes : U64
  maxPayloadBytes : Nat

structure ProcessProtocolSession where
  identity : ProcessSessionIdentity
  phase : ProcessProtocolPhase
  hostSequence : U64
  workerSequence : U64
  limits : Option StartLimits
  active : List (U64 × CreditLease)
  retainedBytes : U64
  heartbeatSequence : U64
  pendingPing : Option U64

namespace ProcessProtocolSession

def new (identity : ProcessSessionIdentity) : ProcessProtocolSession where
  identity
  phase := .awaitStart
  hostSequence := 0
  workerSequence := 0
  limits := none
  active := []
  retainedBytes := 0
  heartbeatSequence := 0
  pendingPing := none

def Live (p : ProcessProtocolPhase) : Prop := p = .running ∨ p = .draining

instance (p : ProcessProtocolPhase) : Decidable (Live p) := inferInstanceAs (Decidable (_ ∨ _))

def leaseFor (s : ProcessProtocolSession) (invocationId creditId : U64) : Res CreditLease := do
  let lease ← okOr (Assoc.get invocationId s.active) .unknownCredit
  rejectIf (lease.creditId ≠ creditId) .unknownCredit
  pure lease

def applyBody (s : ProcessProtocolSession) (frame : ProcessFrame) : Res ProcessProtocolSession :=
  let id := frame.invocationId.toNat
  match frame.body with
  | .start maxInflight maxRetainedBytes maxPayloadBytes _ _ => do
    rejectIf (s.phase ≠ .awaitStart) .phaseViolation
    let limits := ⟨maxInflight.toNat, maxRetainedBytes.toNat, maxPayloadBytes.toNat⟩
    pure { s with limits := some limits, phase := .awaitReady }
  | .ready _ => do
    rejectIf (s.phase ≠ .awaitReady) .phaseViolation
    pure { s with phase := .awaitConstruct }
  | .construct _ _ _ => do
    rejectIf (s.phase ≠ .awaitConstruct) .phaseViolation
    pure { s with phase := .awaitConstructed }
  | .constructed outcome => do
    rejectIf (s.phase ≠ .awaitConstructed) .phaseViolation
    pure { s with phase := if outcome = .constructed then .running else .failed }
  | .invoke creditId responseReservationBytes _ payload => do
    rejectIf (s.phase ≠ .running) .phaseViolation
    let limits ← okOr s.limits .phaseViolation
    let active ← toU32 s.active.length .integerOverflow
    rejectIf (limits.maxInflight ≤ active) .creditExhausted
    rejectIf (limits.maxPayloadBytes < payload.length ∨ limits.maxPayloadBytes < responseReservationBytes.toNat)
      .invalidBodyValue
    rejectIf ((Assoc.get id s.active).isSome ∨ ∃ e ∈ s.active, e.2.creditId = creditId.toNat) .duplicateCredit
    let retained ← addU64 payload.length responseReservationBytes.toNat .integerOverflow
    let nextRetained ← addU64 s.retainedBytes retained .integerOverflow
    rejectIf (limits.maxRetainedBytes < nextRetained) .retainedBytesExceeded
    let lease := ⟨creditId.toNat, responseReservationBytes.toNat, retained, false⟩
    pure { s with active := Assoc.put id lease s.active, retainedBytes := nextRetained }
  | .invoked creditId => do
    rejectIf (¬ Live s.phase) .phaseViolation
    let lease ← s.leaseFor id creditId.toNat
    rejectIf (lease.invoked = true) .invocationAckViolation
    pure { s with active := Assoc.adjust id (fun lease => { lease with invoked := true }) s.active }
  | .cancel creditId _ => do
    rejectIf (¬ Live s.phase) .phaseViolation
    let _ ← s.leaseFor id creditId.toNat
    pure s
  | .terminal creditId _ payload => do
    rejectIf (¬ Live s.phase) .phaseViolation
    let lease ← s.leaseFor id creditId.toNat
    rejectIf (lease.invoked = false) .invocationAckViolation
    rejectIf (lease.responseReservationBytes < payload.length) .retainedBytesExceeded
    let retainedBytes ← subU64 s.retainedBytes lease.retainedBytes .integerOverflow
    pure { s with active := Assoc.erase id s.active, retainedBytes }
  | .heartbeat heartbeatSequence activeInvocations retainedBytes => do
    rejectIf (¬ Live s.phase) .phaseViolation
    let expected ← addU64 s.heartbeatSequence 1 .integerOverflow
    rejectIf (heartbeatSequence.toNat ≠ expected) .heartbeatSequenceViolation
    let invoked := s.active.filter fun e => e.2.invoked
    let invokedActive ← toU32 invoked.length .integerOverflow
    let invokedRetained ← sumU64 .integerOverflow (invoked.map fun e => e.2.retainedBytes)
    rejectIf (invokedActive ≠ activeInvocations.toNat ∨ invokedRetained ≠ retainedBytes.toNat) .retainedSnapshotMismatch
    pure { s with heartbeatSequence := heartbeatSequence.toNat }
  | .ping nonce => do
    rejectIf (¬ Live s.phase) .phaseViolation
    rejectIf (s.pendingPing.isSome) .pingViolation
    pure { s with pendingPing := some nonce.toNat }
  | .pong nonce => do
    rejectIf (¬ Live s.phase) .phaseViolation
    rejectIf (s.pendingPing ≠ some nonce.toNat) .pingViolation
    pure { s with pendingPing := none }
  | .stopAccepting => do
    rejectIf (s.phase ≠ .running) .phaseViolation
    pure { s with phase := .draining }
  | .drained => do
    rejectIf (s.phase ≠ .draining) .phaseViolation
    rejectIf (s.active ≠ [] ∨ s.retainedBytes ≠ 0) .retainedSnapshotMismatch
    pure { s with phase := .awaitStop }
  | .stop _ => do
    rejectIf (¬ (s.phase = .awaitStop ∨ s.phase = .failed)) .phaseViolation
    rejectIf (s.active ≠ [] ∨ s.retainedBytes ≠ 0) .retainedSnapshotMismatch
    pure { s with phase := .stopping }
  | .stopped _ => do
    rejectIf (s.phase ≠ .stopping) .phaseViolation
    pure { s with phase := .stopped }

def sequenced (s : ProcessProtocolSession) (frame : ProcessFrame) : ProcessProtocolSession :=
  match frame.direction with
  | .hostToWorker => { s with hostSequence := frame.sequence.toNat }
  | .workerToHost => { s with workerSequence := frame.sequence.toNat }

def lastSequence (s : ProcessProtocolSession) : ProcessFrameDirection → U64
  | .hostToWorker => s.hostSequence
  | .workerToHost => s.workerSequence

def advance (s : ProcessProtocolSession) (frame : ProcessFrame) : Res ProcessProtocolSession := do
  rejectIf (frame.identity ≠ s.identity) .identityMismatch
  let expectedSequence ← addU64 (s.lastSequence frame.direction) 1 .integerOverflow
  rejectIf (frame.sequence.toNat ≠ expectedSequence) .sequenceViolation
  let next ← s.applyBody frame
  pure (next.sequenced frame)

end ProcessProtocolSession

end Process
end ParaEgox
