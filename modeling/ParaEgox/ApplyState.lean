import ParaEgox.Contracts
import ParaEgox.Time

/-!
# ApplyState — writer fence and apply-control transitions

The three pure reducers over admitted requests: the writer fence, the preparation of an operation, and its activation.
The operation table is kept outside the control state; a journal persists each transition atomically with its record.
-/
namespace ParaEgox
namespace ApplyState

open Check

/-! ## Commitments -/

inductive ProvenanceContractError
  | digest (e : DigestBuildError)
  | targetSliceDigestMismatch

inductive ApplyContractError
  | digest (e : DigestBuildError)
  | provenance (e : ProvenanceContractError)
  | writerScopeMismatch
  | controlCommitmentDigestMismatch

structure RuntimeSliceCommitment where
  header : RuntimeSliceHeader
  targetSliceDigest : TargetSliceDigest

def RuntimeSliceCommitment.validate (sha256 : Sha256) (slice : RuntimeSliceCommitment) :
    Except ProvenanceContractError Unit := do
  let recomputed ← wrapErr .digest (runtimeSliceCommitment sha256 slice.header)
  rejectIf (recomputed ≠ slice.targetSliceDigest) .targetSliceDigestMismatch

def RuntimeSliceCommitment.revision (slice : RuntimeSliceCommitment) : U64 := slice.header.provenance.sourceRevision

/-- Writer, CAS and operation controls.  The writer context repeats the writer and epoch of its proof. -/
structure RuntimeApplyControl where
  proof : WriterTenureProof
  expectedActive : ExpectedActive
  operationId : Ref16

structure RuntimeApplyControlCommitment where
  slice : RuntimeSliceCommitment
  control : RuntimeApplyControl
  commitmentDigest : Digest32

def applyControlCommitmentDigestDomain : Bytes :=
  Text.bytes (s := "paraegox.runtime.apply-control.sha256.v1") ⟨_, by conv => rhs; simp [ascii]⟩

def expectedTag : ExpectedActive → Nat × Digest32
  | .none => (0, 0)
  | .exact digest => (1, digest)

def controlCommitmentDigest (sha256 : Sha256) (slice : RuntimeSliceCommitment) (control : RuntimeApplyControl) :
    Except ApplyContractError Digest32 := do
  let proofEnvelopeDigest ← wrapErr .digest (control.proof.envelopeDigest sha256)
  let h := slice.header
  let expected := expectedTag control.expectedActive
  wrapErr .digest (digest32 sha256 applyControlCommitmentDigestDomain
    [slice.targetSliceDigest.asBytes, bytesBE 2 1, h.target.asBytes, h.provenance.sourceScope.asBytes,
      h.provenance.sourcePlan.asBytes, bytesBE 8 h.provenance.sourceRevision, h.provenance.sourcePlanDigest.asBytes,
      h.assignmentDigest.asBytes, control.proof.writer.asBytes, bytesBE 8 control.proof.epoch,
      proofEnvelopeDigest.asBytes, bytesBE 2 expected.1, expected.2.asBytes, control.operationId.asBytes])

def RuntimeApplyControlCommitment.validate (sha256 : Sha256) (payload : RuntimeApplyControlCommitment) :
    Except ApplyContractError Unit := do
  wrapErr .provenance (payload.slice.validate sha256)
  rejectIf (payload.control.proof.sourceScope ≠ payload.slice.header.provenance.sourceScope) .writerScopeMismatch
  let recomputed ← controlCommitmentDigest sha256 payload.slice payload.control
  rejectIf (recomputed ≠ payload.commitmentDigest) .controlCommitmentDigestMismatch

/-! ## The control state -/

structure WriterFence where
  writer : Ref16
  epoch : U64
  proofEnvelopeDigest : Digest32
  principal : Ref16
  deriving DecidableEq

/-- Control metadata that is prepared and not active.  The stage is always `ControlAccepted`. -/
structure PreparedControl where
  operationId : Ref16
  requestDigest : Digest32
  incoming : RuntimeSliceCommitment
  expectedActive : ExpectedActive
  writerFence : WriterFence
  deadline : MonotonicDeadline

structure ActiveControl where
  slice : RuntimeSliceCommitment

structure ApplyControlState where
  sourceScope : Ref16
  target : Ref16
  writerFence : Option WriterFence
  prepared : Option PreparedControl
  active : Option ActiveControl

def ApplyControlState.new (sourceScope target : Ref16) : ApplyControlState := ⟨sourceScope, target, none, none, none⟩

structure VerifiedWriterTenure where
  sourceScope : Ref16
  writer : Ref16
  epoch : U64
  supersedesThroughEpoch : U64
  proofEnvelopeDigest : Digest32
  principal : Ref16

def VerifiedWriterTenure.fence (t : VerifiedWriterTenure) : WriterFence :=
  ⟨t.writer, t.epoch, t.proofEnvelopeDigest, t.principal⟩

structure AdmittedApply where
  payload : RuntimeApplyControlCommitment
  tenure : VerifiedWriterTenure
  requestDigest : Digest32
  deadline : MonotonicDeadline
  exactReplay : Bool

inductive OperationPhase
  | prepared
  | active
  | superseded
  deriving DecidableEq

structure OperationRecord where
  sourceScope : Ref16
  target : Ref16
  operationId : Ref16
  requestDigest : Digest32
  phase : OperationPhase

def ApplyControlState.operation (s : ApplyControlState) (operationId : Ref16) (requestDigest : Digest32)
    (phase : OperationPhase) : OperationRecord :=
  ⟨s.sourceScope, s.target, operationId, requestDigest, phase⟩

inductive ApplyRejection
  | contract (e : ApplyContractError)
  | time (e : TimeError)
  | deadlineExpired
  | targetMismatch
  | sourceScopeMismatch
  | staleWriterEpoch
  | writerFenceConflict
  | tenureDoesNotSupersedeFence
  | writerFenceNotDurable
  | operationLookupMismatch
  | operationConflict
  | operationStateMismatch
  | operationSuperseded
  | expectedActiveMismatch
  | nonMonotonicRevision
  | prepareInProgress
  | readinessMismatch

/-! ## Checks -/

def ensureDeadlineLive (deadline : MonotonicDeadline) (reading : ClockReading) : Except ApplyRejection Unit := do
  let expired ← wrapErr .time (deadline.isExpiredAt reading)
  rejectIf (expired = true) .deadlineExpired

def validateStoredSlice (sha256 : Sha256) (slice : RuntimeSliceCommitment) : Except ApplyRejection Unit :=
  wrapErr (fun e => .contract (.provenance e)) (slice.validate sha256)

def expectedActiveMatches (s : ApplyControlState) : ExpectedActive → Bool
  | .none => s.active.isNone
  | .exact digest => s.active.any (·.slice.targetSliceDigest = digest)

def ownSlice (s : ApplyControlState) (slice : RuntimeSliceCommitment) : Prop :=
  slice.header.target = s.target ∧ slice.header.provenance.sourceScope = s.sourceScope

instance (s : ApplyControlState) (slice : RuntimeSliceCommitment) : Decidable (ownSlice s slice) := by
  unfold ownSlice
  infer_instance

def revisionStale (s : ApplyControlState) (incoming : RuntimeSliceCommitment) : Prop :=
  ∃ active ∈ s.active, incoming.revision ≤ active.slice.revision

instance (s : ApplyControlState) (incoming : RuntimeSliceCommitment) : Decidable (revisionStale s incoming) := by
  unfold revisionStale
  cases s.active with
  | none => exact isFalse (by simp)
  | some a => exact decidable_of_iff (incoming.revision ≤ a.slice.revision) (by simp)

def ensureControlStateConsistent (sha256 : Sha256) (s : ApplyControlState) : Except ApplyRejection Unit := do
  rejectIf (s.active.isSome ∧ s.writerFence.isNone) .operationStateMismatch
  whenSome s.active fun active => do
    validateStoredSlice sha256 active.slice
    rejectIf (¬ ownSlice s active.slice) .operationStateMismatch
  whenSome s.prepared fun prepared => do
    validateStoredSlice sha256 prepared.incoming
    rejectIf (¬ ownSlice s prepared.incoming ∨ s.writerFence ≠ some prepared.writerFence
      ∨ ¬ expectedActiveMatches s prepared.expectedActive) .operationStateMismatch
    rejectIf (revisionStale s prepared.incoming) .operationStateMismatch

def ensureOperationBelongsToState (s : ApplyControlState) (operation : OperationRecord) :
    Except ApplyRejection Unit := do
  rejectIf (operation.sourceScope ≠ s.sourceScope) .sourceScopeMismatch
  rejectIf (operation.target ≠ s.target) .targetMismatch

def isPreparedOperation (s : ApplyControlState) (operation : OperationRecord) (prepared : PreparedControl) : Prop :=
  prepared.operationId = operation.operationId ∧ prepared.requestDigest = operation.requestDigest
    ∧ s.writerFence = some prepared.writerFence

instance (s : ApplyControlState) (operation : OperationRecord) (prepared : PreparedControl) :
    Decidable (isPreparedOperation s operation prepared) := by
  unfold isPreparedOperation
  infer_instance

def ensureReplayedOperationConsistent (s : ApplyControlState) (operation : OperationRecord) :
    Except ApplyRejection Unit :=
  match operation.phase with
  | .prepared => do
    let prepared ← okOr s.prepared .operationStateMismatch
    rejectIf (¬ isPreparedOperation s operation prepared) .operationStateMismatch
  | .active | .superseded =>
    whenSome s.prepared fun prepared =>
      rejectIf (prepared.operationId = operation.operationId ∨ prepared.requestDigest = operation.requestDigest)
        .operationStateMismatch

def matchingWriterFence (s : ApplyControlState) (verified : VerifiedWriterTenure) :
    Except ApplyRejection WriterFence := do
  rejectIf (s.writerFence ≠ some verified.fence) .writerFenceNotDurable
  pure verified.fence

/-! ## The reducers -/

inductive FenceDisposition
  | kept
  | advanced

structure FenceTransition where
  nextState : ApplyControlState
  disposition : FenceDisposition
  supersededOperation : Option OperationRecord

def ensureLiveUnlessReplay (admitted : AdmittedApply) (reading : ClockReading) : Except ApplyRejection Unit :=
  if admitted.exactReplay then .ok () else ensureDeadlineLive admitted.deadline reading

/-- The tenure over the current fence: stale, the same, or a newer one that supersedes it. -/
def evaluateOverFence (s : ApplyControlState) (admitted : AdmittedApply) (reading : ClockReading)
    (current : WriterFence) : Except ApplyRejection FenceTransition :=
  let verified := admitted.tenure
  if verified.epoch < current.epoch then .error .staleWriterEpoch
  else if verified.epoch = current.epoch then do
    rejectIf (current ≠ verified.fence) .writerFenceConflict
    ensureLiveUnlessReplay admitted reading
    pure ⟨s, .kept, none⟩
  else do
    rejectIf (verified.supersedesThroughEpoch < current.epoch) .tenureDoesNotSupersedeFence
    ensureDeadlineLive admitted.deadline reading
    pure ⟨{ s with writerFence := some verified.fence, prepared := none }, .advanced,
      s.prepared.map fun p => s.operation p.operationId p.requestDigest .superseded⟩

/-- `evaluate_writer_fence`, independently of plan CAS. -/
def evaluateWriterFence (sha256 : Sha256) (s : ApplyControlState) (admitted : AdmittedApply) (reading : ClockReading) :
    Except ApplyRejection FenceTransition := do
  rejectIf (admitted.tenure.sourceScope ≠ s.sourceScope) .sourceScopeMismatch
  ensureControlStateConsistent sha256 s
  match s.writerFence with
  | none => do
    ensureDeadlineLive admitted.deadline reading
    pure ⟨{ s with writerFence := some admitted.tenure.fence }, .advanced, none⟩
  | some current => evaluateOverFence s admitted reading current

inductive PrepareDisposition
  | prepared
  | replayed (phase : OperationPhase)

structure PrepareTransition where
  nextState : ApplyControlState
  operation : OperationRecord
  disposition : PrepareDisposition

def replayPrepare (s : ApplyControlState) (admitted : AdmittedApply) (existing : OperationRecord) :
    Except ApplyRejection PrepareTransition := do
  ensureOperationBelongsToState s existing
  rejectIf (existing.operationId ≠ admitted.payload.control.operationId) .operationLookupMismatch
  rejectIf (existing.requestDigest ≠ admitted.requestDigest) .operationConflict
  ensureReplayedOperationConsistent s existing
  pure ⟨s, existing, .replayed existing.phase⟩

def preparedOf (admitted : AdmittedApply) (writerFence : WriterFence) : PreparedControl where
  operationId := admitted.payload.control.operationId
  requestDigest := admitted.requestDigest
  incoming := admitted.payload.slice
  expectedActive := admitted.payload.control.expectedActive
  writerFence := writerFence
  deadline := admitted.deadline

def freshPrepare (s : ApplyControlState) (admitted : AdmittedApply) (reading : ClockReading) :
    Except ApplyRejection PrepareTransition := do
  ensureDeadlineLive admitted.deadline reading
  let writerFence ← matchingWriterFence s admitted.tenure
  rejectIf (¬ expectedActiveMatches s admitted.payload.control.expectedActive) .expectedActiveMismatch
  rejectIf (revisionStale s admitted.payload.slice) .nonMonotonicRevision
  rejectIf (s.prepared.isSome) .prepareInProgress
  pure ⟨{ s with prepared := some (preparedOf admitted writerFence) },
    s.operation admitted.payload.control.operationId admitted.requestDigest .prepared, .prepared⟩

/-- `evaluate_prepare`: idempotency, CAS and revision order. -/
def evaluatePrepare (sha256 : Sha256) (s : ApplyControlState) (admitted : AdmittedApply)
    (priorOperation : Option OperationRecord) (reading : ClockReading) : Except ApplyRejection PrepareTransition := do
  wrapErr .contract (admitted.payload.validate sha256)
  rejectIf (admitted.payload.slice.header.target ≠ s.target) .targetMismatch
  rejectIf (admitted.payload.slice.header.provenance.sourceScope ≠ s.sourceScope) .sourceScopeMismatch
  ensureControlStateConsistent sha256 s
  match priorOperation with
  | some existing => replayPrepare s admitted existing
  | none => freshPrepare s admitted reading

structure PreparationReadyFact where
  operationId : Ref16
  requestDigest : Digest32

inductive ActivateDisposition
  | activated
  | replayed

structure ActivateTransition where
  nextState : ApplyControlState
  operation : OperationRecord
  disposition : ActivateDisposition

def activatePrepared (s : ApplyControlState) (operation : OperationRecord) (ready : PreparationReadyFact)
    (reading : ClockReading) : Except ApplyRejection ActivateTransition := do
  let prepared ← okOr s.prepared .operationStateMismatch
  ensureDeadlineLive prepared.deadline reading
  rejectIf (prepared.operationId ≠ operation.operationId ∨ prepared.requestDigest ≠ operation.requestDigest)
    .operationStateMismatch
  rejectIf (ready.operationId ≠ operation.operationId ∨ ready.requestDigest ≠ operation.requestDigest)
    .readinessMismatch
  pure ⟨{ s with active := some ⟨prepared.incoming⟩, prepared := none },
    s.operation operation.operationId operation.requestDigest .active, .activated⟩

/-- `evaluate_activate`: only the exact prepared operation, with explicit readiness evidence. -/
def evaluateActivate (sha256 : Sha256) (s : ApplyControlState) (operation : OperationRecord)
    (ready : PreparationReadyFact) (reading : ClockReading) : Except ApplyRejection ActivateTransition := do
  ensureOperationBelongsToState s operation
  ensureControlStateConsistent sha256 s
  ensureReplayedOperationConsistent s operation
  match operation.phase with
  | .superseded => .error .operationSuperseded
  | .active => pure ⟨s, operation, .replayed⟩
  | .prepared => activatePrepared s operation ready reading

end ApplyState
end ParaEgox
