import Mathlib.Logic.Relation
import ParaEgox.JournalTransition

/-!
# JournalSnapshot — durable snapshots and their successor chains

A snapshot is a state with its store, owner and sequence that passed every check of `try_new`.  `Step` is one accepted
successor, `Reachable` a chain of them from `try_initialize`.
-/
namespace ParaEgox
namespace Journal

open Check

/-! ## The prepared request and the terminal receipts -/

def casOf : ExpectedActive → ExpectedActiveCas
  | .none => .none
  | .exact digest => .exact digest

def kindOf : ReferenceAssemblyMode → DesiredHeadKind
  | .oneSourceLoop => .oneSourceLoop
  | .emptyDeactivate => .emptyDeactivate

def PreparedPhase.superseded : PreparedPhase → Bool
  | supersededBeforeEffects | supersededReconcileRequired | startupExpiredNoEffects | startupReconcileRequired => true
  | _ => false

def requestMatchesPrepared (request : ReferenceApplyRequest) (ingress : ReferenceApplyIngressIdentities)
    (sliceProvenance : DurableSliceProvenance) (temporalRecord : TemporalLineageRecord) (storeInstanceId : Id32)
    (prepared : PreparedOperation) : Bool :=
  request.canonicalWire = prepared.request.canonicalBytes
    && request.envelopeRequestDigest = prepared.request.digest
    && request.expectedRuntimeStoreInstanceId = storeInstanceId
    && request.operationId = prepared.operationId
    && request.provenance.sourceScope = prepared.sourceScope
    && request.provenance.sourceRevision = prepared.sourceRevision
    && request.provenance.sourcePlanDigest = prepared.sourcePlanDigest
    && sliceProvenance = prepared.sliceProvenance
    && request.targetSliceDigest = prepared.incomingSliceDigest
    && request.assignmentDigest = prepared.sliceProvenance.assignmentDigest
    && kindOf request.execution.mode = prepared.incomingKind
    && request.execution.manifestDigest = prepared.manifestDigest
    && casOf request.expectedActive = prepared.expectedActive
    && request.temporal.constraintId = prepared.temporalConstraintId
    && request.temporal.targetClockGeneration = prepared.installedClockGeneration
    && request.temporal.originalBudget = temporalRecord.originalBudgetNanos
    && request.temporal.remainingBudget = temporalRecord.remainingBudgetNanos
    && ingress.requestNonceIdentity = prepared.requestNonceIdentity
    && ingress.temporalLineageDigest = prepared.temporalLineageDigest

/-- `validate_prepared_request_business_invariants` on a present operation. -/
def validatePreparedRequest (c : Contracts) (s : RuntimeJournalState) (storeInstanceId : Id32)
    (mismatch : RuntimeJournalError) (prepared : PreparedOperation) : Res Unit := do
  let request ← okOr (c.decodeRequest prepared.request.canonicalBytes) mismatch
  let ingress ← mapErr (referenceApplyIngressIdentities c.sha256 request) mismatch
  let fence ← okOr s.writerFence mismatch
  let temporalRecord ← okOr (s.host.temporalLineages.find? (·.constraintId = prepared.temporalConstraintId)) mismatch
  let proofDigest ← mapErr (request.proof.envelopeDigest c.sha256) mismatch
  let tenureRecorded := s.host.tenureNonces.any fun record =>
    record.identity = ingress.tenureNonceIdentity && record.valueDigest = proofDigest
  let tenureIsCurrent := decide (ingress.tenureNonceIdentity = fence.tenureNonceIdentity
    ∧ proofDigest = fence.proofEnvelopeDigest
    ∧ request.proof.writer = fence.writer
    ∧ request.proof.epoch = fence.epoch
    ∧ request.authentication.principal = fence.principal)
  let tenureIsSuperseded := tenureRecorded
    && fence.sourceScope = prepared.sourceScope
    && request.proof.epoch < fence.epoch
    && prepared.phase.superseded
  let sliceProvenance ← mapErr (DurableSliceProvenance.tryNew c.sha256 request.target request.provenance
    request.assignmentDigest request.targetSliceDigest) mismatch
  rejectIf (¬ requestMatchesPrepared request ingress sliceProvenance temporalRecord storeInstanceId prepared
    ∨ ¬ tenureRecorded
    ∨ (¬ tenureIsCurrent ∧ ¬ tenureIsSuperseded)) mismatch

def validatePreparedRequestBusinessInvariants (c : Contracts) (s : RuntimeJournalState) (storeInstanceId : Id32)
    (mismatch : RuntimeJournalError) : Res Unit :=
  whenSome s.prepared (validatePreparedRequest c s storeInstanceId mismatch)

def referenceTerminalOutcome : TerminalOutcome → ReferenceApplyTerminalOutcome
  | .oneSourceLoopActive => .oneSourceLoopActive
  | .emptyDeactivateExactZero => .emptyDeactivateExactZero
  | .startTimedOutBeforeIntentNoEffects => .startTimedOutBeforeIntentNoEffects
  | .stopTimedOutBeforeHeadCommitNoEffects => .stopTimedOutBeforeHeadCommitNoEffects
  | .startFailedBeforeHeadCommitExactZero => .startFailedBeforeHeadCommitExactZero
  | .startTimedOutBeforeHeadCommitExactZero => .startTimedOutBeforeHeadCommitExactZero
  | .stopFailedButExactZero => .stopFailedButExactZero
  | .timedOutButExactZero => .timedOutButExactZero
  | .abortedBeforeIntentNoEffects => .abortedBeforeIntentNoEffects
  | .abortedBeforeHeadCommitExactZero => .abortedBeforeHeadCommitExactZero
  | .supersededAfterIntentExactZero => .supersededAfterIntentExactZero
  | .interruptedButNowExactZero => .interruptedButNowExactZero

def referenceTerminalLifecycle : TerminalLifecycleEffect → ReferenceApplyTerminalLifecycleEffect
  | .provenNotStarted => .provenNotStarted
  | .mayHaveStarted => .mayHaveStarted

def referenceTerminalHead : TerminalHeadDisposition → ReferenceApplyTerminalHead
  | .preserved none => .preservedNone
  | .preserved (some digest) => .preservedExisting digest
  | .committedIncoming => .committedIncoming

def terminalHeadDigest (terminal : TerminalOperationRecord) : Option TargetSliceDigest :=
  match terminal.headDisposition with
  | .preserved digest => digest
  | .committedIncoming => some terminal.targetSliceDigest

def decodeAndValidateTerminalReceipt (c : Contracts) (storeInstanceId : Id32) (terminal : TerminalOperationRecord) :
    Res ReferenceApplyTerminalReceipt := do
  let receipt ← okOr (c.decodeReceipt terminal.canonicalResponse.canonicalBytes) .invalidStateInvariant
  rejectIf (receipt.canonicalWire ≠ terminal.canonicalResponse.canonicalBytes
    ∨ receipt.receiptDigest ≠ terminal.canonicalResponse.digest
    ∨ receipt.receiptDigest ≠ terminal.resultDigest
    ∨ receipt.runtimeStoreInstanceId ≠ storeInstanceId
    ∨ receipt.sourceScope ≠ terminal.sourceScope
    ∨ receipt.operationId ≠ terminal.operationId
    ∨ receipt.requestDigest ≠ terminal.requestDigest) .invalidStateInvariant
  rejectIf (receipt.facts.outcome ≠ referenceTerminalOutcome terminal.selection.primary
    ∨ receipt.facts.lifecycleEffect ≠ referenceTerminalLifecycle terminal.selection.lifecycleEffect
    ∨ receipt.facts.head ≠ referenceTerminalHead terminal.headDisposition
    ∨ receipt.facts.desiredHeadDigest ≠ terminalHeadDigest terminal
    ∨ receipt.facts.resourceCensusDigest ≠ terminal.resourceCensusDigest) .invalidStateInvariant
  let rawOutcomeDigest ← runtimeRawActionOutcomeDigest c.sha256 terminal.selection.raw
  rejectIf (receipt.facts.rawOutcomeDigest ≠ rawOutcomeDigest
    ∨ receipt.facts.completionRuntimeHostEpoch ≠ terminal.completionRuntimeHostEpoch
    ∨ receipt.facts.completionSnapshotSequence ≠ terminal.completionSnapshotSequence
    ∨ receipt.facts.selectionClockGeneration ≠ terminal.selection.selectionClockGeneration
    ∨ receipt.facts.selectionObservedAtNanos ≠ terminal.selection.selectionObservedAtNanos) .invalidStateInvariant
  pure receipt

def validatePreparedTerminalResponseChannel (c : Contracts) (storeInstanceId : Id32) (prepared : PreparedOperation)
    (terminal : TerminalOperationRecord) : Res Unit := do
  let receipt ← decodeAndValidateTerminalReceipt c storeInstanceId terminal
  let expectedChannel ← prepared.responseChannel.toContract c.sha256
  rejectIf (receipt.authenticationChannelBindingDigest ≠ expectedChannel.bindingDigest) .nonMonotonicTransition

def validateTerminalReceipts (c : Contracts) (storeInstanceId : Id32) (s : RuntimeJournalState) : Res Unit :=
  forEach s.terminalOperations fun terminal => do
    let _ ← decodeAndValidateTerminalReceipt c storeInstanceId terminal

/-- A completed record carries the host epoch, the sequence and the clock generation it was written at. -/
def RuntimeJournalState.writtenNow (s : RuntimeJournalState) (snapshotSequence completionEpoch completionSequence
    selectionGeneration : U64) : Bool :=
  completionEpoch = s.host.runtimeHostEpochHighWater && completionSequence = snapshotSequence
    && selectionGeneration = s.host.clockGenerationHighWater

def RuntimeJournalState.validateNewTerminalMetadata (c : Contracts) (self previous : RuntimeJournalState)
    (snapshotSequence : U64) (storeInstanceId : Id32) : Res Unit := do
  forEach self.terminalOperations fun terminal =>
    rejectIf (Keyed.find TerminalOperationRecord.key terminal.key previous.terminalOperations = none
      ∧ ¬ self.writtenNow snapshotSequence terminal.completionRuntimeHostEpoch terminal.completionSnapshotSequence
        terminal.selection.selectionClockGeneration) .nonMonotonicTransition
  forEach self.recoveryTerminals fun terminal =>
    rejectIf ((¬ ∃ old ∈ previous.recoveryTerminals, old.recovery.action.actionId = terminal.recovery.action.actionId)
      ∧ ¬ self.writtenNow snapshotSequence terminal.completionRuntimeHostEpoch terminal.completionSnapshotSequence
        terminal.selection.selectionClockGeneration) .nonMonotonicTransition
  whenSome previous.prepared fun prepared =>
    whenSome (appendedTerminalForPrepared self previous prepared)
      (validatePreparedTerminalResponseChannel c storeInstanceId prepared)

/-! ## Snapshots -/

structure RuntimeJournalSnapshot where
  storeInstanceId : Id32
  ownerTargetFingerprint : Digest32
  sequence : U64
  state : RuntimeJournalState
  canonicalWire : Bytes
  deriving DecidableEq

def validateEnvelopeIdentity (storeInstanceId : Id32) (ownerTargetFingerprint : Digest32) (sequence : U64) :
    Res Unit := do
  rejectIf (storeInstanceId = 0) .zeroStoreInstanceId
  ensureNonzeroDigest ownerTargetFingerprint
  rejectIf (sequence = 0) .invalidSequence

namespace RuntimeJournalSnapshot

/-- `try_new` at the current payload version. -/
def tryNew (c : Contracts) (storeInstanceId : Id32) (ownerTargetFingerprint : Digest32) (sequence : U64)
    (state : RuntimeJournalState) : Res RuntimeJournalSnapshot := do
  validateEnvelopeIdentity storeInstanceId ownerTargetFingerprint sequence
  state.validate c sequence
  state.validateOwnerTargetBinding ownerTargetFingerprint
  validatePreparedRequestBusinessInvariants c state storeInstanceId .invalidStateInvariant
  validateTerminalReceipts c storeInstanceId state
  let payload ← encodePayload state
  let canonicalWire ← encodeSnapshot c.sha256 storeInstanceId ownerTargetFingerprint sequence payload
  pure ⟨storeInstanceId, ownerTargetFingerprint, sequence, state, canonicalWire⟩

def initialState (i : RuntimeJournalSequenceOne) : RuntimeJournalState where
  lastTransaction := .initialized
  host :=
    { runtimeHostEpochHighWater := 0
      clockDomain := i.clockDomain
      clockGenerationHighWater := 0
      buildDescriptor := i.buildDescriptor
      singletonManifest := i.singletonManifest
      storePinnedBuildIdentity := i.storePinnedBuildIdentity
      compiledBuildInstanceId := i.compiledBuildInstanceId
      compiledCompatibilityDigest := i.compiledCompatibilityDigest
      admissionPolicyFingerprint := i.admissionPolicyFingerprint
      channelPolicyFingerprint := i.channelPolicyFingerprint
      controllerKeyFingerprint := i.controllerKeyFingerprint
      tenureNonces := []
      requestNonces := []
      temporalLineages := [] }
  writerFence := none
  sourceRevisionHighWater := none
  prepared := none
  activeDesired := none
  liveMaterialization := .none
  recoveryAction := none
  recoveryTerminals := []
  ownedResources := []
  terminalOperations := []

def tryInitialize (c : Contracts) (storeInstanceId : Id32) (ownerTargetFingerprint : Digest32)
    (initial : RuntimeJournalSequenceOne) : Res RuntimeJournalSnapshot :=
  tryNew c storeInstanceId ownerTargetFingerprint 1 (initialState initial)

def validateSuccessorOf (c : Contracts) (self previous : RuntimeJournalSnapshot) : Res Unit := do
  rejectIf (self.storeInstanceId ≠ previous.storeInstanceId
    ∨ self.ownerTargetFingerprint ≠ previous.ownerTargetFingerprint) .nonMonotonicTransition
  let expectedSequence ← checkedAdd previous.sequence 1 .sequenceOverflow
  rejectIf (self.sequence ≠ expectedSequence) .nonMonotonicTransition
  self.state.validateSuccessor c.sha256 previous.state
  self.state.validateNewTerminalMetadata c previous.state self.sequence self.storeInstanceId

def tryValidatedSuccessor (c : Contracts) (self : RuntimeJournalSnapshot) (state : RuntimeJournalState) :
    Res RuntimeJournalSnapshot := do
  let sequence ← checkedAdd self.sequence 1 .sequenceOverflow
  let successor ← tryNew c self.storeInstanceId self.ownerTargetFingerprint sequence state
  successor.validateSuccessorOf c self
  pure successor

/-- A value `try_new` has built. -/
def Built (c : Contracts) (s : RuntimeJournalSnapshot) : Prop :=
  tryNew c s.storeInstanceId s.ownerTargetFingerprint s.sequence s.state = .ok s

/-- One accepted successor: built by `try_new` and accepted by `validate_successor_of`. -/
structure Step (c : Contracts) (previous next : RuntimeJournalSnapshot) : Prop where
  built : next.Built c
  accepted : next.validateSuccessorOf c previous = .ok ()

/-- A snapshot `try_initialize` has built. -/
def Initial (c : Contracts) (s : RuntimeJournalSnapshot) : Prop :=
  ∃ store owner initial, tryInitialize c store owner initial = .ok s

def Chain (c : Contracts) : RuntimeJournalSnapshot → RuntimeJournalSnapshot → Prop :=
  Relation.ReflTransGen (Step c)

/-- The snapshots on chains from `try_initialize`. -/
def Reachable (c : Contracts) (s : RuntimeJournalSnapshot) : Prop := ∃ first, Initial c first ∧ Chain c first s

end RuntimeJournalSnapshot
end Journal
end ParaEgox
