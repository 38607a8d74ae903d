import ParaEgox.JournalSnapshot
import ParaEgox.Wire

/-!
# JournalDecode — the payload decoder and the three payload versions

`decode_payload_version` and its helpers, field by field, over the bytes a cursor has left; then the snapshot decoder
around it, the constructor for an explicit payload version, and the two offline migrations.  Every slice is taken with a
proof of its bounds, so a decoder here cannot index outside its input: it returns a value or an error.
-/
namespace ParaEgox
namespace Journal

open Check Wire

/-! ## Discriminants -/

/-- The `match value` of an enumeration's `decode`. -/
def decodeEnum {α : Type} (table : List (Nat × α)) (value : Nat) : Res α := okOr (table.lookup value) .unknownEnumValue

def JournalActionKind.decode : Nat → Res JournalActionKind :=
  decodeEnum [(1, .startOneSourceLoop), (2, .drainToEmpty), (3, .restartReassembly)]

def CallbackOutcome.decode : Nat → Res CallbackOutcome :=
  decodeEnum [(1, .notInvoked), (2, .knownSuccess), (3, .knownError), (4, .panicked), (5, .unknownAfterIntent)]

def DeadlineOutcome.decode : Nat → Res DeadlineOutcome :=
  decodeEnum [(1, .notObserved), (2, .timedOut), (3, .cancelled)]

def CleanupOutcome.decode : Nat → Res CleanupOutcome :=
  decodeEnum [(1, .notObserved), (2, .exactZero), (3, .uncertain)]

def PreparedPhase.decode : Nat → Res PreparedPhase :=
  decodeEnum [(1, .preparedNoEffects), (2, .firstActionIntent), (3, .headCommittedRetiringOld),
    (4, .supersededBeforeEffects), (5, .supersededReconcileRequired), (6, .startupExpiredNoEffects),
    (7, .startupReconcileRequired)]

def DesiredHeadKind.decode : Nat → Res DesiredHeadKind := decodeEnum [(1, .oneSourceLoop), (2, .emptyDeactivate)]

def StartupRecoveryEligibility.decode : Nat → Res StartupRecoveryEligibility :=
  decodeEnum [(1, .noActiveHead), (2, .canonicalEmptyExactZero), (3, .eligibleOneSourceLoop),
    (4, .recoveryFailureLatched), (5, .reconcileRequired)]

def RecoveryPhase.decode : Nat → Res RecoveryPhase :=
  decodeEnum [(1, .recoveryPlannedNoEffects), (2, .startCallIntent), (3, .startupInvalidatedNoEffects),
    (4, .startupReconcileRequired)]

def ResourceKind.decode : Nat → Res ResourceKind :=
  decodeEnum [(1, .loopDomain), (2, .cardInstance), (3, .resourceSlot), (4, .externalHandle)]

def ResourcePhase.decode : Nat → Res ResourcePhase :=
  decodeEnum [(1, .reserved), (2, .owned), (3, .cleanupPending), (4, .terminal), (5, .reservedAtCrashExactZero)]

def ResourcePhase.decodeForPayloadVersion (payloadVersion value : Nat) : Res ResourcePhase := do
  let phase ← ResourcePhase.decode value
  rejectIf (phase = .reservedAtCrashExactZero ∧ payloadVersion ≠ runtimeJournalPayloadVersion) .unknownEnumValue
  pure phase

def TerminalOutcome.decode : Nat → Res TerminalOutcome :=
  decodeEnum [(1, .oneSourceLoopActive), (2, .emptyDeactivateExactZero), (3, .startTimedOutBeforeIntentNoEffects),
    (4, .stopTimedOutBeforeHeadCommitNoEffects), (5, .startFailedBeforeHeadCommitExactZero),
    (6, .startTimedOutBeforeHeadCommitExactZero), (7, .stopFailedButExactZero), (8, .timedOutButExactZero),
    (9, .abortedBeforeIntentNoEffects), (10, .abortedBeforeHeadCommitExactZero), (11, .supersededAfterIntentExactZero),
    (12, .interruptedButNowExactZero)]

def TerminalLifecycleEffect.decode : Nat → Res TerminalLifecycleEffect :=
  decodeEnum [(1, .provenNotStarted), (2, .mayHaveStarted)]

def RuntimeJournalTransaction.decode : Nat → Res RuntimeJournalTransaction :=
  decodeEnum [(1, .initialized), (2, .startupInvalidation), (3, .tenureOnly), (4, .fullAdmission),
    (5, .preparedProgress), (6, .resourceProgress), (7, .normalStartTerminal), (8, .emptyHeadRetire),
    (9, .exactZeroTerminal), (10, .recoveryPlan), (11, .recoveryProgress), (12, .recoveryPublish),
    (13, .operationTerminalNoEffects), (14, .quarantine), (15, .recoveryAbortNoEffects)]

/-! ## The cursor -/

/-- `Cursor`: the bytes from its position on.  Its position plus a length never exceeds the machine word, so the
overflow error of `take` is left out. -/
abbrev Cursor := Reader RuntimeJournalError

namespace Cursor

def take (length : Nat) : Cursor {bs : Bytes // bs.length = length} := Reader.take length .truncated

def u8 : Cursor Nat := do
  let bytes ← take 1
  pure (bytes.val.get ⟨0, by rw [bytes.property]; decide⟩).toNat

/-- A big-endian integer of `width` bytes: `u16`, `u32` and `u64` of the source. -/
def uint (width : Nat) : Cursor Nat := do
  let bytes ← take width
  pure (fromBE bytes.val)

def u16 : Cursor Nat := uint 2
def u32 : Cursor Nat := uint 4
def u64 : Cursor U64 := uint 8

def ref16 : Cursor Ref16 := do
  let bytes ← take 16
  pure (Ref16.fromBytes bytes)

def digest : Cursor Digest32 := do
  let bytes ← take 32
  pure (Digest32.fromBytes bytes)

/-- `u8` followed by the enumeration's `decode`. -/
def enumeration {α : Type} (decode : Nat → Res α) : Cursor α := do
  let value ← u8
  Reader.lift (decode value)

def boolean : Cursor Bool := enumeration (decodeEnum [(0, false), (1, true)])

def optional {α : Type} (value : Cursor α) : Cursor (Option α) := do
  let present ← boolean
  if present then do
    let a ← value
    pure (some a)
  else pure none

def count (maximum : Nat) : Cursor Nat := do
  let count ← u16
  Reader.lift (rejectIf (maximum < count) .capacityExceeded)
  pure count

def records {α : Type} (maximum : Nat) (record : Cursor α) : Cursor (List α) := do
  let n ← count maximum
  Reader.times n record

def opaqueValue (maximum : Nat) : Cursor OpaqueCanonicalValue := do
  let length ← u32
  Reader.lift (rejectIf (length = 0) .emptyOpaqueValue)
  Reader.lift (rejectIf (maximum < length) .opaqueValueTooLarge)
  let canonicalBytes ← take length
  let d ← digest
  Reader.lift (OpaqueCanonicalValue.tryNew canonicalBytes.val d maximum)

def finish : Cursor Unit := Reader.finish .trailingBytes

end Cursor

open Cursor

/-! ## Records -/

def decodeAction : Cursor JournalActionRef := do
  let actionId ← ref16
  let kind ← enumeration JournalActionKind.decode
  let runtimeHostEpoch ← u64
  let clockGeneration ← u64
  let domainGeneration ← u64
  let instanceGeneration ← u64
  let resourceGeneration ← u64
  pure ⟨actionId, kind, runtimeHostEpoch, clockGeneration, domainGeneration, instanceGeneration, resourceGeneration⟩

def StorePinnedBuildIdentity.tryNew (buildInstanceId : Id32) (buildDescriptorDigest runtimeArtifactSha256
    compiledReferenceCompatibilityDigest : Digest32) : Res StorePinnedBuildIdentity := do
  let identity : StorePinnedBuildIdentity :=
    ⟨buildInstanceId, buildDescriptorDigest, runtimeArtifactSha256, compiledReferenceCompatibilityDigest⟩
  identity.validate
  pure identity

def decodeStorePinnedBuildIdentity : Cursor StorePinnedBuildIdentity := do
  let buildInstanceId ← digest
  let buildDescriptorDigest ← digest
  let runtimeArtifactSha256 ← digest
  let compiledReferenceCompatibilityDigest ← digest
  Reader.lift (StorePinnedBuildIdentity.tryNew buildInstanceId buildDescriptorDigest runtimeArtifactSha256
    compiledReferenceCompatibilityDigest)

def decodeSliceProvenance (sha256 : Sha256) : Cursor DurableSliceProvenance := do
  let target ← ref16
  let sourceScope ← ref16
  let sourcePlan ← ref16
  let sourceRevision ← u64
  let sourcePlanDigest ← digest
  let assignmentDigest ← digest
  let targetSliceDigest ← digest
  let value : DurableSliceProvenance :=
    ⟨target, sourceScope, sourcePlan, sourceRevision, sourcePlanDigest, assignmentDigest, targetSliceDigest⟩
  Reader.lift (value.validate sha256)
  pure value

/-- `durable_provenance_from_prepared_v3`: version 3 did not store it, the exact request still carries it. -/
def durableProvenanceFromPreparedV3 (c : Contracts) (request : OpaqueCanonicalValue) : Res DurableSliceProvenance := do
  let decoded ← okOr (c.decodeRequest request.canonicalBytes) .legacyProvenanceUnavailable
  rejectIf (decoded.canonicalWire ≠ request.canonicalBytes ∨ decoded.envelopeRequestDigest ≠ request.digest)
    .legacyProvenanceUnavailable
  mapErr (DurableSliceProvenance.tryNew c.sha256 decoded.target decoded.provenance decoded.assignmentDigest
    decoded.targetSliceDigest) .legacyProvenanceUnavailable

def decodeRawOutcome : Cursor RawActionOutcomeLatch := do
  let callback ← enumeration CallbackOutcome.decode
  let callbackReasonDigest ← optional digest
  let deadline ← enumeration DeadlineOutcome.decode
  let observedClockGeneration ← u64
  let observedAtNanos ← u64
  let hostInterrupted ← boolean
  let higherTenureTakeover ← boolean
  let cleanup ← enumeration CleanupOutcome.decode
  let cleanupEvidenceDigest ← optional digest
  pure ⟨callback, callbackReasonDigest, deadline, observedClockGeneration, observedAtNanos, hostInterrupted,
    higherTenureTakeover, cleanup, cleanupEvidenceDigest⟩

def decodeTerminalSelection : Cursor TerminalOutcomeSelection := do
  let primary ← enumeration TerminalOutcome.decode
  let raw ← decodeRawOutcome
  let selectionClockGeneration ← u64
  let selectionObservedAtNanos ← u64
  let lifecycleEffect ← enumeration TerminalLifecycleEffect.decode
  pure ⟨primary, raw, selectionClockGeneration, selectionObservedAtNanos, lifecycleEffect⟩

def decodeExpectedActive : Cursor ExpectedActiveCas := do
  let tag ← u8
  match tag with
  | 0 => pure .none
  | 1 => do
    let d ← digest
    pure (.exact d)
  | _ => Reader.lift (.error .unknownEnumValue)

def decodeHeadDisposition : Cursor TerminalHeadDisposition := do
  let tag ← u8
  match tag with
  | 0 => pure (.preserved none)
  | 1 => do
    let d ← digest
    pure (.preserved (some d))
  | 2 => pure .committedIncoming
  | _ => Reader.lift (.error .unknownEnumValue)

def decodeRecoveryAction (sha256 : Sha256) : Cursor RecoveryAction := do
  let action ← decodeAction
  let sourceScope ← ref16
  let sourceRevision ← u64
  let sourcePlanDigest ← digest
  let sliceProvenance ← decodeSliceProvenance sha256
  let activeSliceDigest ← digest
  let manifestDigest ← digest
  let storePinnedBuildIdentity ← decodeStorePinnedBuildIdentity
  let compiledBuildInstanceId ← digest
  let compiledCompatibilityDigest ← digest
  let signedStartBudgetNanos ← u64
  let deadlineNanos ← u64
  let deadlineEvidenceDigest ← digest
  let phase ← enumeration RecoveryPhase.decode
  let rawOutcome ← optional decodeRawOutcome
  pure ⟨action, sourceScope, sourceRevision, sourcePlanDigest, sliceProvenance, activeSliceDigest, manifestDigest,
    storePinnedBuildIdentity, compiledBuildInstanceId, compiledCompatibilityDigest, signedStartBudgetNanos,
    deadlineNanos, deadlineEvidenceDigest, phase, rawOutcome⟩

def decodeLiveBody : Nat → Cursor LiveMaterialization
  | 0 => pure .none
  | 1 => do
    let head ← optional digest
    let epoch ← u64
    let generation ← u64
    let eligibility ← enumeration StartupRecoveryEligibility.decode
    let invalidation ← digest
    let failure ← optional digest
    let census ← digest
    pure (.startupInvalidated head epoch generation eligibility invalidation failure census)
  | 2 => do
    let head ← digest
    let actionId ← ref16
    let generation ← u64
    let census ← digest
    pure (.recovering head actionId generation census)
  | 3 => do
    let head ← digest
    let epoch ← u64
    let generation ← u64
    let census ← digest
    pure (.liveReady head epoch generation census)
  | 4 => do
    let head ← digest
    let actionId ← ref16
    let failure ← digest
    let census ← digest
    pure (.recoveryFailedNotReady head actionId failure census)
  | 5 => do
    let head ← digest
    let operationId ← ref16
    let actionId ← ref16
    let generation ← u64
    let census ← digest
    pure (.draining head operationId actionId generation census)
  | 6 => do
    let head ← digest
    let census ← digest
    pure (.exactZero head census)
  | 7 => do
    let head ← optional digest
    let reason ← digest
    let census ← digest
    pure (.quarantined head reason census)
  | _ => Reader.lift (.error .unknownEnumValue)

def decodeLiveMaterialization : Cursor LiveMaterialization := do
  let tag ← u8
  decodeLiveBody tag

def decodeReplayRecord : Cursor ReplayLedgerRecord := do
  let identity ← digest
  let valueDigest ← digest
  pure ⟨identity, valueDigest⟩

def decodeTemporalRecord : Cursor TemporalLineageRecord := do
  let constraintId ← ref16
  let sourceScope ← ref16
  let targetFingerprint ← digest
  let originalBudgetNanos ← u64
  let remainingBudgetNanos ← u64
  let clockGeneration ← u64
  let deadlineNanos ← u64
  let lineageDigest ← digest
  pure ⟨constraintId, sourceScope, targetFingerprint, originalBudgetNanos, remainingBudgetNanos, clockGeneration,
    deadlineNanos, lineageDigest⟩

def decodeHost : Cursor HostClockAdmissionState := do
  let runtimeHostEpochHighWater ← u64
  let clockDomain ← ref16
  let clockGenerationHighWater ← u64
  let buildDescriptor ← opaqueValue maxPinnedOpaqueArtifactBytes
  let singletonManifest ← opaqueValue maxPinnedOpaqueArtifactBytes
  let storePinnedBuildIdentity ← decodeStorePinnedBuildIdentity
  let compiledBuildInstanceId ← digest
  let compiledCompatibilityDigest ← digest
  let admissionPolicyFingerprint ← digest
  let channelPolicyFingerprint ← digest
  let controllerKeyFingerprint ← digest
  let tenureNonces ← records maxRuntimeTenureNonces decodeReplayRecord
  let requestNonces ← records maxRuntimeRequestNonces decodeReplayRecord
  let temporalLineages ← records maxRuntimeTemporalLineages decodeTemporalRecord
  pure ⟨runtimeHostEpochHighWater, clockDomain, clockGenerationHighWater, buildDescriptor, singletonManifest,
    storePinnedBuildIdentity, compiledBuildInstanceId, compiledCompatibilityDigest, admissionPolicyFingerprint,
    channelPolicyFingerprint, controllerKeyFingerprint, tenureNonces, requestNonces, temporalLineages⟩

def decodeFence : Cursor WriterFenceRecord := do
  let sourceScope ← ref16
  let writer ← ref16
  let epoch ← u64
  let proofEnvelopeDigest ← digest
  let tenureNonceIdentity ← digest
  let principal ← ref16
  pure ⟨sourceScope, writer, epoch, proofEnvelopeDigest, tenureNonceIdentity, principal⟩

def decodeHighWater : Cursor SourceRevisionHighWater := do
  let sourceScope ← ref16
  let revision ← u64
  pure ⟨sourceScope, revision⟩

def rejectLegacy (payloadVersion : Nat) : Res Unit :=
  rejectIf (payloadVersion = runtimeJournalLegacyPayloadVersion) .legacyProvenanceUnavailable

def decodeRetiring (sha256 : Sha256) (payloadVersion : Nat) : Cursor RetiringLiveFacts := do
  Reader.lift (rejectLegacy payloadVersion)
  let oldSlice ← opaqueValue maxReferenceRuntimePlanSliceBytes
  let oldSliceProvenance ← decodeSliceProvenance sha256
  let oldSourcePlanDigest ← digest
  let oldManifestDigest ← digest
  let signedStartBudgetNanos ← u64
  let signedDrainBudgetNanos ← u64
  let signedCleanupBudgetNanos ← u64
  let oldRuntimeHostEpoch ← u64
  let oldClockGeneration ← u64
  let oldResourceGeneration ← u64
  let oldResourceCensusDigest ← digest
  pure ⟨oldSlice, oldSliceProvenance, oldSourcePlanDigest, oldManifestDigest, signedStartBudgetNanos,
    signedDrainBudgetNanos, signedCleanupBudgetNanos, oldRuntimeHostEpoch, oldClockGeneration, oldResourceGeneration,
    oldResourceCensusDigest⟩

/-- The provenance of the prepared slice: stored since version 4, rebuilt from the request in version 3. -/
def decodePreparedProvenance (c : Contracts) (payloadVersion : Nat) (request : OpaqueCanonicalValue) :
    Cursor DurableSliceProvenance :=
  if runtimeJournalPayloadV4 ≤ payloadVersion then decodeSliceProvenance c.sha256
  else Reader.lift (durableProvenanceFromPreparedV3 c request)

def zeroChannel : DurableReferenceChannelBinding := ⟨0, 0, 0, 0⟩

def decodeResponseChannel (payloadVersion : Nat) : Cursor DurableReferenceChannelBinding :=
  if payloadVersion = runtimeJournalPayloadVersion then do
    let target ← ref16
    let runtimePeer ← ref16
    let localEndpointIdentityDigest ← digest
    let peerCredentialsDigest ← digest
    pure ⟨target, runtimePeer, localEndpointIdentityDigest, peerCredentialsDigest⟩
  else pure zeroChannel

def checkPreparedProvenance (payloadVersion : Nat) (provenance : DurableSliceProvenance) (sourceScope : Ref16)
    (sourceRevision : U64) (sourcePlanDigest : SourcePlanDigest) (incomingSliceDigest : TargetSliceDigest) : Res Unit :=
  rejectIf (provenance.sourceScope ≠ sourceScope
      ∨ provenance.sourceRevision ≠ sourceRevision
      ∨ provenance.sourcePlanDigest ≠ sourcePlanDigest
      ∨ provenance.targetSliceDigest ≠ incomingSliceDigest)
    (if payloadVersion = runtimeJournalLegacyPayloadVersion then .legacyProvenanceUnavailable else .danglingReference)

def decodePrepared (c : Contracts) (payloadVersion : Nat) : Cursor PreparedOperation := do
  let sourceScope ← ref16
  let operationId ← ref16
  let sourceRevision ← u64
  let request ← opaqueValue maxOpaqueRequestOrSliceBytes
  let sliceProvenance ← decodePreparedProvenance c payloadVersion request
  let requestNonceIdentity ← digest
  let sourcePlanDigest ← digest
  let incomingSliceDigest ← digest
  Reader.lift (checkPreparedProvenance payloadVersion sliceProvenance sourceScope sourceRevision sourcePlanDigest
    incomingSliceDigest)
  let incomingKind ← enumeration DesiredHeadKind.decode
  let manifestDigest ← digest
  let expectedActive ← decodeExpectedActive
  let temporalConstraintId ← ref16
  let temporalLineageDigest ← digest
  let installedClockGeneration ← u64
  let installedDeadlineNanos ← u64
  let responseChannel ← decodeResponseChannel payloadVersion
  let phase ← enumeration PreparedPhase.decode
  let action ← optional decodeAction
  let retiring ← optional (decodeRetiring c.sha256 payloadVersion)
  let rawOutcome ← optional decodeRawOutcome
  pure ⟨sourceScope, operationId, sourceRevision, request, sliceProvenance, requestNonceIdentity, sourcePlanDigest,
    incomingSliceDigest, incomingKind, manifestDigest, expectedActive, temporalConstraintId, temporalLineageDigest,
    installedClockGeneration, installedDeadlineNanos, responseChannel, phase, action, retiring, rawOutcome⟩

def decodeActive (sha256 : Sha256) (payloadVersion : Nat) : Cursor ActiveDesiredHead := do
  Reader.lift (rejectLegacy payloadVersion)
  let kind ← enumeration DesiredHeadKind.decode
  let sourceScope ← ref16
  let sourceRevision ← u64
  let slice ← opaqueValue maxReferenceRuntimePlanSliceBytes
  let sliceProvenance ← decodeSliceProvenance sha256
  let sourcePlanDigest ← digest
  let manifestDigest ← digest
  let operationId ← ref16
  let committingResultDigest ← optional digest
  pure ⟨kind, sourceScope, sourceRevision, slice, sliceProvenance, sourcePlanDigest, manifestDigest, operationId,
    committingResultDigest⟩

def decodeCurrentRecovery (sha256 : Sha256) (payloadVersion : Nat) : Cursor RecoveryAction := do
  Reader.lift (rejectLegacy payloadVersion)
  decodeRecoveryAction sha256

def decodeRecoveryTerminal (sha256 : Sha256) : Cursor RecoveryTerminalRecord := do
  let recovery ← decodeRecoveryAction sha256
  let selection ← decodeTerminalSelection
  let resourceCensusDigest ← digest
  let failureLatchDigest ← optional digest
  let completionRuntimeHostEpoch ← u64
  let completionSnapshotSequence ← u64
  pure ⟨recovery, selection, resourceCensusDigest, failureLatchDigest, completionRuntimeHostEpoch,
    completionSnapshotSequence⟩

def decodeResource (payloadVersion : Nat) : Cursor OwnedResourceRecord := do
  let kind ← enumeration ResourceKind.decode
  let logicalRef ← ref16
  let generation ← u64
  let runtimeHostEpoch ← u64
  let phase ← enumeration (ResourcePhase.decodeForPayloadVersion payloadVersion)
  let actionId ← optional ref16
  let osIdentity ← optional (opaqueValue maxRuntimeResourceEvidenceBytes)
  let workspaceIdentity ← optional (opaqueValue maxRuntimeResourceEvidenceBytes)
  let containmentIdentity ← optional (opaqueValue maxRuntimeResourceEvidenceBytes)
  let tombstoneEvidence ← optional (opaqueValue maxRuntimeResourceEvidenceBytes)
  pure ⟨kind, logicalRef, generation, runtimeHostEpoch, phase, actionId, osIdentity, workspaceIdentity,
    containmentIdentity, tombstoneEvidence⟩

def decodeTerminalOperation (sha256 : Sha256) : Cursor TerminalOperationRecord := do
  let sourceScope ← ref16
  let operationId ← ref16
  let requestDigest ← digest
  let requestNonceIdentity ← digest
  let sliceProvenance ← decodeSliceProvenance sha256
  let sourceRevision ← u64
  let sourcePlanDigest ← digest
  let targetSliceDigest ← digest
  let temporalConstraintId ← ref16
  let temporalLineageDigest ← digest
  let incomingKind ← enumeration DesiredHeadKind.decode
  let completionPredecessorPhase ← enumeration PreparedPhase.decode
  let installedClockGeneration ← u64
  let installedDeadlineNanos ← u64
  let action ← optional decodeAction
  let predecessorRawOutcome ← optional decodeRawOutcome
  let selection ← decodeTerminalSelection
  let headDisposition ← decodeHeadDisposition
  let resourceCensusDigest ← digest
  let resultDigest ← digest
  let canonicalResponse ← opaqueValue maxReferenceApplyTerminalReceiptBytes
  let completionRuntimeHostEpoch ← u64
  let completionSnapshotSequence ← u64
  pure ⟨sourceScope, operationId, requestDigest, requestNonceIdentity, sliceProvenance, sourceRevision,
    sourcePlanDigest, targetSliceDigest, temporalConstraintId, temporalLineageDigest, incomingKind,
    completionPredecessorPhase, installedClockGeneration, installedDeadlineNanos, action, predecessorRawOutcome,
    selection, headDisposition, resourceCensusDigest, resultDigest, canonicalResponse, completionRuntimeHostEpoch,
    completionSnapshotSequence⟩

/-- A count of completed records, which version 3 may only give as zero, and the records. -/
def completedRecords {α : Type} (payloadVersion maximum : Nat) (record : Cursor α) : Cursor (List α) := do
  let n ← count maximum
  Reader.lift (rejectIf (payloadVersion = runtimeJournalLegacyPayloadVersion ∧ n ≠ 0) .legacyProvenanceUnavailable)
  Reader.times n record

def decodeState (c : Contracts) (payloadVersion : Nat) : Cursor RuntimeJournalState := do
  let lastTransaction ← enumeration RuntimeJournalTransaction.decode
  let host ← decodeHost
  let writerFence ← optional decodeFence
  let sourceRevisionHighWater ← optional decodeHighWater
  let prepared ← optional (decodePrepared c payloadVersion)
  let activeDesired ← optional (decodeActive c.sha256 payloadVersion)
  let liveMaterialization ← decodeLiveMaterialization
  let recoveryAction ← optional (decodeCurrentRecovery c.sha256 payloadVersion)
  let recoveryTerminals ← completedRecords payloadVersion maxRuntimeRecoveryTerminals (decodeRecoveryTerminal c.sha256)
  let ownedResources ← records maxRuntimeOwnedResources (decodeResource payloadVersion)
  let terminalOperations ←
    completedRecords payloadVersion maxRuntimeTerminalOperations (decodeTerminalOperation c.sha256)
  finish
  pure ⟨lastTransaction, host, writerFence, sourceRevisionHighWater, prepared, activeDesired, liveMaterialization,
    recoveryAction, recoveryTerminals, ownedResources, terminalOperations⟩

def knownPayloadVersion (payloadVersion : Nat) : Bool :=
  payloadVersion = runtimeJournalLegacyPayloadVersion || payloadVersion = runtimeJournalPayloadV4
    || payloadVersion = runtimeJournalPayloadVersion

def decodePayloadVersion (c : Contracts) (payload : Bytes) (payloadVersion : Nat) : Res RuntimeJournalState := do
  rejectIf (¬ knownPayloadVersion payloadVersion) .unsupportedPayloadVersion
  rejectIf (maxRuntimeJournalSnapshotBytes - headerBytes < payload.length) .lengthBomb
  let state ← decodeState c payloadVersion payload
  pure state.1

/-! ## Snapshots of an explicit payload version -/

def snapshotHeader (storeInstanceId : Id32) (ownerTargetFingerprint : Digest32) (sequence : U64)
    (payloadLength payloadVersion : Nat) : Bytes :=
  [runtimeJournalMagic, encU16 1, encU16 3, encU16 payloadVersion, encU16 1, encU16 1, storeInstanceId.asBytes,
    ownerTargetFingerprint.asBytes, encU64 sequence, encU64 payloadLength].flatten

def encodeSnapshotVersion (sha256 : Sha256) (storeInstanceId : Id32) (ownerTargetFingerprint : Digest32)
    (sequence : U64) (payload : Bytes) (payloadVersion : Nat) : Res Bytes := do
  rejectIf (¬ knownPayloadVersion payloadVersion) .unsupportedPayloadVersion
  rejectIf (maxRuntimeJournalSnapshotBytes < headerBytes + payload.length) .snapshotTooLarge
  let header := snapshotHeader storeInstanceId ownerTargetFingerprint sequence payload.length payloadVersion
  let checksum ← snapshotChecksum sha256 header payload
  pure (header ++ checksum.asBytes ++ payload)

/-- The header fields a frame starts with, after its magic, versions and checksum profile were accepted. -/
structure SnapshotHeader where
  storeInstanceId : Id32
  ownerTargetFingerprint : Digest32
  sequence : U64
  payloadLength : Nat
  checksum : Digest32

def decodeHeader (expectedPayloadVersion : Nat) : Cursor SnapshotHeader := do
  let magic ← take 4
  Reader.lift (rejectIf (magic.val ≠ runtimeJournalMagic) .invalidMagic)
  let envelopeVersion ← u16
  Reader.lift (rejectIf (envelopeVersion ≠ 1) .unsupportedEnvelopeVersion)
  let ownerKind ← u16
  Reader.lift (rejectIf (ownerKind ≠ 3) .wrongOwnerKind)
  let payloadVersion ← u16
  Reader.lift (rejectIf (payloadVersion ≠ expectedPayloadVersion) .unsupportedPayloadVersion)
  let checksumAlgorithm ← u16
  Reader.lift (rejectIf (checksumAlgorithm ≠ 1) .unsupportedChecksumProfile)
  let checksumVersion ← u16
  Reader.lift (rejectIf (checksumVersion ≠ 1) .unsupportedChecksumProfile)
  let storeInstanceId ← digest
  let ownerTargetFingerprint ← digest
  let sequence ← u64
  let payloadLength ← u64
  Reader.lift (validateEnvelopeIdentity storeInstanceId ownerTargetFingerprint sequence)
  Reader.lift (rejectIf (maxRuntimeJournalSnapshotBytes - headerBytes < payloadLength) .lengthBomb)
  let checksum ← digest
  pure ⟨storeInstanceId, ownerTargetFingerprint, sequence, payloadLength, checksum⟩

/-- `&frame[from..]` and `&frame[..to]`: slices with their bound. -/
def sliceFrom (frame : Bytes) (start : Nat) (_ : start ≤ frame.length) : Bytes := frame.drop start
def sliceTo (frame : Bytes) (stop : Nat) (_ : stop ≤ frame.length) : Bytes := frame.take stop

namespace RuntimeJournalSnapshot

def tryNewForPayloadVersion (c : Contracts) (storeInstanceId : Id32) (ownerTargetFingerprint : Digest32)
    (sequence : U64) (state : RuntimeJournalState) (payloadVersion : Nat) (preparedMismatch : RuntimeJournalError) :
    Res RuntimeJournalSnapshot := do
  validateEnvelopeIdentity storeInstanceId ownerTargetFingerprint sequence
  state.validateForPayloadVersion c sequence payloadVersion
  state.validateOwnerTargetBinding ownerTargetFingerprint
  validatePreparedRequestBusinessInvariants c state storeInstanceId preparedMismatch
  validateTerminalReceipts c storeInstanceId state
  let payload ← encodePayloadVersion state payloadVersion
  let canonicalWire ← encodeSnapshotVersion c.sha256 storeInstanceId ownerTargetFingerprint sequence payload
    payloadVersion
  pure ⟨storeInstanceId, ownerTargetFingerprint, sequence, state, canonicalWire⟩

structure DecodedRuntimeJournalSnapshot where
  snapshot : RuntimeJournalSnapshot
  checksum : Digest32

/-- The rest of `decode_for_payload_version`, once the frame is known to hold a whole header. -/
def decodeFramed (c : Contracts) (frame : Bytes) (long : headerBytes ≤ frame.length) (expectedPayloadVersion : Nat)
    (preparedMismatch : RuntimeJournalError) : Res DecodedRuntimeJournalSnapshot := do
  let (header, _) ← decodeHeader expectedPayloadVersion frame
  let expectedLength := headerBytes + header.payloadLength
  rejectIf (expectedLength < frame.length) .trailingBytes
  rejectIf (expectedLength ≠ frame.length) .truncated
  let payload := sliceFrom frame headerBytes long
  let computed ← snapshotChecksum c.sha256
    (sliceTo frame headerWithoutChecksumBytes (le_trans (Nat.le_add_right _ _) long)) payload
  rejectIf (computed ≠ header.checksum) .checksumMismatch
  let state ← decodePayloadVersion c payload expectedPayloadVersion
  state.validateForPayloadVersion c header.sequence expectedPayloadVersion
  state.validateOwnerTargetBinding header.ownerTargetFingerprint
  validatePreparedRequestBusinessInvariants c state header.storeInstanceId preparedMismatch
  validateTerminalReceipts c header.storeInstanceId state
  let encoded ← encodePayloadVersion state expectedPayloadVersion
  rejectIf (encoded ≠ payload) .nonCanonicalEncoding
  pure ⟨⟨header.storeInstanceId, header.ownerTargetFingerprint, header.sequence, state, frame⟩, header.checksum⟩

def decodeForPayloadVersion (c : Contracts) (frame : Bytes) (expectedPayloadVersion : Nat)
    (preparedMismatch : RuntimeJournalError) : Res DecodedRuntimeJournalSnapshot := do
  rejectIf (maxRuntimeJournalSnapshotBytes < frame.length) .snapshotTooLarge
  if long : headerBytes ≤ frame.length then decodeFramed c frame long expectedPayloadVersion preparedMismatch
  else .error .truncated

def decode (c : Contracts) (frame : Bytes) : Res RuntimeJournalSnapshot := do
  let decoded ← decodeForPayloadVersion c frame runtimeJournalPayloadVersion .invalidStateInvariant
  pure decoded.snapshot

def decodePayloadV4ForMigration (c : Contracts) (frame : Bytes) : Res RuntimeJournalSnapshot := do
  let decoded ← decodeForPayloadVersion c frame runtimeJournalPayloadV4 .invalidStateInvariant
  pure decoded.snapshot

/-! ## Migrations -/

structure RuntimeJournalPayloadMigration where
  snapshot : RuntimeJournalSnapshot
  sourcePayloadVersion : Nat
  sourceChecksum : Digest32
  sourceStoreInstanceId : Id32
  sourceTargetFingerprint : Digest32
  sourceSequence : U64

def migratePayloadV3WithMetadata (c : Contracts) (frame : Bytes) : Res RuntimeJournalPayloadMigration := do
  let source ← decodeForPayloadVersion c frame runtimeJournalLegacyPayloadVersion .legacyProvenanceUnavailable
  let snapshot ← tryNewForPayloadVersion c source.snapshot.storeInstanceId source.snapshot.ownerTargetFingerprint
    source.snapshot.sequence source.snapshot.state runtimeJournalPayloadV4 .legacyProvenanceUnavailable
  pure ⟨snapshot, runtimeJournalLegacyPayloadVersion, source.checksum, source.snapshot.storeInstanceId,
    source.snapshot.ownerTargetFingerprint, source.snapshot.sequence⟩

def losslessLive (active : Option ActiveDesiredHead) (live : LiveMaterialization) : Bool :=
  match active, live with
  | none, .none => true
  | _, .startupInvalidated _ _ _ _ _ _ _ => true
  | some active, .liveReady head _ _ _ =>
    active.kind = .oneSourceLoop && head = active.sliceProvenance.targetSliceDigest
  | some active, .recoveryFailedNotReady head _ _ _ =>
    active.kind = .oneSourceLoop && head = active.sliceProvenance.targetSliceDigest
  | some active, .exactZero head _ =>
    active.kind = .emptyDeactivate && head = active.sliceProvenance.targetSliceDigest
  | _, .quarantined _ _ _ => true
  | _, _ => false

def ensurePayloadV4MigrationIsLossless (state : RuntimeJournalState) : Res Unit := do
  rejectIf (state.prepared.isSome ∨ state.recoveryAction.isSome) .migrationStateNotLossless
  rejectIf (¬ losslessLive state.activeDesired state.liveMaterialization) .migrationStateNotLossless

def migratePayloadV4WithMetadata (c : Contracts) (frame : Bytes) : Res RuntimeJournalPayloadMigration := do
  let source ← decodeForPayloadVersion c frame runtimeJournalPayloadV4 .invalidStateInvariant
  ensurePayloadV4MigrationIsLossless source.snapshot.state
  let snapshot ← tryNew c source.snapshot.storeInstanceId source.snapshot.ownerTargetFingerprint
    source.snapshot.sequence source.snapshot.state
  pure ⟨snapshot, runtimeJournalPayloadV4, source.checksum, source.snapshot.storeInstanceId,
    source.snapshot.ownerTargetFingerprint, source.snapshot.sequence⟩

end RuntimeJournalSnapshot
end Journal
end ParaEgox
