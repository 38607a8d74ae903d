import Mathlib.Data.Prod.Lex
import ParaEgox.Contracts
import ParaEgox.Keyed

/-!
# JournalTypes — the durable state of the Runtime owner journal

The records of `RuntimeJournalState` and the typed inputs of its successor builders, field by field.
-/
namespace ParaEgox
namespace Journal

open Check

inductive RuntimeJournalError
  | invalidMagic
  | unsupportedEnvelopeVersion
  | wrongOwnerKind
  | unsupportedPayloadVersion
  | unsupportedChecksumProfile
  | zeroStoreInstanceId
  | zeroDigest
  | zeroReference
  | invalidSequence
  | sequenceOverflow
  | snapshotTooLarge
  | lengthBomb
  | truncated
  | trailingBytes
  | checksumMismatch
  | nonCanonicalEncoding
  | nonCanonicalOrdering
  | unknownEnumValue
  | emptyOpaqueValue
  | opaqueValueTooLarge
  | capacityExceeded
  | multipleSourceScopes
  | multipleOwnerActions
  | danglingReference
  | legacyProvenanceUnavailable
  | migrationStateNotLossless
  | invalidStateInvariant
  | nonMonotonicTransition
  | integerOverflow
  | digest (e : DigestBuildError)
  deriving DecidableEq

abbrev Res := Except RuntimeJournalError

/-- `From<DigestBuildError>`: a digest computed inside the journal. -/
def journalDigest (sha256 : Sha256) (domain : Bytes) (fs : List Bytes) : Res Digest32 :=
  match digest32 sha256 domain fs with
  | .error e => .error (.digest e)
  | .ok d => .ok d

@[simp] theorem journalDigest_ok (sha256 : Sha256) (domain : Bytes) (fs : List Bytes) (d : Digest32) :
    journalDigest sha256 domain fs = .ok d ↔ digest32 sha256 domain fs = .ok d := by
  unfold journalDigest
  split <;> simp_all

theorem journalDigest_total (sha256 : Sha256) {domain : Bytes} {fs : List Bytes} (hdomain : domain ≠ [])
    (hlength : domain.length < 2 ^ 32) (hcount : fs.length < 2 ^ 32) (hfields : ∀ f ∈ fs, f.length < 2 ^ 64) :
    journalDigest sha256 domain fs = .ok (sha256 (digestInput domain fs)) := by
  rw [journalDigest_ok, digest32_ok]
  exact ⟨hdomain, hlength, hcount, hfields, rfl⟩

theorem journalDigest_eq {sha256 : Sha256} {domain : Bytes} {fs : List Bytes} {d : Digest32}
    (h : journalDigest sha256 domain fs = .ok d) : d = sha256 (digestInput domain fs) := by
  rw [journalDigest_ok, digest32_ok] at h
  exact h.2.2.2.2

def ensureNonzeroDigest (d : Digest32) : Res Unit := rejectIf (d = 0) .zeroDigest
def ensureNonzeroRef (r : Ref16) : Res Unit := rejectIf (r = 0) .zeroReference

@[simp] theorem ensureNonzeroDigest_ok (d : Digest32) (u : Unit) : ensureNonzeroDigest d = .ok u ↔ d ≠ 0 := by
  simp [ensureNonzeroDigest]

@[simp] theorem ensureNonzeroRef_ok (r : Ref16) (u : Unit) : ensureNonzeroRef r = .ok u ↔ r ≠ 0 := by
  simp [ensureNonzeroRef]

/-- `checked_add`; overflow is the given error. -/
def checkedAdd (a b : U64) (e : RuntimeJournalError) : Res U64 :=
  if a + b ≤ u64Max then .ok (a + b) else .error e

@[simp] theorem checkedAdd_ok (a b c : U64) (e : RuntimeJournalError) :
    checkedAdd a b e = .ok c ↔ a + b ≤ u64Max ∧ a + b = c := by
  unfold checkedAdd
  split <;> simp_all

/-! ## Slice provenance and opaque values -/

structure DurableSliceProvenance where
  target : Ref16
  sourceScope : Ref16
  sourcePlan : Ref16
  sourceRevision : U64
  sourcePlanDigest : SourcePlanDigest
  assignmentDigest : TargetAssignmentDigest
  targetSliceDigest : TargetSliceDigest
  deriving DecidableEq

def DurableSliceProvenance.planProvenance (p : DurableSliceProvenance) : PlanProvenance :=
  ⟨p.sourceScope, p.sourcePlan, p.sourceRevision, p.sourcePlanDigest⟩

def DurableSliceProvenance.validate (sha256 : Sha256) (p : DurableSliceProvenance) : Res Unit := do
  ensureNonzeroRef p.target
  ensureNonzeroRef p.sourceScope
  ensureNonzeroRef p.sourcePlan
  ensureNonzeroDigest p.sourcePlanDigest
  ensureNonzeroDigest p.assignmentDigest
  ensureNonzeroDigest p.targetSliceDigest
  rejectIf (p.sourceRevision = 0) .invalidStateInvariant
  let commitment ← mapErr (runtimeSliceCommitment sha256 ⟨p.target, p.planProvenance, p.assignmentDigest⟩)
    .invalidStateInvariant
  rejectIf (commitment ≠ p.targetSliceDigest) .invalidStateInvariant

def DurableSliceProvenance.tryNew (sha256 : Sha256) (target : Ref16) (provenance : PlanProvenance)
    (assignmentDigest : TargetAssignmentDigest) (targetSliceDigest : TargetSliceDigest) :
    Res DurableSliceProvenance := do
  let value : DurableSliceProvenance :=
    ⟨target, provenance.sourceScope, provenance.sourcePlan, provenance.sourceRevision, provenance.sourcePlanDigest,
      assignmentDigest, targetSliceDigest⟩
  value.validate sha256
  pure value

structure OpaqueCanonicalValue where
  canonicalBytes : Bytes
  digest : Digest32
  deriving DecidableEq

def OpaqueCanonicalValue.validateBound (v : OpaqueCanonicalValue) (maximum : Nat) : Res Unit := do
  rejectIf (v.canonicalBytes = []) .emptyOpaqueValue
  rejectIf (maximum < v.canonicalBytes.length) .opaqueValueTooLarge
  ensureNonzeroDigest v.digest

/-- `OpaqueCanonicalValue::try_new`: the constructor behind every bounded variant. -/
def OpaqueCanonicalValue.tryNew (bytes : Bytes) (digest : Digest32) (maximum : Nat) : Res OpaqueCanonicalValue := do
  let v : OpaqueCanonicalValue := ⟨bytes, digest⟩
  v.validateBound maximum
  pure v

def maxRuntimeJournalSnapshotBytes : Nat := 16 * 1024 * 1024
def maxRuntimeTerminalOperations : Nat := 256
def maxRuntimeRecoveryTerminals : Nat := 256
def maxRuntimeTenureNonces : Nat := 256
def maxRuntimeRequestNonces : Nat := 256
def maxRuntimeTemporalLineages : Nat := 256
def maxRuntimeOwnedResources : Nat := 4096
def maxRuntimeResourceEvidenceBytes : Nat := 512
def maxPinnedOpaqueArtifactBytes : Nat := 1024 * 1024
def maxOpaqueRequestOrSliceBytes : Nat := 4 * 1024 * 1024

def OpaqueCanonicalValue.tryRuntimeSlice (bytes : Bytes) (digest : Digest32) : Res OpaqueCanonicalValue :=
  tryNew bytes digest maxReferenceRuntimePlanSliceBytes

/-! ## Host, clock and admission ledgers -/

structure StorePinnedBuildIdentity where
  buildInstanceId : Id32
  buildDescriptorDigest : Digest32
  runtimeArtifactSha256 : Digest32
  compiledReferenceCompatibilityDigest : Digest32
  deriving DecidableEq

def StorePinnedBuildIdentity.validate (i : StorePinnedBuildIdentity) : Res Unit := do
  rejectIf (i.buildInstanceId = 0) .zeroReference
  ensureNonzeroDigest i.buildDescriptorDigest
  ensureNonzeroDigest i.runtimeArtifactSha256
  ensureNonzeroDigest i.compiledReferenceCompatibilityDigest

structure ReplayLedgerRecord where
  identity : Digest32
  valueDigest : Digest32
  deriving DecidableEq

structure TemporalLineageRecord where
  constraintId : Ref16
  sourceScope : Ref16
  targetFingerprint : Digest32
  originalBudgetNanos : U64
  remainingBudgetNanos : U64
  clockGeneration : U64
  deadlineNanos : U64
  lineageDigest : Digest32
  deriving DecidableEq

structure HostClockAdmissionState where
  runtimeHostEpochHighWater : U64
  clockDomain : Ref16
  clockGenerationHighWater : U64
  buildDescriptor : OpaqueCanonicalValue
  singletonManifest : OpaqueCanonicalValue
  storePinnedBuildIdentity : StorePinnedBuildIdentity
  compiledBuildInstanceId : Id32
  compiledCompatibilityDigest : Digest32
  admissionPolicyFingerprint : Digest32
  channelPolicyFingerprint : Digest32
  controllerKeyFingerprint : Digest32
  tenureNonces : List ReplayLedgerRecord
  requestNonces : List ReplayLedgerRecord
  temporalLineages : List TemporalLineageRecord
  deriving DecidableEq

structure RuntimeJournalSequenceOne where
  clockDomain : Ref16
  buildDescriptor : OpaqueCanonicalValue
  singletonManifest : OpaqueCanonicalValue
  storePinnedBuildIdentity : StorePinnedBuildIdentity
  compiledBuildInstanceId : Id32
  compiledCompatibilityDigest : Digest32
  admissionPolicyFingerprint : Digest32
  channelPolicyFingerprint : Digest32
  controllerKeyFingerprint : Digest32

structure WriterFenceRecord where
  sourceScope : Ref16
  writer : Ref16
  epoch : U64
  proofEnvelopeDigest : Digest32
  tenureNonceIdentity : Digest32
  principal : Ref16
  deriving DecidableEq

structure SourceRevisionHighWater where
  sourceScope : Ref16
  revision : U64
  deriving DecidableEq

/-! ## Actions and the raw outcome latch -/

inductive JournalActionKind
  | startOneSourceLoop
  | drainToEmpty
  | restartReassembly
  deriving DecidableEq

structure JournalActionRef where
  actionId : Ref16
  kind : JournalActionKind
  runtimeHostEpoch : U64
  clockGeneration : U64
  domainGeneration : U64
  instanceGeneration : U64
  resourceGeneration : U64
  deriving DecidableEq

inductive CallbackOutcome
  | notInvoked
  | knownSuccess
  | knownError
  | panicked
  | unknownAfterIntent
  deriving DecidableEq

inductive DeadlineOutcome
  | notObserved
  | timedOut
  | cancelled
  deriving DecidableEq

inductive CleanupOutcome
  | notObserved
  | exactZero
  | uncertain
  deriving DecidableEq

/-- The discriminants of the `repr(u8)` enumerations the digests write. -/
def CallbackOutcome.code : CallbackOutcome → Nat
  | notInvoked => 1
  | knownSuccess => 2
  | knownError => 3
  | panicked => 4
  | unknownAfterIntent => 5

def DeadlineOutcome.code : DeadlineOutcome → Nat
  | notObserved => 1
  | timedOut => 2
  | cancelled => 3

def CleanupOutcome.code : CleanupOutcome → Nat
  | notObserved => 1
  | exactZero => 2
  | uncertain => 3

structure RawActionOutcomeLatch where
  callback : CallbackOutcome
  callbackReasonDigest : Option Digest32
  deadline : DeadlineOutcome
  observedClockGeneration : U64
  observedAtNanos : U64
  hostInterrupted : Bool
  higherTenureTakeover : Bool
  cleanup : CleanupOutcome
  cleanupEvidenceDigest : Option Digest32
  deriving DecidableEq

inductive PreparedPhase
  | preparedNoEffects
  | firstActionIntent
  | headCommittedRetiringOld
  | supersededBeforeEffects
  | supersededReconcileRequired
  | startupExpiredNoEffects
  | startupReconcileRequired
  deriving DecidableEq

def PreparedPhase.code : PreparedPhase → Nat
  | preparedNoEffects => 1
  | firstActionIntent => 2
  | headCommittedRetiringOld => 3
  | supersededBeforeEffects => 4
  | supersededReconcileRequired => 5
  | startupExpiredNoEffects => 6
  | startupReconcileRequired => 7

def PreparedPhase.requiresAction : PreparedPhase → Bool
  | firstActionIntent | headCommittedRetiringOld | supersededReconcileRequired | startupReconcileRequired => true
  | preparedNoEffects | supersededBeforeEffects | startupExpiredNoEffects => false

inductive ExpectedActiveCas
  | none
  | exact (digest : TargetSliceDigest)
  deriving DecidableEq

structure RetiringLiveFacts where
  oldSlice : OpaqueCanonicalValue
  oldSliceProvenance : DurableSliceProvenance
  oldSourcePlanDigest : SourcePlanDigest
  oldManifestDigest : Digest32
  signedStartBudgetNanos : U64
  signedDrainBudgetNanos : U64
  signedCleanupBudgetNanos : U64
  oldRuntimeHostEpoch : U64
  oldClockGeneration : U64
  oldResourceGeneration : U64
  oldResourceCensusDigest : Digest32
  deriving DecidableEq

structure DurableReferenceChannelBinding where
  target : Ref16
  runtimePeer : Ref16
  localEndpointIdentityDigest : Digest32
  peerCredentialsDigest : Digest32
  deriving DecidableEq

inductive DesiredHeadKind
  | oneSourceLoop
  | emptyDeactivate
  deriving DecidableEq

structure PreparedOperation where
  sourceScope : Ref16
  operationId : Ref16
  sourceRevision : U64
  request : OpaqueCanonicalValue
  sliceProvenance : DurableSliceProvenance
  requestNonceIdentity : Digest32
  sourcePlanDigest : SourcePlanDigest
  incomingSliceDigest : TargetSliceDigest
  incomingKind : DesiredHeadKind
  manifestDigest : Digest32
  expectedActive : ExpectedActiveCas
  temporalConstraintId : Ref16
  temporalLineageDigest : Digest32
  installedClockGeneration : U64
  installedDeadlineNanos : U64
  responseChannel : DurableReferenceChannelBinding
  phase : PreparedPhase
  action : Option JournalActionRef
  retiring : Option RetiringLiveFacts
  rawOutcome : Option RawActionOutcomeLatch
  deriving DecidableEq

structure ActiveDesiredHead where
  kind : DesiredHeadKind
  sourceScope : Ref16
  sourceRevision : U64
  slice : OpaqueCanonicalValue
  sliceProvenance : DurableSliceProvenance
  sourcePlanDigest : SourcePlanDigest
  manifestDigest : Digest32
  operationId : Ref16
  committingResultDigest : Option Digest32
  deriving DecidableEq

inductive StartupRecoveryEligibility
  | noActiveHead
  | canonicalEmptyExactZero
  | eligibleOneSourceLoop
  | recoveryFailureLatched
  | reconcileRequired
  deriving DecidableEq

inductive LiveMaterialization
  | none
  | startupInvalidated (activeSliceDigest : Option TargetSliceDigest) (previousRuntimeHostEpoch : U64)
      (previousClockGeneration : U64) (recoveryEligibility : StartupRecoveryEligibility)
      (invalidationEvidenceDigest : Digest32) (failureEvidenceDigest : Option Digest32)
      (resourceCensusDigest : Digest32)
  | recovering (activeSliceDigest : TargetSliceDigest) (actionId : Ref16) (resourceGeneration : U64)
      (resourceCensusDigest : Digest32)
  | liveReady (activeSliceDigest : TargetSliceDigest) (runtimeHostEpoch : U64) (resourceGeneration : U64)
      (resourceCensusDigest : Digest32)
  | recoveryFailedNotReady (activeSliceDigest : TargetSliceDigest) (terminalRecoveryActionId : Ref16)
      (failureLatchDigest : Digest32) (resourceCensusDigest : Digest32)
  | draining (activeSliceDigest : TargetSliceDigest) (operationId : Ref16) (actionId : Ref16)
      (retiringGeneration : U64) (resourceCensusDigest : Digest32)
  | exactZero (activeSliceDigest : TargetSliceDigest) (censusDigest : Digest32)
  | quarantined (activeSliceDigest : Option TargetSliceDigest) (reasonDigest : Digest32)
      (resourceCensusDigest : Digest32)
  deriving DecidableEq

def LiveMaterialization.isLiveReady : LiveMaterialization → Bool
  | .liveReady _ _ _ _ => true
  | _ => false

def LiveMaterialization.isDraining : LiveMaterialization → Bool
  | .draining _ _ _ _ _ => true
  | _ => false

def LiveMaterialization.isExactZero : LiveMaterialization → Bool
  | .exactZero _ _ => true
  | _ => false

def LiveMaterialization.isStartupInvalidated : LiveMaterialization → Bool
  | .startupInvalidated _ _ _ _ _ _ _ => true
  | _ => false

def LiveMaterialization.isRecovering : LiveMaterialization → Bool
  | .recovering _ _ _ _ => true
  | _ => false

def LiveMaterialization.isEligible : LiveMaterialization → Bool
  | .startupInvalidated _ _ _ .eligibleOneSourceLoop _ _ _ => true
  | _ => false

def LiveMaterialization.isQuarantined : LiveMaterialization → Bool
  | .quarantined _ _ _ => true
  | _ => false

inductive RecoveryPhase
  | recoveryPlannedNoEffects
  | startCallIntent
  | startupInvalidatedNoEffects
  | startupReconcileRequired
  deriving DecidableEq

structure RecoveryAction where
  action : JournalActionRef
  sourceScope : Ref16
  sourceRevision : U64
  sourcePlanDigest : SourcePlanDigest
  sliceProvenance : DurableSliceProvenance
  activeSliceDigest : TargetSliceDigest
  manifestDigest : Digest32
  storePinnedBuildIdentity : StorePinnedBuildIdentity
  compiledBuildInstanceId : Id32
  compiledCompatibilityDigest : Digest32
  signedStartBudgetNanos : U64
  deadlineNanos : U64
  deadlineEvidenceDigest : Digest32
  phase : RecoveryPhase
  rawOutcome : Option RawActionOutcomeLatch
  deriving DecidableEq

/-! ## Resources -/

inductive ResourceKind
  | loopDomain
  | cardInstance
  | resourceSlot
  | externalHandle
  deriving DecidableEq

def ResourceKind.code : ResourceKind → Nat
  | loopDomain => 1
  | cardInstance => 2
  | resourceSlot => 3
  | externalHandle => 4

inductive ResourcePhase
  | reserved
  | owned
  | cleanupPending
  | terminal
  | reservedAtCrashExactZero
  deriving DecidableEq

def ResourcePhase.code : ResourcePhase → Nat
  | reserved => 1
  | owned => 2
  | cleanupPending => 3
  | terminal => 4
  | reservedAtCrashExactZero => 5

def ResourcePhase.isTerminal : ResourcePhase → Bool
  | terminal | reservedAtCrashExactZero => true
  | reserved | owned | cleanupPending => false

structure OwnedResourceRecord where
  kind : ResourceKind
  logicalRef : Ref16
  generation : U64
  runtimeHostEpoch : U64
  phase : ResourcePhase
  actionId : Option Ref16
  osIdentity : Option OpaqueCanonicalValue
  workspaceIdentity : Option OpaqueCanonicalValue
  containmentIdentity : Option OpaqueCanonicalValue
  tombstoneEvidence : Option OpaqueCanonicalValue
  deriving DecidableEq

/-- The source's tuple `(kind, logical_ref, generation)` in its lexicographic order. -/
def OwnedResourceRecord.key (r : OwnedResourceRecord) : Nat ×ₗ Ref16 ×ₗ U64 :=
  toLex (r.kind.code, toLex (r.logicalRef, r.generation))

/-! ## Terminal records -/

inductive TerminalOutcome
  | oneSourceLoopActive
  | emptyDeactivateExactZero
  | startTimedOutBeforeIntentNoEffects
  | stopTimedOutBeforeHeadCommitNoEffects
  | startFailedBeforeHeadCommitExactZero
  | startTimedOutBeforeHeadCommitExactZero
  | stopFailedButExactZero
  | timedOutButExactZero
  | abortedBeforeIntentNoEffects
  | abortedBeforeHeadCommitExactZero
  | supersededAfterIntentExactZero
  | interruptedButNowExactZero
  deriving DecidableEq

def TerminalOutcome.code : TerminalOutcome → Nat
  | oneSourceLoopActive => 1
  | emptyDeactivateExactZero => 2
  | startTimedOutBeforeIntentNoEffects => 3
  | stopTimedOutBeforeHeadCommitNoEffects => 4
  | startFailedBeforeHeadCommitExactZero => 5
  | startTimedOutBeforeHeadCommitExactZero => 6
  | stopFailedButExactZero => 7
  | timedOutButExactZero => 8
  | abortedBeforeIntentNoEffects => 9
  | abortedBeforeHeadCommitExactZero => 10
  | supersededAfterIntentExactZero => 11
  | interruptedButNowExactZero => 12

inductive TerminalLifecycleEffect
  | provenNotStarted
  | mayHaveStarted
  deriving DecidableEq

inductive TerminalHeadDisposition
  | preserved (head : Option TargetSliceDigest)
  | committedIncoming
  deriving DecidableEq

structure TerminalOutcomeSelection where
  primary : TerminalOutcome
  raw : RawActionOutcomeLatch
  selectionClockGeneration : U64
  selectionObservedAtNanos : U64
  lifecycleEffect : TerminalLifecycleEffect
  deriving DecidableEq

structure RecoveryTerminalRecord where
  recovery : RecoveryAction
  selection : TerminalOutcomeSelection
  resourceCensusDigest : Digest32
  failureLatchDigest : Option Digest32
  completionRuntimeHostEpoch : U64
  completionSnapshotSequence : U64
  deriving DecidableEq

structure TerminalOperationRecord where
  sourceScope : Ref16
  operationId : Ref16
  requestDigest : Digest32
  requestNonceIdentity : Digest32
  sliceProvenance : DurableSliceProvenance
  sourceRevision : U64
  sourcePlanDigest : SourcePlanDigest
  targetSliceDigest : TargetSliceDigest
  temporalConstraintId : Ref16
  temporalLineageDigest : Digest32
  incomingKind : DesiredHeadKind
  completionPredecessorPhase : PreparedPhase
  installedClockGeneration : U64
  installedDeadlineNanos : U64
  action : Option JournalActionRef
  predecessorRawOutcome : Option RawActionOutcomeLatch
  selection : TerminalOutcomeSelection
  headDisposition : TerminalHeadDisposition
  resourceCensusDigest : Digest32
  resultDigest : Digest32
  canonicalResponse : OpaqueCanonicalValue
  completionRuntimeHostEpoch : U64
  completionSnapshotSequence : U64
  deriving DecidableEq

def TerminalOperationRecord.key (t : TerminalOperationRecord) : Ref16 ×ₗ Ref16 := toLex (t.sourceScope, t.operationId)

inductive RuntimeJournalTransaction
  | initialized
  | startupInvalidation
  | tenureOnly
  | fullAdmission
  | preparedProgress
  | resourceProgress
  | normalStartTerminal
  | emptyHeadRetire
  | exactZeroTerminal
  | recoveryPlan
  | recoveryProgress
  | recoveryPublish
  | operationTerminalNoEffects
  | quarantine
  | recoveryAbortNoEffects
  deriving DecidableEq

structure RuntimeJournalState where
  lastTransaction : RuntimeJournalTransaction
  host : HostClockAdmissionState
  writerFence : Option WriterFenceRecord
  sourceRevisionHighWater : Option SourceRevisionHighWater
  prepared : Option PreparedOperation
  activeDesired : Option ActiveDesiredHead
  liveMaterialization : LiveMaterialization
  recoveryAction : Option RecoveryAction
  recoveryTerminals : List RecoveryTerminalRecord
  ownedResources : List OwnedResourceRecord
  terminalOperations : List TerminalOperationRecord
  deriving DecidableEq

end Journal
end ParaEgox
