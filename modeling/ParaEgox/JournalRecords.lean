import ParaEgox.JournalEncode

/-!
# JournalRecords — the checks of one durable record

What the state validator asks of a single record: an action, a ledger entry, a resource with its evidence, the prepared
operation, the desired head, a recovery action and a recovery terminal.
-/
namespace ParaEgox
namespace Journal

open Check

def DurableReferenceChannelBinding.toContract (sha256 : Sha256) (c : DurableReferenceChannelBinding) :
    Res ReferenceChannelBinding :=
  mapErr (ReferenceChannelBinding.tryNew sha256 c.target c.runtimePeer c.localEndpointIdentityDigest
    c.peerCredentialsDigest) .invalidStateInvariant

def DurableReferenceChannelBinding.tryFromContract (sha256 : Sha256) (channel : ReferenceChannelBinding) :
    Res DurableReferenceChannelBinding := do
  let durable : DurableReferenceChannelBinding :=
    ⟨channel.target, channel.runtimePeer, channel.localEndpointIdentityDigest, channel.peerCredentialsDigest⟩
  let contract ← durable.toContract sha256
  rejectIf (contract ≠ channel) .invalidStateInvariant
  pure durable

def validateAction (action : JournalActionRef) (host : HostClockAdmissionState) : Res Unit := do
  ensureNonzeroRef action.actionId
  rejectIf (action.runtimeHostEpoch = 0
    ∨ host.runtimeHostEpochHighWater < action.runtimeHostEpoch
    ∨ action.clockGeneration = 0
    ∨ host.clockGenerationHighWater < action.clockGeneration
    ∨ action.domainGeneration = 0
    ∨ action.instanceGeneration = 0
    ∨ action.resourceGeneration = 0) .invalidStateInvariant

def notBelow {κ : Type} [LinearOrder κ] (previous : Option κ) (key : κ) : Bool := previous.any fun p => decide (key ≤ p)

def replayStep (previous : Option Digest32) (record : ReplayLedgerRecord) : Res (Option Digest32) := do
  ensureNonzeroDigest record.identity
  ensureNonzeroDigest record.valueDigest
  rejectIf (notBelow previous record.identity) .nonCanonicalOrdering
  pure (some record.identity)

def validateReplayRecords (records : List ReplayLedgerRecord) (maximum : Nat) : Res Unit := do
  rejectIf (maximum < records.length) .capacityExceeded
  let _ ← scan replayStep none records

def temporalStep (clockGenerationHighWater : U64) (previous : Option Ref16) (record : TemporalLineageRecord) :
    Res (Option Ref16) := do
  ensureNonzeroRef record.constraintId
  ensureNonzeroRef record.sourceScope
  ensureNonzeroDigest record.targetFingerprint
  rejectIf (record.originalBudgetNanos = 0
    ∨ record.remainingBudgetNanos = 0
    ∨ record.originalBudgetNanos < record.remainingBudgetNanos
    ∨ record.clockGeneration = 0
    ∨ clockGenerationHighWater < record.clockGeneration
    ∨ record.deadlineNanos = 0) .invalidStateInvariant
  ensureNonzeroDigest record.lineageDigest
  rejectIf (notBelow previous record.constraintId) .nonCanonicalOrdering
  pure (some record.constraintId)

def validateTemporalRecords (records : List TemporalLineageRecord) (clockGenerationHighWater : U64) : Res Unit := do
  rejectIf (maxRuntimeTemporalLineages < records.length) .capacityExceeded
  let _ ← scan (temporalStep clockGenerationHighWater) none records

def phaseEvidenceCheck (r : OwnedResourceRecord) : Res Unit :=
  match r.phase with
  | .reserved =>
    rejectIf (r.osIdentity.isSome ∨ r.workspaceIdentity.isSome ∨ r.containmentIdentity.isSome
      ∨ r.tombstoneEvidence.isSome) .invalidStateInvariant
  | .owned | .cleanupPending =>
    rejectIf (r.osIdentity.isNone ∨ r.workspaceIdentity.isNone ∨ r.containmentIdentity.isNone
      ∨ r.tombstoneEvidence.isSome) .invalidStateInvariant
  | .terminal =>
    rejectIf (r.osIdentity.isNone ∨ r.workspaceIdentity.isNone ∨ r.containmentIdentity.isNone
      ∨ r.tombstoneEvidence.isNone) .invalidStateInvariant
  | .reservedAtCrashExactZero =>
    rejectIf (r.osIdentity.isSome ∨ r.workspaceIdentity.isSome ∨ r.containmentIdentity.isSome
      ∨ r.tombstoneEvidence.isNone) .invalidStateInvariant

def validateResourceEvidence (r : OwnedResourceRecord) : Res Unit := do
  forEach (r.osIdentity.toList ++ r.workspaceIdentity.toList ++ r.containmentIdentity.toList
    ++ r.tombstoneEvidence.toList) (·.validateBound maxRuntimeResourceEvidenceBytes)
  phaseEvidenceCheck r

def RetiringLiveFacts.validate (sha256 : Sha256) (f : RetiringLiveFacts) (pinnedManifestDigest : Digest32) :
    Res Unit := do
  f.oldSlice.validateBound maxReferenceRuntimePlanSliceBytes
  f.oldSliceProvenance.validate sha256
  ensureNonzeroDigest f.oldSourcePlanDigest
  ensureNonzeroDigest f.oldManifestDigest
  ensureNonzeroDigest f.oldResourceCensusDigest
  rejectIf (f.oldSliceProvenance.sourcePlanDigest ≠ f.oldSourcePlanDigest
    ∨ f.oldSliceProvenance.targetSliceDigest ≠ f.oldSlice.digest
    ∨ f.oldManifestDigest ≠ pinnedManifestDigest
    ∨ f.signedStartBudgetNanos = 0
    ∨ f.signedDrainBudgetNanos = 0
    ∨ f.signedCleanupBudgetNanos = 0
    ∨ f.oldRuntimeHostEpoch = 0
    ∨ f.oldClockGeneration = 0
    ∨ f.oldResourceGeneration = 0) .invalidStateInvariant

def PreparedPhase.mayRetire : PreparedPhase → Bool
  | headCommittedRetiringOld | supersededReconcileRequired | startupReconcileRequired => true
  | _ => false

/-- The `(phase, retiring)` match of `PreparedOperation::validate`. -/
def PreparedOperation.validateRetiring (sha256 : Sha256) (p : PreparedOperation) (pinnedManifestDigest : Digest32) :
    Res Unit :=
  match p.retiring with
  | some facts =>
    if p.phase.mayRetire ∧ p.action.map (·.kind) = some .drainToEmpty then do
      facts.validate sha256 pinnedManifestDigest
      rejectIf (facts.oldSliceProvenance.sourceScope ≠ p.sourceScope
        ∨ facts.oldSliceProvenance.target ≠ p.sliceProvenance.target
        ∨ p.sourceRevision ≤ facts.oldSliceProvenance.sourceRevision
        ∨ p.expectedActive ≠ .exact facts.oldSliceProvenance.targetSliceDigest) .danglingReference
    else .error .invalidStateInvariant
  | none => rejectIf (p.phase = .headCommittedRetiringOld) .invalidStateInvariant

/-- The response channel is a contract channel of the slice's target; payloads before version 5 have none. -/
def PreparedOperation.validateResponseChannel (sha256 : Sha256) (p : PreparedOperation)
    (requireResponseChannel : Bool) : Res Unit :=
  if requireResponseChannel then do
    let responseChannel ← p.responseChannel.toContract sha256
    rejectIf (responseChannel.target ≠ p.sliceProvenance.target) .danglingReference
  else .ok ()

def ExpectedActiveCas.validate : ExpectedActiveCas → Res Unit
  | .exact digest => ensureNonzeroDigest digest
  | .none => .ok ()

def PreparedOperation.validateAdmitted (sha256 : Sha256) (p : PreparedOperation) (pinnedManifestDigest : Digest32)
    (requestNonces : List ReplayLedgerRecord) (temporalLineages : List TemporalLineageRecord)
    (requireResponseChannel : Bool) : Res Unit := do
  p.request.validateBound maxOpaqueRequestOrSliceBytes
  p.sliceProvenance.validate sha256
  ensureNonzeroDigest p.requestNonceIdentity
  ensureNonzeroDigest p.sourcePlanDigest
  ensureNonzeroDigest p.incomingSliceDigest
  ensureNonzeroDigest p.manifestDigest
  rejectIf (p.sliceProvenance.sourceScope ≠ p.sourceScope
    ∨ p.sliceProvenance.sourceRevision ≠ p.sourceRevision
    ∨ p.sliceProvenance.sourcePlanDigest ≠ p.sourcePlanDigest
    ∨ p.sliceProvenance.targetSliceDigest ≠ p.incomingSliceDigest) .danglingReference
  p.validateResponseChannel sha256 requireResponseChannel
  ensureNonzeroRef p.temporalConstraintId
  ensureNonzeroDigest p.temporalLineageDigest
  rejectIf (p.installedClockGeneration = 0 ∨ p.installedDeadlineNanos = 0) .invalidStateInvariant
  rejectIf (p.manifestDigest ≠ pinnedManifestDigest) .danglingReference
  rejectIf ((¬ ∃ record ∈ requestNonces,
      record.identity = p.requestNonceIdentity ∧ record.valueDigest = p.request.digest)
    ∨ ¬ ∃ record ∈ temporalLineages,
      record.constraintId = p.temporalConstraintId
        ∧ record.sourceScope = p.sourceScope
        ∧ record.clockGeneration = p.installedClockGeneration
        ∧ record.deadlineNanos = p.installedDeadlineNanos
        ∧ record.lineageDigest = p.temporalLineageDigest) .danglingReference
  p.expectedActive.validate

/-- A deadline sample of an action is of its own clock generation, and a timeout is not early. -/
def validateLatchSample (raw : RawActionOutcomeLatch) (clockGeneration deadlineNanos : U64) : Res Unit := do
  raw.validate
  rejectIf (raw.deadline ≠ .notObserved ∧ raw.observedClockGeneration ≠ clockGeneration) .danglingReference
  rejectIf (raw.deadline = .timedOut ∧ raw.observedAtNanos < deadlineNanos) .invalidStateInvariant

def PreparedOperation.validateLatch (p : PreparedOperation) : Res Unit := do
  whenSome p.rawOutcome fun raw => do
    rejectIf (p.action = none) .invalidStateInvariant
    validateLatchSample raw p.installedClockGeneration p.installedDeadlineNanos
  rejectIf (p.rawOutcome.any (fun raw => (raw.hostInterrupted || raw.higherTenureTakeover)
        && !(p.phase = .supersededReconcileRequired || p.phase = .startupReconcileRequired))
    ∨ (p.phase = .supersededReconcileRequired ∧ ¬ p.rawOutcome.any (·.higherTenureTakeover))
    ∨ (p.phase = .startupReconcileRequired ∧ ¬ p.rawOutcome.any (·.hostInterrupted))) .invalidStateInvariant

def PreparedOperation.validate (sha256 : Sha256) (p : PreparedOperation) (pinnedManifestDigest : Digest32)
    (requestNonces : List ReplayLedgerRecord) (temporalLineages : List TemporalLineageRecord)
    (requireResponseChannel : Bool) : Res Unit := do
  p.validateAdmitted sha256 pinnedManifestDigest requestNonces temporalLineages requireResponseChannel
  p.validateRetiring sha256 pinnedManifestDigest
  p.validateLatch

def ActiveDesiredHead.validate (sha256 : Sha256) (a : ActiveDesiredHead) (pinnedManifestDigest : Digest32) :
    Res Unit := do
  a.slice.validateBound maxReferenceRuntimePlanSliceBytes
  a.sliceProvenance.validate sha256
  ensureNonzeroDigest a.sourcePlanDigest
  ensureNonzeroDigest a.manifestDigest
  rejectIf (a.sliceProvenance.sourceScope ≠ a.sourceScope
    ∨ a.sliceProvenance.sourceRevision ≠ a.sourceRevision
    ∨ a.sliceProvenance.sourcePlanDigest ≠ a.sourcePlanDigest
    ∨ a.sliceProvenance.targetSliceDigest ≠ a.slice.digest) .danglingReference
  rejectIf (a.manifestDigest ≠ pinnedManifestDigest) .danglingReference
  whenSome a.committingResultDigest ensureNonzeroDigest

def RecoveryPhase.invalidated : RecoveryPhase → Bool
  | startupInvalidatedNoEffects | startupReconcileRequired => true
  | recoveryPlannedNoEffects | startCallIntent => false

def RecoveryPhase.noEffects : RecoveryPhase → Bool
  | recoveryPlannedNoEffects | startupInvalidatedNoEffects => true
  | startCallIntent | startupReconcileRequired => false

/-- The pinned identity a recovery was planned with, checked against the host it runs on. -/
def RecoveryAction.validatePlanned (sha256 : Sha256) (r : RecoveryAction) (host : HostClockAdmissionState) :
    Res Unit := do
  r.sliceProvenance.validate sha256
  ensureNonzeroRef r.sourceScope
  ensureNonzeroDigest r.sourcePlanDigest
  ensureNonzeroDigest r.activeSliceDigest
  ensureNonzeroDigest r.manifestDigest
  r.storePinnedBuildIdentity.validate
  ensureNonzeroDigest r.compiledCompatibilityDigest
  ensureNonzeroDigest r.deadlineEvidenceDigest
  rejectIf (r.sliceProvenance.sourceScope ≠ r.sourceScope
    ∨ r.sliceProvenance.sourceRevision ≠ r.sourceRevision
    ∨ r.sliceProvenance.sourcePlanDigest ≠ r.sourcePlanDigest
    ∨ r.sliceProvenance.targetSliceDigest ≠ r.activeSliceDigest) .danglingReference
  rejectIf (r.compiledBuildInstanceId = 0
    ∨ r.sourceRevision = 0
    ∨ r.storePinnedBuildIdentity ≠ host.storePinnedBuildIdentity
    ∨ r.compiledBuildInstanceId ≠ host.compiledBuildInstanceId
    ∨ r.compiledCompatibilityDigest ≠ host.compiledCompatibilityDigest
    ∨ r.manifestDigest ≠ host.singletonManifest.digest
    ∨ r.signedStartBudgetNanos = 0
    ∨ r.deadlineNanos = 0) .invalidStateInvariant

def RecoveryAction.validateLatch (r : RecoveryAction) (host : HostClockAdmissionState) : Res Unit := do
  rejectIf (r.phase.noEffects ∧ r.rawOutcome.isSome) .invalidStateInvariant
  whenSome r.rawOutcome fun raw => validateLatchSample raw r.action.clockGeneration r.deadlineNanos
  rejectIf (r.rawOutcome.any (·.hostInterrupted) ≠ decide (r.phase = .startupReconcileRequired)
    ∨ r.rawOutcome.any (fun raw => raw.higherTenureTakeover
      && !(r.phase = .startCallIntent || r.phase = .startupReconcileRequired))) .invalidStateInvariant
  rejectIf (r.rawOutcome.any (·.hostInterrupted)
    ∧ (host.runtimeHostEpochHighWater ≤ r.action.runtimeHostEpoch
      ∨ host.clockGenerationHighWater ≤ r.action.clockGeneration)) .invalidStateInvariant

def RecoveryAction.validateIntrinsic (sha256 : Sha256) (r : RecoveryAction) (host : HostClockAdmissionState)
    (requireCurrentHost : Bool) : Res Unit := do
  rejectIf (r.action.kind ≠ .restartReassembly) .invalidStateInvariant
  validateAction r.action host
  r.validatePlanned sha256 host
  rejectIf (requireCurrentHost ∧ ¬ r.phase.invalidated
    ∧ (r.action.clockGeneration ≠ host.clockGenerationHighWater
      ∨ r.action.runtimeHostEpoch ≠ host.runtimeHostEpochHighWater)) .invalidStateInvariant
  r.validateLatch host

def RecoveryAction.validate (sha256 : Sha256) (r : RecoveryAction) (host : HostClockAdmissionState)
    (active : Option ActiveDesiredHead) : Res Unit := do
  r.validateIntrinsic sha256 host true
  let active ← okOr active .danglingReference
  rejectIf (active.kind ≠ .oneSourceLoop
    ∨ active.sourceScope ≠ r.sourceScope
    ∨ active.sourceRevision ≠ r.sourceRevision
    ∨ active.sourcePlanDigest ≠ r.sourcePlanDigest
    ∨ active.sliceProvenance ≠ r.sliceProvenance
    ∨ active.slice.digest ≠ r.activeSliceDigest
    ∨ active.manifestDigest ≠ r.manifestDigest) .danglingReference

def recoveryPredecessorPhase : RecoveryPhase → PreparedPhase
  | .recoveryPlannedNoEffects => .preparedNoEffects
  | .startCallIntent => .firstActionIntent
  | .startupInvalidatedNoEffects => .startupExpiredNoEffects
  | .startupReconcileRequired => .startupReconcileRequired

def RecoveryAction.completionIdentityIsInvalid (r : RecoveryAction) (host : HostClockAdmissionState) : Bool :=
  r.compiledBuildInstanceId = 0
    || r.storePinnedBuildIdentity ≠ host.storePinnedBuildIdentity
    || r.compiledBuildInstanceId ≠ host.compiledBuildInstanceId
    || r.compiledCompatibilityDigest ≠ host.compiledCompatibilityDigest
    || r.manifestDigest ≠ host.singletonManifest.digest
    || r.signedStartBudgetNanos = 0
    || r.deadlineNanos = 0
    || r.deadlineEvidenceDigest = 0
    || r.activeSliceDigest = 0
    || r.sourcePlanDigest = 0
    || r.sourceScope = 0

/-- A failure digest is latched exactly when the recovery neither succeeded nor may simply be retried. -/
def RecoveryTerminalRecord.validateFailureLatch (sha256 : Sha256) (t : RecoveryTerminalRecord) : Res Unit :=
  if t.selection.primary = .oneSourceLoopActive
      ∨ (t.selection.primary = .abortedBeforeIntentNoEffects ∧ t.recovery.phase = .startupInvalidatedNoEffects) then
    rejectIf (t.failureLatchDigest.isSome) .invalidStateInvariant
  else do
    let failure ← recoveryFailureEvidenceDigest sha256 t.recovery t.selection t.resourceCensusDigest
    rejectIf (t.failureLatchDigest ≠ some failure) .danglingReference

def RecoveryTerminalRecord.validate (sha256 : Sha256) (t : RecoveryTerminalRecord) (host : HostClockAdmissionState)
    (terminalOperations : List TerminalOperationRecord) (snapshotSequence : U64) : Res Unit := do
  t.recovery.validateIntrinsic sha256 host false
  rejectIf (t.recovery.completionIdentityIsInvalid host
    ∨ t.completionRuntimeHostEpoch = 0
    ∨ host.runtimeHostEpochHighWater < t.completionRuntimeHostEpoch
    ∨ t.completionRuntimeHostEpoch < t.recovery.action.runtimeHostEpoch
    ∨ t.completionSnapshotSequence = 0
    ∨ snapshotSequence < t.completionSnapshotSequence
    ∨ host.clockGenerationHighWater < t.selection.selectionClockGeneration) .invalidStateInvariant
  ensureNonzeroDigest t.resourceCensusDigest
  whenSome t.failureLatchDigest ensureNonzeroDigest
  t.selection.validate .oneSourceLoop (recoveryPredecessorPhase t.recovery.phase) t.recovery.action.clockGeneration
    t.recovery.deadlineNanos
  rejectIf (¬ recoveryTerminalRawLineageIsValid t) .invalidStateInvariant
  t.validateFailureLatch sha256
  rejectIf (¬ ∃ terminal ∈ terminalOperations,
      terminal.sourceScope = t.recovery.sourceScope
        ∧ terminal.sourceRevision = t.recovery.sourceRevision
        ∧ terminal.sourcePlanDigest = t.recovery.sourcePlanDigest
        ∧ terminal.sliceProvenance = t.recovery.sliceProvenance
        ∧ terminal.targetSliceDigest = t.recovery.activeSliceDigest
        ∧ terminal.incomingKind = .oneSourceLoop
        ∧ terminal.headDisposition = .committedIncoming) .danglingReference

end Journal
end ParaEgox
