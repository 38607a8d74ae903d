import ParaEgox.JournalSuccessor

/-!
# JournalTransition — one validator for each transaction

`validate_successor` dispatches on the candidate's transaction; every validator ends by comparing the candidate with the
one state the transaction allows.
-/
namespace ParaEgox
namespace Journal

open Check

namespace RuntimeJournalState

def refuse (bad : Prop) [Decidable bad] : Res Unit := rejectIf bad .nonMonotonicTransition

def demand {α : Type} (x : Option α) : Res α := okOr x .nonMonotonicTransition

@[simp] theorem refuse_ok (bad : Prop) [Decidable bad] (u : Unit) : refuse bad = .ok u ↔ ¬ bad := by simp [refuse]

@[simp] theorem demand_ok {α : Type} {x : Option α} {a : α} : demand x = .ok a ↔ x = some a := by simp [demand]

def validatePinnedHostTruth (self previous : RuntimeJournalState) : Res Unit :=
  refuse (self.host.clockDomain ≠ previous.host.clockDomain
    ∨ self.host.buildDescriptor ≠ previous.host.buildDescriptor
    ∨ self.host.singletonManifest ≠ previous.host.singletonManifest
    ∨ self.host.storePinnedBuildIdentity ≠ previous.host.storePinnedBuildIdentity
    ∨ self.host.compiledBuildInstanceId ≠ previous.host.compiledBuildInstanceId
    ∨ self.host.compiledCompatibilityDigest ≠ previous.host.compiledCompatibilityDigest
    ∨ self.host.admissionPolicyFingerprint ≠ previous.host.admissionPolicyFingerprint
    ∨ self.host.channelPolicyFingerprint ≠ previous.host.channelPolicyFingerprint
    ∨ self.host.controllerKeyFingerprint ≠ previous.host.controllerKeyFingerprint)

def requireSameHostGeneration (self previous : RuntimeJournalState) : Res Unit :=
  refuse (self.host.runtimeHostEpochHighWater ≠ previous.host.runtimeHostEpochHighWater
    ∨ self.host.clockGenerationHighWater ≠ previous.host.clockGenerationHighWater)

/-- The `StartupInvalidated` facts the restart must record. -/
def validateStartupInvalidationLive (sha256 : Sha256) (self previous : RuntimeJournalState) : Res Unit :=
  match self.liveMaterialization with
  | .startupInvalidated head epoch generation eligibility invalidation failure census => do
    refuse (epoch ≠ previous.host.runtimeHostEpochHighWater
      ∨ generation ≠ previous.host.clockGenerationHighWater
      ∨ head ≠ previous.activeHead)
    let expectedCensus ← computeResourceCensusDigest sha256 previous.ownedResources
    refuse (census ≠ expectedCensus)
    let expectedInvalidation ← startupInvalidationEvidenceDigest sha256 previous self
    refuse (invalidation ≠ expectedInvalidation)
    let expected ← startupEligibility sha256 previous
    refuse (eligibility ≠ expected.1
      ∨ failure ≠ expected.2
      ∨ (∃ r ∈ self.ownedResources, r.runtimeHostEpoch = self.host.runtimeHostEpochHighWater)
      ∨ self.currentAction.any (·.runtimeHostEpoch = self.host.runtimeHostEpochHighWater))
  | _ => .error .nonMonotonicTransition

/-- **A restart** moves the epoch by one, invalidates what was live and latches what was open. -/
def validateStartupInvalidationSuccessor (sha256 : Sha256) (self previous : RuntimeJournalState) : Res Unit := do
  refuse (¬ (previous.host.runtimeHostEpochHighWater + 1 ≤ u64Max
      ∧ self.host.runtimeHostEpochHighWater = previous.host.runtimeHostEpochHighWater + 1)
    ∨ ¬ (previous.host.clockGenerationHighWater + 1 ≤ u64Max
      ∧ self.host.clockGenerationHighWater = previous.host.clockGenerationHighWater + 1))
  let expectedPrepared ← startupInvalidatedPrepared previous.prepared
  let expectedRecovery ← startupInvalidatedRecovery previous.recoveryAction
  refuse (self ≠ { previous with
    lastTransaction := self.lastTransaction
    host := { previous.host with
      runtimeHostEpochHighWater := self.host.runtimeHostEpochHighWater
      clockGenerationHighWater := self.host.clockGenerationHighWater }
    prepared := expectedPrepared
    recoveryAction := expectedRecovery
    liveMaterialization := self.liveMaterialization })
  self.validateStartupInvalidationLive sha256 previous

def validateTenureOnlySuccessor (self previous : RuntimeJournalState) : Res Unit := do
  self.requireSameHostGeneration previous
  refuse (self ≠ { previous with
      lastTransaction := self.lastTransaction
      host := { previous.host with tenureNonces := self.host.tenureNonces }
      writerFence := self.writerFence
      prepared := self.prepared
      recoveryAction := self.recoveryAction }
    ∨ self.host.tenureNonces.length ≠ previous.host.tenureNonces.length + 1
    ∨ ¬ Keyed.recordsPreserved ReplayLedgerRecord.identity self.host.tenureNonces previous.host.tenureNonces)
  let newFence ← demand self.writerFence
  refuse (previous.writerFence.any (fun old => newFence.sourceScope ≠ old.sourceScope || newFence.epoch ≤ old.epoch)
    ∨ (∃ record ∈ previous.host.tenureNonces, record.identity = newFence.tenureNonceIdentity)
    ∨ ¬ ∃ record ∈ self.host.tenureNonces,
      record.identity = newFence.tenureNonceIdentity ∧ record.valueDigest = newFence.proofEnvelopeDigest)
  refuse (tenureSuccessorPrepared previous.prepared ≠ self.prepared)
  refuse (tenureSuccessorRecovery previous.recoveryAction ≠ self.recoveryAction)

/-- **An admission** adds one prepared operation with its nonce and leaves every other fact alone. -/
def validateFullAdmissionSuccessor (self previous : RuntimeJournalState) : Res Unit := do
  self.requireSameHostGeneration previous
  refuse (previous.prepared.isSome ∨ previous.currentAction.isSome)
  let prepared ← demand self.prepared
  refuse (prepared.phase ≠ .preparedNoEffects
    ∨ prepared.action.isSome
    ∨ prepared.retiring.isSome
    ∨ prepared.rawOutcome.isSome
    ∨ self.host.requestNonces.length ≠ previous.host.requestNonces.length + 1
    ∨ self.host.temporalLineages.length ≠ previous.host.temporalLineages.length + 1
    ∨ ¬ Keyed.recordsPreserved ReplayLedgerRecord.identity self.host.requestNonces previous.host.requestNonces
    ∨ ¬ Keyed.recordsPreserved TemporalLineageRecord.constraintId self.host.temporalLineages
      previous.host.temporalLineages)
  let highWater ← demand self.sourceRevisionHighWater
  refuse (highWater.sourceScope ≠ prepared.sourceScope
    ∨ highWater.revision ≠ prepared.sourceRevision
    ∨ previous.sourceRevisionHighWater.any (fun old => highWater.revision ≤ old.revision)
    ∨ ¬ expectedActiveMatches prepared.expectedActive previous.activeDesired
    ∨ ¬ fullAdmissionShapeIsAllowed prepared.incomingKind previous)
  refuse (self ≠ { previous with
    lastTransaction := self.lastTransaction
    host := { previous.host with
      requestNonces := self.host.requestNonces
      temporalLineages := self.host.temporalLineages }
    sourceRevisionHighWater := self.sourceRevisionHighWater
    prepared := self.prepared
    liveMaterialization := fullAdmissionLiveMaterialization previous })

/-- The one phase change `PreparedProgress` makes: the first action intent of a one-source start. -/
def isFirstActionIntent (self : RuntimeJournalState) (current old : PreparedOperation) : Bool :=
  old.phase = .preparedNoEffects
    && current.phase = .firstActionIntent
    && current.incomingKind = .oneSourceLoop
    && old.action.isNone
    && current.rawOutcome.isNone
    && current.action.any fun action => action.kind = .startOneSourceLoop
      && action.runtimeHostEpoch = self.host.runtimeHostEpochHighWater
      && action.clockGeneration = current.installedClockGeneration

def progressMoved (self : RuntimeJournalState) (current old : PreparedOperation) : Res Unit :=
  if current.phase = old.phase then refuse (current.action ≠ old.action ∨ current.retiring ≠ old.retiring)
  else refuse (¬ self.isFirstActionIntent current old)

/-- **Progress of the prepared operation**: its phase and action move, its identity never does. -/
def validatePreparedProgressSuccessor (self previous : RuntimeJournalState) : Res Unit := do
  self.requireSameHostGeneration previous
  let current ← demand self.prepared
  let old ← demand previous.prepared
  validatePreparedLatchSuccessor current old
  refuse (¬ sameOwnerEventFacts current.rawOutcome old.rawOutcome
    ∨ current.operationId ≠ old.operationId
    ∨ (current.phase = .headCommittedRetiringOld ∧ old.phase ≠ .headCommittedRetiringOld))
  self.progressMoved current old
  refuse (self ≠ { previous with lastTransaction := self.lastTransaction, prepared := self.prepared })

/-- Resources move forward under the action in progress. -/
def validateResourceProgressSuccessor (self previous : RuntimeJournalState) : Res Unit := do
  self.requireSameHostGeneration previous
  validateResourceSuccessor self.ownedResources previous.ownedResources
  refuse (¬ liveIdentityPreservedExceptCensus self.liveMaterialization previous.liveMaterialization)
  forEach self.ownedResources fun r =>
    refuse (Keyed.find OwnedResourceRecord.key r.key previous.ownedResources = none
      ∧ (¬ (r.phase = .reserved ∨ r.phase = .owned) ∨ r.actionId ≠ self.currentAction.map (·.actionId)))
  refuse (self ≠ { previous with
    lastTransaction := self.lastTransaction
    ownedResources := self.ownedResources
    liveMaterialization := self.liveMaterialization })

def headOf (prepared : PreparedOperation) (active : ActiveDesiredHead) : Bool :=
  active.sourceScope = prepared.sourceScope
    && active.sourceRevision = prepared.sourceRevision
    && active.sliceProvenance = prepared.sliceProvenance
    && active.slice.digest = prepared.incomingSliceDigest
    && active.sourcePlanDigest = prepared.sourcePlanDigest
    && active.operationId = prepared.operationId

def validateStartPublished (self previous : RuntimeJournalState) (prepared : PreparedOperation)
    (action : JournalActionRef) (terminal : TerminalOperationRecord) : Res Unit := do
  let active ← demand self.activeDesired
  refuse (prepared.phase ≠ .firstActionIntent
    ∨ active.kind ≠ .oneSourceLoop
    ∨ ¬ headOf prepared active
    ∨ active.manifestDigest ≠ prepared.manifestDigest
    ∨ active.committingResultDigest ≠ some terminal.resultDigest
    ∨ terminal.headDisposition ≠ .committedIncoming
    ∨ ¬ self.liveMaterialization.isLiveReady
    ∨ ¬ resourcesPublishLiveGeneration self.ownedResources previous.ownedResources action)

/-- The live state an operation that closed with exact zero leaves over the preserved head. -/
def exactZeroLive (self : RuntimeJournalState) (census : Digest32) : Bool :=
  match self.activeDesired, self.liveMaterialization with
  | none, .none => true
  | some active, .exactZero head recorded =>
    active.kind = .emptyDeactivate && active.slice.digest = head && recorded = census
  | _, _ => false

def validateStartClosed (self previous : RuntimeJournalState) (action : JournalActionRef)
    (terminal : TerminalOperationRecord) (census : Digest32) : Res Unit := do
  refuse (self.activeDesired ≠ previous.activeDesired
    ∨ terminal.headDisposition ≠ preservedHeadDisposition previous
    ∨ (∃ r ∈ self.ownedResources, ¬ r.phase.isTerminal)
    ∨ ¬ resourcesReachExactZero self.ownedResources previous.ownedResources (some action))
  refuse (¬ self.exactZeroLive census)

def validateStartOutcome (self previous : RuntimeJournalState) (prepared : PreparedOperation)
    (action : JournalActionRef) (terminal : TerminalOperationRecord) (census : Digest32) : Res Unit :=
  match terminal.selection.primary with
  | .oneSourceLoopActive => self.validateStartPublished previous prepared action terminal
  | .startFailedBeforeHeadCommitExactZero
  | .startTimedOutBeforeHeadCommitExactZero
  | .abortedBeforeHeadCommitExactZero
  | .supersededAfterIntentExactZero => self.validateStartClosed previous action terminal census
  | _ => .error .nonMonotonicTransition

/-- **The terminal of a start** commits its head, or closes with exact zero over the preserved one. -/
def validateNormalStartTerminalSuccessor (sha256 : Sha256) (self previous : RuntimeJournalState) : Res Unit := do
  self.requireSameHostGeneration previous
  let prepared ← demand previous.prepared
  let action ← demand prepared.action
  let terminal ← demand (appendedTerminalForPrepared self previous prepared)
  let census ← computeResourceCensusDigest sha256 self.ownedResources
  refuse (prepared.incomingKind ≠ .oneSourceLoop
    ∨ ¬ (prepared.phase = .firstActionIntent ∨ prepared.phase = .supersededReconcileRequired
      ∨ prepared.phase = .startupReconcileRequired)
    ∨ action.kind ≠ .startOneSourceLoop
    ∨ self.prepared.isSome
    ∨ terminal.resourceCensusDigest ≠ census
    ∨ ¬ terminalRawIsValidSuccessor terminal prepared)
  self.validateStartOutcome previous prepared action terminal census
  refuse (self ≠ { previous with
    lastTransaction := self.lastTransaction
    prepared := none
    activeDesired := self.activeDesired
    liveMaterialization := self.liveMaterialization
    ownedResources := self.ownedResources
    terminalOperations := self.terminalOperations })

def retiringMatches (retiring : RetiringLiveFacts) (oldActive : ActiveDesiredHead) (action : JournalActionRef)
    (runtimeHostEpoch resourceGeneration : U64) (census : Digest32) : Bool :=
  retiring.oldSlice = oldActive.slice
    && retiring.oldSliceProvenance = oldActive.sliceProvenance
    && retiring.oldSourcePlanDigest = oldActive.sourcePlanDigest
    && retiring.oldManifestDigest = oldActive.manifestDigest
    && retiring.oldRuntimeHostEpoch = runtimeHostEpoch
    && retiring.oldClockGeneration = action.clockGeneration
    && retiring.oldResourceGeneration = resourceGeneration
    && retiring.oldResourceCensusDigest = census

def validateHeadFirstRetire (self previous : RuntimeJournalState) (oldPrepared currentPrepared : PreparedOperation)
    (oldActive currentActive : ActiveDesiredHead) : Res Unit :=
  match previous.liveMaterialization with
  | .liveReady _ runtimeHostEpoch resourceGeneration census => do
    let action ← demand currentPrepared.action
    let retiring ← demand currentPrepared.retiring
    refuse (oldPrepared.incomingKind ≠ .emptyDeactivate
      ∨ oldPrepared.phase ≠ .preparedNoEffects
      ∨ currentPrepared.phase ≠ .headCommittedRetiringOld
      ∨ ¬ preparedIdentityEqual currentPrepared oldPrepared
      ∨ action.kind ≠ .drainToEmpty
      ∨ action.runtimeHostEpoch ≠ runtimeHostEpoch
      ∨ action.resourceGeneration ≠ resourceGeneration
      ∨ oldActive.kind ≠ .oneSourceLoop
      ∨ ¬ retiringMatches retiring oldActive action runtimeHostEpoch resourceGeneration census
      ∨ currentActive.kind ≠ .emptyDeactivate
      ∨ ¬ headOf currentPrepared currentActive
      ∨ currentActive.committingResultDigest.isSome
      ∨ currentPrepared.rawOutcome.isSome
      ∨ ¬ self.liveMaterialization.isDraining
      ∨ ¬ resourcesBeginRetire self.ownedResources previous.ownedResources action)
  | _ => .error .nonMonotonicTransition

/-- **A head-first retire** commits the empty head before its resources are drained. -/
def validateEmptyHeadRetireSuccessor (self previous : RuntimeJournalState) : Res Unit := do
  self.requireSameHostGeneration previous
  let oldPrepared ← demand previous.prepared
  let currentPrepared ← demand self.prepared
  let oldActive ← demand previous.activeDesired
  let currentActive ← demand self.activeDesired
  self.validateHeadFirstRetire previous oldPrepared currentPrepared oldActive currentActive
  refuse (self ≠ { previous with
    lastTransaction := self.lastTransaction
    prepared := self.prepared
    activeDesired := self.activeDesired
    liveMaterialization := self.liveMaterialization
    ownedResources := self.ownedResources })

/-- The action whose resources an empty terminal closes: the drain after a head-first retire, none on the fast path. -/
def exactZeroResourceAction (previous : RuntimeJournalState) (prepared : PreparedOperation) :
    Res (Option JournalActionRef) :=
  if prepared.phase.mayRetire then do
    refuse (¬ previous.activeDesired.any (fun old => old.kind = .emptyDeactivate
        && old.operationId = prepared.operationId && old.committingResultDigest.isNone)
      ∨ ¬ (previous.liveMaterialization.isDraining
        ∨ previous.liveMaterialization.isStartupInvalidated))
    pure prepared.action
  else if prepared.phase = .preparedNoEffects then do
    refuse (¬ exactZeroFastPathEligible previous)
    pure none
  else .error .nonMonotonicTransition

def validateExactZeroTerminalSuccessor (sha256 : Sha256) (self previous : RuntimeJournalState) : Res Unit := do
  self.requireSameHostGeneration previous
  let prepared ← demand previous.prepared
  let active ← demand self.activeDesired
  let terminal ← demand (appendedTerminalForPrepared self previous prepared)
  let census ← computeResourceCensusDigest sha256 self.ownedResources
  refuse (prepared.incomingKind ≠ .emptyDeactivate
    ∨ self.prepared.isSome
    ∨ active.kind ≠ .emptyDeactivate
    ∨ ¬ headOf prepared active
    ∨ ¬ self.liveMaterialization.isExactZero
    ∨ (∃ r ∈ self.ownedResources, ¬ r.phase.isTerminal)
    ∨ terminal.headDisposition ≠ .committedIncoming
    ∨ terminal.resourceCensusDigest ≠ census
    ∨ active.committingResultDigest ≠ some terminal.resultDigest
    ∨ ¬ terminalRawIsValidSuccessor terminal prepared)
  let resourceAction ← previous.exactZeroResourceAction prepared
  refuse (prepared.phase ≠ .preparedNoEffects ∧ resourceAction.isNone)
  refuse (¬ terminalHeadCommitsIncoming terminal.selection.primary active.kind
    ∨ (resourceAction.isNone ∧ terminal.selection.primary ≠ .emptyDeactivateExactZero))
  refuse (¬ resourcesReachExactZero self.ownedResources previous.ownedResources resourceAction)
  refuse (self ≠ { previous with
    lastTransaction := self.lastTransaction
    prepared := none
    activeDesired := self.activeDesired
    liveMaterialization := self.liveMaterialization
    ownedResources := self.ownedResources
    terminalOperations := self.terminalOperations })

def validateRecoveryPlanSuccessor (self previous : RuntimeJournalState) : Res Unit := do
  self.requireSameHostGeneration previous
  refuse (¬ previous.liveMaterialization.isEligible)
  let recovery ← demand self.recoveryAction
  refuse (previous.currentAction.isSome
    ∨ (∃ r ∈ previous.ownedResources, ¬ r.phase.isTerminal)
    ∨ recovery.phase ≠ .recoveryPlannedNoEffects
    ∨ recovery.action.runtimeHostEpoch ≠ self.host.runtimeHostEpochHighWater
    ∨ recovery.action.clockGeneration ≠ self.host.clockGenerationHighWater
    ∨ ¬ self.liveMaterialization.isRecovering)
  refuse (self ≠ { previous with
    lastTransaction := self.lastTransaction
    liveMaterialization := self.liveMaterialization
    recoveryAction := self.recoveryAction })

def validateRecoveryProgressSuccessor (self previous : RuntimeJournalState) : Res Unit := do
  self.requireSameHostGeneration previous
  let current ← demand self.recoveryAction
  let old ← demand previous.recoveryAction
  validateRecoveryLatchSuccessor current old
  refuse (¬ sameOwnerEventFacts current.rawOutcome old.rawOutcome
    ∨ current.action.actionId ≠ old.action.actionId
    ∨ (current.phase ≠ old.phase ∧ current.rawOutcome.isSome)
    ∨ ¬ self.liveMaterialization.isRecovering
    ∨ ¬ liveIdentityPreservedExceptCensus self.liveMaterialization previous.liveMaterialization)
  refuse (self ≠ { previous with lastTransaction := self.lastTransaction, recoveryAction := self.recoveryAction })

def recoveryPublishPredecessor (previous : RuntimeJournalState) (old : RecoveryAction) : Bool :=
  match old.phase with
  | .recoveryPlannedNoEffects | .startCallIntent => match previous.liveMaterialization with
    | .recovering _ actionId _ _ => actionId = old.action.actionId
    | _ => false
  | .startupReconcileRequired => match previous.liveMaterialization with
    | .startupInvalidated (some head) _ _ .reconcileRequired _ _ _ => head = old.activeSliceDigest
    | _ => false
  | .startupInvalidatedNoEffects => false

def validateRecoveryOutcome (self previous : RuntimeJournalState) (old : RecoveryAction)
    (terminal : RecoveryTerminalRecord) : Res Unit :=
  match self.liveMaterialization with
  | .liveReady _ _ _ _ =>
    refuse (old.phase ≠ .startCallIntent
      ∨ terminal.selection.primary ≠ .oneSourceLoopActive
      ∨ terminal.failureLatchDigest.isSome
      ∨ ¬ resourcesPublishLiveGeneration self.ownedResources previous.ownedResources old.action)
  | .recoveryFailedNotReady _ actionId failure _ =>
    refuse (actionId ≠ old.action.actionId
      ∨ terminal.failureLatchDigest ≠ some failure
      ∨ terminal.selection.primary = .oneSourceLoopActive
      ∨ terminal.selection.primary = .abortedBeforeIntentNoEffects
      ∨ (∃ r ∈ self.ownedResources, ¬ r.phase.isTerminal)
      ∨ ¬ resourcesReachExactZero self.ownedResources previous.ownedResources (some old.action))
  | _ => .error .nonMonotonicTransition

/-- **The outcome of a recovery**: its resources are live, or its failure is latched. -/
def validateRecoveryPublishSuccessor (sha256 : Sha256) (self previous : RuntimeJournalState) : Res Unit := do
  self.requireSameHostGeneration previous
  let old ← demand previous.recoveryAction
  let terminal ← demand (appendedRecoveryTerminal self previous old)
  let census ← computeResourceCensusDigest sha256 self.ownedResources
  refuse (¬ previous.recoveryPublishPredecessor old
    ∨ self.recoveryAction.isSome
    ∨ terminal.resourceCensusDigest ≠ census)
  self.validateRecoveryOutcome previous old terminal
  refuse (self ≠ { previous with
    lastTransaction := self.lastTransaction
    liveMaterialization := self.liveMaterialization
    recoveryAction := none
    recoveryTerminals := self.recoveryTerminals
    ownedResources := self.ownedResources })

def validateRecoveryAbortNoEffectsSuccessor (sha256 : Sha256) (self previous : RuntimeJournalState) : Res Unit := do
  self.requireSameHostGeneration previous
  let old ← demand previous.recoveryAction
  let terminal ← demand (appendedRecoveryTerminal self previous old)
  refuse (old.phase ≠ .startupInvalidatedNoEffects
    ∨ old.rawOutcome.isSome
    ∨ ¬ previous.liveMaterialization.isEligible
    ∨ self.liveMaterialization ≠ previous.liveMaterialization
    ∨ self.recoveryAction.isSome
    ∨ self.ownedResources ≠ previous.ownedResources
    ∨ (∃ r ∈ self.ownedResources, ¬ r.phase.isTerminal)
    ∨ terminal.selection.primary ≠ .abortedBeforeIntentNoEffects
    ∨ terminal.failureLatchDigest.isSome)
  let census ← computeResourceCensusDigest sha256 self.ownedResources
  refuse (terminal.resourceCensusDigest ≠ census)
  refuse (self ≠ { previous with
    lastTransaction := self.lastTransaction
    recoveryAction := none
    recoveryTerminals := self.recoveryTerminals })

def validateOperationTerminalNoEffectsSuccessor (sha256 : Sha256) (self previous : RuntimeJournalState) :
    Res Unit := do
  self.requireSameHostGeneration previous
  let prepared ← demand previous.prepared
  let terminal ← demand (appendedTerminalForPrepared self previous prepared)
  refuse (¬ prepared.phase.beforeEffects ∨ prepared.action.isSome ∨ self.prepared.isSome)
  let census ← computeResourceCensusDigest sha256 self.ownedResources
  refuse (terminal.resourceCensusDigest ≠ census
    ∨ ¬ (terminal.selection.primary = .startTimedOutBeforeIntentNoEffects
      ∨ terminal.selection.primary = .stopTimedOutBeforeHeadCommitNoEffects
      ∨ terminal.selection.primary = .abortedBeforeIntentNoEffects)
    ∨ (terminal.selection.primary = .startTimedOutBeforeIntentNoEffects ∧ prepared.incomingKind ≠ .oneSourceLoop)
    ∨ (terminal.selection.primary = .stopTimedOutBeforeHeadCommitNoEffects
      ∧ prepared.incomingKind ≠ .emptyDeactivate)
    ∨ (prepared.phase ≠ .preparedNoEffects ∧ terminal.selection.primary ≠ .abortedBeforeIntentNoEffects)
    ∨ terminal.headDisposition ≠ preservedHeadDisposition previous
    ∨ ¬ terminalRawIsValidSuccessor terminal prepared)
  refuse (self ≠ { previous with
    lastTransaction := self.lastTransaction
    prepared := none
    terminalOperations := self.terminalOperations })

/-- A quarantine keeps every fact but the live state. -/
def validateQuarantineSuccessor (self previous : RuntimeJournalState) : Res Unit := do
  self.requireSameHostGeneration previous
  refuse (previous.liveMaterialization.isQuarantined
    ∨ ¬ self.liveMaterialization.isQuarantined)
  refuse (self ≠ { previous with
    lastTransaction := self.lastTransaction, liveMaterialization := self.liveMaterialization })

/-- **One step of the journal**: the pinned host facts stay, and the validator of the transaction accepts. -/
def validateSuccessor (sha256 : Sha256) (self previous : RuntimeJournalState) : Res Unit := do
  self.validatePinnedHostTruth previous
  match self.lastTransaction with
  | .initialized => .error .nonMonotonicTransition
  | .startupInvalidation => self.validateStartupInvalidationSuccessor sha256 previous
  | .tenureOnly => self.validateTenureOnlySuccessor previous
  | .fullAdmission => self.validateFullAdmissionSuccessor previous
  | .preparedProgress => self.validatePreparedProgressSuccessor previous
  | .resourceProgress => self.validateResourceProgressSuccessor previous
  | .normalStartTerminal => self.validateNormalStartTerminalSuccessor sha256 previous
  | .emptyHeadRetire => self.validateEmptyHeadRetireSuccessor previous
  | .exactZeroTerminal => self.validateExactZeroTerminalSuccessor sha256 previous
  | .recoveryPlan => self.validateRecoveryPlanSuccessor previous
  | .recoveryProgress => self.validateRecoveryProgressSuccessor previous
  | .recoveryPublish => self.validateRecoveryPublishSuccessor sha256 previous
  | .operationTerminalNoEffects => self.validateOperationTerminalNoEffectsSuccessor sha256 previous
  | .quarantine => self.validateQuarantineSuccessor previous
  | .recoveryAbortNoEffects => self.validateRecoveryAbortNoEffectsSuccessor sha256 previous

end RuntimeJournalState
end Journal
end ParaEgox
