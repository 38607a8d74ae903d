import ParaEgox.JournalInput

/-!
# JournalBuild — the `try_*_successor` builders

Each builder derives one candidate state from the snapshot and its typed input and hands it to
`try_validated_successor`; the previews derive the same terminal facts without a candidate.
-/
namespace ParaEgox
namespace Journal

open Check RuntimeJournalState

namespace RuntimeJournalSnapshot

def withResources (sha256 : Sha256) (s : RuntimeJournalState) (resources : List OwnedResourceRecord) :
    Res RuntimeJournalState := do
  let census ← computeResourceCensusDigest sha256 resources
  pure { s with
    lastTransaction := .resourceProgress
    ownedResources := resources
    liveMaterialization := s.liveMaterialization.withResourceCensus census }

def hasNonterminal (resources : List OwnedResourceRecord) : Prop := ∃ r ∈ resources, ¬ r.phase.isTerminal

instance (resources : List OwnedResourceRecord) : Decidable (hasNonterminal resources) :=
  inferInstanceAs (Decidable (∃ r ∈ resources, ¬ r.phase.isTerminal))

def holdsNonterminal (resources : List OwnedResourceRecord) (actionId : Ref16) : Prop :=
  ∃ r ∈ resources, r.actionId = some actionId ∧ ¬ r.phase.isTerminal

instance (resources : List OwnedResourceRecord) (actionId : Ref16) : Decidable (holdsNonterminal resources actionId) :=
  inferInstanceAs (Decidable (∃ r ∈ resources, r.actionId = some actionId ∧ ¬ r.phase.isTerminal))

/-! ## Startup -/

/-- **The restart**: epoch and clock generation move on, and what was left open is latched. -/
def startupInvalidationState (sha256 : Sha256) (s : RuntimeJournalState) : Res RuntimeJournalState := do
  let nextEpoch ← checkedAdd s.host.runtimeHostEpochHighWater 1 .integerOverflow
  let nextGeneration ← checkedAdd s.host.clockGenerationHighWater 1 .integerOverflow
  let prepared ← startupInvalidatedPrepared s.prepared
  let recovery ← startupInvalidatedRecovery s.recoveryAction
  let eligibility ← startupEligibility sha256 s
  let census ← computeResourceCensusDigest sha256 s.ownedResources
  let state (invalidation : Digest32) : RuntimeJournalState := { s with
    lastTransaction := .startupInvalidation
    host := { s.host with
      runtimeHostEpochHighWater := nextEpoch
      clockGenerationHighWater := nextGeneration }
    prepared := prepared
    recoveryAction := recovery
    liveMaterialization := .startupInvalidated s.activeHead s.host.runtimeHostEpochHighWater
      s.host.clockGenerationHighWater eligibility.1 invalidation eligibility.2 census }
  let invalidation ← startupInvalidationEvidenceDigest sha256 s (state (Digest32.ofNat (2 ^ 256 / 255)))
  pure (state invalidation)

variable (c : Contracts) (self : RuntimeJournalSnapshot)

def tryStartupInvalidationSuccessor : Res RuntimeJournalSnapshot := do
  let state ← startupInvalidationState c.sha256 self.state
  self.tryValidatedSuccessor c state

def LiveMaterialization.isCleanable : LiveMaterialization → Bool
  | .startupInvalidated _ _ _ .eligibleOneSourceLoop _ _ _ => true
  | .startupInvalidated _ _ _ .reconcileRequired _ _ _ => true
  | _ => false

def beginCleanup (r : OwnedResourceRecord) : OwnedResourceRecord :=
  if r.phase = .owned then { r with phase := .cleanupPending } else r

def tryBeginStartupResourceCleanupSuccessor : Res RuntimeJournalSnapshot := do
  let s := self.state
  refuse (¬ LiveMaterialization.isCleanable s.liveMaterialization)
  refuse (s.ownedResources = []
    ∨ (∃ r ∈ s.ownedResources, ¬ r.phase.isTerminal
      ∧ ¬ (r.phase = .reserved ∨ r.phase = .owned ∨ r.phase = .cleanupPending))
    ∨ ¬ ∃ r ∈ s.ownedResources, ¬ r.phase.isTerminal ∧ r.runtimeHostEpoch < s.host.runtimeHostEpochHighWater)
  let state ← withResources c.sha256 s (s.ownedResources.map beginCleanup)
  self.tryValidatedSuccessor c state

/-- The tombstones close what the restart left, and the census is exact zero. -/
def tryCompleteStartupResourceCleanupSuccessor (tombstones : RuntimeOneSourceTombstonesInput) :
    Res RuntimeJournalSnapshot := do
  let s := self.state
  refuse (s.nonterminal.length ≠ 2
    ∨ ∃ r ∈ s.nonterminal, ¬ (r.phase = .reserved ∨ r.phase = .cleanupPending)
      ∨ s.host.runtimeHostEpochHighWater ≤ r.runtimeHostEpoch)
  let resources ← installStartupResourceTombstone s.ownedResources .loopDomain tombstones.loopDomain
  let resources ← installStartupResourceTombstone resources .cardInstance tombstones.cardInstance
  let state ← withResources c.sha256 s resources
  self.tryValidatedSuccessor c state

def tryOperationalQuarantineSuccessor (reasonDigest : Digest32) : Res RuntimeJournalSnapshot := do
  let s := self.state
  ensureNonzeroDigest reasonDigest
  refuse (¬ (s.liveMaterialization.isStartupInvalidated ∨ s.liveMaterialization.isRecovering))
  let census ← computeResourceCensusDigest c.sha256 s.ownedResources
  self.tryValidatedSuccessor c { s with
    lastTransaction := .quarantine, liveMaterialization := .quarantined s.activeHead reasonDigest census }

/-! ## Recovery -/

def recoveryFailureLatch (sha256 : Sha256) (recovery : RecoveryAction) (selection : TerminalOutcomeSelection)
    (census : Digest32) : Res (Option Digest32) :=
  if selection.primary = .oneSourceLoopActive ∨ selection.primary = .abortedBeforeIntentNoEffects then .ok none
  else do
    let failure ← recoveryFailureEvidenceDigest sha256 recovery selection census
    pure (some failure)

def buildRecoveryTerminal (sha256 : Sha256) (recovery : RecoveryAction) (raw : RawActionOutcomeLatch)
    (observation : RuntimeDeadlineObservation) (lifecycleEffect : TerminalLifecycleEffect) (census : Digest32)
    (completionRuntimeHostEpoch completionSnapshotSequence : U64) : Res RecoveryTerminalRecord := do
  let selection ← TerminalOutcomeSelection.trySelect
    ⟨.oneSourceLoop, recoveryPredecessorPhase recovery.phase, recovery.action.clockGeneration, recovery.deadlineNanos⟩
    ⟨raw, observation.clockGeneration, observation.observedAtNanos, lifecycleEffect⟩
  let failure ← recoveryFailureLatch sha256 recovery selection census
  pure ⟨recovery, selection, census, failure, completionRuntimeHostEpoch, completionSnapshotSequence⟩

def tryAbortStartupInvalidatedRecoverySuccessor (observation : RuntimeDeadlineObservation) :
    Res RuntimeJournalSnapshot := do
  let s := self.state
  let recovery ← demand (s.recoveryAction.filter fun r =>
    r.phase = .startupInvalidatedNoEffects && r.rawOutcome.isNone)
  refuse (observation.clockGeneration ≠ s.host.clockGenerationHighWater
    ∨ observation.observedAtNanos = 0
    ∨ hasNonterminal s.ownedResources)
  let census ← computeResourceCensusDigest c.sha256 s.ownedResources
  let completionSequence ← checkedAdd self.sequence 1 .sequenceOverflow
  let terminal ← buildRecoveryTerminal c.sha256 recovery notInvokedInterruptedRaw observation .provenNotStarted census
    s.host.runtimeHostEpochHighWater completionSequence
  refuse (terminal.selection.primary ≠ .abortedBeforeIntentNoEffects ∨ terminal.failureLatchDigest.isSome)
  self.tryValidatedSuccessor c { s with
    lastTransaction := .recoveryAbortNoEffects
    recoveryTerminals := s.recoveryTerminals ++ [terminal]
    recoveryAction := none }

def eligibleHead : LiveMaterialization → Option TargetSliceDigest
  | .startupInvalidated (some head) _ _ .eligibleOneSourceLoop _ _ _ => some head
  | _ => none

/-- The recovery of the head under the current epoch, with the generations of its plan. -/
def plannedRecovery (s : RuntimeJournalState) (active : ActiveDesiredHead) (head : TargetSliceDigest)
    (input : RuntimeRecoveryPlanInput) : RecoveryAction where
  action :=
    { actionId := input.actionId
      kind := .restartReassembly
      runtimeHostEpoch := s.host.runtimeHostEpochHighWater
      clockGeneration := s.host.clockGenerationHighWater
      domainGeneration := input.domainGeneration
      instanceGeneration := input.instanceGeneration
      resourceGeneration := input.resourceGeneration }
  sourceScope := active.sourceScope
  sourceRevision := active.sourceRevision
  sourcePlanDigest := active.sourcePlanDigest
  sliceProvenance := active.sliceProvenance
  activeSliceDigest := head
  manifestDigest := active.manifestDigest
  storePinnedBuildIdentity := s.host.storePinnedBuildIdentity
  compiledBuildInstanceId := s.host.compiledBuildInstanceId
  compiledCompatibilityDigest := s.host.compiledCompatibilityDigest
  signedStartBudgetNanos := input.signedStartBudgetNanos
  deadlineNanos := input.deadlineNanos
  deadlineEvidenceDigest := input.deadlineEvidenceDigest
  phase := .recoveryPlannedNoEffects
  rawOutcome := none

def tryRecoveryPlanSuccessor (input : RuntimeRecoveryPlanInput) : Res RuntimeJournalSnapshot := do
  let s := self.state
  let head ← demand (eligibleHead s.liveMaterialization)
  let active ← demand (s.activeDesired.filter (·.kind = .oneSourceLoop))
  refuse (s.currentAction.isSome
    ∨ hasNonterminal s.ownedResources
    ∨ head ≠ active.sliceProvenance.targetSliceDigest
    ∨ input.actionId = 0
    ∨ input.domainGeneration = 0
    ∨ input.instanceGeneration = 0
    ∨ input.resourceGeneration = 0
    ∨ input.signedStartBudgetNanos = 0
    ∨ input.deadlineNanos = 0)
  ensureNonzeroDigest input.deadlineEvidenceDigest
  let census ← computeResourceCensusDigest c.sha256 s.ownedResources
  self.tryValidatedSuccessor c { s with
    lastTransaction := .recoveryPlan
    recoveryAction := some (plannedRecovery s active head input)
    liveMaterialization := .recovering head input.actionId input.resourceGeneration census }

def tryRecoveryIntentSuccessor (observation : RuntimeDeadlineObservation) : Res RuntimeJournalSnapshot := do
  let s := self.state
  let recovery ← demand (s.recoveryAction.filter fun r =>
    r.phase = .recoveryPlannedNoEffects && r.rawOutcome.isNone)
  refuse (observation.clockGeneration ≠ recovery.action.clockGeneration
    ∨ observation.clockGeneration ≠ s.host.clockGenerationHighWater
    ∨ observation.observedAtNanos = 0
    ∨ recovery.deadlineNanos ≤ observation.observedAtNanos)
  self.tryValidatedSuccessor c { s with
    lastTransaction := .recoveryProgress, recoveryAction := some { recovery with phase := .startCallIntent } }

def restartCallAction (s : RuntimeJournalState) (unanswered : Bool) : Option JournalActionRef :=
  ((s.recoveryAction.filter fun r => r.phase = .startCallIntent && (!unanswered || r.rawOutcome.isNone)).map
    (·.action)).filter (·.kind = .restartReassembly)

def tryReserveRecoveryResourcesSuccessor (refs : RuntimeOneSourceResourceRefs) : Res RuntimeJournalSnapshot := do
  let s := self.state
  let action ← demand (restartCallAction s true)
  rejectIf (hasNonterminal s.ownedResources) .multipleOwnerActions
  let resources ← reservePair s.ownedResources refs action
  let state ← withResources c.sha256 s resources
  self.tryValidatedSuccessor c state

def tryOwnRecoveryResourcesSuccessor (input : RuntimeOneSourceOwnershipInput) : Res RuntimeJournalSnapshot := do
  let s := self.state
  let action ← demand (restartCallAction s false)
  let resources ← installPairOwnership s.ownedResources action input
  let state ← withResources c.sha256 s resources
  self.tryValidatedSuccessor c state

def callbackFacts : RuntimeRecoveryCallbackOutcome → Res (CallbackOutcome × Option Digest32)
  | .success => .ok (.knownSuccess, none)
  | .error reason => do
    ensureNonzeroDigest reason
    pure (.knownError, some reason)

def tryLatchRecoveryCallbackSuccessor (outcome : RuntimeRecoveryCallbackOutcome)
    (observation : RuntimeDeadlineObservation) : Res RuntimeJournalSnapshot := do
  let s := self.state
  let recovery ← demand (s.recoveryAction.filter fun r => r.phase = .startCallIntent && r.rawOutcome.isNone)
  refuse (observation.clockGeneration ≠ recovery.action.clockGeneration ∨ observation.observedAtNanos = 0)
  let facts ← callbackFacts outcome
  self.tryValidatedSuccessor c { s with
    lastTransaction := .recoveryProgress
    recoveryAction := some { recovery with
      rawOutcome := some (callbackRawAt facts.1 facts.2 observation recovery.deadlineNanos) } }

def tryLatchRecoveryDeadlineSuccessor (observation : RuntimeDeadlineObservation) : Res RuntimeJournalSnapshot := do
  let s := self.state
  let recovery ← demand (s.recoveryAction.filter fun r => r.phase = .startCallIntent
    && r.rawOutcome.any fun raw => raw.deadline = .notObserved && raw.cleanup = .notObserved)
  refuse (observation.clockGeneration ≠ recovery.action.clockGeneration
    ∨ observation.observedAtNanos < recovery.deadlineNanos)
  let raw ← okOr recovery.rawOutcome .danglingReference
  self.tryValidatedSuccessor c { s with
    lastTransaction := .recoveryProgress
    recoveryAction := some { recovery with
      rawOutcome := some { raw with
        deadline := .timedOut
        observedClockGeneration := observation.clockGeneration
        observedAtNanos := observation.observedAtNanos } } }

def tryBeginRecoveryCleanupSuccessor : Res RuntimeJournalSnapshot := do
  let s := self.state
  let recovery ← demand (s.recoveryAction.filter fun r =>
    (r.phase = .startCallIntent || r.phase = .startupReconcileRequired) && r.rawOutcome.isSome)
  let matching := s.ownedResources.filter (·.actionId = some recovery.action.actionId)
  refuse (matching.length ≠ 2 ∨ ∃ r ∈ matching, ¬ (r.phase = .owned ∨ r.phase = .cleanupPending))
  let state ← withResources c.sha256 s (s.ownedResources.map fun r =>
    if r.actionId = some recovery.action.actionId ∧ r.phase = .owned then { r with phase := .cleanupPending } else r)
  self.tryValidatedSuccessor c state

def releaseOwned (actionId : Ref16) (r : OwnedResourceRecord) : OwnedResourceRecord :=
  if r.phase = .owned ∧ r.actionId = some actionId then { r with actionId := none } else r

/-- A recovery that was answered in time publishes its resources as live. -/
def tryRecoveryLiveReadySuccessor (observation : RuntimeDeadlineObservation) : Res RuntimeJournalSnapshot := do
  let s := self.state
  let recovery ← demand (s.recoveryAction.filter fun r => r.phase = .startCallIntent
    && r.rawOutcome.any fun raw => raw.callback = .knownSuccess && raw.deadline = .notObserved
      && raw.cleanup = .notObserved)
  refuse (observation.clockGeneration ≠ recovery.action.clockGeneration
    ∨ observation.observedAtNanos = 0
    ∨ recovery.deadlineNanos ≤ observation.observedAtNanos)
  let raw ← okOr recovery.rawOutcome .danglingReference
  let resources := s.ownedResources.map (releaseOwned recovery.action.actionId)
  let census ← computeResourceCensusDigest c.sha256 resources
  let completionSequence ← checkedAdd self.sequence 1 .sequenceOverflow
  let terminal ← buildRecoveryTerminal c.sha256 recovery raw observation .mayHaveStarted census
    s.host.runtimeHostEpochHighWater completionSequence
  refuse (terminal.selection.primary ≠ .oneSourceLoopActive)
  self.tryValidatedSuccessor c { s with
    lastTransaction := .recoveryPublish
    recoveryTerminals := s.recoveryTerminals ++ [terminal]
    recoveryAction := none
    ownedResources := resources
    liveMaterialization := .liveReady recovery.activeSliceDigest recovery.action.runtimeHostEpoch
      recovery.action.resourceGeneration census }

/-- The raw facts of a failed recovery: its latch, or a deadline that passed before the call. -/
def failedRecoveryRaw (recovery : RecoveryAction) (observation : RuntimeDeadlineObservation) :
    Res RawActionOutcomeLatch :=
  match recovery.rawOutcome with
  | some raw => .ok raw
  | none =>
    if (recovery.phase = .recoveryPlannedNoEffects ∨ recovery.phase = .startCallIntent)
        ∧ recovery.deadlineNanos ≤ observation.observedAtNanos then
      .ok (timedOutRaw recovery.action.clockGeneration observation.observedAtNanos)
    else .error .nonMonotonicTransition

/-- The cleanup facts of a failed recovery: the owner's tombstones, or no resource of the action left. -/
def failedRecoveryCleanup (sha256 : Sha256) (s : RuntimeJournalState) (recovery : RecoveryAction)
    (raw : RawActionOutcomeLatch) :
    Option RuntimeOneSourceTombstonesInput → Res (List OwnedResourceRecord × RawActionOutcomeLatch)
  | some tombstones => do
    let resources ← installPairTombstones s.ownedResources recovery.action tombstones
    let census ← computeResourceCensusDigest sha256 resources
    pure (resources, exactZeroRaw raw census)
  | none => do
    refuse (holdsNonterminal s.ownedResources recovery.action.actionId)
    let census ← computeResourceCensusDigest sha256 s.ownedResources
    pure (s.ownedResources, if recovery.phase = .startupReconcileRequired then exactZeroRaw raw census else raw)

def failedRecoveryEffect (raw : RawActionOutcomeLatch) : TerminalLifecycleEffect :=
  if raw.callback = .notInvoked ∧ raw.cleanup = .notObserved then .provenNotStarted else .mayHaveStarted

def tryRecoveryFailedNotReadySuccessor (tombstones : Option RuntimeOneSourceTombstonesInput)
    (observation : RuntimeDeadlineObservation) : Res RuntimeJournalSnapshot := do
  let s := self.state
  let recovery ← demand s.recoveryAction
  refuse (observation.clockGeneration ≠ s.host.clockGenerationHighWater ∨ observation.observedAtNanos = 0)
  let raw ← failedRecoveryRaw recovery observation
  let cleaned ← failedRecoveryCleanup c.sha256 s recovery raw tombstones
  let census ← computeResourceCensusDigest c.sha256 cleaned.1
  let completionSequence ← checkedAdd self.sequence 1 .sequenceOverflow
  let terminal ← buildRecoveryTerminal c.sha256 recovery cleaned.2 observation (failedRecoveryEffect cleaned.2) census
    s.host.runtimeHostEpochHighWater completionSequence
  refuse (terminal.selection.primary = .oneSourceLoopActive
    ∨ terminal.selection.primary = .abortedBeforeIntentNoEffects)
  let failure ← okOr terminal.failureLatchDigest .danglingReference
  self.tryValidatedSuccessor c { s with
    lastTransaction := .recoveryPublish
    recoveryTerminals := s.recoveryTerminals ++ [terminal]
    recoveryAction := none
    ownedResources := cleaned.1
    liveMaterialization := .recoveryFailedNotReady recovery.activeSliceDigest recovery.action.actionId failure census }

/-! ## Admission -/

def tenureExceeds (fence : Option WriterFenceRecord) (input : RuntimeTenureAdmissionInput) : Bool :=
  match fence with
  | some previous => input.sourceScope = previous.sourceScope && previous.epoch < input.epoch
    && previous.epoch ≤ input.supersedesThroughEpoch
  | none => input.supersedesThroughEpoch = 0

def tryTenureOnlySuccessor (input : RuntimeTenureAdmissionInput) : Res RuntimeJournalSnapshot := do
  let s := self.state
  rejectIf (input.expectedStoreInstanceId ≠ self.storeInstanceId
    ∨ input.ownerTargetFingerprint ≠ self.ownerTargetFingerprint
    ∨ input.epoch = 0
    ∨ input.epoch ≤ input.supersedesThroughEpoch
    ∨ maxRuntimeTenureNonces ≤ s.host.tenureNonces.length) .invalidStateInvariant
  refuse (¬ tenureExceeds s.writerFence input)
  let tenureNonces ← insertReplayRecord s.host.tenureNonces ⟨input.tenureNonceIdentity, input.proofEnvelopeDigest⟩
  self.tryValidatedSuccessor c { s with
    lastTransaction := .tenureOnly
    host := { s.host with tenureNonces := tenureNonces }
    writerFence := some input.fence
    prepared := tenureSuccessorPrepared s.prepared
    recoveryAction := tenureSuccessorRecovery s.recoveryAction }

def admittedOperation (input : RuntimeApplyAdmissionInput) (responseChannel : DurableReferenceChannelBinding) :
    PreparedOperation where
  sourceScope := input.tenure.sourceScope
  operationId := input.operationId
  sourceRevision := input.sourceRevision
  request := input.request
  sliceProvenance := input.sliceProvenance
  requestNonceIdentity := input.requestNonceIdentity
  sourcePlanDigest := input.sourcePlanDigest
  incomingSliceDigest := input.incomingSliceDigest
  incomingKind := input.incomingKind
  manifestDigest := input.manifestDigest
  expectedActive := input.expectedActive
  temporalConstraintId := input.temporal.constraintId
  temporalLineageDigest := input.temporal.lineageDigest
  installedClockGeneration := input.temporal.installedClockGeneration
  installedDeadlineNanos := input.temporal.installedDeadlineNanos
  responseChannel := responseChannel
  phase := .preparedNoEffects
  action := none
  retiring := none
  rawOutcome := none

def admittedTemporal (ownerTargetFingerprint : Digest32) (input : RuntimeApplyAdmissionInput) :
    TemporalLineageRecord where
  constraintId := input.temporal.constraintId
  sourceScope := input.tenure.sourceScope
  targetFingerprint := ownerTargetFingerprint
  originalBudgetNanos := input.temporal.originalBudgetNanos
  remainingBudgetNanos := input.temporal.remainingBudgetNanos
  clockGeneration := input.temporal.installedClockGeneration
  deadlineNanos := input.temporal.installedDeadlineNanos
  lineageDigest := input.temporal.lineageDigest

/-- What the journal itself refuses in an admission. -/
def admissionInvalid (self : RuntimeJournalSnapshot) (input : RuntimeApplyAdmissionInput) : Prop :=
  input.sliceProvenance.sourceScope ≠ input.tenure.sourceScope
    ∨ input.sliceProvenance.sourceRevision ≠ input.sourceRevision
    ∨ input.sliceProvenance.sourcePlanDigest ≠ input.sourcePlanDigest
    ∨ input.sliceProvenance.targetSliceDigest ≠ input.incomingSliceDigest
    ∨ input.tenure.expectedStoreInstanceId ≠ self.storeInstanceId
    ∨ input.tenure.ownerTargetFingerprint ≠ self.ownerTargetFingerprint
    ∨ self.state.writerFence ≠ some input.tenure.fence
    ∨ input.manifestDigest ≠ self.state.host.singletonManifest.digest
    ∨ input.temporal.installedClockGeneration ≠ self.state.host.clockGenerationHighWater
    ∨ input.temporal.originalBudgetNanos = 0
    ∨ input.temporal.remainingBudgetNanos = 0
    ∨ input.temporal.originalBudgetNanos < input.temporal.remainingBudgetNanos
    ∨ input.temporal.installedDeadlineNanos = 0
    ∨ maxRuntimeRequestNonces ≤ self.state.host.requestNonces.length
    ∨ maxRuntimeTemporalLineages ≤ self.state.host.temporalLineages.length
    ∨ ∃ t ∈ self.state.terminalOperations,
      t.sourceScope = input.tenure.sourceScope ∧ t.operationId = input.operationId

instance (self : RuntimeJournalSnapshot) (input : RuntimeApplyAdmissionInput) :
    Decidable (admissionInvalid self input) := by
  unfold admissionInvalid
  infer_instance

/-- **The admission**: one prepared operation, its nonce and temporal record, under the tenure in force. -/
def tryFullAdmissionSuccessor (input : RuntimeApplyAdmissionInput) : Res RuntimeJournalSnapshot := do
  let s := self.state
  input.sliceProvenance.validate c.sha256
  rejectIf (admissionInvalid self input) .invalidStateInvariant
  let requestNonces ← insertReplayRecord s.host.requestNonces ⟨input.requestNonceIdentity, input.request.digest⟩
  let temporalLineages ← insertTemporalRecord s.host.temporalLineages
    (admittedTemporal self.ownerTargetFingerprint input)
  let responseChannel ← DurableReferenceChannelBinding.tryFromContract c.sha256 input.responseChannel
  self.tryValidatedSuccessor c { s with
    lastTransaction := .fullAdmission
    host := { s.host with requestNonces := requestNonces, temporalLineages := temporalLineages }
    sourceRevisionHighWater := some ⟨input.tenure.sourceScope, input.sourceRevision⟩
    prepared := some (admittedOperation input responseChannel)
    liveMaterialization := fullAdmissionLiveMaterialization s }

end RuntimeJournalSnapshot
end Journal
end ParaEgox
