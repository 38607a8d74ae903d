import ParaEgox.JournalBuild

/-!
# JournalTerminal — intents, ownership and the terminals of the prepared operation

The builders of one admitted operation: the first action intent, the resources of a start, the head-first retire, and
each way the operation is closed, with the preview a receipt is signed over.
-/
namespace ParaEgox
namespace Journal

open Check RuntimeJournalState

namespace RuntimeJournalSnapshot

/-! ## A one-source start -/

variable (c : Contracts) (self : RuntimeJournalSnapshot)

def tryOneSourceIntentSuccessor (input : RuntimeStartActionInput) : Res RuntimeJournalSnapshot := do
  let s := self.state
  let prepared ← demand s.prepared
  refuse (prepared.incomingKind ≠ .oneSourceLoop
    ∨ prepared.phase ≠ .preparedNoEffects
    ∨ prepared.action.isSome
    ∨ input.preIntent.clockGeneration ≠ prepared.installedClockGeneration
    ∨ input.preIntent.clockGeneration ≠ s.host.clockGenerationHighWater
    ∨ input.preIntent.observedAtNanos = 0
    ∨ prepared.installedDeadlineNanos ≤ input.preIntent.observedAtNanos)
  self.tryValidatedSuccessor c { s with
    lastTransaction := .preparedProgress
    prepared := some { prepared with
      phase := .firstActionIntent
      action := some
        { actionId := input.actionId
          kind := .startOneSourceLoop
          runtimeHostEpoch := s.host.runtimeHostEpochHighWater
          clockGeneration := input.preIntent.clockGeneration
          domainGeneration := input.domainGeneration
          instanceGeneration := input.instanceGeneration
          resourceGeneration := input.resourceGeneration } } }

def startIntentAction (s : RuntimeJournalState) : Option JournalActionRef :=
  ((s.prepared.filter (·.phase = .firstActionIntent)).bind (·.action)).filter (·.kind = .startOneSourceLoop)

def tryReserveOneSourceResourcesSuccessor (refs : RuntimeOneSourceResourceRefs) : Res RuntimeJournalSnapshot := do
  let s := self.state
  let action ← demand (startIntentAction s)
  rejectIf (hasNonterminal s.ownedResources) .multipleOwnerActions
  let resources ← reservePair s.ownedResources refs action
  let state ← withResources c.sha256 s resources
  self.tryValidatedSuccessor c state

def tryOwnOneSourceResourcesSuccessor (input : RuntimeOneSourceOwnershipInput) : Res RuntimeJournalSnapshot := do
  let s := self.state
  let action ← demand (startIntentAction s)
  let resources ← installPairOwnership s.ownedResources action input
  let state ← withResources c.sha256 s resources
  self.tryValidatedSuccessor c state

/-! ## Terminals -/

def terminalSelection (prepared : PreparedOperation) (raw : RawActionOutcomeLatch)
    (observation : RuntimeDeadlineObservation) (lifecycleEffect : TerminalLifecycleEffect) :
    Res TerminalOutcomeSelection :=
  TerminalOutcomeSelection.trySelect
    ⟨prepared.incomingKind, prepared.phase, prepared.installedClockGeneration, prepared.installedDeadlineNanos⟩
    ⟨raw, observation.clockGeneration, observation.observedAtNanos, lifecycleEffect⟩

def terminalRecord (prepared : PreparedOperation) (selection : TerminalOutcomeSelection)
    (headDisposition : TerminalHeadDisposition) (resourceCensusDigest : Digest32)
    (canonicalResponse : OpaqueCanonicalValue) (completionRuntimeHostEpoch completionSnapshotSequence : U64) :
    TerminalOperationRecord where
  sourceScope := prepared.sourceScope
  operationId := prepared.operationId
  requestDigest := prepared.request.digest
  requestNonceIdentity := prepared.requestNonceIdentity
  sliceProvenance := prepared.sliceProvenance
  sourceRevision := prepared.sourceRevision
  sourcePlanDigest := prepared.sourcePlanDigest
  targetSliceDigest := prepared.incomingSliceDigest
  temporalConstraintId := prepared.temporalConstraintId
  temporalLineageDigest := prepared.temporalLineageDigest
  incomingKind := prepared.incomingKind
  completionPredecessorPhase := prepared.phase
  installedClockGeneration := prepared.installedClockGeneration
  installedDeadlineNanos := prepared.installedDeadlineNanos
  action := prepared.action
  predecessorRawOutcome := prepared.rawOutcome
  selection := selection
  headDisposition := headDisposition
  resourceCensusDigest := resourceCensusDigest
  resultDigest := canonicalResponse.digest
  canonicalResponse := canonicalResponse
  completionRuntimeHostEpoch := completionRuntimeHostEpoch
  completionSnapshotSequence := completionSnapshotSequence

structure TerminalPlan where
  selection : TerminalOutcomeSelection
  resources : List OwnedResourceRecord
  census : Digest32

def terminalPreview (plan : TerminalPlan) (headDisposition : TerminalHeadDisposition) : Res RuntimeTerminalPreview := do
  let rawOutcomeDigest ← runtimeRawActionOutcomeDigest c.sha256 plan.selection.raw
  let completionSequence ← checkedAdd self.sequence 1 .sequenceOverflow
  pure
    { outcome := plan.selection.primary
      lifecycleEffect := plan.selection.lifecycleEffect
      headDisposition := headDisposition
      resourceCensusDigest := plan.census
      rawOutcomeDigest := rawOutcomeDigest
      completionRuntimeHostEpoch := self.state.host.runtimeHostEpochHighWater
      completionSnapshotSequence := completionSequence
      selectionClockGeneration := plan.selection.selectionClockGeneration
      selectionObservedAtNanos := plan.selection.selectionObservedAtNanos }

/-- The candidate every terminal path ends with: the operation's record inserted and the operation gone. -/
def closedState (self : RuntimeJournalSnapshot) (transaction : RuntimeJournalTransaction)
    (prepared : PreparedOperation) (plan : TerminalPlan) (headDisposition : TerminalHeadDisposition)
    (active : Option ActiveDesiredHead) (live : LiveMaterialization) (response : OpaqueCanonicalValue)
    (completionSequence : U64) : Res RuntimeJournalState := do
  let terminals ← insertTerminalRecord self.state.terminalOperations
    (terminalRecord prepared plan.selection headDisposition plan.census response
      self.state.host.runtimeHostEpochHighWater completionSequence)
  pure (closed self.state transaction active live plan.resources terminals)

def committedHead (prepared : PreparedOperation) (slice : OpaqueCanonicalValue) (result : Option Digest32) :
    ActiveDesiredHead where
  kind := prepared.incomingKind
  sourceScope := prepared.sourceScope
  sourceRevision := prepared.sourceRevision
  slice := slice
  sliceProvenance := prepared.sliceProvenance
  sourcePlanDigest := prepared.sourcePlanDigest
  manifestDigest := prepared.manifestDigest
  operationId := prepared.operationId
  committingResultDigest := result

def openStart (s : RuntimeJournalState) : Res PreparedOperation :=
  demand (s.prepared.filter fun p => p.phase = .firstActionIntent && p.incomingKind = .oneSourceLoop
    && p.rawOutcome.isNone)

def startAction (prepared : PreparedOperation) : Res JournalActionRef :=
  okOr (prepared.action.filter (·.kind = .startOneSourceLoop)) .danglingReference

def successPlan (sha256 : Sha256) (s : RuntimeJournalState) (prepared : PreparedOperation) (action : JournalActionRef)
    (observation : RuntimeDeadlineObservation) : Res TerminalPlan := do
  let selection ← terminalSelection prepared (callbackRaw .knownSuccess none) observation .mayHaveStarted
  refuse (selection.primary ≠ .oneSourceLoopActive)
  let resources := s.ownedResources.map (releaseOwned action.actionId)
  let census ← computeResourceCensusDigest sha256 resources
  pure ⟨selection, resources, census⟩

def tryPreviewOneSourceSuccessTerminal (callbackActionId : Ref16) (observation : RuntimeDeadlineObservation) :
    Res RuntimeTerminalPreview := do
  let prepared ← openStart self.state
  let action ← startAction prepared
  refuse (callbackActionId ≠ action.actionId)
  let plan ← successPlan c.sha256 self.state prepared action observation
  self.terminalPreview c plan .committedIncoming

def tryOneSourceSuccessTerminalSuccessor (incomingSlice : OpaqueCanonicalValue) (callbackActionId : Ref16)
    (terminal : RuntimeTerminalInput) : Res RuntimeJournalSnapshot := do
  let prepared ← openStart self.state
  rejectIf (incomingSlice.digest ≠ prepared.incomingSliceDigest) .danglingReference
  let action ← startAction prepared
  refuse (callbackActionId ≠ action.actionId)
  let plan ← successPlan c.sha256 self.state prepared action terminal.selection
  let completionSequence ← checkedAdd self.sequence 1 .sequenceOverflow
  let state ← self.closedState .normalStartTerminal prepared plan .committedIncoming
    (some (committedHead prepared incomingSlice (some terminal.canonicalResponse.digest)))
    (.liveReady prepared.incomingSliceDigest action.runtimeHostEpoch action.resourceGeneration plan.census)
    terminal.canonicalResponse completionSequence
  self.tryValidatedSuccessor c state

def postIntentTimeoutPlan (sha256 : Sha256) (s : RuntimeJournalState) (prepared : PreparedOperation)
    (action : JournalActionRef) (observation : RuntimeDeadlineObservation) : Res TerminalPlan := do
  refuse (observation.clockGeneration ≠ prepared.installedClockGeneration
    ∨ observation.observedAtNanos < prepared.installedDeadlineNanos
    ∨ holdsNonterminal s.ownedResources action.actionId)
  let selection ← terminalSelection prepared (timedOutRaw observation.clockGeneration observation.observedAtNanos)
    observation .provenNotStarted
  refuse (selection.primary ≠ .startTimedOutBeforeHeadCommitExactZero)
  let census ← computeResourceCensusDigest sha256 s.ownedResources
  pure ⟨selection, s.ownedResources, census⟩

def tryPreviewOneSourcePostIntentTimeoutTerminal (observation : RuntimeDeadlineObservation) :
    Res RuntimeTerminalPreview := do
  let prepared ← openStart self.state
  let action ← startAction prepared
  let plan ← postIntentTimeoutPlan c.sha256 self.state prepared action observation
  self.terminalPreview c plan (preservedHeadDisposition self.state)

def tryOneSourcePostIntentTimeoutTerminalSuccessor (terminal : RuntimeTerminalInput) : Res RuntimeJournalSnapshot := do
  let prepared ← openStart self.state
  let action ← startAction prepared
  let plan ← postIntentTimeoutPlan c.sha256 self.state prepared action terminal.selection
  let completionSequence ← checkedAdd self.sequence 1 .sequenceOverflow
  let state ← self.closedState .normalStartTerminal prepared plan (preservedHeadDisposition self.state)
    self.state.activeDesired self.state.liveMaterialization terminal.canonicalResponse completionSequence
  self.tryValidatedSuccessor c state

/-! ## A start interrupted by a restart -/

def interruptedLatch (phase : PreparedPhase) (raw : RawActionOutcomeLatch) : Bool :=
  raw.hostInterrupted && raw.cleanup = .notObserved && match phase with
    | .startupReconcileRequired => !raw.higherTenureTakeover
    | .supersededReconcileRequired => raw.higherTenureTakeover
    | _ => false

def interruptedStart (s : RuntimeJournalState) : Res PreparedOperation :=
  demand (s.prepared.filter fun p =>
    (p.phase = .startupReconcileRequired || p.phase = .supersededReconcileRequired)
      && p.incomingKind = .oneSourceLoop && p.rawOutcome.any (interruptedLatch p.phase))

def interruptedStartPlan (sha256 : Sha256) (s : RuntimeJournalState) (prepared : PreparedOperation)
    (action : JournalActionRef) (tombstones : Option RuntimeOneSourceTombstonesInput)
    (observation : RuntimeDeadlineObservation) : Res TerminalPlan := do
  let resources ← installTombstones s.ownedResources action tombstones
  refuse (hasNonterminal resources)
  let census ← computeResourceCensusDigest sha256 resources
  let raw ← okOr prepared.rawOutcome .danglingReference
  let selection ← terminalSelection prepared (exactZeroRaw raw census) observation .mayHaveStarted
  refuse (selection.primary ≠ if raw.higherTenureTakeover then .supersededAfterIntentExactZero
    else .abortedBeforeHeadCommitExactZero)
  pure ⟨selection, resources, census⟩

def tryPreviewStartupInterruptedStartTerminal (tombstones : Option RuntimeOneSourceTombstonesInput)
    (observation : RuntimeDeadlineObservation) : Res RuntimeTerminalPreview := do
  let prepared ← interruptedStart self.state
  let action ← startAction prepared
  let plan ← interruptedStartPlan c.sha256 self.state prepared action tombstones observation
  self.terminalPreview c plan (preservedHeadDisposition self.state)

def exactZeroLiveOf (active : Option ActiveDesiredHead) (census : Digest32) : Res LiveMaterialization :=
  match active with
  | none => .ok .none
  | some active =>
    if active.kind = .emptyDeactivate then .ok (.exactZero active.slice.digest census)
    else .error .nonMonotonicTransition

def tryStartupInterruptedStartTerminalSuccessor (tombstones : Option RuntimeOneSourceTombstonesInput)
    (terminal : RuntimeTerminalInput) : Res RuntimeJournalSnapshot := do
  let prepared ← interruptedStart self.state
  let action ← startAction prepared
  let completionSequence ← checkedAdd self.sequence 1 .sequenceOverflow
  let plan ← interruptedStartPlan c.sha256 self.state prepared action tombstones terminal.selection
  let live ← exactZeroLiveOf self.state.activeDesired plan.census
  let state ← self.closedState .normalStartTerminal prepared plan (preservedHeadDisposition self.state)
    self.state.activeDesired live terminal.canonicalResponse completionSequence
  self.tryValidatedSuccessor c state

/-! ## The empty head -/

def liveGeneration : LiveMaterialization → Option (U64 × U64 × Digest32)
  | .liveReady _ runtimeHostEpoch resourceGeneration census => some (runtimeHostEpoch, resourceGeneration, census)
  | _ => none

/-- The loop over the live resources: each is owned and unbound, and waits for the drain. -/
def retireResources (actionId : Ref16) (resources : List OwnedResourceRecord) : Res (List OwnedResourceRecord) := do
  refuse (∃ r ∈ resources, ¬ r.phase.isTerminal ∧ (r.phase ≠ .owned ∨ r.actionId.isSome))
  pure (resources.map fun r =>
    if r.phase.isTerminal then r else { r with phase := .cleanupPending, actionId := some actionId })

def drainAction (input : RuntimeEmptyRetireInput) (runtimeHostEpoch resourceGeneration : U64) : JournalActionRef where
  actionId := input.actionId
  kind := .drainToEmpty
  runtimeHostEpoch := runtimeHostEpoch
  clockGeneration := input.preIntent.clockGeneration
  domainGeneration := resourceGeneration
  instanceGeneration := resourceGeneration
  resourceGeneration := resourceGeneration

def retiringFacts (old : ActiveDesiredHead) (input : RuntimeEmptyRetireInput) (action : JournalActionRef)
    (census : Digest32) : RetiringLiveFacts where
  oldSlice := old.slice
  oldSliceProvenance := old.sliceProvenance
  oldSourcePlanDigest := old.sourcePlanDigest
  oldManifestDigest := old.manifestDigest
  signedStartBudgetNanos := input.budgets.startNanos
  signedDrainBudgetNanos := input.budgets.drainNanos
  signedCleanupBudgetNanos := input.budgets.cleanupNanos
  oldRuntimeHostEpoch := action.runtimeHostEpoch
  oldClockGeneration := action.clockGeneration
  oldResourceGeneration := action.resourceGeneration
  oldResourceCensusDigest := census

def preparedEmpty (s : RuntimeJournalState) : Res PreparedOperation :=
  demand (s.prepared.filter fun p => p.phase = .preparedNoEffects && p.incomingKind = .emptyDeactivate)

def tryEmptyHeadRetireSuccessor (input : RuntimeEmptyRetireInput) : Res RuntimeJournalSnapshot := do
  let s := self.state
  let prepared ← preparedEmpty s
  let oldActive ← demand (s.activeDesired.filter (·.kind = .oneSourceLoop))
  let generation ← demand (liveGeneration s.liveMaterialization)
  refuse (input.incomingSlice.digest ≠ prepared.incomingSliceDigest
    ∨ input.preIntent.clockGeneration ≠ prepared.installedClockGeneration
    ∨ input.preIntent.clockGeneration ≠ s.host.clockGenerationHighWater
    ∨ input.preIntent.observedAtNanos = 0
    ∨ prepared.installedDeadlineNanos ≤ input.preIntent.observedAtNanos
    ∨ input.budgets.startNanos = 0
    ∨ input.budgets.drainNanos = 0
    ∨ input.budgets.cleanupNanos = 0)
  let action := drainAction input generation.1 generation.2.1
  let resources ← retireResources action.actionId s.ownedResources
  let census ← computeResourceCensusDigest c.sha256 resources
  self.tryValidatedSuccessor c { s with
    lastTransaction := .emptyHeadRetire
    prepared := some { prepared with
      phase := .headCommittedRetiringOld
      action := some action
      retiring := some (retiringFacts oldActive input action generation.2.2) }
    activeDesired := some (committedHead prepared input.incomingSlice none)
    ownedResources := resources
    liveMaterialization := .draining prepared.incomingSliceDigest prepared.operationId action.actionId
      action.resourceGeneration census }

def tryLatchEmptySuccessSuccessor (observation : RuntimeDeadlineObservation) : Res RuntimeJournalSnapshot := do
  let s := self.state
  let prepared ← demand (s.prepared.filter fun p => p.phase = .headCommittedRetiringOld
    && p.incomingKind = .emptyDeactivate && p.rawOutcome.isNone)
  refuse (observation.clockGeneration ≠ prepared.installedClockGeneration
    ∨ observation.clockGeneration ≠ s.host.clockGenerationHighWater
    ∨ observation.observedAtNanos = 0)
  self.tryValidatedSuccessor c { s with
    lastTransaction := .preparedProgress
    prepared := some { prepared with
      rawOutcome := some (callbackRawAt .knownSuccess none observation prepared.installedDeadlineNanos) } }

/-- The latch of an empty operation that may be closed: its stop succeeded, or it was interrupted or superseded. -/
def emptyCleanupLatch (phase : PreparedPhase) (raw : RawActionOutcomeLatch) : Bool :=
  raw.cleanup = .notObserved && match phase with
    | .headCommittedRetiringOld => raw.callback = .knownSuccess && !raw.hostInterrupted && !raw.higherTenureTakeover
    | .startupReconcileRequired => raw.hostInterrupted && !raw.higherTenureTakeover
    | .supersededReconcileRequired => raw.higherTenureTakeover
    | _ => false

def emptyCleanupTerminalEligible (prepared : PreparedOperation) : Bool :=
  prepared.incomingKind = .emptyDeactivate && prepared.rawOutcome.any (emptyCleanupLatch prepared.phase)

def TerminalOutcome.emptyClosed : TerminalOutcome → Bool
  | .emptyDeactivateExactZero
  | .timedOutButExactZero
  | .supersededAfterIntentExactZero
  | .interruptedButNowExactZero => true
  | _ => false

def emptyExactZeroPlan (sha256 : Sha256) (s : RuntimeJournalState) (prepared : PreparedOperation)
    (action : JournalActionRef) (tombstones : Option RuntimeOneSourceTombstonesInput)
    (observation : RuntimeDeadlineObservation) : Res TerminalPlan := do
  let resources ← installTombstones s.ownedResources action tombstones
  refuse (hasNonterminal resources)
  let census ← computeResourceCensusDigest sha256 resources
  let raw ← okOr prepared.rawOutcome .danglingReference
  let selection ← terminalSelection prepared (exactZeroRaw raw census) observation .mayHaveStarted
  refuse (¬ TerminalOutcome.emptyClosed selection.primary)
  pure ⟨selection, resources, census⟩

def tryPreviewEmptyExactZeroTerminal (tombstones : Option RuntimeOneSourceTombstonesInput)
    (observation : RuntimeDeadlineObservation) : Res RuntimeTerminalPreview := do
  let prepared ← demand (self.state.prepared.filter emptyCleanupTerminalEligible)
  let action ← okOr prepared.action .danglingReference
  let plan ← emptyExactZeroPlan c.sha256 self.state prepared action tombstones observation
  self.terminalPreview c plan .committedIncoming

def tryEmptyExactZeroTerminalSuccessor (tombstones : Option RuntimeOneSourceTombstonesInput)
    (terminal : RuntimeTerminalInput) : Res RuntimeJournalSnapshot := do
  let prepared ← demand (self.state.prepared.filter emptyCleanupTerminalEligible)
  let action ← okOr prepared.action .danglingReference
  let completionSequence ← checkedAdd self.sequence 1 .sequenceOverflow
  let plan ← emptyExactZeroPlan c.sha256 self.state prepared action tombstones terminal.selection
  let active ← okOr self.state.activeDesired .danglingReference
  let state ← self.closedState .exactZeroTerminal prepared plan .committedIncoming
    (some { active with committingResultDigest := some terminal.canonicalResponse.digest })
    (.exactZero prepared.incomingSliceDigest plan.census) terminal.canonicalResponse completionSequence
  self.tryValidatedSuccessor c state

def fastPathPlan (sha256 : Sha256) (s : RuntimeJournalState) (prepared : PreparedOperation)
    (observation : RuntimeDeadlineObservation) : Res TerminalPlan := do
  let selection ← terminalSelection prepared (callbackRaw .notInvoked none) observation .provenNotStarted
  refuse (selection.primary ≠ .emptyDeactivateExactZero)
  let census ← computeResourceCensusDigest sha256 s.ownedResources
  pure ⟨selection, s.ownedResources, census⟩

def tryPreviewEmptyExactZeroFastPath (observation : RuntimeDeadlineObservation) : Res RuntimeTerminalPreview := do
  let prepared ← preparedEmpty self.state
  refuse (¬ exactZeroFastPathEligible self.state)
  let plan ← fastPathPlan c.sha256 self.state prepared observation
  self.terminalPreview c plan .committedIncoming

def tryEmptyExactZeroFastPathSuccessor (incomingSlice : OpaqueCanonicalValue) (terminal : RuntimeTerminalInput) :
    Res RuntimeJournalSnapshot := do
  let prepared ← preparedEmpty self.state
  refuse (¬ exactZeroFastPathEligible self.state ∨ incomingSlice.digest ≠ prepared.incomingSliceDigest)
  let plan ← fastPathPlan c.sha256 self.state prepared terminal.selection
  let completionSequence ← checkedAdd self.sequence 1 .sequenceOverflow
  let state ← self.closedState .exactZeroTerminal prepared plan .committedIncoming
    (some (committedHead prepared incomingSlice (some terminal.canonicalResponse.digest)))
    (.exactZero prepared.incomingSliceDigest plan.census) terminal.canonicalResponse completionSequence
  self.tryValidatedSuccessor c state

/-! ## Operations without effects -/

def effectless (s : RuntimeJournalState) (phase : PreparedPhase) : Res PreparedOperation :=
  demand (s.prepared.filter fun p => p.phase = phase && p.action.isNone && p.rawOutcome.isNone)

def startupAbortedPlan (sha256 : Sha256) (s : RuntimeJournalState) (prepared : PreparedOperation)
    (observation : RuntimeDeadlineObservation) : Res TerminalPlan := do
  let selection ← terminalSelection prepared notInvokedInterruptedRaw observation .provenNotStarted
  refuse (selection.primary ≠ .abortedBeforeIntentNoEffects)
  let census ← computeResourceCensusDigest sha256 s.ownedResources
  pure ⟨selection, s.ownedResources, census⟩

def tryPreviewStartupAbortedNoEffectsTerminal (observation : RuntimeDeadlineObservation) :
    Res RuntimeTerminalPreview := do
  let prepared ← effectless self.state .startupExpiredNoEffects
  let plan ← startupAbortedPlan c.sha256 self.state prepared observation
  self.terminalPreview c plan (preservedHeadDisposition self.state)

def tryStartupAbortedNoEffectsTerminalSuccessor (terminal : RuntimeTerminalInput) : Res RuntimeJournalSnapshot := do
  let prepared ← effectless self.state .startupExpiredNoEffects
  let plan ← startupAbortedPlan c.sha256 self.state prepared terminal.selection
  let completionSequence ← checkedAdd self.sequence 1 .sequenceOverflow
  let state ← self.closedState .operationTerminalNoEffects prepared plan (preservedHeadDisposition self.state)
    self.state.activeDesired self.state.liveMaterialization terminal.canonicalResponse completionSequence
  self.tryValidatedSuccessor c state

def noEffectDeadlinePlan (sha256 : Sha256) (s : RuntimeJournalState) (prepared : PreparedOperation)
    (observation : RuntimeDeadlineObservation) : Res TerminalPlan := do
  refuse (observation.clockGeneration ≠ prepared.installedClockGeneration
    ∨ observation.observedAtNanos < prepared.installedDeadlineNanos)
  let selection ← terminalSelection prepared (timedOutRaw observation.clockGeneration observation.observedAtNanos)
    observation .provenNotStarted
  refuse (¬ (selection.primary = .startTimedOutBeforeIntentNoEffects
    ∨ selection.primary = .stopTimedOutBeforeHeadCommitNoEffects))
  let census ← computeResourceCensusDigest sha256 s.ownedResources
  pure ⟨selection, s.ownedResources, census⟩

def tryPreviewNoEffectDeadlineTerminal (observation : RuntimeDeadlineObservation) : Res RuntimeTerminalPreview := do
  let prepared ← effectless self.state .preparedNoEffects
  let plan ← noEffectDeadlinePlan c.sha256 self.state prepared observation
  self.terminalPreview c plan (preservedHeadDisposition self.state)

def tryNoEffectDeadlineTerminalSuccessor (terminal : RuntimeTerminalInput) : Res RuntimeJournalSnapshot := do
  let prepared ← effectless self.state .preparedNoEffects
  let plan ← noEffectDeadlinePlan c.sha256 self.state prepared terminal.selection
  let completionSequence ← checkedAdd self.sequence 1 .sequenceOverflow
  let state ← self.closedState .operationTerminalNoEffects prepared plan (preservedHeadDisposition self.state)
    self.state.activeDesired self.state.liveMaterialization terminal.canonicalResponse completionSequence
  self.tryValidatedSuccessor c state

/-! ## Builder runs -/

inductive Builder
  | startupInvalidation
  | beginStartupResourceCleanup
  | completeStartupResourceCleanup (tombstones : RuntimeOneSourceTombstonesInput)
  | operationalQuarantine (reasonDigest : Digest32)
  | abortStartupInvalidatedRecovery (observation : RuntimeDeadlineObservation)
  | recoveryPlan (input : RuntimeRecoveryPlanInput)
  | recoveryIntent (observation : RuntimeDeadlineObservation)
  | reserveRecoveryResources (refs : RuntimeOneSourceResourceRefs)
  | ownRecoveryResources (input : RuntimeOneSourceOwnershipInput)
  | latchRecoveryCallback (outcome : RuntimeRecoveryCallbackOutcome) (observation : RuntimeDeadlineObservation)
  | latchRecoveryDeadline (observation : RuntimeDeadlineObservation)
  | beginRecoveryCleanup
  | recoveryLiveReady (observation : RuntimeDeadlineObservation)
  | recoveryFailedNotReady (tombstones : Option RuntimeOneSourceTombstonesInput)
      (observation : RuntimeDeadlineObservation)
  | tenureOnly (input : RuntimeTenureAdmissionInput)
  | fullAdmission (input : RuntimeApplyAdmissionInput)
  | oneSourceIntent (input : RuntimeStartActionInput)
  | reserveOneSourceResources (refs : RuntimeOneSourceResourceRefs)
  | ownOneSourceResources (input : RuntimeOneSourceOwnershipInput)
  | oneSourceSuccess (slice : OpaqueCanonicalValue) (callbackActionId : Ref16) (terminal : RuntimeTerminalInput)
  | oneSourcePostIntentTimeout (terminal : RuntimeTerminalInput)
  | startupInterruptedStart (tombstones : Option RuntimeOneSourceTombstonesInput) (terminal : RuntimeTerminalInput)
  | emptyHeadRetire (input : RuntimeEmptyRetireInput)
  | latchEmptySuccess (observation : RuntimeDeadlineObservation)
  | emptyExactZero (tombstones : Option RuntimeOneSourceTombstonesInput) (terminal : RuntimeTerminalInput)
  | emptyExactZeroFastPath (slice : OpaqueCanonicalValue) (terminal : RuntimeTerminalInput)
  | startupAbortedNoEffects (terminal : RuntimeTerminalInput)
  | noEffectDeadline (terminal : RuntimeTerminalInput)

def Builder.call (c : Contracts) (s : RuntimeJournalSnapshot) : Builder → Res RuntimeJournalSnapshot
  | startupInvalidation => s.tryStartupInvalidationSuccessor c
  | beginStartupResourceCleanup => s.tryBeginStartupResourceCleanupSuccessor c
  | completeStartupResourceCleanup tombstones => s.tryCompleteStartupResourceCleanupSuccessor c tombstones
  | operationalQuarantine reason => s.tryOperationalQuarantineSuccessor c reason
  | abortStartupInvalidatedRecovery observation => s.tryAbortStartupInvalidatedRecoverySuccessor c observation
  | recoveryPlan input => s.tryRecoveryPlanSuccessor c input
  | recoveryIntent observation => s.tryRecoveryIntentSuccessor c observation
  | reserveRecoveryResources refs => s.tryReserveRecoveryResourcesSuccessor c refs
  | ownRecoveryResources input => s.tryOwnRecoveryResourcesSuccessor c input
  | latchRecoveryCallback outcome observation => s.tryLatchRecoveryCallbackSuccessor c outcome observation
  | latchRecoveryDeadline observation => s.tryLatchRecoveryDeadlineSuccessor c observation
  | beginRecoveryCleanup => s.tryBeginRecoveryCleanupSuccessor c
  | recoveryLiveReady observation => s.tryRecoveryLiveReadySuccessor c observation
  | recoveryFailedNotReady tombstones observation => s.tryRecoveryFailedNotReadySuccessor c tombstones observation
  | tenureOnly input => s.tryTenureOnlySuccessor c input
  | fullAdmission input => s.tryFullAdmissionSuccessor c input
  | oneSourceIntent input => s.tryOneSourceIntentSuccessor c input
  | reserveOneSourceResources refs => s.tryReserveOneSourceResourcesSuccessor c refs
  | ownOneSourceResources input => s.tryOwnOneSourceResourcesSuccessor c input
  | oneSourceSuccess slice actionId terminal => s.tryOneSourceSuccessTerminalSuccessor c slice actionId terminal
  | oneSourcePostIntentTimeout terminal => s.tryOneSourcePostIntentTimeoutTerminalSuccessor c terminal
  | startupInterruptedStart tombstones terminal => s.tryStartupInterruptedStartTerminalSuccessor c tombstones terminal
  | emptyHeadRetire input => s.tryEmptyHeadRetireSuccessor c input
  | latchEmptySuccess observation => s.tryLatchEmptySuccessSuccessor c observation
  | emptyExactZero tombstones terminal => s.tryEmptyExactZeroTerminalSuccessor c tombstones terminal
  | emptyExactZeroFastPath slice terminal => s.tryEmptyExactZeroFastPathSuccessor c slice terminal
  | startupAbortedNoEffects terminal => s.tryStartupAbortedNoEffectsTerminalSuccessor c terminal
  | noEffectDeadline terminal => s.tryNoEffectDeadlineTerminalSuccessor c terminal

def runBuilders (c : Contracts) (s : RuntimeJournalSnapshot) (builders : List Builder) : Res RuntimeJournalSnapshot :=
  scan (fun s b => Builder.call c s b) s builders

/-- The snapshots that chains of builder calls reach from `try_initialize`. -/
def BuilderReachable (c : Contracts) (s : RuntimeJournalSnapshot) : Prop :=
  ∃ first builders, Initial c first ∧ runBuilders c first builders = .ok s

variable {c : Contracts} {s s' : RuntimeJournalSnapshot}

theorem tryValidatedSuccessor_ok {state : RuntimeJournalState}
    (h : s.tryValidatedSuccessor c state = .ok s') : Step c s s' ∧ s'.state = state := by
  simp only [tryValidatedSuccessor, bind_ok, exists_unit, pure_ok] at h
  obtain ⟨sequence, _, successor, hnew, haccepted, rfl⟩ := h
  exact ⟨⟨(tryNew_built hnew).1, haccepted⟩, (tryNew_built hnew).2.2.2.2⟩

/-- Every result of the call is an accepted successor of `s`. -/
def Finishes (c : Contracts) (s : RuntimeJournalSnapshot) (call : Res RuntimeJournalSnapshot) : Prop :=
  ∀ s', call = .ok s' → Step c s s'

theorem finishes_tryValidatedSuccessor (c : Contracts) (s : RuntimeJournalSnapshot) (state : RuntimeJournalState) :
    Finishes c s (s.tryValidatedSuccessor c state) :=
  fun _ h => (tryValidatedSuccessor_ok h).1

theorem finishes_bind {α : Type} {x : Res α}
    {f : α → Res RuntimeJournalSnapshot} (h : ∀ a, Finishes c s (f a)) : Finishes c s (x >>= f) := by
  intro s' hok
  obtain ⟨a, _, ha⟩ := bind_ok.mp hok
  exact h a s' ha

attribute [local irreducible] tryValidatedSuccessor in
theorem Builder.call_step {b : Builder} (h : b.call c s = .ok s') : Step c s s' := by
  suffices hfin : Finishes c s (b.call c s) from hfin s' h
  cases b <;> repeat' first
    | refine finishes_bind fun _ => ?_
    | exact finishes_tryValidatedSuccessor c s _

theorem runBuilders_chain : ∀ {builders : List Builder} {s s' : RuntimeJournalSnapshot},
    runBuilders c s builders = .ok s' → Chain c s s'
  | [], s, s', h => by
    cases h
    exact .refl
  | b :: builders, s, s', h => by
    obtain ⟨m, hm, hrest⟩ := (scan_ok_cons _ _ _ _ _).1 h
    exact .head (Builder.call_step hm) (runBuilders_chain hrest)

theorem BuilderReachable.reachable (h : BuilderReachable c s) : Reachable c s := by
  obtain ⟨first, builders, hfirst, hrun⟩ := h
  exact ⟨first, hfirst, runBuilders_chain hrun⟩

theorem BuilderReachable.call (h : BuilderReachable c s) {b : Builder}
    (hcall : b.call c s = .ok s') : BuilderReachable c s' := by
  obtain ⟨first, builders, hfirst, hrun⟩ := h
  refine ⟨first, builders ++ [b], hfirst, ?_⟩
  rw [runBuilders, scan_append]
  exact ⟨s, hrun, by rw [scan, hcall]; rfl⟩

end RuntimeJournalSnapshot
end Journal
end ParaEgox
