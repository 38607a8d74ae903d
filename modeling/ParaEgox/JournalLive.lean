import ParaEgox.JournalState

/-!
# JournalLive — the live cross references, and the whole validator

Each live materialization is checked against the desired head, the current action, the resources and the terminal or
recovery record that produced it; `validate` runs every part in the source's order.
-/
namespace ParaEgox
namespace Journal

open Check

namespace RuntimeJournalState

def expectActive (s : RuntimeJournalState) (expectedKind : DesiredHeadKind) : Res ActiveDesiredHead := do
  let active ← okOr s.activeDesired .danglingReference
  rejectIf (active.kind ≠ expectedKind) .invalidStateInvariant
  pure active

def committedBy (active : ActiveDesiredHead) (resultDigest : Digest32) (t : TerminalOperationRecord) : Bool :=
  t.sourceScope = active.sourceScope
    && t.operationId = active.operationId
    && t.sourceRevision = active.sourceRevision
    && t.sourcePlanDigest = active.sourcePlanDigest
    && t.sliceProvenance = active.sliceProvenance
    && t.targetSliceDigest = active.slice.digest
    && t.headDisposition = .committedIncoming
    && t.resultDigest = resultDigest

/-- The terminal that committed the head is among the recorded ones. -/
def validateActiveCommitRef (s : RuntimeJournalState) (active : ActiveDesiredHead) : Res Unit := do
  let resultDigest ← okOr active.committingResultDigest .danglingReference
  rejectIf (¬ ∃ t ∈ s.terminalOperations, committedBy active resultDigest t
    && t.incomingKind = active.kind && terminalHeadCommitsIncoming t.selection.primary active.kind) .danglingReference

def normalProducer (active : ActiveDesiredHead) (resultDigest : Digest32) (runtimeHostEpoch resourceGeneration : U64)
    (resourceCensusDigest : Digest32) (t : TerminalOperationRecord) : Bool :=
  committedBy active resultDigest t
    && t.selection.primary = .oneSourceLoopActive
    && t.resourceCensusDigest = resourceCensusDigest
    && t.action.any fun action => action.kind = .startOneSourceLoop
      && action.runtimeHostEpoch = runtimeHostEpoch && action.resourceGeneration = resourceGeneration

def recoveryProducer (active : ActiveDesiredHead) (runtimeHostEpoch resourceGeneration : U64)
    (resourceCensusDigest : Digest32) (t : RecoveryTerminalRecord) : Bool :=
  t.recovery.sourceScope = active.sourceScope
    && t.recovery.sourceRevision = active.sourceRevision
    && t.recovery.sourcePlanDigest = active.sourcePlanDigest
    && t.recovery.sliceProvenance = active.sliceProvenance
    && t.recovery.activeSliceDigest = active.slice.digest
    && t.selection.primary = .oneSourceLoopActive
    && t.failureLatchDigest.isNone
    && t.resourceCensusDigest = resourceCensusDigest
    && t.recovery.action.runtimeHostEpoch = runtimeHostEpoch
    && t.recovery.action.resourceGeneration = resourceGeneration

/-- Exactly one recorded operation or recovery produced what is live. -/
def validateLiveReadyProducer (s : RuntimeJournalState) (active : ActiveDesiredHead)
    (runtimeHostEpoch resourceGeneration : U64) (resourceCensusDigest : Digest32) : Res Unit := do
  let resultDigest ← okOr active.committingResultDigest .danglingReference
  rejectIf (s.terminalOperations.countP
      (normalProducer active resultDigest runtimeHostEpoch resourceGeneration resourceCensusDigest)
    + s.recoveryTerminals.countP (recoveryProducer active runtimeHostEpoch resourceGeneration resourceCensusDigest) ≠ 1)
    .danglingReference

def validateExactZeroCommitCensus (s : RuntimeJournalState) (active : ActiveDesiredHead)
    (resourceCensusDigest : Digest32) : Res Unit := do
  let resultDigest ← okOr active.committingResultDigest .danglingReference
  rejectIf (s.terminalOperations.countP (fun t => committedBy active resultDigest t
    && t.incomingKind = .emptyDeactivate
    && t.resourceCensusDigest = resourceCensusDigest
    && terminalHeadCommitsIncoming t.selection.primary .emptyDeactivate) ≠ 1) .danglingReference

def headMatches (s : RuntimeJournalState) (recorded : Option TargetSliceDigest) : Res Unit :=
  rejectIf (recorded ≠ s.activeHead) .danglingReference

def latchedFailure (active : ActiveDesiredHead) (failureDigest census : Digest32) (t : RecoveryTerminalRecord) : Bool :=
  t.failureLatchDigest = some failureDigest
    && t.recovery.activeSliceDigest = active.slice.digest
    && t.recovery.sourceScope = active.sourceScope
    && t.recovery.sourceRevision = active.sourceRevision
    && t.recovery.sourcePlanDigest = active.sourcePlanDigest
    && t.resourceCensusDigest = census
    && t.selection.primary ≠ .oneSourceLoopActive
    && t.selection.primary ≠ .abortedBeforeIntentNoEffects

/-- The facts each eligibility of a restart stands on. -/
def validateEligibility (s : RuntimeJournalState) (eligibility : StartupRecoveryEligibility)
    (failureEvidenceDigest : Option Digest32) (recordedCensus : Digest32) : Res Unit :=
  match eligibility with
  | .noActiveHead =>
    rejectIf (s.activeDesired.isSome ∨ failureEvidenceDigest.isSome ∨ s.nonterminal.length ≠ 0
      ∨ s.currentAction.isSome) .invalidStateInvariant
  | .canonicalEmptyExactZero => do
    let active ← s.expectActive .emptyDeactivate
    rejectIf (s.nonterminal.length ≠ 0 ∨ failureEvidenceDigest.isSome ∨ s.currentAction.isSome) .invalidStateInvariant
    s.validateActiveCommitRef active
  | .eligibleOneSourceLoop => do
    let active ← s.expectActive .oneSourceLoop
    rejectIf (failureEvidenceDigest.isSome) .invalidStateInvariant
    s.validateActiveCommitRef active
  | .recoveryFailureLatched => do
    let active ← s.expectActive .oneSourceLoop
    let failureDigest ← okOr failureEvidenceDigest .danglingReference
    ensureNonzeroDigest failureDigest
    rejectIf (s.recoveryTerminals.countP (latchedFailure active failureDigest recordedCensus) ≠ 1
      ∨ s.nonterminal.length ≠ 0 ∨ s.currentAction.isSome) .danglingReference
    s.validateActiveCommitRef active
  | .reconcileRequired => do
    let failureDigest ← okOr failureEvidenceDigest .danglingReference
    ensureNonzeroDigest failureDigest

def validateStartupInvalidated (s : RuntimeJournalState) (head : Option TargetSliceDigest)
    (previousEpoch previousGeneration : U64) (eligibility : StartupRecoveryEligibility) (invalidation : Digest32)
    (failure : Option Digest32) (recordedCensus census : Digest32) : Res Unit := do
  rejectIf (s.host.runtimeHostEpochHighWater ≤ previousEpoch
    ∨ s.host.clockGenerationHighWater ≤ previousGeneration
    ∨ recordedCensus ≠ census) .invalidStateInvariant
  ensureNonzeroDigest invalidation
  s.headMatches head
  s.validateEligibility eligibility failure recordedCensus

def validateRecovering (s : RuntimeJournalState) (head : TargetSliceDigest) (actionId : Ref16)
    (resourceGeneration : U64) (recordedCensus census : Digest32) : Res Unit := do
  ensureNonzeroRef actionId
  let active ← s.expectActive .oneSourceLoop
  rejectIf (active.slice.digest ≠ head ∨ resourceGeneration = 0 ∨ recordedCensus ≠ census) .danglingReference
  s.validateActiveCommitRef active
  let recovery ← okOr s.recoveryAction .danglingReference
  rejectIf (recovery.action.actionId ≠ actionId ∨ recovery.action.resourceGeneration ≠ resourceGeneration)
    .danglingReference
  rejectIf (recovery.phase = .recoveryPlannedNoEffects ∧ s.nonterminal.length ≠ 0) .invalidStateInvariant

def validateLiveReady (s : RuntimeJournalState) (head : TargetSliceDigest) (runtimeHostEpoch resourceGeneration : U64)
    (recordedCensus census : Digest32) : Res Unit := do
  let active ← s.expectActive .oneSourceLoop
  rejectIf (active.slice.digest ≠ head
    ∨ runtimeHostEpoch ≠ s.host.runtimeHostEpochHighWater
    ∨ resourceGeneration = 0
    ∨ recordedCensus ≠ census
    ∨ s.currentAction.isSome
    ∨ s.nonterminal.length = 0
    ∨ ∃ r ∈ s.ownedResources, ¬ r.phase.isTerminal
      ∧ (r.phase ≠ .owned ∨ r.actionId.isSome ∨ r.generation ≠ resourceGeneration
        ∨ r.runtimeHostEpoch ≠ runtimeHostEpoch)) .danglingReference
  s.validateActiveCommitRef active
  s.validateLiveReadyProducer active runtimeHostEpoch resourceGeneration recordedCensus

def failedEffectContradicts (t : RecoveryTerminalRecord) : Bool :=
  match t.selection.lifecycleEffect with
  | .provenNotStarted => t.selection.raw.callback ≠ .notInvoked || t.selection.raw.cleanup ≠ .notObserved
  | .mayHaveStarted => t.selection.raw.cleanup ≠ .exactZero

/-- The slice pattern `[x]`. -/
def onlyOne {α : Type} : List α → Option α
  | [x] => some x
  | _ => none

def validateRecoveryFailedNotReady (s : RuntimeJournalState) (head : TargetSliceDigest) (actionId : Ref16)
    (failureLatchDigest recordedCensus census : Digest32) : Res Unit := do
  let active ← s.expectActive .oneSourceLoop
  ensureNonzeroRef actionId
  ensureNonzeroDigest failureLatchDigest
  let terminal ← okOr (onlyOne (s.recoveryTerminals.filter (·.recovery.action.actionId = actionId))) .danglingReference
  rejectIf (active.slice.digest ≠ head
    ∨ s.nonterminal.length ≠ 0
    ∨ recordedCensus ≠ census
    ∨ s.currentAction.isSome
    ∨ terminal.recovery.activeSliceDigest ≠ head
    ∨ terminal.resourceCensusDigest ≠ recordedCensus
    ∨ terminal.failureLatchDigest ≠ some failureLatchDigest
    ∨ terminal.selection.primary = .oneSourceLoopActive
    ∨ failedEffectContradicts terminal) .danglingReference
  s.validateActiveCommitRef active

def validateDraining (s : RuntimeJournalState) (head : TargetSliceDigest) (operationId actionId : Ref16)
    (retiringGeneration : U64) (recordedCensus census : Digest32) : Res Unit := do
  ensureNonzeroRef operationId
  ensureNonzeroRef actionId
  let active ← s.expectActive .emptyDeactivate
  let prepared ← okOr s.prepared .danglingReference
  rejectIf (active.slice.digest ≠ head
    ∨ prepared.operationId ≠ operationId
    ∨ ¬ (prepared.phase = .headCommittedRetiringOld ∨ prepared.phase = .supersededReconcileRequired)
    ∨ prepared.action.map (·.actionId) ≠ some actionId
    ∨ prepared.action.map (·.resourceGeneration) ≠ some retiringGeneration
    ∨ prepared.retiring.map (·.oldResourceGeneration) ≠ some retiringGeneration
    ∨ recordedCensus ≠ census
    ∨ (¬ ∃ r ∈ s.ownedResources, ¬ r.phase.isTerminal ∧ r.actionId = some actionId
      ∧ r.generation = retiringGeneration)
    ∨ ∃ r ∈ s.ownedResources, ¬ r.phase.isTerminal
      ∧ (r.phase ≠ .cleanupPending ∨ r.actionId ≠ some actionId ∨ r.generation ≠ retiringGeneration
        ∨ r.runtimeHostEpoch ≠ (prepared.action.map (·.runtimeHostEpoch)).getD 0)) .danglingReference

def validateExactZero (s : RuntimeJournalState) (head : TargetSliceDigest) (recordedCensus census : Digest32) :
    Res Unit := do
  let active ← s.expectActive .emptyDeactivate
  rejectIf (active.slice.digest ≠ head ∨ s.unboundNonterminal.length ≠ 0 ∨ recordedCensus ≠ census) .danglingReference
  s.validateActiveCommitRef active
  match s.currentAction with
  | none => s.validateExactZeroCommitCensus active recordedCensus
  | some action =>
    rejectIf (¬ (action.kind = .startOneSourceLoop
      ∧ ∃ prepared ∈ s.prepared, prepared.incomingKind = .oneSourceLoop ∧ prepared.action = some action))
      .invalidStateInvariant

def validateQuarantined (s : RuntimeJournalState) (head : Option TargetSliceDigest)
    (reason recordedCensus census : Digest32) : Res Unit := do
  ensureNonzeroDigest reason
  rejectIf (recordedCensus ≠ census) .danglingReference
  s.headMatches head

/-- What the live state says of head, actions and resources is what the journal records of them. -/
def validateLiveCrossReferences (c : Contracts) (s : RuntimeJournalState) : Res Unit := do
  let census ← computeResourceCensusDigest c.sha256 s.ownedResources
  match s.liveMaterialization with
  | .none =>
    rejectIf (s.activeDesired.isSome ∨ s.recoveryAction.isSome ∨ s.unboundNonterminal.length ≠ 0) .danglingReference
  | .startupInvalidated head epoch generation eligibility invalidation failure recorded =>
    s.validateStartupInvalidated head epoch generation eligibility invalidation failure recorded census
  | .recovering head actionId generation recorded => s.validateRecovering head actionId generation recorded census
  | .liveReady head epoch generation recorded => s.validateLiveReady head epoch generation recorded census
  | .recoveryFailedNotReady head actionId failure recorded =>
    s.validateRecoveryFailedNotReady head actionId failure recorded census
  | .draining head operationId actionId generation recorded =>
    s.validateDraining head operationId actionId generation recorded census
  | .exactZero head recorded => s.validateExactZero head recorded census
  | .quarantined head reason recorded => s.validateQuarantined head reason recorded census

/-- **Validity of a state**: each part in itself, then what the parts say of each other. -/
def validateForPayloadVersion (c : Contracts) (s : RuntimeJournalState) (snapshotSequence : U64)
    (payloadVersion : Nat) : Res Unit := do
  rejectIf (snapshotSequence = 0) .invalidSequence
  let isInitialSnapshot := decide (snapshotSequence = 1)
  rejectIf (isInitialSnapshot ≠ decide (s.lastTransaction = .initialized)
    ∨ isInitialSnapshot ≠ decide (s.host.runtimeHostEpochHighWater = 0 ∧ s.host.clockGenerationHighWater = 0))
    .invalidStateInvariant
  s.validateHost
  s.validateScopeAndHighWater c payloadVersion
  s.validateActions c
  s.validateProducerGenerations
  s.validateResources
  s.validateTerminals c snapshotSequence
  s.validateRecoveryTerminals c snapshotSequence
  s.validateGlobalCompletionChronology
  s.validateLiveCrossReferences c
  s.validateTerminalHeadChain

def validate (c : Contracts) (s : RuntimeJournalState) (snapshotSequence : U64) : Res Unit :=
  s.validateForPayloadVersion c snapshotSequence runtimeJournalPayloadVersion

end RuntimeJournalState
end Journal
end ParaEgox
