import ParaEgox.JournalLive

/-!
# JournalSuccessor — which state may follow which

One validator for each transaction of the journal.  Each rebuilds the only state it allows from the predecessor, with the
fields the transaction may move taken from the candidate, and compares the whole.
-/
namespace ParaEgox
namespace Journal

open Check

/-! ## What a restart and a takeover do to an unfinished action -/

def unknownRaw : RawActionOutcomeLatch where
  callback := .unknownAfterIntent
  callbackReasonDigest := none
  deadline := .notObserved
  observedClockGeneration := 0
  observedAtNanos := 0
  hostInterrupted := false
  higherTenureTakeover := false
  cleanup := .notObserved
  cleanupEvidenceDigest := none

def interruptedRaw (previous : Option RawActionOutcomeLatch) : RawActionOutcomeLatch :=
  { previous.getD unknownRaw with hostInterrupted := true }

def takeoverRaw (previous : Option RawActionOutcomeLatch) : RawActionOutcomeLatch :=
  { previous.getD unknownRaw with higherTenureTakeover := true }

def startupInvalidatedPreparedOp (previous : PreparedOperation) : Res PreparedOperation :=
  match previous.phase with
  | .preparedNoEffects | .supersededBeforeEffects | .startupExpiredNoEffects => do
    rejectIf (previous.action.isSome ∨ previous.rawOutcome.isSome) .nonMonotonicTransition
    pure { previous with phase := .startupExpiredNoEffects }
  | .firstActionIntent | .headCommittedRetiringOld => do
    rejectIf (previous.action.isNone) .nonMonotonicTransition
    pure { previous with phase := .startupReconcileRequired, rawOutcome := some (interruptedRaw previous.rawOutcome) }
  | .supersededReconcileRequired => do
    rejectIf (previous.action.isNone ∨ ¬ previous.rawOutcome.any (·.higherTenureTakeover)) .nonMonotonicTransition
    pure { previous with
      phase := .supersededReconcileRequired, rawOutcome := some (interruptedRaw previous.rawOutcome) }
  | .startupReconcileRequired => do
    rejectIf (previous.action.isNone) .nonMonotonicTransition
    pure { previous with phase := .startupReconcileRequired, rawOutcome := some (interruptedRaw previous.rawOutcome) }

def startupInvalidatedPrepared : Option PreparedOperation → Res (Option PreparedOperation)
  | none => .ok none
  | some previous => do
    let current ← startupInvalidatedPreparedOp previous
    pure (some current)

def startupInvalidatedRecoveryAction (r : RecoveryAction) : Res RecoveryAction :=
  match r.phase with
  | .recoveryPlannedNoEffects | .startupInvalidatedNoEffects => do
    rejectIf (r.rawOutcome.isSome) .nonMonotonicTransition
    pure { r with phase := .startupInvalidatedNoEffects }
  | .startCallIntent | .startupReconcileRequired =>
    pure { r with phase := .startupReconcileRequired, rawOutcome := some (interruptedRaw r.rawOutcome) }

def startupInvalidatedRecovery : Option RecoveryAction → Res (Option RecoveryAction)
  | none => .ok none
  | some previous => do
    let current ← startupInvalidatedRecoveryAction previous
    pure (some current)

def tenureSuccessorPreparedOp (previous : PreparedOperation) : PreparedOperation :=
  match previous.phase with
  | .preparedNoEffects | .supersededBeforeEffects | .startupExpiredNoEffects =>
    { previous with phase := .supersededBeforeEffects }
  | .firstActionIntent | .headCommittedRetiringOld | .supersededReconcileRequired | .startupReconcileRequired =>
    { previous with phase := .supersededReconcileRequired, rawOutcome := some (takeoverRaw previous.rawOutcome) }

def tenureSuccessorPrepared (previous : Option PreparedOperation) : Option PreparedOperation :=
  previous.map tenureSuccessorPreparedOp

def tenureSuccessorRecoveryAction (previous : RecoveryAction) : RecoveryAction :=
  match previous.phase with
  | .recoveryPlannedNoEffects | .startupInvalidatedNoEffects => previous
  | .startCallIntent | .startupReconcileRequired =>
    { previous with rawOutcome := some (takeoverRaw previous.rawOutcome) }

def tenureSuccessorRecovery (previous : Option RecoveryAction) : Option RecoveryAction :=
  previous.map tenureSuccessorRecoveryAction

def startupEligibility (sha256 : Sha256) (previous : RuntimeJournalState) :
    Res (StartupRecoveryEligibility × Option Digest32) :=
  match previous.liveMaterialization with
  | .startupInvalidated _ _ _ eligibility _ failure _ => .ok (eligibility, failure)
  | live =>
    if (match live with | .recovering _ _ _ _ => true | _ => false)
        && previous.recoveryAction.any (fun r => r.phase = .recoveryPlannedNoEffects && r.rawOutcome.isNone)
        && previous.ownedResources.all (·.phase.isTerminal) then
      .ok (.eligibleOneSourceLoop, none)
    else if previous.currentAction.isSome then do
      let evidence ← startupReconcileEvidenceDigest sha256 previous
      pure (.reconcileRequired, some evidence)
    else
      let reconcile := do
        let evidence ← startupReconcileEvidenceDigest sha256 previous
        pure (.reconcileRequired, some evidence)
      match previous.activeDesired, live with
      | none, .none => .ok (.noActiveHead, none)
      | some active, .exactZero head _ =>
        if active.kind = .emptyDeactivate ∧ active.slice.digest = head then .ok (.canonicalEmptyExactZero, none)
        else reconcile
      | some active, .liveReady head _ _ _ =>
        if active.kind = .oneSourceLoop ∧ active.slice.digest = head then .ok (.eligibleOneSourceLoop, none)
        else reconcile
      | some active, .recoveryFailedNotReady head _ failure _ =>
        if active.kind = .oneSourceLoop ∧ active.slice.digest = head then
          .ok (.recoveryFailureLatched, some failure)
        else reconcile
      | _, .quarantined _ reason _ => .ok (.reconcileRequired, some reason)
      | _, _ => reconcile

/-! ## Latches -/

def preparedPhaseSuccessor (current previous : PreparedPhase) : Bool :=
  current = previous || match previous, current with
    | .preparedNoEffects, .firstActionIntent
    | .preparedNoEffects, .headCommittedRetiringOld
    | .preparedNoEffects, .supersededBeforeEffects
    | .firstActionIntent, .supersededReconcileRequired
    | .headCommittedRetiringOld, .supersededReconcileRequired => true
    | _, _ => false

def recoveryPhaseSuccessor (current previous : RecoveryPhase) : Bool :=
  current = previous || (previous = .recoveryPlannedNoEffects && current = .startCallIntent)

def optionalActionPreserved (current previous : Option JournalActionRef) : Bool :=
  previous.isNone || current = previous

def latchPreserved (current previous : Option RawActionOutcomeLatch) : Bool :=
  match previous, current with
  | none, _ => true
  | some _, none => false
  | some previous, some current => current.preserves previous

/-- `prepared_identity_equal`: the admitted facts of an operation, its progress apart. -/
def preparedIdentityEqual (current previous : PreparedOperation) : Bool :=
  current.sourceScope = previous.sourceScope
    && current.operationId = previous.operationId
    && current.sourceRevision = previous.sourceRevision
    && current.request = previous.request
    && current.sliceProvenance = previous.sliceProvenance
    && current.requestNonceIdentity = previous.requestNonceIdentity
    && current.sourcePlanDigest = previous.sourcePlanDigest
    && current.incomingSliceDigest = previous.incomingSliceDigest
    && current.incomingKind = previous.incomingKind
    && current.manifestDigest = previous.manifestDigest
    && current.expectedActive = previous.expectedActive
    && current.temporalConstraintId = previous.temporalConstraintId
    && current.temporalLineageDigest = previous.temporalLineageDigest
    && current.installedClockGeneration = previous.installedClockGeneration
    && current.installedDeadlineNanos = previous.installedDeadlineNanos
    && current.responseChannel = previous.responseChannel

/-- `validate_prepared_latch_successor` on two present operations. -/
def validatePreparedLatchSuccessor (current previous : PreparedOperation) : Res Unit :=
  if current.operationId ≠ previous.operationId then .ok ()
  else rejectIf (¬ preparedIdentityEqual current previous
    ∨ ¬ preparedPhaseSuccessor current.phase previous.phase
    ∨ ¬ optionalActionPreserved current.action previous.action
    ∨ (previous.retiring.isSome ∧ current.retiring ≠ previous.retiring)
    ∨ ¬ latchPreserved current.rawOutcome previous.rawOutcome) .nonMonotonicTransition

/-- `validate_recovery_latch_successor` on two present actions. -/
def validateRecoveryLatchSuccessor (current previous : RecoveryAction) : Res Unit :=
  rejectIf (current.action.actionId = previous.action.actionId
    ∧ (current.action ≠ previous.action
      ∨ current.sliceProvenance ≠ previous.sliceProvenance
      ∨ current.activeSliceDigest ≠ previous.activeSliceDigest
      ∨ current.manifestDigest ≠ previous.manifestDigest
      ∨ current.storePinnedBuildIdentity ≠ previous.storePinnedBuildIdentity
      ∨ current.compiledBuildInstanceId ≠ previous.compiledBuildInstanceId
      ∨ current.compiledCompatibilityDigest ≠ previous.compiledCompatibilityDigest
      ∨ current.signedStartBudgetNanos ≠ previous.signedStartBudgetNanos
      ∨ current.deadlineNanos ≠ previous.deadlineNanos
      ∨ current.deadlineEvidenceDigest ≠ previous.deadlineEvidenceDigest
      ∨ ¬ recoveryPhaseSuccessor current.phase previous.phase
      ∨ ¬ latchPreserved current.rawOutcome previous.rawOutcome)) .nonMonotonicTransition

def sameOwnerEventFacts (current previous : Option RawActionOutcomeLatch) : Bool :=
  current.any (·.hostInterrupted) = previous.any (·.hostInterrupted)
    && current.any (·.higherTenureTakeover) = previous.any (·.higherTenureTakeover)

/-! ## Resources across a step -/

/-- The record a resource may become in one `ResourceProgress`. -/
def resourceMayBecome (old new : OwnedResourceRecord) : Bool :=
  if old.phase = .reserved ∧ new.phase = .reservedAtCrashExactZero then
    new.tombstoneEvidence.isSome && decide (new = { old with
      phase := .reservedAtCrashExactZero, actionId := none, tombstoneEvidence := new.tombstoneEvidence })
  else !(new.kind ≠ old.kind
    || new.logicalRef ≠ old.logicalRef
    || new.generation ≠ old.generation
    || new.runtimeHostEpoch ≠ old.runtimeHostEpoch
    || new.phase.code < old.phase.code
    || new.phase.code > old.phase.code + 1
    || (new.phase = old.phase && new ≠ old)
    || (old.osIdentity.isSome && new.osIdentity ≠ old.osIdentity)
    || (old.workspaceIdentity.isSome && new.workspaceIdentity ≠ old.workspaceIdentity)
    || (old.containmentIdentity.isSome && new.containmentIdentity ≠ old.containmentIdentity)
    || (old.tombstoneEvidence.isSome && new.tombstoneEvidence ≠ old.tombstoneEvidence)
    || (old.actionId.isSome && new.actionId ≠ old.actionId
      && !(new.phase.isTerminal && new.actionId.isNone)))

def validateResourceSuccessor (current previous : List OwnedResourceRecord) : Res Unit :=
  forEach previous fun old =>
    match Keyed.find OwnedResourceRecord.key old.key current with
    | none => .error .nonMonotonicTransition
    | some new => rejectIf (¬ resourceMayBecome old new) .nonMonotonicTransition

/-- The loops over the old resources share one shape: a terminal record stays, any other becomes what `expected` says. -/
def resourcesBecome (current previous : List OwnedResourceRecord)
    (expected : OwnedResourceRecord → OwnedResourceRecord → Option OwnedResourceRecord) : Bool :=
  current.length = previous.length && previous.all fun old =>
    match Keyed.find OwnedResourceRecord.key old.key current with
    | none => false
    | some new => if old.phase.isTerminal then new = old else expected old new = some new

def countLive (resources : List OwnedResourceRecord) (kind : ResourceKind) : Nat :=
  resources.countP fun r => !r.phase.isTerminal && r.kind = kind

def oneSourceKind : ResourceKind → Bool
  | .loopDomain | .cardInstance => true
  | .resourceSlot | .externalHandle => false

def resourcesPublishLiveGeneration (current previous : List OwnedResourceRecord) (action : JournalActionRef) : Bool :=
  resourcesBecome current previous (fun old _ =>
      if old.phase = .owned ∧ old.actionId = some action.actionId ∧ old.generation = action.resourceGeneration
          ∧ old.runtimeHostEpoch = action.runtimeHostEpoch ∧ oneSourceKind old.kind then
        some { old with actionId := none }
      else none)
    && countLive previous .loopDomain = 1 && countLive previous .cardInstance = 1

def resourcesBeginRetire (current previous : List OwnedResourceRecord) (action : JournalActionRef) : Bool :=
  resourcesBecome current previous (fun old _ =>
      if old.phase = .owned ∧ old.actionId.isNone ∧ old.generation = action.resourceGeneration
          ∧ old.runtimeHostEpoch = action.runtimeHostEpoch ∧ oneSourceKind old.kind then
        some { old with phase := .cleanupPending, actionId := some action.actionId }
      else none)
    && countLive previous .loopDomain = 1 && countLive previous .cardInstance = 1

def tombstonedPhase : ResourcePhase → Option ResourcePhase
  | .cleanupPending => some .terminal
  | .reserved => some .reservedAtCrashExactZero
  | .owned | .terminal | .reservedAtCrashExactZero => none

def resourcesReachExactZero (current previous : List OwnedResourceRecord) (action : Option JournalActionRef) : Bool :=
  resourcesBecome current previous fun old new => do
    let action ← action
    let phase ← tombstonedPhase old.phase
    if old.actionId = some action.actionId ∧ old.generation = action.resourceGeneration
        ∧ old.runtimeHostEpoch = action.runtimeHostEpoch ∧ new.tombstoneEvidence.isSome then
      some { old with phase := phase, actionId := none, tombstoneEvidence := new.tombstoneEvidence }
    else none

/-! ## Heads and appended terminals -/

def expectedActiveMatches (expected : ExpectedActiveCas) (active : Option ActiveDesiredHead) : Bool :=
  match expected, active with
  | .none, none => true
  | .exact expected, some active => expected = active.slice.digest
  | _, _ => false

def fullAdmissionLiveMaterialization (previous : RuntimeJournalState) : LiveMaterialization :=
  match previous.liveMaterialization with
  | .startupInvalidated _ _ _ .noActiveHead _ _ _ => .none
  | .startupInvalidated (some head) _ _ .canonicalEmptyExactZero _ _ census => .exactZero head census
  | live => live

def fullAdmissionShapeIsAllowed (incoming : DesiredHeadKind) (previous : RuntimeJournalState) : Bool :=
  if previous.currentAction.isSome
      ∨ ((∃ r ∈ previous.ownedResources, ¬ r.phase.isTerminal)
        ∧ ¬ previous.liveMaterialization.isLiveReady) then false
  else match incoming with
    | .oneSourceLoop => match previous.activeDesired, previous.liveMaterialization with
      | none, .none => true
      | none, .startupInvalidated _ _ _ .noActiveHead _ _ _ => true
      | some active, .exactZero head _ => active.kind = .emptyDeactivate && active.slice.digest = head
      | some active, .startupInvalidated (some head) _ _ .canonicalEmptyExactZero _ _ _ =>
        active.kind = .emptyDeactivate && active.slice.digest = head
      | _, _ => false
    | .emptyDeactivate => match previous.activeDesired, previous.liveMaterialization with
      | none, .none => true
      | none, .startupInvalidated none _ _ .noActiveHead _ _ _ => true
      | _, .liveReady _ _ _ _ => true
      | _, .exactZero _ _ => true
      | _, .recoveryFailedNotReady _ _ _ _ => true
      | some active, .startupInvalidated (some head) _ _ .canonicalEmptyExactZero _ _ _ => active.slice.digest = head
      | some active, .startupInvalidated (some head) _ _ .recoveryFailureLatched _ _ _ => active.slice.digest = head
      | _, _ => false

/-- `with_resource_census`: a live state under another census digest. -/
def LiveMaterialization.withResourceCensus (live : LiveMaterialization) (census : Digest32) : LiveMaterialization :=
  match live with
  | .none => .none
  | .startupInvalidated head epoch generation eligibility invalidation failure _ =>
    .startupInvalidated head epoch generation eligibility invalidation failure census
  | .recovering head actionId generation _ => .recovering head actionId generation census
  | .liveReady head epoch generation _ => .liveReady head epoch generation census
  | .recoveryFailedNotReady head actionId failure _ => .recoveryFailedNotReady head actionId failure census
  | .draining head operationId actionId generation _ => .draining head operationId actionId generation census
  | .exactZero head _ => .exactZero head census
  | .quarantined head reason _ => .quarantined head reason census

def liveIdentityPreservedExceptCensus (current previous : LiveMaterialization) : Bool :=
  current.withResourceCensus 0 = previous.withResourceCensus 0

def terminalMatchesPrepared (prepared : PreparedOperation) (t : TerminalOperationRecord) : Bool :=
  t.sourceScope = prepared.sourceScope
    && t.operationId = prepared.operationId
    && t.requestDigest = prepared.request.digest
    && t.requestNonceIdentity = prepared.requestNonceIdentity
    && t.sliceProvenance = prepared.sliceProvenance
    && t.sourceRevision = prepared.sourceRevision
    && t.sourcePlanDigest = prepared.sourcePlanDigest
    && t.targetSliceDigest = prepared.incomingSliceDigest
    && t.temporalConstraintId = prepared.temporalConstraintId
    && t.temporalLineageDigest = prepared.temporalLineageDigest
    && t.incomingKind = prepared.incomingKind
    && t.completionPredecessorPhase = prepared.phase
    && t.installedClockGeneration = prepared.installedClockGeneration
    && t.installedDeadlineNanos = prepared.installedDeadlineNanos
    && t.action = prepared.action

def appendedTerminalForPrepared (current previous : RuntimeJournalState) (prepared : PreparedOperation) :
    Option TerminalOperationRecord :=
  if current.terminalOperations.length ≠ previous.terminalOperations.length + 1
      ∨ ¬ Keyed.recordsPreserved TerminalOperationRecord.key current.terminalOperations previous.terminalOperations then
    none
  else current.terminalOperations.find? (terminalMatchesPrepared prepared)

def appendedRecoveryTerminal (current previous : RuntimeJournalState) (recovery : RecoveryAction) :
    Option RecoveryTerminalRecord :=
  if current.recoveryTerminals.length ≠ previous.recoveryTerminals.length + 1
      ∨ ¬ previous.recoveryTerminals.isPrefixOf current.recoveryTerminals then
    none
  else current.recoveryTerminals.getLast?.filter (·.recovery = recovery)

def preservedHeadDisposition (s : RuntimeJournalState) : TerminalHeadDisposition := .preserved s.activeHead

def exactZeroFastPathEligible (previous : RuntimeJournalState) : Bool :=
  if previous.currentAction.isSome ∨ ∃ r ∈ previous.ownedResources, ¬ r.phase.isTerminal then false
  else match previous.activeDesired, previous.liveMaterialization with
    | none, .none => true
    | none, .startupInvalidated none _ _ .noActiveHead _ _ _ => true
    | some active, .exactZero head _ => active.kind = .emptyDeactivate && active.slice.digest = head
    | some active, .recoveryFailedNotReady head _ _ _ => active.kind = .oneSourceLoop && active.slice.digest = head
    | some active, .startupInvalidated (some head) _ _ .canonicalEmptyExactZero _ _ _ => active.slice.digest = head
    | some active, .startupInvalidated (some head) _ _ .recoveryFailureLatched _ _ _ => active.slice.digest = head
    | _, _ => false

end Journal
end ParaEgox
