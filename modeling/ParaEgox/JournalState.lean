import ParaEgox.JournalRecords

/-!
# JournalState — the complete state validator

`RuntimeJournalState::validate`: host and ledgers, scopes and high water, actions, producer generations, resources,
terminals, recovery terminals, the global completion order, the live cross references and the head chain.
-/
namespace ParaEgox
namespace Journal

open Check

namespace RuntimeJournalState

/-- The action that currently owns effects: the prepared operation's, else the recovery's. -/
def currentAction (s : RuntimeJournalState) : Option JournalActionRef :=
  match s.prepared.bind (·.action) with
  | some action => some action
  | none => s.recoveryAction.map (·.action)

def activeHead (s : RuntimeJournalState) : Option TargetSliceDigest := s.activeDesired.map (·.slice.digest)

def validateHost (s : RuntimeJournalState) : Res Unit := do
  let host := s.host
  ensureNonzeroRef host.clockDomain
  host.buildDescriptor.validateBound maxPinnedOpaqueArtifactBytes
  host.singletonManifest.validateBound maxPinnedOpaqueArtifactBytes
  host.storePinnedBuildIdentity.validate
  rejectIf (host.compiledBuildInstanceId = 0) .zeroReference
  ensureNonzeroDigest host.compiledCompatibilityDigest
  rejectIf (host.buildDescriptor.digest ≠ host.storePinnedBuildIdentity.buildDescriptorDigest
    ∨ host.compiledBuildInstanceId ≠ host.storePinnedBuildIdentity.buildInstanceId
    ∨ host.compiledCompatibilityDigest ≠ host.storePinnedBuildIdentity.compiledReferenceCompatibilityDigest)
    .invalidStateInvariant
  ensureNonzeroDigest host.admissionPolicyFingerprint
  ensureNonzeroDigest host.channelPolicyFingerprint
  ensureNonzeroDigest host.controllerKeyFingerprint
  rejectIf (decide (host.runtimeHostEpochHighWater = 0) ≠ decide (host.clockGenerationHighWater = 0))
    .invalidStateInvariant
  validateReplayRecords host.tenureNonces maxRuntimeTenureNonces
  validateReplayRecords host.requestNonces maxRuntimeRequestNonces
  validateTemporalRecords host.temporalLineages host.clockGenerationHighWater
  rejectIf (host.runtimeHostEpochHighWater = 0
    ∧ (s.writerFence.isSome ∨ s.sourceRevisionHighWater.isSome ∨ s.prepared.isSome ∨ s.activeDesired.isSome
      ∨ s.liveMaterialization ≠ .none ∨ s.recoveryAction.isSome ∨ s.recoveryTerminals ≠ []
      ∨ s.ownedResources ≠ [] ∨ s.terminalOperations ≠ [] ∨ host.tenureNonces ≠ [] ∨ host.requestNonces ≠ []
      ∨ host.temporalLineages ≠ [])) .invalidStateInvariant

def validateOwnerTargetBinding (s : RuntimeJournalState) (ownerTargetFingerprint : Digest32) : Res Unit :=
  rejectIf (∃ lineage ∈ s.host.temporalLineages, lineage.targetFingerprint ≠ ownerTargetFingerprint)
    .danglingReference

/-! ## Scopes and high water -/

/-- `observe_scope`: the one source scope every scoped record must name. -/
def observeScope (scope : Option Ref16) (candidate : Ref16) : Res (Option Ref16) := do
  ensureNonzeroRef candidate
  match scope with
  | none => pure (some candidate)
  | some current => if current = candidate then pure (some current) else .error .multipleSourceScopes

def observeFence (s : RuntimeJournalState) (scope : Option Ref16) : Res (Option Ref16) :=
  match s.writerFence with
  | some fence => do
    rejectIf (fence.epoch = 0) .invalidStateInvariant
    ensureNonzeroRef fence.writer
    ensureNonzeroRef fence.principal
    ensureNonzeroDigest fence.proofEnvelopeDigest
    ensureNonzeroDigest fence.tenureNonceIdentity
    rejectIf (¬ ∃ record ∈ s.host.tenureNonces,
      record.identity = fence.tenureNonceIdentity ∧ record.valueDigest = fence.proofEnvelopeDigest) .danglingReference
    observeScope scope fence.sourceScope
  | none => do
    rejectIf (s.host.tenureNonces ≠ []) .danglingReference
    pure scope

def observeHighWater (s : RuntimeJournalState) (scope : Option Ref16) : Res (Option Ref16) :=
  match s.sourceRevisionHighWater with
  | some highWater => do
    rejectIf (highWater.revision = 0) .invalidStateInvariant
    observeScope scope highWater.sourceScope
  | none => pure scope

def observePrepared (c : Contracts) (s : RuntimeJournalState) (payloadVersion : Nat) (scope : Option Ref16) :
    Res (Option Ref16) :=
  match s.prepared with
  | some prepared => do
    ensureNonzeroRef prepared.operationId
    let scope ← observeScope scope prepared.sourceScope
    let highWater ← okOr s.sourceRevisionHighWater .danglingReference
    rejectIf (prepared.sourceRevision = 0 ∨ prepared.sourceRevision ≠ highWater.revision) .invalidStateInvariant
    rejectIf (s.writerFence.isNone) .danglingReference
    prepared.validate c.sha256 s.host.singletonManifest.digest s.host.requestNonces s.host.temporalLineages
      (decide (payloadVersion = runtimeJournalPayloadVersion))
    rejectIf ((prepared.phase = .preparedNoEffects ∨ prepared.phase = .firstActionIntent
        ∨ prepared.phase = .headCommittedRetiringOld)
      ∧ prepared.installedClockGeneration ≠ s.host.clockGenerationHighWater) .invalidStateInvariant
    pure scope
  | none => pure scope

def observeActive (c : Contracts) (s : RuntimeJournalState) (scope : Option Ref16) : Res (Option Ref16) :=
  match s.activeDesired with
  | some active => do
    ensureNonzeroRef active.operationId
    let scope ← observeScope scope active.sourceScope
    let highWater ← okOr s.sourceRevisionHighWater .danglingReference
    rejectIf (active.sourceRevision = 0 ∨ highWater.revision < active.sourceRevision) .invalidStateInvariant
    rejectIf (s.writerFence.isNone) .danglingReference
    active.validate c.sha256 s.host.singletonManifest.digest
    pure scope
  | none => pure scope

def observeTemporal (scope : Option Ref16) (temporal : TemporalLineageRecord) : Res (Option Ref16) := do
  ensureNonzeroRef temporal.constraintId
  observeScope scope temporal.sourceScope

def observeTerminal (scope : Option Ref16) (terminal : TerminalOperationRecord) : Res (Option Ref16) := do
  ensureNonzeroRef terminal.operationId
  ensureNonzeroRef terminal.temporalConstraintId
  observeScope scope terminal.sourceScope

def observeRecovery (s : RuntimeJournalState) (scope : Option Ref16) : Res (Option Ref16) :=
  match s.recoveryAction with
  | some recovery => do
    let scope ← observeScope scope recovery.sourceScope
    let highWater ← okOr s.sourceRevisionHighWater .danglingReference
    rejectIf (recovery.sourceScope ≠ highWater.sourceScope ∨ highWater.revision < recovery.sourceRevision)
      .invalidStateInvariant
    pure scope
  | none => pure scope

def preparedOwnsNonce (s : RuntimeJournalState) (nonce : ReplayLedgerRecord) : Bool :=
  s.prepared.any fun p => p.requestNonceIdentity = nonce.identity && p.request.digest = nonce.valueDigest

def terminalOwnsNonce (nonce : ReplayLedgerRecord) (t : TerminalOperationRecord) : Bool :=
  t.requestNonceIdentity = nonce.identity && t.requestDigest = nonce.valueDigest

def preparedOwnsTemporal (s : RuntimeJournalState) (temporal : TemporalLineageRecord) : Bool :=
  s.prepared.any fun p => p.temporalConstraintId = temporal.constraintId
    && p.temporalLineageDigest = temporal.lineageDigest
    && p.installedClockGeneration = temporal.clockGeneration
    && p.installedDeadlineNanos = temporal.deadlineNanos
    && p.sourceScope = temporal.sourceScope

def terminalOwnsTemporal (temporal : TemporalLineageRecord) (t : TerminalOperationRecord) : Bool :=
  t.temporalConstraintId = temporal.constraintId
    && t.temporalLineageDigest = temporal.lineageDigest
    && t.sourceScope = temporal.sourceScope
    && t.installedClockGeneration = temporal.clockGeneration
    && t.installedDeadlineNanos = temporal.deadlineNanos

/-- The largest revision of a terminal or of the prepared operation; 0 when there is none. -/
def observedMaximum (s : RuntimeJournalState) : Nat :=
  (s.terminalOperations.map (·.sourceRevision) ++ s.prepared.toList.map (·.sourceRevision)).foldl max 0

def validateAdmissionCrossReferences (s : RuntimeJournalState) : Res Unit := do
  forEach s.host.requestNonces fun nonce =>
    rejectIf ((s.preparedOwnsNonce nonce).toNat + s.terminalOperations.countP (terminalOwnsNonce nonce) ≠ 1)
      .danglingReference
  forEach s.host.temporalLineages fun temporal =>
    rejectIf ((s.preparedOwnsTemporal temporal).toNat + s.terminalOperations.countP (terminalOwnsTemporal temporal) ≠ 1)
      .danglingReference
  forEach s.terminalOperations fun terminal => do
    rejectIf ((¬ ∃ record ∈ s.host.requestNonces, terminalOwnsNonce record terminal)
      ∨ ¬ ∃ record ∈ s.host.temporalLineages, terminalOwnsTemporal record terminal) .danglingReference
    rejectIf (s.prepared.any fun p => p.sourceScope = terminal.sourceScope && p.operationId = terminal.operationId)
      .invalidStateInvariant
  whenSome s.sourceRevisionHighWater fun highWater =>
    rejectIf (s.observedMaximum ≠ highWater.revision) .danglingReference

def validateScopeAndHighWater (c : Contracts) (s : RuntimeJournalState) (payloadVersion : Nat) : Res Unit := do
  let scope ← s.observeFence none
  let scope ← s.observeHighWater scope
  let scope ← scan observeTemporal scope s.host.temporalLineages
  let scope ← s.observePrepared c payloadVersion scope
  let scope ← s.observeActive c scope
  let scope ← scan observeTerminal scope s.terminalOperations
  let scope ← scan (fun scope t => observeScope scope t.recovery.sourceScope) scope s.recoveryTerminals
  let _ ← s.observeRecovery scope
  rejectIf (s.terminalOperations ≠ [] ∧ (s.sourceRevisionHighWater.isNone ∨ s.writerFence.isNone)) .danglingReference
  s.validateAdmissionCrossReferences

/-! ## Actions and producer generations -/

def phaseKindIsValid (phase : PreparedPhase) (kind : JournalActionKind) : Bool :=
  match phase with
  | .firstActionIntent => kind = .startOneSourceLoop
  | .headCommittedRetiringOld => kind = .drainToEmpty
  | .supersededReconcileRequired | .startupReconcileRequired =>
    kind = .startOneSourceLoop || kind = .drainToEmpty
  | .preparedNoEffects | .supersededBeforeEffects | .startupExpiredNoEffects => false

def validatePreparedAction (s : RuntimeJournalState) (prepared : PreparedOperation) : Res Unit := do
  rejectIf (prepared.phase.requiresAction ≠ prepared.action.isSome) .invalidStateInvariant
  whenSome prepared.action fun action => do
    rejectIf (action.kind = .restartReassembly) .invalidStateInvariant
    rejectIf (¬ phaseKindIsValid prepared.phase action.kind) .invalidStateInvariant
    validateAction action s.host
    let hostInterrupted := prepared.rawOutcome.any (·.hostInterrupted)
    rejectIf (action.clockGeneration ≠ prepared.installedClockGeneration
      ∨ (hostInterrupted ∧ (s.host.runtimeHostEpochHighWater ≤ action.runtimeHostEpoch
        ∨ s.host.clockGenerationHighWater ≤ action.clockGeneration))
      ∨ (¬ hostInterrupted ∧ (action.runtimeHostEpoch ≠ s.host.runtimeHostEpochHighWater
        ∨ action.clockGeneration ≠ s.host.clockGenerationHighWater))) .invalidStateInvariant

def allActions (s : RuntimeJournalState) : List JournalActionRef :=
  s.terminalOperations.filterMap (·.action) ++ s.recoveryTerminals.map (·.recovery.action)
    ++ (s.prepared.bind (·.action)).toList ++ (s.recoveryAction.map (·.action)).toList

def validateActions (c : Contracts) (s : RuntimeJournalState) : Res Unit := do
  whenSome s.prepared s.validatePreparedAction
  whenSome s.recoveryAction fun recovery => recovery.validate c.sha256 s.host s.activeDesired
  rejectIf ((s.prepared.bind (·.action)).isSome ∧ s.recoveryAction.isSome) .multipleOwnerActions
  rejectIf (¬ (s.allActions.map (·.actionId)).Nodup) .multipleOwnerActions

def completedProducers (s : RuntimeJournalState) : List (U64 × JournalActionRef) :=
  s.terminalOperations.filterMap (fun t => (t.action.filter (·.kind = .startOneSourceLoop)).map
      (fun action => (t.completionSnapshotSequence, action)))
    ++ s.recoveryTerminals.map (fun t => (t.completionSnapshotSequence, t.recovery.action))

/-- Some generation of `action` does not exceed the high water. -/
def generationsNotAbove (highWater : Option (U64 × U64 × U64)) (action : JournalActionRef) : Bool :=
  highWater.any fun previous => action.domainGeneration ≤ previous.1 || action.instanceGeneration ≤ previous.2.1
    || action.resourceGeneration ≤ previous.2.2

def generationStep (highWater : Option (U64 × U64 × U64)) (completed : U64 × JournalActionRef) :
    Res (Option (U64 × U64 × U64)) := do
  rejectIf (generationsNotAbove highWater completed.2) .invalidStateInvariant
  pure (some (completed.2.domainGeneration, completed.2.instanceGeneration, completed.2.resourceGeneration))

def validateProducerGenerations (s : RuntimeJournalState) : Res Unit := do
  let highWater ← scan generationStep none (Keyed.sortBy Prod.fst s.completedProducers)
  rejectIf ((s.currentAction.filter fun a => a.kind = .startOneSourceLoop || a.kind = .restartReassembly).any
    (generationsNotAbove highWater)) .invalidStateInvariant

/-! ## Resources -/

def resourceBelongsToLive (s : RuntimeJournalState) (r : OwnedResourceRecord) : Bool :=
  match s.liveMaterialization with
  | .liveReady _ epoch generation _ => r.runtimeHostEpoch = epoch && r.generation = generation
  | .startupInvalidated _ previousEpoch _ _ _ _ _ => r.runtimeHostEpoch ≤ previousEpoch
  | .quarantined _ _ _ => true
  | _ => false

def resourceOwnerCheck (s : RuntimeJournalState) (r : OwnedResourceRecord) : Res Unit :=
  if r.phase.isTerminal then rejectIf (r.actionId.isSome) .danglingReference
  else match r.actionId with
    | some actionId => do
      ensureNonzeroRef actionId
      rejectIf (s.currentAction.map (·.actionId) ≠ some actionId
        ∨ s.currentAction.map (·.resourceGeneration) ≠ some r.generation
        ∨ s.currentAction.map (·.runtimeHostEpoch) ≠ some r.runtimeHostEpoch) .danglingReference
    | none => rejectIf (¬ s.resourceBelongsToLive r) .danglingReference

def resourceStep (s : RuntimeJournalState) (previous : Option (Nat ×ₗ Ref16 ×ₗ U64)) (r : OwnedResourceRecord) :
    Res (Option (Nat ×ₗ Ref16 ×ₗ U64)) := do
  ensureNonzeroRef r.logicalRef
  rejectIf (r.generation = 0 ∨ r.runtimeHostEpoch = 0 ∨ s.host.runtimeHostEpochHighWater < r.runtimeHostEpoch)
    .invalidStateInvariant
  rejectIf (notBelow previous r.key) .nonCanonicalOrdering
  validateResourceEvidence r
  s.resourceOwnerCheck r
  pure (some r.key)

def nonterminal (s : RuntimeJournalState) : List OwnedResourceRecord :=
  s.ownedResources.filter fun r => !r.phase.isTerminal

def unboundNonterminal (s : RuntimeJournalState) : List OwnedResourceRecord :=
  s.ownedResources.filter fun r => !r.phase.isTerminal && r.actionId.isNone

def validateReferenceProfileCensus (s : RuntimeJournalState) : Res Unit := do
  rejectIf (∃ r ∈ s.nonterminal, r.kind = .resourceSlot ∨ r.kind = .externalHandle) .invalidStateInvariant
  let loopCount := s.nonterminal.countP (·.kind = .loopDomain)
  let cardCount := s.nonterminal.countP (·.kind = .cardInstance)
  rejectIf (1 < loopCount ∨ 1 < cardCount ∨ loopCount < cardCount) .invalidStateInvariant
  rejectIf (s.liveMaterialization.isLiveReady
    ∧ (loopCount ≠ 1 ∨ cardCount ≠ 1 ∨ s.currentAction.isSome)) .invalidStateInvariant

def validateResources (s : RuntimeJournalState) : Res Unit := do
  rejectIf (maxRuntimeOwnedResources < s.ownedResources.length) .capacityExceeded
  let _ ← scan s.resourceStep none s.ownedResources
  s.validateReferenceProfileCensus

/-! ## Terminals -/

def validateTerminalHead (terminal : TerminalOperationRecord) : Res Unit :=
  match terminal.headDisposition with
  | .preserved digest => do
    whenSome digest ensureNonzeroDigest
    rejectIf (terminalHeadCommitsIncoming terminal.selection.primary terminal.incomingKind) .invalidStateInvariant
  | .committedIncoming =>
    rejectIf (¬ terminalHeadCommitsIncoming terminal.selection.primary terminal.incomingKind) .invalidStateInvariant

def expectedActionKind : DesiredHeadKind → JournalActionKind
  | .oneSourceLoop => .startOneSourceLoop
  | .emptyDeactivate => .drainToEmpty

def validateTerminal (c : Contracts) (s : RuntimeJournalState) (snapshotSequence : U64)
    (terminal : TerminalOperationRecord) : Res Unit := do
  rejectIf (terminal.completionRuntimeHostEpoch = 0
    ∨ s.host.runtimeHostEpochHighWater < terminal.completionRuntimeHostEpoch
    ∨ terminal.completionSnapshotSequence = 0
    ∨ snapshotSequence < terminal.completionSnapshotSequence) .invalidStateInvariant
  let highWater ← okOr s.sourceRevisionHighWater .danglingReference
  rejectIf (terminal.sourceScope ≠ highWater.sourceScope
    ∨ highWater.revision < terminal.sourceRevision
    ∨ s.host.clockGenerationHighWater < terminal.selection.selectionClockGeneration) .danglingReference
  rejectIf (terminal.sourceRevision = 0) .invalidStateInvariant
  ensureNonzeroDigest terminal.requestDigest
  ensureNonzeroDigest terminal.requestNonceIdentity
  terminal.sliceProvenance.validate c.sha256
  ensureNonzeroDigest terminal.sourcePlanDigest
  ensureNonzeroDigest terminal.targetSliceDigest
  rejectIf (terminal.sliceProvenance.sourceScope ≠ terminal.sourceScope
    ∨ terminal.sliceProvenance.sourceRevision ≠ terminal.sourceRevision
    ∨ terminal.sliceProvenance.sourcePlanDigest ≠ terminal.sourcePlanDigest
    ∨ terminal.sliceProvenance.targetSliceDigest ≠ terminal.targetSliceDigest) .danglingReference
  ensureNonzeroRef terminal.temporalConstraintId
  ensureNonzeroDigest terminal.temporalLineageDigest
  rejectIf (terminal.installedClockGeneration = 0 ∨ terminal.installedDeadlineNanos = 0) .invalidStateInvariant
  rejectIf (terminal.completionPredecessorPhase.requiresAction ≠ terminal.action.isSome) .invalidStateInvariant
  rejectIf ((terminal.incomingKind = .oneSourceLoop
      ∧ terminal.completionPredecessorPhase = .headCommittedRetiringOld)
    ∨ (terminal.incomingKind = .emptyDeactivate ∧ terminal.completionPredecessorPhase = .firstActionIntent))
    .invalidStateInvariant
  whenSome terminal.action fun action => do
    validateAction action s.host
    rejectIf (action.kind ≠ expectedActionKind terminal.incomingKind
      ∨ action.clockGeneration ≠ terminal.installedClockGeneration
      ∨ terminal.completionRuntimeHostEpoch < action.runtimeHostEpoch) .danglingReference
  terminal.selection.validate terminal.incomingKind terminal.completionPredecessorPhase
    terminal.installedClockGeneration terminal.installedDeadlineNanos
  rejectIf (¬ terminalRawLineageIsValid terminal) .invalidStateInvariant
  validateTerminalHead terminal
  ensureNonzeroDigest terminal.resourceCensusDigest
  ensureNonzeroDigest terminal.resultDigest
  terminal.canonicalResponse.validateBound maxReferenceApplyTerminalReceiptBytes
  rejectIf (terminal.canonicalResponse.digest ≠ terminal.resultDigest) .danglingReference

def terminalStep (c : Contracts) (s : RuntimeJournalState) (snapshotSequence : U64) (previous : Option (Ref16 ×ₗ Ref16))
    (terminal : TerminalOperationRecord) : Res (Option (Ref16 ×ₗ Ref16)) := do
  rejectIf (notBelow previous terminal.key) .nonCanonicalOrdering
  s.validateTerminal c snapshotSequence terminal
  pure (some terminal.key)

def validateTerminals (c : Contracts) (s : RuntimeJournalState) (snapshotSequence : U64) : Res Unit := do
  rejectIf (maxRuntimeTerminalOperations < s.terminalOperations.length) .capacityExceeded
  let _ ← scan (s.terminalStep c snapshotSequence) none s.terminalOperations

/-- The head in force and the last completion while the terminals are replayed in completion order. -/
structure HeadChain where
  previousCompletion : Option U64
  committedHead : Option TargetSliceDigest

def headStep (chain : HeadChain) (terminal : TerminalOperationRecord) : Res HeadChain := do
  rejectIf (notBelow chain.previousCompletion terminal.completionSnapshotSequence) .nonCanonicalOrdering
  let committedHead ← match terminal.headDisposition with
    | .preserved expected =>
      if expected = chain.committedHead then .ok chain.committedHead else .error .danglingReference
    | .committedIncoming => .ok (some terminal.targetSliceDigest)
  pure ⟨some terminal.completionSnapshotSequence, committedHead⟩

def chronological (s : RuntimeJournalState) : List TerminalOperationRecord :=
  Keyed.sortBy (·.completionSnapshotSequence) s.terminalOperations

def headFirstEmptyInProgress (s : RuntimeJournalState) (committedHead : Option TargetSliceDigest) : Bool :=
  s.prepared.any fun prepared => prepared.incomingKind = .emptyDeactivate
    && prepared.phase.mayRetire
    && s.activeHead = some prepared.incomingSliceDigest
    && match prepared.expectedActive with
      | .exact expected => committedHead = some expected
      | .none => committedHead.isNone

def validateTerminalHeadChain (s : RuntimeJournalState) : Res Unit := do
  let chain ← scan headStep ⟨none, none⟩ s.chronological
  rejectIf (¬ s.headFirstEmptyInProgress chain.committedHead ∧ s.activeHead ≠ chain.committedHead) .danglingReference

/-- What the recovery-terminal loop carries: last completion, last generations, the action ids seen. -/
structure RecoveryChain where
  previousCompletion : Option U64
  previousGenerations : Option (U64 × U64 × U64)
  actionIds : List Ref16

def recoveryTerminalStep (c : Contracts) (s : RuntimeJournalState) (snapshotSequence : U64) (chain : RecoveryChain)
    (record : RecoveryTerminalRecord) : Res RecoveryChain := do
  record.validate c.sha256 s.host s.terminalOperations snapshotSequence
  rejectIf (notBelow chain.previousCompletion record.completionSnapshotSequence
    ∨ record.recovery.action.actionId ∈ chain.actionIds) .nonCanonicalOrdering
  rejectIf (generationsNotAbove chain.previousGenerations record.recovery.action) .invalidStateInvariant
  let action := record.recovery.action
  pure ⟨some record.completionSnapshotSequence,
    some (action.domainGeneration, action.instanceGeneration, action.resourceGeneration),
    action.actionId :: chain.actionIds⟩

def validateRecoveryTerminals (c : Contracts) (s : RuntimeJournalState) (snapshotSequence : U64) : Res Unit := do
  rejectIf (maxRuntimeRecoveryTerminals < s.recoveryTerminals.length
    ∨ (s.recoveryTerminals.length = maxRuntimeRecoveryTerminals ∧ s.recoveryAction.isSome)) .capacityExceeded
  let chain ← scan (s.recoveryTerminalStep c snapshotSequence) ⟨none, none, []⟩ s.recoveryTerminals
  rejectIf (s.recoveryAction.any fun recovery => decide (recovery.action.actionId ∈ chain.actionIds)
    || generationsNotAbove chain.previousGenerations recovery.action) .invalidStateInvariant

/-- Completion sequence, host epoch and selection clock generation of every completed record. -/
def completions (s : RuntimeJournalState) : List (U64 × U64 × U64) :=
  s.terminalOperations.map (fun t =>
      (t.completionSnapshotSequence, t.completionRuntimeHostEpoch, t.selection.selectionClockGeneration))
    ++ s.recoveryTerminals.map (fun t =>
      (t.completionSnapshotSequence, t.completionRuntimeHostEpoch, t.selection.selectionClockGeneration))

/-- `windows(2)` of a list. -/
def windows2 {α : Type} : List α → List (α × α)
  | a :: b :: rest => (a, b) :: windows2 (b :: rest)
  | _ => []

def validateGlobalCompletionChronology (s : RuntimeJournalState) : Res Unit :=
  rejectIf (∃ pair ∈ windows2 (Keyed.sortBy Prod.fst s.completions),
    pair.2.1 ≤ pair.1.1 ∨ pair.2.2.1 < pair.1.2.1 ∨ pair.2.2.2 < pair.1.2.2) .nonCanonicalOrdering

end RuntimeJournalState
end Journal
end ParaEgox
