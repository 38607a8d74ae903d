import ParaEgox.JournalValid

/-!
# JournalInput — what the builders are given, and how they edit the ledgers

The typed inputs of the `try_*_successor` builders and the helpers that insert a ledger record or install ownership and
tombstones on a resource.
-/
namespace ParaEgox
namespace Journal

open Check

/-! ## Inputs -/

structure RuntimeTenureAdmissionInput where
  expectedStoreInstanceId : Id32
  ownerTargetFingerprint : Digest32
  sourceScope : Ref16
  writer : Ref16
  epoch : U64
  supersedesThroughEpoch : U64
  proofEnvelopeDigest : Digest32
  tenureNonceIdentity : Digest32
  principal : Ref16
  deriving DecidableEq

def RuntimeTenureAdmissionInput.fence (input : RuntimeTenureAdmissionInput) : WriterFenceRecord where
  sourceScope := input.sourceScope
  writer := input.writer
  epoch := input.epoch
  proofEnvelopeDigest := input.proofEnvelopeDigest
  tenureNonceIdentity := input.tenureNonceIdentity
  principal := input.principal

structure RuntimeTemporalAdmissionInput where
  constraintId : Ref16
  originalBudgetNanos : U64
  remainingBudgetNanos : U64
  installedClockGeneration : U64
  installedDeadlineNanos : U64
  lineageDigest : Digest32

structure RuntimeApplyAdmissionInput where
  tenure : RuntimeTenureAdmissionInput
  request : OpaqueCanonicalValue
  requestNonceIdentity : Digest32
  operationId : Ref16
  sliceProvenance : DurableSliceProvenance
  sourceRevision : U64
  sourcePlanDigest : SourcePlanDigest
  incomingSliceDigest : TargetSliceDigest
  incomingKind : DesiredHeadKind
  manifestDigest : Digest32
  expectedActive : ExpectedActiveCas
  temporal : RuntimeTemporalAdmissionInput
  responseChannel : ReferenceChannelBinding

structure RuntimeDeadlineObservation where
  clockGeneration : U64
  observedAtNanos : U64

structure RuntimeStartActionInput where
  actionId : Ref16
  domainGeneration : U64
  instanceGeneration : U64
  resourceGeneration : U64
  preIntent : RuntimeDeadlineObservation

structure RuntimeRecoveryPlanInput where
  actionId : Ref16
  domainGeneration : U64
  instanceGeneration : U64
  resourceGeneration : U64
  signedStartBudgetNanos : U64
  deadlineNanos : U64
  deadlineEvidenceDigest : Digest32

inductive RuntimeRecoveryCallbackOutcome
  | success
  | error (reasonDigest : Digest32)
  deriving DecidableEq

structure RuntimeOneSourceResourceRefs where
  loopDomain : Ref16
  cardInstance : Ref16
  deriving DecidableEq

structure RuntimeResourceOwnershipInput where
  logicalRef : Ref16
  osIdentity : OpaqueCanonicalValue
  workspaceIdentity : OpaqueCanonicalValue
  containmentIdentity : OpaqueCanonicalValue

structure RuntimeOneSourceOwnershipInput where
  loopDomain : RuntimeResourceOwnershipInput
  cardInstance : RuntimeResourceOwnershipInput

structure RuntimeRetiringLifecycleBudgets where
  startNanos : U64
  drainNanos : U64
  cleanupNanos : U64

structure RuntimeEmptyRetireInput where
  actionId : Ref16
  incomingSlice : OpaqueCanonicalValue
  budgets : RuntimeRetiringLifecycleBudgets
  preIntent : RuntimeDeadlineObservation

structure RuntimeResourceTombstoneInput where
  logicalRef : Ref16
  evidence : OpaqueCanonicalValue

structure RuntimeOneSourceTombstonesInput where
  loopDomain : RuntimeResourceTombstoneInput
  cardInstance : RuntimeResourceTombstoneInput

structure RuntimeTerminalInput where
  canonicalResponse : OpaqueCanonicalValue
  selection : RuntimeDeadlineObservation

structure RuntimeTerminalPreview where
  outcome : TerminalOutcome
  lifecycleEffect : TerminalLifecycleEffect
  headDisposition : TerminalHeadDisposition
  resourceCensusDigest : Digest32
  rawOutcomeDigest : Digest32
  completionRuntimeHostEpoch : U64
  completionSnapshotSequence : U64
  selectionClockGeneration : U64
  selectionObservedAtNanos : U64

/-! ## Latches the builders write -/

def callbackRaw (callback : CallbackOutcome) (reason : Option Digest32) : RawActionOutcomeLatch :=
  { unknownRaw with callback := callback, callbackReasonDigest := reason }

def timedOutRaw (clockGeneration observedAtNanos : U64) : RawActionOutcomeLatch :=
  { callbackRaw .notInvoked none with
    deadline := .timedOut
    observedClockGeneration := clockGeneration
    observedAtNanos := observedAtNanos }

def notInvokedInterruptedRaw : RawActionOutcomeLatch :=
  { callbackRaw .notInvoked none with hostInterrupted := true }

def callbackRawAt (callback : CallbackOutcome) (reason : Option Digest32) (observation : RuntimeDeadlineObservation)
    (deadlineNanos : U64) : RawActionOutcomeLatch :=
  if observation.observedAtNanos ≥ deadlineNanos then
    { callbackRaw callback reason with
      deadline := .timedOut
      observedClockGeneration := observation.clockGeneration
      observedAtNanos := observation.observedAtNanos }
  else callbackRaw callback reason

def exactZeroRaw (raw : RawActionOutcomeLatch) (census : Digest32) : RawActionOutcomeLatch :=
  { raw with cleanup := .exactZero, cleanupEvidenceDigest := some census }

/-! ## Ledger edits -/

def insertRecord {α κ : Type} [LinearOrder κ] (key : α → κ) (records : List α) (record : α) : Res (List α) := do
  rejectIf ((Keyed.find key (key record) records).isSome) .nonMonotonicTransition
  pure (Keyed.insert key record records)

def insertReplayRecord (records : List ReplayLedgerRecord) (record : ReplayLedgerRecord) :
    Res (List ReplayLedgerRecord) :=
  insertRecord ReplayLedgerRecord.identity records record

def insertTemporalRecord (records : List TemporalLineageRecord) (record : TemporalLineageRecord) :
    Res (List TemporalLineageRecord) :=
  insertRecord TemporalLineageRecord.constraintId records record

def insertResourceRecord (resources : List OwnedResourceRecord) (record : OwnedResourceRecord) :
    Res (List OwnedResourceRecord) := do
  rejectIf (maxRuntimeOwnedResources ≤ resources.length) .capacityExceeded
  insertRecord OwnedResourceRecord.key resources record

def insertTerminalRecord (terminals : List TerminalOperationRecord) (terminal : TerminalOperationRecord) :
    Res (List TerminalOperationRecord) := do
  rejectIf (maxRuntimeTerminalOperations ≤ terminals.length) .capacityExceeded
  insertRecord TerminalOperationRecord.key terminals terminal

def resourceKey (kind : ResourceKind) (logicalRef : Ref16) (generation : U64) : Nat ×ₗ Ref16 ×ₗ U64 :=
  toLex (kind.code, toLex (logicalRef, generation))

def reservedRecord (kind : ResourceKind) (logicalRef : Ref16) (action : JournalActionRef) : OwnedResourceRecord where
  kind := kind
  logicalRef := logicalRef
  generation := action.resourceGeneration
  runtimeHostEpoch := action.runtimeHostEpoch
  phase := .reserved
  actionId := some action.actionId
  osIdentity := none
  workspaceIdentity := none
  containmentIdentity := none
  tombstoneEvidence := none

def reservePair (resources : List OwnedResourceRecord) (refs : RuntimeOneSourceResourceRefs)
    (action : JournalActionRef) : Res (List OwnedResourceRecord) := do
  let resources ← insertResourceRecord resources (reservedRecord .loopDomain refs.loopDomain action)
  insertResourceRecord resources (reservedRecord .cardInstance refs.cardInstance action)

def installResourceOwnership (resources : List OwnedResourceRecord) (kind : ResourceKind) (action : JournalActionRef)
    (input : RuntimeResourceOwnershipInput) : Res (List OwnedResourceRecord) := do
  let resource ← okOr (Keyed.find OwnedResourceRecord.key (resourceKey kind input.logicalRef action.resourceGeneration)
    resources) .danglingReference
  rejectIf (resource.phase ≠ .reserved ∨ resource.actionId ≠ some action.actionId
    ∨ resource.runtimeHostEpoch ≠ action.runtimeHostEpoch) .nonMonotonicTransition
  pure (Keyed.replace OwnedResourceRecord.key { resource with
    phase := .owned
    osIdentity := some input.osIdentity
    workspaceIdentity := some input.workspaceIdentity
    containmentIdentity := some input.containmentIdentity } resources)

def installPairOwnership (resources : List OwnedResourceRecord) (action : JournalActionRef)
    (input : RuntimeOneSourceOwnershipInput) : Res (List OwnedResourceRecord) := do
  let resources ← installResourceOwnership resources .loopDomain action input.loopDomain
  installResourceOwnership resources .cardInstance action input.cardInstance

/-- The record a tombstone leaves; `tombstonedPhase` knows the phases it may be put on. -/
def tombstoned (resource : OwnedResourceRecord) (evidence : OpaqueCanonicalValue) : Option OwnedResourceRecord :=
  (tombstonedPhase resource.phase).map fun phase =>
    { resource with phase := phase, actionId := none, tombstoneEvidence := some evidence }

def installResourceTombstone (resources : List OwnedResourceRecord) (kind : ResourceKind) (action : JournalActionRef)
    (input : RuntimeResourceTombstoneInput) : Res (List OwnedResourceRecord) := do
  let resource ← okOr (Keyed.find OwnedResourceRecord.key (resourceKey kind input.logicalRef action.resourceGeneration)
    resources) .danglingReference
  rejectIf (resource.actionId ≠ some action.actionId ∨ resource.runtimeHostEpoch ≠ action.runtimeHostEpoch)
    .nonMonotonicTransition
  let new ← okOr (tombstoned resource input.evidence) .nonMonotonicTransition
  pure (Keyed.replace OwnedResourceRecord.key new resources)

def installPairTombstones (resources : List OwnedResourceRecord) (action : JournalActionRef)
    (input : RuntimeOneSourceTombstonesInput) : Res (List OwnedResourceRecord) := do
  let resources ← installResourceTombstone resources .loopDomain action input.loopDomain
  installResourceTombstone resources .cardInstance action input.cardInstance

def installTombstones (resources : List OwnedResourceRecord) (action : JournalActionRef) :
    Option RuntimeOneSourceTombstonesInput → Res (List OwnedResourceRecord)
  | none => .ok resources
  | some input => installPairTombstones resources action input

/-- A startup tombstone names no action: exactly one waiting resource of its kind and reference must exist. -/
def installStartupResourceTombstone (resources : List OwnedResourceRecord) (kind : ResourceKind)
    (input : RuntimeResourceTombstoneInput) : Res (List OwnedResourceRecord) := do
  let resource ← okOr (RuntimeJournalState.onlyOne (resources.filter fun r =>
    r.kind = kind && r.logicalRef = input.logicalRef && (tombstonedPhase r.phase).isSome)) .danglingReference
  let new ← okOr (tombstoned resource input.evidence) .danglingReference
  pure (Keyed.replace OwnedResourceRecord.key new resources)

end Journal
end ParaEgox
