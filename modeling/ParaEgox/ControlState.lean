import ParaEgox.JournalTerminal

/-!
# ControlState — the facade the apply owner drives the journal through

`RuntimeControlState` is a validated snapshot after the startup commit.  It derives the admission input of a request from
the request and its preflight evidence, tells an admission that is new from one that is already durable or in conflict,
and calls the builders.
-/
namespace ParaEgox
namespace Control

open Check Journal RuntimeJournalSnapshot

inductive RuntimeControlStateError
  | startupNotCommitted
  | preflightRejected
  | journal (e : RuntimeJournalError)
  deriving DecidableEq

/-- `From<RuntimeJournalError>`: a journal call of the facade. -/
def journaled {α : Type} : Res α → Except RuntimeControlStateError α
  | .ok a => .ok a
  | .error e => .error (.journal e)

@[simp] theorem journaled_ok {α : Type} {x : Res α} {a : α} : journaled x = .ok a ↔ x = .ok a := by
  cases x <;> simp [journaled]

/-- The ingress evidence of an authenticated request: the configured fingerprints, the replay identities, the instant its
remaining budget starts to run and the channel it came by. -/
structure RuntimeReferenceApplyPreflight where
  localTarget : Ref16
  ownerTargetFingerprint : Digest32
  admissionPolicyFingerprint : Digest32
  channelPolicyFingerprint : Digest32
  controllerKeyFingerprint : Digest32
  tenureNonceIdentity : Digest32
  requestNonceIdentity : Digest32
  temporalLineageDigest : Digest32
  admittedAtNanos : U64
  responseChannel : ReferenceChannelBinding

/-! ## Started snapshots -/

/-- `bootstrap_facts` and `try_from_started_snapshot`: the journal has committed a startup. -/
def tryFromStartedSnapshot (snapshot : RuntimeJournalSnapshot) :
    Except RuntimeControlStateError RuntimeJournalSnapshot := do
  rejectIf (snapshot.state.lastTransaction = .initialized
    ∨ snapshot.state.host.runtimeHostEpochHighWater = 0
    ∨ snapshot.state.host.clockGenerationHighWater = 0) .startupNotCommitted
  pure snapshot

/-! ## Admission -/

def kindOfMode : ReferenceAssemblyMode → DesiredHeadKind
  | .oneSourceLoop => .oneSourceLoop
  | .emptyDeactivate => .emptyDeactivate

def casOf : ExpectedActive → ExpectedActiveCas
  | .none => .none
  | .exact digest => .exact digest

def preflightMismatch (self : RuntimeJournalSnapshot) (request : ReferenceApplyRequest)
    (preflight : RuntimeReferenceApplyPreflight) : Prop :=
  request.target ≠ preflight.localTarget
    ∨ request.execution.target ≠ preflight.localTarget
    ∨ preflight.ownerTargetFingerprint ≠ self.ownerTargetFingerprint
    ∨ preflight.admissionPolicyFingerprint ≠ self.state.host.admissionPolicyFingerprint
    ∨ preflight.channelPolicyFingerprint ≠ self.state.host.channelPolicyFingerprint
    ∨ preflight.controllerKeyFingerprint ≠ self.state.host.controllerKeyFingerprint
    ∨ request.expectedRuntimeStoreInstanceId ≠ self.storeInstanceId
    ∨ request.execution.manifestDigest ≠ self.state.host.singletonManifest.digest
    ∨ request.proof.sourceScope ≠ request.provenance.sourceScope
    ∨ request.temporal.targetClockDomain ≠ self.state.host.clockDomain
    ∨ request.temporal.targetClockGeneration ≠ self.state.host.clockGenerationHighWater

instance (self : RuntimeJournalSnapshot) (request : ReferenceApplyRequest)
    (preflight : RuntimeReferenceApplyPreflight) : Decidable (preflightMismatch self request preflight) := by
  unfold preflightMismatch
  infer_instance

def tenureInputOf (request : ReferenceApplyRequest) (preflight : RuntimeReferenceApplyPreflight)
    (proofEnvelopeDigest tenureNonceIdentity : Digest32) : RuntimeTenureAdmissionInput where
  expectedStoreInstanceId := request.expectedRuntimeStoreInstanceId
  ownerTargetFingerprint := preflight.ownerTargetFingerprint
  sourceScope := request.proof.sourceScope
  writer := request.proof.writer
  epoch := request.proof.epoch
  supersedesThroughEpoch := request.proof.supersedesThroughEpoch
  proofEnvelopeDigest := proofEnvelopeDigest
  tenureNonceIdentity := tenureNonceIdentity
  principal := request.authentication.principal

/-- The deadline a request installs: its remaining budget from the preflight's reading on. -/
def temporalInputOf (request : ReferenceApplyRequest) (installedDeadlineNanos : U64) (lineageDigest : Digest32) :
    RuntimeTemporalAdmissionInput where
  constraintId := request.temporal.constraintId
  originalBudgetNanos := request.temporal.originalBudget
  remainingBudgetNanos := request.temporal.remainingBudget
  installedClockGeneration := request.temporal.targetClockGeneration
  installedDeadlineNanos := installedDeadlineNanos
  lineageDigest := lineageDigest

variable (c : Contracts) (self : RuntimeJournalSnapshot)

def tryReferenceAdmissionInput (request : ReferenceApplyRequest) (preflight : RuntimeReferenceApplyPreflight) :
    Except RuntimeControlStateError RuntimeApplyAdmissionInput := do
  let identities ← mapErr (referenceApplyIngressIdentities c.sha256 request) .preflightRejected
  rejectIf (preflight.tenureNonceIdentity ≠ identities.tenureNonceIdentity
    ∨ preflight.requestNonceIdentity ≠ identities.requestNonceIdentity
    ∨ preflight.temporalLineageDigest ≠ identities.temporalLineageDigest) .preflightRejected
  rejectIf (¬ c.validateManifest self.state.host.singletonManifest.canonicalBytes
    self.state.host.singletonManifest.digest request) .preflightRejected
  rejectIf (preflightMismatch self request preflight) .preflightRejected
  rejectIf (request.temporal.remainingBudget = 0) .preflightRejected
  rejectIf (u64Max < preflight.admittedAtNanos + request.temporal.remainingBudget) .preflightRejected
  let proofEnvelopeDigest ← mapErr (request.proof.envelopeDigest c.sha256) .preflightRejected
  let wire ← journaled (OpaqueCanonicalValue.tryNew request.canonicalWire request.envelopeRequestDigest
    maxOpaqueRequestOrSliceBytes)
  let sliceProvenance ← journaled (DurableSliceProvenance.tryNew c.sha256 request.target request.provenance
    request.assignmentDigest request.targetSliceDigest)
  pure
    { tenure := tenureInputOf request preflight proofEnvelopeDigest identities.tenureNonceIdentity
      request := wire
      requestNonceIdentity := identities.requestNonceIdentity
      operationId := request.operationId
      sliceProvenance := sliceProvenance
      sourceRevision := request.provenance.sourceRevision
      sourcePlanDigest := request.provenance.sourcePlanDigest
      incomingSliceDigest := request.targetSliceDigest
      incomingKind := kindOfMode request.execution.mode
      manifestDigest := request.execution.manifestDigest
      expectedActive := casOf request.expectedActive
      temporal := temporalInputOf request (preflight.admittedAtNanos + request.temporal.remainingBudget)
        identities.temporalLineageDigest
      responseChannel := preflight.responseChannel }

inductive AdmissionMutationStatus
  | new
  | exact
  | conflict
  deriving DecidableEq

def tenureAdmissionStatus (s : RuntimeJournalState) (input : RuntimeTenureAdmissionInput) : AdmissionMutationStatus :=
  let nonce := s.host.tenureNonces.find? (·.identity = input.tenureNonceIdentity)
  if s.writerFence = some input.fence ∧ nonce.any (·.valueDigest = input.proofEnvelopeDigest) then .exact
  else if nonce.isSome ∨ s.writerFence.any fun fence =>
      fence.sourceScope = input.sourceScope && input.epoch ≤ fence.epoch then .conflict
  else .new

def exactTemporal (input : RuntimeApplyAdmissionInput) (record : TemporalLineageRecord) : Bool :=
  record.sourceScope = input.tenure.sourceScope
    && record.targetFingerprint = input.tenure.ownerTargetFingerprint
    && record.originalBudgetNanos = input.temporal.originalBudgetNanos
    && record.remainingBudgetNanos = input.temporal.remainingBudgetNanos
    && record.clockGeneration = input.temporal.installedClockGeneration
    && record.deadlineNanos = input.temporal.installedDeadlineNanos
    && record.lineageDigest = input.temporal.lineageDigest

def exactPrepared (input : RuntimeApplyAdmissionInput) (p : PreparedOperation) : Bool :=
  p.sourceScope = input.tenure.sourceScope
    && p.operationId = input.operationId
    && p.sliceProvenance = input.sliceProvenance
    && p.sourceRevision = input.sourceRevision
    && p.request = input.request
    && p.requestNonceIdentity = input.requestNonceIdentity
    && p.sourcePlanDigest = input.sourcePlanDigest
    && p.incomingSliceDigest = input.incomingSliceDigest
    && p.incomingKind = input.incomingKind
    && p.manifestDigest = input.manifestDigest
    && p.expectedActive = input.expectedActive
    && p.temporalConstraintId = input.temporal.constraintId
    && p.temporalLineageDigest = input.temporal.lineageDigest
    && p.installedClockGeneration = input.temporal.installedClockGeneration
    && p.installedDeadlineNanos = input.temporal.installedDeadlineNanos

def exactTerminal (input : RuntimeApplyAdmissionInput) (t : TerminalOperationRecord) : Bool :=
  t.sourceScope = input.tenure.sourceScope
    && t.operationId = input.operationId
    && t.sliceProvenance = input.sliceProvenance
    && t.requestDigest = input.request.digest
    && t.requestNonceIdentity = input.requestNonceIdentity
    && t.sourceRevision = input.sourceRevision
    && t.sourcePlanDigest = input.sourcePlanDigest
    && t.targetSliceDigest = input.incomingSliceDigest
    && t.temporalConstraintId = input.temporal.constraintId
    && t.temporalLineageDigest = input.temporal.lineageDigest
    && t.incomingKind = input.incomingKind
    && t.installedClockGeneration = input.temporal.installedClockGeneration
    && t.installedDeadlineNanos = input.temporal.installedDeadlineNanos

def revisionCovered (s : RuntimeJournalState) (input : RuntimeApplyAdmissionInput) : Bool :=
  s.sourceRevisionHighWater.any fun highWater =>
    highWater.sourceScope = input.tenure.sourceScope && input.sourceRevision ≤ highWater.revision

def operationConflict (s : RuntimeJournalState) (input : RuntimeApplyAdmissionInput) : Bool :=
  (s.prepared.any fun p => p.sourceScope = input.tenure.sourceScope && p.operationId = input.operationId)
    || s.terminalOperations.any fun t =>
      t.sourceScope = input.tenure.sourceScope && t.operationId = input.operationId

def fullAdmissionStatus (s : RuntimeJournalState) (input : RuntimeApplyAdmissionInput) : AdmissionMutationStatus :=
  let requestNonce := s.host.requestNonces.find? (·.identity = input.requestNonceIdentity)
  let temporal := s.host.temporalLineages.find? (·.constraintId = input.temporal.constraintId)
  if requestNonce.any (·.valueDigest = input.request.digest) ∧ temporal.any (exactTemporal input)
      ∧ revisionCovered s input
      ∧ (s.prepared.any (exactPrepared input) ∨ s.terminalOperations.any (exactTerminal input)) then .exact
  else if requestNonce.isSome ∨ temporal.isSome ∨ operationConflict s input ∨ revisionCovered s input then .conflict
  else .new

/-- The capability that binds a full admission to the tenure snapshot it was minted on. -/
structure RuntimePreparedReferenceAdmission where
  admission : RuntimeApplyAdmissionInput
  tenureSnapshot : RuntimeJournalSnapshot

inductive RuntimeAdmissionDisposition
  | committed
  | alreadyDurable
  deriving DecidableEq

structure RuntimeControlTransition where
  state : RuntimeJournalSnapshot
  disposition : RuntimeAdmissionDisposition
  preparedAdmission : Option RuntimePreparedReferenceAdmission

/-- A tenure that is already durable mints the capability again only for a full admission that is durable too. -/
def durableTenureTransition (self : RuntimeJournalSnapshot) (input : RuntimeApplyAdmissionInput) :
    Except RuntimeControlStateError RuntimeControlTransition :=
  match fullAdmissionStatus self.state input with
  | .exact => .ok ⟨self, .alreadyDurable, some ⟨input, self⟩⟩
  | .new => .ok ⟨self, .alreadyDurable, none⟩
  | .conflict => .error .preflightRejected

def newTenureTransition (input : RuntimeApplyAdmissionInput) :
    Except RuntimeControlStateError RuntimeControlTransition := do
  let snapshot ← journaled (Builder.call c self (.tenureOnly input.tenure))
  pure ⟨snapshot, .committed, some ⟨input, snapshot⟩⟩

def tryReferenceTenureOnly (request : ReferenceApplyRequest) (preflight : RuntimeReferenceApplyPreflight) :
    Except RuntimeControlStateError RuntimeControlTransition := do
  let input ← tryReferenceAdmissionInput c self request preflight
  match tenureAdmissionStatus self.state input.tenure with
  | .exact => durableTenureTransition self input
  | .conflict => .error .preflightRejected
  | .new => newTenureTransition c self input

def tryReferenceResidentTenureContinuation (request : ReferenceApplyRequest)
    (preflight : RuntimeReferenceApplyPreflight) (residentTenure : RuntimeTenureAdmissionInput) :
    Except RuntimeControlStateError (Option RuntimePreparedReferenceAdmission) := do
  let input ← tryReferenceAdmissionInput c self request preflight
  if input.tenure ≠ residentTenure then pure none
  else do
    rejectIf (tenureAdmissionStatus self.state input.tenure ≠ .exact
      ∨ fullAdmissionStatus self.state input ≠ .new) .preflightRejected
    pure (some ⟨input, self⟩)

def admitStatus (input : RuntimeApplyAdmissionInput) : Except RuntimeControlStateError RuntimeControlTransition :=
  match fullAdmissionStatus self.state input with
  | .exact => .ok ⟨self, .alreadyDurable, none⟩
  | .conflict => .error .preflightRejected
  | .new => do
    let snapshot ← journaled (Builder.call c self (.fullAdmission input))
    pure ⟨snapshot, .committed, none⟩

def tryReferenceFullAdmission (prepared : RuntimePreparedReferenceAdmission) :
    Except RuntimeControlStateError RuntimeControlTransition := do
  rejectIf (self ≠ prepared.tenureSnapshot) .preflightRejected
  rejectIf (tenureAdmissionStatus self.state prepared.admission.tenure ≠ .exact) .preflightRejected
  admitStatus c self prepared.admission

/-! ## Terminals over the prepared request -/

/-- `reference_slice`: the canonical slice of the request the journal has prepared. -/
def referenceSlice (self : RuntimeJournalSnapshot) (request : ReferenceApplyRequest) :
    Except RuntimeControlStateError OpaqueCanonicalValue := do
  let prepared ← okOr self.state.prepared .preflightRejected
  rejectIf (prepared.request.canonicalBytes ≠ request.canonicalWire
    ∨ prepared.request.digest ≠ request.envelopeRequestDigest
    ∨ prepared.incomingSliceDigest ≠ request.targetSliceDigest) .preflightRejected
  journaled (OpaqueCanonicalValue.tryRuntimeSlice request.canonicalSliceWire request.targetSliceDigest)

def tryOneSourceSuccessTerminal (request : ReferenceApplyRequest) (callbackActionId : Ref16)
    (terminal : RuntimeTerminalInput) : Except RuntimeControlStateError RuntimeJournalSnapshot := do
  let slice ← referenceSlice self request
  journaled (Builder.call c self (.oneSourceSuccess slice callbackActionId terminal))

def tryOneSourcePostIntentTimeoutTerminal (request : ReferenceApplyRequest) (terminal : RuntimeTerminalInput) :
    Except RuntimeControlStateError RuntimeJournalSnapshot := do
  let _ ← referenceSlice self request
  journaled (Builder.call c self (.oneSourcePostIntentTimeout terminal))

def tryEmptyHeadRetire (request : ReferenceApplyRequest) (actionId : Ref16) (oldBudgets : ReferenceLifecycleBudgets)
    (preIntent : RuntimeDeadlineObservation) : Except RuntimeControlStateError RuntimeJournalSnapshot := do
  let slice ← referenceSlice self request
  journaled (Builder.call c self (.emptyHeadRetire
    ⟨actionId, slice, ⟨oldBudgets.start, oldBudgets.drain, oldBudgets.cleanup⟩, preIntent⟩))

def tryNoEffectDeadlineTerminal (request : ReferenceApplyRequest) (terminal : RuntimeTerminalInput) :
    Except RuntimeControlStateError RuntimeJournalSnapshot := do
  let _ ← referenceSlice self request
  journaled (Builder.call c self (.noEffectDeadline terminal))

def tryEmptyExactZeroFastPath (request : ReferenceApplyRequest) (terminal : RuntimeTerminalInput) :
    Except RuntimeControlStateError RuntimeJournalSnapshot := do
  let slice ← referenceSlice self request
  journaled (Builder.call c self (.emptyExactZeroFastPath slice terminal))

end Control
end ParaEgox
