import ParaEgox.Checked
import ParaEgox.Time

/-!
# Recovery — the recovery reducer of a process domain

The reducer owns no process and no timer.  It consumes the facts its owner observed, the results of the actions it asked
for and clock readings, and answers each with the next state and at most one action to execute.
-/
namespace ParaEgox
namespace Recovery

open Check

inductive RecoveryError
  | generationMismatch
  | clockMismatch
  | clockRegressed
  | deadlineOverflow
  | counterOverflow
  | invalidFactSequence
  | staleFact
  | conflictingFact
  | processLossAlreadyObserved
  | processLossNotObserved
  | unsettledProcessHandoffs
  | cleanupLineageMismatch
  | cleanupNotProven
  | unexpectedCleanupFact
  | actionAlreadyPending
  | noActionPending
  | actionMismatch
  | conflictingActionCompletion
  | invalidActionOutcome
  | generationRollNotReady
  | generationContinuityMismatch
  | digestFailed
  | stateInconsistent
  deriving DecidableEq

/-! ## Ownership evidence -/

structure ProcessGenerationIdentity where
  runtimeHost : Ref16
  runtimeHostEpoch : U64
  sourceRevision : U64
  targetSliceDigest : Digest32
  domain : Ref16
  domainEpoch : U64
  deriving DecidableEq

inductive SideEffectClass
  | effectFree
  | external
  | unknown
  deriving DecidableEq

structure ProcessInvocationLoss where
  «instance» : Ref16
  generation : U64
  invocation : U64
  sideEffect : SideEffectClass
  deriving DecidableEq

structure ProcessLossLineage where
  identity : ProcessGenerationIdentity
  snapshotProcessTreeMembers : Nat
  snapshotOutstanding : Nat
  snapshotHeldIpcCredits : Nat
  snapshotRetainedBytes : U64
  crossedHandoffs : Nat
  classifiedHandoffs : Nat
  externalEffectUncertain : Bool
  deriving DecidableEq

/-- `saturating_sub`. -/
def ProcessLossLineage.unsettledHandoffs (l : ProcessLossLineage) : Nat := l.crossedHandoffs - l.classifiedHandoffs

structure ProcessLossObservation where
  lineage : ProcessLossLineage
  expected : Bool
  uncertainInvocations : List ProcessInvocationLoss

structure ProcessCleanupCensus where
  leaderReaped : Bool
  liveProcessTreeMembers : Nat
  openIpcHandles : Nat
  outstandingIpcCredits : Nat
  retainedBytes : U64
  workspaceEntries : Nat
  registeredResources : Nat

structure ProcessCleanupProof where
  lineage : ProcessLossLineage
  census : ProcessCleanupCensus

/-! ## Facts -/

inductive ProcessProtocolFailure
  | invalidFrame
  | unsupportedVersion
  | generationMismatch
  | sequenceViolation
  | creditViolation
  | payloadTooLarge

inductive ProcessResourceFailure
  | memory
  | openFds
  | processTree
  | cpu

inductive ProcessOwnerInvariantFailure
  | generationMismatch
  | clockMismatch
  | clockRegressed
  | deadlineOverflow
  | stateInconsistent

/-- The invocation whose progress or outcome became suspect has the shape of a lost one. -/
abbrev ProcessInvocationFailure := ProcessInvocationLoss

inductive RuntimeFailureFactKind
  | processExited (observation : ProcessLossObservation)
  | heartbeatMissed (lastSequence : U64)
  | controlProbeMissed (probe : U64)
  | wedgeDetected (invocation : ProcessInvocationFailure)
  | invocationUncertain (invocation : ProcessInvocationFailure)
  | protocolViolation (failure : ProcessProtocolFailure)
  | resourceLimitExceeded (failure : ProcessResourceFailure)
  | ownerInvariantViolation (failure : ProcessOwnerInvariantFailure)
  | launchFailed
  | shutdownFailed
  | cleanupCompleted (proof : ProcessCleanupProof)
  | cleanupIncomplete (census : ProcessCleanupCensus)

def RuntimeFailureFactKind.names (identity : ProcessGenerationIdentity) : RuntimeFailureFactKind → Prop
  | .processExited observation => observation.lineage.identity = identity
  | .cleanupCompleted proof => proof.lineage.identity = identity
  | _ => True

instance (identity : ProcessGenerationIdentity) : (kind : RuntimeFailureFactKind) → Decidable (kind.names identity)
  | .processExited observation => inferInstanceAs (Decidable (observation.lineage.identity = identity))
  | .cleanupCompleted proof => inferInstanceAs (Decidable (proof.lineage.identity = identity))
  | .heartbeatMissed _ | .controlProbeMissed _ | .wedgeDetected _ | .invocationUncertain _ | .protocolViolation _
  | .resourceLimitExceeded _ | .ownerInvariantViolation _ | .launchFailed | .shutdownFailed | .cleanupIncomplete _ =>
    inferInstanceAs (Decidable True)

structure RuntimeFailureFact where
  identity : ProcessGenerationIdentity
  sequence : U64
  observedAt : ClockReading
  kind : RuntimeFailureFactKind
  sequence_ne : sequence ≠ 0
  names : kind.names identity

def RuntimeFailureFact.tryNew (identity : ProcessGenerationIdentity) (sequence : U64) (observedAt : ClockReading)
    (kind : RuntimeFailureFactKind) : Except RecoveryError RuntimeFailureFact := do
  let sequence_ne ← require (sequence ≠ 0) .invalidFactSequence
  let names ← require (kind.names identity) .generationMismatch
  pure { identity, sequence, observedAt, kind, sequence_ne := sequence_ne.down, names := names.down }

/-! ## The state -/

inductive QuarantineReason
  | restartAttemptsExhausted
  | externalEffectUncertain
  | cleanupNotProven
  | recoveryActionFailed
  | ownerInvariantViolation
  | epochExhausted
  deriving DecidableEq

inductive RecoveryPhase
  | healthy
  | fencing
  | cooperativeStopping
  | waitingCooperative (deadline : U64)
  | terminating
  | waitingTerminate (deadline : U64)
  | killing
  | waitingKill (deadline : U64)
  | awaitingProcessLoss (deadline : U64)
  | cleaning
  | awaitingCleanup (deadline : U64)
  | backoff (restartAt : U64)
  | startingFresh (nextEpoch : U64)
  | recovered (nextEpoch : U64)
  | stopped
  | quarantined (reason : QuarantineReason)
  deriving DecidableEq

inductive RecoveryAction
  | fenceAndStopAdmission
  | requestCooperativeStop
  | sendTerminate
  | sendKill
  | collectCleanup
  | startFreshDomain (nextEpoch : U64)
  | enterQuarantine (reason : QuarantineReason)

structure RecoveryActionEnvelope where
  id : U64
  action : RecoveryAction

inductive RecoveryActionOutcome
  | succeeded
  | processAlreadyExited
  | failed
  deriving DecidableEq

inductive RecoveryDecision
  | noAction
  | execute (envelope : RecoveryActionEnvelope)
  | awaitingAction (id : U64)
  | waitUntil (instant : U64)

structure CompletedAction where
  id : U64
  outcome : RecoveryActionOutcome

structure ProcessLifecycleBudgets where
  cooperativeStop : U64
  terminateGrace : U64
  killGrace : U64
  cleanup : U64

structure ProcessRestartPolicy where
  maxAttempts : Nat
  restartWindow : U64
  initialBackoff : U64
  maxBackoff : U64
  jitterBasisPoints : Nat

structure RecoveryState where
  identity : ProcessGenerationIdentity
  lifecycle : ProcessLifecycleBudgets
  restart : ProcessRestartPolicy
  phase : RecoveryPhase
  restartAfterCleanup : Bool
  processExited : Bool
  externalEffectUncertain : Bool
  quarantineReason : Option QuarantineReason
  quarantineEntered : Bool
  lossLineage : Option ProcessLossLineage
  unsettledHandoffs : Nat
  cleanupProven : Bool
  attemptSequence : U64
  attempts : List U64
  nextActionId : U64
  pendingAction : Option RecoveryActionEnvelope
  lastCompletedAction : Option CompletedAction
  lastFactSequence : U64
  lastFactFingerprint : Option Digest32
  lastObservedAt : ClockReading

def RecoveryState.tryNew (identity : ProcessGenerationIdentity) (lifecycle : ProcessLifecycleBudgets)
    (restart : ProcessRestartPolicy) (observedAt : ClockReading) : RecoveryState :=
  { identity, lifecycle, restart, phase := .healthy, restartAfterCleanup := false, processExited := false,
    externalEffectUncertain := false, quarantineReason := none, quarantineEntered := false, lossLineage := none,
    unsettledHandoffs := 0, cleanupProven := false, attemptSequence := 0, attempts := [], nextActionId := 0,
    pendingAction := none, lastCompletedAction := none, lastFactSequence := 0, lastFactFingerprint := none,
    lastObservedAt := observedAt }

structure RecoveryTransition where
  state : RecoveryState
  decision : RecoveryDecision

abbrev Res := Except RecoveryError

def RecoveryTransition.unchanged (state : RecoveryState) : RecoveryTransition :=
  ⟨state, match state.pendingAction with
    | none => .noAction
    | some pending => .awaitingAction pending.id⟩

def RecoveryTransition.waiting (state : RecoveryState) (deadline : U64) : RecoveryTransition := ⟨state, .waitUntil deadline⟩

/-! ## Clock and digests -/

def validateClock (previous current : ClockReading) : Res Unit := do
  rejectIf (previous.domain ≠ current.domain ∨ previous.generation ≠ current.generation) .clockMismatch
  rejectIf (current.now < previous.now) .clockRegressed

def addBudget (reading : ClockReading) (budget : U64) : Res U64 := addU64 reading.now budget .deadlineOverflow

/-- `reached`: the reading is at or after the instant. -/
def reached (reading : ClockReading) (instant : U64) : Prop := instant ≤ reading.now

instance {reading : ClockReading} {instant : U64} : Decidable (reached reading instant) :=
  inferInstanceAs (Decidable (instant ≤ reading.now))

def recoveryFactDigestDomain : Bytes :=
  Text.bytes (s := "paraegox.runtime.failure-fact.sha256.internal.v1") ⟨_, by conv => rhs; simp [ascii]⟩
def recoveryJitterDigestDomain : Bytes :=
  Text.bytes (s := "paraegox.runtime.restart-jitter.sha256.internal.v1") ⟨_, by conv => rhs; simp [ascii]⟩

def fieldTag (value : Nat) : Bytes := bytesBE 1 value
def fieldBool (value : Bool) : Bytes := bytesBE 1 value.toNat

def sideEffectTag : SideEffectClass → Nat
  | .effectFree => 1
  | .external => 2
  | .unknown => 3

def protocolFailureTag : ProcessProtocolFailure → Nat
  | .invalidFrame => 1
  | .unsupportedVersion => 2
  | .generationMismatch => 3
  | .sequenceViolation => 4
  | .creditViolation => 5
  | .payloadTooLarge => 6

def resourceFailureTag : ProcessResourceFailure → Nat
  | .memory => 1
  | .openFds => 2
  | .processTree => 3
  | .cpu => 4

def ownerInvariantFailureTag : ProcessOwnerInvariantFailure → Nat
  | .generationMismatch => 1
  | .clockMismatch => 2
  | .clockRegressed => 3
  | .deadlineOverflow => 4
  | .stateInconsistent => 5

def ProcessGenerationIdentity.fields (i : ProcessGenerationIdentity) : List Bytes :=
  [i.runtimeHost.asBytes, bytesBE 8 i.runtimeHostEpoch, bytesBE 8 i.sourceRevision, i.targetSliceDigest.asBytes,
    i.domain.asBytes, bytesBE 8 i.domainEpoch]

/-- `append_loss_lineage`. -/
def ProcessLossLineage.fields (l : ProcessLossLineage) : List Bytes :=
  [bytesBE 4 l.snapshotProcessTreeMembers, bytesBE 4 l.snapshotOutstanding, bytesBE 4 l.snapshotHeldIpcCredits,
    bytesBE 8 l.snapshotRetainedBytes, bytesBE 4 l.crossedHandoffs, bytesBE 4 l.classifiedHandoffs,
    fieldBool l.externalEffectUncertain]

/-- `append_invocation`. -/
def ProcessInvocationLoss.fields (i : ProcessInvocationLoss) : List Bytes :=
  [i.instance.asBytes, bytesBE 8 i.generation, bytesBE 8 i.invocation, fieldTag (sideEffectTag i.sideEffect)]

/-- `append_census`. -/
def ProcessCleanupCensus.fields (c : ProcessCleanupCensus) : List Bytes :=
  [fieldBool c.leaderReaped, bytesBE 4 c.liveProcessTreeMembers, bytesBE 4 c.openIpcHandles,
    bytesBE 4 c.outstandingIpcCredits, bytesBE 8 c.retainedBytes, bytesBE 4 c.workspaceEntries,
    bytesBE 4 c.registeredResources]

/-- `append_fact_kind`. -/
def RuntimeFailureFactKind.fields : RuntimeFailureFactKind → List Bytes
  | .processExited o => [fieldTag 1, fieldBool o.expected] ++ o.lineage.identity.fields ++ o.lineage.fields
    ++ o.uncertainInvocations.flatMap ProcessInvocationLoss.fields
  | .heartbeatMissed lastSequence => [fieldTag 2, bytesBE 8 lastSequence]
  | .controlProbeMissed probe => [fieldTag 3, bytesBE 8 probe]
  | .wedgeDetected invocation => fieldTag 4 :: invocation.fields
  | .invocationUncertain invocation => fieldTag 5 :: invocation.fields
  | .protocolViolation failure => [fieldTag 6, fieldTag (protocolFailureTag failure)]
  | .resourceLimitExceeded failure => [fieldTag 10, fieldTag (resourceFailureTag failure)]
  | .ownerInvariantViolation failure => [fieldTag 11, fieldTag (ownerInvariantFailureTag failure)]
  | .launchFailed => [fieldTag 7]
  | .shutdownFailed => [fieldTag 12]
  | .cleanupCompleted proof => fieldTag 8 :: (proof.lineage.fields ++ proof.census.fields)
  | .cleanupIncomplete census => fieldTag 9 :: census.fields

def fingerprintFact (sha256 : Sha256) (fact : RuntimeFailureFact) : Res Digest32 :=
  mapErr (digest32 sha256 recoveryFactDigestDomain (fact.identity.fields ++ [bytesBE 8 fact.sequence,
    fact.observedAt.domain.asBytes, bytesBE 8 fact.observedAt.generation, bytesBE 8 fact.observedAt.now]
    ++ fact.kind.fields)) .digestFailed

/-! ## Building blocks -/

/-- The reason that holds when `reason` is added to what is already remembered. -/
def rememberedReason (old : Option QuarantineReason) (reason : QuarantineReason) : QuarantineReason := match old with
  | none => reason
  | some previous =>
    if reason = .externalEffectUncertain ∨ (reason = .ownerInvariantViolation ∧ previous ≠ .externalEffectUncertain)
    then reason else previous

def rememberQuarantineReason (state : RecoveryState) (reason : QuarantineReason) : RecoveryState :=
  { state with quarantineReason := some (rememberedReason state.quarantineReason reason) }

def rememberUncertainty (state : RecoveryState) : RecoveryState :=
  if state.externalEffectUncertain then rememberQuarantineReason state .externalEffectUncertain else state

def rememberActionFailure (state : RecoveryState) : RecoveryState :=
  rememberUncertainty (rememberQuarantineReason state .recoveryActionFailed)

def issue (state : RecoveryState) (phase : RecoveryPhase) (action : RecoveryAction) : Res RecoveryTransition := do
  rejectIf (state.pendingAction ≠ none) .actionAlreadyPending
  let value ← addU64 state.nextActionId 1 .counterOverflow
  pure ⟨{ state with nextActionId := value, phase, pendingAction := some ⟨value, action⟩ }, .execute ⟨value, action⟩⟩

/-- `quarantine`, from the state that remembers its reason. -/
def enterQuarantine (state : RecoveryState) (reason : QuarantineReason) : Res RecoveryTransition :=
  if state.pendingAction ≠ none then pure (.unchanged state)
  else if state.quarantineEntered then pure (.unchanged { state with phase := .quarantined reason })
  else issue state (.quarantined reason) (.enterQuarantine reason)

def quarantine (state : RecoveryState) (reason : QuarantineReason) : Res RecoveryTransition := do
  let next := rememberQuarantineReason state reason
  let reason ← okOr next.quarantineReason .stateInconsistent
  enterQuarantine next reason

def ensureLossSettled (state : RecoveryState) : Res ProcessLossLineage := do
  let lineage ← okOr state.lossLineage .processLossNotObserved
  rejectIf (state.unsettledHandoffs ≠ 0 ∨ lineage.unsettledHandoffs ≠ 0) .unsettledProcessHandoffs
  pure lineage

def beginCleanup (state : RecoveryState) : Res RecoveryTransition := do
  let _ ← ensureLossSettled state
  rejectIf (state.processExited = false) .processLossNotObserved
  issue state .cleaning .collectCleanup

def beginFailure (state : RecoveryState) : Res RecoveryTransition :=
  let state := { state with restartAfterCleanup := true }
  if state.phase = .healthy then issue state .fencing .fenceAndStopAdmission else pure (.unchanged state)

def beginOwnerInvariantFailure (state : RecoveryState) : Res RecoveryTransition :=
  let state := rememberQuarantineReason state .ownerInvariantViolation
  match state.phase with
  | .backoff _ | .startingFresh _ | .recovered _ | .stopped => quarantine state .ownerInvariantViolation
  | _ => beginFailure state

def awaitProcessLoss (state : RecoveryState) (observedAt : ClockReading) : Res RecoveryTransition := do
  let deadline ← addBudget observedAt state.lifecycle.cleanup
  pure (.waiting { state with phase := .awaitingProcessLoss deadline } deadline)

/-! ## The restart ledger -/

def attemptsExhausted (state : RecoveryState) : Prop := state.restart.maxAttempts ≤ state.attempts.length

instance {state : RecoveryState} : Decidable (attemptsExhausted state) :=
  inferInstanceAs (Decidable (state.restart.maxAttempts ≤ state.attempts.length))

def pruneAttempts (state : RecoveryState) (observedAt : ClockReading) : Res RecoveryState := do
  validateClock state.lastObservedAt observedAt
  forEach state.attempts fun attempt => rejectIf (u64Max < attempt + state.restart.restartWindow) .deadlineOverflow
  pure { state with attempts := state.attempts.filter fun attempt =>
           observedAt.now < min (attempt + state.restart.restartWindow) u64Max }

/-- One doubling of the backoff: `checked_mul(2).unwrap_or(maximum).min(maximum)`. -/
def doubleBackoff (maximum base : U64) : U64 := min (if base * 2 ≤ u64Max then base * 2 else maximum) maximum

def deterministicJitter (sha256 : Sha256) (state : RecoveryState) (cap : U64) : Res U64 := do
  let nextAttempt ← addU64 state.attemptSequence 1 .counterOverflow
  let digest ← mapErr (digest32 sha256 recoveryJitterDigestDomain (state.identity.fields ++ [bytesBE 8 nextAttempt]))
    .digestFailed
  let range ← addU64 cap 1 .counterOverflow
  pure (fromBE (digest.asBytes.take 8) % range)

def jitter (sha256 : Sha256) (state : RecoveryState) (cap : U64) : Res U64 :=
  if cap = 0 then pure 0 else deterministicJitter sha256 state cap

def restartDelay (sha256 : Sha256) (state : RecoveryState) : Res U64 := do
  let maximum := state.restart.maxBackoff
  let base := (doubleBackoff maximum)^[state.attempts.length] state.restart.initialBackoff
  let jitterCap := base * state.restart.jitterBasisPoints / 10000
  rejectIf (u64Max < jitterCap) .counterOverflow
  let jitter ← jitter sha256 state (min jitterCap (maximum - base))
  addU64 base jitter .counterOverflow

def scheduleRestart (sha256 : Sha256) (state : RecoveryState) (observedAt : ClockReading) : Res RecoveryTransition := do
  let delay ← restartDelay sha256 state
  let restartAt ← addBudget observedAt delay
  pure (.waiting { state with phase := .backoff restartAt } restartAt)

def scheduleWithinWindow (sha256 : Sha256) (state : RecoveryState) (observedAt : ClockReading) :
    Res RecoveryTransition := do
  let state ← pruneAttempts state observedAt
  if attemptsExhausted state then quarantine state .restartAttemptsExhausted
  else scheduleRestart sha256 state observedAt

/-- `schedule_after_cleanup`, past its two guards. -/
def scheduleClean (sha256 : Sha256) (state : RecoveryState) (observedAt : ClockReading) : Res RecoveryTransition :=
  if state.externalEffectUncertain then quarantine state .externalEffectUncertain
  else match state.quarantineReason with
    | some reason => quarantine state reason
    | none =>
      if state.restartAfterCleanup then scheduleWithinWindow sha256 state observedAt
      else pure (.unchanged { state with phase := .stopped })

def scheduleAfterCleanup (sha256 : Sha256) (state : RecoveryState) (observedAt : ClockReading) :
    Res RecoveryTransition := do
  let _ ← ensureLossSettled state
  rejectIf (state.cleanupProven = false) .cleanupNotProven
  scheduleClean sha256 state observedAt

/-! ## Facts observed -/

def RecoveryPhase.recordsExit : RecoveryPhase → Bool
  | .cleaning | .awaitingCleanup _ | .backoff _ | .startingFresh _ | .recovered _ | .stopped => true
  | _ => false

def withLoss (next : RecoveryState) (observation : ProcessLossObservation) : RecoveryState :=
  { next with
    unsettledHandoffs := observation.lineage.unsettledHandoffs
    externalEffectUncertain := next.externalEffectUncertain || observation.lineage.externalEffectUncertain
    lossLineage := some observation.lineage
    processExited := true }

def afterLoss (next : RecoveryState) (expected : Bool) : Res RecoveryTransition :=
  if next.phase = .healthy then
    issue { next with restartAfterCleanup := !expected } .fencing .fenceAndStopAdmission
  else if next.pendingAction = none ∧ next.phase.recordsExit = false then beginCleanup next
  else pure (.unchanged next)

def observeProcessExited (next : RecoveryState) (observation : ProcessLossObservation) : Res RecoveryTransition := do
  rejectIf (next.lossLineage ≠ none) .processLossAlreadyObserved
  rejectIf (observation.lineage.unsettledHandoffs ≠ 0) .unsettledProcessHandoffs
  afterLoss (withLoss next observation) observation.expected

def observeExternalUncertain (next : RecoveryState) : Res RecoveryTransition :=
  let next := { next with externalEffectUncertain := true }
  match next.phase with
  | .backoff _ | .recovered _ | .stopped => quarantine next .externalEffectUncertain
  | _ => beginFailure next

def observeInvocation (next : RecoveryState) (invocation : ProcessInvocationFailure) : Res RecoveryTransition :=
  if invocation.sideEffect ≠ .effectFree then observeExternalUncertain next else beginFailure next

def cleanupDeadline (next : RecoveryState) : Res (Option U64) := match next.phase with
  | .awaitingCleanup deadline => pure (some deadline)
  | .quarantined _ => if next.quarantineReason.isSome then pure none else .error .unexpectedCleanupFact
  | _ => .error .unexpectedCleanupFact

def withProof (next : RecoveryState) (proof : ProcessCleanupProof) : RecoveryState :=
  { next with
    externalEffectUncertain := next.externalEffectUncertain || proof.lineage.externalEffectUncertain
    cleanupProven := true }

def afterProof (sha256 : Sha256) (next : RecoveryState) (deadline : Option U64) (observedAt : ClockReading) :
    Res RecoveryTransition :=
  if deadline.any (decide <| reached observedAt ·) then quarantine next .cleanupNotProven
  else if next.pendingAction ≠ none then pure (.unchanged next)
  else scheduleAfterCleanup sha256 next observedAt

def observeCleanupCompleted (sha256 : Sha256) (next : RecoveryState) (proof : ProcessCleanupProof)
    (observedAt : ClockReading) : Res RecoveryTransition := do
  rejectIf (proof.lineage.identity ≠ next.identity) .generationMismatch
  let lineage ← okOr next.lossLineage .processLossNotObserved
  rejectIf (next.unsettledHandoffs ≠ 0) .unsettledProcessHandoffs
  rejectIf (proof.lineage ≠ lineage) .cleanupLineageMismatch
  let deadline ← cleanupDeadline next
  afterProof sha256 (withProof next proof) deadline observedAt

def observeCleanupIncomplete (next : RecoveryState) : Res RecoveryTransition := match next.phase with
  | .awaitingCleanup _ => quarantine next .cleanupNotProven
  | .quarantined _ =>
    if next.quarantineReason.isSome then pure (.unchanged next) else .error .unexpectedCleanupFact
  | _ => .error .unexpectedCleanupFact

def observeKind (sha256 : Sha256) (next : RecoveryState) (observedAt : ClockReading) :
    RuntimeFailureFactKind → Res RecoveryTransition
  | .processExited observation => observeProcessExited next observation
  | .heartbeatMissed _ | .controlProbeMissed _ | .protocolViolation _ | .resourceLimitExceeded _ | .launchFailed
  | .shutdownFailed => beginFailure next
  | .ownerInvariantViolation _ => beginOwnerInvariantFailure next
  | .wedgeDetected invocation | .invocationUncertain invocation => observeInvocation next invocation
  | .cleanupCompleted proof => observeCleanupCompleted sha256 next proof observedAt
  | .cleanupIncomplete _ => observeCleanupIncomplete next

def RuntimeFailureFactKind.isEvidence : RuntimeFailureFactKind → Bool
  | .processExited _ | .cleanupCompleted _ | .cleanupIncomplete _ => true
  | _ => false

def RecoveryPhase.isQuarantined : RecoveryPhase → Bool
  | .quarantined _ => true
  | _ => false

def ignores (next : RecoveryState) (kind : RuntimeFailureFactKind) : Bool :=
  next.phase.isQuarantined && (next.cleanupProven || !kind.isEvidence)

def consumeFact (sha256 : Sha256) (state : RecoveryState) (fact : RuntimeFailureFact) (fingerprint : Digest32) :
    Res RecoveryTransition :=
  let next := { state with lastFactSequence := fact.sequence, lastFactFingerprint := some fingerprint,
                           lastObservedAt := fact.observedAt }
  if ignores next fact.kind then pure (.unchanged next) else observeKind sha256 next fact.observedAt fact.kind

def repeatFact (state : RecoveryState) (fingerprint : Digest32) : Res RecoveryTransition :=
  if state.lastFactFingerprint = some fingerprint then pure (.unchanged state) else .error .conflictingFact

def observeFact (sha256 : Sha256) (state : RecoveryState) (fact : RuntimeFailureFact) : Res RecoveryTransition := do
  rejectIf (fact.identity ≠ state.identity) .generationMismatch
  validateClock state.lastObservedAt fact.observedAt
  let fingerprint ← fingerprintFact sha256 fact
  rejectIf (fact.sequence < state.lastFactSequence) .staleFact
  if fact.sequence = state.lastFactSequence then repeatFact state fingerprint
  else consumeFact sha256 state fact fingerprint

/-! ## Actions completed -/

def RecoveryAction.stopsProcess : RecoveryAction → Bool
  | .requestCooperativeStop | .sendTerminate | .sendKill => true
  | _ => false

/-- A stop that failed goes on to cleanup if the process is gone, else to the next stronger stop. -/
def escalate (next : RecoveryState) (phase : RecoveryPhase) (action : RecoveryAction) : Res RecoveryTransition :=
  if next.processExited then beginCleanup next else issue next phase action

def quarantineRemembered (next : RecoveryState) : Res RecoveryTransition := do
  let reason ← okOr next.quarantineReason .stateInconsistent
  quarantine next reason

def restQuarantined (next : RecoveryState) : Res RecoveryTransition := do
  let reason ← okOr next.quarantineReason .stateInconsistent
  pure (.unchanged { next with phase := .quarantined reason })

def completeFailed (next : RecoveryState) : RecoveryAction → Res RecoveryTransition
  | .requestCooperativeStop => escalate (rememberActionFailure next) .terminating .sendTerminate
  | .sendTerminate => escalate (rememberActionFailure next) .killing .sendKill
  | .sendKill =>
    if next.processExited then beginCleanup (rememberActionFailure next)
    else quarantineRemembered (rememberActionFailure next)
  | .enterQuarantine reason => restQuarantined (rememberUncertainty (rememberQuarantineReason next reason))
  | .fenceAndStopAdmission | .collectCleanup | .startFreshDomain _ => quarantineRemembered (rememberActionFailure next)

def waitWith (next : RecoveryState) (observedAt : ClockReading) (budget : U64) (phase : U64 → RecoveryPhase) :
    Res RecoveryTransition := do
  let deadline ← addBudget observedAt budget
  pure (.waiting { next with phase := phase deadline } deadline)

def completeStop (next : RecoveryState) (outcome : RecoveryActionOutcome) (observedAt : ClockReading) (budget : U64)
    (phase : U64 → RecoveryPhase) : Res RecoveryTransition :=
  if next.processExited then beginCleanup next
  else if outcome = .processAlreadyExited then awaitProcessLoss next observedAt
  else waitWith next observedAt budget phase

def becomeRecovered (next : RecoveryState) (nextEpoch : U64) : Res RecoveryTransition :=
  if next.externalEffectUncertain then quarantine next .externalEffectUncertain
  else match next.quarantineReason with
    | some reason => quarantine next reason
    | none => pure (.unchanged { next with phase := .recovered nextEpoch })

def completeStartFresh (next : RecoveryState) (nextEpoch : U64) : Res RecoveryTransition := do
  let _ ← ensureLossSettled next
  rejectIf (next.cleanupProven = false) .cleanupNotProven
  becomeRecovered next nextEpoch

def completeCollect (next : RecoveryState) (observedAt : ClockReading) : Res RecoveryTransition := do
  let _ ← ensureLossSettled next
  waitWith next observedAt next.lifecycle.cleanup .awaitingCleanup

def completeEnterQuarantine (next : RecoveryState) (reason : QuarantineReason) : Res RecoveryTransition :=
  let next := { rememberUncertainty (rememberQuarantineReason next reason) with quarantineEntered := true }
  if next.processExited ∧ next.cleanupProven = false then beginCleanup next else restQuarantined next

def completeDone (next : RecoveryState) (outcome : RecoveryActionOutcome) (observedAt : ClockReading) :
    RecoveryAction → Res RecoveryTransition
  | .fenceAndStopAdmission => escalate next .cooperativeStopping .requestCooperativeStop
  | .requestCooperativeStop => completeStop next outcome observedAt next.lifecycle.cooperativeStop .waitingCooperative
  | .sendTerminate => completeStop next outcome observedAt next.lifecycle.terminateGrace .waitingTerminate
  | .sendKill => completeStop next outcome observedAt next.lifecycle.killGrace .waitingKill
  | .collectCleanup => completeCollect next observedAt
  | .startFreshDomain nextEpoch => completeStartFresh next nextEpoch
  | .enterQuarantine reason => completeEnterQuarantine next reason

def completePending (state : RecoveryState) (id : U64) (outcome : RecoveryActionOutcome) (observedAt : ClockReading) :
    Res RecoveryTransition := do
  let pending ← okOr state.pendingAction .noActionPending
  rejectIf (pending.id ≠ id) .actionMismatch
  rejectIf (outcome = .processAlreadyExited ∧ pending.action.stopsProcess = false) .invalidActionOutcome
  let next := { state with pendingAction := none, lastCompletedAction := some ⟨id, outcome⟩,
                           lastObservedAt := observedAt }
  if outcome = .failed then completeFailed next pending.action else completeDone next outcome observedAt pending.action

def completeAction (state : RecoveryState) (id : U64) (outcome : RecoveryActionOutcome) (observedAt : ClockReading) :
    Res RecoveryTransition := do
  validateClock state.lastObservedAt observedAt
  match state.lastCompletedAction with
  | some completed =>
    if completed.id = id then
      if completed.outcome = outcome then pure (.unchanged state) else .error .conflictingActionCompletion
    else completePending state id outcome observedAt
  | none => completePending state id outcome observedAt

/-! ## The next generation -/

def recoveredEpoch : RecoveryPhase → Option U64
  | .recovered nextEpoch => some nextEpoch
  | _ => none

def rollGeneration (state : RecoveryState) (identity : ProcessGenerationIdentity) (observedAt : ClockReading) :
    Res RecoveryState := do
  validateClock state.lastObservedAt observedAt
  let nextEpoch ← okOr (recoveredEpoch state.phase) .generationRollNotReady
  rejectIf (state.pendingAction ≠ none) .stateInconsistent
  rejectIf (state.externalEffectUncertain ∨ state.quarantineReason ≠ none ∨ state.quarantineEntered) .stateInconsistent
  rejectIf (identity.runtimeHost ≠ state.identity.runtimeHost
    ∨ identity.runtimeHostEpoch ≠ state.identity.runtimeHostEpoch
    ∨ identity.sourceRevision ≠ state.identity.sourceRevision
    ∨ identity.targetSliceDigest ≠ state.identity.targetSliceDigest ∨ identity.domain ≠ state.identity.domain
    ∨ identity.domainEpoch ≠ nextEpoch) .generationContinuityMismatch
  pure { state with
    identity
    phase := .healthy
    restartAfterCleanup := false
    processExited := false
    externalEffectUncertain := false
    quarantineReason := none
    quarantineEntered := false
    lossLineage := none
    unsettledHandoffs := 0
    cleanupProven := false
    lastFactSequence := 0
    lastFactFingerprint := none
    lastObservedAt := observedAt }

/-! ## Deadlines polled -/

/-- `DomainEpoch::try_next`. -/
def nextDomainEpoch (epoch : U64) : Option U64 := if epoch + 1 ≤ u64Max then some (epoch + 1) else none

def startFresh (state : RecoveryState) (observedAt : ClockReading) (nextEpoch : U64) : Res RecoveryTransition := do
  let attemptSequence ← addU64 state.attemptSequence 1 .counterOverflow
  -- The attempt is consumed before the action that can spawn.
  issue { state with attemptSequence, attempts := state.attempts ++ [observedAt.now] }
    (.startingFresh nextEpoch) (.startFreshDomain nextEpoch)

def attemptRestart (state : RecoveryState) (observedAt : ClockReading) : Res RecoveryTransition :=
  if attemptsExhausted state then quarantine state .restartAttemptsExhausted
  else match nextDomainEpoch state.identity.domainEpoch with
    | none => quarantine state .epochExhausted
    | some nextEpoch => startFresh state observedAt nextEpoch

def leaveBackoff (next : RecoveryState) (observedAt : ClockReading) : Res RecoveryTransition := do
  let _ ← ensureLossSettled next
  rejectIf (next.cleanupProven = false) .cleanupNotProven
  let next ← pruneAttempts next observedAt
  attemptRestart next observedAt

def atDeadline (next : RecoveryState) (observedAt : ClockReading) (deadline : U64) (atEnd : Res RecoveryTransition) :
    Res RecoveryTransition :=
  if reached observedAt deadline then atEnd else pure (.waiting next deadline)

def pollPhase (next : RecoveryState) (observedAt : ClockReading) : Res RecoveryTransition := match next.phase with
  | .waitingCooperative deadline => atDeadline next observedAt deadline (issue next .terminating .sendTerminate)
  | .waitingTerminate deadline => atDeadline next observedAt deadline (issue next .killing .sendKill)
  | .waitingKill deadline | .awaitingProcessLoss deadline | .awaitingCleanup deadline =>
    atDeadline next observedAt deadline (quarantine next .cleanupNotProven)
  | .backoff restartAt => atDeadline next observedAt restartAt (leaveBackoff next observedAt)
  | .quarantined _ =>
    if next.processExited ∧ next.cleanupProven = false then beginCleanup next else pure (.unchanged next)
  | .healthy | .recovered _ | .stopped => pure (.unchanged next)
  | .fencing | .cooperativeStopping | .terminating | .killing | .cleaning | .startingFresh _ => .error .stateInconsistent

def poll (state : RecoveryState) (observedAt : ClockReading) : Res RecoveryTransition := do
  validateClock state.lastObservedAt observedAt
  match state.pendingAction with
  | some pending => pure ⟨state, .awaitingAction pending.id⟩
  | none => pollPhase { state with lastObservedAt := observedAt } observedAt

end Recovery
end ParaEgox
