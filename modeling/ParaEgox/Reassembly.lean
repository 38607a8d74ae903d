import ParaEgox.ApplyCore

/-!
# Reassembly — the restart state machine

`RuntimeRestartReassemblyCore::run`: after the startup commit and before the listener exists, an interrupted operation or
recovery is closed or quarantined, resources of earlier processes are cleaned up, and an eligible one-source head is
started again by a recovery action of its own.
-/
namespace ParaEgox
namespace Control

open Check Journal RuntimeJournalSnapshot Program

inductive RuntimeRestartReassemblyError
  | store (e : RuntimeReferenceApplyStoreError)
  | clock (e : RuntimeReferenceApplyClockError)
  | state (e : RuntimeControlStateError)
  | apply (e : RuntimeReferenceApplyError)
  | invalidState
  | invalidDeadline
  | digest

def recoveryDeadlineEvidenceDomain : Bytes :=
  Text.bytes (s := "paraegox.runtime.restart-reassembly.deadline.sha256.v1") ⟨_, by conv => rhs; simp [ascii]⟩
def recoveryOwnerFailureDomain : Bytes :=
  Text.bytes (s := "paraegox.runtime.restart-reassembly.owner-failure.sha256.v1") ⟨_, by conv => rhs; simp [ascii]⟩

def runtimeRecoveryMaxStartBudgetNanos : U64 := 60000000000

def effectiveRecoveryStartBudget (signedStartBudgetNanos : U64) : U64 :=
  if signedStartBudgetNanos < runtimeRecoveryMaxStartBudgetNanos then signedStartBudgetNanos
  else runtimeRecoveryMaxStartBudgetNanos

def recoveryDeadlineEvidence (sha256 : Sha256) (snapshot : RuntimeJournalSnapshot) (plan : RuntimeOneSourceOwnerPlan)
    (observation : RuntimeDeadlineObservation) (deadlineNanos : U64) : Except DigestBuildError Digest32 :=
  digest32 sha256 recoveryDeadlineEvidenceDomain
    [bytesBE 8 snapshot.sequence, plan.actionId.asBytes, bytesBE 8 plan.resourceGeneration,
      bytesBE 8 observation.clockGeneration, bytesBE 8 observation.observedAtNanos,
      bytesBE 8 plan.signedBudgets.start, bytesBE 8 runtimeRecoveryMaxStartBudgetNanos, bytesBE 8 deadlineNanos]

def recoveryOwnerFailureDigest (sha256 : Sha256) (error : RuntimeReferenceMaterializationOwnerError) :
    Except DigestBuildError Digest32 :=
  digest32 sha256 recoveryOwnerFailureDomain [bytesBE 2 error.code]

def recoveryQuarantineDigest (sha256 : Sha256) (snapshot : RuntimeJournalSnapshot) (reason : Bytes) :
    Except DigestBuildError Digest32 :=
  digest32 sha256 recoveryOwnerFailureDomain [bytesBE 8 snapshot.sequence, reason]

def recoveryQuarantineDigestWithFailure (sha256 : Sha256) (snapshot : RuntimeJournalSnapshot) (reason : Bytes)
    (priorFailure : Digest32) : Except DigestBuildError Digest32 :=
  digest32 sha256 recoveryOwnerFailureDomain [bytesBE 8 snapshot.sequence, reason, priorFailure.asBytes]

inductive QuarantineReason
  | restartOwnerBindingUnavailable
  | restartCleanupProvenanceUnavailable
  | activeExecutionMismatch
  | oldGenerationNotProvenZero
  | normalActionNotProvenZero
  | activeManifestMismatch
  | postIntentActionNotProvenZero
  | startupRecoveryPhaseNotInvalidated
  | startupLiveStateNotRecoverable
  | startupReconcileRequired
  | recoveryPlanOwnerRejected
  | recoveryBudgetInvalid
  | durableRecoveryPlanDiverged
  | recoveryMaterializationUncertain
  | recoveryCleanupNotProvenZero

def QuarantineReason.text : QuarantineReason → String
  | restartOwnerBindingUnavailable => "restart-owner-binding-unavailable"
  | restartCleanupProvenanceUnavailable => "restart-cleanup-provenance-unavailable"
  | activeExecutionMismatch => "active-execution-mismatch"
  | oldGenerationNotProvenZero => "old-generation-not-proven-zero"
  | normalActionNotProvenZero => "normal-action-not-proven-zero"
  | activeManifestMismatch => "active-manifest-mismatch"
  | postIntentActionNotProvenZero => "post-intent-action-not-proven-zero"
  | startupRecoveryPhaseNotInvalidated => "startup-recovery-phase-not-invalidated"
  | startupLiveStateNotRecoverable => "startup-live-state-not-recoverable"
  | startupReconcileRequired => "startup-reconcile-required"
  | recoveryPlanOwnerRejected => "recovery-plan-owner-rejected"
  | recoveryBudgetInvalid => "recovery-budget-invalid"
  | durableRecoveryPlanDiverged => "durable-recovery-plan-diverged"
  | recoveryMaterializationUncertain => "recovery-materialization-uncertain"
  | recoveryCleanupNotProvenZero => "recovery-cleanup-not-proven-zero"

abbrev Reassembly := Job ports RuntimeJournalSnapshot RuntimeRestartReassemblyError

namespace Reassembly

/-! ## Steps -/

def observe : Reassembly RuntimeDeadlineObservation := do
  let self ← Job.self
  let answer ← Job.call (I := ports) (.observe self.state.host.clockGenerationHighWater)
  Job.lift .clock answer

def commit (next : RuntimeJournalSnapshot) : Reassembly Unit := do
  let answer ← Job.call (I := ports) (.commitSnapshot next)
  Job.lift .store answer
  Job.update fun _ => next

def advance (c : Contracts) (b : Builder) : Reassembly Unit := do
  let self ← Job.self
  let next ← Job.lift (fun e => .state (.journal e)) (b.call c self)
  commit next

def quarantine (c : Contracts) (reason : QuarantineReason) : Reassembly Unit := do
  let self ← Job.self
  let digest ← Job.lift (fun _ => .digest) (recoveryQuarantineDigest c.sha256 self (ascii reason.text))
  advance c (.operationalQuarantine digest)

def quarantinePreservingFailure (c : Contracts) (reason : QuarantineReason) (priorFailure : Digest32) :
    Reassembly Unit := do
  let self ← Job.self
  let digest ← Job.lift (fun _ => .digest)
    (recoveryQuarantineDigestWithFailure c.sha256 self (ascii reason.text) priorFailure)
  advance c (.operationalQuarantine digest)

/-! ## Closing the interrupted operation -/

def historical (c : Contracts) : Reassembly (PreparedOperation × ReferenceApplyRequest × ReferenceChannelBinding) := do
  let self ← Job.self
  let prepared ← Job.need .invalidState self.state.prepared
  let request ← Job.need .invalidState (c.decodeRequest prepared.request.canonicalBytes)
  let channel ← Job.lift (fun _ => .invalidState) (prepared.responseChannel.toContract c.sha256)
  pure (prepared, request, channel)

def signed (x : Provision) (request : ReferenceApplyRequest) (preview : RuntimeTerminalPreview)
    (channel : ReferenceChannelBinding) (observation : RuntimeDeadlineObservation) :
    Reassembly RuntimeTerminalInput := do
  let receipt ← Job.lift .apply (x.signTerminal request preview channel)
  Job.lift (fun e => .state (.journal e)) (Apply.receiptInput receipt observation)

def interruptedPreview (c : Contracts) (kind : DesiredHeadKind) (self : RuntimeJournalSnapshot)
    (tombstones : Option RuntimeOneSourceTombstonesInput) (observation : RuntimeDeadlineObservation) :
    Res RuntimeTerminalPreview :=
  match kind with
  | .oneSourceLoop => self.tryPreviewStartupInterruptedStartTerminal c tombstones observation
  | .emptyDeactivate => self.tryPreviewEmptyExactZeroTerminal c tombstones observation

def interruptedTerminal (kind : DesiredHeadKind) (tombstones : Option RuntimeOneSourceTombstonesInput)
    (terminal : RuntimeTerminalInput) : Builder :=
  match kind with
  | .oneSourceLoop => .startupInterruptedStart tombstones terminal
  | .emptyDeactivate => .emptyExactZero tombstones terminal

def terminalizeInterruptedNormal (x : Provision) (tombstones : Option RuntimeOneSourceTombstonesInput) :
    Reassembly Unit := do
  let (prepared, request, channel) ← historical x.contracts
  let observation ← observe
  let self ← Job.self
  let preview ← Job.lift (fun e => .state (.journal e))
    (interruptedPreview x.contracts prepared.incomingKind self tombstones observation)
  let terminal ← signed x request preview channel observation
  advance x.contracts (interruptedTerminal prepared.incomingKind tombstones terminal)

def terminalizeAbortedNoEffects (x : Provision) : Reassembly Unit := do
  let (_, request, channel) ← historical x.contracts
  let observation ← observe
  let self ← Job.self
  let preview ← Job.lift (fun e => .state (.journal e))
    (self.tryPreviewStartupAbortedNoEffectsTerminal x.contracts observation)
  let terminal ← signed x request preview channel observation
  advance x.contracts (.startupAbortedNoEffects terminal)

/-! ## A recovery -/

def cleanFailedRecovery (c : Contracts) (action : JournalActionRef) : Reassembly Unit := do
  advance c .beginRecoveryCleanup
  let answer ← Job.call (I := ports) (.cleanupRecoveryOneSourceOnce action)
  match answer with
  | .error _ => quarantine c .recoveryCleanupNotProvenZero
  | .ok tombstones => do
    let selection ← observe
    advance c (.recoveryFailedNotReady (some tombstones) selection)

/-- A callback in time is published live; one whose selection is late is latched as timed out. -/
def selectRecovery (c : Contracts) (action : JournalActionRef) (deadlineNanos : U64) : Reassembly Unit := do
  let selection ← observe
  if selection.observedAtNanos < deadlineNanos then advance c (.recoveryLiveReady selection)
  else do
    advance c (.latchRecoveryDeadline selection)
    cleanFailedRecovery c action

def callbackOutcome (c : Contracts) : Except RuntimeReferenceMaterializationOwnerError Unit →
    Except RuntimeRestartReassemblyError RuntimeRecoveryCallbackOutcome
  | .ok () => .ok .success
  | .error e => do
    let reason ← mapErr (recoveryOwnerFailureDigest c.sha256 e) .digest
    pure (.error reason)

def callRecovery (c : Contracts) (action : JournalActionRef) (deadlineNanos : U64) : Reassembly Unit := do
  let callback ← Job.call (I := ports) (.startOneSourceOnce action)
  let observation ← observe
  let outcome ← Job.lift id (callbackOutcome c callback)
  advance c (.latchRecoveryCallback outcome observation)
  if outcome = .success ∧ observation.observedAtNanos < deadlineNanos then selectRecovery c action deadlineNanos
  else cleanFailedRecovery c action

def materializeRecovery (c : Contracts) (action : JournalActionRef) (plan : RuntimeOneSourceOwnerPlan)
    (deadlineNanos : U64) : Reassembly Unit := do
  advance c (.reserveRecoveryResources plan.resources)
  let answer ← Job.call (I := ports) (.materializeOneSource action plan.resources)
  match answer with
  | .error _ => quarantine c .recoveryMaterializationUncertain
  | .ok ownership => do
    advance c (.ownRecoveryResources ownership)
    callRecovery c action deadlineNanos

structure Binding where
  execution : ReferenceTargetExecution
  provenance : PlanProvenance
  sliceDigest : TargetSliceDigest

def confirmRecovery (c : Contracts) (bound : Binding) (plan : RuntimeOneSourceOwnerPlan) (deadlineNanos : U64) :
    Reassembly Unit := do
  let self ← Job.self
  let recovery ← Job.need .invalidState self.state.recoveryAction
  let answer ← Job.call (I := ports) (.prepareRecoveryOneSource bound.execution bound.provenance bound.sliceDigest
    (some recovery.action))
  match answer with
  | .error _ => quarantine c .durableRecoveryPlanDiverged
  | .ok durablePlan =>
    if durablePlan = plan then materializeRecovery c recovery.action durablePlan deadlineNanos
    else quarantine c .durableRecoveryPlanDiverged

def intendRecovery (c : Contracts) (bound : Binding) (plan : RuntimeOneSourceOwnerPlan) (deadlineNanos : U64) :
    Reassembly Unit := do
  let preIntent ← observe
  if deadlineNanos ≤ preIntent.observedAtNanos then advance c (.recoveryFailedNotReady none preIntent)
  else do
    advance c (.recoveryIntent preIntent)
    let postIntent ← observe
    if deadlineNanos ≤ postIntent.observedAtNanos then advance c (.recoveryFailedNotReady none postIntent)
    else confirmRecovery c bound plan deadlineNanos

def recoveryPlanInput (plan : RuntimeOneSourceOwnerPlan) (deadlineNanos : U64) (evidence : Digest32) :
    RuntimeRecoveryPlanInput :=
  ⟨plan.actionId, plan.domainGeneration, plan.instanceGeneration, plan.resourceGeneration, plan.signedBudgets.start,
    deadlineNanos, evidence⟩

def planRecovery (c : Contracts) (bound : Binding) (plan : RuntimeOneSourceOwnerPlan)
    (plannedAt : RuntimeDeadlineObservation) : Reassembly Unit := do
  let deadlineNanos := plannedAt.observedAtNanos + effectiveRecoveryStartBudget plan.signedBudgets.start
  Job.rejectIf (u64Max < deadlineNanos) .invalidDeadline
  let self ← Job.self
  let evidence ← Job.lift (fun _ => .digest) (recoveryDeadlineEvidence c.sha256 self plan plannedAt deadlineNanos)
  advance c (.recoveryPlan (recoveryPlanInput plan deadlineNanos evidence))
  intendRecovery c bound plan deadlineNanos

def startRecovery (c : Contracts) (bound : Binding) : Reassembly Unit := do
  let answer ← Job.call (I := ports) (.prepareRecoveryOneSource bound.execution bound.provenance bound.sliceDigest none)
  match answer with
  | .error _ => quarantine c .recoveryPlanOwnerRejected
  | .ok plan => do
    let plannedAt ← observe
    if effectiveRecoveryStartBudget plan.signedBudgets.start = 0 then quarantine c .recoveryBudgetInvalid
    else planRecovery c bound plan plannedAt

def recoverLive (c : Contracts) (bound : Binding) : Reassembly Unit := do
  let self ← Job.self
  match self.state.liveMaterialization with
  | .startupInvalidated _ _ _ .eligibleOneSourceLoop _ _ _ => startRecovery c bound
  | .startupInvalidated _ _ _ .reconcileRequired _ failure _ => do
    let priorFailure ← Job.need .invalidState failure
    quarantinePreservingFailure c .startupReconcileRequired priorFailure
  | .startupInvalidated .. => pure ()
  | .recoveryFailedNotReady .. => pure ()
  | .exactZero .. => pure ()
  | _ => quarantine c .startupLiveStateNotRecoverable

def settleRecovery (c : Contracts) (bound : Binding) (recovery : RecoveryAction) : Reassembly Unit :=
  match recovery.phase with
  | .startupInvalidatedNoEffects => do
    let observation ← observe
    advance c (.abortStartupInvalidatedRecovery observation)
    recoverLive c bound
  | .startupReconcileRequired => do
    let answer ← Job.call (I := ports) (.proveRestartActionExactZero bound.execution bound.provenance bound.sliceDigest
      recovery.action)
    match answer with
    | .error _ => quarantine c .postIntentActionNotProvenZero
    | .ok () => do
      let observation ← observe
      advance c (.recoveryFailedNotReady none observation)
  | .recoveryPlannedNoEffects => quarantine c .startupRecoveryPhaseNotInvalidated
  | .startCallIntent => quarantine c .startupRecoveryPhaseNotInvalidated

def reassembleActive (c : Contracts) (execution : ReferenceTargetExecution) : Reassembly Unit := do
  let self ← Job.self
  let active ← Job.need .invalidState (self.state.activeDesired.filter (·.kind = .oneSourceLoop))
  if execution.manifestDigest ≠ active.manifestDigest then quarantine c .activeManifestMismatch
  else do
    let bound : Binding :=
      ⟨execution, active.sliceProvenance.planProvenance, active.sliceProvenance.targetSliceDigest⟩
    match self.state.recoveryAction with
    | some recovery => settleRecovery c bound recovery
    | none => recoverLive c bound

/-! ## The run -/

def isReconcile (phase : PreparedPhase) : Bool :=
  phase = .startupExpiredNoEffects || phase = .startupReconcileRequired || phase = .supersededBeforeEffects
    || phase = .supersededReconcileRequired

def preparedReconcile (s : RuntimeJournalState) : Option PreparedOperation := s.prepared.filter (isReconcile ·.phase)

/-- The interrupted operation is closed over the tombstones, or over the owner's proof that its action left nothing. -/
def closePrepared (x : Provision) (bound : Binding) (tombstones : Option RuntimeOneSourceTombstonesInput) :
    Reassembly Unit :=
  match tombstones with
  | some tombstones => terminalizeInterruptedNormal x (some tombstones)
  | none => do
    let self ← Job.self
    let action ← Job.need .invalidState (self.state.prepared.bind (·.action))
    let answer ← Job.call (I := ports) (.proveInterruptedNormalActionExactZero bound.execution bound.provenance
      bound.sliceDigest action)
    match answer with
    | .error _ => quarantine x.contracts .normalActionNotProvenZero
    | .ok () => terminalizeInterruptedNormal x none

def afterCleanup (x : Provision) (bound : Binding) (reconcile : Bool)
    (tombstones : Option RuntimeOneSourceTombstonesInput) : Reassembly Unit :=
  if reconcile then closePrepared x bound tombstones else reassembleActive x.contracts bound.execution

/-- The open resources of earlier processes: proven gone by the owner, or quarantined. -/
def cleanupOld (x : Provision) (bound : Binding) (reconcile : Bool) : Reassembly Unit := do
  let self ← Job.self
  let answer ← Job.call (I := ports) (.proveRestartExactZero bound.execution bound.provenance bound.sliceDigest
    self.state.ownedResources)
  match answer with
  | .error _ => quarantine x.contracts .oldGenerationNotProvenZero
  | .ok tombstones => do
    advance x.contracts .beginStartupResourceCleanup
    if reconcile then afterCleanup x bound true (some tombstones)
    else do
      advance x.contracts (.completeStartupResourceCleanup tombstones)
      afterCleanup x bound false none

def cleanupProvenance (s : RuntimeJournalState) : Option DurableSliceProvenance :=
  ((preparedReconcile s).bind fun p => (p.retiring.map (·.oldSliceProvenance)).or
    (if p.incomingKind = .oneSourceLoop then some p.sliceProvenance else none)).or
    ((s.activeDesired.filter (·.kind = .oneSourceLoop)).map (·.sliceProvenance))

def runBound (x : Provision) (execution : ReferenceTargetExecution) : Reassembly Unit := do
  let self ← Job.self
  match cleanupProvenance self.state with
  | none => quarantine x.contracts .restartCleanupProvenanceUnavailable
  | some cleanup => do
    let bound : Binding := ⟨execution, cleanup.planProvenance, cleanup.targetSliceDigest⟩
    if execution.mode ≠ .oneSourceLoop ∨ execution.target ≠ cleanup.target then
      quarantine x.contracts .activeExecutionMismatch
    else if hasNonterminal self.state.ownedResources then cleanupOld x bound (preparedReconcile self.state).isSome
    else afterCleanup x bound (preparedReconcile self.state).isSome none

/-- Nothing is left of earlier processes, and no one-source head waits for a recovery. -/
def settled (s : RuntimeJournalState) : Prop :=
  (∀ active, s.activeDesired = some active → active.kind = .emptyDeactivate) ∧ preparedReconcile s = none
    ∧ s.recoveryAction = none ∧ ¬ hasNonterminal s.ownedResources

instance (s : RuntimeJournalState) : Decidable (settled s) := by
  unfold settled
  infer_instance

/-- `run`.  The recursion closes an admission that expired before any effect and starts over; it is cut at `depth`. -/
def run (x : Provision) (execution : Option ReferenceTargetExecution) : Nat → Reassembly Unit
  | 0 => Job.fail .invalidState
  | depth + 1 => do
    let self ← Job.self
    if settled self.state then pure ()
    else if (preparedReconcile self.state).any (·.phase = .startupExpiredNoEffects) then do
      terminalizeAbortedNoEffects x
      run x execution depth
    else match execution with
      | none => quarantine x.contracts .restartOwnerBindingUnavailable
      | some execution => runBound x execution

end Reassembly
end Control
end ParaEgox
