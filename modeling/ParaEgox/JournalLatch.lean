import ParaEgox.JournalTypes

/-!
# JournalLatch — the raw outcome latch and the terminal outcome it selects

What the owner latched about one action (callback, deadline sample, interruption, takeover, cleanup), which later latches
preserve it, and the one terminal outcome `try_select` derives from it.
-/
namespace ParaEgox
namespace Journal

open Check

def callbackReasonCheck (callback : CallbackOutcome) (reason : Option Digest32) : Res Unit :=
  match callback, reason with
  | .knownError, some digest | .panicked, some digest => ensureNonzeroDigest digest
  | .knownError, none | .panicked, none => .error .invalidStateInvariant
  | _, none => .ok ()
  | _, some _ => .error .invalidStateInvariant

def deadlineSampleCheck (deadline : DeadlineOutcome) (clockGeneration observedAt : U64) : Res Unit :=
  match deadline with
  | .notObserved => rejectIf (clockGeneration ≠ 0 ∨ observedAt ≠ 0) .invalidStateInvariant
  | .timedOut | .cancelled => rejectIf (clockGeneration = 0 ∨ observedAt = 0) .invalidStateInvariant

def cleanupEvidenceCheck (cleanup : CleanupOutcome) (evidence : Option Digest32) : Res Unit :=
  match cleanup, evidence with
  | .notObserved, none => .ok ()
  | .exactZero, some digest | .uncertain, some digest => ensureNonzeroDigest digest
  | _, _ => .error .invalidStateInvariant

def RawActionOutcomeLatch.validate (raw : RawActionOutcomeLatch) : Res Unit := do
  callbackReasonCheck raw.callback raw.callbackReasonDigest
  deadlineSampleCheck raw.deadline raw.observedClockGeneration raw.observedAtNanos
  rejectIf (raw.deadline = .cancelled ∧ ¬ raw.hostInterrupted ∧ ¬ raw.higherTenureTakeover) .invalidStateInvariant
  cleanupEvidenceCheck raw.cleanup raw.cleanupEvidenceDigest

/-- `fact_preserved` on the discriminants: an unobserved fact may be filled in once. -/
def factPreserved (current previous : Nat) : Bool := previous = 1 || current = previous

def optionFactPreserved (current previous : Option Digest32) : Bool := previous.isNone || current = previous

def RawActionOutcomeLatch.preserves (self previous : RawActionOutcomeLatch) : Bool :=
  self.callback = previous.callback
    && optionFactPreserved self.callbackReasonDigest previous.callbackReasonDigest
    && (previous.deadline = .notObserved
      || (self.deadline = previous.deadline
        && self.observedClockGeneration = previous.observedClockGeneration
        && self.observedAtNanos = previous.observedAtNanos))
    && (!previous.hostInterrupted || self.hostInterrupted)
    && (!previous.higherTenureTakeover || self.higherTenureTakeover)
    && factPreserved self.cleanup.code previous.cleanup.code
    && optionFactPreserved self.cleanupEvidenceDigest previous.cleanupEvidenceDigest

structure TerminalSelectionContext where
  incomingKind : DesiredHeadKind
  predecessorPhase : PreparedPhase
  installedClockGeneration : U64
  installedDeadlineNanos : U64

structure TerminalSelectionObservation where
  raw : RawActionOutcomeLatch
  selectionClockGeneration : U64
  selectionObservedAtNanos : U64
  lifecycleEffect : TerminalLifecycleEffect

def selectBeforeEffects (context : TerminalSelectionContext) (raw : RawActionOutcomeLatch)
    (lifecycleEffect : TerminalLifecycleEffect) (deadlineReached : Bool) : Res TerminalOutcome := do
  rejectIf (lifecycleEffect ≠ .provenNotStarted ∨ raw.callback ≠ .notInvoked ∨ raw.cleanup ≠ .notObserved)
    .invalidStateInvariant
  match context.predecessorPhase with
  | .supersededBeforeEffects =>
    if raw.higherTenureTakeover then .ok .abortedBeforeIntentNoEffects else .error .invalidStateInvariant
  | .startupExpiredNoEffects =>
    if raw.hostInterrupted then .ok .abortedBeforeIntentNoEffects else .error .invalidStateInvariant
  | .preparedNoEffects =>
    if deadlineReached then
      match context.incomingKind with
      | .oneSourceLoop => .ok .startTimedOutBeforeIntentNoEffects
      | .emptyDeactivate => .ok .stopTimedOutBeforeHeadCommitNoEffects
    else if context.incomingKind = .emptyDeactivate ∧ raw.deadline = .notObserved ∧ ¬ raw.hostInterrupted
        ∧ ¬ raw.higherTenureTakeover then
      .ok .emptyDeactivateExactZero
    else .error .invalidStateInvariant
  | _ => .error .invalidStateInvariant

/-- The outcome the raw facts give an operation that crossed its first effect boundary. -/
def exactZeroOrSuccess (kind : DesiredHeadKind) (raw : RawActionOutcomeLatch) (deadlineReached : Bool) :
    Res TerminalOutcome :=
  match kind with
  | .oneSourceLoop =>
    if raw.higherTenureTakeover then .ok .supersededAfterIntentExactZero
    else if raw.hostInterrupted then .ok .abortedBeforeHeadCommitExactZero
    else if deadlineReached then .ok .startTimedOutBeforeHeadCommitExactZero
    else if raw.callback = .knownError then .ok .startFailedBeforeHeadCommitExactZero
    else if raw.callback = .knownSuccess ∧ raw.deadline = .notObserved then .ok .oneSourceLoopActive
    else .error .invalidStateInvariant
  | .emptyDeactivate =>
    if raw.higherTenureTakeover then .ok .supersededAfterIntentExactZero
    else if raw.hostInterrupted then .ok .interruptedButNowExactZero
    else if deadlineReached then .ok .timedOutButExactZero
    else if raw.callback = .knownError then .ok .stopFailedButExactZero
    else if raw.callback = .knownSuccess ∧ raw.deadline = .notObserved then .ok .emptyDeactivateExactZero
    else .error .invalidStateInvariant

def lifecycleCheck (outcome : TerminalOutcome) (lifecycleEffect : TerminalLifecycleEffect)
    (raw : RawActionOutcomeLatch) : Res Unit :=
  if outcome = .oneSourceLoopActive then
    rejectIf (lifecycleEffect ≠ .mayHaveStarted ∨ raw.cleanup ≠ .notObserved) .invalidStateInvariant
  else match lifecycleEffect with
    | .mayHaveStarted => rejectIf (raw.cleanup ≠ .exactZero) .invalidStateInvariant
    | .provenNotStarted =>
      rejectIf (raw.callback ≠ .notInvoked ∨ raw.cleanup ≠ .notObserved) .invalidStateInvariant

def selectAfterEffects (context : TerminalSelectionContext) (raw : RawActionOutcomeLatch)
    (lifecycleEffect : TerminalLifecycleEffect) (deadlineReached : Bool) : Res TerminalOutcome := do
  let outcome ← exactZeroOrSuccess context.incomingKind raw deadlineReached
  lifecycleCheck outcome lifecycleEffect raw
  pure outcome

def PreparedPhase.beforeEffects : PreparedPhase → Bool
  | preparedNoEffects | supersededBeforeEffects | startupExpiredNoEffects => true
  | _ => false

/-- The primary outcome, by the side of the first effect boundary the operation stopped on. -/
def selectPrimary (context : TerminalSelectionContext) (raw : RawActionOutcomeLatch)
    (lifecycleEffect : TerminalLifecycleEffect) (deadlineReached : Bool) : Res TerminalOutcome :=
  if context.predecessorPhase.beforeEffects then selectBeforeEffects context raw lifecycleEffect deadlineReached
  else selectAfterEffects context raw lifecycleEffect deadlineReached

def TerminalOutcomeSelection.trySelect (context : TerminalSelectionContext)
    (observation : TerminalSelectionObservation) : Res TerminalOutcomeSelection := do
  let raw := observation.raw
  raw.validate
  rejectIf (context.installedClockGeneration = 0
    ∨ context.installedDeadlineNanos = 0
    ∨ observation.selectionClockGeneration = 0
    ∨ observation.selectionClockGeneration < context.installedClockGeneration
    ∨ observation.selectionObservedAtNanos = 0
    ∨ raw.cleanup = .uncertain
    ∨ raw.callback = .panicked) .invalidStateInvariant
  rejectIf (raw.deadline = .timedOut
    ∧ (raw.observedClockGeneration ≠ context.installedClockGeneration
      ∨ raw.observedAtNanos < context.installedDeadlineNanos)) .invalidStateInvariant
  rejectIf (raw.deadline = .cancelled ∧ ¬ raw.hostInterrupted ∧ ¬ raw.higherTenureTakeover) .invalidStateInvariant
  rejectIf (¬ raw.hostInterrupted ∧ ¬ raw.higherTenureTakeover
    ∧ observation.selectionClockGeneration ≠ context.installedClockGeneration) .invalidStateInvariant
  let deadlineReached : Bool := raw.deadline = .timedOut
    || (observation.selectionClockGeneration = context.installedClockGeneration
      && observation.selectionObservedAtNanos ≥ context.installedDeadlineNanos)
  let primary ← selectPrimary context raw observation.lifecycleEffect deadlineReached
  pure ⟨primary, raw, observation.selectionClockGeneration, observation.selectionObservedAtNanos,
    observation.lifecycleEffect⟩

def TerminalOutcomeSelection.validate (self : TerminalOutcomeSelection) (incomingKind : DesiredHeadKind)
    (predecessorPhase : PreparedPhase) (installedClockGeneration installedDeadlineNanos : U64) : Res Unit := do
  let selected ← trySelect ⟨incomingKind, predecessorPhase, installedClockGeneration, installedDeadlineNanos⟩
    ⟨self.raw, self.selectionClockGeneration, self.selectionObservedAtNanos, self.lifecycleEffect⟩
  rejectIf (selected ≠ self) .invalidStateInvariant

/-! ## The lineage from the latch to the terminal -/

/-- The selected raw facts repeat the latched ones; only cleanup may have been observed since. -/
def rawCarried (selected raw : RawActionOutcomeLatch) : Bool :=
  selected.preserves raw
    && selected.callback = raw.callback
    && selected.callbackReasonDigest = raw.callbackReasonDigest
    && selected.deadline = raw.deadline
    && selected.observedClockGeneration = raw.observedClockGeneration
    && selected.observedAtNanos = raw.observedAtNanos
    && selected.hostInterrupted = raw.hostInterrupted
    && selected.higherTenureTakeover = raw.higherTenureTakeover
    && (selected.cleanup = raw.cleanup || (raw.cleanup = .notObserved && selected.cleanup = .exactZero))

def terminalRawLineageIsValid (terminal : TerminalOperationRecord) : Bool :=
  match terminal.predecessorRawOutcome with
  | some raw => raw.validate.isOk && rawCarried terminal.selection.raw raw
  | none =>
    let raw := terminal.selection.raw
    match terminal.selection.primary with
    | .oneSourceLoopActive =>
      raw.callback = .knownSuccess && raw.callbackReasonDigest.isNone && raw.deadline = .notObserved
        && !raw.hostInterrupted && !raw.higherTenureTakeover && raw.cleanup = .notObserved
    | .emptyDeactivateExactZero =>
      terminal.completionPredecessorPhase = .preparedNoEffects
        && raw.callback = .notInvoked && raw.callbackReasonDigest.isNone && raw.deadline = .notObserved
        && !raw.hostInterrupted && !raw.higherTenureTakeover && raw.cleanup = .notObserved
    | .startTimedOutBeforeIntentNoEffects
    | .stopTimedOutBeforeHeadCommitNoEffects
    | .startTimedOutBeforeHeadCommitExactZero =>
      terminal.selection.lifecycleEffect = .provenNotStarted
        && raw.callback = .notInvoked && raw.callbackReasonDigest.isNone && raw.deadline = .timedOut
        && !raw.hostInterrupted && !raw.higherTenureTakeover && raw.cleanup = .notObserved
    | .abortedBeforeIntentNoEffects =>
      terminal.selection.lifecycleEffect = .provenNotStarted
        && raw.callback = .notInvoked && raw.callbackReasonDigest.isNone && raw.deadline = .notObserved
        && raw.cleanup = .notObserved
        && match terminal.completionPredecessorPhase with
          | .startupExpiredNoEffects => raw.hostInterrupted && !raw.higherTenureTakeover
          | .supersededBeforeEffects => raw.higherTenureTakeover
          | _ => false
    | _ => false

def terminalRawIsValidSuccessor (terminal : TerminalOperationRecord) (prepared : PreparedOperation) : Bool :=
  terminal.predecessorRawOutcome = prepared.rawOutcome && terminalRawLineageIsValid terminal

def recoveryTerminalRawLineageIsValid (record : RecoveryTerminalRecord) : Bool :=
  let selected := record.selection.raw
  let predecessorIsPreserved := match record.recovery.rawOutcome with
    | none => true
    | some raw => raw.validate.isOk && rawCarried selected raw
  predecessorIsPreserved && match record.recovery.phase with
    | .recoveryPlannedNoEffects =>
      record.recovery.rawOutcome.isNone
        && record.selection.primary = .startTimedOutBeforeIntentNoEffects
        && selected.callback = .notInvoked && selected.callbackReasonDigest.isNone
        && selected.deadline = .timedOut
        && selected.observedClockGeneration = record.recovery.action.clockGeneration
        && selected.observedAtNanos ≥ record.recovery.deadlineNanos
        && !selected.hostInterrupted && !selected.higherTenureTakeover && selected.cleanup = .notObserved
        && record.selection.lifecycleEffect = .provenNotStarted
    | .startupInvalidatedNoEffects =>
      record.recovery.rawOutcome.isNone
        && record.selection.primary = .abortedBeforeIntentNoEffects
        && selected.callback = .notInvoked && selected.callbackReasonDigest.isNone
        && selected.deadline = .notObserved
        && selected.hostInterrupted && !selected.higherTenureTakeover && selected.cleanup = .notObserved
        && record.selection.lifecycleEffect = .provenNotStarted
    | .startCallIntent =>
      if record.recovery.rawOutcome.isNone then
        record.selection.primary = .startTimedOutBeforeHeadCommitExactZero
          && selected.callback = .notInvoked && selected.callbackReasonDigest.isNone
          && selected.deadline = .timedOut
          && !selected.hostInterrupted && !selected.higherTenureTakeover && selected.cleanup = .notObserved
          && record.selection.lifecycleEffect = .provenNotStarted
      else match record.selection.primary with
        | .oneSourceLoopActive
        | .startFailedBeforeHeadCommitExactZero
        | .startTimedOutBeforeHeadCommitExactZero
        | .abortedBeforeHeadCommitExactZero
        | .supersededAfterIntentExactZero => true
        | _ => false
    | .startupReconcileRequired =>
      record.recovery.rawOutcome.any (·.hostInterrupted)
        && (record.selection.primary = .abortedBeforeHeadCommitExactZero
          || record.selection.primary = .supersededAfterIntentExactZero)
        && selected.cleanup = .exactZero
        && record.selection.lifecycleEffect = .mayHaveStarted

def terminalHeadCommitsIncoming (outcome : TerminalOutcome) (kind : DesiredHeadKind) : Bool :=
  match kind with
  | .oneSourceLoop => outcome = .oneSourceLoopActive
  | .emptyDeactivate => match outcome with
    | .emptyDeactivateExactZero
    | .stopFailedButExactZero
    | .timedOutButExactZero
    | .supersededAfterIntentExactZero
    | .interruptedButNowExactZero => true
    | _ => false

end Journal
end ParaEgox
