import Mathlib.Data.List.MinMax
import ParaEgox.Recovery
import ParaEgox.Stateful

/-!
# Liveness — what the owner of a process generation observes of its life

One state for one generation: the startup acknowledgement, the heartbeats and the control probes each have their own
deadline and their own freshness.  The state decides nothing about health or readiness.
-/
namespace ParaEgox
namespace Liveness

open Check Stateful
open Recovery (ProcessGenerationIdentity)

inductive LivenessError
  | generationMismatch
  | clockMismatch
  | clockRegressed
  | deadlineOverflow
  | deadlineElapsed
  | staleWorkerSequence
  | staleHeartbeatSequence
  | staleProbe
  | probeAlreadyOutstanding
  | noProbeOutstanding
  | probeMismatch
  | terminalState
  | stateInconsistent

inductive LivenessPhase
  | bootstrapping
  | live
  | unresponsive
  | exited
  | quarantined
  deriving DecidableEq

inductive LivenessFailure
  | startupTimedOut
  | heartbeatMissed (lastHeartbeatSequence : U64)
  | controlResponseMissed (probe : U64)

inductive LivenessFrameDisposition
  | advanced
  | duplicate

/-! ## Budgets -/

def maxExecutionDurationNanos : Nat := 86400000000000

def validDuration (value : U64) : Prop := 0 < value ∧ value ≤ maxExecutionDurationNanos

instance {value : U64} : Decidable (validDuration value) :=
  inferInstanceAs (Decidable (0 < value ∧ value ≤ maxExecutionDurationNanos))

/-- The liveness part of a process's lifecycle budgets; the timeout is longer than the interval of heartbeats. -/
structure ProcessLivenessBudgets where
  start : U64
  heartbeatInterval : U64
  heartbeatTimeout : U64
  controlResponse : U64
  valid : validDuration start ∧ validDuration heartbeatInterval ∧ validDuration heartbeatTimeout
    ∧ validDuration controlResponse ∧ heartbeatInterval < heartbeatTimeout

/-- Fails as `InvalidLivenessBudget`. -/
def ProcessLivenessBudgets.tryNew (start heartbeatInterval heartbeatTimeout controlResponse : U64) :
    Option ProcessLivenessBudgets :=
  if h : validDuration start ∧ validDuration heartbeatInterval ∧ validDuration heartbeatTimeout
      ∧ validDuration controlResponse ∧ heartbeatInterval < heartbeatTimeout then
    some ⟨start, heartbeatInterval, heartbeatTimeout, controlResponse, h⟩
  else none

/-! ## The state -/

structure OutstandingProbe where
  id : U64
  sentAt : ClockReading

structure CompletedProbe where
  id : U64
  workerSequence : U64
  deriving DecidableEq

structure ProcessLivenessState where
  identity : ProcessGenerationIdentity
  budgets : ProcessLivenessBudgets
  phase : LivenessPhase
  startedAt : ClockReading
  lastObservedAt : ClockReading
  lastWorkerSequence : U64
  lastHeartbeatSequence : U64
  lastHeartbeatAt : Option ClockReading
  outstandingProbe : Option OutstandingProbe
  lastControlResponse : Option CompletedProbe
  lastProbeId : U64

abbrev Observer := Stateful ProcessLivenessState LivenessError

def compareSequence (incoming current : U64) : Except LivenessError LivenessFrameDisposition :=
  if incoming = 0 ∨ incoming < current then .error .staleWorkerSequence
  else if incoming = current then .ok .duplicate
  else .ok .advanced

def validateClock (previous current : ClockReading) : Except LivenessError Unit := do
  rejectIf (previous.domain ≠ current.domain ∨ previous.generation ≠ current.generation) .clockMismatch
  rejectIf (current.now < previous.now) .clockRegressed

def deadline (reading : ClockReading) (budget : U64) : Except LivenessError U64 :=
  addU64 reading.now budget .deadlineOverflow

def reached (reading : ClockReading) (instant : U64) : Bool := decide (instant ≤ reading.now)

def ensureBefore (reading : ClockReading) (instant : U64) : Except LivenessError Unit :=
  rejectIf (reached reading instant = true) .deadlineElapsed

namespace ProcessLivenessState

def tryNew (identity : ProcessGenerationIdentity) (budgets : ProcessLivenessBudgets) (observedAt : ClockReading) :
    Except LivenessError ProcessLivenessState := do
  let _ ← deadline observedAt budgets.start
  pure ⟨identity, budgets, .bootstrapping, observedAt, observedAt, 0, 0, none, none, none, 0⟩

def validateIdentityAndTime (s : ProcessLivenessState) (identity : ProcessGenerationIdentity) (observedAt : ClockReading) :
    Except LivenessError Unit := do
  rejectIf (identity ≠ s.identity) .generationMismatch
  validateClock s.lastObservedAt observedAt

def duplicateOrTerminal (s : ProcessLivenessState) (workerSequence : U64) :
    Except LivenessError LivenessFrameDisposition :=
  if workerSequence = s.lastWorkerSequence ∧ workerSequence ≠ 0 then .ok .duplicate else .error .terminalState

def observeStartupAck (identity : ProcessGenerationIdentity) (workerFrameSequence : U64) (observedAt : ClockReading) :
    Observer LivenessFrameDisposition := do
  let s ← self
  lift (s.validateIdentityAndTime identity observedAt)
  if s.phase ≠ .bootstrapping then lift (s.duplicateOrTerminal workerFrameSequence)
  else do
    let disposition ← lift (compareSequence workerFrameSequence s.lastWorkerSequence)
    match disposition with
    | .duplicate => pure .duplicate
    | .advanced => do
      let startBy ← lift (deadline s.startedAt s.budgets.start)
      lift (ensureBefore observedAt startBy)
      let _ ← lift (deadline observedAt s.budgets.heartbeatTimeout)
      update fun s => { s with
        phase := .live, lastWorkerSequence := workerFrameSequence, lastHeartbeatAt := some observedAt
        lastObservedAt := observedAt }
      pure .advanced

def observeHeartbeat (identity : ProcessGenerationIdentity) (workerFrameSequence heartbeatSequence : U64)
    (observedAt : ClockReading) : Observer LivenessFrameDisposition := do
  let s ← self
  lift (s.validateIdentityAndTime identity observedAt)
  if s.phase ≠ .live then lift (s.duplicateOrTerminal workerFrameSequence)
  else do
    let heartbeatAt ← lift (okOr s.lastHeartbeatAt .stateInconsistent)
    let heartbeatBy ← lift (deadline heartbeatAt s.budgets.heartbeatTimeout)
    lift (ensureBefore observedAt heartbeatBy)
    let disposition ← lift (compareSequence workerFrameSequence s.lastWorkerSequence)
    match disposition with
    | .duplicate =>
      if heartbeatSequence = s.lastHeartbeatSequence ∧ heartbeatSequence ≠ 0 then pure .duplicate
      else lift (.error .staleHeartbeatSequence)
    | .advanced => do
      lift (rejectIf (heartbeatSequence = 0 ∨ heartbeatSequence ≤ s.lastHeartbeatSequence) .staleHeartbeatSequence)
      let _ ← lift (deadline observedAt s.budgets.heartbeatTimeout)
      update fun s => { s with
        lastWorkerSequence := workerFrameSequence, lastHeartbeatSequence := heartbeatSequence
        lastHeartbeatAt := some observedAt, lastObservedAt := observedAt }
      pure .advanced

def beginControlProbe (identity : ProcessGenerationIdentity) (probe : U64) (observedAt : ClockReading) : Observer Unit := do
  let s ← self
  lift (s.validateIdentityAndTime identity observedAt)
  lift (rejectIf (s.phase ≠ .live) .terminalState)
  lift (rejectIf (s.outstandingProbe.isSome = true) .probeAlreadyOutstanding)
  lift (rejectIf (probe = 0 ∨ probe ≤ s.lastProbeId) .staleProbe)
  let heartbeatAt ← lift (okOr s.lastHeartbeatAt .stateInconsistent)
  let heartbeatBy ← lift (deadline heartbeatAt s.budgets.heartbeatTimeout)
  lift (ensureBefore observedAt heartbeatBy)
  let _ ← lift (deadline observedAt s.budgets.controlResponse)
  update fun s => { s with
    outstandingProbe := some ⟨probe, observedAt⟩, lastProbeId := probe, lastObservedAt := observedAt }

def observeControlResponse (identity : ProcessGenerationIdentity) (workerSequence probe : U64)
    (observedAt : ClockReading) : Observer LivenessFrameDisposition := do
  let s ← self
  lift (s.validateIdentityAndTime identity observedAt)
  if s.lastControlResponse = some ⟨probe, workerSequence⟩ then pure .duplicate
  else do
    lift (rejectIf (s.phase ≠ .live) .terminalState)
    let outstanding ← lift (okOr s.outstandingProbe .noProbeOutstanding)
    lift (rejectIf (outstanding.id ≠ probe) .probeMismatch)
    let answerBy ← lift (deadline outstanding.sentAt s.budgets.controlResponse)
    lift (ensureBefore observedAt answerBy)
    lift (rejectIf (workerSequence = 0 ∨ workerSequence ≤ s.lastWorkerSequence) .staleWorkerSequence)
    update fun s => { s with
      lastWorkerSequence := workerSequence, outstandingProbe := none
      lastControlResponse := some ⟨probe, workerSequence⟩, lastObservedAt := observedAt }
    pure .advanced

/-- The failure of a live generation at this reading: a probe that expired no later than the heartbeat comes first. -/
def liveFailure (s : ProcessLivenessState) (observedAt : ClockReading) : Except LivenessError (Option LivenessFailure) := do
  let heartbeatAt ← okOr s.lastHeartbeatAt .stateInconsistent
  let heartbeatBy ← deadline heartbeatAt s.budgets.heartbeatTimeout
  let missed : Option LivenessFailure :=
    if reached observedAt heartbeatBy then some (.heartbeatMissed s.lastHeartbeatSequence) else none
  match s.outstandingProbe with
  | none => pure missed
  | some probe => do
    let answerBy ← deadline probe.sentAt s.budgets.controlResponse
    pure (if reached observedAt answerBy ∧ answerBy ≤ heartbeatBy then some (.controlResponseMissed probe.id) else missed)

def failureAt (s : ProcessLivenessState) (observedAt : ClockReading) : Except LivenessError (Option LivenessFailure) :=
  match s.phase with
  | .bootstrapping => do
    let startBy ← deadline s.startedAt s.budgets.start
    pure (if reached observedAt startBy then some .startupTimedOut else none)
  | .live => s.liveFailure observedAt
  | .unresponsive | .exited | .quarantined => pure none

def evaluate (observedAt : ClockReading) : Observer (Option LivenessFailure) := do
  let s ← self
  lift (validateClock s.lastObservedAt observedAt)
  let failure ← lift (s.failureAt observedAt)
  update fun s => { s with
    phase := if failure.isSome then .unresponsive else s.phase, lastObservedAt := observedAt }
  pure failure

/-- `mark_exited` and `mark_quarantined`: the phase the owner names. -/
def mark (phase : LivenessPhase) (identity : ProcessGenerationIdentity) (observedAt : ClockReading) : Observer Unit := do
  let s ← self
  lift (s.validateIdentityAndTime identity observedAt)
  update fun s => { s with phase, outstandingProbe := none, lastObservedAt := observedAt }

def markExited (identity : ProcessGenerationIdentity) (observedAt : ClockReading) : Observer Unit :=
  mark .exited identity observedAt

def markQuarantined (identity : ProcessGenerationIdentity) (observedAt : ClockReading) : Observer Unit :=
  mark .quarantined identity observedAt

end ProcessLivenessState
end Liveness
end ParaEgox
