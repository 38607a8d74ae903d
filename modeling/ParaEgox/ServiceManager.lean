import ParaEgox.Program
import ParaEgox.Watchdog

/-!
# ServiceManager — the owner of one RuntimeHost process

The manager polls its child, restarts it within a budget, and quarantines itself when the budget is spent or a child cannot be
cleaned up.  Every call of the platform, the clock among them, is a call of the program; instants are nanoseconds on the
monotonic clock and durations are nanoseconds.
-/
namespace ParaEgox
namespace ServiceManager

open Check Program Watchdog

/-! ## Policy -/

inductive Errno
  | esrch
  | eperm
  | other (code : Nat)

inductive IoError
  | wouldBlock
  | other (code : Nat)

inductive ServiceManagerError
  | invalidConfiguration
  | generationExhausted
  | missingChildPipe
  | watchdogPipeFailed
  | ownedProcessGroupDidNotExit
  | stateInconsistent
  | invalidProcessIdentity
  | io (e : IoError)
  | signal (e : Errno)

def nanosPerMilli : Nat := 1000000

def minTiming : Nat := 5 * nanosPerMilli
def maxTiming : Nat := 60000 * nanosPerMilli
def maxRestartWindow : Nat := 24 * 60 * 60 * 1000 * nanosPerMilli
def maxRestartAttempts : Nat := 32
def minEvidenceCapacity : Nat := 16
def maxEvidenceCapacity : Nat := 256
def maxFramesPerPoll : Nat := 32

def maxDuration : Nat := (2 ^ 64 - 1) * 1000000000 + 999999999

structure HostWatchdogTiming where
  heartbeatInterval : Nat
  heartbeatTimeout : Nat
  bootstrapTimeout : Nat
  bootstrapProgressTimeout : Nat
  controlProbeInterval : Nat
  controlResponseTimeout : Nat
  handshakeTimeout : Nat

def HostWatchdogTiming.tryNew (heartbeatInterval heartbeatTimeout bootstrapTimeout bootstrapProgressTimeout
    controlProbeInterval controlResponseTimeout handshakeTimeout : Nat) : Except ServiceManagerError HostWatchdogTiming := do
  let values := [heartbeatInterval, heartbeatTimeout, bootstrapTimeout, bootstrapProgressTimeout, controlProbeInterval,
    controlResponseTimeout, handshakeTimeout]
  rejectIf (values.any (fun value => value < minTiming ∨ maxTiming < value) ∨ heartbeatTimeout ≤ heartbeatInterval
    ∨ bootstrapTimeout ≤ heartbeatInterval ∨ bootstrapTimeout < bootstrapProgressTimeout
    ∨ controlResponseTimeout ≤ heartbeatInterval ∨ bootstrapTimeout < handshakeTimeout) .invalidConfiguration
  pure { heartbeatInterval, heartbeatTimeout, bootstrapTimeout, bootstrapProgressTimeout, controlProbeInterval,
         controlResponseTimeout, handshakeTimeout }

structure HostTerminationTiming where
  termGrace : Nat
  killGrace : Nat
  pollInterval : Nat

def HostTerminationTiming.tryNew (termGrace killGrace pollInterval : Nat) :
    Except ServiceManagerError HostTerminationTiming := do
  rejectIf (termGrace < minTiming ∨ maxTiming < termGrace ∨ killGrace < minTiming ∨ maxTiming < killGrace
    ∨ pollInterval < minTiming ∨ termGrace < pollInterval ∨ killGrace < pollInterval) .invalidConfiguration
  pure { termGrace, killGrace, pollInterval }

structure HostRestartPolicy where
  window : Nat
  maximumRestarts : Nat
  initialBackoff : Nat
  maximumBackoff : Nat
  maximumJitter : Nat

def HostRestartPolicy.tryNew (window maximumRestarts initialBackoff maximumBackoff maximumJitter : Nat) :
    Except ServiceManagerError HostRestartPolicy := do
  rejectIf (window < minTiming ∨ maxRestartWindow < window ∨ maximumRestarts = 0 ∨ maxRestartAttempts < maximumRestarts
    ∨ initialBackoff < minTiming ∨ maximumBackoff < initialBackoff ∨ maxTiming < maximumBackoff
    ∨ maximumBackoff < maximumJitter) .invalidConfiguration
  pure { window, maximumRestarts, initialBackoff, maximumBackoff, maximumJitter }

structure RuntimeHostServiceManagerPolicy where
  watchdog : HostWatchdogTiming
  termination : HostTerminationTiming
  restart : HostRestartPolicy
  evidenceCapacity : Nat

namespace RuntimeHostServiceManagerPolicy

def tryNew (watchdog : HostWatchdogTiming) (termination : HostTerminationTiming) (restart : HostRestartPolicy)
    (evidenceCapacity : Nat) : Except ServiceManagerError RuntimeHostServiceManagerPolicy := do
  rejectIf (¬ (minEvidenceCapacity ≤ evidenceCapacity ∧ evidenceCapacity ≤ maxEvidenceCapacity)) .invalidConfiguration
  pure { watchdog, termination, restart, evidenceCapacity }

def referenceDefaults : Except ServiceManagerError RuntimeHostServiceManagerPolicy := do
  let watchdog ← HostWatchdogTiming.tryNew (100 * nanosPerMilli) (750 * nanosPerMilli) (5000 * nanosPerMilli)
    (2000 * nanosPerMilli) (250 * nanosPerMilli) (1000 * nanosPerMilli) (2000 * nanosPerMilli)
  let termination ← HostTerminationTiming.tryNew (2000 * nanosPerMilli) (2000 * nanosPerMilli) (20 * nanosPerMilli)
  let restart ← HostRestartPolicy.tryNew (30000 * nanosPerMilli) 3 (100 * nanosPerMilli) (2000 * nanosPerMilli)
    (50 * nanosPerMilli)
  tryNew watchdog termination restart 128

structure Admitted (policy : RuntimeHostServiceManagerPolicy) : Prop where
  watchdog : HostWatchdogTiming.tryNew policy.watchdog.heartbeatInterval policy.watchdog.heartbeatTimeout
    policy.watchdog.bootstrapTimeout policy.watchdog.bootstrapProgressTimeout policy.watchdog.controlProbeInterval
    policy.watchdog.controlResponseTimeout policy.watchdog.handshakeTimeout = .ok policy.watchdog
  termination : HostTerminationTiming.tryNew policy.termination.termGrace policy.termination.killGrace
    policy.termination.pollInterval = .ok policy.termination
  restart : HostRestartPolicy.tryNew policy.restart.window policy.restart.maximumRestarts policy.restart.initialBackoff
    policy.restart.maximumBackoff policy.restart.maximumJitter = .ok policy.restart
  evidence : tryNew policy.watchdog policy.termination policy.restart policy.evidenceCapacity = .ok policy

end RuntimeHostServiceManagerPolicy

/-! ## State -/

inductive ServiceManagerFailure
  | hostExited
  | bootstrapDeadlineExceeded
  | bootstrapProgressStalled
  | heartbeatMissed
  | controlUnresponsive
  | watchdogStreamClosed
  | watchdogProtocolViolation
  | spawnSetupFailed
  | spawnCleanupFailed
  | restartSpawnFailed
  deriving DecidableEq

inductive ServiceManagerEvidenceKind
  | spawned
  | bootstrapProgress (phase : HostBootstrapPhase)
  | runningHeartbeat
  | controlProbeSent (nonce : UInt64)
  | controlAcknowledged (nonce : UInt64)
  | hostExitObserved
  | failureDetected (failure : ServiceManagerFailure)
  | termSent
  | killSent
  | reaped
  | restartScheduled (attempt delay : Nat)
  | quarantined (failure : ServiceManagerFailure)
  | shutdownRequested
  deriving DecidableEq

structure ServiceManagerEvidence where
  elapsed : Nat
  generation : UInt64
  pid : Option UInt32
  kind : ServiceManagerEvidenceKind

inductive RuntimeHostServiceManagerState
  | bootstrapping
  | running
  | restartBackoff
  | quarantined
  | stopped
  deriving DecidableEq

structure RuntimeHostServiceManagerSnapshot where
  state : RuntimeHostServiceManagerState
  generation : UInt64
  activePid : Option UInt32
  restartAttemptsInWindow : Nat
  evidenceEntries : Nat

/-- `readBuffer` holds the bytes of the frame that is being read, so its length is the offset of the next read. -/
structure ManagedRuntimeHost where
  generation : UInt64
  pid : UInt32
  readBuffer : Bytes
  spawnedAt : Int
  lastProgressAt : Int
  lastHeartbeatAt : Int
  bootstrapPhase : Option HostBootstrapPhase
  nextHostSequence : UInt64
  nextManagerSequence : UInt64
  nextProbeNonce : UInt64
  outstandingProbe : Option (UInt64 × Int)
  lastProbeCompletedAt : Int

def ManagedRuntimeHost.isRunning (active : ManagedRuntimeHost) : Bool := active.bootstrapPhase = some .running

structure FailedSpawnCleanupOwner where
  generation : UInt64
  pid : UInt32

structure PendingRestart where
  due : Int
  failure : ServiceManagerFailure

structure RuntimeHostServiceManager where
  policy : RuntimeHostServiceManagerPolicy
  origin : Int
  state : RuntimeHostServiceManagerState
  generation : UInt64
  active : Option ManagedRuntimeHost
  failedSpawnCleanup : Option FailedSpawnCleanupOwner
  restartAttempts : List Int
  pendingRestart : Option PendingRestart
  evidence : List ServiceManagerEvidence

def RuntimeHostServiceManager.snapshot (self : RuntimeHostServiceManager) : RuntimeHostServiceManagerSnapshot :=
  { state := self.state, generation := self.generation,
    activePid := (self.active.map (·.pid)).or (self.failedSpawnCleanup.map (·.pid)),
    restartAttemptsInWindow := self.restartAttempts.length, evidenceEntries := self.evidence.length }

/-! ## The platform -/

inductive Signal
  | sigterm
  | sigkill

/-- `stamp` is the clock reading of a record, `origin.elapsed()` in `record_for`, with what is recorded. -/
inductive Call
  | now
  | stamp (kind : ServiceManagerEvidenceKind)
  | sleep (duration : Nat)
  | spawn (generation : UInt64) (heartbeatMillis handshakeMillis : Nat)
  | getFlags (pid : UInt32)
  | setNonblockingFlag (pid : UInt32)
  | writeAll (pid : UInt32) (bytes : Bytes)
  | flush (pid : UInt32)
  | read (pid : UInt32) (capacity : Nat)
  | tryWait (pid : UInt32)
  | killpg (group : UInt32) (signal : Option Signal)
  | kill (pid : UInt32)

structure SpawnedChild where
  pid : UInt32
  stdin : Bool
  stdout : Bool

/-- A wait tells whether the child was reaped; a write and a flush whether they succeeded. -/
@[reducible] def Call.Answer : Call → Type
  | .now => Int
  | .stamp _ => Int
  | .sleep _ => Unit
  | .spawn .. => Except IoError SpawnedChild
  | .getFlags _ => Except Errno Unit
  | .setNonblockingFlag _ => Except Errno Unit
  | .writeAll .. => Bool
  | .flush _ => Bool
  | .read _ capacity => Except IoError {bytes : Bytes // bytes.length ≤ capacity}
  | .tryWait _ => Except IoError Bool
  | .killpg .. => Except Errno Unit
  | .kill _ => Unit

@[reducible] def platform : Interface where
  Call := Call
  Answer := Call.Answer

abbrev SM (α : Type) := Job platform RuntimeHostServiceManager ServiceManagerError α

/-- `later.duration_since(earlier)`, which saturates at zero. -/
def durationSince (later earlier : Int) : Nat := (later - earlier).toNat

structure InstantRange where
  earliest : Int
  latest : Int

def InstantRange.checkedAdd (range : InstantRange) (instant : Int) (duration : Nat) : Option Int :=
  if instant + duration ≤ range.latest then some (instant + duration) else none

def InstantRange.checkedSub (range : InstantRange) (instant : Int) (duration : Nat) : Option Int :=
  if range.earliest ≤ instant - duration then some (instant - duration) else none

def readClock : SM Int := Job.call (I := platform) .now

/-! ## Evidence and the restart ledger -/

def RuntimeHostServiceManager.withEvidence (self : RuntimeHostServiceManager) (entry : ServiceManagerEvidence) :
    RuntimeHostServiceManager :=
  { self with
    evidence := (if self.evidence.length = self.policy.evidenceCapacity then self.evidence.tail else self.evidence)
      ++ [entry] }

def recordFor (generation : UInt64) (pid : Option UInt32) (kind : ServiceManagerEvidenceKind) : SM Unit := do
  let now : Int ← Job.call (I := platform) (.stamp kind)
  Job.update fun self => self.withEvidence { elapsed := durationSince now self.origin, generation, pid, kind }

def record (pid : Option UInt32) (kind : ServiceManagerEvidenceKind) : SM Unit := do
  let self ← Job.self
  recordFor self.generation pid kind

def pruneRestartAttempts (now : Int) : SM Unit :=
  Job.update fun self =>
    { self with
      restartAttempts := self.restartAttempts.dropWhile fun attempt =>
        self.policy.restart.window < durationSince now attempt }

def quarantine (failure : ServiceManagerFailure) : SM Unit := do
  Job.update fun self => { self with pendingRestart := none, state := .quarantined }
  record none (.quarantined failure)

def commitRestartAttempt (failure : ServiceManagerFailure) (now : Int) : SM Bool := do
  pruneRestartAttempts now
  let self ← Job.self
  if self.policy.restart.maximumRestarts ≤ self.restartAttempts.length then do
    quarantine failure
    pure false
  else do
    Job.update fun self => { self with restartAttempts := self.restartAttempts ++ [now] }
    pure true

/-- `value.rotate_left(17)`. -/
def rotateLeft17 (value : UInt64) : UInt64 := (value <<< 17) ||| (value >>> 47)

def restartDelay (policy : HostRestartPolicy) (attempt : Nat) (generation : UInt64) : Nat :=
  let multiplier := 2 ^ min (attempt - 1) 31
  let base := min (min maxDuration (policy.initialBackoff * multiplier)) policy.maximumBackoff
  let jitterLimit := min policy.maximumJitter (2 ^ 64 - 1)
  if jitterLimit = 0 then base
  else
    let mixed := rotateLeft17 (generation * 0x9e3779b97f4a7c15)
    min maxDuration (base + mixed.toNat % min (2 ^ 64 - 1) (jitterLimit + 1))

def scheduleAfter (range : InstantRange) (failure : ServiceManagerFailure) (now : Int) (attempt delay : Nat) : SM Unit :=
  match range.checkedAdd now delay with
  | none => quarantine failure
  | some due => do
    Job.update fun self => { self with pendingRestart := some { due, failure }, state := .restartBackoff }
    record none (.restartScheduled attempt delay)

def scheduleRestart (range : InstantRange) (failure : ServiceManagerFailure) (now : Int) : SM Unit := do
  pruneRestartAttempts now
  let self ← Job.self
  if self.policy.restart.maximumRestarts ≤ self.restartAttempts.length then quarantine failure
  else
    scheduleAfter range failure now (self.restartAttempts.length + 1)
      (restartDelay self.policy.restart (self.restartAttempts.length + 1) self.generation)

/-! ## Signals and waits -/

/-- `i32::try_from(pid)`. -/
def checkPid (value : UInt32) : SM Unit := Job.rejectIf (2 ^ 31 ≤ value.toNat) .invalidProcessIdentity

def signalProcessGroup (group : UInt32) (signal : Signal) : SM Unit := do
  checkPid group
  let answer ← Job.call (I := platform) (.killpg group (some signal))
  match answer with
  | .ok () | .error .esrch => pure ()
  | .error e => Job.fail (.signal e)

def processGroupExists (group : UInt32) : SM Bool := do
  checkPid group
  let answer ← Job.call (I := platform) (.killpg group none)
  match answer with
  | .ok () | .error .eperm => pure true
  | .error .esrch => pure false
  | .error e => Job.fail (.signal e)

def tryWait (pid : UInt32) : SM Bool := do
  let answer ← Job.call (I := platform) (.tryWait pid)
  Job.lift .io answer

/-- `leader_reaped && !process_group_exists(group)?`. -/
def ownedGroupGone (pid : UInt32) : SM Bool := do
  let leaderReaped ← tryWait pid
  if leaderReaped then do
    let groupExists ← processGroupExists pid
    pure (!groupExists)
  else pure false

/-- The turns of the wait.  A turn that comes back sleeps before the next, so the deadline is reached within the turns
`waitForOwnedGroupCleanup` gives it. -/
def waitTurns (pid : UInt32) (deadline : Int) (pollInterval : Nat) : Nat → SM Bool
  | 0 => pure false
  | turns + 1 => do
    let gone ← ownedGroupGone pid
    if gone then pure true
    else do
      let now ← readClock
      if deadline ≤ now then pure false
      else do
        Job.call (I := platform) (.sleep (min pollInterval (durationSince deadline now)))
        waitTurns pid deadline pollInterval turns

def waitForOwnedGroupCleanup (range : InstantRange) (pid : UInt32) (budget pollInterval : Nat) : SM Bool := do
  let now ← readClock
  let deadline ← Job.need .invalidConfiguration (range.checkedAdd now budget)
  waitTurns pid deadline pollInterval (budget / pollInterval + 2)

def killAndReapFailedSpawn (range : InstantRange) (owner : FailedSpawnCleanupOwner) : SM Unit := do
  signalProcessGroup owner.pid .sigkill
  recordFor owner.generation (some owner.pid) .killSent
  Job.call (I := platform) (.kill owner.pid)
  let self ← Job.self
  let gone ← waitForOwnedGroupCleanup range owner.pid self.policy.termination.killGrace self.policy.termination.pollInterval
  Job.rejectIf (gone = false) .ownedProcessGroupDidNotExit
  recordFor owner.generation (some owner.pid) .reaped

def signalAndReap (range : InstantRange) (active : ManagedRuntimeHost) : SM Unit := do
  signalProcessGroup active.pid .sigterm
  recordFor active.generation (some active.pid) .termSent
  let self ← Job.self
  let gone ← waitForOwnedGroupCleanup range active.pid self.policy.termination.termGrace
    self.policy.termination.pollInterval
  if gone then recordFor active.generation (some active.pid) .reaped
  else do
    signalProcessGroup active.pid .sigkill
    recordFor active.generation (some active.pid) .killSent
    let gone ← waitForOwnedGroupCleanup range active.pid self.policy.termination.killGrace
      self.policy.termination.pollInterval
    Job.rejectIf (gone = false) .ownedProcessGroupDidNotExit
    recordFor active.generation (some active.pid) .reaped

def terminateAndReap (range : InstantRange) (active : ManagedRuntimeHost) : SM Unit := do
  let leaderReaped ← tryWait active.pid
  let groupExists ← processGroupExists active.pid
  if leaderReaped ∧ ¬ groupExists then recordFor active.generation (some active.pid) .reaped
  else if ¬ leaderReaped ∧ ¬ groupExists then Job.fail .stateInconsistent
  else signalAndReap range active

/-! ## Spawning -/

/-- `write_all` and `flush`. -/
def writeFrame (pid : UInt32) (frame : HostWatchdogFrame) : SM Bool := do
  let written : Bool ← Job.call (I := platform) (.writeAll pid frame.encode)
  if written then Job.call (I := platform) (.flush pid) else pure false

def sendControlProbe (active : ManagedRuntimeHost) (now : Int) : SM (Option UInt64 × ManagedRuntimeHost) := do
  if active.nextManagerSequence = 0 ∨ active.nextProbeNonce = 0 then pure (none, active)
  else do
    let nonce := active.nextProbeNonce
    let frame : HostWatchdogFrame :=
      { generation := active.generation, sequence := active.nextManagerSequence, body := .controlProbe nonce }
    let written ← writeFrame active.pid frame
    if written = false then pure (none, active)
    else match succU64 active.nextManagerSequence with
      | none => pure (none, active)
      | some nextManagerSequence => match succU64 nonce with
        | none => pure (none, { active with nextManagerSequence })
        | some nextProbeNonce =>
          pure (some nonce, { active with nextManagerSequence, nextProbeNonce, outstandingProbe := some (nonce, now) })

def setNonblocking (pid : UInt32) : SM Unit := do
  let flags ← Job.call (I := platform) (.getFlags pid)
  Job.lift .signal flags
  let set ← Job.call (I := platform) (.setNonblockingFlag pid)
  Job.lift .signal set

/-- A child whose cleanup failed is kept by the quarantined manager, and the spawn reports success. -/
def finishRejectedSpawn (owner : FailedSpawnCleanupOwner) (setupError : ServiceManagerError) :
    Except ServiceManagerError Unit → SM Unit
  | .ok () => Job.fail setupError
  | .error _ => do
    Job.update fun self => { self with pendingRestart := none, state := .quarantined }
    recordFor owner.generation (some owner.pid) (.failureDetected .spawnCleanupFailed)
    recordFor owner.generation (some owner.pid) (.quarantined .spawnCleanupFailed)
    Job.update fun self => { self with failedSpawnCleanup := some owner }

def rejectSpawnedChild (range : InstantRange) (owner : FailedSpawnCleanupOwner) (setupError : ServiceManagerError) :
    SM Unit := do
  recordFor owner.generation (some owner.pid) (.failureDetected .spawnSetupFailed)
  let cleanup ← Job.result (killAndReapFailedSpawn range owner)
  finishRejectedSpawn owner setupError cleanup

def freshHost (range : InstantRange) (policy : RuntimeHostServiceManagerPolicy) (generation : UInt64) (pid : UInt32)
    (now : Int) : ManagedRuntimeHost :=
  { generation, pid, readBuffer := [], spawnedAt := now, lastProgressAt := now, lastHeartbeatAt := now,
    bootstrapPhase := none, nextHostSequence := 1, nextManagerSequence := 1, nextProbeNonce := 1, outstandingProbe := none,
    lastProbeCompletedAt := (range.checkedSub now policy.watchdog.controlProbeInterval).getD now }

def installHost (range : InstantRange) (generation : UInt64) (pid : UInt32) (now : Int) : SM Unit := do
  let self ← Job.self
  let (sent, active) ← sendControlProbe (freshHost range self.policy generation pid now) now
  match sent with
  | none => rejectSpawnedChild range { generation := active.generation, pid := active.pid } .watchdogPipeFailed
  | some nonce => do
    Job.update fun self => { self with state := .bootstrapping }
    recordFor generation (some pid) (.controlProbeSent nonce)
    Job.update fun self => { self with active := some active }

def installChild (range : InstantRange) (generation : UInt64) (child : SpawnedChild) (now : Int) : SM Unit :=
  let owner : FailedSpawnCleanupOwner := { generation, pid := child.pid }
  if child.stdin = false ∨ child.stdout = false then rejectSpawnedChild range owner .missingChildPipe
  else do
    let nonblocking ← Job.result (setNonblocking child.pid)
    match nonblocking with
    | .error e => rejectSpawnedChild range owner e
    | .ok () => installHost range generation child.pid now

def durationMillis (value : Nat) : Except ServiceManagerError Nat := do
  rejectIf (2 ^ 64 ≤ value / nanosPerMilli) .invalidConfiguration
  pure (value / nanosPerMilli)

def spawnNext (range : InstantRange) (now : Int) : SM Unit := do
  let self ← Job.self
  Job.rejectIf (self.active.isSome ∨ self.failedSpawnCleanup.isSome) .stateInconsistent
  let generation ← Job.need .generationExhausted (succU64 self.generation)
  Job.rejectIf (generation = 0) .generationExhausted
  let heartbeat ← Job.lift id (durationMillis self.policy.watchdog.heartbeatInterval)
  let handshake ← Job.lift id (durationMillis self.policy.watchdog.handshakeTimeout)
  let spawned ← Job.call (I := platform) (.spawn generation heartbeat handshake)
  let child ← Job.lift .io spawned
  Job.update fun self => { self with generation }
  recordFor generation (some child.pid) .spawned
  installChild range generation child now

/-! ## Observing the child -/

def acceptHostFrame (active : ManagedRuntimeHost) (frame : HostWatchdogFrame) (now : Int) :
    Except ManagedRuntimeHost (ManagedRuntimeHost × ServiceManagerEvidenceKind) :=
  if frame.direction ≠ .hostToManager ∨ frame.generation ≠ active.generation ∨ frame.sequence ≠ active.nextHostSequence then
    .error active
  else match succU64 active.nextHostSequence with
    | none => .error active
    | some nextHostSequence =>
      let active := { active with nextHostSequence }
      match frame.body with
      | .bootstrapProgress phase =>
        let expected : Option HostBootstrapPhase := match active.bootstrapPhase with
          | none => some .reactorStarted
          | some .reactorStarted => some .controlReady
          | some .controlReady => some .running
          | some .running => none
        if expected ≠ some phase then .error active
        else
          let active := { active with bootstrapPhase := some phase, lastProgressAt := now }
          let active := if phase = .running then
              { active with lastHeartbeatAt := now,
                            outstandingProbe := active.outstandingProbe.map fun probe => (probe.1, now) }
            else active
          .ok (active, .bootstrapProgress phase)
      | .runningHeartbeat =>
        if active.isRunning then .ok ({ active with lastHeartbeatAt := now }, .runningHeartbeat) else .error active
      | .controlAck nonce =>
        if active.outstandingProbe.map Prod.fst ≠ some nonce then .error active
        else .ok ({ active with outstandingProbe := none, lastProbeCompletedAt := now }, .controlAcknowledged nonce)
      | .controlProbe _ => .error active

def readHostFrames (now : Int) : Nat → ManagedRuntimeHost → SM (Option ServiceManagerFailure × ManagedRuntimeHost)
  | 0, active => pure (none, active)
  | reads + 1, active => do
    let answer ← Job.call (I := platform) (.read active.pid (hostWatchdogFrameBytes - active.readBuffer.length))
    match answer with
    | .error .wouldBlock => pure (none, active)
    | .error (.other _) => pure (some .watchdogStreamClosed, active)
    | .ok bytes =>
      if bytes.val = [] then pure (some .watchdogStreamClosed, active)
      else if (active.readBuffer ++ bytes.val).length ≠ hostWatchdogFrameBytes then
        readHostFrames now reads { active with readBuffer := active.readBuffer ++ bytes.val }
      else match HostWatchdogFrame.decode (active.readBuffer ++ bytes.val) with
        | .error _ => pure (some .watchdogProtocolViolation, { active with readBuffer := [] })
        | .ok frame => match acceptHostFrame { active with readBuffer := [] } frame now with
          | .error active => pure (some .watchdogProtocolViolation, active)
          | .ok (active, kind) => do
            recordFor active.generation (some active.pid) kind
            readHostFrames now reads active

def observationTimeout (timing : HostWatchdogTiming) (active : ManagedRuntimeHost) (now : Int) :
    Option ServiceManagerFailure :=
  let controlTimeout := if active.isRunning then timing.controlResponseTimeout else timing.bootstrapTimeout
  if active.outstandingProbe.any fun probe => controlTimeout < durationSince now probe.2 then some .controlUnresponsive
  else if active.isRunning then
    if timing.heartbeatTimeout < durationSince now active.lastHeartbeatAt then some .heartbeatMissed else none
  else if timing.bootstrapTimeout < durationSince now active.spawnedAt then some .bootstrapDeadlineExceeded
  else if timing.bootstrapProgressTimeout < durationSince now active.lastProgressAt then some .bootstrapProgressStalled
  else none

def maybeSendProbe (active : ManagedRuntimeHost) (now : Int) : SM (Option ServiceManagerFailure × ManagedRuntimeHost) := do
  let self ← Job.self
  if active.outstandingProbe.isSome
      ∨ durationSince now active.lastProbeCompletedAt < self.policy.watchdog.controlProbeInterval then pure (none, active)
  else do
    let (sent, active) ← sendControlProbe active now
    match sent with
    | none => pure (some .watchdogStreamClosed, active)
    | some nonce => do
      recordFor active.generation (some active.pid) (.controlProbeSent nonce)
      pure (none, active)

def observe (active : ManagedRuntimeHost) (now : Int) : SM (Option ServiceManagerFailure × ManagedRuntimeHost) := do
  let (failure, active) ← readHostFrames now maxFramesPerPoll active
  match failure with
  | some failure => pure (some failure, active)
  | none => do
    let self ← Job.self
    match observationTimeout self.policy.watchdog active now with
    | some failure => pure (some failure, active)
    | none => maybeSendProbe active now

/-! ## Poll and shutdown -/

/-- The child is stopped, or given back to the manager that could not stop it: `if let Err(error) =
self.terminate_and_reap(..)` of the polls and of the shutdown. -/
def stopActive (range : InstantRange) (active : ManagedRuntimeHost) : SM Unit := do
  let stopped ← Job.result (terminateAndReap range active)
  match stopped with
  | .ok () => pure ()
  | .error e => do
    Job.update fun self => { self with active := some active, state := .quarantined }
    Job.fail e

/-- A failed child is stopped, and its restart is scheduled from the instant of the poll or from a new one. -/
def recover (range : InstantRange) (active : ManagedRuntimeHost) (failure : ServiceManagerFailure) (since : Option Int) :
    SM Unit := do
  stopActive range active
  match since with
  | some now => scheduleRestart range failure now
  | none => do
    let now ← readClock
    scheduleRestart range failure now

def pollActive (range : InstantRange) : SM Unit := do
  let self ← Job.self
  match self.active with
  | none => Job.fail .stateInconsistent
  | some active => do
    Job.update fun self => { self with active := none }
    let now ← readClock
    let waited ← Job.call (I := platform) (.tryWait active.pid)
    match waited with
    | .error e => do
      Job.update fun self => { self with active := some active }
      Job.fail (.io e)
    | .ok true => do
      recordFor active.generation (some active.pid) .hostExitObserved
      recordFor active.generation (some active.pid) (.failureDetected .hostExited)
      recover range active .hostExited (some now)
    | .ok false => do
      let (failure, active) ← observe active now
      match failure with
      | some failure => do
        recordFor active.generation (some active.pid) (.failureDetected failure)
        recover range active failure none
      | none =>
        Job.update fun self =>
          { self with state := if active.isRunning then .running else .bootstrapping, active := some active }

def attemptRestart (range : InstantRange) (now : Int) : SM Unit := do
  let spawned ← Job.result (spawnNext range now)
  match spawned with
  | .ok () => pure ()
  | .error _ => do
    record none (.failureDetected .restartSpawnFailed)
    let now ← readClock
    scheduleRestart range .restartSpawnFailed now

def pollBackoff (range : InstantRange) : SM Unit := do
  let now ← readClock
  let self ← Job.self
  match self.pendingRestart with
  | none => pure ()
  | some pending =>
    if now < pending.due then pure ()
    else do
      Job.update fun self => { self with pendingRestart := none }
      let committed ← commitRestartAttempt pending.failure now
      if committed then attemptRestart range now else pure ()

def pollState (range : InstantRange) : RuntimeHostServiceManagerState → SM Unit
  | .quarantined | .stopped => pure ()
  | .restartBackoff => pollBackoff range
  | .bootstrapping | .running => pollActive range

def poll (range : InstantRange) : SM RuntimeHostServiceManagerSnapshot := do
  let self ← Job.self
  pollState range self.state
  let self ← Job.self
  pure self.snapshot

def shutdownFailedSpawn (range : InstantRange) : Option FailedSpawnCleanupOwner → SM Unit
  | none => pure ()
  | some owner => do
    Job.update fun self => { self with failedSpawnCleanup := none }
    recordFor owner.generation (some owner.pid) .shutdownRequested
    let cleaned ← Job.result (killAndReapFailedSpawn range owner)
    match cleaned with
    | .ok () => pure ()
    | .error e => do
      Job.update fun self => { self with failedSpawnCleanup := some owner, state := .quarantined }
      Job.fail e

def shutdownActive (range : InstantRange) : Option ManagedRuntimeHost → SM Unit
  | none => pure ()
  | some active => do
    Job.update fun self => { self with active := none }
    recordFor active.generation (some active.pid) .shutdownRequested
    stopActive range active

def shutdown (range : InstantRange) : SM Unit := do
  let self ← Job.self
  if self.state = .stopped then pure ()
  else do
    Job.update fun self => { self with pendingRestart := none }
    shutdownFailedSpawn range self.failedSpawnCleanup
    shutdownActive range self.active
    Job.update fun self => { self with state := .stopped }

/-- The manager `try_start` makes before its first spawn. -/
def startingManager (policy : RuntimeHostServiceManagerPolicy) (now : Int) : RuntimeHostServiceManager :=
  { policy, origin := now, state := .bootstrapping, generation := 0, active := none, failedSpawnCleanup := none,
    restartAttempts := [], pendingRestart := none, evidence := [] }

end ServiceManager
end ParaEgox
