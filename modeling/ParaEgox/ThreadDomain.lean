import ParaEgox.Assoc
import ParaEgox.Checked
import Mathlib.Logic.Function.Basic

/-!
# ThreadDomain — a fixed set of worker threads, one invocation each

The owner reserves an idle worker, sends it one callable over its one-slot channel and later takes the result.  Owner and
workers share `DomainState` under one lock; each locked section is one step here, and so are a send, a receive, the end of a
callable and the end of a destructor.  A `ThreadInvocation` may be dropped at any time by whoever holds it, the other calls of
the owner exclude one another.  What a run shows to the outside is kept in `events`, newest first.
-/
namespace ParaEgox.ThreadDomain

/-! ## Fences -/

/-- A nonzero `u64`. -/
abbrev InvocationId := UInt64

/-- `token` is the allocation the owner's identity points to: no two domains share it. -/
structure ThreadDomainOwnerIdentity where
  domainEpoch : UInt64
  token : Nat
  deriving DecidableEq

structure ThreadInvocationFence where
  owner : ThreadDomainOwnerIdentity
  domainEpoch : UInt64
  invocation : InvocationId
  deriving DecidableEq

inductive LateResultReason
  | cancellationRequested | uncertain | wedged | shutdown

inductive FenceReasonCode
  | opened | cancellationRequested | uncertain | wedged | shutdown | handleDropped
  deriving DecidableEq

def FenceReasonCode.observable : FenceReasonCode → Option LateResultReason
  | .opened => none
  | .cancellationRequested => some .cancellationRequested
  | .uncertain => some .uncertain
  | .wedged => some .wedged
  | .shutdown | .handleDropped => some .shutdown

def FenceReasonCode.precedence : FenceReasonCode → Nat
  | .opened => 0
  | .cancellationRequested => 1
  | .uncertain => 2
  -- The first terminal fence wins.
  | .wedged | .shutdown | .handleDropped => 3

structure InvocationControl where
  cancelled : Bool
  fenceReason : FenceReasonCode

def InvocationControl.new : InvocationControl := ⟨false, .opened⟩

def InvocationControl.fence (c : InvocationControl) (reason : FenceReasonCode) : InvocationControl :=
  ⟨true, if reason.precedence ≤ c.fenceReason.precedence then c.fenceReason else reason⟩

/-! ## Invocations and workers -/

inductive ThreadInvocationObservation
  | running | cancellationRequested | uncertain | wedged | resultPending

inductive ThreadDomainError
  | capacityExhausted | domainDegraded | domainClosing | domainPoisoned | invocationIdentifierExhausted
  | callableBuildPanicked | workerDispatchFailed | workerUnavailable | staleCompletionFence | invocationNotActive
  | completionAlreadyConsumed

inductive InvocationPhase
  | running | cancellationRequested | uncertain | wedged | resultPending
  deriving DecidableEq

def InvocationPhase.observation : InvocationPhase → ThreadInvocationObservation
  | .running => .running
  | .cancellationRequested => .cancellationRequested
  | .uncertain => .uncertain
  | .wedged => .wedged
  | .resultPending => .resultPending

def InvocationPhase.cancellationRank : InvocationPhase → Option Nat
  | .running => some 0
  | .cancellationRequested => some 1
  | .uncertain => some 2
  | .wedged => some 3
  | .resultPending => none

inductive InvocationDisposition
  | pending | accepted | fenced
  deriving DecidableEq

inductive WorkerPhase
  | starting
  | idle
  | running (invocation : InvocationId)
  | resultPending (invocation : InvocationId)
  | wedged (invocation : InvocationId)
  | stopping
  | exited
  deriving DecidableEq

def WorkerPhase.occupant : WorkerPhase → Option InvocationId
  | .running i | .resultPending i | .wedged i => some i
  | .starting | .idle | .stopping | .exited => none

inductive ThreadDomainLifecycle
  | accepting | degraded | closing | closed | poisoned
  deriving DecidableEq

inductive WorkerCommand
  | run (invocation : InvocationId)
  | shutdown

/-- The explicit result slot the owner holds; `control` is `DomainState.controls` at its invocation. -/
structure ThreadInvocation where
  fence : ThreadInvocationFence
  consumed : Bool
  resultPendingObserved : Bool
  deriving DecidableEq

section
variable (T : Type)

inductive ThreadCompletion
  | pending (observation : ThreadInvocationObservation)
  | returned (value : T)
  | panicked
  | lateRejected (reason : LateResultReason)

inductive WorkerOutcome
  | returned (value : T)
  | panicked

structure InvocationRecord where
  worker : Nat
  phase : InvocationPhase
  acceptsResult : Bool
  outcome : Option (WorkerOutcome T)
  disposition : InvocationDisposition

/-- `controls` is what the shared control pointers of records, handles and callables point to. -/
structure DomainState where
  lifecycle : ThreadDomainLifecycle
  workers : List WorkerPhase
  active : List (InvocationId × InvocationRecord T)
  joinedWorkers : Nat
  panickedWorkers : Nat
  cleanupPanics : Nat
  controls : InvocationId → InvocationControl

/-- Where a worker thread is in `worker_main` and `run_work`. -/
inductive Place
  | receiving
  | calling (invocation : InvocationId)
  | waiting (invocation : InvocationId)
  | dropping (invocation : InvocationId) (cleanup : Option (WorkerOutcome T))
  | settling (invocation : InvocationId) (outcomeDropPanicked : Bool)
  | exiting
  | leaving
  | finished (panicked : Bool)

/-- `command` is the one slot of the worker's channel; `joined` says that the owner took the join handle. -/
structure WorkerThread where
  command : Option WorkerCommand
  place : Place T
  joined : Bool

end

/-- Where the owner is inside `try_submit` or `shutdown_for`. -/
inductive OwnerCall
  | free
  | building (worker : Nat) (invocation : InvocationId)
  | rollingBack (worker : Nat) (invocation : InvocationId) (poison : Bool) (error : ThreadDomainError)
  | waking (workers : List Nat)
  | dispatchFailed (worker : Nat) (workers : List Nat)
  | awaiting
  | joining (workers : List Nat) (joined panicked : Nat)
  | reaping (workers : List Nat) (joined panicked : Nat)
  | concluding

inductive Party
  | owner
  | worker (w : Nat)

/-- What a run shows: a callable starts, a fence is set, a completion is answered, a value is destroyed (by whom, and what
the worker's phase was), a callable or a destructor panics, a submission is refused, a `panic!` is reached. -/
inductive Event (T : Type)
  | ran (worker : Nat) (invocation : InvocationId)
  | fenced (invocation : InvocationId) (reason : FenceReasonCode)
  | answered (invocation : InvocationId) (answer : Except ThreadDomainError (ThreadCompletion T))
  | destroyed (party : Party) (invocation : InvocationId) (phase : Option WorkerPhase)
  | panicked (worker : Nat)
  | refused (error : ThreadDomainError)
  | unreachable

structure Domain (T : Type) where
  planned : Nat
  owner : ThreadDomainOwnerIdentity
  nextInvocation : UInt64
  state : DomainState T
  threads : Nat → WorkerThread T
  handles : InvocationId → Option ThreadInvocation
  call : OwnerCall
  events : List (Event T)

section
variable {T : Type}

/-- What `try_new` hands out once every worker has answered its start handshake. -/
def Domain.new (planned : Nat) (owner : ThreadDomainOwnerIdentity) : Domain T where
  planned := planned
  owner := owner
  nextInvocation := 0
  state := ⟨.accepting, List.replicate planned .idle, [], 0, 0, 0, fun _ => .new⟩
  threads := fun _ => ⟨none, .receiving, false⟩
  handles := fun _ => none
  call := .free
  events := []

def Domain.log (d : Domain T) (e : Event T) : Domain T := { d with events := e :: d.events }

def Domain.goto (d : Domain T) (w : Nat) (place : Place T) : Domain T :=
  { d with threads := Function.update d.threads w { d.threads w with place := place } }

def Domain.post (d : Domain T) (w : Nat) (command : Option WorkerCommand) : Domain T :=
  { d with threads := Function.update d.threads w { d.threads w with command := command } }

def DomainState.setPhase (s : DomainState T) (w : Nat) (p : WorkerPhase) : DomainState T :=
  { s with workers := s.workers.set w p }

def DomainState.fence (s : DomainState T) (i : InvocationId) (reason : FenceReasonCode) : DomainState T :=
  { s with controls := Function.update s.controls i ((s.controls i).fence reason) }

def DomainState.reason (s : DomainState T) (i : InvocationId) : FenceReasonCode := (s.controls i).fenceReason

/-! ## Snapshots -/

structure ThreadDomainSnapshot where
  plannedWorkers : Nat
  liveWorkers : Nat
  idleWorkers : Nat
  occupiedWorkers : Nat
  stoppingWorkers : Nat
  exitedWorkers : Nat
  activeInvocations : Nat

/-- The counts of `snapshot_from_state` that `conserves_worker_capacity` reads. -/
def snapshotFromState (planned : Nat) (s : DomainState T) : ThreadDomainSnapshot where
  plannedWorkers := planned
  liveWorkers := planned - s.workers.countP (· = .exited)
  idleWorkers := s.workers.countP (· = .idle)
  occupiedWorkers := s.workers.countP (·.occupant.isSome)
  stoppingWorkers := s.workers.countP fun p => p = .starting ∨ p = .stopping
  exitedWorkers := s.workers.countP (· = .exited)
  activeInvocations := s.active.length

def ThreadDomainSnapshot.conservesWorkerCapacity (s : ThreadDomainSnapshot) : Bool :=
  s.idleWorkers + s.occupiedWorkers + s.stoppingWorkers + s.exitedWorkers = s.plannedWorkers
    && s.liveWorkers + s.exitedWorkers = s.plannedWorkers
    && s.activeInvocations = s.occupiedWorkers

/-! ## The owner's sections -/

def refreshClosedLifecycle (s : DomainState T) : DomainState T :=
  if s.lifecycle = .closing ∧ ∀ p ∈ s.workers, p = .exited then { s with lifecycle := .closed } else s

def ThreadDomainLifecycle.refuses : ThreadDomainLifecycle → Option ThreadDomainError
  | .accepting => none
  | .degraded => some .domainDegraded
  | .closing | .closed => some .domainClosing
  | .poisoned => some .domainPoisoned

def InvocationRecord.reserved (w : Nat) : InvocationRecord T := ⟨w, .running, true, none, .pending⟩

/-- `reserve_invocation`, with the fresh control it allocates. -/
def reserveInvocation (d : Domain T) : Domain T :=
  let s := d.state
  match s.lifecycle.refuses with
  | some e => d.log (.refused e)
  | none =>
    match s.workers.findIdx? (· = .idle) with
    | none => d.log (.refused .capacityExhausted)
    | some w =>
      match succU64 d.nextInvocation with
      | none => d.log (.refused .invocationIdentifierExhausted)
      | some i =>
        if i = 0 then d.log (.refused .invocationIdentifierExhausted)
        else
          let inserted := { s with
            active := Assoc.put i (.reserved w) s.active, controls := Function.update s.controls i .new }
          if (Assoc.get i s.active).isSome then
            { d with state := { inserted with lifecycle := .poisoned } }.log (.refused .domainPoisoned)
          else { d with state := inserted.setPhase w (.running i), nextInvocation := i, call := .building w i }

def rollbackReservation (d : Domain T) (w : Nat) (i : InvocationId) (poison : Bool) : Domain T :=
  let s := { d.state with active := Assoc.erase i d.state.active }.setPhase w .idle
  let d' := { d with state := if poison then { s with lifecycle := .poisoned } else s }
  match (Assoc.get i d.state.active).bind (·.outcome) with
  | some (.returned _) => d'.log (.destroyed .owner i d.state.workers[w]?)
  | _ => d'

inductive TrySendError
  | full | disconnected

def trySend (d : Domain T) (w : Nat) (command : WorkerCommand) : Except TrySendError (Domain T) :=
  match (d.threads w).place with
  | .finished _ => .error .disconnected
  | _ => if (d.threads w).command.isSome then .error .full else .ok (d.post w (some command))

/-- The rest of `try_submit` after the callable was built. -/
def dispatch (d : Domain T) (w : Nat) (i : InvocationId) : Domain T :=
  match trySend d w (.run i) with
  | .ok d' =>
    let handle : ThreadInvocation := ⟨⟨d.owner, d.owner.domainEpoch, i⟩, false, false⟩
    { d' with call := .free, handles := Function.update d'.handles i (some handle) }
  | .error .full => { d with call := .rollingBack w i true .workerDispatchFailed }
  | .error .disconnected => { d with call := .rollingBack w i true .workerUnavailable }

def validateFence (d : Domain T) (fence : ThreadInvocationFence) : Except ThreadDomainError Unit :=
  Check.rejectIf (fence.domainEpoch ≠ d.owner.domainEpoch ∨ fence.owner ≠ d.owner) .staleCompletionFence

def FenceReasonCode.phase (phase : InvocationPhase) : FenceReasonCode → InvocationPhase
  | .cancellationRequested => .cancellationRequested
  | .uncertain => .uncertain
  | .wedged => .wedged
  | .shutdown | .handleDropped => .cancellationRequested
  | .opened => phase

/-- `requested < current`, where both phases have a rank. -/
def InvocationPhase.outranks (current requested : InvocationPhase) : Bool :=
  match current.cancellationRank, requested.cancellationRank with
  | some c, some r => r < c
  | _, _ => false

/-- The locked part of `mark_invocation` for a record whose phase does not outrank the request. -/
def fenceRecord (s : DomainState T) (i : InvocationId) (r : InvocationRecord T) (phase : InvocationPhase)
    (reason : FenceReasonCode) : DomainState T :=
  let fenced := s.fence i reason
  let effective := fenced.reason i
  let r' := { r with
    acceptsResult := false, disposition := .fenced
    phase := if r.phase = .wedged then r.phase else effective.phase phase }
  let marked := { fenced with active := Assoc.put i r' s.active }
  if effective = .wedged then
    { marked.setPhase r.worker (.wedged i) with
      lifecycle := if s.lifecycle = .accepting then .degraded else s.lifecycle }
  else marked

/-- `request_cancellation`, `mark_uncertain` and `mark_wedged`.  A request that an earlier one outranks is answered without
a further fence; it counts as one here. -/
def markInvocation (d : Domain T) (h : ThreadInvocation) (phase : InvocationPhase) (reason : FenceReasonCode) :
    Except ThreadDomainError (Domain T) := do
  validateFence d h.fence
  Check.rejectIf h.consumed .completionAlreadyConsumed
  let i := h.fence.invocation
  let r ← Check.okOr (Assoc.get i d.state.active) .invocationNotActive
  pure ((if r.phase.outranks phase then d else { d with state := fenceRecord d.state i r phase reason }).log
    (.fenced i reason))

inductive Mark
  | cancellation | uncertain | wedged

def requestCancellation (d : Domain T) (h : ThreadInvocation) : Except ThreadDomainError (Domain T) :=
  markInvocation d h .cancellationRequested .cancellationRequested

def markUncertain (d : Domain T) (h : ThreadInvocation) : Except ThreadDomainError (Domain T) :=
  markInvocation d h .uncertain .uncertain

def markWedged (d : Domain T) (h : ThreadInvocation) : Except ThreadDomainError (Domain T) :=
  markInvocation d h .wedged .wedged

structure Poll (T : Type) where
  domain : Domain T
  handle : ThreadInvocation
  answer : Except ThreadDomainError (ThreadCompletion T)

/-- The transfer at the end of `try_take_completion`: the record goes and its worker is idle again. -/
def acceptOutcome (d : Domain T) (h : ThreadInvocation) (w : Nat) : WorkerOutcome T → Poll T
  | o =>
    let i := h.fence.invocation
    let state := { d.state with active := Assoc.erase i d.state.active }.setPhase w .idle
    ⟨{ d with state := state }, { h with consumed := true },
      .ok (match o with
        | .returned v => .returned v
        | .panicked => .panicked)⟩

def tryTakeCompletion (d : Domain T) (h : ThreadInvocation) : Poll T :=
  let i := h.fence.invocation
  match validateFence d h.fence with
  | .error e => ⟨d, h, .error e⟩
  | .ok () =>
    if h.consumed then ⟨d, h, .error .completionAlreadyConsumed⟩
    else
      match Assoc.get i d.state.active with
      | none =>
        match (d.state.reason i).observable with
        | some reason => ⟨d, { h with consumed := true }, .ok (.lateRejected reason)⟩
        | none => ⟨d, h, .error .workerUnavailable⟩
      | some r =>
        if r.disposition = .fenced ∨ !r.acceptsResult ∨ (d.state.reason i).observable.isSome then
          let r' := { r with acceptsResult := false, disposition := .fenced }
          ⟨{ d with state := { d.state with active := Assoc.put i r' d.state.active } }, h,
            .ok (.pending r.phase.observation)⟩
        else if r.outcome.isNone then ⟨d, h, .ok (.pending r.phase.observation)⟩
        else if !h.resultPendingObserved then
          ⟨d, { h with resultPendingObserved := true }, .ok (.pending .resultPending)⟩
        else
          match r.outcome with
          | none => ⟨d.log .unreachable, h, .error .workerUnavailable⟩
          | some o => acceptOutcome d h r.worker o

def fenceAbandonedInvocation (d : Domain T) (i : InvocationId) : Domain T :=
  match Assoc.get i d.state.active with
  | none => d
  | some r =>
    let r' := { r with
      acceptsResult := false, disposition := .fenced
      phase := if r.phase = .running then .cancellationRequested else r.phase }
    { d with state := { d.state.fence i .handleDropped with active := Assoc.put i r' d.state.active } }.log
      (.fenced i .handleDropped)

/-! ## Shutdown -/

/-- One record under `begin_shutdown`. -/
def InvocationRecord.shut (r : InvocationRecord T) : InvocationRecord T :=
  if r.disposition = .accepted then r
  else { r with
    acceptsResult := false, disposition := .fenced
    phase := if r.phase = .running ∨ r.phase = .resultPending then .cancellationRequested else r.phase }

/-- The fence `begin_shutdown` sets for a record, if any. -/
def InvocationRecord.shutReason (r : InvocationRecord T) : Option FenceReasonCode :=
  if r.disposition = .accepted then none
  else if r.phase = .wedged then some .wedged
  else some .shutdown

def DomainState.shutControl (s : DomainState T) (i : InvocationId) : InvocationControl :=
  match (Assoc.get i s.active).bind (·.shutReason) with
  | none => s.controls i
  | some reason => (s.controls i).fence reason

def WorkerPhase.shut (p : WorkerPhase) : WorkerPhase := if p = .idle then .stopping else p

def idleWorkers (workers : List WorkerPhase) : List Nat :=
  (List.range workers.length).filter fun w => workers[w]? = some .idle

/-- The locked part of `begin_shutdown`.  Every record counts as fenced by it. -/
def beginShutdown (d : Domain T) : Domain T :=
  let s := d.state
  if s.lifecycle = .closing ∨ s.lifecycle = .closed then { d with call := .awaiting }
  else
    { d with
      state := { s with
        lifecycle := .closing, active := Assoc.mapVals InvocationRecord.shut s.active, controls := s.shutControl
        workers := s.workers.map WorkerPhase.shut }
      call := .waking (idleWorkers s.workers)
      events := (Assoc.keys s.active).map (Event.fenced · .shutdown) ++ d.events }

def wakeWorker (d : Domain T) (w : Nat) (rest : List Nat) : Domain T :=
  match trySend d w .shutdown with
  | .ok d' => { d' with call := .waking rest }
  | .error _ => { d with call := .dispatchFailed w rest }

def WorkerThread.isFinished (t : WorkerThread T) : Bool :=
  match t.place with
  | .finished _ => !t.joined
  | _ => false

def markShutdownDispatchFailure (d : Domain T) (w : Nat) (rest : List Nat) : Domain T :=
  { d with
    state := if (d.threads w).isFinished then d.state.setPhase w .exited else d.state
    call := .waking rest }

/-- The wait of `shutdown_for` is over, because every worker has exited or because the budget is spent. -/
def endWait (d : Domain T) : Domain T :=
  let all := List.range d.planned
  { d with call := if ∀ p ∈ d.state.workers, p = .exited then .joining all 0 0 else .reaping all 0 0 }

def joinWorker (d : Domain T) (w : Nat) : Domain T :=
  { d with threads := Function.update d.threads w { d.threads w with joined := true } }

/-- One round of `join_all_workers_blocking`; it blocks until the thread has finished. -/
def joinNext (d : Domain T) (w : Nat) (rest : List Nat) (joined panicked : Nat) : Option (Domain T) :=
  if (d.threads w).joined then some { d with call := .joining rest joined panicked }
  else
    match (d.threads w).place with
    | .finished p => some { joinWorker d w with call := .joining rest (joined + 1) (panicked + p.toNat) }
    | _ => none

/-- One round of `reap_finished_workers`. -/
def reapNext (d : Domain T) (w : Nat) (rest : List Nat) (joined panicked : Nat) : Domain T :=
  match (d.threads w).joined, (d.threads w).place with
  | false, .finished p => { joinWorker d w with call := .reaping rest (joined + 1) (panicked + p.toNat) }
  | _, _ => { d with call := .reaping rest joined panicked }

def endJoin (s : DomainState T) (joined panicked : Nat) : DomainState T :=
  if joined ≠ 0 ∨ panicked ≠ 0 then
    { s with
      joinedWorkers := s.joinedWorkers + joined, panickedWorkers := s.panickedWorkers + panicked
      workers := s.workers.map fun _ => .exited
      lifecycle := if s.active = [] then .closed else .poisoned }
  else s

def endReap (s : DomainState T) (joined panicked : Nat) : DomainState T :=
  if joined ≠ 0 ∨ panicked ≠ 0 then
    { s with joinedWorkers := s.joinedWorkers + joined, panickedWorkers := s.panickedWorkers + panicked }
  else s

/-- The end of `shutdown_for`. -/
def conclude (d : Domain T) : Domain T :=
  { d with
    state := if ∀ w < d.planned, (d.threads w).joined then { d.state with lifecycle := .closed } else d.state
    call := .free }

/-! ## The workers' sections -/

/-- One command of `worker_main`; the channel's sender outlives its worker. -/
def receive (d : Domain T) (w : Nat) : Option (Domain T) :=
  match (d.threads w).command with
  | none => none
  | some (.run i) => some (((d.post w none).goto w (.calling i)).log (.ran w i))
  | some .shutdown => some ((d.post w none).goto w .exiting)

def WorkerOutcome.isPanicked : WorkerOutcome T → Bool
  | .returned _ => false
  | .panicked => true

def DomainState.acceptsResult (s : DomainState T) (w : Nat) (i : InvocationId) : Bool :=
  match Assoc.get i s.active with
  | none => false
  | some r => r.worker = w && r.acceptsResult && r.disposition = .pending && s.reason i = .opened

def DomainState.afterCallable (s : DomainState T) (o : WorkerOutcome T) : DomainState T :=
  { s with lifecycle := if o.isPanicked && s.lifecycle ≠ .closing then .poisoned else s.lifecycle }

/-- The section of `run_work` after the callable: the outcome is published, or kept for destruction. -/
def publishOutcome (d : Domain T) (w : Nat) (i : InvocationId) (o : WorkerOutcome T) : Domain T :=
  let s := d.state.afterCallable o
  if s.acceptsResult w i && d.state.lifecycle ≠ .closing then
    match Assoc.get i s.active with
    | none => d.log .unreachable
    | some r =>
      let r' := { r with outcome := some o, phase := .resultPending }
      { d with state := { s with active := Assoc.put i r' s.active }.setPhase w (.resultPending i) }.goto w (.waiting i)
  else
    match Assoc.get i s.active with
    | none => { d with state := s }.goto w (.dropping i (some o))
    | some r =>
      let r' := { r with acceptsResult := false, disposition := .fenced }
      { d with state := { s with active := Assoc.put i r' s.active } }.goto w (.dropping i (some o))

/-- The callable returns or panics.  A panic payload whose own destructor panics takes the thread down. -/
def finishCallable (d : Domain T) (w : Nat) (i : InvocationId) (o : WorkerOutcome T) (killed : Bool) : Domain T :=
  let d' := if o.isPanicked then d.log (.panicked w) else d
  if o.isPanicked && killed then d'.goto w (.finished true) else publishOutcome d' w i o

def observeDisposition (d : Domain T) (w : Nat) (i : InvocationId) : Domain T :=
  match Assoc.get i d.state.active with
  | none => d.goto w .receiving
  | some r =>
    match r.disposition with
    | .pending => d
    | .accepted | .fenced =>
      let r' := { r with outcome := none }
      { d with state := { d.state with active := Assoc.put i r' d.state.active } }.goto w (.dropping i r.outcome)

/-- The rejected value is destroyed; `panicked` says that its destructor panicked, which the next section records.  A payload
of that panic whose own destructor panics takes the thread down. -/
def destroyCleanup (d : Domain T) (w : Nat) (i : InvocationId) (cleanup : Option (WorkerOutcome T))
    (panicked killed : Bool) : Option (Domain T) :=
  match cleanup with
  | some (.returned _) =>
    let d' := d.log (.destroyed (.worker w) i d.state.workers[w]?)
    some (if panicked && killed then (d'.log (.panicked w)).goto w (.finished true) else d'.goto w (.settling i panicked))
  | _ => if panicked then none else some (d.goto w (.settling i false))

def DomainState.afterCleanup (s : DomainState T) (outcomeDropPanicked : Bool) : DomainState T :=
  if outcomeDropPanicked then
    { s with
      cleanupPanics := min (s.cleanupPanics + 1) u64Max
      lifecycle := if s.lifecycle = .closing then s.lifecycle else .poisoned }
  else s

/-- `matches_worker && phase_matches` -/
def DomainState.settles (s : DomainState T) (w : Nat) (i : InvocationId) : Bool :=
  (Assoc.get i s.active).any (·.worker = w) && (s.workers[w]?.bind (·.occupant)) = some i

/-- The last section of `run_work`. -/
def settleInvocation (d : Domain T) (w : Nat) (i : InvocationId) (outcomeDropPanicked : Bool) : Domain T :=
  let d := if outcomeDropPanicked then d.log (.panicked w) else d
  let closing : Bool := d.state.lifecycle = .closing
  let s := d.state.afterCleanup outcomeDropPanicked
  if s.settles w i then
    let removed := { s with active := Assoc.erase i s.active }.setPhase w (if closing then .exited else .idle)
    let d' := { d with state := refreshClosedLifecycle removed }.goto w (if closing then .leaving else .receiving)
    -- `debug_assert!(removed.outcome.is_none())`
    if (Assoc.get i s.active).any (·.outcome.isSome) then d'.log .unreachable else d'
  else { d with state := refreshClosedLifecycle { s with lifecycle := .poisoned } }.goto w .receiving

def markWorkerExited (s : DomainState T) (w : Nat) (unexpected : Bool) : DomainState T :=
  let exited := s.setPhase w .exited
  refreshClosedLifecycle (if unexpected && !(s.lifecycle = .closing || s.lifecycle = .closed)
    then { exited with lifecycle := .poisoned } else exited)

/-! ## Steps -/

/-- `built` and `buildPanicked` end the `build` of `try_submit`; `proceed` is the next section of the call under way. -/
inductive OwnerAction
  | submit
  | mark (kind : Mark) (handle : ThreadInvocation)
  | take (handle : ThreadInvocation)
  | shutdown
  | built
  | buildPanicked
  | proceed

inductive WorkerAction (T : Type)
  | receive
  | finish (outcome : WorkerOutcome T) (killed : Bool)
  | observe
  | destroy (panicked killed : Bool)
  | settle
  | exit
  | leave

inductive Action (T : Type)
  | owner (a : OwnerAction)
  | drop (invocation : InvocationId)
  | worker (w : Nat) (a : WorkerAction T)

def Domain.presents (d : Domain T) (h : ThreadInvocation) : Bool :=
  d.handles h.fence.invocation = some h ∨ h.fence.owner ≠ d.owner

def Mark.call : Mark → Domain T → ThreadInvocation → Except ThreadDomainError (Domain T)
  | .cancellation => requestCancellation
  | .uncertain => markUncertain
  | .wedged => markWedged

def Poll.settled (p : Poll T) (d : Domain T) : Domain T :=
  let i := p.handle.fence.invocation
  let kept := if (d.handles i).isSome && p.handle.fence.owner = d.owner then some p.handle else d.handles i
  { p.domain with handles := Function.update d.handles i kept }.log (.answered i p.answer)

def dropInvocation (d : Domain T) (i : InvocationId) : Option (Domain T) :=
  match d.handles i with
  | none => none
  | some h =>
    let d' := if h.consumed then d else fenceAbandonedInvocation d h.fence.invocation
    some { d' with handles := Function.update d'.handles i none }

/-- One step of the owner; the calls of the first four start when no other call is under way. -/
def ownerStep (a : OwnerAction) (d : Domain T) : Option (Domain T) :=
  match a, d.call with
  | .submit, .free => some (reserveInvocation d)
  | .mark kind h, .free =>
    if d.presents h then some ((kind.call d h).toOption.getD d) else none
  | .take h, .free => if d.presents h then some ((tryTakeCompletion d h).settled d) else none
  | .shutdown, .free => some (beginShutdown d)
  | .built, .building w i => some (dispatch d w i)
  | .buildPanicked, .building w i => some { d with call := .rollingBack w i false .callableBuildPanicked }
  | .proceed, .rollingBack w i poison e => some ({ rollbackReservation d w i poison with call := .free }.log (.refused e))
  | .proceed, .waking (w :: rest) => some (wakeWorker d w rest)
  | .proceed, .waking [] => some { d with call := .awaiting }
  | .proceed, .dispatchFailed w rest => some (markShutdownDispatchFailure d w rest)
  | .proceed, .awaiting => some (endWait d)
  | .proceed, .joining (w :: rest) joined panicked => joinNext d w rest joined panicked
  | .proceed, .joining [] joined panicked => some { d with state := endJoin d.state joined panicked, call := .concluding }
  | .proceed, .reaping (w :: rest) joined panicked => some (reapNext d w rest joined panicked)
  | .proceed, .reaping [] joined panicked => some { d with state := endReap d.state joined panicked, call := .concluding }
  | .proceed, .concluding => some (conclude d)
  | _, _ => none

/-- One step of worker thread `w`. -/
def workerStep (a : WorkerAction T) (w : Nat) (d : Domain T) : Option (Domain T) :=
  match a, (d.threads w).place with
  | .receive, .receiving => receive d w
  | .finish o killed, .calling i => some (finishCallable d w i o killed)
  | .observe, .waiting i => some (observeDisposition d w i)
  | .destroy panicked killed, .dropping i cleanup => destroyCleanup d w i cleanup panicked killed
  | .settle, .settling i panicked => some (settleInvocation d w i panicked)
  | .exit, .exiting => some ({ d with state := markWorkerExited d.state w false }.goto w .leaving)
  | .leave, .leaving => some (d.goto w (.finished false))
  | _, _ => none

/-- One step of the system, or `none` where the action is not enabled. -/
def step : Action T → Domain T → Option (Domain T)
  | .owner a, d => ownerStep a d
  | .drop i, d => dropInvocation d i
  | .worker w a, d => if w < d.planned then workerStep a w d else none

def run (planned : Nat) (owner : ThreadDomainOwnerIdentity) (actions : List (Action T)) : Domain T :=
  actions.foldl (fun d a => (step a d).getD d) (.new planned owner)

end

end ParaEgox.ThreadDomain
