import ParaEgox.ExecutorBudget
import ParaEgox.Keyed
import ParaEgox.Stateful
import Mathlib.Data.List.Nodup

/-!
# ThreadRegistry — the registry of thread domains over the executor budget

A domain is built under a reservation and installed; shutdown asks every owner twice, first without waiting and then for
its own drain budget, and settles the proofs that came back.  What the operating system does (a worker that does not
start, an owner that is not quiet yet) is given with each call.
-/
namespace ParaEgox
namespace Executor

open Check Stateful

def maxOwnedThreadDomains : Nat := 64
def maxThreadDomainWorkers : Nat := 64
def maxExecutorThreads : Nat := 65535

inductive ThreadDomainBuildError
  | invalidWorkerCount
  | invalidStartBudget
  | reservationWorkerMismatch
  | unsupportedNativeReservation
  | spawn
  | startDeadlineOverflow
  | startTimedOut
  | startHandshakeDisconnected
  deriving DecidableEq

inductive ThreadOwnerShutdownError
  | incomplete
  | failed

inductive ThreadRegistryError
  | budget (error : ExecutorBudgetError)
  | domainBuild (error : ThreadDomainBuildError)
  | invalidDomainConfiguration
  | nativeOwnerUnavailable
  | domainCapacityExhausted
  | domainAlreadyOwned
  | drainIncomplete
  | ownerCleanupFailed
  | stateInconsistent
  deriving DecidableEq

structure ExecutorBudgetSpec where
  maxTotalThreads : Nat
  frameworkThreads : Nat
  framework_pos : 0 < frameworkThreads
  framework_le : frameworkThreads ≤ maxTotalThreads
  maxTotal_le : maxTotalThreads ≤ maxExecutorThreads

structure ThreadDomainSpec where
  domain : Ref16
  workerCount : Nat
  startBudget : Nat
  drainBudget : Nat

structure ThreadDomainConfig where
  workers : Nat
  startBudget : Nat

def ThreadDomainConfig.tryNew (workers startBudget : Nat) : Except ThreadDomainBuildError ThreadDomainConfig := do
  rejectIf (workers = 0) .invalidWorkerCount
  rejectIf (maxThreadDomainWorkers < workers) .invalidWorkerCount
  rejectIf (startBudget = 0) .invalidStartBudget
  pure ⟨workers, startBudget⟩

/-! ## Building a domain -/

inductive WorkerStart
  | ready
  | spawnFailed
  | budgetSpent
  | timedOut
  | disconnected

structure StartConditions where
  deadlineOverflows : Bool
  start : Nat → WorkerStart

/-- What the registry holds of a domain's owner: its plan and the reservation it has not yet given back. -/
structure ThreadOwner where
  config : ThreadDomainConfig
  reservation : Option ExecutorReservation

/-- Every worker that was spawned has its handle, and is joined: `stop_partially_built_workers`. -/
def constructionFailure (error : ThreadDomainBuildError) (reservation : ExecutorReservation) (started : Nat) :
    ThreadDomainBuildError × ThreadDomainJoinProof :=
  (error, ⟨.constructionRollback, some reservation, started, started, true⟩)

/-- The loop over the workers still to start; it stops at the first that does not, with the number spawned by then. -/
def startWorkers (start : Nat → WorkerStart) : Nat → Nat → Except (ThreadDomainBuildError × Nat) Unit
  | 0, _ => .ok ()
  | remaining + 1, worker => match start worker with
    | .ready => startWorkers start remaining (worker + 1)
    | .spawnFailed => .error (.spawn, worker)
    | .budgetSpent => .error (.startTimedOut, worker + 1)
    | .timedOut => .error (.startTimedOut, worker + 1)
    | .disconnected => .error (.startHandshakeDisconnected, worker + 1)

/-- `ThreadDomain::try_new`: the owner, or the error with the proof that rolls the reservation back. -/
def ThreadOwner.tryNew (config : ThreadDomainConfig) (conditions : StartConditions) (reservation : ExecutorReservation) :
    Except (ThreadDomainBuildError × ThreadDomainJoinProof) ThreadOwner :=
  if reservation.managedWorkers ≠ config.workers then
    .error (constructionFailure .reservationWorkerMismatch reservation 0)
  else if reservation.nativeThreads ≠ 0 then
    .error (constructionFailure .unsupportedNativeReservation reservation 0)
  else if conditions.deadlineOverflows then .error (constructionFailure .startDeadlineOverflow reservation 0)
  else match startWorkers conditions.start config.workers 0 with
    | .error (error, started) => .error (constructionFailure error reservation started)
    | .ok () => .ok ⟨config, some reservation⟩

inductive OwnerReport
  | complete
  | incomplete
  | failed

/-- `shutdown_and_prove`; the proof takes the reservation with it. -/
def ThreadOwner.shutdownAndProve (owner : ThreadOwner) (report : OwnerReport) :
    Except ThreadOwnerShutdownError ThreadDomainJoinProof × ThreadOwner :=
  match report with
  | .failed => (.error .failed, owner)
  | .incomplete => (.error .incomplete, owner)
  | .complete => match owner.reservation with
    | none => (.error .failed, owner)
    | some reservation =>
      (.ok ⟨.completeShutdown, some reservation, owner.config.workers, owner.config.workers, true⟩,
        { owner with reservation := none })

/-! ## The registry -/

structure OwnedThreadDomain where
  drainBudget : Nat
  owner : ThreadOwner
  joinProof : Option ThreadDomainJoinProof

/-- The registry, and beside it the proofs its budget has accepted and the calls its owners have had, with the time each
was given. -/
structure RuntimeThreadRegistry where
  plan : ExecutorBudgetSpec
  budget : ExecutorBudget
  domains : List (Ref16 × OwnedThreadDomain)
  accepted : List ThreadDomainJoinProof
  asked : List (Ref16 × Nat)

abbrev RegistryTurn := Stateful RuntimeThreadRegistry ThreadRegistryError

def onBudget (f : ExecutorBudget → Except ExecutorBudgetError α × ExecutorBudget) : RegistryTurn α := fun r =>
  match f r.budget with
  | (.ok a, budget) => (.ok a, { r with budget })
  | (.error e, budget) => (.error (.budget e), { r with budget })

def releaseBudget (proof : ThreadDomainJoinProof) : RegistryTurn Unit := fun r =>
  match ExecutorBudget.release proof r.budget with
  | (.ok (), budget, _) => (.ok (), { r with budget, accepted := r.accepted ++ [proof] })
  | (.error e, budget, _) => (.error (.budget e), { r with budget })

namespace RuntimeThreadRegistry

def tryNew (marker : Nat) (spec : ExecutorBudgetSpec) : Except ThreadRegistryError RuntimeThreadRegistry := do
  let budget ← wrapErr .budget (ExecutorBudget.tryNew marker spec.maxTotalThreads spec.frameworkThreads)
  pure ⟨spec, budget, [], [], []⟩

def tryCreateOwner (spec : ThreadDomainSpec) (nativeThreads : Nat)
    (build : ExecutorReservation → Except (ThreadDomainBuildError × ThreadDomainJoinProof) ThreadOwner) :
    RegistryTurn Ref16 := do
  let r ← self
  lift (rejectIf (spec.domain ∈ Assoc.keys r.domains) .domainAlreadyOwned)
  lift (rejectIf (maxOwnedThreadDomains ≤ r.domains.length) .domainCapacityExhausted)
  lift (rejectIf (nativeThreads ≠ 0) .nativeOwnerUnavailable)
  lift (rejectIf (spec.drainBudget = 0) .invalidDomainConfiguration)
  let reservation ← onBudget (ExecutorBudget.tryReserve spec.workerCount nativeThreads)
  match build reservation with
  | .error (error, proof) => do
    releaseBudget proof
    lift (.error (.domainBuild error))
  | .ok owner => do
    update fun r => { r with domains := Assoc.put spec.domain ⟨spec.drainBudget, owner, none⟩ r.domains }
    lift (rejectIf (spec.domain ∈ Assoc.keys r.domains) .stateInconsistent)
    pure spec.domain

def tryCreate (spec : ThreadDomainSpec) (nativeThreads : Nat) (conditions : StartConditions) : RegistryTurn Ref16 := do
  let config ← lift (wrapErr .domainBuild (ThreadDomainConfig.tryNew spec.workerCount spec.startBudget))
  tryCreateOwner spec nativeThreads (ThreadOwner.tryNew config conditions)

/-! ## Shutdown -/

inductive Answer
  | proved
  | refused (error : ThreadOwnerShutdownError)

def askOwner (time : OwnedThreadDomain → Nat) (report : OwnerReport) (domain : Ref16) : RegistryTurn (Option Answer) := do
  let r ← self
  let owned ← lift (okOr (Assoc.get domain r.domains) .stateInconsistent)
  if owned.joinProof.isSome then pure none
  else do
    update fun r => { r with asked := r.asked ++ [(domain, time owned)] }
    match owned.owner.shutdownAndProve report with
    | (.ok proof, owner) => do
      update fun r => { r with domains := Assoc.adjust domain (fun o => { o with owner, joinProof := some proof }) r.domains }
      pure (some .proved)
    | (.error e, owner) => do
      update fun r => { r with domains := Assoc.adjust domain (fun o => { o with owner }) r.domains }
      pure (some (.refused e))

def askEach (time : OwnedThreadDomain → Nat) (reports : Ref16 → OwnerReport) :
    List Ref16 → RegistryTurn (List (Option Answer))
  | [] => pure []
  | domain :: domains => do
    let answer ← askOwner time (reports domain) domain
    let answers ← askEach time reports domains
    pure (answer :: answers)

structure DrainFaults where
  incomplete : Bool := false
  cleanupFailed : Bool := false

def DrainFaults.note (faults : DrainFaults) : Option Answer → DrainFaults
  | some (.refused .incomplete) => { faults with incomplete := true }
  | some (.refused .failed) => { faults with cleanupFailed := true }
  | some .proved | none => faults

/-- The proof of one domain is settled and the domain removed; a proof that is rejected stays.  The first error is kept. -/
def settleDomain (domain : Ref16) (hardError : Option ThreadRegistryError) :
    RegistryTurn (Option ThreadRegistryError) := fun r =>
  match Assoc.get domain r.domains with
  | none => (.ok (hardError.or (some .stateInconsistent)), r)
  | some owned => match owned.joinProof with
    | none => (.ok hardError, r)
    | some proof => match ExecutorBudget.release proof r.budget with
      | (.ok (), budget, _) =>
        (.ok hardError, { r with budget, accepted := r.accepted ++ [proof], domains := Assoc.erase domain r.domains })
      | (.error e, budget, proof) =>
        (.ok (hardError.or (some (.budget e))),
          { r with budget, domains := Assoc.adjust domain (fun o => { o with joinProof := some proof }) r.domains })

def settleAll : List Ref16 → Option ThreadRegistryError → RegistryTurn (Option ThreadRegistryError)
  | [], hardError => pure hardError
  | domain :: domains, hardError => do
    let hardError ← settleDomain domain hardError
    settleAll domains hardError

def shutdownResult (faults : DrainFaults) (hardError : Option ThreadRegistryError) : RegistryTurn Unit := do
  lift (whenSome hardError .error)
  lift (rejectIf (faults.cleanupFailed = true) .ownerCleanupFailed)
  let r ← self
  lift (rejectIf (faults.incomplete = true ∨ r.domains ≠ []) .drainIncomplete)
  let snapshot ← lift (wrapErr .budget r.budget.snapshot)
  lift (rejectIf (snapshot.activeReservations ≠ 0 ∨ snapshot.managedWorkers ≠ 0 ∨ snapshot.nativeThreads ≠ 0)
    .stateInconsistent)

def shutdown (first second : Ref16 → OwnerReport) : RegistryTurn Unit := do
  let r ← self
  let domains := Keyed.sortBy id (Assoc.keys r.domains)
  -- phase 1 does not wait, and looks at no refusal
  let _ ← askEach (fun _ => 0) first domains
  let answers ← askEach OwnedThreadDomain.drainBudget second domains
  let hardError ← settleAll domains none
  shutdownResult (answers.foldl DrainFaults.note {}) hardError

end RuntimeThreadRegistry

end Executor
end ParaEgox
