import ParaEgox.JournalAction
import ParaEgox.Reassembly

/-!
# Service — the Runtime across its process lifetimes

One durable journal, and processes that come and go over it: every process commits the startup invalidation, runs the
restart state machine and then serves apply requests, and may crash between any two calls.  The world keeps a record of
every call with the journal before and after it, so that what is promised of calls can be said about whole runs.
-/
namespace ParaEgox
namespace Control

open Check Journal RuntimeJournalSnapshot Program

/-- What a process is doing: reassembling, or applying a request that found the journal at `start`. -/
inductive Task
  | reassembly
  | apply (request : ReferenceApplyRequest) (preflight : RuntimeReferenceApplyPreflight) (start : RuntimeJournalSnapshot)

def Task.request : Task → Option ReferenceApplyRequest
  | .reassembly => none
  | .apply request _ _ => some request

/-- A call on record: the lifetime it was made in, the journal this process found, and the journal around the call. -/
structure Event where
  lifetime : Nat
  boot : RuntimeJournalSnapshot
  task : Task
  call : PortCall
  before : RuntimeJournalSnapshot
  after : RuntimeJournalSnapshot

/-- The store, the process lifetime with the journal it found, its task, and the record, newest first. -/
structure World where
  store : Store
  lifetime : Nat
  boot : RuntimeJournalSnapshot
  task : Task
  log : List Event

def World.record (w : World) (call : PortCall) (store : Store) : World :=
  { w with store := store, log := ⟨w.lifetime, w.boot, w.task, call, w.store.durable, store.durable⟩ :: w.log }

def reacts (c : Contracts) : Reaction ports World :=
  fun call w answer w' => ∃ store, answers c call w.store answer store ∧ w' = w.record call store

/-! ## Effects and the durable facts they need -/

def Holds (resources : List OwnedResourceRecord) (action : JournalActionRef) (phase : ResourcePhase)
    (kind : ResourceKind) : Prop :=
  ∃ r ∈ resources, r.kind = kind ∧ r.actionId = some action.actionId ∧ r.generation = action.resourceGeneration
    ∧ r.runtimeHostEpoch = action.runtimeHostEpoch ∧ r.phase = phase

/-- The two resources of an action are on record in one phase. -/
structure PairIn (resources : List OwnedResourceRecord) (action : JournalActionRef) (phase : ResourcePhase) : Prop where
  loopDomain : Holds resources action phase .loopDomain
  cardInstance : Holds resources action phase .cardInstance

/-- The intent of a start is durable, and nothing is latched about it. -/
inductive StartIntended (s : RuntimeJournalState) (action : JournalActionRef) : Prop
  | operation (p : PreparedOperation) (hp : s.prepared = some p) (phase : p.phase = .firstActionIntent)
      (ha : p.action = some action) (latch : p.rawOutcome = none)
  | recovery (r : RecoveryAction) (hr : s.recoveryAction = some r) (phase : r.phase = .startCallIntent)
      (ha : r.action = action) (latch : r.rawOutcome = none)

/-- The head-first retire of an action is durable, and nothing is latched about its stop. -/
def StopIntended (s : RuntimeJournalState) (action : JournalActionRef) : Prop :=
  ∃ p, s.prepared = some p ∧ p.phase = .headCommittedRetiringOld ∧ p.action = some action ∧ p.rawOutcome = none

def PortCall.moves : PortCall → Option JournalActionRef
  | materializeOneSource action _ | startOneSourceOnce action | stopOneSourceOnce action => some action
  | _ => none

/-- **An effect is announced**: the journal says what the call is about to do. -/
def Announced (s : RuntimeJournalState) : PortCall → Prop
  | .startOneSourceOnce action => StartIntended s action ∧ PairIn s.ownedResources action .owned
  | .materializeOneSource action _ => StartIntended s action ∧ PairIn s.ownedResources action .reserved
  | .stopOneSourceOnce action => StopIntended s action
  | _ => True

/-! ## Admissions -/

/-- The call publishes the full admission of its own request, from the input that its preflight derives. -/
def Event.Admits (c : Contracts) (e : Event) (input : RuntimeApplyAdmissionInput) : Prop :=
  ∃ request preflight start, e.task = .apply request preflight start ∧ e.call = .commitSnapshot e.after
    ∧ tryReferenceAdmissionInput c start request preflight = .ok input
    ∧ Builder.call c e.before (.fullAdmission input) = .ok e.after

def AdmittedUnder (c : Contracts) (w : World) (tenure : RuntimeTenureAdmissionInput) : Prop :=
  ∃ e ∈ w.log, e.lifetime = w.lifetime ∧ ∃ input, e.Admits c input ∧ input.tenure = tenure

/-- The builders a task may commit: admissions only of its own request, as the apply owner checks them, and under a tenure
that was durable when the request came only as a process that has admitted under it before. -/
def allowed (c : Contracts) (w : World) : Builder → Prop
  | .startupInvalidation => False
  | .tenureOnly tenure => ∃ request preflight start input, w.task = .apply request preflight start
      ∧ tryReferenceAdmissionInput c start request preflight = .ok input ∧ input.tenure = tenure
      ∧ tenureAdmissionStatus start.state tenure = .new
  | .fullAdmission input => ∃ request preflight start, w.task = .apply request preflight start
      ∧ tryReferenceAdmissionInput c start request preflight = .ok input
      ∧ (tenureAdmissionStatus start.state input.tenure = .exact → AdmittedUnder c w input.tenure)
  | _ => True

/-- **When a process may make a call**: the store is given a builder's successor of the durable snapshot, and an effect is
called over the durable facts that announce it. -/
def permitted (c : Contracts) : PortCall → World → Prop
  | .commitSnapshot next, w => w.store.stopped = false ∧ ∃ b, allowed c w b ∧ Builder.call c w.store.durable b = .ok next
  | call, w => Announced w.store.durable.state call

/-! ## Processes -/

/-- What one process lifetime derives for itself when it starts: the execution it recovers with the depth of its restart, its
response signer, and the channel of its own socket and process id. -/
structure Process where
  execution : Option ReferenceTargetExecution
  depth : Nat
  signTerminal : ReferenceApplyRequest → RuntimeTerminalPreview → ReferenceChannelBinding →
    Except RuntimeReferenceApplyError ReferenceApplyTerminalReceipt
  channel : ReferenceChannelBinding

def Process.provision (k : Process) (c : Contracts) : Provision := ⟨c, k.signTerminal, k.channel⟩

def Process.reassembly (k : Process) (c : Contracts) : Reassembly Unit :=
  Reassembly.run (k.provision c) k.execution k.depth

/-- What a process is at: not there, in its restart, waiting for a request, or in one. -/
inductive Mode
  | down
  | reassembling (k : Process) (p : Prog ports (Except RuntimeRestartReassemblyError Unit × RuntimeJournalSnapshot))
  | serving (k : Process) (core : RuntimeReferenceApplyCore)
  | applying (k : Process) (p : Prog ports (Except RuntimeReferenceApplyError RuntimeReferenceApplyOutcome ×
      RuntimeReferenceApplyCore))

structure System where
  world : World
  mode : Mode

/-- A process finds the journal as the last one left it, and commits the startup invalidation before anything else. -/
def World.started (w : World) (store : Store) : World :=
  { w with store := store, lifetime := w.lifetime + 1, boot := w.store.durable, task := .reassembly }

/-- **One step of the Runtime.**  A process starts with what it derives, makes its next call, takes a request or is gone. -/
inductive System.Step (c : Contracts) : System → System → Prop
  | start (w : World) (k : Process) (next : RuntimeJournalSnapshot) (store : Store)
      (hnext : Builder.call c w.store.durable .startupInvalidation = .ok next)
      (hcommit : Commits c next ⟨w.store.durable, false⟩ (.ok ()) store) :
      Step c ⟨w, .down⟩ ⟨w.started store, .reassembling k (k.reassembly c next)⟩
  | failStart (w : World) (next : RuntimeJournalSnapshot) (store : Store)
      (hnext : Builder.call c w.store.durable .startupInvalidation = .ok next)
      (hcommit : Commits c next ⟨w.store.durable, false⟩ (.error .unavailable) store) :
      Step c ⟨w, .down⟩ ⟨w.started store, .down⟩
  | reassemble (w w' : World) (k : Process) (call : PortCall) (next : call.Answer →
      Prog ports (Except RuntimeRestartReassemblyError Unit × RuntimeJournalSnapshot)) (answer : call.Answer)
      (hreact : reacts c call w answer w') :
      Step c ⟨w, .reassembling k (.ask call next)⟩ ⟨w', .reassembling k (next answer)⟩
  | serve (w : World) (k : Process) (s started : RuntimeJournalSnapshot) (hrunning : w.store.stopped = false)
      (hstarted : tryFromStartedSnapshot w.store.durable = .ok started) :
      Step c ⟨w, .reassembling k (.done (.ok (), s))⟩ ⟨w, .serving k ⟨started, none⟩⟩
  | receive (w : World) (k : Process) (core : RuntimeReferenceApplyCore) (request : ReferenceApplyRequest)
      (preflight : RuntimeReferenceApplyPreflight) :
      Step c ⟨w, .serving k core⟩ ⟨{ w with task := .apply request preflight core.state },
        .applying k (Apply.tryApply (k.provision c) request preflight core)⟩
  | apply (w w' : World) (k : Process) (call : PortCall) (next : call.Answer →
      Prog ports (Except RuntimeReferenceApplyError RuntimeReferenceApplyOutcome × RuntimeReferenceApplyCore))
      (answer : call.Answer) (hreact : reacts c call w answer w') :
      Step c ⟨w, .applying k (.ask call next)⟩ ⟨w', .applying k (next answer)⟩
  | reply (w : World) (k : Process) (core : RuntimeReferenceApplyCore)
      (outcome : Except RuntimeReferenceApplyError RuntimeReferenceApplyOutcome) :
      Step c ⟨w, .applying k (.done (outcome, core))⟩ ⟨w, .serving k core⟩
  | crash (w : World) (mode : Mode) : Step c ⟨w, mode⟩ ⟨w, .down⟩

/-- What runs reach over a fresh journal; the owner and the clock answer as they like. -/
inductive System.Reachable (c : Contracts) : System → Prop
  | fresh (first : RuntimeJournalSnapshot) (hfirst : Initial c first) :
      Reachable c ⟨⟨⟨first, true⟩, 0, first, .reassembly, []⟩, .down⟩
  | step {sys sys' : System} (h : Reachable c sys) (hstep : Step c sys sys') : Reachable c sys'

end Control
end ParaEgox
