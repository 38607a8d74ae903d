import ParaEgox.Checked
import ParaEgox.Keyed
import ParaEgox.Mailbox
import ParaEgox.Stateful

/-!
# Dispatcher — loop-domain dispatch selection and permit accounting

A permit ledger with a control reserve, and the hierarchical weighted-deficit scheduler over mailbox slots: a bounded pass
over the four classes, a fast-forward over rounds in which nothing would run, and one second pass.  The class cursor is the
class it points at.
-/
namespace ParaEgox
namespace Dispatch

open Check Stateful

def maxDispatchSlots : Nat := 256
def maxDeficit : Nat := 2 ^ 48
def maxServiceCostTokens : Nat := 1000000
def maxMinimumServiceWeight : Nat := 1000000
def maxClassQuantum : Nat := maxMinimumServiceWeight * maxDispatchSlots
def maxClassBurst : Nat := 65535 * maxDispatchSlots

inductive DispatchClass
  | control
  | interactive
  | stream
  | background
  deriving DecidableEq

namespace DispatchClass

def all : List DispatchClass := [control, interactive, stream, background]

/-- The class after this one, round and round: `(index + 1) % CLASS_COUNT`. -/
def next : DispatchClass → DispatchClass
  | control => interactive
  | interactive => stream
  | stream => background
  | background => control

def isControl : DispatchClass → Bool
  | control => true
  | interactive | stream | background => false

end DispatchClass

inductive PermitError
  | invalidCapacity
  | counterOverflow
  | stateInconsistent
  | ledgerMismatch
  | tokenMismatch
  | alreadyReleased

inductive DispatcherError
  | noSlots
  | tooManySlots
  | duplicateMailbox
  | invalidCost
  | invalidWeight
  | invalidBurst
  | tooManyReadinessHints
  | duplicateReadinessHint
  | unknownMailbox
  | readinessMailboxMismatch
  | counterOverflow
  | stateInconsistent
  | permitStateChanged
  | permit (error : PermitError)

/-! ## Policies and slots -/

structure DispatchClassPolicy where
  quantum : Nat
  maxBurst : Nat
  quantum_pos : 0 < quantum
  quantum_le : quantum ≤ maxClassQuantum
  maxBurst_pos : 0 < maxBurst
  maxBurst_le : maxBurst ≤ maxClassBurst

def DispatchClassPolicy.tryNew (quantum maxBurst : Nat) : Except DispatcherError DispatchClassPolicy :=
  if hq : 0 < quantum ∧ quantum ≤ maxClassQuantum then
    if hb : 0 < maxBurst ∧ maxBurst ≤ maxClassBurst then .ok ⟨quantum, maxBurst, hq.1, hq.2, hb.1, hb.2⟩
    else .error .invalidBurst
  else .error .invalidWeight

/-- The scheduling inputs of one mailbox slot, in their bounds; the burst cap is a `u16` value. -/
structure DispatchSlotSpec where
  mailbox : Ref16
  slotClass : DispatchClass
  cost : Nat
  weight : Nat
  maxBurst : Nat
  cost_pos : 0 < cost
  cost_le : cost ≤ maxServiceCostTokens
  weight_pos : 0 < weight
  weight_le : weight ≤ maxMinimumServiceWeight
  maxBurst_pos : 0 < maxBurst
  maxBurst_le : maxBurst ≤ 65535

def DispatchSlotSpec.tryNew (mailbox : Ref16) (slotClass : DispatchClass) (cost weight maxBurst : Nat)
    (maxBurst_le : maxBurst ≤ 65535) : Except DispatcherError DispatchSlotSpec :=
  if hc : 0 < cost ∧ cost ≤ maxServiceCostTokens then
    if hw : 0 < weight ∧ weight ≤ maxMinimumServiceWeight then
      if hb : 0 < maxBurst then
        .ok ⟨mailbox, slotClass, cost, weight, maxBurst, hc.1, hc.2, hw.1, hw.2, hb, maxBurst_le⟩
      else .error .invalidBurst
    else .error .invalidWeight
  else .error .invalidCost

structure DispatchSlot extends DispatchSlotSpec where
  deficit : Nat
  cursor : Nat

/-! ## Readiness -/

structure MailboxHeadHint where
  mailbox : Ref16

inductive MailboxHeadReadiness
  | ready (hint : MailboxHeadHint)
  | expired (hint : MailboxHeadHint) (reason : Mailbox.TerminalReason)
  | empty
  | noPermit (hint : MailboxHeadHint)
  | closed

def MailboxHeadReadiness.isDispatchable : MailboxHeadReadiness → Bool
  | ready _ => true
  | expired .. | empty | noPermit _ | closed => false

def MailboxHeadReadiness.hint : MailboxHeadReadiness → Option MailboxHeadHint
  | ready hint | expired hint _ | noPermit hint => some hint
  | empty | closed => none

structure DispatchReadiness where
  mailbox : Ref16
  head : MailboxHeadReadiness

/-! ## The permit ledger -/

/-- The identity of a ledger; the marker stands for the address that tells two ledgers of one domain apart. -/
structure DomainPermitLedgerId where
  domain : Ref16
  domainEpoch : Nat
  marker : Nat
  deriving DecidableEq

inductive PermitPool
  | shared
  | controlReserved
  deriving DecidableEq

structure DomainPermitToken where
  ledger : DomainPermitLedgerId
  permitId : Nat
  pool : PermitPool
  active : Bool

structure ActivePermit where
  permitId : Nat
  pool : PermitPool

/-- Capacities are `u32` values. -/
structure DomainPermitLedger where
  id : DomainPermitLedgerId
  total : Nat
  total_le : total ≤ u32Max
  controlReserved : Nat
  sharedInUse : Nat
  controlReservedInUse : Nat
  nextPermitId : Nat
  active : List ActivePermit

namespace DomainPermitLedger

def tryNew (id : DomainPermitLedgerId) (total controlReserved : Nat) (total_le : total ≤ u32Max) :
    Except PermitError DomainPermitLedger := do
  rejectIf (total = 0 ∨ total < controlReserved) .invalidCapacity
  pure ⟨id, total, total_le, controlReserved, 0, 0, 0, []⟩

def canAcquire (l : DomainPermitLedger) (c : DispatchClass) : Bool :=
  (c.isControl && decide (l.controlReservedInUse < l.controlReserved))
    || decide (l.sharedInUse < l.total - l.controlReserved)

def validateState (l : DomainPermitLedger) : Except PermitError Unit := do
  let sharedCapacity ← subU64 l.total l.controlReserved .stateInconsistent
  rejectIf (l.total = 0 ∨ sharedCapacity < l.sharedInUse ∨ l.controlReserved < l.controlReservedInUse) .stateInconsistent
  let active ← toU32 l.active.length .stateInconsistent
  let counted ← toU32 (l.sharedInUse + l.controlReservedInUse) .stateInconsistent
  rejectIf (active ≠ counted) .stateInconsistent
  let recomputedShared := l.active.countP fun a => decide (a.pool = .shared)
  let recomputedReserved := l.active.length - recomputedShared
  rejectIf (l.sharedInUse ≠ recomputedShared ∨ l.controlReservedInUse ≠ recomputedReserved) .stateInconsistent

def poolFor (l : DomainPermitLedger) (c : DispatchClass) : Option PermitPool :=
  if c.isControl ∧ l.controlReservedInUse < l.controlReserved then some .controlReserved
  else if l.sharedInUse < l.total - l.controlReserved then some .shared
  else none

def countUp (pool : PermitPool) : Stateful DomainPermitLedger PermitError Unit := do
  let l ← self
  match pool with
  | .shared => do
    let n ← lift (toU32 (l.sharedInUse + 1) .counterOverflow)
    update fun l => { l with sharedInUse := n }
  | .controlReserved => do
    let n ← lift (toU32 (l.controlReservedInUse + 1) .counterOverflow)
    update fun l => { l with controlReservedInUse := n }

def insertActive (a : ActivePermit) (active : List ActivePermit) : List ActivePermit :=
  Keyed.insert ActivePermit.permitId a (active.filter fun b => decide (b.permitId ≠ a.permitId))

def acquireFrom (pool : PermitPool) : Stateful DomainPermitLedger PermitError DomainPermitToken := do
  let l ← self
  let permitId ← lift (addU64 l.nextPermitId 1 .counterOverflow)
  update fun l => { l with active := insertActive ⟨permitId, pool⟩ l.active }
  lift (rejectIf (l.active.any (·.permitId = permitId) = true) .stateInconsistent)
  countUp pool
  update fun l => { l with nextPermitId := permitId }
  pure ⟨l.id, permitId, pool, true⟩

def tryAcquire (c : DispatchClass) : Stateful DomainPermitLedger PermitError (Option DomainPermitToken) := do
  let l ← self
  lift l.validateState
  match l.poolFor c with
  | none => pure none
  | some pool => do
    let token ← acquireFrom pool
    pure (some token)

def countDown (pool : PermitPool) : Stateful DomainPermitLedger PermitError Unit := do
  let l ← self
  match pool with
  | .shared => do
    let n ← lift (subU64 l.sharedInUse 1 .stateInconsistent)
    update fun l => { l with sharedInUse := n }
  | .controlReserved => do
    let n ← lift (subU64 l.controlReservedInUse 1 .stateInconsistent)
    update fun l => { l with controlReservedInUse := n }

/-- `release`; the token it returns is the caller's, no longer active. -/
def release (token : DomainPermitToken) : Stateful DomainPermitLedger PermitError DomainPermitToken := do
  let l ← self
  lift l.validateState
  lift (rejectIf (token.active = false) .alreadyReleased)
  lift (rejectIf (token.ledger ≠ l.id) .ledgerMismatch)
  let entry ← lift (okOr (Keyed.find ActivePermit.permitId token.permitId l.active) .tokenMismatch)
  lift (rejectIf (entry.pool ≠ token.pool) .tokenMismatch)
  countDown entry.pool
  update fun l => { l with active := l.active.filter fun a => decide (a.permitId ≠ token.permitId) }
  pure { token with active := false }

end DomainPermitLedger

/-! ## The policy -/

inductive SelectionPath
  | directScan
  | hierarchicalDeficit

structure DispatchSelection where
  mailbox : Ref16
  slotClass : DispatchClass
  cost : Nat
  path : SelectionPath

structure DispatchGrant where
  selection : DispatchSelection
  permit : DomainPermitToken

inductive DispatchIdleReason
  | noReadyMailbox
  | noDomainPermit

inductive DispatchDecision
  | selected (grant : DispatchGrant)
  | idle (reason : DispatchIdleReason)

structure DispatchPolicy where
  slots : List DispatchSlot
  classes : DispatchClass → DispatchClassPolicy
  classDeficit : DispatchClass → Nat
  classCursor : DispatchClass
  classVisitOpen : Bool
  slotCursor : DispatchClass → Nat
  lastClass : Option DispatchClass
  classBurst : Nat
  lastSlot : Option Nat
  slotBurst : Nat
  directScan : Bool
  directCursor : Nat

abbrev Scheduler := Stateful DispatchPolicy DispatcherError

namespace DispatchPolicy

def uniform : List DispatchSlotSpec → Bool
  | [] => true
  | first :: rest => (first :: rest).all fun spec =>
    decide (spec.slotClass = first.slotClass ∧ spec.cost = first.cost ∧ spec.weight = first.weight)

def tryNew (classes : DispatchClass → DispatchClassPolicy) (specs : List DispatchSlotSpec) :
    Except DispatcherError DispatchPolicy := do
  rejectIf (specs = []) .noSlots
  rejectIf (maxDispatchSlots < specs.length) .tooManySlots
  rejectIf (¬ (specs.map (·.mailbox)).Nodup) .duplicateMailbox
  pure {
    slots := specs.mapIdx fun cursor spec => ⟨spec, 0, cursor⟩
    classes := classes
    classDeficit := fun _ => 0
    classCursor := .control
    classVisitOpen := false
    slotCursor := fun _ => 0
    lastClass := none
    classBurst := 0
    lastSlot := none
    slotBurst := 0
    directScan := uniform specs
    directCursor := 0 }

/-! ### What the scheduler looks at -/

def anySlot (p : DispatchPolicy) (test : Nat → DispatchSlot → Bool) : Bool :=
  (p.slots.mapIdx test).any id

def classHasEligible (p : DispatchPolicy) (c : DispatchClass) (eligible : Nat → Bool) : Bool :=
  p.anySlot fun i slot => eligible i && decide (slot.slotClass = c)

def hasOtherEligibleClass (p : DispatchPolicy) (c : DispatchClass) (eligible : Nat → Bool) : Bool :=
  p.anySlot fun i slot => eligible i && decide (slot.slotClass ≠ c)

def hasOtherEligibleSlot (p : DispatchPolicy) (selected : Nat) (c : DispatchClass) (eligible : Nat → Bool) : Bool :=
  p.anySlot fun i slot => decide (i ≠ selected) && eligible i && decide (slot.slotClass = c)

def minimumEligibleCost (p : DispatchPolicy) (c : DispatchClass) (eligible : Nat → Bool) : Nat :=
  (((p.slots.mapIdx fun i slot => (eligible i && decide (slot.slotClass = c), slot.cost)).filter (·.1)).map (·.2)).foldl
    min u64Max

def classBurstExhausted (p : DispatchPolicy) (c : DispatchClass) : Bool :=
  decide (p.lastClass = some c) && decide ((p.classes c).maxBurst ≤ p.classBurst)

def slotBurstExhausted (p : DispatchPolicy) (index : Nat) : Bool :=
  decide (p.lastSlot = some index) && p.slots[index]?.any fun slot => decide (slot.maxBurst ≤ p.slotBurst)

/-- The slot may be taken now: eligible, of the class, and not held back by its burst while another one waits. -/
def candidate (p : DispatchPolicy) (c : DispatchClass) (eligible : Nat → Bool) (index : Nat) : Bool :=
  eligible index && (p.slots[index]?.any fun slot => decide (slot.slotClass = c))
    && !(p.slotBurstExhausted index && p.hasOtherEligibleSlot index c eligible)

def rotation (p : DispatchPolicy) (start : Nat) : List Nat :=
  (List.range p.slots.length).map fun offset => (start + offset) % p.slots.length

/-! ### Slots within a class -/

def roundsFor (slot : DispatchSlot) : Except DispatcherError Nat :=
  if slot.cost - slot.deficit = 0 then .ok 0
  else do
    let n ← addU64 (slot.cost - slot.deficit) (slot.weight - 1) .counterOverflow
    pure (n / slot.weight)

def leastRounds (p : DispatchPolicy) (c : DispatchClass) (eligible : Nat → Bool) (least : Option Nat) (index : Nat) :
    Except DispatcherError (Option Nat) :=
  match p.slots[index]? with
  | none => .ok least
  | some slot =>
    if p.candidate c eligible index then do
      let rounds ← roundsFor slot
      pure (some (least.elim rounds fun value => min value rounds))
    else .ok least

def creditedSlot (rounds : Nat) (slot : DispatchSlot) : Except DispatcherError DispatchSlot := do
  rejectIf (u64Max < rounds * slot.weight) .counterOverflow
  let deficit ← addU64 slot.deficit (rounds * slot.weight) .counterOverflow
  pure { slot with deficit := min deficit maxDeficit }

/-- Credits the eligible slots of a class one after the other, the first one having index `i`. -/
def creditFrom (rounds : Nat) (c : DispatchClass) (eligible : Nat → Bool) : Nat → List DispatchSlot →
    Except DispatcherError Unit × List DispatchSlot
  | _, [] => (.ok (), [])
  | i, slot :: rest =>
    if eligible i && decide (slot.slotClass = c) then
      match creditedSlot rounds slot with
      | .error e => (.error e, slot :: rest)
      | .ok slot' => ((creditFrom rounds c eligible (i + 1) rest).1, slot' :: (creditFrom rounds c eligible (i + 1) rest).2)
    else ((creditFrom rounds c eligible (i + 1) rest).1, slot :: (creditFrom rounds c eligible (i + 1) rest).2)

def creditSlots (rounds : Nat) (c : DispatchClass) (eligible : Nat → Bool) : Scheduler Unit := fun p =>
  if rounds = 0 then (.ok (), p)
  else ((creditFrom rounds c eligible 0 p.slots).1, { p with slots := (creditFrom rounds c eligible 0 p.slots).2 })

def affordableSlot (p : DispatchPolicy) (c : DispatchClass) (eligible : Nat → Bool) : Option Nat :=
  (p.rotation (p.slotCursor c % p.slots.length)).find? fun index =>
    p.candidate c eligible index && p.slots[index]?.any fun slot => decide (slot.cost ≤ slot.deficit)

def prepareSlotInClass (c : DispatchClass) (eligible : Nat → Bool) : Scheduler Nat := do
  let p ← self
  let least ← lift (scan (p.leastRounds c eligible) none (p.rotation (p.slotCursor c % p.slots.length)))
  let rounds ← lift (okOr least .stateInconsistent)
  creditSlots rounds c eligible
  let p ← self
  lift (okOr (p.affordableSlot c eligible) .stateInconsistent)

/-! ### Service -/

def setSlot (p : DispatchPolicy) (index : Nat) (slot : DispatchSlot) : DispatchPolicy :=
  { p with slots := p.slots.set index slot }

def recordSlotService (p : DispatchPolicy) (index : Nat) : DispatchPolicy :=
  if p.lastSlot = some index then { p with slotBurst := min (p.slotBurst + 1) u32Max }
  else { p with lastSlot := some index, slotBurst := 1 }

def recordClassService (p : DispatchPolicy) (c : DispatchClass) : DispatchPolicy :=
  if p.lastClass = some c then { p with classBurst := min (p.classBurst + 1) u32Max }
  else { p with lastClass := some c, classBurst := 1 }

def moveSlotCursor (p : DispatchPolicy) (index : Nat) (slot : DispatchSlot) : DispatchPolicy :=
  let cursor := if p.slotBurst < slot.maxBurst ∧ slot.cost ≤ slot.deficit then index else (index + 1) % p.slots.length
  { p with slotCursor := Function.update p.slotCursor slot.slotClass cursor }

def commitSlotService (index : Nat) : Scheduler Unit := do
  let p ← self
  let slot ← lift (okOr p.slots[index]? .stateInconsistent)
  let deficit ← lift (subU64 slot.deficit slot.cost .stateInconsistent)
  update fun p => ((p.setSlot index { slot with deficit := deficit }).recordSlotService index).moveSlotCursor index
    { slot with deficit := deficit }

def setClassDeficit (c : DispatchClass) (deficit : Nat) (p : DispatchPolicy) : DispatchPolicy :=
  { p with classDeficit := Function.update p.classDeficit c deficit }

def advanceClassVisit (c : DispatchClass) (p : DispatchPolicy) : DispatchPolicy :=
  { p with classCursor := c.next, classVisitOpen := false }

/-- The class keeps its visit while its burst lasts and it can pay for its cheapest eligible slot. -/
def moveClassCursor (c : DispatchClass) (eligible : Nat → Bool) (p : DispatchPolicy) : DispatchPolicy :=
  if p.classBurst < (p.classes c).maxBurst ∧ p.minimumEligibleCost c eligible ≤ p.classDeficit c then
    { p with classCursor := c, classVisitOpen := true }
  else p.advanceClassVisit c

def slotCost (p : DispatchPolicy) (index : Nat) : Except DispatcherError Nat := do
  let slot ← okOr p.slots[index]? .stateInconsistent
  pure slot.cost

def commitClassService (c : DispatchClass) (index : Nat) (eligible : Nat → Bool) : Scheduler Nat := do
  let p ← self
  let cost ← lift (p.slotCost index)
  let deficit ← lift (subU64 (p.classDeficit c) cost .stateInconsistent)
  update (setClassDeficit c deficit)
  commitSlotService index
  update fun p => (p.recordClassService c).moveClassCursor c eligible
  pure index

/-! ### Class visits -/

def creditClassVisit (c : DispatchClass) : Scheduler Unit := do
  let p ← self
  let deficit ← lift (addU64 (p.classDeficit c) (p.classes c).quantum .counterOverflow)
  update (setClassDeficit c (min deficit maxDeficit))

def openClassVisit (c : DispatchClass) : Scheduler Unit := fun p =>
  if p.classVisitOpen then (.ok (), p)
  else (do creditClassVisit c; update fun p => { p with classVisitOpen := true }) p

inductive Visit
  | passed
  | yielded (index : Nat)
  | ready (index : Nat)

def judgeVisit (c : DispatchClass) (index : Nat) (eligible : Nat → Bool) : Scheduler Visit := do
  let p ← self
  let cost ← lift (p.slotCost index)
  if p.classDeficit c < cost then do
    update (advanceClassVisit c)
    pure .passed
  else if p.classBurstExhausted c && p.hasOtherEligibleClass c eligible then do
    update (advanceClassVisit c)
    pure (.yielded index)
  else pure (.ready index)

def visitClass (c : DispatchClass) (eligible : Nat → Bool) : Scheduler Visit := do
  let p ← self
  if p.classHasEligible c eligible then do
    openClassVisit c
    let index ← prepareSlotInClass c eligible
    judgeVisit c index eligible
  else do
    update (advanceClassVisit c)
    pure .passed

def passFrom (eligible : Nat → Bool) : Nat → Option (DispatchClass × Nat) → Scheduler (Option Nat)
  | 0, none => pure none
  | 0, some (c, index) => do
    let index ← commitClassService c index eligible
    pure (some index)
  | n + 1, fallback => do
    let p ← self
    let visit ← visitClass p.classCursor eligible
    match visit with
    | .passed => passFrom eligible n fallback
    | .yielded index => passFrom eligible n (some (p.classCursor, index))
    | .ready index => do
      let index ← commitClassService p.classCursor index eligible
      pure (some index)

def selectHierarchicalPass (eligible : Nat → Bool) : Scheduler (Option Nat) := passFrom eligible 4 none

/-! ### Fast-forward -/

def visitsFor (p : DispatchPolicy) (c : DispatchClass) (index : Nat) : Except DispatcherError Nat := do
  let cost ← p.slotCost index
  let missing ← subU64 cost (p.classDeficit c) .stateInconsistent
  rejectIf (missing = 0) .stateInconsistent
  let n ← addU64 missing ((p.classes c).quantum - 1) .counterOverflow
  pure (n / (p.classes c).quantum)

def visitsUntilService (eligible : Nat → Bool) : List DispatchClass → Option Nat → Scheduler (Option Nat)
  | [], least => pure least
  | c :: rest, least => do
    let p ← self
    if p.classHasEligible c eligible then do
      let index ← prepareSlotInClass c eligible
      let p ← self
      let visits ← lift (p.visitsFor c index)
      visitsUntilService eligible rest (some (least.elim visits fun current => min current visits))
    else visitsUntilService eligible rest least

def creditEmptyRounds (rounds : Nat) (eligible : Nat → Bool) : List DispatchClass → Scheduler Unit
  | [] => pure ()
  | c :: rest => do
    let p ← self
    if p.classHasEligible c eligible then do
      lift (rejectIf (u64Max < rounds * (p.classes c).quantum) .counterOverflow)
      let deficit ← lift (addU64 (p.classDeficit c) (rounds * (p.classes c).quantum) .counterOverflow)
      update (setClassDeficit c (min deficit maxDeficit))
      creditEmptyRounds rounds eligible rest
    else creditEmptyRounds rounds eligible rest

def fastForwardEmptyClassRounds (eligible : Nat → Bool) : Scheduler Unit := do
  let p ← self
  lift (rejectIf (p.classVisitOpen = true) .stateInconsistent)
  let least ← visitsUntilService eligible DispatchClass.all none
  let visits ← lift (okOr least .stateInconsistent)
  let emptyRounds ← lift (subU64 visits 1 .stateInconsistent)
  if emptyRounds = 0 then pure () else creditEmptyRounds emptyRounds eligible DispatchClass.all

def selectHierarchical (eligible : Nat → Bool) : Scheduler Nat := do
  let first ← selectHierarchicalPass eligible
  match first with
  | some index => pure index
  | none => do
    fastForwardEmptyClassRounds eligible
    let second ← selectHierarchicalPass eligible
    lift (okOr second .stateInconsistent)

def selectDirect (eligible : Nat → Bool) : Scheduler Nat := do
  let p ← self
  let index ← lift (okOr ((p.rotation p.directCursor).find? eligible) .stateInconsistent)
  update fun p => { p with directCursor := (index + 1) % p.slots.length }
  pure index

/-! ### Selection -/

structure Readiness where
  ready : Nat → Bool
  seen : Nat → Bool

def readinessStep (p : DispatchPolicy) (r : Readiness) (input : DispatchReadiness) : Except DispatcherError Readiness := do
  let index ← okOr (p.slots.findIdx? fun slot => decide (slot.mailbox = input.mailbox)) .unknownMailbox
  rejectIf (r.seen index = true) .duplicateReadinessHint
  rejectIf (input.head.hint.any (fun hint => decide (hint.mailbox ≠ input.mailbox)) = true) .readinessMailboxMismatch
  pure ⟨Function.update r.ready index input.head.isDispatchable, Function.update r.seen index true⟩

def validateReadiness (p : DispatchPolicy) (readiness : List DispatchReadiness) :
    Except DispatcherError (Nat → Bool) := do
  rejectIf (maxDispatchSlots < readiness.length) .tooManyReadinessHints
  let r ← scan p.readinessStep ⟨fun _ => false, fun _ => false⟩ readiness
  pure r.ready

def eligibleWith (p : DispatchPolicy) (permits : DomainPermitLedger) (ready : Nat → Bool) (index : Nat) : Bool :=
  ready index && p.slots[index]?.any fun slot => permits.canAcquire slot.slotClass

def select (eligible : Nat → Bool) : Scheduler (Nat × SelectionPath) := do
  let p ← self
  if p.directScan then do
    let index ← selectDirect eligible
    pure (index, .directScan)
  else do
    let index ← selectHierarchical eligible
    pure (index, .hierarchicalDeficit)

end DispatchPolicy

structure Dispatcher where
  policy : DispatchPolicy
  permits : DomainPermitLedger

namespace DispatchPolicy

def onPolicy {α : Type} (x : Scheduler α) : Stateful Dispatcher DispatcherError α := fun d =>
  ((x d.policy).1, { d with policy := (x d.policy).2 })

def onPermits {α : Type} (x : Stateful DomainPermitLedger PermitError α) : Stateful Dispatcher DispatcherError α := fun d =>
  (wrapErr .permit (x d.permits).1, { d with permits := (x d.permits).2 })

def anyIndex (p : DispatchPolicy) (test : Nat → Bool) : Bool := (List.range p.slots.length).any test

def selectAndAcquire (eligible : Nat → Bool) : Stateful Dispatcher DispatcherError DispatchDecision := do
  let chosen ← onPolicy (select eligible)
  let d ← self
  let slot ← lift (okOr d.policy.slots[chosen.1]? .stateInconsistent)
  let token ← onPermits (DomainPermitLedger.tryAcquire slot.slotClass)
  let permit ← lift (okOr token .permitStateChanged)
  pure (.selected ⟨⟨slot.mailbox, slot.slotClass, slot.cost, chosen.2⟩, permit⟩)

def trySelectAndAcquire (readiness : List DispatchReadiness) : Stateful Dispatcher DispatcherError DispatchDecision := do
  let d ← self
  let ready ← lift (d.policy.validateReadiness readiness)
  if d.policy.anyIndex ready then
    if d.policy.anyIndex (d.policy.eligibleWith d.permits ready) then
      selectAndAcquire (d.policy.eligibleWith d.permits ready)
    else pure (.idle .noDomainPermit)
  else pure (.idle .noReadyMailbox)

end DispatchPolicy
end Dispatch
end ParaEgox
