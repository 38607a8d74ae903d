import ParaEgox.Assignment
import ParaEgox.Checked
import ParaEgox.Indexed
import ParaEgox.Keyed
import ParaEgox.Time

/-!
# Mailbox — bounded target-mailbox state transitions

The single-owner mailbox: a FIFO queue with five overflow policies, an in-flight ledger keyed by message identity, and
cumulative offer and terminal counters.  Callers supply every clock reading.  Counters and sizes are natural numbers with
the checks of the source's `u32` and `u64`; index lists are kept in ascending order, so that a binary search in one is
membership.
-/
namespace ParaEgox
namespace Mailbox

open Check Indexed

/-! ## Messages -/

structure PayloadHandle where
  bytes : Bytes
  fits : bytes.length ≤ u64Max
  deriving DecidableEq

def PayloadHandle.chargedBytes (p : PayloadHandle) : Nat := p.bytes.length

inductive MessageClass
  | signal
  | event
  | command
  deriving DecidableEq

def MessageClass.fromInteraction : InteractionKind → MessageClass
  | .signal => signal
  | .event => event

structure ValidatedMessage where
  id : Ref16
  schema : SchemaRef
  messageClass : MessageClass
  coalesceKey : Option Ref16
  freshUntil : MonotonicDeadline
  runDeadline : MonotonicDeadline
  payload : PayloadHandle
  deriving DecidableEq

def ValidatedMessage.charged (m : ValidatedMessage) : Nat := m.payload.chargedBytes

inductive RejectionReason
  | schemaMismatch
  | interactionMismatch
  | duplicateActiveMessage
  | payloadTooLarge
  | missingCoalesceKey
  | capacityFull
  | retainedCapacityFull
  deriving DecidableEq

inductive TerminalReason
  | completed
  | failed
  | cancelled
  | expiredAfterAdmission
  | staleBeforeRun
  | runDeadlineExpired
  | queueAgeExpired
  | evicted
  | coalesced
  | uncertain
  deriving DecidableEq

def TerminalReason.isInflightCompletion : TerminalReason → Bool
  | completed | failed | cancelled | expiredAfterAdmission | staleBeforeRun | runDeadlineExpired | uncertain => true
  | queueAgeExpired | evicted | coalesced => false

structure TerminalRecord where
  messageId : Ref16
  reason : TerminalReason
  releasedBytes : Nat
  deriving DecidableEq

inductive EnqueueOutcome
  | admitted
  | rejected (reason : RejectionReason) (message : ValidatedMessage)
  | expiredBeforeAdmission (message : ValidatedMessage)
  | closed (message : ValidatedMessage)
  | wouldBlock (message : ValidatedMessage) (deadline : MonotonicDeadline)
  deriving DecidableEq

structure OfferReport where
  outcome : EnqueueOutcome
  terminals : List TerminalRecord
  deriving DecidableEq

inductive MailboxError
  | invalidMailboxSpec
  | unsupportedInteractionPolicy
  | clockDomainMismatch
  | clockGenerationMismatch
  | deadlineOverflow
  | counterOverflow
  | stateInconsistent
  | invalidTerminalReason
  | inflightTokenMismatch
  | abandonRequiresDraining
  | cancelRequiresDraining
  deriving DecidableEq

structure OfferFailure where
  error : MailboxError
  message : ValidatedMessage
  deriving DecidableEq

inductive MailboxLifecycle
  | accepting
  | draining
  | closed
  deriving DecidableEq

/-! ## Counters -/

inductive OfferCategory
  | admitted
  | rejected
  | closed
  | expiredBeforeAdmission
  deriving DecidableEq

structure OfferCounters where
  offered : Nat
  admitted : Nat
  rejected : Nat
  closed : Nat
  expiredBeforeAdmission : Nat

namespace OfferCounters

def zero : OfferCounters := ⟨0, 0, 0, 0, 0⟩

def count (c : OfferCounters) : OfferCategory → Except MailboxError OfferCounters
  | .admitted => do let n ← addU64 c.admitted 1 .counterOverflow; pure { c with admitted := n }
  | .rejected => do let n ← addU64 c.rejected 1 .counterOverflow; pure { c with rejected := n }
  | .closed => do let n ← addU64 c.closed 1 .counterOverflow; pure { c with closed := n }
  | .expiredBeforeAdmission => do
    let n ← addU64 c.expiredBeforeAdmission 1 .counterOverflow
    pure { c with expiredBeforeAdmission := n }

def checkedTerminal (c : OfferCounters) (category : OfferCategory) : Except MailboxError OfferCounters := do
  let offered ← addU64 c.offered 1 .counterOverflow
  count { c with offered := offered } category

def validate (c : OfferCounters) : Except MailboxError Unit := do
  let total ← sumU64 .stateInconsistent [c.admitted, c.rejected, c.closed, c.expiredBeforeAdmission]
  rejectIf (total ≠ c.offered) .stateInconsistent

end OfferCounters

structure TerminalCounters where
  completed : Nat
  failed : Nat
  cancelled : Nat
  expiredAfterAdmission : Nat
  staleBeforeRun : Nat
  runDeadlineExpired : Nat
  queueAgeExpired : Nat
  evicted : Nat
  coalesced : Nat
  uncertain : Nat

namespace TerminalCounters

def zero : TerminalCounters := ⟨0, 0, 0, 0, 0, 0, 0, 0, 0, 0⟩

def get (c : TerminalCounters) : TerminalReason → Nat
  | .completed => c.completed
  | .failed => c.failed
  | .cancelled => c.cancelled
  | .expiredAfterAdmission => c.expiredAfterAdmission
  | .staleBeforeRun => c.staleBeforeRun
  | .runDeadlineExpired => c.runDeadlineExpired
  | .queueAgeExpired => c.queueAgeExpired
  | .evicted => c.evicted
  | .coalesced => c.coalesced
  | .uncertain => c.uncertain

def set (c : TerminalCounters) (n : Nat) : TerminalReason → TerminalCounters
  | .completed => { c with completed := n }
  | .failed => { c with failed := n }
  | .cancelled => { c with cancelled := n }
  | .expiredAfterAdmission => { c with expiredAfterAdmission := n }
  | .staleBeforeRun => { c with staleBeforeRun := n }
  | .runDeadlineExpired => { c with runDeadlineExpired := n }
  | .queueAgeExpired => { c with queueAgeExpired := n }
  | .evicted => { c with evicted := n }
  | .coalesced => { c with coalesced := n }
  | .uncertain => { c with uncertain := n }

def checkedIncrement (c : TerminalCounters) (reason : TerminalReason) : Except MailboxError TerminalCounters := do
  let n ← addU64 (c.get reason) 1 .counterOverflow
  pure (c.set n reason)

def checkedIncrementRecords (c : TerminalCounters) (records : List TerminalRecord) :
    Except MailboxError TerminalCounters :=
  scan (fun c r => c.checkedIncrement r.reason) c records

def values (c : TerminalCounters) : List Nat :=
  [c.completed, c.failed, c.cancelled, c.expiredAfterAdmission, c.staleBeforeRun, c.runDeadlineExpired,
    c.queueAgeExpired, c.evicted, c.coalesced, c.uncertain]

def total (c : TerminalCounters) : Except MailboxError Nat := sumU64 .stateInconsistent c.values

end TerminalCounters

/-! ## The mailbox -/

structure QueuedMessage where
  message : ValidatedMessage
  queueAgeDeadline : MonotonicDeadline

structure InflightAccounting where
  messageId : Ref16
  tokenGeneration : Nat
  payloadBytes : Nat

structure InflightToken where
  mailbox : Ref16
  tokenGeneration : Nat
  message : ValidatedMessage

inductive DispatchOutcome
  | started (token : InflightToken)
  | noQueuedMessage
  | noPermit
  | closed

structure DispatchReport where
  outcome : DispatchOutcome
  expired : List TerminalRecord

structure FinishFailure where
  error : MailboxError
  token : InflightToken

end Mailbox

open Mailbox in
structure Mailbox where
  reference : Ref16
  schema : SchemaRef
  messageClass : MessageClass
  clockDomain : Ref16
  clockGeneration : Nat
  limits : MailboxSpec
  lifecycle : MailboxLifecycle
  queue : List QueuedMessage
  inflight : List InflightAccounting
  queuedBytes : Nat
  inflightBytes : Nat
  nextTokenGeneration : Nat
  offers : OfferCounters
  terminals : TerminalCounters

namespace Mailbox

open Check Indexed

def policyAllowed : MessageClass → OverflowPolicy → Bool
  | .signal, _ => true
  | .event, .rejectNew | .event, .blockUntilDeadline | .command, .rejectNew => true
  | .event, _ | .command, _ => false

def tryNewWithClass (reference : Ref16) (schema : SchemaRef) (messageClass : MessageClass) (spec : MailboxSpec)
    (clockDomain : Ref16) (clockGeneration : Nat) : Except MailboxError Mailbox := do
  rejectIf (spec.capacityItems = 0 ∨ spec.capacityBytes = 0 ∨ spec.maxInflight = 0 ∨ spec.maxRetainedBytes = 0)
    .invalidMailboxSpec
  rejectIf (¬ policyAllowed messageClass spec.overflow) .unsupportedInteractionPolicy
  pure ⟨reference, schema, messageClass, clockDomain, clockGeneration, spec, .accepting, [], [], 0, 0, 0, .zero, .zero⟩

def tryNew (reference : Ref16) (schema : SchemaRef) (interaction : InteractionKind) (spec : MailboxSpec)
    (clockDomain : Ref16) (clockGeneration : Nat) : Except MailboxError Mailbox :=
  tryNewWithClass reference schema (.fromInteraction interaction) spec clockDomain clockGeneration

def mailboxTimeError : TimeError → MailboxError
  | .clockDomainMismatch => .clockDomainMismatch
  | .clockGenerationMismatch => .clockGenerationMismatch
  | .deadlineOverflow => .deadlineOverflow
  | .invalidClockGeneration => .stateInconsistent

/-! ## Validation -/

def ownClock (m : Mailbox) (d : MonotonicDeadline) : Prop := d.domain = m.clockDomain ∧ d.generation = m.clockGeneration

instance (m : Mailbox) (d : MonotonicDeadline) : Decidable (m.ownClock d) := by
  unfold ownClock
  infer_instance

def insertActive (active : List Ref16) (id : Ref16) : Except MailboxError (List Ref16) := do
  rejectIf (id ∈ active) .stateInconsistent
  pure (id :: active)

def activateQueued (m : Mailbox) (active : List Ref16) (item : QueuedMessage) : Except MailboxError (List Ref16) := do
  rejectIf (¬ m.ownClock item.queueAgeDeadline ∨ ¬ m.ownClock item.message.freshUntil
    ∨ ¬ m.ownClock item.message.runDeadline) .stateInconsistent
  insertActive active item.message.id

def validateState (m : Mailbox) : Except MailboxError Unit := do
  m.offers.validate
  let queuedItems ← toU32 m.queue.length .stateInconsistent
  let inflightItems ← toU32 m.inflight.length .stateInconsistent
  rejectIf (m.limits.capacityItems < queuedItems ∨ m.limits.maxInflight < inflightItems
    ∨ m.limits.capacityBytes < m.queuedBytes) .stateInconsistent
  let recomputedQueued ← sumU64 .stateInconsistent (m.queue.map (·.message.charged))
  let recomputedInflight ← sumU64 .stateInconsistent (m.inflight.map (·.payloadBytes))
  rejectIf (recomputedQueued ≠ m.queuedBytes ∨ recomputedInflight ≠ m.inflightBytes) .stateInconsistent
  let retained ← addU64 m.queuedBytes m.inflightBytes .stateInconsistent
  rejectIf (m.limits.maxRetainedBytes < retained) .stateInconsistent
  let active ← scan (m.activateQueued) [] m.queue
  let _ ← scan insertActive active (m.inflight.map (·.messageId))
  let activeCount ← addU64 queuedItems inflightItems .stateInconsistent
  let total ← m.terminals.total
  let admittedAccounted ← addU64 activeCount total .stateInconsistent
  rejectIf (admittedAccounted ≠ m.offers.admitted) .stateInconsistent
  rejectIf (m.lifecycle = .closed ∧ activeCount ≠ 0) .stateInconsistent

/-! ## Expiry and removal by index -/

def closeIfDrainedInternal (m : Mailbox) : Mailbox :=
  if m.lifecycle = .draining ∧ m.queue = [] ∧ m.inflight = [] then { m with lifecycle := .closed } else m

def ensureReading (m : Mailbox) (reading : ClockReading) : Except MailboxError Unit := do
  rejectIf (reading.domain ≠ m.clockDomain) .clockDomainMismatch
  rejectIf (reading.generation ≠ m.clockGeneration) .clockGenerationMismatch

/-- The earliest bound of a queued message and the reason it stands for; the run deadline wins at an equal boundary. -/
def earliestBound (item : QueuedMessage) : MonotonicDeadline × TerminalReason :=
  let run := item.message.runDeadline.deadline
  let fresh := item.message.freshUntil.deadline
  let queueAge := item.queueAgeDeadline.deadline
  if run ≤ fresh ∧ run ≤ queueAge then (item.message.runDeadline, .runDeadlineExpired)
  else if fresh ≤ queueAge then (item.message.freshUntil, .staleBeforeRun)
  else (item.queueAgeDeadline, .queueAgeExpired)

def expirationReason (item : QueuedMessage) (reading : ClockReading) : Except MailboxError (Option TerminalReason) := do
  let expired ← wrapErr mailboxTimeError ((earliestBound item).1.isExpiredAt reading)
  pure (if expired then some (earliestBound item).2 else none)

/-- The expired items of a queue whose front has index `i`. -/
def expiredFrom (reading : ClockReading) : Nat → List QueuedMessage → Except MailboxError (List (Nat × TerminalReason))
  | _, [] => .ok []
  | i, item :: rest => do
    let reason ← expirationReason item reading
    let later ← expiredFrom reading (i + 1) rest
    pure ((reason.map fun r => (i, r)).toList ++ later)

def expiredItems (m : Mailbox) (reading : ClockReading) : Except MailboxError (List (Nat × TerminalReason)) :=
  expiredFrom reading 0 m.queue

def indicesForExpiredItems (items : List (Nat × TerminalReason)) : List Nat := items.map (·.1)

def terminalOf (item : QueuedMessage) (reason : TerminalReason) : TerminalRecord :=
  ⟨item.message.id, reason, item.message.charged⟩

def recordsForExpiredItems (m : Mailbox) (items : List (Nat × TerminalReason)) : List TerminalRecord :=
  items.filterMap fun x => m.queue[x.1]?.map fun item => terminalOf item x.2

def liveIndicesExcluding (m : Mailbox) (excluded : List Nat) : List Nat :=
  (List.range m.queue.length).filter fun i => decide (i ∉ excluded)

def recordsForIndices (m : Mailbox) (indices : List Nat) (reason : TerminalReason) : List TerminalRecord :=
  (pick indices m.queue).map fun item => terminalOf item reason

def bytesForIndices (m : Mailbox) (indices : List Nat) : Except MailboxError Nat :=
  sumU64 .counterOverflow ((pick indices m.queue).map (·.message.charged))

def removeQueueIndices (m : Mailbox) (indices : List Nat) : List QueuedMessage :=
  rotateOut indices m.queue.length 0 m.queue

/-! ## Offers -/

inductive PlannedOffer
  | accept
  | rejected (reason : RejectionReason)
  | expiredBeforeAdmission
  | wouldBlock
  deriving DecidableEq

def PlannedOffer.offerCategory : PlannedOffer → OfferCategory
  | accept => .admitted
  | rejected _ | wouldBlock => .rejected
  | expiredBeforeAdmission => .expiredBeforeAdmission

structure CapacityFit where
  items : Bool
  queuedBytes : Bool
  retainedBytes : Bool

def CapacityFit.isFullFit (f : CapacityFit) : Bool := f.items && f.queuedBytes && f.retainedBytes

def CapacityFit.rejectionReason (f : CapacityFit) : RejectionReason :=
  if !f.items || !f.queuedBytes then .capacityFull else .retainedCapacityFull

def fitAfterRemoving (m : Mailbox) (expired displaced : List Nat) (incomingBytes : Nat) :
    Except MailboxError CapacityFit := do
  let removed := sortDedup (expired ++ displaced)
  let removedBytes ← m.bytesForIndices removed
  let remaining ← subU64 m.queue.length removed.length .counterOverflow
  let queuedItems ← toU32 (remaining + 1) .counterOverflow
  let kept ← subU64 m.queuedBytes removedBytes .counterOverflow
  let queuedBytes ← addU64 kept incomingBytes .counterOverflow
  let retainedBytes ← addU64 queuedBytes m.inflightBytes .counterOverflow
  pure ⟨queuedItems ≤ m.limits.capacityItems, queuedBytes ≤ m.limits.capacityBytes,
    retainedBytes ≤ m.limits.maxRetainedBytes⟩

def firstDecision (m : Mailbox) (message : ValidatedMessage) (expired duplicate : Bool) : PlannedOffer :=
  if expired then .expiredBeforeAdmission
  else if message.schema ≠ m.schema then .rejected .schemaMismatch
  else if message.messageClass ≠ m.messageClass then .rejected .interactionMismatch
  else if duplicate then .rejected .duplicateActiveMessage
  else if m.limits.capacityBytes < message.charged ∨ m.limits.maxRetainedBytes < message.charged then
    .rejected .payloadTooLarge
  else if m.limits.overflow = .coalesceByKey ∧ message.coalesceKey = none then .rejected .missingCoalesceKey
  else .accept

structure OfferDecision where
  planned : PlannedOffer
  displaced : List Nat
  reason : TerminalReason

def firstDisplaced (m : Mailbox) (message : ValidatedMessage) (live : List Nat) : List Nat × TerminalReason :=
  match m.limits.overflow with
  | .latest => (live, .evicted)
  | .coalesceByKey =>
    match live.reverse.find? fun i => m.queue[i]?.any fun item => item.message.coalesceKey = message.coalesceKey with
    | some i => ([i], .coalesced)
    | none => ([], .evicted)
  | .rejectNew | .dropOldest | .blockUntilDeadline => ([], .evicted)

def dropOldest (m : Mailbox) (expired : List Nat) (incomingBytes : Nat) :
    List Nat → List Nat → Except MailboxError (List Nat)
  | displaced, [] => .ok displaced
  | displaced, i :: rest =>
    if i ∈ displaced then dropOldest m expired incomingBytes displaced rest
    else do
      let displaced := (displaced ++ [i]).insertionSort (· ≤ ·)
      let fit ← m.fitAfterRemoving expired displaced incomingBytes
      if fit.isFullFit then pure displaced else dropOldest m expired incomingBytes displaced rest

def finalFit (m : Mailbox) (expired displaced : List Nat) (reason : TerminalReason) (incomingBytes : Nat) :
    Except MailboxError OfferDecision := do
  let fit ← m.fitAfterRemoving expired displaced incomingBytes
  pure (if fit.isFullFit then ⟨.accept, displaced, reason⟩ else ⟨.rejected fit.rejectionReason, [], reason⟩)

def relieve (m : Mailbox) (expired live displaced : List Nat) (reason : TerminalReason) (initialFit : CapacityFit)
    (incomingBytes : Nat) : Except MailboxError OfferDecision :=
  match m.limits.overflow with
  | .rejectNew => .ok ⟨.rejected initialFit.rejectionReason, displaced, reason⟩
  | .blockUntilDeadline => .ok ⟨.wouldBlock, displaced, reason⟩
  | .dropOldest => do
    let displaced ← m.dropOldest expired incomingBytes displaced live
    m.finalFit expired displaced reason incomingBytes
  | .latest | .coalesceByKey => m.finalFit expired displaced reason incomingBytes

def placeOffer (m : Mailbox) (message : ValidatedMessage) (expired live : List Nat) :
    Except MailboxError OfferDecision := do
  let first := m.firstDisplaced message live
  let initialFit ← m.fitAfterRemoving expired first.1 message.charged
  if initialFit.isFullFit then pure ⟨.accept, first.1, first.2⟩
  else m.relieve expired live first.1 first.2 initialFit message.charged

def decideOffer (m : Mailbox) (message : ValidatedMessage) (tooLate : Bool) (expired live : List Nat) :
    Except MailboxError OfferDecision :=
  let duplicate := m.inflight.any (·.messageId = message.id)
    || live.any fun i => m.queue[i]?.any fun item => item.message.id = message.id
  match m.firstDecision message tooLate duplicate with
  | .accept => m.placeOffer message expired live
  | planned => .ok ⟨planned, [], .evicted⟩

structure OfferCommit where
  planned : PlannedOffer
  queueAgeDeadline : MonotonicDeadline
  removed : List Nat
  queuedBytes : Nat
  offers : OfferCounters
  terminals : TerminalCounters
  records : List TerminalRecord

def chargeIfAccepted (planned : PlannedOffer) (queuedBytes incomingBytes : Nat) : Except MailboxError Nat :=
  if planned = .accept then addU64 queuedBytes incomingBytes .counterOverflow else .ok queuedBytes

def planOffer (m : Mailbox) (message : ValidatedMessage) (reading : ClockReading) : Except MailboxError OfferCommit := do
  m.ensureReading reading
  let freshness ← wrapErr mailboxTimeError (message.freshUntil.isExpiredAt reading)
  let run ← wrapErr mailboxTimeError (message.runDeadline.isExpiredAt reading)
  let queueAgeDeadline ← wrapErr mailboxTimeError (reading.tryDeadlineAfter m.limits.maxQueueAge)
  let queueAge ← wrapErr mailboxTimeError (queueAgeDeadline.isExpiredAt reading)
  let items ← m.expiredItems reading
  let expired := indicesForExpiredItems items
  let expiredRecords := m.recordsForExpiredItems items
  let terminals ← m.terminals.checkedIncrementRecords expiredRecords
  let decision ← m.decideOffer message (freshness || run || queueAge) expired (m.liveIndicesExcluding expired)
  let displacedRecords := m.recordsForIndices decision.displaced decision.reason
  let terminals ← terminals.checkedIncrementRecords displacedRecords
  let offers ← m.offers.checkedTerminal decision.planned.offerCategory
  let removed := sortDedup (expired ++ decision.displaced)
  let removedBytes ← m.bytesForIndices removed
  let kept ← subU64 m.queuedBytes removedBytes .stateInconsistent
  let queuedBytes ← chargeIfAccepted decision.planned kept message.charged
  pure ⟨decision.planned, queueAgeDeadline, removed, queuedBytes, offers, terminals, expiredRecords ++ displacedRecords⟩

def retryDeadline (message : ValidatedMessage) : MonotonicDeadline :=
  if message.freshUntil.deadline ≤ message.runDeadline.deadline then message.freshUntil else message.runDeadline

def offerOutcome (message : ValidatedMessage) : PlannedOffer → EnqueueOutcome
  | .accept => .admitted
  | .rejected reason => .rejected reason message
  | .expiredBeforeAdmission => .expiredBeforeAdmission message
  | .wouldBlock => .wouldBlock message (retryDeadline message)

def enqueued (planned : PlannedOffer) (item : QueuedMessage) (queue : List QueuedMessage) : List QueuedMessage :=
  if planned = .accept then queue ++ [item] else queue

def commitOffer (m : Mailbox) (message : ValidatedMessage) (plan : OfferCommit) : Mailbox :=
  { m with
    queue := enqueued plan.planned ⟨message, plan.queueAgeDeadline⟩ (m.removeQueueIndices plan.removed)
    queuedBytes := plan.queuedBytes
    offers := plan.offers
    terminals := plan.terminals }

def offerClosed (m : Mailbox) (message : ValidatedMessage) : Except OfferFailure OfferReport × Mailbox :=
  match m.offers.checkedTerminal .closed with
  | .ok offers => (.ok ⟨.closed message, []⟩, { m with offers := offers })
  | .error e => (.error ⟨e, message⟩, m)

def offerOpen (m : Mailbox) (message : ValidatedMessage) (reading : ClockReading) :
    Except OfferFailure OfferReport × Mailbox :=
  match m.planOffer message reading with
  | .ok plan => (.ok ⟨offerOutcome message plan.planned, plan.records⟩, m.commitOffer message plan)
  | .error e => (.error ⟨e, message⟩, m)

/-- `try_offer`: the result and the mailbox the call leaves. -/
def tryOffer (m : Mailbox) (message : ValidatedMessage) (reading : ClockReading) :
    Except OfferFailure OfferReport × Mailbox :=
  match m.validateState with
  | .error e => (.error ⟨e, message⟩, m)
  | .ok () => if m.lifecycle ≠ .accepting then m.offerClosed message else m.offerOpen message reading

/-! ## Dispatch -/

/-- The head of the queue joins the in-flight ledger: the last checks are made on a mailbox already relieved of its
expired messages. -/
def startHead (m : Mailbox) (tokenGeneration : Nat) (expired : List TerminalRecord) :
    Except MailboxError DispatchReport × Mailbox :=
  match m.queue with
  | [] => (.error .stateInconsistent, m)
  | item :: rest =>
    -- the head is popped before its accounting is checked
    let popped := { m with queue := rest }
    let bytes := item.message.charged
    if m.queuedBytes < bytes then (.error .stateInconsistent, popped)
    else if u64Max < m.inflightBytes + bytes then (.error .counterOverflow, popped)
    else if m.inflight.any (·.messageId = item.message.id) then (.error .stateInconsistent, popped)
    else (.ok ⟨.started ⟨m.reference, tokenGeneration, item.message⟩, expired⟩,
      { popped with
        queuedBytes := m.queuedBytes - bytes
        inflightBytes := m.inflightBytes + bytes
        nextTokenGeneration := tokenGeneration
        inflight := Keyed.insert InflightAccounting.messageId ⟨item.message.id, tokenGeneration, bytes⟩ m.inflight })

structure DispatchPlan where
  expired : List Nat
  records : List TerminalRecord
  terminals : TerminalCounters
  queuedBytes : Nat
  remainingItems : Nat
  tokenGeneration : Option Nat

def nextToken (m : Mailbox) (remainingItems inflightItems : Nat) : Except MailboxError (Option Nat) :=
  if 0 < remainingItems ∧ inflightItems < m.limits.maxInflight then do
    let generation ← addU64 m.nextTokenGeneration 1 .counterOverflow
    pure (some generation)
  else .ok none

def planDispatch (m : Mailbox) (reading : ClockReading) : Except MailboxError DispatchPlan := do
  m.ensureReading reading
  let items ← m.expiredItems reading
  let expired := indicesForExpiredItems items
  let records := m.recordsForExpiredItems items
  let terminals ← m.terminals.checkedIncrementRecords records
  let removedBytes ← m.bytesForIndices expired
  let queuedBytes ← subU64 m.queuedBytes removedBytes .stateInconsistent
  let remainingItems ← subU64 m.queue.length expired.length .stateInconsistent
  let inflightItems ← toU32 m.inflight.length .stateInconsistent
  let tokenGeneration ← m.nextToken remainingItems inflightItems
  pure ⟨expired, records, terminals, queuedBytes, remainingItems, tokenGeneration⟩

def relieved (m : Mailbox) (expired : List Nat) (queuedBytes : Nat) (terminals : TerminalCounters) : Mailbox :=
  { m with queue := m.removeQueueIndices expired, queuedBytes := queuedBytes, terminals := terminals }

def drainedOutcome (m : Mailbox) : DispatchOutcome :=
  if m.lifecycle = .closed then .closed else .noQueuedMessage

def commitDispatch (m : Mailbox) (plan : DispatchPlan) : Except MailboxError DispatchReport × Mailbox :=
  let m' := m.relieved plan.expired plan.queuedBytes plan.terminals
  match plan.tokenGeneration with
  | some generation => m'.startHead generation plan.records
  | none =>
    if plan.remainingItems = 0 then
      (.ok ⟨m'.closeIfDrainedInternal.drainedOutcome, plan.records⟩, m'.closeIfDrainedInternal)
    else (.ok ⟨.noPermit, plan.records⟩, m')

def tryBeginInflight (m : Mailbox) (reading : ClockReading) : Except MailboxError DispatchReport × Mailbox :=
  match m.validateState with
  | .error e => (.error e, m)
  | .ok () =>
    if m.lifecycle = .closed then (.ok ⟨.closed, []⟩, m)
    else match m.planDispatch reading with
      | .error e => (.error e, m)
      | .ok plan => m.commitDispatch plan

/-! ## Head readiness -/

structure MailboxHeadHint where
  mailbox : Ref16
  messageId : Ref16
  chargedBytes : Nat
  freshUntil : MonotonicDeadline
  runDeadline : MonotonicDeadline
  queueAgeDeadline : MonotonicDeadline

inductive MailboxHeadReadiness
  | ready (hint : MailboxHeadHint)
  | expired (hint : MailboxHeadHint) (reason : TerminalReason)
  | empty
  | noPermit (hint : MailboxHeadHint)
  | closed

def headHint (m : Mailbox) (item : QueuedMessage) : MailboxHeadHint :=
  ⟨m.reference, item.message.id, item.message.charged, item.message.freshUntil, item.message.runDeadline,
    item.queueAgeDeadline⟩

def permitReadiness (m : Mailbox) (item : QueuedMessage) : Except MailboxError MailboxHeadReadiness := do
  let inflightItems ← toU32 m.inflight.length .stateInconsistent
  pure (if m.limits.maxInflight ≤ inflightItems then .noPermit (m.headHint item) else .ready (m.headHint item))

def itemReadiness (m : Mailbox) (item : QueuedMessage) (reading : ClockReading) :
    Except MailboxError MailboxHeadReadiness := do
  let reason ← expirationReason item reading
  match reason with
  | some r => pure (.expired (m.headHint item) r)
  | none => m.permitReadiness item

def openReadiness (m : Mailbox) (reading : ClockReading) : Except MailboxError MailboxHeadReadiness := do
  m.ensureReading reading
  match m.queue with
  | [] => pure .empty
  | item :: _ => m.itemReadiness item reading

def headReadiness (m : Mailbox) (reading : ClockReading) : Except MailboxError MailboxHeadReadiness := do
  m.validateState
  if m.lifecycle = .closed then pure .closed else m.openReadiness reading

/-! ## Terminals -/

def planFinish (m : Mailbox) (token : InflightToken) (reason : TerminalReason) :
    Except MailboxError (TerminalCounters × Nat) := do
  rejectIf (reason.isInflightCompletion = false) .invalidTerminalReason
  rejectIf (token.mailbox ≠ m.reference) .inflightTokenMismatch
  let accounting ← okOr (Keyed.find InflightAccounting.messageId token.message.id m.inflight) .inflightTokenMismatch
  rejectIf (accounting.tokenGeneration ≠ token.tokenGeneration ∨ accounting.payloadBytes ≠ token.message.charged)
    .inflightTokenMismatch
  let terminals ← m.terminals.checkedIncrement reason
  let inflightBytes ← subU64 m.inflightBytes accounting.payloadBytes .stateInconsistent
  pure (terminals, inflightBytes)

def released (m : Mailbox) (id : Ref16) (terminals : TerminalCounters) (inflightBytes : Nat) : Mailbox :=
  { m with
    inflight := m.inflight.filter fun a => decide (a.messageId ≠ id)
    inflightBytes := inflightBytes
    terminals := terminals }

def finish (m : Mailbox) (token : InflightToken) (reason : TerminalReason) :
    Except FinishFailure TerminalRecord × Mailbox :=
  match m.validateState with
  | .error e => (.error ⟨e, token⟩, m)
  | .ok () =>
    match m.planFinish token reason with
    | .error e => (.error ⟨e, token⟩, m)
    | .ok (terminals, inflightBytes) =>
      (.ok ⟨token.message.id, reason, token.message.charged⟩,
        (m.released token.message.id terminals inflightBytes).closeIfDrainedInternal)

def abandonedRecords (m : Mailbox) : List TerminalRecord :=
  m.inflight.map fun a => ⟨a.messageId, .uncertain, a.payloadBytes⟩

def abandonAllInflightUncertain (m : Mailbox) : Except MailboxError (List TerminalRecord) × Mailbox :=
  match m.validateState with
  | .error e => (.error e, m)
  | .ok () =>
    if m.lifecycle = .accepting then (.error .abandonRequiresDraining, m)
    else match m.terminals.checkedIncrementRecords m.abandonedRecords with
      | .error e => (.error e, m)
      | .ok terminals =>
        (.ok m.abandonedRecords,
          { m with inflight := [], inflightBytes := 0, terminals := terminals }.closeIfDrainedInternal)

def stopAccepting (m : Mailbox) : Except MailboxError Unit × Mailbox :=
  match m.validateState with
  | .error e => (.error e, m)
  | .ok () =>
    (.ok (), (if m.lifecycle = .accepting then { m with lifecycle := .draining } else m).closeIfDrainedInternal)

def cancelledRecords (m : Mailbox) : List TerminalRecord :=
  m.recordsForIndices (List.range m.queue.length) .cancelled

def cancelAllQueued (m : Mailbox) : Except MailboxError (List TerminalRecord) × Mailbox :=
  match m.validateState with
  | .error e => (.error e, m)
  | .ok () =>
    if m.lifecycle = .accepting then (.error .cancelRequiresDraining, m)
    else if m.queue = [] then (.ok [], m.closeIfDrainedInternal)
    else match m.terminals.checkedIncrementRecords m.cancelledRecords with
      | .error e => (.error e, m)
      | .ok terminals =>
        (.ok m.cancelledRecords,
          { m with queue := [], queuedBytes := 0, terminals := terminals }.closeIfDrainedInternal)

structure ExpiryPlan where
  expired : List Nat
  records : List TerminalRecord
  terminals : TerminalCounters
  queuedBytes : Nat

def planExpiry (m : Mailbox) (reading : ClockReading) : Except MailboxError ExpiryPlan := do
  m.ensureReading reading
  let items ← m.expiredItems reading
  let expired := indicesForExpiredItems items
  let records := m.recordsForExpiredItems items
  let terminals ← m.terminals.checkedIncrementRecords records
  let removedBytes ← m.bytesForIndices expired
  let queuedBytes ← subU64 m.queuedBytes removedBytes .stateInconsistent
  pure ⟨expired, records, terminals, queuedBytes⟩

def expireQueued (m : Mailbox) (reading : ClockReading) : Except MailboxError (List TerminalRecord) × Mailbox :=
  match m.validateState with
  | .error e => (.error e, m)
  | .ok () =>
    if m.lifecycle = .closed then (.ok [], m)
    else match m.planExpiry reading with
      | .error e => (.error e, m)
      | .ok plan =>
        (.ok plan.records, (m.relieved plan.expired plan.queuedBytes plan.terminals).closeIfDrainedInternal)

def closeIfDrained (m : Mailbox) : Except MailboxError Bool × Mailbox :=
  match m.validateState with
  | .error e => (.error e, m)
  | .ok () => (.ok (decide (m.closeIfDrainedInternal.lifecycle = .closed)), m.closeIfDrainedInternal)

/-! ## Views -/

structure MailboxSnapshot where
  lifecycle : MailboxLifecycle
  queuedItems : Nat
  queuedBytes : Nat
  inflightItems : Nat
  inflightBytes : Nat
  retainedBytes : Nat
  offers : OfferCounters
  terminals : TerminalCounters

def snapshot (m : Mailbox) : Except MailboxError MailboxSnapshot := do
  m.validateState
  let queuedItems ← toU32 m.queue.length .stateInconsistent
  let inflightItems ← toU32 m.inflight.length .stateInconsistent
  let retainedBytes ← addU64 m.queuedBytes m.inflightBytes .stateInconsistent
  pure ⟨m.lifecycle, queuedItems, m.queuedBytes, inflightItems, m.inflightBytes, retainedBytes, m.offers, m.terminals⟩

/-- The public interaction of a mailbox; the command class is served under the event interaction. -/
def interaction (m : Mailbox) : InteractionKind :=
  match m.messageClass with
  | .signal => .signal
  | .event | .command => .event

end Mailbox
end ParaEgox
