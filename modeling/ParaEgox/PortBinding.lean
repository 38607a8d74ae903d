import ParaEgox.MailboxRuns

/-!
# PortBinding — the live route of one logical binding

A binding owns no payload.  It records one prepared route, at most one route that accepts new messages and at most one older
route that only drains.  Every call takes the mailboxes it works on from its caller.
-/
namespace ParaEgox

open Check Mailbox

inductive PortBindingError
  | bindingIdentityMismatch
  | invalidSourceDirection
  | invalidTargetDirection
  | schemaMismatch
  | interactionMismatch
  | unsupportedCardinality
  | overflowPolicyMismatch
  | queueAgeExceedsDeliveryAge
  | mailboxCannotHoldPayload
  | mailboxCannotRetainCapacity
  | eventCannotUseLossyOverflow
  | blockingOverflowUnsupportedByFixture
  | mailboxIdentityMismatch
  | mailboxSchemaMismatch
  | mailboxInteractionMismatch
  | mailboxSpecMismatch
  | candidateMailboxNotAccepting
  | candidateMailboxNotEmpty
  | replacementMailboxIdentityReused
  | candidateAlreadyPrepared
  | noPreparedCandidate
  | preparedEpochMismatch
  | expectedActiveEpochMismatch
  | activeEpochMismatch
  | noActiveRoute
  | drainMustRetireBeforePrepare
  | drainMustRetireBeforeActivate
  | drainMustRetireBeforeRevoke
  | previousMailboxRequired
  | unexpectedPreviousMailbox
  | noDrainingRoute
  | drainingEpochMismatch
  | drainingMailboxNotClosed
  | bindingEpochExhausted
  | mailbox (e : MailboxError)
  deriving DecidableEq

@[ext] structure BindingEpoch where
  value : Nat
  pos : 0 < value

instance : DecidableEq BindingEpoch := fun _ _ => decidable_of_iff _ BindingEpoch.ext_iff.symm

def BindingEpoch.nextAfter (lastEpoch : Nat) : Except PortBindingError BindingEpoch := do
  rejectIf (u64Max < lastEpoch + 1) .bindingEpochExhausted
  pure ⟨lastEpoch + 1, Nat.succ_pos _⟩

structure BindingRoute where
  assignment : BindingAssignment
  epoch : BindingEpoch
  deriving DecidableEq

structure PreparedBindingRoute where
  route : BindingRoute
  expectedActive : Option BindingEpoch

structure PortBinding where
  bindingId : Ref16
  lastLiveEpoch : Nat
  prepared : Option PreparedBindingRoute
  active : Option BindingRoute
  draining : Option BindingRoute

structure BindingOfferFailure where
  error : PortBindingError
  message : ValidatedMessage
  deriving DecidableEq

def validateFixtureAssignment (assignment : BindingAssignment) : Except PortBindingError Unit := do
  let source := assignment.sourceSpec
  let target := assignment.targetSpec
  rejectIf (source.direction ≠ .outgoing) .invalidSourceDirection
  rejectIf (target.direction ≠ .incoming) .invalidTargetDirection
  rejectIf (source.schema ≠ target.schema) .schemaMismatch
  rejectIf (source.interaction ≠ target.interaction) .interactionMismatch
  rejectIf (source.cardinality ≠ .one ∨ target.cardinality ≠ .one) .unsupportedCardinality
  let delivery := assignment.delivery
  let mailbox := assignment.mailboxSpec
  rejectIf (delivery.overflow ≠ mailbox.overflow) .overflowPolicyMismatch
  rejectIf (delivery.maxMessageAge < mailbox.maxQueueAge) .queueAgeExceedsDeliveryAge
  rejectIf (mailbox.capacityBytes < delivery.maxPayloadBytes) .mailboxCannotHoldPayload
  rejectIf (mailbox.maxRetainedBytes < mailbox.capacityBytes) .mailboxCannotRetainCapacity
  rejectIf (source.interaction = .event ∧ ¬ (delivery.overflow = .rejectNew ∨ delivery.overflow = .blockUntilDeadline))
    .eventCannotUseLossyOverflow
  rejectIf (delivery.overflow = .blockUntilDeadline) .blockingOverflowUnsupportedByFixture

def validateMailboxIdentity (assignment : BindingAssignment) (mailbox : Mailbox) : Except PortBindingError Unit := do
  rejectIf (mailbox.reference ≠ assignment.mailbox) .mailboxIdentityMismatch
  rejectIf (mailbox.schema ≠ assignment.targetSpec.schema) .mailboxSchemaMismatch
  rejectIf (mailbox.interaction ≠ assignment.targetSpec.interaction) .mailboxInteractionMismatch
  rejectIf (mailbox.limits ≠ assignment.mailboxSpec) .mailboxSpecMismatch

def validateCandidateEmpty (snapshot : MailboxSnapshot) : Except PortBindingError Unit :=
  rejectIf (snapshot.queuedItems ≠ 0 ∨ snapshot.inflightItems ≠ 0 ∨ snapshot.retainedBytes ≠ 0) .candidateMailboxNotEmpty

namespace PortBinding

def new (bindingId : Ref16) : PortBinding := ⟨bindingId, 0, none, none, none⟩

/-- The last checks of `prepare`, and the candidate it records. -/
def prepareCandidate (self : PortBinding) (assignment : BindingAssignment) (snapshot : MailboxSnapshot)
    (expectedActive : Option BindingEpoch) : Except PortBindingError (BindingEpoch × PortBinding) := do
  whenSome self.active fun active =>
    rejectIf (active.assignment.mailbox = assignment.mailbox) .replacementMailboxIdentityReused
  rejectIf self.draining.isSome .drainMustRetireBeforePrepare
  validateCandidateEmpty snapshot
  let epoch ← BindingEpoch.nextAfter self.lastLiveEpoch
  pure (epoch, { self with prepared := some ⟨⟨assignment, epoch⟩, expectedActive⟩ })

/-- `prepare`: nothing is written before the last check, so an error leaves the binding as it was. -/
def prepare (self : PortBinding) (assignment : BindingAssignment) (mailbox : Mailbox)
    (expectedActive : Option BindingEpoch) : Except PortBindingError (BindingEpoch × PortBinding) := do
  validateFixtureAssignment assignment
  rejectIf (assignment.bindingId ≠ self.bindingId) .bindingIdentityMismatch
  rejectIf self.prepared.isSome .candidateAlreadyPrepared
  rejectIf (self.active.map (·.epoch) ≠ expectedActive) .expectedActiveEpochMismatch
  validateMailboxIdentity assignment mailbox
  let snapshot ← wrapErr .mailbox mailbox.snapshot
  rejectIf (snapshot.lifecycle ≠ .accepting) .candidateMailboxNotAccepting
  match self.active with
  | some active =>
    if active.assignment = assignment then .ok (active.epoch, self)
    else self.prepareCandidate assignment snapshot expectedActive
  | none => self.prepareCandidate assignment snapshot expectedActive

/-- `activate` with nothing prepared: the exact active route is confirmed. -/
def confirmActive (self : PortBinding) (preparedEpoch : BindingEpoch) (candidate : Mailbox) (previous : Option Mailbox) :
    Except PortBindingError BindingRoute := do
  let active ← okOr self.active .noPreparedCandidate
  rejectIf (active.epoch ≠ preparedEpoch) .activeEpochMismatch
  rejectIf previous.isSome .unexpectedPreviousMailbox
  validateMailboxIdentity active.assignment candidate
  pure active

/-- The checks of `activate` on the prepared route and its mailbox. -/
def checkCandidate (self : PortBinding) (prepared : PreparedBindingRoute) (preparedEpoch : BindingEpoch)
    (candidate : Mailbox) : Except PortBindingError Unit := do
  rejectIf (prepared.route.epoch ≠ preparedEpoch) .preparedEpochMismatch
  rejectIf (self.active.map (·.epoch) ≠ prepared.expectedActive) .expectedActiveEpochMismatch
  rejectIf self.draining.isSome .drainMustRetireBeforeActivate
  validateMailboxIdentity prepared.route.assignment candidate
  let snapshot ← wrapErr .mailbox candidate.snapshot
  rejectIf (snapshot.lifecycle ≠ .accepting) .candidateMailboxNotAccepting
  validateCandidateEmpty snapshot

/-- The mailbox of a route stops accepting: the result, and the mailbox the call leaves. -/
def stopRoute (route : BindingRoute) (mailbox : Mailbox) : Except PortBindingError Unit × Mailbox :=
  match validateMailboxIdentity route.assignment mailbox with
  | .error e => (.error e, mailbox)
  | .ok () => (wrapErr .mailbox mailbox.stopAccepting.1, mailbox.stopAccepting.2)

def stopPrevious (active : Option BindingRoute) (previous : Option Mailbox) :
    Except PortBindingError Unit × Option Mailbox :=
  match active, previous with
  | some route, some mailbox => ((stopRoute route mailbox).1, some (stopRoute route mailbox).2)
  | some _, none => (.error .previousMailboxRequired, none)
  | none, some mailbox => (.error .unexpectedPreviousMailbox, some mailbox)
  | none, none => (.ok (), none)

def install (self : PortBinding) (prepared : PreparedBindingRoute) : PortBinding :=
  { self with
    active := some prepared.route, draining := self.active, prepared := none
    lastLiveEpoch := prepared.route.epoch.value }

/-- `activate`: the result, the binding and the previous mailbox the call leaves. -/
def activate (self : PortBinding) (preparedEpoch : BindingEpoch) (candidate : Mailbox) (previous : Option Mailbox) :
    Except PortBindingError BindingRoute × PortBinding × Option Mailbox :=
  match self.prepared with
  | none => (self.confirmActive preparedEpoch candidate previous, self, previous)
  | some prepared =>
    match self.checkCandidate prepared preparedEpoch candidate with
    | .error e => (.error e, self, previous)
    | .ok () =>
      match (stopPrevious self.active previous).1 with
      | .error e => (.error e, self, (stopPrevious self.active previous).2)
      | .ok () => (.ok prepared.route, self.install prepared, (stopPrevious self.active previous).2)

def rollback (self : PortBinding) (preparedEpoch : BindingEpoch) : Except PortBindingError PortBinding := do
  let prepared ← okOr self.prepared .noPreparedCandidate
  rejectIf (prepared.route.epoch ≠ preparedEpoch) .preparedEpochMismatch
  pure { self with prepared := none }

/-- The checks of `revoke` before its mailbox is touched: the route and the revocation epoch. -/
def checkRevoke (self : PortBinding) (expectedActive : BindingEpoch) (activeMailbox : Mailbox) :
    Except PortBindingError (BindingRoute × BindingEpoch) := do
  rejectIf self.prepared.isSome .candidateAlreadyPrepared
  rejectIf self.draining.isSome .drainMustRetireBeforeRevoke
  let active ← okOr self.active .noActiveRoute
  rejectIf (active.epoch ≠ expectedActive) .activeEpochMismatch
  validateMailboxIdentity active.assignment activeMailbox
  let revocationEpoch ← BindingEpoch.nextAfter self.lastLiveEpoch
  pure (active, revocationEpoch)

/-- `revoke`: the result, the binding and the mailbox the call leaves. -/
def revoke (self : PortBinding) (expectedActive : BindingEpoch) (activeMailbox : Mailbox) :
    Except PortBindingError BindingEpoch × PortBinding × Mailbox :=
  match self.checkRevoke expectedActive activeMailbox with
  | .error e => (.error e, self, activeMailbox)
  | .ok (active, revocationEpoch) =>
    match activeMailbox.stopAccepting.1 with
    | .error e => (.error (.mailbox e), self, activeMailbox.stopAccepting.2)
    | .ok () =>
      (.ok revocationEpoch,
        { self with active := none, draining := some active, lastLiveEpoch := revocationEpoch.value },
        activeMailbox.stopAccepting.2)

def retireDraining (self : PortBinding) (expectedDraining : BindingEpoch) (mailbox : Mailbox) :
    Except PortBindingError (BindingRoute × PortBinding) := do
  let draining ← okOr self.draining .noDrainingRoute
  rejectIf (draining.epoch ≠ expectedDraining) .drainingEpochMismatch
  validateMailboxIdentity draining.assignment mailbox
  let snapshot ← wrapErr .mailbox mailbox.snapshot
  rejectIf (snapshot.lifecycle ≠ .closed) .drainingMailboxNotClosed
  pure (draining, { self with draining := none })

/-- The checks of `offer` before the mailbox is touched. -/
def checkOffer (self : PortBinding) (bindingId : Ref16) (bindingEpoch : BindingEpoch) (mailbox : Mailbox) :
    Except PortBindingError Unit := do
  rejectIf (bindingId ≠ self.bindingId) .bindingIdentityMismatch
  let active ← okOr self.active .noActiveRoute
  rejectIf (active.epoch ≠ bindingEpoch) .activeEpochMismatch
  validateMailboxIdentity active.assignment mailbox

/-- `offer`: the result and the mailbox the call leaves; the binding is only read. -/
def offer (self : PortBinding) (bindingId : Ref16) (bindingEpoch : BindingEpoch) (message : ValidatedMessage)
    (mailbox : Mailbox) (reading : ClockReading) : Except BindingOfferFailure OfferReport × Mailbox :=
  match self.checkOffer bindingId bindingEpoch mailbox with
  | .error e => (.error ⟨e, message⟩, mailbox)
  | .ok () =>
    (wrapErr (fun failure => ⟨.mailbox failure.error, failure.message⟩) (mailbox.tryOffer message reading).1,
      (mailbox.tryOffer message reading).2)

end PortBinding
end ParaEgox
