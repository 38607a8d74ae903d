import ParaEgox.ApplyEnvelope
import ParaEgox.Assignment
import ParaEgox.Frames
import ParaEgox.Keyed

/-!
# TargetAssignments — the canonical body of target assignments

Delivery profiles, mailbox specifications and binding assignments as their constructors leave them; the body that sorts
them, rejects conflicts and commits to its bytes; and the decoder over records of 256 bytes.
-/
namespace ParaEgox
namespace Plan

open Check Wire Fields Frames Keyed
open Envelope (ProvenanceContractError EnvelopeContractError)

def targetAssignmentsVersion : Nat := 1
def maxTargetAssignments : Nat := 256
def targetAssignmentsMagic : Bytes := ascii "PXTA"
def targetAssignmentsHeaderBytes : Nat := 10
def targetAssignmentRecordBytes : Nat := 256
def targetAssignmentsDigestDomain : Bytes := ascii "paraegox.runtime.target-assignments.sha256.v1"

def maxTargetAssignmentsBytes : Nat := targetAssignmentsHeaderBytes + maxTargetAssignments * targetAssignmentRecordBytes

inductive AssignmentContractError
  | invalidSchemaVersion
  | invalidMaxPayloadBytes
  | invalidMaxMessageAge
  | invalidMailboxItemCapacity
  | invalidMailboxByteCapacity
  | invalidMailboxAge
  | invalidMailboxInflightCapacity
  | invalidMailboxRetainedByteCapacity
  | invalidSourceDirection
  | invalidTargetDirection
  | schemaMismatch
  | interactionMismatch
  | overflowPolicyMismatch
  | queueAgeExceedsDeliveryAge
  | mailboxCannotHoldPayload
  | mailboxCannotRetainCapacity
  | eventCannotUseLossyOverflow
  | assignmentCountExceeded
  | duplicateBindingId
  | duplicateSourceEndpoint
  | duplicateTargetEndpoint
  | duplicateMailboxRef
  | digest (e : DigestBuildError)
  | canonicalWireMismatch
  | assignmentDigestMismatch
  | sliceAssignmentDigestMismatch
  | envelopeSliceMismatch
  | provenance (e : ProvenanceContractError)
  | envelope (e : EnvelopeContractError)
  | requestFrameTooLarge
  | requestCanonicalWireMismatch
  deriving DecidableEq

/-! ## Assignments -/

/-- `SchemaRef::try_new`. -/
def schemaRef (id : Ref16) (version : UInt32) (contentDigest : Digest32) : Except AssignmentContractError SchemaRef := do
  let versioned ← require (version ≠ 0) .invalidSchemaVersion
  pure ⟨id, version, contentDigest, versioned.down⟩

@[ext] structure DeliveryProfile where
  maxPayloadBytes : UInt64
  maxMessageAge : UInt64
  overflowPolicy : OverflowPolicy
  payload_ne : maxPayloadBytes ≠ 0
  age_ne : maxMessageAge ≠ 0

instance : DecidableEq DeliveryProfile := fun _ _ => decidable_of_iff _ DeliveryProfile.ext_iff.symm

def DeliveryProfile.tryNew (maxPayloadBytes maxMessageAge : UInt64) (overflowPolicy : OverflowPolicy) :
    Except AssignmentContractError DeliveryProfile := do
  let payload ← require (maxPayloadBytes ≠ 0) .invalidMaxPayloadBytes
  let age ← require (maxMessageAge ≠ 0) .invalidMaxMessageAge
  pure ⟨maxPayloadBytes, maxMessageAge, overflowPolicy, nonzero64 payload, nonzero64 age⟩

@[ext] structure MailboxSpec where
  capacityItems : UInt32
  capacityBytes : UInt64
  maxQueueAge : UInt64
  maxInflight : UInt32
  maxRetainedBytes : UInt64
  overflowPolicy : OverflowPolicy
  items_ne : capacityItems ≠ 0
  bytes_ne : capacityBytes ≠ 0
  age_ne : maxQueueAge ≠ 0
  inflight_ne : maxInflight ≠ 0
  retained_ne : maxRetainedBytes ≠ 0

instance : DecidableEq MailboxSpec := fun _ _ => decidable_of_iff _ MailboxSpec.ext_iff.symm

def MailboxSpec.tryNew (capacityItems : UInt32) (capacityBytes maxQueueAge : UInt64) (maxInflight : UInt32)
    (maxRetainedBytes : UInt64) (overflowPolicy : OverflowPolicy) : Except AssignmentContractError MailboxSpec := do
  let items ← require (capacityItems ≠ 0) .invalidMailboxItemCapacity
  let bytes ← require (capacityBytes ≠ 0) .invalidMailboxByteCapacity
  let age ← require (maxQueueAge ≠ 0) .invalidMailboxAge
  let inflight ← require (maxInflight ≠ 0) .invalidMailboxInflightCapacity
  let retained ← require (maxRetainedBytes ≠ 0) .invalidMailboxRetainedByteCapacity
  pure ⟨capacityItems, capacityBytes, maxQueueAge, maxInflight, maxRetainedBytes, overflowPolicy, items.down,
    nonzero64 bytes, nonzero64 age, inflight.down, nonzero64 retained⟩

structure PortEndpoint where
  instanceRef : Ref16
  port : Ref16
  spec : PortSpec
  deriving DecidableEq

/-- An assignment between an `Out` and an `In` port of one schema, within the limits its mailbox can honour. -/
structure BindingAssignment where
  bindingId : Ref16
  source : PortEndpoint
  target : PortEndpoint
  mailbox : Ref16
  delivery : DeliveryProfile
  mailboxSpec : MailboxSpec
  leaves : source.spec.direction = .outgoing
  enters : target.spec.direction = .incoming
  sameSchema : source.spec.schema = target.spec.schema
  sameInteraction : source.spec.interaction = target.spec.interaction
  sameOverflow : delivery.overflowPolicy = mailboxSpec.overflowPolicy
  ageBounded : mailboxSpec.maxQueueAge ≤ delivery.maxMessageAge
  holdsPayload : delivery.maxPayloadBytes ≤ mailboxSpec.capacityBytes
  retainsCapacity : mailboxSpec.capacityBytes ≤ mailboxSpec.maxRetainedBytes
  lossless : source.spec.interaction = .event →
    delivery.overflowPolicy = .rejectNew ∨ delivery.overflowPolicy = .blockUntilDeadline
  deriving DecidableEq

def BindingAssignment.tryNew (bindingId : Ref16) (source target : PortEndpoint) (mailbox : Ref16)
    (delivery : DeliveryProfile) (mailboxSpec : MailboxSpec) : Except AssignmentContractError BindingAssignment := do
  let leaves ← require (source.spec.direction = .outgoing) .invalidSourceDirection
  let enters ← require (target.spec.direction = .incoming) .invalidTargetDirection
  let schema ← require (source.spec.schema = target.spec.schema) .schemaMismatch
  let interaction ← require (source.spec.interaction = target.spec.interaction) .interactionMismatch
  let overflow ← require (delivery.overflowPolicy = mailboxSpec.overflowPolicy) .overflowPolicyMismatch
  let age ← require (mailboxSpec.maxQueueAge ≤ delivery.maxMessageAge) .queueAgeExceedsDeliveryAge
  let holds ← require (delivery.maxPayloadBytes ≤ mailboxSpec.capacityBytes) .mailboxCannotHoldPayload
  let retains ← require (mailboxSpec.capacityBytes ≤ mailboxSpec.maxRetainedBytes) .mailboxCannotRetainCapacity
  let lossless ← require (source.spec.interaction = .event →
    delivery.overflowPolicy = .rejectNew ∨ delivery.overflowPolicy = .blockUntilDeadline) .eventCannotUseLossyOverflow
  pure ⟨bindingId, source, target, mailbox, delivery, mailboxSpec, leaves.down, enters.down, schema.down,
    interaction.down, overflow.down, age.down, holds.down, retains.down, lossless.down⟩

/-! ## Records -/

def PortDirection.code : PortDirection → UInt8
  | .outgoing => 1
  | .incoming => 2

def decodeDirection : UInt8 → Option PortDirection
  | 1 => some .outgoing
  | 2 => some .incoming
  | _ => none

def InteractionKind.code : InteractionKind → UInt8
  | .signal => 1
  | .event => 2

def decodeInteraction : UInt8 → Option InteractionKind
  | 1 => some .signal
  | 2 => some .event
  | _ => none

def PortCardinality.code : PortCardinality → UInt8
  | .one => 1

def decodeCardinality : UInt8 → Option PortCardinality
  | 1 => some .one
  | _ => none

def OverflowPolicy.code : OverflowPolicy → UInt8
  | .rejectNew => 1
  | .dropOldest => 2
  | .latest => 3
  | .coalesceByKey => 4
  | .blockUntilDeadline => 5

def decodeOverflow : UInt8 → Option OverflowPolicy
  | 1 => some .rejectNew
  | 2 => some .dropOldest
  | 3 => some .latest
  | 4 => some .coalesceByKey
  | 5 => some .blockUntilDeadline
  | _ => none

/-- `append_endpoint`. -/
def endpointBytes (e : PortEndpoint) : Bytes :=
  [e.instanceRef.asBytes, e.port.asBytes, [PortDirection.code e.spec.direction], e.spec.schema.id.asBytes,
    bytesBE 4 e.spec.schema.version.toNat, e.spec.schema.contentDigest.asBytes, [InteractionKind.code e.spec.interaction],
    [PortCardinality.code e.spec.cardinality]].flatten

/-- `append_assignment_record`. -/
def assignmentRecord (a : BindingAssignment) : Bytes :=
  [a.bindingId.asBytes, endpointBytes a.source, endpointBytes a.target, a.mailbox.asBytes,
    bytesBE 8 a.delivery.maxPayloadBytes.toNat, bytesBE 8 a.delivery.maxMessageAge.toNat,
    [OverflowPolicy.code a.delivery.overflowPolicy], bytesBE 4 a.mailboxSpec.capacityItems.toNat,
    bytesBE 8 a.mailboxSpec.capacityBytes.toNat, bytesBE 8 a.mailboxSpec.maxQueueAge.toNat,
    bytesBE 4 a.mailboxSpec.maxInflight.toNat, bytesBE 8 a.mailboxSpec.maxRetainedBytes.toNat,
    [OverflowPolicy.code a.mailboxSpec.overflowPolicy]].flatten

def buildTargetAssignmentsWire (assignments : List BindingAssignment) : Bytes :=
  targetAssignmentsMagic ++ bytesBE 2 targetAssignmentsVersion ++ bytesBE 4 assignments.length ++
    assignments.flatMap assignmentRecord

/-! ## The body -/

/-- One pair of records checked by `ensure_assignment_uniqueness`. -/
def distinctAssignments (previous assignment : BindingAssignment) : Except AssignmentContractError Unit := do
  rejectIf (previous.bindingId = assignment.bindingId) .duplicateBindingId
  rejectIf (previous.source.instanceRef = assignment.source.instanceRef ∧ previous.source.port = assignment.source.port)
    .duplicateSourceEndpoint
  rejectIf (previous.target.instanceRef = assignment.target.instanceRef ∧ previous.target.port = assignment.target.port)
    .duplicateTargetEndpoint
  rejectIf (previous.mailbox = assignment.mailbox) .duplicateMailboxRef

def ensureAssignmentUniqueness (assignments : List BindingAssignment) : Except AssignmentContractError Unit :=
  amongEarlier distinctAssignments (fun _ => .ok ()) [] assignments

def digestTargetAssignments (sha256 : Sha256) (canonicalWire : Bytes) : Except DigestBuildError Digest32 :=
  digest32 sha256 targetAssignmentsDigestDomain [canonicalWire]

structure TargetAssignments where
  assignments : List BindingAssignment
  canonicalWire : Bytes
  assignmentDigest : Digest32

namespace TargetAssignments

def tryNew (sha256 : Sha256) (assignments : List BindingAssignment) : Except AssignmentContractError TargetAssignments := do
  rejectIf (maxTargetAssignments < assignments.length) .assignmentCountExceeded
  let sorted := sortBy BindingAssignment.bindingId assignments
  ensureAssignmentUniqueness sorted
  let canonicalWire := buildTargetAssignmentsWire sorted
  let assignmentDigest ← wrapErr .digest (digestTargetAssignments sha256 canonicalWire)
  pure ⟨sorted, canonicalWire, assignmentDigest⟩

def validate (sha256 : Sha256) (t : TargetAssignments) : Except AssignmentContractError Unit := do
  let rebuilt ← tryNew sha256 t.assignments
  rejectIf (rebuilt.assignments ≠ t.assignments) .canonicalWireMismatch
  rejectIf (rebuilt.canonicalWire ≠ t.canonicalWire) .canonicalWireMismatch
  rejectIf (rebuilt.assignmentDigest ≠ t.assignmentDigest) .assignmentDigestMismatch

end TargetAssignments

/-! ## Decoding -/

inductive AssignmentWireErrorCode
  | frameTooLarge
  | truncated
  | invalidMagic
  | unsupportedVersion
  | assignmentCountExceeded
  | invalidFrameLength
  | invalidEnumValue
  | invalidAssignment
  | duplicateBindingId
  | duplicateSourceEndpoint
  | duplicateTargetEndpoint
  | nonCanonicalFrame
  | duplicateMailboxRef

structure AssignmentWireError where
  code : AssignmentWireErrorCode
  recordIndex : Option UInt32

def AssignmentWireError.new (code : AssignmentWireErrorCode) : AssignmentWireError := ⟨code, none⟩
def AssignmentWireError.at (code : AssignmentWireErrorCode) (index : UInt32) : AssignmentWireError := ⟨code, some index⟩

def assignmentCodes : Codes AssignmentWireError where
  frameTooLarge := .new .frameTooLarge
  truncated := .new .truncated
  invalidMagic := .new .invalidMagic
  unsupportedVersion := .new .unsupportedVersion
  invalidFrameLength := .new .invalidFrameLength

def decodeEndpoint (index : UInt32) : Cursor AssignmentWireError PortEndpoint := do
  let instanceRef ← ref16 .panic
  let port ← ref16 .panic
  let direction ← coded decodeDirection (.at .invalidEnumValue index)
  let schemaId ← ref16 .panic
  let schemaVersion ← u32 .panic
  let schemaDigest ← digest .panic
  let schema ← Reader.lift (mapErr (schemaRef schemaId schemaVersion schemaDigest) (.error (.at .invalidAssignment index)))
  let interaction ← coded decodeInteraction (.at .invalidEnumValue index)
  let cardinality ← coded decodeCardinality (.at .invalidEnumValue index)
  pure ⟨instanceRef, port, ⟨direction, schema, interaction, cardinality⟩⟩

def decodeAssignmentRecord (index : UInt32) : Cursor AssignmentWireError BindingAssignment := do
  let bindingId ← ref16 .panic
  let source ← decodeEndpoint index
  let target ← decodeEndpoint index
  let mailbox ← ref16 .panic
  let maxPayloadBytes ← u64 .panic
  let maxMessageAge ← u64 .panic
  let deliveryOverflow ← coded decodeOverflow (.at .invalidEnumValue index)
  let capacityItems ← u32 .panic
  let capacityBytes ← u64 .panic
  let maxQueueAge ← u64 .panic
  let maxInflight ← u32 .panic
  let maxRetainedBytes ← u64 .panic
  let mailboxOverflow ← coded decodeOverflow (.at .invalidEnumValue index)
  let delivery ← Reader.lift (mapErr (DeliveryProfile.tryNew maxPayloadBytes maxMessageAge deliveryOverflow)
    (.error (.at .invalidAssignment index)))
  let mailboxSpec ← Reader.lift (mapErr
    (MailboxSpec.tryNew capacityItems capacityBytes maxQueueAge maxInflight maxRetainedBytes mailboxOverflow)
    (.error (.at .invalidAssignment index)))
  Reader.lift (mapErr (BindingAssignment.tryNew bindingId source target mailbox delivery mailboxSpec)
    (.error (.at .invalidAssignment index)))

def assignmentContractWireError (e : AssignmentContractError) : AssignmentWireError :=
  .new <| match e with
    | .assignmentCountExceeded => .assignmentCountExceeded
    | .duplicateBindingId => .duplicateBindingId
    | .duplicateSourceEndpoint => .duplicateSourceEndpoint
    | .duplicateTargetEndpoint => .duplicateTargetEndpoint
    | .duplicateMailboxRef => .duplicateMailboxRef
    | _ => .invalidAssignment

/-- What `decode_target_assignments` reads behind the version. -/
def targetAssignmentsBody (frame : Bytes) : Cursor AssignmentWireError (List BindingAssignment) := do
  let declaredCount ← word
  Reader.lift (rejectIf (maxTargetAssignments < declaredCount) (.error (.new .assignmentCountExceeded)))
  let recordsBytes ← Reader.lift (mulU64 declaredCount targetAssignmentRecordBytes (.error (.new .invalidFrameLength)))
  let expectedLength ← Reader.lift
    (addU64 targetAssignmentsHeaderBytes recordsBytes (.error (.new .invalidFrameLength)))
  Reader.lift (fill assignmentCodes frame expectedLength)
  let records ← remaining
  Reader.lift (eachRecord targetAssignmentRecordBytes decodeAssignmentRecord records)

/-- `decode_target_assignments`. -/
def TargetAssignments.decode (sha256 : Sha256) (frame : Bytes) : Res AssignmentWireError TargetAssignments := do
  let body ← opening assignmentCodes targetAssignmentsMagic targetAssignmentsVersion targetAssignmentsHeaderBytes
    maxTargetAssignmentsBytes frame
  let assignments ← (targetAssignmentsBody frame).on body
  let decoded ← wrapErr (fun e => .error (assignmentContractWireError e)) (tryNew sha256 assignments)
  rejectIf (decoded.canonicalWire ≠ frame) (.error (.new .nonCanonicalFrame))
  pure decoded

end Plan
end ParaEgox
