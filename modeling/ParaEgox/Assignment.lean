import ParaEgox.Checked
import ParaEgox.Digest

/-!
# Assignment — the compiled contract of one static binding

Ports, schemas, delivery and mailbox limits as the runtime contracts define them.  A schema is compared as a whole: its
identity, its nonzero version and its content.
-/
namespace ParaEgox

structure SchemaRef where
  id : Ref16
  version : UInt32
  contentDigest : Digest32
  version_ne : version ≠ 0
  deriving DecidableEq

inductive PortDirection
  | outgoing
  | incoming
  deriving DecidableEq

inductive InteractionKind
  | signal
  | event
  deriving DecidableEq

inductive PortCardinality
  | one
  deriving DecidableEq

structure PortSpec where
  direction : PortDirection
  schema : SchemaRef
  interaction : InteractionKind
  cardinality : PortCardinality
  deriving DecidableEq

inductive OverflowPolicy
  | rejectNew
  | dropOldest
  | latest
  | coalesceByKey
  | blockUntilDeadline
  deriving DecidableEq

structure DeliveryProfile where
  maxPayloadBytes : Nat
  maxMessageAge : Nat
  overflow : OverflowPolicy
  deriving DecidableEq

/-- `MailboxSpec`: nonzero limits in their wire types. -/
structure MailboxSpec where
  capacityItems : Nat
  capacityBytes : Nat
  maxQueueAge : Nat
  maxInflight : Nat
  maxRetainedBytes : Nat
  overflow : OverflowPolicy
  capacityItems_le : capacityItems ≤ u32Max
  capacityBytes_le : capacityBytes ≤ u64Max
  maxInflight_le : maxInflight ≤ u32Max
  maxRetainedBytes_le : maxRetainedBytes ≤ u64Max
  deriving DecidableEq

structure BindingAssignment where
  bindingId : Ref16
  sourceInstance : Ref16
  sourcePort : Ref16
  sourceSpec : PortSpec
  targetInstance : Ref16
  targetPort : Ref16
  targetSpec : PortSpec
  mailbox : Ref16
  delivery : DeliveryProfile
  mailboxSpec : MailboxSpec
  deriving DecidableEq

end ParaEgox
