import Mathlib.Algebra.Group.Int.Defs
import ParaEgox.ProcessFrame
import ParaEgox.Wire

/-!
# WorkerFrame — the same frames in the Python worker

`paraegox_sdk.worker.protocol`, written independently of the Rust side: integers of any size and byte strings of any
length, checked where the dataclasses and the encoder check them; `struct` formats packed and unpacked field by field.
The enumerations have the members of the Rust ones and list their values again.
-/
namespace ParaEgox
namespace Worker

open Check Wire

/-- The members of `ProtocolErrorCode` are those of the Rust error. -/
abbrev ProtocolErrorCode := Process.ProcessProtocolError

/-- What a call can raise: a `ProtocolError` with its code and message, an error of `struct`, or a failed lookup. -/
inductive Raised
  | protocolError (code : ProtocolErrorCode) (message : String)
  | structError
  | indexError
  | keyError
  deriving DecidableEq

abbrev Py := Except Raised

def magic : Bytes := Text.bytes (s := "PXWP") ⟨_, Process.spells_magic⟩
def version : Int := 1
def headerBytes : Nat := 148
def maxFrameBytes : Nat := 1048576
def maxPayloadBytes : Nat := maxFrameBytes - headerBytes - 24
def maxCredits : Int := 4096
def maxRetainedBytes : Int := 4 * 1024 * 1024 * 1024

def digestMagic : Bytes :=
  Text.bytes (s := "ParaEGOX") ⟨_, spells_paraEGOX⟩ ++ [0]
    ++ Text.bytes (s := "canonical-digest") ⟨_, spells_canonicalDigest⟩
def digestVersion : Int := 1
def digestDomain : Bytes :=
  Text.bytes (s := "paraegox.runtime.process-worker-frame.sha256.v1") ⟨_, Process.spells_digestDomain⟩

/-! ## Checked values -/

def uint (value : Int) (bits : Nat) : Py Int := do
  rejectIf (¬ (0 ≤ value ∧ value < 2 ^ bits)) (.protocolError .invalidBodyValue s!"value is not an unsigned u{bits}")
  pure value

/-- `_fixed_bytes`; `code` is the one its `identity` flag selects. -/
def fixedBytes (value : Bytes) (length : Nat) (code : ProtocolErrorCode) : Py Bytes := do
  rejectIf (value.length ≠ length) (.protocolError code s!"value must contain exactly {length} bytes")
  rejectIf (value.any (· ≠ 0) = false) (.protocolError code "all-zero opaque values are forbidden")
  pure value

/-! ## `struct` -/

/-- One unsigned big-endian field of `struct.pack`. -/
def packUint (width : Nat) (value : Int) : Py Bytes := do
  rejectIf (¬ (0 ≤ value ∧ value < 256 ^ width)) .structError
  pure (bytesBE width value.toNat)

/-- A field `Ns`: cut or padded with zero bytes to its size. -/
def packBytes (size : Nat) (value : Bytes) : Bytes := (value ++ List.replicate size 0).take size

/-- A `struct` format, read from left to right. -/
abbrev Format := Reader Raised

def Format.uint (width : Nat) : Format Int := do
  let bytes ← Reader.take width .structError
  pure (fromBE bytes.val)

def Format.bytes (size : Nat) : Format Bytes := do
  let bytes ← Reader.take size .structError
  pure bytes.val

/-- `struct.unpack`: the buffer is exactly the format. -/
def unpack {α : Type} (format : Format α) (buffer : Bytes) : Py α := do
  let (value, rest) ← format buffer
  rejectIf (rest ≠ []) .structError
  pure value

/-- `struct.unpack_from`: what follows the format is left alone. -/
def unpackFrom {α : Type} (format : Format α) (buffer : Bytes) (offset : Nat) : Py α := do
  let (value, _) ← format (buffer.drop offset)
  pure value

/-! ## Enumerations -/

abbrev Direction := Process.ProcessFrameDirection
abbrev WorkerState := Process.ProcessWorkerState
abbrev FrameKind := Process.ProcessFrameKind
abbrev ConstructOutcome := Process.ConstructOutcome
abbrev TerminalKind := Process.InvocationTerminalKind
abbrev StopReason := Process.StopReason
abbrev StoppedOutcome := Process.StoppedOutcome

/-- An `IntEnum`: its members with their values. -/
structure IntEnum (α : Type) where
  members : List (Int × α)

/-- `enum_type(value)`, as `_enum` wraps it. -/
def IntEnum.enum {α : Type} (e : IntEnum α) (value : Int) : Py α :=
  okOr (e.members.lookup value) (.protocolError .invalidEnumValue "unknown enum discriminant")

/-- `int(member)`. -/
def IntEnum.int {α : Type} [DecidableEq α] (e : IntEnum α) (member : α) : Py Int :=
  okOr ((e.members.find? fun m => m.2 = member).map Prod.fst) .indexError

def direction : IntEnum Direction := ⟨[(1, .hostToWorker), (2, .workerToHost)]⟩

def workerState : IntEnum WorkerState :=
  ⟨[(1, .starting), (2, .constructing), (3, .running), (4, .draining), (5, .stopping), (6, .stopped)]⟩

def frameKind : IntEnum FrameKind :=
  ⟨[(1, .start), (2, .ready), (3, .construct), (4, .constructed), (5, .invoke), (6, .heartbeat), (7, .cancel),
    (8, .terminal), (9, .stopAccepting), (10, .drained), (11, .stop), (12, .stopped), (13, .ping), (14, .pong),
    (15, .invoked)]⟩

def constructOutcome : IntEnum ConstructOutcome := ⟨[(1, .constructed), (2, .rejected), (3, .failed)]⟩

def terminalKind : IntEnum TerminalKind :=
  ⟨[(1, .completed), (2, .rejected), (3, .failed), (4, .cancelledBeforeRun), (5, .uncertain)]⟩

def stopReason : IntEnum StopReason :=
  ⟨[(1, .planned), (2, .applyReplacement), (3, .protocolFailure), (4, .hostShutdown)]⟩

def stoppedOutcome : IntEnum StoppedOutcome := ⟨[(1, .clean), (2, .forced), (3, .failed)]⟩

/-! ## Identity -/

structure IdentityFields where
  runtimeHostId : Bytes
  runtimeHostEpoch : Int
  processDomainId : Bytes
  processDomainEpoch : Int
  instanceId : Bytes
  instanceGeneration : Int
  sourcePlanRevision : Int
  targetSliceDigest : Bytes
  deriving DecidableEq

/-- `SessionIdentity.__post_init__`. -/
def IdentityFields.postInit (f : IdentityFields) : Py Unit := do
  let _ ← fixedBytes f.runtimeHostId 16 .invalidIdentity
  let _ ← fixedBytes f.processDomainId 16 .invalidIdentity
  let _ ← fixedBytes f.instanceId 16 .invalidIdentity
  let _ ← fixedBytes f.targetSliceDigest 32 .invalidIdentity
  forEach [f.runtimeHostEpoch, f.processDomainEpoch, f.instanceGeneration, f.sourcePlanRevision] fun value => do
    let value ← uint value 64
    rejectIf (value = 0) (.protocolError .invalidIdentity "live generations must be nonzero")

/-- A `SessionIdentity` passed its `__post_init__`. -/
def SessionIdentity := {f : IdentityFields // f.postInit = .ok ()}

instance : DecidableEq SessionIdentity := inferInstanceAs (DecidableEq {f : IdentityFields // f.postInit = .ok ()})

def construct {α : Type} (postInit : α → Py Unit) (fields : α) : Py {f : α // postInit f = .ok ()} :=
  match h : postInit fields with
  | .error e => .error e
  | .ok _ => .ok ⟨fields, h⟩

/-! ## Bodies -/

inductive FrameBody
  | start (maxInflight maxRetainedBytes maxPayloadBytes heartbeatIntervalNanos heartbeatTimeoutNanos : Int)
  | ready (workerRuntimeDigest : Bytes)
  | construct (artifactDigest configDigest entrypointRef : Bytes)
  | constructed (outcome : ConstructOutcome)
  | invoke (creditId responseReservationBytes remainingBudgetNanos : Int) (payload : Bytes)
  | invoked (creditId : Int)
  | heartbeat (heartbeatSequence activeInvocations retainedBytes : Int)
  | cancel (creditId graceRemainingNanos : Int)
  | terminal (creditId : Int) (kind : TerminalKind) (payload : Bytes)
  | stopAccepting
  | drained
  | stop (reason : StopReason)
  | stopped (outcome : StoppedOutcome)
  | ping (nonce : Int)
  | pong (nonce : Int)
  deriving DecidableEq

def bodyKind : FrameBody → FrameKind
  | .start .. => .start
  | .ready .. => .ready
  | .construct .. => .construct
  | .constructed .. => .constructed
  | .invoke .. => .invoke
  | .invoked .. => .invoked
  | .heartbeat .. => .heartbeat
  | .cancel .. => .cancel
  | .terminal .. => .terminal
  | .stopAccepting => .stopAccepting
  | .drained => .drained
  | .stop .. => .stop
  | .stopped .. => .stopped
  | .ping .. => .ping
  | .pong .. => .pong

def hostKinds : List FrameKind := [.start, .construct, .invoke, .cancel, .stopAccepting, .stop, .ping]

def invocationKinds : List FrameKind := [.invoke, .invoked, .cancel, .terminal]

def validStates : FrameKind → List WorkerState
  | .start => [.starting]
  | .ready => [.starting]
  | .construct => [.constructing]
  | .constructed => [.constructing]
  | .invoke => [.running]
  | .invoked => [.running, .draining]
  | .heartbeat => [.running, .draining]
  | .cancel => [.running, .draining]
  | .terminal => [.running, .draining]
  | .stopAccepting => [.draining]
  | .drained => [.draining]
  | .stop => [.stopping]
  | .stopped => [.stopped]
  | .ping => [.running, .draining]
  | .pong => [.running, .draining]

/-- `0 < _uint(value, bits) <= limit`. -/
def within (value : Int) (bits : Nat) (limit : Int) : Py Bool := do
  let value ← uint value bits
  pure (0 < value ∧ value ≤ limit)

/-- `_uint(value, bits) == 0`. -/
def isZero (value : Int) (bits : Nat) : Py Bool := do
  let value ← uint value bits
  pure (value = 0)

/-- `0 < _uint(interval, 64) < _uint(timeout, 64)`: the timeout is looked at only after a positive interval. -/
def ordered (interval timeout : Int) : Py Bool := do
  let interval ← uint interval 64
  if 0 < interval then do
    let timeout ← uint timeout 64
    pure (interval < timeout)
  else pure false

def encodeBody : FrameBody → Py Bytes
  | .start maxInflight maxRetained maxPayload interval timeout => do
    let bounded ← within maxInflight 32 maxCredits <&&> within maxRetained 64 maxRetainedBytes
      <&&> within maxPayload 32 maxPayloadBytes <&&> ordered interval timeout
    rejectIf (bounded = false) (.protocolError .invalidBodyValue "invalid Start bounds")
    let a ← packUint 4 maxInflight
    let b ← packUint 8 maxRetained
    let c ← packUint 4 maxPayload
    let d ← packUint 8 interval
    let e ← packUint 8 timeout
    pure [a, b, c, d, e].flatten
  | .ready workerRuntimeDigest => fixedBytes workerRuntimeDigest 32 .invalidBodyValue
  | .construct artifactDigest configDigest entrypointRef => do
    let a ← fixedBytes artifactDigest 32 .invalidBodyValue
    let b ← fixedBytes configDigest 32 .invalidBodyValue
    let c ← fixedBytes entrypointRef 16 .invalidBodyValue
    pure [a, b, c].flatten
  | .constructed outcome => do
    let value ← constructOutcome.int outcome
    packUint 1 value
  | .invoke creditId responseReservationBytes remainingBudgetNanos payload => do
    let bad ← isZero creditId 64 <||> isZero remainingBudgetNanos 64 <||> pure (decide (maxPayloadBytes < payload.length))
    rejectIf (bad = true) (.protocolError .invalidBodyValue "invalid Invoke body")
    let reservation ← uint responseReservationBytes 32
    let a ← packUint 8 creditId
    let b ← packUint 4 payload.length
    let c ← packUint 4 reservation
    let d ← packUint 8 remainingBudgetNanos
    pure [a, b, c, d, payload].flatten
  | .invoked creditId => do
    let bad ← isZero creditId 64
    rejectIf (bad = true) (.protocolError .invalidBodyValue "Invoked credit is zero")
    packUint 8 creditId
  | .heartbeat heartbeatSequence activeInvocations retainedBytes => do
    let bad ← isZero heartbeatSequence 64
    rejectIf (bad = true) (.protocolError .invalidBodyValue "heartbeat sequence is zero")
    let active ← uint activeInvocations 32
    let retained ← uint retainedBytes 64
    let a ← packUint 8 heartbeatSequence
    let b ← packUint 4 active
    let c ← packUint 8 retained
    pure [a, b, c].flatten
  | .cancel creditId graceRemainingNanos => do
    let bad ← isZero creditId 64
    rejectIf (bad = true) (.protocolError .invalidBodyValue "Cancel credit is zero")
    let grace ← uint graceRemainingNanos 64
    let a ← packUint 8 creditId
    let b ← packUint 8 grace
    pure [a, b].flatten
  | .terminal creditId kind payload => do
    let bad ← isZero creditId 64 <||> pure (decide (maxPayloadBytes < payload.length))
    rejectIf (bad = true) (.protocolError .invalidBodyValue "invalid Terminal body")
    let value ← terminalKind.int kind
    let a ← packUint 8 creditId
    let b ← packUint 1 value
    let c ← packUint 4 payload.length
    pure [a, b, [0, 0, 0], c, payload].flatten
  | .stopAccepting | .drained => pure []
  | .stop reason => do
    let value ← stopReason.int reason
    packUint 1 value
  | .stopped outcome => do
    let value ← stoppedOutcome.int outcome
    packUint 1 value
  | .ping nonce | .pong nonce => do
    let bad ← isZero nonce 64
    rejectIf (bad = true) (.protocolError .invalidBodyValue "ping nonce is zero")
    packUint 8 nonce

/-! ## Frames -/

structure FrameFields where
  identity : SessionIdentity
  sequence : Int
  direction : Direction
  state : WorkerState
  invocationId : Int
  body : FrameBody
  deriving DecidableEq

/-- `Frame.__post_init__`. -/
def FrameFields.postInit (f : FrameFields) : Py Unit := do
  let sequence ← uint f.sequence 64
  rejectIf (sequence = 0) (.protocolError .invalidSequence "PXWP frame sequence is zero")
  let _ ← uint f.invocationId 64
  let kind := bodyKind f.body
  let expectedDirection : Direction := if kind ∈ hostKinds then .hostToWorker else .workerToHost
  rejectIf (f.direction ≠ expectedDirection) (.protocolError .directionMismatch "PXWP direction is invalid")
  rejectIf (f.state ∉ validStates kind) (.protocolError .stateMismatch "PXWP worker state is invalid")
  rejectIf (decide (kind ∈ invocationKinds) ≠ decide (f.invocationId ≠ 0))
    (.protocolError .invalidInvocationScope "PXWP invocation scope is inconsistent with frame kind")
  let _ ← encodeBody f.body
  pure ()

/-- A `Frame` passed its `__post_init__`. -/
def Frame := {f : FrameFields // f.postInit = .ok ()}

instance : DecidableEq Frame := inferInstanceAs (DecidableEq {f : FrameFields // f.postInit = .ok ()})

/-- `Frame.encode`. -/
def Frame.encode (f : Frame) : Py Bytes := do
  let body ← encodeBody f.val.body
  let totalLength := headerBytes + body.length
  rejectIf (maxFrameBytes < totalLength) (.protocolError .frameTooLarge "PXWP frame exceeds the maximum")
  let identity := f.val.identity.val
  let versionField ← packUint 2 version
  let headerField ← packUint 2 headerBytes
  let totalField ← packUint 4 totalLength
  let kind ← frameKind.int (bodyKind f.val.body)
  let kindField ← packUint 1 kind
  let directionValue ← direction.int f.val.direction
  let directionField ← packUint 1 directionValue
  let stateValue ← workerState.int f.val.state
  let stateField ← packUint 1 stateValue
  let flagsField ← packUint 1 0
  let sequenceField ← packUint 8 f.val.sequence
  let hostEpochField ← packUint 8 identity.runtimeHostEpoch
  let domainEpochField ← packUint 8 identity.processDomainEpoch
  let generationField ← packUint 8 identity.instanceGeneration
  let invocationField ← packUint 8 f.val.invocationId
  let revisionField ← packUint 8 identity.sourcePlanRevision
  let lengthField ← packUint 4 body.length
  let header := [packBytes 4 magic, versionField, headerField, totalField, kindField, directionField, stateField,
    flagsField, sequenceField, packBytes 16 identity.runtimeHostId, hostEpochField,
    packBytes 16 identity.processDomainId, domainEpochField, packBytes 16 identity.instanceId, generationField,
    invocationField, revisionField, packBytes 32 identity.targetSliceDigest, lengthField].flatten
  pure (header ++ body)

def frameDigest (sha256 : Sha256) (encoded : Bytes) : Py Bytes := do
  let versionField ← packUint 2 digestVersion
  let domainLength ← packUint 4 digestDomain.length
  let ordinal ← packUint 4 1
  let length ← packUint 8 encoded.length
  let count ← packUint 4 1
  let transcript := [digestMagic, versionField, domainLength, digestDomain, [1], ordinal, length, encoded, [255],
    count].flatten
  pure (sha256 transcript).asBytes

/-! ## Decoding -/

def exactLength (body : Bytes) (expected : Nat) : Py Unit :=
  rejectIf (body.length ≠ expected) (.protocolError .invalidBodyLength "PXWP body length is invalid")

/-- `body[index]` as an integer. -/
def byteAt (body : Bytes) (index : Nat) : Py Int := do
  let byte ← okOr body[index]? .indexError
  pure byte.toNat

def decodeBody (kind : FrameKind) (body : Bytes) : Py FrameBody :=
  match kind with
  | .start => do
    exactLength body 32
    let fields : Format FrameBody := do
      let maxInflight ← Format.uint 4
      let maxRetained ← Format.uint 8
      let maxPayload ← Format.uint 4
      let interval ← Format.uint 8
      let timeout ← Format.uint 8
      pure (.start maxInflight maxRetained maxPayload interval timeout)
    unpack fields body
  | .ready => do
    exactLength body 32
    pure (.ready body)
  | .construct => do
    exactLength body 80
    pure (.construct (body.take 32) ((body.drop 32).take 32) ((body.drop 64).take 16))
  | .constructed => do
    exactLength body 1
    let value ← byteAt body 0
    let outcome ← constructOutcome.enum value
    pure (.constructed outcome)
  | .invoke => do
    rejectIf (body.length < 24) (.protocolError .truncated "Invoke body is truncated")
    let fields : Format (Int × Int × Int × Int) := do
      let credit ← Format.uint 8
      let payloadLength ← Format.uint 4
      let responseReservation ← Format.uint 4
      let budget ← Format.uint 8
      pure (credit, payloadLength, responseReservation, budget)
    let (credit, payloadLength, responseReservation, budget) ← unpackFrom fields body 0
    rejectIf ((body.length : Int) ≠ 24 + payloadLength)
      (.protocolError .invalidBodyLength "Invoke payload length is invalid")
    pure (.invoke credit responseReservation budget (body.drop 24))
  | .invoked => do
    exactLength body 8
    let credit ← unpack (Format.uint 8) body
    pure (.invoked credit)
  | .heartbeat => do
    exactLength body 20
    let fields : Format FrameBody := do
      let heartbeatSequence ← Format.uint 8
      let activeInvocations ← Format.uint 4
      let retained ← Format.uint 8
      pure (.heartbeat heartbeatSequence activeInvocations retained)
    unpack fields body
  | .cancel => do
    exactLength body 16
    let fields : Format FrameBody := do
      let credit ← Format.uint 8
      let grace ← Format.uint 8
      pure (.cancel credit grace)
    unpack fields body
  | .terminal => do
    rejectIf (body.length < 16) (.protocolError .truncated "Terminal body is truncated")
    rejectIf ((body.drop 9).take 3 ≠ [0, 0, 0])
      (.protocolError .reservedBitsSet "Terminal reserved bytes are nonzero")
    let credit ← unpackFrom (Format.uint 8) body 0
    let value ← byteAt body 8
    let kind ← terminalKind.enum value
    let payloadLength ← unpackFrom (Format.uint 4) body 12
    rejectIf ((body.length : Int) ≠ 16 + payloadLength)
      (.protocolError .invalidBodyLength "Terminal payload length is invalid")
    pure (.terminal credit kind (body.drop 16))
  | .stopAccepting => do
    exactLength body 0
    pure .stopAccepting
  | .drained => do
    exactLength body 0
    pure .drained
  | .stop => do
    exactLength body 1
    let value ← byteAt body 0
    let reason ← stopReason.enum value
    pure (.stop reason)
  | .stopped => do
    exactLength body 1
    let value ← byteAt body 0
    let outcome ← stoppedOutcome.enum value
    pure (.stopped outcome)
  | .ping => do
    exactLength body 8
    let nonce ← unpack (Format.uint 8) body
    pure (.ping nonce)
  | .pong => do
    exactLength body 8
    let nonce ← unpack (Format.uint 8) body
    pure (.pong nonce)

/-- The tuple `_HEADER` unpacks to. -/
structure Header where
  magic : Bytes
  version : Int
  headerLength : Int
  totalLength : Int
  kind : Int
  direction : Int
  state : Int
  flags : Int
  sequence : Int
  runtimeHostId : Bytes
  runtimeHostEpoch : Int
  processDomainId : Bytes
  processDomainEpoch : Int
  instanceId : Bytes
  instanceGeneration : Int
  invocationId : Int
  sourcePlanRevision : Int
  targetSliceDigest : Bytes
  bodyLength : Int

/-- The format `>4sHHIBBBBQ16sQ16sQ16sQQQ32sI`. -/
def headerFormat : Format Header := do
  let magic ← Format.bytes 4
  let version ← Format.uint 2
  let headerLength ← Format.uint 2
  let totalLength ← Format.uint 4
  let kind ← Format.uint 1
  let direction ← Format.uint 1
  let state ← Format.uint 1
  let flags ← Format.uint 1
  let sequence ← Format.uint 8
  let runtimeHostId ← Format.bytes 16
  let runtimeHostEpoch ← Format.uint 8
  let processDomainId ← Format.bytes 16
  let processDomainEpoch ← Format.uint 8
  let instanceId ← Format.bytes 16
  let instanceGeneration ← Format.uint 8
  let invocationId ← Format.uint 8
  let sourcePlanRevision ← Format.uint 8
  let targetSliceDigest ← Format.bytes 32
  let bodyLength ← Format.uint 4
  pure { magic, version, headerLength, totalLength, kind, direction, state, flags, sequence, runtimeHostId,
         runtimeHostEpoch, processDomainId, processDomainEpoch, instanceId, instanceGeneration, invocationId,
         sourcePlanRevision, targetSliceDigest, bodyLength }

/-- `Frame.decode`. -/
def Frame.decode (encoded : Bytes) : Py Frame := do
  rejectIf (maxFrameBytes < encoded.length) (.protocolError .frameTooLarge "PXWP frame exceeds the maximum")
  rejectIf (encoded.length < headerBytes) (.protocolError .truncated "PXWP frame is truncated")
  let h ← unpackFrom headerFormat encoded 0
  rejectIf (h.magic ≠ magic) (.protocolError .invalidMagic "PXWP magic is invalid")
  rejectIf (h.version ≠ version) (.protocolError .unsupportedVersion "PXWP version is unsupported")
  rejectIf (h.headerLength ≠ headerBytes) (.protocolError .invalidHeaderLength "PXWP header length is invalid")
  rejectIf (h.totalLength ≠ encoded.length) (.protocolError .invalidFrameLength "PXWP total length is invalid")
  let kind ← frameKind.enum h.kind
  let frameDirection ← direction.enum h.direction
  let state ← workerState.enum h.state
  rejectIf (h.flags ≠ 0) (.protocolError .reservedBitsSet "PXWP flags are nonzero")
  rejectIf (headerBytes + h.bodyLength ≠ encoded.length)
    (.protocolError .invalidBodyLength "PXWP body length is invalid")
  let identity ← construct IdentityFields.postInit
    { runtimeHostId := h.runtimeHostId, runtimeHostEpoch := h.runtimeHostEpoch
      processDomainId := h.processDomainId, processDomainEpoch := h.processDomainEpoch
      instanceId := h.instanceId, instanceGeneration := h.instanceGeneration
      sourcePlanRevision := h.sourcePlanRevision, targetSliceDigest := h.targetSliceDigest }
  let body ← decodeBody kind (encoded.drop headerBytes)
  let frame : Frame ← construct FrameFields.postInit
    { identity, sequence := h.sequence, direction := frameDirection, state, invocationId := h.invocationId, body }
  let nonCanonical := Raised.protocolError .nonCanonicalFrame "PXWP frame is not canonical"
  rejectIf (bodyKind frame.val.body ≠ kind) nonCanonical
  let canonical ← Frame.encode frame
  rejectIf (canonical ≠ encoded) nonCanonical
  pure frame

end Worker
end ParaEgox
