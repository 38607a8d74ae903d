import ParaEgox.Digest

/-!
# ProcessFrame — the frames of the live worker protocol, as the host builds and decodes them

PXWP v1 on the Rust side: the session identity with its nonzero fences, the fifteen bodies with their bounds, the 148-byte
header, and the strict decoder, which rebuilds what it read and compares bytes.  Offsets are those of the source; a slice
whose bounds were checked before is read with the error of `read_array`, which is then never returned.
-/
namespace ParaEgox
namespace Process

open Check

inductive ProcessProtocolError
  | frameTooLarge
  | truncated
  | invalidMagic
  | unsupportedVersion
  | invalidHeaderLength
  | invalidFrameLength
  | invalidEnumValue
  | reservedBitsSet
  | invalidIdentity
  | invalidSequence
  | invalidInvocationScope
  | invalidBodyLength
  | invalidBodyValue
  | directionMismatch
  | stateMismatch
  | phaseViolation
  | sequenceViolation
  | identityMismatch
  | creditExhausted
  | duplicateCredit
  | unknownCredit
  | retainedBytesExceeded
  | retainedSnapshotMismatch
  | heartbeatSequenceViolation
  | pingViolation
  | nonCanonicalFrame
  | digestFailure
  | integerOverflow
  | invocationAckViolation
  deriving DecidableEq

abbrev Res := Except ProcessProtocolError

theorem spells_magic : ([80, 88, 87, 80] : Bytes) = ascii "PXWP" := by simp [ascii]

def processWorkerProtocolMagic : Bytes := Text.bytes (s := "PXWP") ⟨_, spells_magic⟩
def processWorkerProtocolVersion : UInt16 := 1
def processWorkerHeaderBytes : Nat := 148
def maxProcessWorkerFrameBytes : Nat := 1048576
def maxProcessWorkerPayloadBytes : Nat := maxProcessWorkerFrameBytes - processWorkerHeaderBytes - 24
def maxProcessWorkerCredits : UInt32 := 4096
def maxProcessWorkerRetainedBytes : UInt64 := 4 * 1024 * 1024 * 1024
def reservedFlags : UInt8 := 0

theorem spells_digestDomain :
    ([112, 97, 114, 97, 101, 103, 111, 120, 46, 114, 117, 110, 116, 105, 109, 101, 46, 112, 114, 111, 99, 101, 115, 115, 45,
      119, 111, 114, 107, 101, 114, 45, 102, 114, 97, 109, 101, 46, 115, 104, 97, 50, 53, 54, 46, 118, 49] : Bytes)
      = ascii "paraegox.runtime.process-worker-frame.sha256.v1" := by
  simp [ascii]

def processFrameDigestDomain : Bytes :=
  Text.bytes (s := "paraegox.runtime.process-worker-frame.sha256.v1") ⟨_, spells_digestDomain⟩

/-! ## Identity -/

def Nonzero (value : Bytes) : Prop := ∃ b ∈ value, b ≠ 0

instance (value : Bytes) : Decidable (Nonzero value) := inferInstanceAs (Decidable (∃ b ∈ value, b ≠ 0))

structure ProcessSessionGenerations where
  runtimeHostEpoch : UInt64
  processDomainEpoch : UInt64
  instanceGeneration : UInt64
  live : runtimeHostEpoch ≠ 0 ∧ processDomainEpoch ≠ 0 ∧ instanceGeneration ≠ 0

def ProcessSessionGenerations.tryNew (runtimeHostEpoch processDomainEpoch instanceGeneration : UInt64) :
    Res ProcessSessionGenerations := do
  let live ← require (runtimeHostEpoch ≠ 0 ∧ processDomainEpoch ≠ 0 ∧ instanceGeneration ≠ 0) .invalidIdentity
  pure ⟨runtimeHostEpoch, processDomainEpoch, instanceGeneration, live.down⟩

structure ProcessSessionIdentity where
  runtimeHost : Ref16
  runtimeHostEpoch : UInt64
  processDomain : Ref16
  processDomainEpoch : UInt64
  instanceRef : Ref16
  instanceGeneration : UInt64
  sourceRevision : UInt64
  targetSliceDigest : Digest32
  live : runtimeHostEpoch ≠ 0 ∧ processDomainEpoch ≠ 0 ∧ instanceGeneration ≠ 0
  revised : sourceRevision ≠ 0
  named : Nonzero runtimeHost.asBytes ∧ Nonzero processDomain.asBytes ∧ Nonzero instanceRef.asBytes
  sliced : Nonzero targetSliceDigest.asBytes
  deriving DecidableEq

/-- `validate_nonzero_16` and `validate_nonzero_32`, with the proof they leave. -/
def validateNonzero (value : Bytes) : Res (PLift (Nonzero value)) := require (Nonzero value) .invalidIdentity

def ProcessSessionIdentity.tryNew (runtimeHost processDomain instanceRef : Ref16)
    (generations : ProcessSessionGenerations) (sourceRevision : UInt64) (targetSliceDigest : Digest32) :
    Res ProcessSessionIdentity := do
  let revised ← require (sourceRevision ≠ 0) .invalidIdentity
  let host ← validateNonzero runtimeHost.asBytes
  let domain ← validateNonzero processDomain.asBytes
  let inst ← validateNonzero instanceRef.asBytes
  let sliced ← validateNonzero targetSliceDigest.asBytes
  pure
    { runtimeHost, runtimeHostEpoch := generations.runtimeHostEpoch
      processDomain, processDomainEpoch := generations.processDomainEpoch
      instanceRef, instanceGeneration := generations.instanceGeneration
      sourceRevision, targetSliceDigest
      live := generations.live, revised := revised.down, named := ⟨host.down, domain.down, inst.down⟩
      sliced := sliced.down }

/-! ## Discriminants -/

/-- The `match value` of an enumeration's `TryFrom<u8>`. -/
def tryFromTable {α : Type} (table : List (UInt8 × α)) (value : UInt8) : Res α :=
  okOr (table.lookup value) .invalidEnumValue

inductive ProcessFrameDirection
  | hostToWorker
  | workerToHost
  deriving DecidableEq

def ProcessFrameDirection.code : ProcessFrameDirection → UInt8
  | .hostToWorker => 1
  | .workerToHost => 2

def ProcessFrameDirection.tryFrom : UInt8 → Res ProcessFrameDirection :=
  tryFromTable [(1, .hostToWorker), (2, .workerToHost)]

inductive ProcessWorkerState
  | starting
  | constructing
  | running
  | draining
  | stopping
  | stopped
  deriving DecidableEq

def ProcessWorkerState.code : ProcessWorkerState → UInt8
  | .starting => 1
  | .constructing => 2
  | .running => 3
  | .draining => 4
  | .stopping => 5
  | .stopped => 6

def ProcessWorkerState.tryFrom : UInt8 → Res ProcessWorkerState :=
  tryFromTable [(1, .starting), (2, .constructing), (3, .running), (4, .draining), (5, .stopping), (6, .stopped)]

inductive ProcessFrameKind
  | start
  | ready
  | construct
  | constructed
  | invoke
  | heartbeat
  | cancel
  | terminal
  | stopAccepting
  | drained
  | stop
  | stopped
  | ping
  | pong
  | invoked
  deriving DecidableEq

def ProcessFrameKind.code : ProcessFrameKind → UInt8
  | .start => 1
  | .ready => 2
  | .construct => 3
  | .constructed => 4
  | .invoke => 5
  | .heartbeat => 6
  | .cancel => 7
  | .terminal => 8
  | .stopAccepting => 9
  | .drained => 10
  | .stop => 11
  | .stopped => 12
  | .ping => 13
  | .pong => 14
  | .invoked => 15

def ProcessFrameKind.tryFrom : UInt8 → Res ProcessFrameKind :=
  tryFromTable [(1, .start), (2, .ready), (3, .construct), (4, .constructed), (5, .invoke), (6, .heartbeat),
    (7, .cancel), (8, .terminal), (9, .stopAccepting), (10, .drained), (11, .stop), (12, .stopped), (13, .ping),
    (14, .pong), (15, .invoked)]

inductive ConstructOutcome
  | constructed
  | rejected
  | failed
  deriving DecidableEq

def ConstructOutcome.code : ConstructOutcome → UInt8
  | .constructed => 1
  | .rejected => 2
  | .failed => 3

def ConstructOutcome.tryFrom : UInt8 → Res ConstructOutcome :=
  tryFromTable [(1, .constructed), (2, .rejected), (3, .failed)]

inductive InvocationTerminalKind
  | completed
  | rejected
  | failed
  | cancelledBeforeRun
  | uncertain
  deriving DecidableEq

def InvocationTerminalKind.code : InvocationTerminalKind → UInt8
  | .completed => 1
  | .rejected => 2
  | .failed => 3
  | .cancelledBeforeRun => 4
  | .uncertain => 5

def InvocationTerminalKind.tryFrom : UInt8 → Res InvocationTerminalKind :=
  tryFromTable [(1, .completed), (2, .rejected), (3, .failed), (4, .cancelledBeforeRun), (5, .uncertain)]

inductive StopReason
  | planned
  | applyReplacement
  | protocolFailure
  | hostShutdown
  deriving DecidableEq

def StopReason.code : StopReason → UInt8
  | .planned => 1
  | .applyReplacement => 2
  | .protocolFailure => 3
  | .hostShutdown => 4

def StopReason.tryFrom : UInt8 → Res StopReason :=
  tryFromTable [(1, .planned), (2, .applyReplacement), (3, .protocolFailure), (4, .hostShutdown)]

inductive StoppedOutcome
  | clean
  | forced
  | failed
  deriving DecidableEq

def StoppedOutcome.code : StoppedOutcome → UInt8
  | .clean => 1
  | .forced => 2
  | .failed => 3

def StoppedOutcome.tryFrom : UInt8 → Res StoppedOutcome :=
  tryFromTable [(1, .clean), (2, .forced), (3, .failed)]

/-! ## Bodies -/

inductive ProcessFrameBody
  | start (maxInflight : UInt32) (maxRetainedBytes : UInt64) (maxPayloadBytes : UInt32)
      (heartbeatIntervalNanos heartbeatTimeoutNanos : UInt64)
  | ready (workerRuntimeDigest : Digest32)
  | construct (artifactDigest configDigest : Digest32) (entrypointRef : Ref16)
  | constructed (outcome : ConstructOutcome)
  | invoke (creditId : UInt64) (responseReservationBytes : UInt32) (remainingBudgetNanos : UInt64) (payload : Bytes)
  | invoked (creditId : UInt64)
  | heartbeat (heartbeatSequence : UInt64) (activeInvocations : UInt32) (retainedBytes : UInt64)
  | cancel (creditId graceRemainingNanos : UInt64)
  | terminal (creditId : UInt64) (kind : InvocationTerminalKind) (payload : Bytes)
  | stopAccepting
  | drained
  | stop (reason : StopReason)
  | stopped (outcome : StoppedOutcome)
  | ping (nonce : UInt64)
  | pong (nonce : UInt64)
  deriving DecidableEq

def lengthU32 (length : Nat) : Res UInt32 := do
  rejectIf (2 ^ 32 ≤ length) .integerOverflow
  pure (UInt32.ofNat length)

namespace ProcessFrameBody

def kind : ProcessFrameBody → ProcessFrameKind
  | .start .. => .start
  | .ready .. => .ready
  | .construct .. => .construct
  | .constructed .. => .constructed
  | .invoke .. => .invoke
  | .invoked .. => .invoked
  | .heartbeat .. => .heartbeat
  | .cancel .. => .cancel
  | .terminal .. => .terminal
  | .stopAccepting => .stopAccepting
  | .drained => .drained
  | .stop .. => .stop
  | .stopped .. => .stopped
  | .ping .. => .ping
  | .pong .. => .pong

def requiredDirection : ProcessFrameBody → ProcessFrameDirection
  | .start .. | .construct .. | .invoke .. | .cancel .. | .stopAccepting | .stop .. | .ping .. => .hostToWorker
  | .ready .. | .constructed .. | .invoked .. | .heartbeat .. | .terminal .. | .drained | .stopped .. | .pong .. =>
    .workerToHost

def stateIsValid (state : ProcessWorkerState) : ProcessFrameBody → Bool
  | .start .. | .ready .. => state = .starting
  | .construct .. | .constructed .. => state = .constructing
  | .invoke .. => state = .running
  | .invoked .. | .heartbeat .. | .cancel .. | .terminal .. | .ping .. | .pong .. => state = .running ∨ state = .draining
  | .stopAccepting | .drained => state = .draining
  | .stop .. => state = .stopping
  | .stopped .. => state = .stopped

def invocationScoped : ProcessFrameBody → Bool
  | .invoke .. | .invoked .. | .cancel .. | .terminal .. => true
  | _ => false

def validate : ProcessFrameBody → Res Unit
  | .start maxInflight maxRetainedBytes maxPayloadBytes heartbeatIntervalNanos heartbeatTimeoutNanos => do
    let payloadLimit ← lengthU32 maxProcessWorkerPayloadBytes
    rejectIf (maxInflight = 0 ∨ maxProcessWorkerCredits < maxInflight ∨ maxRetainedBytes = 0
      ∨ maxProcessWorkerRetainedBytes < maxRetainedBytes ∨ maxPayloadBytes = 0 ∨ payloadLimit < maxPayloadBytes
      ∨ heartbeatIntervalNanos = 0 ∨ heartbeatTimeoutNanos ≤ heartbeatIntervalNanos) .invalidBodyValue
  | .ready workerRuntimeDigest => do
    let _ ← validateNonzero workerRuntimeDigest.asBytes
    pure ()
  | .construct artifactDigest configDigest entrypointRef => do
    let _ ← validateNonzero artifactDigest.asBytes
    let _ ← validateNonzero configDigest.asBytes
    let _ ← validateNonzero entrypointRef.asBytes
    pure ()
  | .invoke creditId _ remainingBudgetNanos payload =>
    rejectIf (creditId = 0 ∨ remainingBudgetNanos = 0 ∨ maxProcessWorkerPayloadBytes < payload.length) .invalidBodyValue
  | .invoked creditId => rejectIf (creditId = 0) .invalidBodyValue
  | .heartbeat heartbeatSequence _ _ => rejectIf (heartbeatSequence = 0) .invalidBodyValue
  | .cancel creditId _ => rejectIf (creditId = 0) .invalidBodyValue
  | .terminal creditId _ payload => do
    rejectIf (creditId = 0) .invalidBodyValue
    rejectIf (maxProcessWorkerPayloadBytes < payload.length) .invalidBodyValue
  | .ping nonce => rejectIf (nonce = 0) .invalidBodyValue
  | .pong nonce => rejectIf (nonce = 0) .invalidBodyValue
  | .constructed .. | .stopAccepting | .drained | .stop .. | .stopped .. => .ok ()

end ProcessFrameBody

def encU16 (n : UInt16) : Bytes := bytesBE 2 n.toNat
def encU32 (n : UInt32) : Bytes := bytesBE 4 n.toNat
def encU64 (n : UInt64) : Bytes := bytesBE 8 n.toNat

def ProcessFrameBody.encode (body : ProcessFrameBody) : Res Bytes := do
  body.validate
  match body with
  | .start maxInflight maxRetainedBytes maxPayloadBytes heartbeatIntervalNanos heartbeatTimeoutNanos =>
    pure [encU32 maxInflight, encU64 maxRetainedBytes, encU32 maxPayloadBytes, encU64 heartbeatIntervalNanos,
      encU64 heartbeatTimeoutNanos].flatten
  | .ready workerRuntimeDigest => pure workerRuntimeDigest.asBytes
  | .construct artifactDigest configDigest entrypointRef =>
    pure [artifactDigest.asBytes, configDigest.asBytes, entrypointRef.asBytes].flatten
  | .constructed outcome => pure [outcome.code]
  | .invoke creditId responseReservationBytes remainingBudgetNanos payload => do
    let length ← lengthU32 payload.length
    pure [encU64 creditId, encU32 length, encU32 responseReservationBytes, encU64 remainingBudgetNanos, payload].flatten
  | .invoked creditId => pure (encU64 creditId)
  | .heartbeat heartbeatSequence activeInvocations retainedBytes =>
    pure [encU64 heartbeatSequence, encU32 activeInvocations, encU64 retainedBytes].flatten
  | .cancel creditId graceRemainingNanos => pure [encU64 creditId, encU64 graceRemainingNanos].flatten
  | .terminal creditId kind payload => do
    let length ← lengthU32 payload.length
    pure [encU64 creditId, [kind.code], [0, 0, 0], encU32 length, payload].flatten
  | .stopAccepting | .drained => pure []
  | .stop reason => pure [reason.code]
  | .stopped outcome => pure [outcome.code]
  | .ping nonce | .pong nonce => pure (encU64 nonce)

/-! ## Frames -/

structure ProcessFrame where
  identity : ProcessSessionIdentity
  sequence : UInt64
  direction : ProcessFrameDirection
  state : ProcessWorkerState
  invocationId : UInt64
  body : ProcessFrameBody
  canonicalWire : Bytes
  digest : Digest32
  deriving DecidableEq

def buildFrameWire (identity : ProcessSessionIdentity) (sequence : UInt64) (direction : ProcessFrameDirection)
    (state : ProcessWorkerState) (invocationId : UInt64) (kind : ProcessFrameKind) (body : Bytes) : Res Bytes := do
  let totalLength := processWorkerHeaderBytes + body.length
  rejectIf (maxProcessWorkerFrameBytes < totalLength) .frameTooLarge
  let total ← lengthU32 totalLength
  let bodyLength ← lengthU32 body.length
  let wire := [processWorkerProtocolMagic, encU16 processWorkerProtocolVersion,
    encU16 (UInt16.ofNat processWorkerHeaderBytes), encU32 total, [kind.code], [direction.code], [state.code],
    [reservedFlags], encU64 sequence, identity.runtimeHost.asBytes, encU64 identity.runtimeHostEpoch,
    identity.processDomain.asBytes, encU64 identity.processDomainEpoch, identity.instanceRef.asBytes,
    encU64 identity.instanceGeneration, encU64 invocationId, encU64 identity.sourceRevision,
    identity.targetSliceDigest.asBytes, encU32 bodyLength, body].flatten
  rejectIf (wire.length ≠ totalLength) .invalidFrameLength
  pure wire

def digestFrame (sha256 : Sha256) (frame : Bytes) : Res Digest32 :=
  mapErr (digest32 sha256 processFrameDigestDomain [frame]) .digestFailure

def ProcessFrame.tryNew (sha256 : Sha256) (identity : ProcessSessionIdentity) (sequence : UInt64)
    (direction : ProcessFrameDirection) (state : ProcessWorkerState) (invocationId : UInt64) (body : ProcessFrameBody) :
    Res ProcessFrame := do
  rejectIf (sequence = 0) .invalidSequence
  rejectIf (direction ≠ body.requiredDirection) .directionMismatch
  rejectIf (body.stateIsValid state = false) .stateMismatch
  rejectIf (body.invocationScoped ≠ decide (invocationId ≠ 0)) .invalidInvocationScope
  let bodyWire ← body.encode
  let canonicalWire ← buildFrameWire identity sequence direction state invocationId body.kind bodyWire
  let digest ← digestFrame sha256 canonicalWire
  pure { identity, sequence, direction, state, invocationId, body, canonicalWire, digest }

/-! ## Decoding -/

def readArray (n : Nat) (frame : Bytes) (offset : Nat) : Res {bs : Bytes // bs.length = n} :=
  if h : offset + n ≤ frame.length then
    .ok ⟨(frame.drop offset).take n, List.length_take_of_le (by rw [List.length_drop]; omega)⟩
  else .error .truncated

def readU16 (frame : Bytes) (offset : Nat) : Res UInt16 := do
  let bytes ← readArray 2 frame offset
  pure (UInt16.ofNat (fromBE bytes.val))

def readU32 (frame : Bytes) (offset : Nat) : Res UInt32 := do
  let bytes ← readArray 4 frame offset
  pure (UInt32.ofNat (fromBE bytes.val))

def readU64 (frame : Bytes) (offset : Nat) : Res UInt64 := do
  let bytes ← readArray 8 frame offset
  pure (UInt64.ofNat (fromBE bytes.val))

def readRef16 (frame : Bytes) (offset : Nat) : Res Ref16 := do
  let bytes ← readArray 16 frame offset
  pure (Ref16.fromBytes bytes)

def readDigest32 (frame : Bytes) (offset : Nat) : Res Digest32 := do
  let bytes ← readArray 32 frame offset
  pure (Digest32.fromBytes bytes)

/-- `frame[index]`; every index the decoder uses is below a length it has checked. -/
def byteAt (frame : Bytes) (index : Nat) : Res UInt8 := okOr frame[index]? .truncated

/-- The closure `exact` of `decode_body`. -/
def exactLength (body : Bytes) (length : Nat) : Res Unit := rejectIf (body.length ≠ length) .invalidBodyLength

def decodeBody (kind : ProcessFrameKind) (body : Bytes) : Res ProcessFrameBody :=
  match kind with
  | .start => do
    exactLength body 32
    let maxInflight ← readU32 body 0
    let maxRetainedBytes ← readU64 body 4
    let maxPayloadBytes ← readU32 body 12
    let heartbeatIntervalNanos ← readU64 body 16
    let heartbeatTimeoutNanos ← readU64 body 24
    pure (.start maxInflight maxRetainedBytes maxPayloadBytes heartbeatIntervalNanos heartbeatTimeoutNanos)
  | .ready => do
    exactLength body 32
    let workerRuntimeDigest ← readDigest32 body 0
    pure (.ready workerRuntimeDigest)
  | .construct => do
    exactLength body 80
    let artifactDigest ← readDigest32 body 0
    let configDigest ← readDigest32 body 32
    let entrypointRef ← readRef16 body 64
    pure (.construct artifactDigest configDigest entrypointRef)
  | .constructed => do
    exactLength body 1
    let value ← byteAt body 0
    let outcome ← ConstructOutcome.tryFrom value
    pure (.constructed outcome)
  | .invoke => do
    rejectIf (body.length < 24) .truncated
    let payloadLength ← readU32 body 8
    rejectIf (body.length ≠ 24 + payloadLength.toNat) .invalidBodyLength
    let creditId ← readU64 body 0
    let responseReservationBytes ← readU32 body 12
    let remainingBudgetNanos ← readU64 body 16
    pure (.invoke creditId responseReservationBytes remainingBudgetNanos (body.drop 24))
  | .invoked => do
    exactLength body 8
    let creditId ← readU64 body 0
    pure (.invoked creditId)
  | .heartbeat => do
    exactLength body 20
    let heartbeatSequence ← readU64 body 0
    let activeInvocations ← readU32 body 8
    let retainedBytes ← readU64 body 12
    pure (.heartbeat heartbeatSequence activeInvocations retainedBytes)
  | .cancel => do
    exactLength body 16
    let creditId ← readU64 body 0
    let graceRemainingNanos ← readU64 body 8
    pure (.cancel creditId graceRemainingNanos)
  | .terminal => do
    rejectIf (body.length < 16) .truncated
    rejectIf ((body.drop 9).take 3 ≠ [0, 0, 0]) .reservedBitsSet
    let payloadLength ← readU32 body 12
    rejectIf (body.length ≠ 16 + payloadLength.toNat) .invalidBodyLength
    let creditId ← readU64 body 0
    let value ← byteAt body 8
    let kind ← InvocationTerminalKind.tryFrom value
    pure (.terminal creditId kind (body.drop 16))
  | .stopAccepting => do
    exactLength body 0
    pure .stopAccepting
  | .drained => do
    exactLength body 0
    pure .drained
  | .stop => do
    exactLength body 1
    let value ← byteAt body 0
    let reason ← StopReason.tryFrom value
    pure (.stop reason)
  | .stopped => do
    exactLength body 1
    let value ← byteAt body 0
    let outcome ← StoppedOutcome.tryFrom value
    pure (.stopped outcome)
  | .ping => do
    exactLength body 8
    let nonce ← readU64 body 0
    pure (.ping nonce)
  | .pong => do
    exactLength body 8
    let nonce ← readU64 body 0
    pure (.pong nonce)

/-- `decode_frame`.  On a 64-bit host no length of a `u32` overflows a `usize`. -/
def ProcessFrame.decode (sha256 : Sha256) (frame : Bytes) : Res ProcessFrame := do
  rejectIf (maxProcessWorkerFrameBytes < frame.length) .frameTooLarge
  rejectIf (frame.length < processWorkerHeaderBytes) .truncated
  rejectIf (frame.take 4 ≠ processWorkerProtocolMagic) .invalidMagic
  let version ← readU16 frame 4
  rejectIf (version ≠ processWorkerProtocolVersion) .unsupportedVersion
  let headerLength ← readU16 frame 6
  rejectIf (headerLength.toNat ≠ processWorkerHeaderBytes) .invalidHeaderLength
  let totalLength ← readU32 frame 8
  rejectIf (totalLength.toNat ≠ frame.length) .invalidFrameLength
  let kindValue ← byteAt frame 12
  let kind ← ProcessFrameKind.tryFrom kindValue
  let directionValue ← byteAt frame 13
  let direction ← ProcessFrameDirection.tryFrom directionValue
  let stateValue ← byteAt frame 14
  let state ← ProcessWorkerState.tryFrom stateValue
  let flags ← byteAt frame 15
  rejectIf (flags ≠ reservedFlags) .reservedBitsSet
  let sequence ← readU64 frame 16
  let runtimeHost ← readRef16 frame 24
  let runtimeHostEpoch ← readU64 frame 40
  let processDomain ← readRef16 frame 48
  let processDomainEpoch ← readU64 frame 64
  let instanceRef ← readRef16 frame 72
  let instanceGeneration ← readU64 frame 88
  let invocationId ← readU64 frame 96
  let sourceRevision ← readU64 frame 104
  let targetSliceDigest ← readDigest32 frame 112
  let bodyLength ← readU32 frame 144
  rejectIf (processWorkerHeaderBytes + bodyLength.toNat ≠ frame.length) .invalidBodyLength
  let generations ← ProcessSessionGenerations.tryNew runtimeHostEpoch processDomainEpoch instanceGeneration
  let identity ← ProcessSessionIdentity.tryNew runtimeHost processDomain instanceRef generations sourceRevision
    targetSliceDigest
  let body ← decodeBody kind (frame.drop processWorkerHeaderBytes)
  let decoded ← ProcessFrame.tryNew sha256 identity sequence direction state invocationId body
  rejectIf (decoded.canonicalWire ≠ frame) .nonCanonicalFrame
  pure decoded

end Process
end ParaEgox
