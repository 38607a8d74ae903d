import ParaEgox.Checked
import ParaEgox.Fields

/-!
# Watchdog — the frames between a RuntimeHost and its service manager

Every frame has forty bytes: the magic, the version, the kind, the child generation, the direction-local sequence, one value and
eight reserved bytes.  The body fixes the direction.  Decoding is strict, and reads back what was encoded.
-/
namespace ParaEgox
namespace Watchdog

open Check Wire

def hostWatchdogProtocolMagic : Bytes := Text.bytes (s := "PXHW") ⟨_, by conv => rhs; simp [ascii]⟩
def hostWatchdogProtocolVersion : Nat := 1
def hostWatchdogFrameBytes : Nat := 40

inductive HostWatchdogProtocolError
  | wrongLength
  | magicMismatch
  | unsupportedVersion
  | unknownKind
  | zeroGeneration
  | zeroSequence
  | zeroControlProbeNonce
  | invalidBody
  | nonZeroReserved

inductive HostBootstrapPhase
  | reactorStarted
  | controlReady
  | running
  deriving DecidableEq

inductive HostWatchdogDirection
  | hostToManager
  | managerToHost
  deriving DecidableEq

inductive HostWatchdogFrameBody
  | bootstrapProgress (phase : HostBootstrapPhase)
  | runningHeartbeat
  | controlProbe (nonce : UInt64)
  | controlAck (nonce : UInt64)

/-- Generation, sequence and nonce are not zero; a frame is built from values that passed `nonZero`. -/
structure HostWatchdogFrame where
  generation : UInt64
  sequence : UInt64
  body : HostWatchdogFrameBody

def nonZero (value : UInt64) (e : HostWatchdogProtocolError) : Except HostWatchdogProtocolError UInt64 := do
  rejectIf (value = 0) e
  pure value

def HostBootstrapPhase.wire : HostBootstrapPhase → UInt64
  | .reactorStarted => 1
  | .controlReady => 2
  | .running => 3

def HostBootstrapPhase.tryFromWire (value : UInt64) : Except HostWatchdogProtocolError HostBootstrapPhase :=
  if value = 1 then .ok .reactorStarted
  else if value = 2 then .ok .controlReady
  else if value = 3 then .ok .running
  else .error .invalidBody

namespace HostWatchdogFrameBody

def direction : HostWatchdogFrameBody → HostWatchdogDirection
  | .bootstrapProgress _ | .runningHeartbeat | .controlAck _ => .hostToManager
  | .controlProbe _ => .managerToHost

def wireKind : HostWatchdogFrameBody → Nat
  | .bootstrapProgress _ => 1
  | .runningHeartbeat => 2
  | .controlProbe _ => 3
  | .controlAck _ => 4

def wireValue : HostWatchdogFrameBody → UInt64
  | .bootstrapProgress phase => phase.wire
  | .runningHeartbeat => 0
  | .controlProbe nonce | .controlAck nonce => nonce

def fromWire (kind : Nat) (value : UInt64) : Except HostWatchdogProtocolError HostWatchdogFrameBody :=
  match kind with
  | 1 => (HostBootstrapPhase.tryFromWire value).map .bootstrapProgress
  | 2 => if value = 0 then .ok .runningHeartbeat else .error .invalidBody
  | 3 => (nonZero value .zeroControlProbeNonce).map .controlProbe
  | 4 => (nonZero value .zeroControlProbeNonce).map .controlAck
  | _ => .error .unknownKind

end HostWatchdogFrameBody

namespace HostWatchdogFrame

def direction (frame : HostWatchdogFrame) : HostWatchdogDirection := frame.body.direction

def encode (frame : HostWatchdogFrame) : Bytes :=
  [hostWatchdogProtocolMagic, bytesBE 2 hostWatchdogProtocolVersion, bytesBE 2 frame.body.wireKind,
    bytesBE 8 frame.generation.toNat, bytesBE 8 frame.sequence.toNat, bytesBE 8 frame.body.wireValue.toNat,
    bytesBE 8 0].flatten

def decode (bytes : Bytes) : Except HostWatchdogProtocolError HostWatchdogFrame := do
  rejectIf (bytes.length ≠ hostWatchdogFrameBytes) .wrongLength
  rejectIf (bytes.take 4 ≠ hostWatchdogProtocolMagic) .magicMismatch
  rejectIf (fromBE ((bytes.drop 4).take 2) ≠ hostWatchdogProtocolVersion) .unsupportedVersion
  rejectIf ((bytes.drop 32).any (· ≠ 0)) .nonZeroReserved
  let generation ← nonZero (UInt64.ofNat (fromBE ((bytes.drop 8).take 8))) .zeroGeneration
  let sequence ← nonZero (UInt64.ofNat (fromBE ((bytes.drop 16).take 8))) .zeroSequence
  let body ← HostWatchdogFrameBody.fromWire (fromBE ((bytes.drop 6).take 2))
    (UInt64.ofNat (fromBE ((bytes.drop 24).take 8)))
  pure { generation, sequence, body }

end HostWatchdogFrame

end Watchdog
end ParaEgox
