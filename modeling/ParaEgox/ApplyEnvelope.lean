import ParaEgox.Admission
import ParaEgox.TenureProtocol

/-!
# ApplyEnvelope — the signed apply envelope and its wire format

The commitments, the temporal constraint and the request authentication as their constructors leave them, the 37 tagged
fields of an envelope, and the decoder that rebuilds every value through its constructor.  An index or a conversion out of
range is a panic, an outcome of its own beside the errors.
-/
namespace ParaEgox
namespace Envelope

open Check Tlv Admission
open Tenure (TenureProofError)

/-! ## Commitments -/

structure PlanProvenance where
  sourceScope : Ref16
  sourcePlan : Ref16
  sourceRevision : UInt64
  sourcePlanDigest : Digest32
  deriving DecidableEq

def runtimeSliceHeaderVersion : Nat := 1

structure RuntimeSliceHeader where
  target : Ref16
  provenance : PlanProvenance
  assignmentDigest : Digest32
  deriving DecidableEq

inductive ProvenanceContractError
  | digest (e : DigestBuildError)
  | targetSliceDigestMismatch
  deriving DecidableEq

inductive ApplyContractError
  | digest (e : DigestBuildError)
  | provenance (e : ProvenanceContractError)
  | writerRefMismatch
  | writerEpochMismatch
  | writerScopeMismatch
  | controlCommitmentDigestMismatch
  deriving DecidableEq

structure RuntimeSliceCommitment where
  header : RuntimeSliceHeader
  targetSliceDigest : Digest32
  deriving DecidableEq

namespace RuntimeSliceCommitment

def tryNew (sha256 : Sha256) (header : RuntimeSliceHeader) : Except ProvenanceContractError RuntimeSliceCommitment := do
  let targetSliceDigest ← wrapErr .digest (digest32 sha256 targetSliceDigestDomain
    [bytesBE 2 runtimeSliceHeaderVersion, header.target.asBytes, header.provenance.sourceScope.asBytes,
      header.provenance.sourcePlan.asBytes, bytesBE 8 header.provenance.sourceRevision.toNat,
      header.provenance.sourcePlanDigest.asBytes, header.assignmentDigest.asBytes])
  pure ⟨header, targetSliceDigest⟩

def validate (sha256 : Sha256) (slice : RuntimeSliceCommitment) : Except ProvenanceContractError Unit := do
  let recomputed ← tryNew sha256 slice.header
  rejectIf (recomputed.targetSliceDigest ≠ slice.targetSliceDigest) .targetSliceDigestMismatch

end RuntimeSliceCommitment

structure PlanWriterContext where
  writer : Ref16
  epoch : UInt64
  proof : Tenure.WriterTenureProof
  routed : proof.claim.writer = writer
  fenced : proof.claim.epoch = epoch

def PlanWriterContext.tryNew (writer : Ref16) (epoch : UInt64) (proof : Tenure.WriterTenureProof) :
    Except ApplyContractError PlanWriterContext := do
  let routed ← require (proof.claim.writer = writer) .writerRefMismatch
  let fenced ← require (proof.claim.epoch = epoch) .writerEpochMismatch
  pure ⟨writer, epoch, proof, routed.down, fenced.down⟩

structure RuntimeApplyControl where
  writerContext : PlanWriterContext
  expectedActive : ExpectedActive
  operationId : Ref16

def ensureWriterScopeMatches (slice : RuntimeSliceCommitment) (control : RuntimeApplyControl) :
    Except ApplyContractError Unit :=
  rejectIf (control.writerContext.proof.claim.sourceScope ≠ slice.header.provenance.sourceScope) .writerScopeMismatch

def controlCommitmentDigest (sha256 : Sha256) (slice : RuntimeSliceCommitment) (control : RuntimeApplyControl) :
    Except ApplyContractError Digest32 := do
  let header := slice.header
  let writer := control.writerContext
  let proofEnvelopeDigest ← wrapErr .digest (writer.proof.envelopeDigest sha256)
  let expected := ApplyState.expectedTag control.expectedActive
  wrapErr .digest (digest32 sha256 ApplyState.applyControlCommitmentDigestDomain
    [slice.targetSliceDigest.asBytes, bytesBE 2 runtimeSliceHeaderVersion, header.target.asBytes,
      header.provenance.sourceScope.asBytes, header.provenance.sourcePlan.asBytes,
      bytesBE 8 header.provenance.sourceRevision.toNat, header.provenance.sourcePlanDigest.asBytes,
      header.assignmentDigest.asBytes, writer.writer.asBytes, bytesBE 8 writer.epoch.toNat, proofEnvelopeDigest.asBytes,
      bytesBE 2 expected.1, expected.2.asBytes, control.operationId.asBytes])

structure RuntimeApplyControlCommitment where
  slice : RuntimeSliceCommitment
  control : RuntimeApplyControl
  commitmentDigest : Digest32

namespace RuntimeApplyControlCommitment

def tryNew (sha256 : Sha256) (slice : RuntimeSliceCommitment) (control : RuntimeApplyControl) :
    Except ApplyContractError RuntimeApplyControlCommitment := do
  wrapErr .provenance (slice.validate sha256)
  ensureWriterScopeMatches slice control
  let commitmentDigest ← controlCommitmentDigest sha256 slice control
  pure ⟨slice, control, commitmentDigest⟩

def validate (sha256 : Sha256) (c : RuntimeApplyControlCommitment) : Except ApplyContractError Unit := do
  wrapErr .provenance (c.slice.validate sha256)
  ensureWriterScopeMatches c.slice c.control
  let recomputed ← controlCommitmentDigest sha256 c.slice c.control
  rejectIf (recomputed ≠ c.commitmentDigest) .controlCommitmentDigestMismatch

end RuntimeApplyControlCommitment

/-! ## Time -/

structure ClockGeneration where
  value : UInt64
  nonzero : value ≠ 0

def ClockGeneration.tryNew (value : UInt64) : Except TimeError ClockGeneration := do
  let nonzero ← require (value ≠ 0) .invalidClockGeneration
  pure ⟨value, nonzero64 nonzero⟩

inductive TemporalContractError
  | unsupportedVersion
  | zeroOriginalBudget
  | remainingBudgetExceedsOriginal
  | remainingBudgetExtended

def applyTemporalConstraintVersion : Nat := 1

structure ApplyTemporalConstraint where
  constraintId : Ref16
  targetClockDomain : Ref16
  targetClockGeneration : ClockGeneration
  originalBudget : UInt64
  remainingBudget : UInt64
  budgeted : originalBudget ≠ 0
  remains : remainingBudget ≤ originalBudget

def ApplyTemporalConstraint.tryFromParts (version : Nat) (constraintId targetClockDomain : Ref16)
    (targetClockGeneration : ClockGeneration) (originalBudget remainingBudget : UInt64) :
    Except TemporalContractError ApplyTemporalConstraint := do
  rejectIf (version ≠ applyTemporalConstraintVersion) .unsupportedVersion
  let budgeted ← require (originalBudget ≠ 0) .zeroOriginalBudget
  let remains ← require (remainingBudget ≤ originalBudget) .remainingBudgetExceedsOriginal
  pure ⟨constraintId, targetClockDomain, targetClockGeneration, originalBudget, remainingBudget,
    nonzero64 budgeted, remains.down⟩

/-! ## Authentication -/

inductive ApplyAuthError
  | invalidAlgorithm
  | invalidAlgorithmVersion
  | emptyNonce
  | nonceTooLong
  | emptySignature
  | signatureTooLong
  deriving DecidableEq

def maxApplyAuthNonceBytes : Nat := 64
def maxApplyAuthSignatureBytes : Nat := 512

structure ApplyAuthAlgorithm where
  value : UInt16
  nonzero : value ≠ 0

def ApplyAuthAlgorithm.tryNew (value : UInt16) : Except ApplyAuthError ApplyAuthAlgorithm := do
  let nonzero ← require (value ≠ 0) .invalidAlgorithm
  pure ⟨value, nonzero16 nonzero⟩

structure ApplyRequestAuthClaim where
  principal : Ref16
  key : Ref16
  algorithm : ApplyAuthAlgorithm
  algorithmVersion : UInt16
  nonce : Bytes
  versioned : algorithmVersion ≠ 0
  fresh : nonce ≠ []
  bounded : nonce.length ≤ maxApplyAuthNonceBytes

def ApplyRequestAuthClaim.tryNew (principal key : Ref16) (algorithm : ApplyAuthAlgorithm) (algorithmVersion : UInt16)
    (nonce : Bytes) : Except ApplyAuthError ApplyRequestAuthClaim := do
  let versioned ← require (algorithmVersion ≠ 0) .invalidAlgorithmVersion
  let fresh ← require (nonce ≠ []) .emptyNonce
  let bounded ← require (nonce.length ≤ maxApplyAuthNonceBytes) .nonceTooLong
  pure ⟨principal, key, algorithm, algorithmVersion, nonce, nonzero16 versioned, nonempty fresh, bounded.down⟩

structure ApplyRequestAuthentication where
  claim : ApplyRequestAuthClaim
  signature : Bytes
  signed : signature ≠ []
  bounded : signature.length ≤ maxApplyAuthSignatureBytes

def ApplyRequestAuthentication.tryNew (claim : ApplyRequestAuthClaim) (signature : Bytes) :
    Except ApplyAuthError ApplyRequestAuthentication := do
  let signed ← require (signature ≠ []) .emptySignature
  let bounded ← require (signature.length ≤ maxApplyAuthSignatureBytes) .signatureTooLong
  pure ⟨claim, signature, nonempty signed, bounded.down⟩

/-! ## Envelopes -/

inductive EnvelopeContractError
  | apply (e : ApplyContractError)
  | authentication (e : ApplyAuthError)
  | digest (e : DigestBuildError)
  | frameTooLarge
  | canonicalWireMismatch
  | requestDigestMismatch
  deriving DecidableEq

def runtimeApplyEnvelopeVersion : Nat := 1
def applyRequestSigningTranscriptVersion : Nat := 1
def applyEnvelopeFieldCount : Nat := 37
def applyAuthSigningFieldCount : Nat := applyEnvelopeFieldCount - 1

def applyFieldList (c : RuntimeApplyControlCommitment) (temporal : ApplyTemporalConstraint)
    (claim : ApplyRequestAuthClaim) (proofEnvelopeDigest : Digest32) : List Bytes :=
  let header := c.slice.header
  let writer := c.control.writerContext
  let proof := writer.proof
  let expected := ApplyState.expectedTag c.control.expectedActive
  [bytesBE 2 runtimeSliceHeaderVersion, header.target.asBytes, header.provenance.sourceScope.asBytes,
    header.provenance.sourcePlan.asBytes, bytesBE 8 header.provenance.sourceRevision.toNat,
    header.provenance.sourcePlanDigest.asBytes, header.assignmentDigest.asBytes, c.slice.targetSliceDigest.asBytes,
    writer.writer.asBytes, bytesBE 8 writer.epoch.toNat, proof.authority.authority.asBytes, proof.authority.key.asBytes,
    bytesBE 2 proof.authority.algorithm.value.toNat, bytesBE 2 proof.authority.algorithmVersion.toNat,
    proof.claim.sourceScope.asBytes, proof.claim.writer.asBytes, bytesBE 8 proof.claim.epoch.toNat,
    bytesBE 8 proof.claim.supersedesThroughEpoch.toNat, proof.nonce, proof.signature, proofEnvelopeDigest.asBytes,
    bytesBE 2 expected.1, expected.2.asBytes, c.control.operationId.asBytes, c.commitmentDigest.asBytes,
    bytesBE 2 applyTemporalConstraintVersion, temporal.constraintId.asBytes, temporal.targetClockDomain.asBytes,
    bytesBE 8 temporal.targetClockGeneration.value.toNat, bytesBE 8 temporal.originalBudget.toNat,
    bytesBE 8 temporal.remainingBudget.toNat, claim.principal.asBytes, claim.key.asBytes,
    bytesBE 2 claim.algorithm.value.toNat, bytesBE 2 claim.algorithmVersion.toNat, claim.nonce]

/-- The fields 1 to 36 that `append_apply_fields` appends, before the signature. -/
def applyFieldValues (sha256 : Sha256) (c : RuntimeApplyControlCommitment) (temporal : ApplyTemporalConstraint)
    (claim : ApplyRequestAuthClaim) : Except EnvelopeContractError (List Bytes) := do
  let proofEnvelopeDigest ← wrapErr .digest (c.control.writerContext.proof.envelopeDigest sha256)
  pure (applyFieldList c temporal claim proofEnvelopeDigest)

def buildApplySigningTranscript (sha256 : Sha256) (c : RuntimeApplyControlCommitment)
    (temporal : ApplyTemporalConstraint) (claim : ApplyRequestAuthClaim) : Except EnvelopeContractError Bytes := do
  let fields ← applyFieldValues sha256 c temporal claim
  let encoded := [Tenure.signingTranscriptMagic, bytesBE 2 applyRequestSigningTranscriptVersion,
    bytesBE 2 applyAuthSigningDomain.length, applyAuthSigningDomain, bytesBE 2 applyAuthSigningFieldCount].flatten
      ++ tlvs 0 fields
  rejectIf (maxRuntimeApplyEnvelopeBytes < encoded.length) .frameTooLarge
  pure encoded

def buildApplyEnvelopeWire (sha256 : Sha256) (c : RuntimeApplyControlCommitment) (temporal : ApplyTemporalConstraint)
    (authentication : ApplyRequestAuthentication) : Except EnvelopeContractError Bytes := do
  let fields ← applyFieldValues sha256 c temporal authentication.claim
  pure (Tenure.valueHeader applyEnvelopeMagic runtimeApplyEnvelopeVersion applyEnvelopeFieldCount
    ++ tlvs 0 (fields ++ [authentication.signature]))

structure RuntimeApplyEnvelope where
  controlCommitment : RuntimeApplyControlCommitment
  temporal : ApplyTemporalConstraint
  authentication : ApplyRequestAuthentication
  canonicalWire : Bytes
  requestDigest : Digest32

namespace RuntimeApplyEnvelope

def tryNew (sha256 : Sha256) (controlCommitment : RuntimeApplyControlCommitment) (temporal : ApplyTemporalConstraint)
    (authentication : ApplyRequestAuthentication) : Except EnvelopeContractError RuntimeApplyEnvelope := do
  wrapErr .apply (controlCommitment.validate sha256)
  let canonicalWire ← buildApplyEnvelopeWire sha256 controlCommitment temporal authentication
  rejectIf (maxRuntimeApplyEnvelopeBytes < canonicalWire.length) .frameTooLarge
  let requestDigest ← wrapErr .digest (digest32 sha256 applyEnvelopeRequestDigestDomain [canonicalWire])
  pure ⟨controlCommitment, temporal, authentication, canonicalWire, requestDigest⟩

def validate (sha256 : Sha256) (e : RuntimeApplyEnvelope) : Except EnvelopeContractError Unit := do
  wrapErr .apply (e.controlCommitment.validate sha256)
  let canonicalWire ← buildApplyEnvelopeWire sha256 e.controlCommitment e.temporal e.authentication
  rejectIf (canonicalWire ≠ e.canonicalWire) .canonicalWireMismatch
  let requestDigest ← wrapErr .digest (digest32 sha256 applyEnvelopeRequestDigestDomain [canonicalWire])
  rejectIf (requestDigest ≠ e.requestDigest) .requestDigestMismatch

def signingTranscript (sha256 : Sha256) (e : RuntimeApplyEnvelope) : Except EnvelopeContractError Bytes :=
  buildApplySigningTranscript sha256 e.controlCommitment e.temporal e.authentication.claim

end RuntimeApplyEnvelope

structure RuntimeApplyEnvelopeDraft where
  controlCommitment : RuntimeApplyControlCommitment
  temporal : ApplyTemporalConstraint
  authClaim : ApplyRequestAuthClaim

namespace RuntimeApplyEnvelopeDraft

def tryNew (sha256 : Sha256) (controlCommitment : RuntimeApplyControlCommitment) (temporal : ApplyTemporalConstraint)
    (authClaim : ApplyRequestAuthClaim) : Except EnvelopeContractError RuntimeApplyEnvelopeDraft := do
  wrapErr .apply (controlCommitment.validate sha256)
  pure ⟨controlCommitment, temporal, authClaim⟩

def finalize (sha256 : Sha256) (draft : RuntimeApplyEnvelopeDraft) (signature : Bytes) :
    Except EnvelopeContractError RuntimeApplyEnvelope := do
  let authentication ← wrapErr .authentication (ApplyRequestAuthentication.tryNew draft.authClaim signature)
  RuntimeApplyEnvelope.tryNew sha256 draft.controlCommitment draft.temporal authentication

end RuntimeApplyEnvelopeDraft

/-! ## Decoding -/

inductive WireErrorCode
  | frameTooLarge
  | truncated
  | invalidMagic
  | unsupportedVersion
  | unknownField
  | missingField
  | duplicateField
  | outOfOrderField
  | invalidFieldLength
  | invalidFieldValue
  | derivedDigestMismatch
  | nonCanonicalFrame
  | trailingBytes

structure WireError where
  code : WireErrorCode
  fieldTag : Option Nat

def WireError.new (code : WireErrorCode) : WireError := ⟨code, none⟩
def WireError.at (code : WireErrorCode) (tag : Nat) : WireError := ⟨code, some tag⟩

inductive Fault
  | error (e : WireError)
  | panic

abbrev Res := Except Fault

def validFieldLength (tag length : Nat) : Bool :=
  if tag ∈ [1, 13, 14, 22, 26, 34, 35] then length = 2
  else if tag ∈ [5, 10, 17, 18, 29, 30, 31] then length = 8
  else if tag ∈ [2, 3, 4, 9, 11, 12, 15, 16, 24, 27, 28, 32, 33] then length = 16
  else if tag ∈ [6, 7, 8, 21, 23, 25] then length = 32
  else if tag = 19 then 1 ≤ length ∧ length ≤ Tenure.maxTenureNonceBytes
  else if tag = 20 then 1 ≤ length ∧ length ≤ Tenure.maxTenureSignatureBytes
  else if tag = 36 then 1 ≤ length ∧ length ≤ maxApplyAuthNonceBytes
  else if tag = 37 then 1 ≤ length ∧ length ≤ maxApplyAuthSignatureBytes
  else false

/-- The codes of this format for those the parser of tagged values gives; it gives no others. -/
def parseCode : Tenure.AcquireTenureProtocolErrorCode → WireErrorCode
  | .messageTooLarge => .frameTooLarge
  | .truncated => .truncated
  | .invalidMagic => .invalidMagic
  | .unsupportedVersion => .unsupportedVersion
  | .unknownField => .unknownField
  | .missingField => .missingField
  | .duplicateField => .duplicateField
  | .outOfOrderField => .outOfOrderField
  | .invalidFieldLength => .invalidFieldLength
  | .trailingBytes => .trailingBytes
  | _ => .invalidFieldValue

def parseFault : Tenure.Fault → Fault
  | .error e => .error ⟨parseCode e.code, e.fieldTag⟩
  | .panic => .panic

/-- `parse_apply_frame`: check for check the loop of the tenure messages, over this format's tags. -/
def parseApplyFrame (frame : Bytes) : Res Tenure.ParsedFields :=
  wrapErr parseFault (Tenure.parseValue frame applyEnvelopeMagic runtimeApplyEnvelopeVersion applyEnvelopeFieldCount
    maxRuntimeApplyEnvelopeBytes validFieldLength)

def get (fields : Tenure.ParsedFields) (tag : Nat) : Res Bytes := okOr fields.values[tag - 1]? .panic

/-- `field_array`: `copy_from_slice` panics on another length. -/
def fieldArray (width : Nat) (fields : Tenure.ParsedFields) (tag : Nat) : Res {bs : Bytes // bs.length = width} := do
  let value ← get fields tag
  if h : value.length = width then .ok ⟨value, h⟩ else .error .panic

def fieldRef16 (fields : Tenure.ParsedFields) (tag : Nat) : Res Ref16 := do
  let array ← fieldArray 16 fields tag
  pure (Ref16.fromBytes array)

def fieldDigest32 (fields : Tenure.ParsedFields) (tag : Nat) : Res Digest32 := do
  let array ← fieldArray 32 fields tag
  pure (Digest32.fromBytes array)

def fieldU64 (fields : Tenure.ParsedFields) (tag : Nat) : Res UInt64 := do
  let array ← fieldArray 8 fields tag
  pure (UInt64.ofNat (fromBE array.val))

/-- `field_u16`: the first two bytes of the field. -/
def fieldU16 (fields : Tenure.ParsedFields) (tag : Nat) : Res UInt16 := do
  let value ← get fields tag
  if 2 ≤ value.length then .ok (UInt16.ofNat (fromBE (value.take 2))) else .error .panic

def fail (code : WireErrorCode) (tag : Nat) : Fault := .error (.at code tag)

def tenureWireError (e : TenureProofError) : Fault :=
  fail .invalidFieldValue <| match e with
    | .invalidAlgorithm => 13
    | .invalidAlgorithmVersion => 14
    | .invalidEpoch => 17
    | .invalidSupersedesEpoch => 18
    | .emptyNonce | .nonceTooLong => 19
    | .emptySignature | .signatureTooLong => 20

def applyWireError (e : ApplyContractError) : Fault :=
  fail .invalidFieldValue <| match e with
    | .provenance _ => 8
    | .writerRefMismatch => 9
    | .writerEpochMismatch => 10
    | .writerScopeMismatch => 15
    | .digest _ | .controlCommitmentDigestMismatch => 25

def authWireError (e : ApplyAuthError) : Fault :=
  fail .invalidFieldValue <| match e with
    | .invalidAlgorithm => 34
    | .invalidAlgorithmVersion => 35
    | .emptyNonce | .nonceTooLong => 36
    | .emptySignature | .signatureTooLong => 37

def envelopeWireError : EnvelopeContractError → Fault
  | .apply e => applyWireError e
  | .authentication e => authWireError e
  | .digest _ => fail .invalidFieldValue 25
  | .frameTooLarge => .error (.new .frameTooLarge)
  | .canonicalWireMismatch | .requestDigestMismatch => .error (.new .nonCanonicalFrame)

def temporalWireError : TemporalContractError → Fault
  | .unsupportedVersion => fail .unsupportedVersion 26
  | .zeroOriginalBudget => fail .invalidFieldValue 30
  | .remainingBudgetExceedsOriginal | .remainingBudgetExtended => fail .invalidFieldValue 31

/-- The fields 2 to 8: the header, rebuilt and compared with the digest that was sent. -/
def decodeSlice (sha256 : Sha256) (fields : Tenure.ParsedFields) : Res RuntimeSliceCommitment := do
  let version ← fieldU16 fields 1
  rejectIf (version.toNat ≠ runtimeSliceHeaderVersion) (fail .unsupportedVersion 1)
  let sourceScope ← fieldRef16 fields 3
  let sourcePlan ← fieldRef16 fields 4
  let sourceRevision ← fieldU64 fields 5
  let sourcePlanDigest ← fieldDigest32 fields 6
  let target ← fieldRef16 fields 2
  let assignmentDigest ← fieldDigest32 fields 7
  let slice ← mapErr (RuntimeSliceCommitment.tryNew sha256
    ⟨target, ⟨sourceScope, sourcePlan, sourceRevision, sourcePlanDigest⟩, assignmentDigest⟩) (fail .invalidFieldValue 8)
  let sent ← get fields 8
  rejectIf (slice.targetSliceDigest.asBytes ≠ sent) (fail .derivedDigestMismatch 8)
  pure slice

def decodeWriter (sha256 : Sha256) (fields : Tenure.ParsedFields) : Res PlanWriterContext := do
  let algorithmValue ← fieldU16 fields 13
  let algorithm ← wrapErr tenureWireError (Tenure.TenureProofAlgorithm.tryNew algorithmValue)
  let authorityRef ← fieldRef16 fields 11
  let keyRef ← fieldRef16 fields 12
  let algorithmVersion ← fieldU16 fields 14
  let authority ← wrapErr tenureWireError
    (Tenure.TenureProofAuthority.tryNew authorityRef keyRef algorithm algorithmVersion)
  let scope ← fieldRef16 fields 15
  let claimWriter ← fieldRef16 fields 16
  let claimEpoch ← fieldU64 fields 17
  let supersedes ← fieldU64 fields 18
  let claim ← wrapErr tenureWireError (Tenure.WriterTenureClaim.tryNew scope claimWriter claimEpoch supersedes)
  let nonce ← get fields 19
  let signature ← get fields 20
  let proof ← wrapErr tenureWireError (Tenure.WriterTenureProof.tryNew authority claim nonce signature)
  let digest ← mapErr (proof.envelopeDigest sha256) (fail .invalidFieldValue 21)
  let sent ← get fields 21
  rejectIf (digest.asBytes ≠ sent) (fail .derivedDigestMismatch 21)
  let writer ← fieldRef16 fields 9
  let epoch ← fieldU64 fields 10
  wrapErr applyWireError (PlanWriterContext.tryNew writer epoch proof)

def decodeExpectedActive (fields : Tenure.ParsedFields) : Res ExpectedActive := do
  let digest ← fieldDigest32 fields 23
  let tag ← fieldU16 fields 22
  if tag = 0 ∧ digest.asBytes = List.replicate 32 0 then .ok .none
  else if tag = 1 then .ok (.exact digest)
  else .error (fail .invalidFieldValue 22)

def decodeTemporal (fields : Tenure.ParsedFields) : Res ApplyTemporalConstraint := do
  let generationValue ← fieldU64 fields 29
  let generation ← mapErr (ClockGeneration.tryNew generationValue) (fail .invalidFieldValue 29)
  let version ← fieldU16 fields 26
  let constraintId ← fieldRef16 fields 27
  let domain ← fieldRef16 fields 28
  let original ← fieldU64 fields 30
  let remaining ← fieldU64 fields 31
  wrapErr temporalWireError
    (ApplyTemporalConstraint.tryFromParts version.toNat constraintId domain generation original remaining)

def decodeClaim (fields : Tenure.ParsedFields) : Res ApplyRequestAuthClaim := do
  let algorithmValue ← fieldU16 fields 34
  let algorithm ← wrapErr authWireError (ApplyAuthAlgorithm.tryNew algorithmValue)
  let principal ← fieldRef16 fields 32
  let key ← fieldRef16 fields 33
  let algorithmVersion ← fieldU16 fields 35
  let nonce ← get fields 36
  wrapErr authWireError (ApplyRequestAuthClaim.tryNew principal key algorithm algorithmVersion nonce)

/-- `decode_apply_envelope`. -/
def RuntimeApplyEnvelope.decode (sha256 : Sha256) (frame : Bytes) : Res RuntimeApplyEnvelope := do
  let fields ← parseApplyFrame frame
  let slice ← decodeSlice sha256 fields
  let writerContext ← decodeWriter sha256 fields
  let expectedActive ← decodeExpectedActive fields
  let operationId ← fieldRef16 fields 24
  let controlCommitment ← wrapErr applyWireError
    (RuntimeApplyControlCommitment.tryNew sha256 slice ⟨writerContext, expectedActive, operationId⟩)
  let sent ← get fields 25
  rejectIf (controlCommitment.commitmentDigest.asBytes ≠ sent) (fail .derivedDigestMismatch 25)
  let temporal ← decodeTemporal fields
  let authClaim ← decodeClaim fields
  let draft ← wrapErr envelopeWireError (RuntimeApplyEnvelopeDraft.tryNew sha256 controlCommitment temporal authClaim)
  let signature ← get fields 37
  let envelope ← wrapErr envelopeWireError (draft.finalize sha256 signature)
  rejectIf (envelope.canonicalWire ≠ frame) (.error (.new .nonCanonicalFrame))
  pure envelope

end Envelope
end ParaEgox
