import ParaEgox.Checked
import ParaEgox.TenureProof

/-!
# TenureProtocol — the acquire-tenure requests, responses and frames

The encoders and decoders of the local contract for acquiring writer tenure.  An index or a slice out of range is a panic,
which no caller could handle, and is an outcome of its own here beside the protocol's errors.
-/
namespace ParaEgox
namespace Tenure

open Check Tlv

inductive AcquireTenureProtocolErrorCode
  | messageTooLarge
  | truncated
  | invalidMagic
  | unsupportedVersion
  | unknownField
  | missingField
  | duplicateField
  | outOfOrderField
  | invalidFieldLength
  | invalidFieldValue
  | derivedDigestMismatch
  | nonCanonicalMessage
  | trailingBytes
  | invalidFrameKind
  | responseBoundExceeded
  | requestBindingMismatch
  | digestFailure
  | proofContract

structure AcquireTenureProtocolError where
  code : AcquireTenureProtocolErrorCode
  fieldTag : Option Nat

inductive Fault
  | error (e : AcquireTenureProtocolError)
  | panic

abbrev Res := Except Fault

def err (code : AcquireTenureProtocolErrorCode) : Fault := .error ⟨code, none⟩
def errAt (code : AcquireTenureProtocolErrorCode) (tag : Nat) : Fault := .error ⟨code, some tag⟩

/-! ## Constants -/

def acquireRequestMagic : Bytes := Text.bytes (s := "PXATREQ") ⟨_, by conv => rhs; simp [ascii]⟩ ++ [0]
def acquireResponseMagic : Bytes := Text.bytes (s := "PXATRSP") ⟨_, by conv => rhs; simp [ascii]⟩ ++ [0]
def acquireFrameMagic : Bytes := Text.bytes (s := "PXATFRM") ⟨_, by conv => rhs; simp [ascii]⟩ ++ [0]

def requestAuthTranscriptMagic : Bytes :=
  Text.bytes (s := "ParaEGOX") ⟨_, spells_paraEGOX⟩ ++ [0]
    ++ Text.bytes (s := "acquire-tenure-request-auth") ⟨_, by conv => rhs; simp [ascii]⟩

def requestAuthTranscriptDomain : Bytes :=
  Text.bytes (s := "paraegox.deployment.acquire-tenure.request-auth.ed25519.v1") ⟨_, by conv => rhs; simp [ascii]⟩

def intentDigestDomain : Bytes :=
  Text.bytes (s := "paraegox.deployment.acquire-tenure.intent.sha256.v1") ⟨_, by conv => rhs; simp [ascii]⟩

def requestDigestDomain : Bytes :=
  Text.bytes (s := "paraegox.deployment.acquire-tenure.request.sha256.v1") ⟨_, by conv => rhs; simp [ascii]⟩

def responseDigestDomain : Bytes :=
  Text.bytes (s := "paraegox.deployment.acquire-tenure.response.sha256.v1") ⟨_, by conv => rhs; simp [ascii]⟩

def acquireTenureProtocolVersion : Nat := 1
def acquireTenureFrameVersion : Nat := 1
def acquireTenureRequestAuthTranscriptVersion : Nat := 1
def acquireTenureEd25519Algorithm : Nat := 1
def acquireTenureEd25519AlgorithmVersion : Nat := 1
def acquireTenureEd25519SignatureBytes : Nat := 64
def maxAcquireTenureClientNonceBytes : Nat := 64

def requestFieldCount : Nat := 12
def requestUnsignedFieldCount : Nat := requestFieldCount - 1
def responseFieldCount : Nat := 15
def responseUnsignedFieldCount : Nat := responseFieldCount - 1
def tlvHeaderBytes : Nat := 6
def valueHeaderBytes : Nat := 12

def requestFixedValueBytes : Nat := 5 * 16 + 32 + 2 + 2 + 4 + 32 + acquireTenureEd25519SignatureBytes

def maxAcquireTenureRequestPayloadBytes : Nat :=
  valueHeaderBytes + requestFieldCount * tlvHeaderBytes + requestFixedValueBytes + maxAcquireTenureClientNonceBytes

def responseFixedValueBytes : Nat := 5 * 16 + 2 * 32 + 2 * 2 + 2 * 8 + 32

def minAcquireTenureResponsePayloadBytes : Nat :=
  valueHeaderBytes + responseFieldCount * tlvHeaderBytes + responseFixedValueBytes + 1 + 1 + 1

def maxAcquireTenureResponsePayloadBytes : Nat :=
  valueHeaderBytes + responseFieldCount * tlvHeaderBytes + responseFixedValueBytes + maxAcquireTenureClientNonceBytes
    + maxTenureNonceBytes + maxTenureSignatureBytes

def acquireTenureFrameHeaderBytes : Nat := 16

def maxAcquireTenureFrameBytes : Nat := acquireTenureFrameHeaderBytes + maxAcquireTenureResponsePayloadBytes

/-! ## Reading -/

/-- `&bytes[first..last]`. -/
def slice (bytes : Bytes) (first last : Nat) : Res Bytes :=
  if first ≤ last ∧ last ≤ bytes.length then .ok ((bytes.drop first).take (last - first)) else .error .panic

/-- The bytes `bytes[0]`, …, `bytes[width - 1]` as a big-endian number. -/
def readBE (width : Nat) (bytes : Bytes) : Res Nat :=
  if width ≤ bytes.length then .ok (fromBE (bytes.take width)) else .error .panic

def readU16 : Bytes → Res Nat := readBE 2
def readU32 : Bytes → Res Nat := readBE 4
def readU64 : Bytes → Res Nat := readBE 8

def readArray (width : Nat) (bytes : Bytes) (tag : Nat) : Res {bs : Bytes // bs.length = width} :=
  if h : bytes.length = width then .ok ⟨bytes, h⟩ else .error (errAt .invalidFieldLength tag)

def readRef16 (bytes : Bytes) (tag : Nat) : Res Ref16 := do
  let array ← readArray 16 bytes tag
  pure (Ref16.fromBytes array)

def readDigest32 (bytes : Bytes) (tag : Nat) : Res Digest32 := do
  let array ← readArray 32 bytes tag
  pure (Digest32.fromBytes array)

structure ParsedFields where
  values : List Bytes

/-- `self.values[usize::from(tag - 1)]`. -/
def ParsedFields.get (fields : ParsedFields) (tag : Nat) : Res Bytes := okOr fields.values[tag - 1]? .panic

/-- The loop of `parse_value` over the declared fields: the values so far and the cursor. -/
def parseFields (bytes : Bytes) (expectedFieldCount : Nat) (validLength : Nat → Nat → Bool) :
    Nat → Nat → Nat → List Bytes → Res (List Bytes × Nat)
  | 0, _, cursor, values => .ok (values, cursor)
  | remaining + 1, index, cursor, values => do
    let headerEnd ← addU64 cursor tlvHeaderBytes (err .truncated)
    rejectIf (bytes.length < headerEnd) (err .truncated)
    let tagBytes ← slice bytes cursor (cursor + 2)
    let tag ← readU16 tagBytes
    let lengthBytes ← slice bytes (cursor + 2) headerEnd
    let valueLength ← readU32 lengthBytes
    rejectIf (tag = 0 ∨ expectedFieldCount < tag) (errAt .unknownField tag)
    rejectIf (tag < index + 1) (errAt .duplicateField tag)
    rejectIf (index + 1 < tag) (errAt .outOfOrderField tag)
    rejectIf (validLength tag valueLength = false) (errAt .invalidFieldLength tag)
    let valueEnd ← addU64 headerEnd valueLength (errAt .truncated tag)
    rejectIf (bytes.length < valueEnd) (errAt .truncated tag)
    let value ← slice bytes headerEnd valueEnd
    parseFields bytes expectedFieldCount validLength remaining (index + 1) valueEnd (values ++ [value])

def parseValue (bytes magic : Bytes) (expectedVersion expectedFieldCount maximumBytes : Nat)
    (validLength : Nat → Nat → Bool) : Res ParsedFields := do
  rejectIf (maximumBytes < bytes.length) (err .messageTooLarge)
  rejectIf (bytes.length < magic.length + 4) (err .truncated)
  let head ← slice bytes 0 magic.length
  rejectIf (head ≠ magic) (err .invalidMagic)
  let versionBytes ← slice bytes magic.length (magic.length + 2)
  let version ← readU16 versionBytes
  rejectIf (version ≠ expectedVersion) (err .unsupportedVersion)
  let countBytes ← slice bytes (magic.length + 2) (magic.length + 4)
  let declaredCount ← readU16 countBytes
  let (values, cursor) ← parseFields bytes expectedFieldCount validLength declaredCount 0 (magic.length + 4) []
  rejectIf (declaredCount < expectedFieldCount) (errAt .missingField (declaredCount + 1))
  rejectIf (cursor ≠ bytes.length) (err .trailingBytes)
  pure ⟨values⟩

def validRequestFieldLength (tag length : Nat) : Bool :=
  if 1 ≤ tag ∧ tag ≤ 5 then length = 16
  else if tag = 6 ∨ tag = 11 then length = 32
  else if tag = 7 ∨ tag = 8 then length = 2
  else if tag = 9 then 1 ≤ length ∧ length ≤ maxAcquireTenureClientNonceBytes
  else if tag = 10 then length = 4
  else if tag = 12 then length = acquireTenureEd25519SignatureBytes
  else false

def validResponseFieldLength (tag length : Nat) : Bool :=
  if tag = 1 ∨ tag = 4 ∨ tag = 5 ∨ tag = 8 ∨ tag = 9 then length = 16
  else if tag = 2 ∨ tag = 14 ∨ tag = 15 then length = 32
  else if tag = 3 then 1 ≤ length ∧ length ≤ maxAcquireTenureClientNonceBytes
  else if tag = 6 ∨ tag = 7 then length = 2
  else if tag = 10 ∨ tag = 11 then length = 8
  else if tag = 12 then 1 ≤ length ∧ length ≤ maxTenureNonceBytes
  else if tag = 13 then 1 ≤ length ∧ length ≤ maxTenureSignatureBytes
  else false

def validateNonzero (bytes : Bytes) (tag : Nat) : Res Unit :=
  rejectIf (bytes.all (· = 0) = true) (errAt .invalidFieldValue tag)

def validateClientNonce (nonce : Bytes) (tag : Nat) : Res Unit :=
  rejectIf (¬ (1 ≤ nonce.length ∧ nonce.length ≤ maxAcquireTenureClientNonceBytes)) (errAt .invalidFieldLength tag)

def validateResponseBound (bound : UInt32) (tag : Nat) : Res Unit :=
  rejectIf (¬ (minAcquireTenureResponsePayloadBytes ≤ bound.toNat ∧ bound.toNat ≤ maxAcquireTenureResponsePayloadBytes))
    (errAt .invalidFieldValue tag)

def validateEd25519Signature (signature : Bytes) (tag : Nat) : Res Unit :=
  rejectIf (signature.length ≠ acquireTenureEd25519SignatureBytes) (errAt .invalidFieldLength tag)

def valueHeader (magic : Bytes) (version fieldCount : Nat) : Bytes :=
  [magic, bytesBE 2 version, bytesBE 2 fieldCount].flatten

def digestOf (sha256 : Sha256) (domain : Bytes) (fields : List Bytes) : Res Digest32 :=
  mapErr (digest32 sha256 domain fields) (err .digestFailure)

/-! ## Requests -/

structure AcquireTenureIntentV1 where
  scope : Ref16
  writer : Ref16
  operationId : Ref16

def AcquireTenureIntentV1.digest (sha256 : Sha256) (i : AcquireTenureIntentV1) : Res Digest32 :=
  digestOf sha256 intentDigestDomain [i.scope.asBytes, i.writer.asBytes, i.operationId.asBytes]

structure AcquireTenureRequestDraftV1 where
  intent : AcquireTenureIntentV1
  controllerPrincipal : Ref16
  controllerKey : Ref16
  controllerPublicKeyFingerprint : Digest32
  clientNonce : Bytes
  maxResponsePayloadBytes : UInt32
  intentDigest : Digest32

structure AcquireTenureRequestV1 where
  draft : AcquireTenureRequestDraftV1
  authSignature : Bytes
  canonicalBytes : Bytes
  requestDigest : Digest32

namespace AcquireTenureRequestDraftV1

def tryNew (sha256 : Sha256) (intent : AcquireTenureIntentV1) (controllerPrincipal controllerKey : Ref16)
    (controllerPublicKeyFingerprint : Digest32) (clientNonce : Bytes) (maxResponsePayloadBytes : UInt32) :
    Res AcquireTenureRequestDraftV1 := do
  validateNonzero intent.scope.asBytes 1
  validateNonzero intent.writer.asBytes 2
  validateNonzero intent.operationId.asBytes 3
  validateNonzero controllerPrincipal.asBytes 4
  validateNonzero controllerKey.asBytes 5
  validateNonzero controllerPublicKeyFingerprint.asBytes 6
  validateClientNonce clientNonce 9
  validateResponseBound maxResponsePayloadBytes 10
  let intentDigest ← intent.digest sha256
  pure { intent, controllerPrincipal, controllerKey, controllerPublicKeyFingerprint, clientNonce,
         maxResponsePayloadBytes, intentDigest }

/-- `append_request_unsigned_fields`. -/
def unsignedFields (d : AcquireTenureRequestDraftV1) : Bytes :=
  [tlv 1 d.intent.scope.asBytes, tlv 2 d.intent.writer.asBytes, tlv 3 d.intent.operationId.asBytes,
    tlv 4 d.controllerPrincipal.asBytes, tlv 5 d.controllerKey.asBytes, tlv 6 d.controllerPublicKeyFingerprint.asBytes,
    tlv 7 (bytesBE 2 acquireTenureEd25519Algorithm), tlv 8 (bytesBE 2 acquireTenureEd25519AlgorithmVersion),
    tlv 9 d.clientNonce, tlv 10 (bytesBE 4 d.maxResponsePayloadBytes.toNat), tlv 11 d.intentDigest.asBytes].flatten

/-- `build_request_signing_transcript`. -/
def signingTranscript (d : AcquireTenureRequestDraftV1) : Res Bytes := do
  rejectIf (2 ^ 16 ≤ requestAuthTranscriptDomain.length) (err .invalidFieldLength)
  pure [requestAuthTranscriptMagic, bytesBE 2 acquireTenureRequestAuthTranscriptVersion,
    bytesBE 2 requestAuthTranscriptDomain.length, requestAuthTranscriptDomain, bytesBE 2 requestUnsignedFieldCount,
    d.unsignedFields].flatten

/-- `build_request_bytes`. -/
def requestBytes (d : AcquireTenureRequestDraftV1) (signature : Bytes) : Bytes :=
  [valueHeader acquireRequestMagic acquireTenureProtocolVersion requestFieldCount, d.unsignedFields,
    tlv 12 signature].flatten

def finalizeEd25519 (sha256 : Sha256) (draft : AcquireTenureRequestDraftV1) (signature : Bytes) :
    Res AcquireTenureRequestV1 := do
  validateEd25519Signature signature 12
  let canonicalBytes := draft.requestBytes signature
  rejectIf (maxAcquireTenureRequestPayloadBytes < canonicalBytes.length) (err .messageTooLarge)
  let requestDigest ← digestOf sha256 requestDigestDomain [canonicalBytes]
  pure { draft, authSignature := signature, canonicalBytes, requestDigest }

end AcquireTenureRequestDraftV1

namespace AcquireTenureRequestV1

def scope (r : AcquireTenureRequestV1) : Ref16 := r.draft.intent.scope
def writer (r : AcquireTenureRequestV1) : Ref16 := r.draft.intent.writer
def operationId (r : AcquireTenureRequestV1) : Ref16 := r.draft.intent.operationId
def clientNonce (r : AcquireTenureRequestV1) : Bytes := r.draft.clientNonce
def maxResponsePayloadBytes (r : AcquireTenureRequestV1) : UInt32 := r.draft.maxResponsePayloadBytes
def signingTranscript (r : AcquireTenureRequestV1) : Res Bytes := r.draft.signingTranscript

/-- `decode_request`. -/
def decode (sha256 : Sha256) (bytes : Bytes) : Res AcquireTenureRequestV1 := do
  let fields ← parseValue bytes acquireRequestMagic acquireTenureProtocolVersion requestFieldCount
    maxAcquireTenureRequestPayloadBytes validRequestFieldLength
  let field1 ← fields.get 1
  let scope ← readRef16 field1 1
  let field2 ← fields.get 2
  let writer ← readRef16 field2 2
  let field3 ← fields.get 3
  let operationId ← readRef16 field3 3
  let field4 ← fields.get 4
  let controllerPrincipal ← readRef16 field4 4
  let field5 ← fields.get 5
  let controllerKey ← readRef16 field5 5
  let field6 ← fields.get 6
  let controllerPublicKeyFingerprint ← readDigest32 field6 6
  validateNonzero scope.asBytes 1
  validateNonzero writer.asBytes 2
  validateNonzero operationId.asBytes 3
  validateNonzero controllerPrincipal.asBytes 4
  validateNonzero controllerKey.asBytes 5
  validateNonzero controllerPublicKeyFingerprint.asBytes 6
  let field7 ← fields.get 7
  let algorithm ← readU16 field7
  rejectIf (algorithm ≠ acquireTenureEd25519Algorithm) (errAt .invalidFieldValue 7)
  let field8 ← fields.get 8
  let algorithmVersion ← readU16 field8
  rejectIf (algorithmVersion ≠ acquireTenureEd25519AlgorithmVersion) (errAt .invalidFieldValue 8)
  let field10 ← fields.get 10
  let maxResponsePayloadBytes ← readU32 field10
  let field9 ← fields.get 9
  let draft ← AcquireTenureRequestDraftV1.tryNew sha256 ⟨scope, writer, operationId⟩ controllerPrincipal controllerKey
    controllerPublicKeyFingerprint field9 (UInt32.ofNat maxResponsePayloadBytes)
  let field11 ← fields.get 11
  let carriedIntentDigest ← readDigest32 field11 11
  rejectIf (carriedIntentDigest ≠ draft.intentDigest) (errAt .derivedDigestMismatch 11)
  let field12 ← fields.get 12
  let request ← draft.finalizeEd25519 sha256 field12
  rejectIf (request.canonicalBytes ≠ bytes) (err .nonCanonicalMessage)
  pure request

end AcquireTenureRequestV1

/-! ## Responses -/

structure AcquireTenureResponseV1 where
  operationId : Ref16
  requestDigest : Digest32
  clientNonce : Bytes
  proof : WriterTenureProof
  proofDigest : Digest32
  responseDigest : Digest32
  canonicalBytes : Bytes

/-- `append_response_unsigned_fields`. -/
def responseUnsignedFields (operationId : Ref16) (requestDigest : Digest32) (clientNonce : Bytes)
    (proof : WriterTenureProof) (proofDigest : Digest32) : Bytes :=
  [tlv 1 operationId.asBytes, tlv 2 requestDigest.asBytes, tlv 3 clientNonce, tlv 4 proof.authority.authority.asBytes,
    tlv 5 proof.authority.key.asBytes, tlv 6 (bytesBE 2 proof.authority.algorithm.value.toNat),
    tlv 7 (bytesBE 2 proof.authority.algorithmVersion.toNat), tlv 8 proof.claim.sourceScope.asBytes,
    tlv 9 proof.claim.writer.asBytes, tlv 10 (bytesBE 8 proof.claim.epoch.toNat),
    tlv 11 (bytesBE 8 proof.claim.supersedesThroughEpoch.toNat), tlv 12 proof.nonce, tlv 13 proof.signature,
    tlv 14 proofDigest.asBytes].flatten

/-- `build_response_unsigned_bytes`: what the response digest covers. -/
def responseUnsignedBytes (operationId : Ref16) (requestDigest : Digest32) (clientNonce : Bytes)
    (proof : WriterTenureProof) (proofDigest : Digest32) : Bytes :=
  valueHeader acquireResponseMagic acquireTenureProtocolVersion responseUnsignedFieldCount
    ++ responseUnsignedFields operationId requestDigest clientNonce proof proofDigest

/-- `build_response_digest`. -/
def responseDigestOf (sha256 : Sha256) (operationId : Ref16) (requestDigest : Digest32) (clientNonce : Bytes)
    (proof : WriterTenureProof) (proofDigest : Digest32) : Res Digest32 :=
  digestOf sha256 responseDigestDomain [responseUnsignedBytes operationId requestDigest clientNonce proof proofDigest]

/-- `build_response_bytes`. -/
def responseBytes (operationId : Ref16) (requestDigest : Digest32) (clientNonce : Bytes) (proof : WriterTenureProof)
    (proofDigest responseDigest : Digest32) : Bytes :=
  [valueHeader acquireResponseMagic acquireTenureProtocolVersion responseFieldCount,
    responseUnsignedFields operationId requestDigest clientNonce proof proofDigest,
    tlv 15 responseDigest.asBytes].flatten

def validateProofBinding (request : AcquireTenureRequestV1) (proof : WriterTenureProof) : Res Unit :=
  rejectIf (proof.claim.sourceScope ≠ request.scope ∨ proof.claim.writer ≠ request.writer
    ∨ proof.nonce ≠ request.clientNonce) (err .requestBindingMismatch)

namespace AcquireTenureResponseV1

def tryNew (sha256 : Sha256) (request : AcquireTenureRequestV1) (proof : WriterTenureProof) :
    Res AcquireTenureResponseV1 := do
  validateProofBinding request proof
  let proofDigest ← mapErr (proof.envelopeDigest sha256) (err .digestFailure)
  let responseDigest ← responseDigestOf sha256 request.operationId request.requestDigest request.clientNonce proof
    proofDigest
  let canonicalBytes := responseBytes request.operationId request.requestDigest request.clientNonce proof proofDigest
    responseDigest
  rejectIf (request.maxResponsePayloadBytes.toNat < canonicalBytes.length) (err .responseBoundExceeded)
  rejectIf (maxAcquireTenureResponsePayloadBytes < canonicalBytes.length) (err .messageTooLarge)
  pure { operationId := request.operationId, requestDigest := request.requestDigest, clientNonce := request.clientNonce,
         proof, proofDigest, responseDigest, canonicalBytes }

/-- `decode_response`. -/
def decode (sha256 : Sha256) (bytes : Bytes) : Res AcquireTenureResponseV1 := do
  let fields ← parseValue bytes acquireResponseMagic acquireTenureProtocolVersion responseFieldCount
    maxAcquireTenureResponsePayloadBytes validResponseFieldLength
  let field1 ← fields.get 1
  let operationId ← readRef16 field1 1
  let field2 ← fields.get 2
  let requestDigest ← readDigest32 field2 2
  let field4 ← fields.get 4
  let authorityRef ← readRef16 field4 4
  let field5 ← fields.get 5
  let keyRef ← readRef16 field5 5
  let field6 ← fields.get 6
  let algorithmValue ← readU16 field6
  let algorithm ← mapErr (TenureProofAlgorithm.tryNew (UInt16.ofNat algorithmValue)) (errAt .proofContract 6)
  let field7 ← fields.get 7
  let algorithmVersion ← readU16 field7
  let authority ← mapErr (TenureProofAuthority.tryNew authorityRef keyRef algorithm (UInt16.ofNat algorithmVersion))
    (errAt .proofContract 7)
  let field8 ← fields.get 8
  let sourceScope ← readRef16 field8 8
  let field9 ← fields.get 9
  let writer ← readRef16 field9 9
  let field10 ← fields.get 10
  let epoch ← readU64 field10
  let field11 ← fields.get 11
  let supersedes ← readU64 field11
  let claim ← mapErr (WriterTenureClaim.tryNew sourceScope writer (UInt64.ofNat epoch) (UInt64.ofNat supersedes))
    (errAt .proofContract 10)
  let field12 ← fields.get 12
  let field13 ← fields.get 13
  let proof ← mapErr (WriterTenureProof.tryNew authority claim field12 field13) (errAt .proofContract 13)
  let field3 ← fields.get 3
  rejectIf (field3 ≠ proof.nonce) (errAt .requestBindingMismatch 3)
  let proofDigest ← mapErr (proof.envelopeDigest sha256) (err .digestFailure)
  let field14 ← fields.get 14
  let carriedProofDigest ← readDigest32 field14 14
  rejectIf (proofDigest ≠ carriedProofDigest) (errAt .derivedDigestMismatch 14)
  let responseDigest ← responseDigestOf sha256 operationId requestDigest field3 proof proofDigest
  let field15 ← fields.get 15
  let carriedResponseDigest ← readDigest32 field15 15
  rejectIf (responseDigest ≠ carriedResponseDigest) (errAt .derivedDigestMismatch 15)
  let canonicalBytes := responseBytes operationId requestDigest field3 proof proofDigest responseDigest
  rejectIf (canonicalBytes ≠ bytes) (err .nonCanonicalMessage)
  pure { operationId, requestDigest, clientNonce := field3, proof, proofDigest, responseDigest, canonicalBytes }

def validateRequestBinding (response : AcquireTenureResponseV1) (request : AcquireTenureRequestV1) : Res Unit := do
  rejectIf (response.operationId ≠ request.operationId ∨ response.requestDigest ≠ request.requestDigest
    ∨ response.clientNonce ≠ request.clientNonce) (err .requestBindingMismatch)
  rejectIf (request.maxResponsePayloadBytes.toNat < response.canonicalBytes.length) (err .responseBoundExceeded)
  validateProofBinding request response.proof

def decodeForRequest (sha256 : Sha256) (bytes : Bytes) (request : AcquireTenureRequestV1) :
    Res AcquireTenureResponseV1 := do
  let response ← decode sha256 bytes
  response.validateRequestBinding request
  pure response

end AcquireTenureResponseV1

/-! ## Frames -/

inductive AcquireTenureFrameKind
  | request
  | response
  deriving DecidableEq

namespace AcquireTenureFrameKind

/-- `kind as u16`. -/
def code : AcquireTenureFrameKind → Nat
  | .request => 1
  | .response => 2

def tryFromWire (value : Nat) : Res AcquireTenureFrameKind :=
  match value with
  | 1 => .ok .request
  | 2 => .ok .response
  | _ => .error (err .invalidFrameKind)

def maximumPayloadBytes : AcquireTenureFrameKind → Nat
  | .request => maxAcquireTenureRequestPayloadBytes
  | .response => maxAcquireTenureResponsePayloadBytes

end AcquireTenureFrameKind

structure AcquireTenureFrameHeaderV1 where
  kind : AcquireTenureFrameKind
  payloadBytes : Nat

def AcquireTenureFrameHeaderV1.decodePrefix (bytes : Bytes) : Res AcquireTenureFrameHeaderV1 := do
  rejectIf (bytes.length < acquireTenureFrameHeaderBytes) (err .truncated)
  let head ← slice bytes 0 acquireFrameMagic.length
  rejectIf (head ≠ acquireFrameMagic) (err .invalidMagic)
  let versionBytes ← slice bytes 8 10
  let version ← readU16 versionBytes
  rejectIf (version ≠ acquireTenureFrameVersion) (err .unsupportedVersion)
  let kindBytes ← slice bytes 10 12
  let kindCode ← readU16 kindBytes
  let kind ← AcquireTenureFrameKind.tryFromWire kindCode
  let lengthBytes ← slice bytes 12 16
  let payloadBytes ← readU32 lengthBytes
  rejectIf (kind.maximumPayloadBytes < payloadBytes) (err .invalidFieldLength)
  pure ⟨kind, payloadBytes⟩

def buildFrame (kind : AcquireTenureFrameKind) (payload : Bytes) : Bytes :=
  [acquireFrameMagic, bytesBE 2 acquireTenureFrameVersion, bytesBE 2 kind.code, bytesBE 4 payload.length,
    payload].flatten

def decodeFrame (frame : Bytes) (expectedKind : AcquireTenureFrameKind) : Res Bytes := do
  rejectIf (maxAcquireTenureFrameBytes < frame.length) (err .messageTooLarge)
  let header ← AcquireTenureFrameHeaderV1.decodePrefix frame
  rejectIf (header.kind ≠ expectedKind) (err .invalidFrameKind)
  let expectedFrameBytes ← addU64 acquireTenureFrameHeaderBytes header.payloadBytes (err .invalidFieldLength)
  rejectIf (frame.length < expectedFrameBytes) (err .truncated)
  rejectIf (expectedFrameBytes < frame.length) (err .trailingBytes)
  slice frame acquireTenureFrameHeaderBytes frame.length

def encodeAcquireTenureRequestFrame (request : AcquireTenureRequestV1) : Bytes :=
  buildFrame .request request.canonicalBytes

def decodeAcquireTenureRequestFrame (sha256 : Sha256) (frame : Bytes) : Res AcquireTenureRequestV1 := do
  let payload ← decodeFrame frame .request
  AcquireTenureRequestV1.decode sha256 payload

def encodeAcquireTenureResponseFrame (response : AcquireTenureResponseV1) : Bytes :=
  buildFrame .response response.canonicalBytes

def decodeAcquireTenureResponseFrameForRequest (sha256 : Sha256) (frame : Bytes) (request : AcquireTenureRequestV1) :
    Res AcquireTenureResponseV1 := do
  let payload ← decodeFrame frame .response
  AcquireTenureResponseV1.decodeForRequest sha256 payload request

end Tenure
end ParaEgox
