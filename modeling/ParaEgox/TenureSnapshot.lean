import ParaEgox.Fields
import ParaEgox.TenureModel

/-!
# TenureSnapshot — the authority's snapshot on disk

The envelope and payload of an authority snapshot.  The decoder validates what it read and encodes it again, so a frame it
accepts is the frame of the snapshot it returns; and the frame of a snapshot decodes to it.
-/
namespace ParaEgox
namespace Tenure

open Check Wire

inductive CodecError
  | envelopeTooLarge
  | truncatedEnvelopeHeader
  | invalidMagic
  | unknownEnvelopeVersion
  | ownerKindMismatch
  | unknownPayloadVersion
  | unknownChecksumAlgorithm
  | unknownChecksumVersion
  | declaredPayloadTooLarge
  | truncatedPayload
  | trailingBytes
  | checksumMismatch
  | truncatedPayloadField
  | trailingPayloadBytes
  | fieldTooLarge
  | recordCountTooLarge
  | invalidSignatureLength
  | unknownIssuanceStatus
  | nonCanonicalEncoding
  | lengthOverflow
  | internalHeaderLayout
  | digest (e : DigestBuildError)
  | model (e : ModelError)
  | proof (e : TenureProofError)
  deriving DecidableEq

theorem spells_journalMagic : ([80, 88, 74, 82] : Bytes) = ascii "PXJR" := by simp [ascii]

def journalMagic : Bytes := Text.bytes (s := "PXJR") ⟨_, spells_journalMagic⟩
def journalEnvelopeVersion : Nat := 1
def authorityOwnerKind : Nat := 2
def authorityPayloadVersion : Nat := 1
def checksumAlgorithmSha256 : Nat := 1
def checksumAlgorithmVersion : Nat := 1
def envelopeHeaderWithoutChecksumBytes : Nat := 91
def envelopeHeaderBytes : Nat := 123

def authorityEnvelopeChecksumDomain : Bytes :=
  Text.bytes (s := "paraegox.deployment.tenure-authority.journal-envelope.sha256.v1") ⟨_, by conv => rhs; simp [ascii]⟩

def envelopeChecksum (sha256 : Sha256) (header payload : Bytes) : Except CodecError Digest32 :=
  wrapErr .digest (digest32 sha256 authorityEnvelopeChecksumDomain [header, payload])

/-! ## Encoding -/

/-- `append_u16_bytes` and `append_u32_bytes`: the bytes behind their length. -/
def lengthPrefixed (width : Nat) (bytes : Bytes) : Except CodecError Bytes := do
  rejectIf (256 ^ width ≤ bytes.length) .lengthOverflow
  pure (bytesBE width bytes.length ++ bytes)

/-- `status as u8`. -/
def IssuanceStatus.code : IssuanceStatus → Nat
  | .issued => 1

def encodeRecord (r : AcquireRecord) : Except CodecError Bytes := do
  let request ← lengthPrefixed 4 r.exactRequestBytes
  let nonce ← lengthPrefixed 2 r.nonce
  let signature ← lengthPrefixed 2 r.signature.val
  let response ← lengthPrefixed 4 r.exactResponseBytes
  pure [r.operationId.asBytes, r.requestDigest.asBytes, request, r.writer.asBytes, bytesBE 8 r.epoch.toNat,
    bytesBE 8 r.supersedesThroughEpoch.toNat, nonce, bytesBE 4 r.responseBound.toNat, signature,
    r.proofEnvelopeDigest.asBytes, response, r.responseDigest.asBytes, bytesBE 1 r.status.code].flatten

def encodeRecords : List AcquireRecord → Except CodecError Bytes
  | [] => .ok []
  | r :: rs => do
    let record ← encodeRecord r
    let rest ← encodeRecords rs
    pure (record ++ rest)

def payloadHead (s : AuthoritySnapshot) : List Bytes :=
  [s.provisioning.sourceScope.asBytes, s.provisioning.authorizedWriter.asBytes,
    s.provisioning.proofAuthority.authority.asBytes, s.provisioning.proofAuthority.key.asBytes,
    bytesBE 2 s.provisioning.proofAuthority.algorithm.value.toNat,
    bytesBE 2 s.provisioning.proofAuthority.algorithmVersion.toNat, s.provisioning.verificationKey.asBytes,
    s.provisioning.authorization.controllerPrincipal.asBytes, s.provisioning.authorization.controllerKey.asBytes,
    s.provisioning.authorization.controllerVerificationKey.asBytes,
    s.provisioning.authorization.controllerPublicKeyFingerprint.asBytes, s.provisioning.fingerprints.signingKey.asBytes,
    s.provisioning.fingerprints.policy.asBytes, s.provisioning.fingerprints.servicePrincipal.asBytes,
    bytesBE 8 s.epochHighWater.toNat, bytesBE 2 s.acquireRecords.length]

def encodePayload (s : AuthoritySnapshot) : Except CodecError Bytes := do
  rejectIf (2 ^ 16 ≤ s.acquireRecords.length) .recordCountTooLarge
  let records ← encodeRecords s.acquireRecords
  pure ((payloadHead s).flatten ++ records)

def envelopeHeader (s : AuthoritySnapshot) (payloadLength : Nat) : List Bytes :=
  [journalMagic, bytesBE 2 journalEnvelopeVersion, bytesBE 1 authorityOwnerKind, bytesBE 2 authorityPayloadVersion,
    bytesBE 1 checksumAlgorithmSha256, bytesBE 1 checksumAlgorithmVersion, s.storeInstanceId.bytes.asBytes,
    s.ownerIdentityFingerprint.asBytes, bytesBE 8 s.snapshotSequence.toNat, bytesBE 8 payloadLength]

def encodeSnapshot (sha256 : Sha256) (ed : Ed25519) (s : AuthoritySnapshot) : Except CodecError Bytes := do
  wrapErr .model (s.validate sha256 ed)
  let payload ← encodePayload s
  rejectIf (2 ^ 64 ≤ payload.length) .lengthOverflow
  let header := (envelopeHeader s payload.length).flatten
  rejectIf (header.length ≠ envelopeHeaderWithoutChecksumBytes) .internalHeaderLayout
  let checksum ← envelopeChecksum sha256 header payload
  rejectIf (authoritySnapshotMaxBytes < envelopeHeaderBytes + payload.length) .envelopeTooLarge
  pure [header, checksum.asBytes, payload].flatten

/-! ## Decoding -/

abbrev Cursor := Reader CodecError

namespace Cursor

def uint (width : Nat) : Cursor Nat := Fields.uint .truncatedPayloadField width
def u16 : Cursor UInt16 := Fields.u16 .truncatedPayloadField
def u32 : Cursor UInt32 := Fields.u32 .truncatedPayloadField
def u64 : Cursor UInt64 := Fields.u64 .truncatedPayloadField
def ref16 : Cursor Ref16 := Fields.ref16 .truncatedPayloadField
def digest : Cursor Digest32 := Fields.digest .truncatedPayloadField

/-- `u16_bytes` and `u32_bytes`. -/
def counted (width maximum : Nat) : Cursor Bytes := Fields.counted .truncatedPayloadField .fieldTooLarge width maximum

end Cursor

/-- `match fields.u8()?`. -/
def IssuanceStatus.decode (code : Nat) : Except CodecError IssuanceStatus :=
  if code = 1 then .ok .issued else .error .unknownIssuanceStatus

def decodeSignature (bytes : Bytes) : Except CodecError Signature64 :=
  if h : bytes.length = 64 then .ok ⟨bytes, h⟩ else .error .invalidSignatureLength

def decodeRecord : Cursor AcquireRecord := do
  let operation ← Cursor.ref16
  let operationId ← Reader.lift (wrapErr .model (acquireOperationIdTryFromBytes operation))
  let requestDigest ← Cursor.digest
  let exactRequestBytes ← Cursor.counted 4 maxAcquireRequestBytes
  let writer ← Cursor.ref16
  let epoch ← Cursor.u64
  let supersedesThroughEpoch ← Cursor.u64
  let nonce ← Cursor.counted 2 maxTenureNonceBytes
  let responseBound ← Cursor.u32
  let signatureBytes ← Cursor.counted 2 ed25519SignatureBytes
  let signature ← Reader.lift (decodeSignature signatureBytes)
  let proofEnvelopeDigest ← Cursor.digest
  let exactResponseBytes ← Cursor.counted 4 maxAcquireResponseBytes
  let responseDigest ← Cursor.digest
  let code ← Cursor.uint 1
  let status ← Reader.lift (IssuanceStatus.decode code)
  pure { operationId, requestDigest, exactRequestBytes, writer, epoch, supersedesThroughEpoch, nonce, responseBound,
         signature, proofEnvelopeDigest, exactResponseBytes, responseDigest, status }

def decodePayload (sha256 : Sha256) (ed : Ed25519) (storeInstanceId : StoreInstanceId) (ownerIdentityFingerprint : Digest32)
    (snapshotSequence : UInt64) : Cursor AuthoritySnapshot := do
  let sourceScope ← Cursor.ref16
  let authorizedWriter ← Cursor.ref16
  let authority ← Cursor.ref16
  let key ← Cursor.ref16
  let algorithmValue ← Cursor.u16
  let algorithm ← Reader.lift (wrapErr .proof (TenureProofAlgorithm.tryNew algorithmValue))
  let algorithmVersion ← Cursor.u16
  let proofAuthority ← Reader.lift (wrapErr .proof (TenureProofAuthority.tryNew authority key algorithm algorithmVersion))
  let verificationKey ← Cursor.digest
  let controllerPrincipal ← Cursor.ref16
  let controllerKey ← Cursor.ref16
  let controllerVerificationKey ← Cursor.digest
  let controllerPublicKeyFingerprint ← Cursor.digest
  let signingKey ← Cursor.digest
  let policy ← Cursor.digest
  let servicePrincipal ← Cursor.digest
  let epochHighWater ← Cursor.u64
  let recordCount ← Cursor.uint 2
  Reader.lift (rejectIf (maxRetainedAcquireRecords < recordCount) .recordCountTooLarge)
  let provisioning ← Reader.lift (wrapErr .model (AuthorityProvisioning.tryNew sha256 ed sourceScope authorizedWriter
    proofAuthority verificationKey
    { controllerPrincipal, controllerKey, controllerVerificationKey, controllerPublicKeyFingerprint }
    { signingKey, policy, servicePrincipal, ownerIdentity := ownerIdentityFingerprint }))
  let acquireRecords ← Reader.times recordCount decodeRecord
  Reader.finish .trailingPayloadBytes
  pure { storeInstanceId, ownerIdentityFingerprint, snapshotSequence, provisioning, epochHighWater, acquireRecords }

structure EnvelopeHeader where
  storeInstanceId : StoreInstanceId
  ownerIdentityFingerprint : Digest32
  snapshotSequence : UInt64
  payloadLength : Nat

def decodeEnvelopeHeader : Cursor EnvelopeHeader := do
  let magic ← Reader.take 4 .truncatedPayloadField
  Reader.lift (rejectIf (magic.val ≠ journalMagic) .invalidMagic)
  let envelopeVersion ← Cursor.uint 2
  Reader.lift (rejectIf (envelopeVersion ≠ journalEnvelopeVersion) .unknownEnvelopeVersion)
  let ownerKind ← Cursor.uint 1
  Reader.lift (rejectIf (ownerKind ≠ authorityOwnerKind) .ownerKindMismatch)
  let payloadVersion ← Cursor.uint 2
  Reader.lift (rejectIf (payloadVersion ≠ authorityPayloadVersion) .unknownPayloadVersion)
  let algorithm ← Cursor.uint 1
  Reader.lift (rejectIf (algorithm ≠ checksumAlgorithmSha256) .unknownChecksumAlgorithm)
  let algorithmVersion ← Cursor.uint 1
  Reader.lift (rejectIf (algorithmVersion ≠ checksumAlgorithmVersion) .unknownChecksumVersion)
  let store ← Cursor.digest
  let storeInstanceId ← Reader.lift (wrapErr .model (StoreInstanceId.tryFromBytes store))
  let ownerIdentityFingerprint ← Cursor.digest
  let snapshotSequence ← Cursor.u64
  let payloadLength ← Cursor.uint 8
  Reader.finish .internalHeaderLayout
  pure { storeInstanceId, ownerIdentityFingerprint, snapshotSequence, payloadLength }

/-- `&encoded[..stop]`. -/
def sliceTo (encoded : Bytes) (stop : Nat) (_ : stop ≤ encoded.length) : Bytes := encoded.take stop

/-- `&encoded[start..]`. -/
def sliceFrom (encoded : Bytes) (start : Nat) (_ : start ≤ encoded.length) : Bytes := encoded.drop start

def decodeEnveloped (sha256 : Sha256) (ed : Ed25519) (encoded : Bytes) (long : envelopeHeaderBytes ≤ encoded.length) :
    Except CodecError AuthoritySnapshot := do
  let front := sliceTo encoded envelopeHeaderWithoutChecksumBytes (le_trans (by decide) long)
  let (header, _) ← decodeEnvelopeHeader front
  rejectIf (2 ^ 64 ≤ envelopeHeaderBytes + header.payloadLength) .declaredPayloadTooLarge
  rejectIf (authoritySnapshotMaxBytes < envelopeHeaderBytes + header.payloadLength) .declaredPayloadTooLarge
  rejectIf (encoded.length < envelopeHeaderBytes + header.payloadLength) .truncatedPayload
  rejectIf (envelopeHeaderBytes + header.payloadLength < encoded.length) .trailingBytes
  let expectedChecksum := Digest32.fromBytes ⟨sliceFrom (sliceTo encoded envelopeHeaderBytes long)
    envelopeHeaderWithoutChecksumBytes (by rw [sliceTo, List.length_take_of_le long]; decide), by
      rw [sliceFrom, List.length_drop, sliceTo, List.length_take_of_le long]; rfl⟩
  let payload := sliceFrom encoded envelopeHeaderBytes long
  let actualChecksum ← envelopeChecksum sha256 front payload
  rejectIf (actualChecksum ≠ expectedChecksum) .checksumMismatch
  let (snapshot, _) ← decodePayload sha256 ed header.storeInstanceId header.ownerIdentityFingerprint
    header.snapshotSequence payload
  wrapErr .model (snapshot.validate sha256 ed)
  let again ← encodeSnapshot sha256 ed snapshot
  rejectIf (again ≠ encoded) .nonCanonicalEncoding
  pure snapshot

def decodeSnapshot (sha256 : Sha256) (ed : Ed25519) (encoded : Bytes) : Except CodecError AuthoritySnapshot := do
  rejectIf (authoritySnapshotMaxBytes < encoded.length) .envelopeTooLarge
  if long : envelopeHeaderBytes ≤ encoded.length then decodeEnveloped sha256 ed encoded long
  else .error .truncatedEnvelopeHeader

end Tenure
end ParaEgox
