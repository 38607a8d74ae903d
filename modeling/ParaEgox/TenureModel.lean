import ParaEgox.Keyed
import ParaEgox.TenureProtocol

/-!
# TenureModel — what the tenure authority remembers

The provisioning of an authority, the records of the tenures it issued, and the snapshot that holds both, with every check
the authority makes before it believes one.  Ed25519 and SHA-256 are those of the host.
-/
namespace ParaEgox
namespace Tenure

open Check

def authoritySnapshotMaxBytes : Nat := 1024 * 1024
def maxRetainedAcquireRecords : Nat := 64
def maxAcquireRequestBytes : Nat := 64 * 1024
def maxAcquireResponseBytes : Nat := 64 * 1024
def ed25519Algorithm : UInt16 := 1
def ed25519AlgorithmVersion : UInt16 := 1
def ed25519SignatureBytes : Nat := 64

def authorityKeyFingerprintDomain : Bytes :=
  Text.bytes (s := "paraegox.deployment.tenure-authority.key-fingerprint.sha256.v1") ⟨_, by conv => rhs; simp [ascii]⟩

def controllerKeyFingerprintDomain : Bytes :=
  Text.bytes (s := "paraegox.deployment.acquire-tenure.controller-key.sha256.v1") ⟨_, by conv => rhs; simp [ascii]⟩

/-- A `[u8; 64]`. -/
abbrev Signature64 := {signature : Bytes // signature.length = 64}

/-- The host's Ed25519: which 32 bytes are a verifying key and which of these are weak, strict verification, and the key and
the signatures of a seed. -/
structure Ed25519 where
  isKey : Digest32 → Bool
  isWeak : Digest32 → Bool
  verifyStrict : Digest32 → Bytes → Signature64 → Bool
  verifyingKey : Digest32 → Digest32
  sign : Digest32 → Bytes → Signature64

inductive ModelError
  | zeroStoreInstanceId
  | zeroOperationId
  | zeroSourceScope
  | zeroTenureAuthorityReference
  | zeroTenureKeyReference
  | zeroWriterReference
  | unauthorizedWriter
  | zeroControllerPrincipal
  | zeroControllerKeyReference
  | zeroControllerKeyFingerprint
  | invalidControllerVerificationKey
  | weakControllerVerificationKey
  | invalidControllerKeyFingerprint
  | controllerKeyFingerprintMismatch
  | zeroSigningKeyFingerprint
  | zeroPolicyFingerprint
  | zeroServicePrincipalFingerprint
  | zeroOwnerIdentityFingerprint
  | zeroRequestDigest
  | zeroResponseDigest
  | zeroProofEnvelopeDigest
  | invalidVerificationKey
  | weakVerificationKey
  | signingKeyFingerprintMismatch
  | unsupportedSignatureProfile
  | emptyRequest
  | requestTooLarge
  | emptyNonce
  | nonceTooLarge
  | zeroResponseBound
  | responseBoundTooLarge
  | emptyResponse
  | responseTooLarge
  | zeroSnapshotSequence
  | snapshotSequenceOverflow
  | snapshotSequenceHistoryMismatch
  | ownerIdentityFingerprintMismatch
  | acquireCapacityExceeded
  | epochHistoryMismatch
  | nonCanonicalOperationOrdering
  | duplicateEpoch
  | invalidEpoch
  | invalidSupersedesEpoch
  | invalidStoredRequest
  | storedRequestBindingMismatch
  | invalidStoredRequestSignature
  | invalidStoredResponse
  | storedResponseBindingMismatch
  | proofEnvelopeDigestMismatch
  | invalidProofSignature
  | operationDigestConflict
  | epochOverflow
  | operationAlreadyIssued
  | epochTransitionMismatch
  | snapshotSequenceTransitionMismatch
  | responseProofBindingMismatch
  | digest (e : DigestBuildError)
  | proof (e : TenureProofError)
  deriving DecidableEq

def ensureNonzero (bytes : Bytes) (e : ModelError) : Except ModelError Unit := rejectIf (bytes.all (· = 0) = true) e

def ensureNonzeroDigest (digest : Digest32) (e : ModelError) : Except ModelError Unit := ensureNonzero digest.asBytes e

structure StoreInstanceId where
  bytes : Id32
  nonzero : bytes.asBytes.all (· = 0) ≠ true
  deriving DecidableEq

def StoreInstanceId.tryFromBytes (bytes : Id32) : Except ModelError StoreInstanceId := do
  let nonzero ← require (bytes.asBytes.all (· = 0) ≠ true) .zeroStoreInstanceId
  pure ⟨bytes, nonzero.down⟩

@[simp] theorem StoreInstanceId.tryFromBytes_bytes (id : StoreInstanceId) : StoreInstanceId.tryFromBytes id.bytes = .ok id :=
  ok_bind (require_ok ⟨id.nonzero⟩) rfl

def acquireOperationIdTryFromBytes (bytes : Ref16) : Except ModelError Ref16 := do
  ensureNonzero bytes.asBytes .zeroOperationId
  pure bytes

def signingKeyFingerprintFor (sha256 : Sha256) (verificationKey : Digest32) : Except ModelError Digest32 :=
  wrapErr .digest (digest32 sha256 authorityKeyFingerprintDomain [verificationKey.asBytes])

/-- `ControllerPublicKeyFingerprint::for_ed25519_key`. -/
def controllerFingerprintForEd25519Key (sha256 : Sha256) (publicKey : Digest32) : Res Digest32 := do
  let digest ← digestOf sha256 controllerKeyFingerprintDomain
    [bytesBE 2 acquireTenureEd25519Algorithm, bytesBE 2 acquireTenureEd25519AlgorithmVersion, publicKey.asBytes]
  validateNonzero digest.asBytes 6
  pure digest

/-! ## Provisioning -/

structure AcquireAuthorization where
  controllerPrincipal : Ref16
  controllerKey : Ref16
  controllerVerificationKey : Digest32
  controllerPublicKeyFingerprint : Digest32
  deriving DecidableEq

structure AuthorityFingerprints where
  signingKey : Digest32
  policy : Digest32
  servicePrincipal : Digest32
  ownerIdentity : Digest32
  deriving DecidableEq

structure AuthorityProvisioning where
  sourceScope : Ref16
  authorizedWriter : Ref16
  proofAuthority : TenureProofAuthority
  verificationKey : Digest32
  authorization : AcquireAuthorization
  fingerprints : AuthorityFingerprints
  deriving DecidableEq

namespace AuthorityProvisioning

def tryNew (sha256 : Sha256) (ed : Ed25519) (sourceScope authorizedWriter : Ref16) (proofAuthority : TenureProofAuthority)
    (verificationKey : Digest32) (authorization : AcquireAuthorization) (fingerprints : AuthorityFingerprints) :
    Except ModelError AuthorityProvisioning := do
  ensureNonzero sourceScope.asBytes .zeroSourceScope
  ensureNonzero authorizedWriter.asBytes .zeroWriterReference
  ensureNonzero proofAuthority.authority.asBytes .zeroTenureAuthorityReference
  ensureNonzero proofAuthority.key.asBytes .zeroTenureKeyReference
  ensureNonzero authorization.controllerPrincipal.asBytes .zeroControllerPrincipal
  ensureNonzero authorization.controllerKey.asBytes .zeroControllerKeyReference
  rejectIf (ed.isKey authorization.controllerVerificationKey = false) .invalidControllerVerificationKey
  rejectIf (ed.isWeak authorization.controllerVerificationKey = true) .weakControllerVerificationKey
  let controllerFingerprint ← mapErr
    (controllerFingerprintForEd25519Key sha256 authorization.controllerVerificationKey) .invalidControllerKeyFingerprint
  rejectIf (controllerFingerprint ≠ authorization.controllerPublicKeyFingerprint) .controllerKeyFingerprintMismatch
  ensureNonzeroDigest authorization.controllerPublicKeyFingerprint .zeroControllerKeyFingerprint
  ensureNonzeroDigest fingerprints.signingKey .zeroSigningKeyFingerprint
  ensureNonzeroDigest fingerprints.policy .zeroPolicyFingerprint
  ensureNonzeroDigest fingerprints.servicePrincipal .zeroServicePrincipalFingerprint
  ensureNonzeroDigest fingerprints.ownerIdentity .zeroOwnerIdentityFingerprint
  rejectIf (ed.isKey verificationKey = false) .invalidVerificationKey
  rejectIf (ed.isWeak verificationKey = true) .weakVerificationKey
  let actualFingerprint ← signingKeyFingerprintFor sha256 verificationKey
  rejectIf (actualFingerprint ≠ fingerprints.signingKey) .signingKeyFingerprintMismatch
  rejectIf (proofAuthority.algorithm.value ≠ ed25519Algorithm
    ∨ proofAuthority.algorithmVersion ≠ ed25519AlgorithmVersion) .unsupportedSignatureProfile
  pure { sourceScope, authorizedWriter, proofAuthority, verificationKey, authorization, fingerprints }

def validate (sha256 : Sha256) (ed : Ed25519) (p : AuthorityProvisioning) : Except ModelError Unit := do
  let _ ← tryNew sha256 ed p.sourceScope p.authorizedWriter p.proofAuthority p.verificationKey p.authorization
    p.fingerprints
  pure ()

end AuthorityProvisioning

/-! ## Intents, responses and records -/

structure AcquireIntent where
  operationId : Ref16
  requestDigest : Digest32
  exactRequestBytes : Bytes
  writer : Ref16
  nonce : Bytes
  responseBound : UInt32

def AcquireIntent.tryNew (operationId : Ref16) (requestDigest : Digest32) (exactRequestBytes : Bytes) (writer : Ref16)
    (nonce : Bytes) (responseBound : UInt32) : Except ModelError AcquireIntent := do
  ensureNonzeroDigest requestDigest .zeroRequestDigest
  rejectIf (exactRequestBytes = []) .emptyRequest
  rejectIf (maxAcquireRequestBytes < exactRequestBytes.length) .requestTooLarge
  ensureNonzero writer.asBytes .zeroWriterReference
  rejectIf (nonce = []) .emptyNonce
  rejectIf (maxTenureNonceBytes < nonce.length) .nonceTooLarge
  rejectIf (responseBound.toNat = 0) .zeroResponseBound
  rejectIf (maxAcquireResponseBytes < responseBound.toNat) .responseBoundTooLarge
  pure { operationId, requestDigest, exactRequestBytes, writer, nonce, responseBound }

structure EncodedAcquireResponse where
  exactBytes : Bytes
  responseDigest : Digest32
  proofEnvelopeDigest : Digest32

def EncodedAcquireResponse.tryNew (exactBytes : Bytes) (responseDigest proofEnvelopeDigest : Digest32) :
    Except ModelError EncodedAcquireResponse := do
  rejectIf (exactBytes = []) .emptyResponse
  rejectIf (maxAcquireResponseBytes < exactBytes.length) .responseTooLarge
  ensureNonzeroDigest responseDigest .zeroResponseDigest
  ensureNonzeroDigest proofEnvelopeDigest .zeroProofEnvelopeDigest
  pure { exactBytes, responseDigest, proofEnvelopeDigest }

inductive IssuanceStatus
  | issued
  deriving DecidableEq

structure AcquireRecord where
  operationId : Ref16
  requestDigest : Digest32
  exactRequestBytes : Bytes
  writer : Ref16
  epoch : UInt64
  supersedesThroughEpoch : UInt64
  nonce : Bytes
  responseBound : UInt32
  signature : Signature64
  proofEnvelopeDigest : Digest32
  exactResponseBytes : Bytes
  responseDigest : Digest32
  status : IssuanceStatus
  deriving DecidableEq

structure AuthoritySnapshot where
  storeInstanceId : StoreInstanceId
  ownerIdentityFingerprint : Digest32
  snapshotSequence : UInt64
  provisioning : AuthorityProvisioning
  epochHighWater : UInt64
  acquireRecords : List AcquireRecord
  deriving DecidableEq

inductive Preflight
  | replay (exactResponseBytes : Bytes) (responseDigest proofEnvelopeDigest : Digest32)
  | issue (nextEpoch nextSnapshotSequence : UInt64)

/-- `checked_add(1)` on a `u64`. -/
def checkedSucc (n : UInt64) (e : ModelError) : Except ModelError UInt64 := do
  rejectIf (2 ^ 64 ≤ n.toNat + 1) e
  pure (n + 1)

namespace AuthoritySnapshot

/-! ## Validation -/

def validateRecordStructure (s : AuthoritySnapshot) (record : AcquireRecord) : Except ModelError Unit := do
  let _ ← acquireOperationIdTryFromBytes record.operationId
  ensureNonzeroDigest record.requestDigest .zeroRequestDigest
  rejectIf (record.exactRequestBytes = []) .emptyRequest
  rejectIf (maxAcquireRequestBytes < record.exactRequestBytes.length) .requestTooLarge
  ensureNonzero record.writer.asBytes .zeroWriterReference
  rejectIf (record.writer ≠ s.provisioning.authorizedWriter) .unauthorizedWriter
  rejectIf (record.epoch = 0 ∨ s.epochHighWater < record.epoch) .invalidEpoch
  rejectIf (record.supersedesThroughEpoch ≠ record.epoch - 1) .invalidSupersedesEpoch
  rejectIf (record.nonce = []) .emptyNonce
  rejectIf (maxTenureNonceBytes < record.nonce.length) .nonceTooLarge
  rejectIf (record.responseBound.toNat = 0 ∨ maxAcquireResponseBytes < record.responseBound.toNat) .responseBoundTooLarge
  rejectIf (record.exactResponseBytes = []) .emptyResponse
  rejectIf (record.responseBound.toNat < record.exactResponseBytes.length
    ∨ maxAcquireResponseBytes < record.exactResponseBytes.length) .responseTooLarge
  ensureNonzeroDigest record.responseDigest .zeroResponseDigest
  ensureNonzeroDigest record.proofEnvelopeDigest .zeroProofEnvelopeDigest

/-- A `[u8; 64]` of a slice. -/
def signature64 (bytes : Bytes) (e : ModelError) : Except ModelError Signature64 :=
  if h : bytes.length = 64 then .ok ⟨bytes, h⟩ else .error e

def validateRecordProtocol (sha256 : Sha256) (ed : Ed25519) (s : AuthoritySnapshot) (record : AcquireRecord) :
    Except ModelError Unit := do
  let request ← mapErr (AcquireTenureRequestV1.decode sha256 record.exactRequestBytes) .invalidStoredRequest
  rejectIf (request.operationId ≠ record.operationId ∨ request.requestDigest ≠ record.requestDigest
    ∨ request.scope ≠ s.provisioning.sourceScope ∨ request.writer ≠ record.writer
    ∨ request.clientNonce ≠ record.nonce ∨ request.maxResponsePayloadBytes ≠ record.responseBound
    ∨ request.draft.controllerPrincipal ≠ s.provisioning.authorization.controllerPrincipal
    ∨ request.draft.controllerKey ≠ s.provisioning.authorization.controllerKey
    ∨ request.draft.controllerPublicKeyFingerprint ≠ s.provisioning.authorization.controllerPublicKeyFingerprint)
    .storedRequestBindingMismatch
  let requestSignature ← signature64 request.authSignature .invalidStoredRequestSignature
  let requestTranscript ← mapErr request.signingTranscript .invalidStoredRequestSignature
  rejectIf (ed.isKey s.provisioning.authorization.controllerVerificationKey = false) .invalidControllerVerificationKey
  rejectIf (ed.verifyStrict s.provisioning.authorization.controllerVerificationKey requestTranscript requestSignature = false)
    .invalidStoredRequestSignature
  let claim ← wrapErr .proof (WriterTenureClaim.tryNew s.provisioning.sourceScope record.writer record.epoch
    record.supersedesThroughEpoch)
  let proof ← wrapErr .proof (WriterTenureProof.tryNew s.provisioning.proofAuthority claim record.nonce record.signature.val)
  let envelopeDigest ← wrapErr .digest (proof.envelopeDigest sha256)
  rejectIf (envelopeDigest ≠ record.proofEnvelopeDigest) .proofEnvelopeDigestMismatch
  let transcript ← wrapErr .proof proof.signingTranscript
  rejectIf (ed.isKey s.provisioning.verificationKey = false) .invalidVerificationKey
  rejectIf (ed.verifyStrict s.provisioning.verificationKey transcript record.signature = false) .invalidProofSignature
  let response ← mapErr (AcquireTenureResponseV1.decodeForRequest sha256 record.exactResponseBytes request)
    .invalidStoredResponse
  rejectIf (response.responseDigest ≠ record.responseDigest ∨ response.proofDigest ≠ record.proofEnvelopeDigest
    ∨ response.proof ≠ proof) .storedResponseBindingMismatch

/-- The loop of `validate` over the records: the previous operation and which epochs were seen. -/
def validateRecord (s : AuthoritySnapshot) (seen : Option Ref16 × List Bool) (record : AcquireRecord) :
    Except ModelError (Option Ref16 × List Bool) := do
  rejectIf (∃ previous ∈ seen.1, record.operationId ≤ previous) .nonCanonicalOperationOrdering
  s.validateRecordStructure record
  let observed ← okOr seen.2[record.epoch.toNat - 1]? .epochHistoryMismatch
  rejectIf (observed = true) .duplicateEpoch
  pure (some record.operationId, seen.2.set (record.epoch.toNat - 1) true)

def validate (sha256 : Sha256) (ed : Ed25519) (s : AuthoritySnapshot) : Except ModelError Unit := do
  s.provisioning.validate sha256 ed
  rejectIf (s.snapshotSequence = 0) .zeroSnapshotSequence
  rejectIf (s.ownerIdentityFingerprint ≠ s.provisioning.fingerprints.ownerIdentity) .ownerIdentityFingerprintMismatch
  rejectIf (maxRetainedAcquireRecords < s.acquireRecords.length) .acquireCapacityExceeded
  rejectIf (s.epochHighWater.toNat ≠ s.acquireRecords.length) .epochHistoryMismatch
  let expectedSequence ← checkedSucc s.epochHighWater .snapshotSequenceOverflow
  rejectIf (s.snapshotSequence ≠ expectedSequence) .snapshotSequenceHistoryMismatch
  let seen ← scan s.validateRecord (none, List.replicate maxRetainedAcquireRecords false) s.acquireRecords
  rejectIf ((seen.2.take s.acquireRecords.length).any (!·) = true) .epochHistoryMismatch
  forEach s.acquireRecords (s.validateRecordProtocol sha256 ed)

def initial (sha256 : Sha256) (ed : Ed25519) (storeInstanceId : StoreInstanceId)
    (provisioning : AuthorityProvisioning) :
    Except ModelError AuthoritySnapshot := do
  let snapshot : AuthoritySnapshot :=
    { storeInstanceId, ownerIdentityFingerprint := provisioning.fingerprints.ownerIdentity, snapshotSequence := 1,
      provisioning, epochHighWater := 0, acquireRecords := [] }
  snapshot.validate sha256 ed
  pure snapshot

/-! ## Issuing -/

def preflight (s : AuthoritySnapshot) (intent : AcquireIntent) : Except ModelError Preflight :=
  match Keyed.find (·.operationId) intent.operationId s.acquireRecords with
  | some record => do
    rejectIf (record.requestDigest ≠ intent.requestDigest) .operationDigestConflict
    pure (.replay record.exactResponseBytes record.responseDigest record.proofEnvelopeDigest)
  | none => do
    rejectIf (s.acquireRecords.length = maxRetainedAcquireRecords) .acquireCapacityExceeded
    let nextEpoch ← checkedSucc s.epochHighWater .epochOverflow
    let nextSnapshotSequence ← checkedSucc s.snapshotSequence .snapshotSequenceOverflow
    pure (.issue nextEpoch nextSnapshotSequence)

def issuedRecord (s : AuthoritySnapshot) (intent : AcquireIntent) (nextEpoch : UInt64) (signature : Signature64)
    (proofEnvelopeDigest : Digest32) (response : EncodedAcquireResponse) : AcquireRecord :=
  { operationId := intent.operationId, requestDigest := intent.requestDigest,
    exactRequestBytes := intent.exactRequestBytes, writer := intent.writer, epoch := nextEpoch,
    supersedesThroughEpoch := s.epochHighWater, nonce := intent.nonce, responseBound := intent.responseBound, signature,
    proofEnvelopeDigest, exactResponseBytes := response.exactBytes, responseDigest := response.responseDigest,
    status := .issued }

def withIssuedRecord (sha256 : Sha256) (ed : Ed25519) (s : AuthoritySnapshot) (intent : AcquireIntent)
    (nextEpoch nextSnapshotSequence : UInt64) (signature : Signature64) (proofEnvelopeDigest : Digest32)
    (response : EncodedAcquireResponse) : Except ModelError AuthoritySnapshot := do
  let preflight ← s.preflight intent
  match preflight with
  | .replay .. => .error .operationAlreadyIssued
  | .issue expectedEpoch expectedSequence => do
    rejectIf (nextEpoch ≠ expectedEpoch) .epochTransitionMismatch
    rejectIf (nextSnapshotSequence ≠ expectedSequence) .snapshotSequenceTransitionMismatch
    rejectIf (response.proofEnvelopeDigest ≠ proofEnvelopeDigest) .responseProofBindingMismatch
    rejectIf (intent.responseBound.toNat < response.exactBytes.length) .responseTooLarge
    let record := s.issuedRecord intent nextEpoch signature proofEnvelopeDigest response
    let next := { s with
      acquireRecords := Keyed.insert (·.operationId) record s.acquireRecords
      epochHighWater := nextEpoch
      snapshotSequence := nextSnapshotSequence }
    next.validate sha256 ed
    pure next

end AuthoritySnapshot
end Tenure
end ParaEgox
