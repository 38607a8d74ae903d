import ParaEgox.TenureStore

/-!
# TenureAuthority — acquiring tenure from the authority

The signer, the policy a request is held to, and the acquire operation: a known operation is answered from its record; a new
one is signed, put into the next snapshot, committed, and only then answered.
-/
namespace ParaEgox
namespace Tenure

open Check Disk Disk.Calls

/-! ## Diagnostics -/

structure TenureAuthorityFailureDiagnostic where
  code : String
  stage : String
  pathRole : String
  fact : String

def fileStageName : FileStage → String
  | .inspectDirectory => "inspect_directory"
  | .openDirectory => "open_directory"
  | .inspectFilesystem => "inspect_filesystem"
  | .scanDirectory => "scan_directory"
  | .openLock => "open_lock"
  | .acquireLock => "acquire_lock"
  | .openActive => "open_active"
  | .readActive => "read_active"
  | .inspectOrphanTemp => "inspect_orphan_temp"
  | .removeOrphanTemp => "remove_orphan_temp"
  | .syncOrphanCleanup => "sync_orphan_cleanup"
  | .generateTempName => "generate_temp_name"
  | .validateEncodedSnapshot => "validate_encoded_snapshot"
  | .requireMissingActive => "require_missing_active"
  | .createTemp => "create_temp"
  | .inspectTemp => "inspect_temp"
  | .writeTemp => "write_temp"
  | .syncTemp => "sync_temp"
  | .rename => "rename_snapshot"
  | .syncDirectory => "sync_directory"
  | .returnDurableCommit => "return_durable_commit"

def fileStagePathRole : FileStage → String
  | .inspectDirectory | .openDirectory | .inspectFilesystem | .scanDirectory | .syncOrphanCleanup | .syncDirectory
  | .returnDurableCommit => "state_dir"
  | .openLock | .acquireLock => "lock"
  | .openActive | .readActive | .requireMissingActive => "active_snapshot"
  | .inspectOrphanTemp | .removeOrphanTemp | .generateTempName | .validateEncodedSnapshot | .createTemp | .inspectTemp
  | .writeTemp | .syncTemp | .rename => "temp_snapshot"

def storeOpenDiagnostic : StoreOpenError → TenureAuthorityFailureDiagnostic
  | .lockContended => ⟨"PXTA-STORE-LOCK-CONTENDED", "acquire_lock", "lock", "contended"⟩
  | .storeInstanceMismatch =>
    ⟨"PXTA-STORE-IDENTITY-MISMATCH", "validate_store_identity", "active_snapshot", "store_identity_mismatch"⟩
  | .provisioningMismatch =>
    ⟨"PXTA-STORE-PROVISIONING-MISMATCH", "validate_owner_provisioning", "active_snapshot", "owner_or_provisioning_mismatch"⟩
  | .unsupportedFilesystem =>
    ⟨"PXTA-FILESYSTEM-ATOMICITY-UNSUPPORTED", "inspect_filesystem", "state_dir", "unsupported"⟩
  | .io ⟨.openActive, .notFound⟩ => ⟨"PXTA-SNAPSHOT-MISSING", "open_active", "active_snapshot", "missing"⟩
  | .io ⟨.openLock, .notFound⟩ => ⟨"PXTA-STORE-LOCK-MISSING", "open_lock", "lock", "missing"⟩
  | .codec .checksumMismatch =>
    ⟨"PXTA-SNAPSHOT-CHECKSUM-MISMATCH", "decode_snapshot", "active_snapshot", "checksum_mismatch"⟩
  | .codec _ => ⟨"PXTA-SNAPSHOT-CORRUPT", "decode_snapshot", "active_snapshot", "invalid"⟩
  | .activeEmpty | .activeTooLarge | .activeAllocationFailed | .activeChangedDuringRead =>
    ⟨"PXTA-SNAPSHOT-INVALID", "read_active", "active_snapshot", "invalid"⟩
  | .io failure => ⟨"PXTA-STORE-IO", fileStageName failure.stage, fileStagePathRole failure.stage, "io_failure"⟩
  | .pathMustBeAbsolute | .unsafeDirectoryPath | .symlinkInDirectoryPath | .unsafeDirectoryType | .unsafeDirectoryMode
  | .directoryIdentityChanged => ⟨"PXTA-STATE-DIRECTORY-UNSAFE", "validate_directory", "state_dir", "unsafe"⟩
  | .unsafeFileMode | .fileOwnerMismatch => ⟨"PXTA-STORE-FILE-UNSAFE", "validate_file", "store_file", "unsafe"⟩
  | .unknownDirectoryEntry | .tooManyOrphanTemps =>
    ⟨"PXTA-STORE-DIRECTORY-CONTAMINATED", "scan_directory", "state_dir", "unexpected_entry"⟩

def publishFaultDiagnostic (code : String) (fault : PublishFault) (ioFact injectedFact : String) :
    TenureAuthorityFailureDiagnostic :=
  ⟨code, fileStageName fault.stage, fileStagePathRole fault.stage, if fault.kind.isSome then ioFact else injectedFact⟩

def publishDiagnostic : PublishFailure → TenureAuthorityFailureDiagnostic
  | .rejectedBeforePublish fault =>
    publishFaultDiagnostic "PXTA-PUBLISH-REJECTED" fault "io_failure_not_published" "not_published"
  | .uncertainAfterPublish fault =>
    publishFaultDiagnostic "PXTA-PUBLISH-UNCERTAIN" fault "io_failure_publication_uncertain" "publication_uncertain"

/-! ## Errors -/

inductive TenureAcquireError
  | unauthorizedScope
  | unauthorizedWriter
  | unauthorizedControllerPrincipal
  | unauthorizedControllerKey
  | unsupportedRequestSignatureProfile
  | invalidProvisionedControllerKey
  | invalidRequestSignature
  | operationDigestConflict
  | capacityExceeded
  | epochOverflow
  | snapshotSequenceOverflow
  | invalidStoredResponse
  | signingFailed
  | responseBoundExceeded
  | responseEncodingFailed
  | storeStopped
  | rejectedBeforePublish (diagnostic : TenureAuthorityFailureDiagnostic)
  | uncertainAfterPublish (diagnostic : TenureAuthorityFailureDiagnostic)
  | storeUnavailableOrInvalid (diagnostic : TenureAuthorityFailureDiagnostic)

def mapAcquireModelError : ModelError → TenureAcquireError
  | .operationDigestConflict => .operationDigestConflict
  | .acquireCapacityExceeded => .capacityExceeded
  | .epochOverflow => .epochOverflow
  | .snapshotSequenceOverflow => .snapshotSequenceOverflow
  | _ => .storeUnavailableOrInvalid ⟨"PXTA-STORE-MODEL-INVALID", "validate_snapshot", "active_snapshot", "invalid"⟩

def mapAcquireStoreError : StoreError → TenureAcquireError
  | .stopped => .storeStopped
  | .publish (.rejectedBeforePublish fault) => .rejectedBeforePublish (publishDiagnostic (.rejectedBeforePublish fault))
  | .publish (.uncertainAfterPublish fault) => .uncertainAfterPublish (publishDiagnostic (.uncertainAfterPublish fault))
  | .sequenceOverflow => .snapshotSequenceOverflow
  | .open e => .storeUnavailableOrInvalid (storeOpenDiagnostic e)
  | .activeSnapshotChanged =>
    .storeUnavailableOrInvalid ⟨"PXTA-SNAPSHOT-CHANGED", "revalidate_snapshot", "active_snapshot", "identity_changed"⟩
  | _ => .storeUnavailableOrInvalid ⟨"PXTA-STORE-STATE-INVALID", "validate_transition", "active_snapshot", "invalid"⟩

inductive TenureAuthorityOpenError
  | invalidExpectedStoreIdentity
  | signingKeyMismatch
  | store (diagnostic : TenureAuthorityFailureDiagnostic)

/-! ## The signer -/

inductive SignerError
  | allZeroSeed
  | unsupportedSignatureProfile
  | signingKeyFingerprintMismatch
  | proofAuthorityMismatch
  | verificationKeyMismatch
  | model (e : ModelError)
  | proof (e : TenureProofError)
  | digest (e : DigestBuildError)

structure Ed25519TenureSigner where
  proofAuthority : TenureProofAuthority
  signingKeyFingerprint : Digest32
  seed : Digest32

structure SignedTenureProof where
  proof : WriterTenureProof
  signature : Signature64
  envelopeDigest : Digest32

namespace Ed25519TenureSigner

def tryFromSeed (sha256 : Sha256) (ed : Ed25519) (proofAuthority : TenureProofAuthority) (seed : Digest32)
    (expectedSigningKeyFingerprint : Digest32) : Except SignerError Ed25519TenureSigner := do
  rejectIf (seed.asBytes.all (· = 0) = true) .allZeroSeed
  rejectIf (proofAuthority.algorithm.value ≠ ed25519Algorithm
    ∨ proofAuthority.algorithmVersion ≠ ed25519AlgorithmVersion) .unsupportedSignatureProfile
  let signingKeyFingerprint ← wrapErr .model (signingKeyFingerprintFor sha256 (ed.verifyingKey seed))
  rejectIf (signingKeyFingerprint ≠ expectedSigningKeyFingerprint) .signingKeyFingerprintMismatch
  pure { proofAuthority, signingKeyFingerprint, seed }

def validateProvisioning (ed : Ed25519) (signer : Ed25519TenureSigner) (provisioning : AuthorityProvisioning) :
    Except SignerError Unit := do
  rejectIf (signer.proofAuthority ≠ provisioning.proofAuthority) .proofAuthorityMismatch
  rejectIf (signer.signingKeyFingerprint ≠ provisioning.fingerprints.signingKey) .signingKeyFingerprintMismatch
  rejectIf (ed.verifyingKey signer.seed ≠ provisioning.verificationKey) .verificationKeyMismatch

def sign (sha256 : Sha256) (ed : Ed25519) (signer : Ed25519TenureSigner) (sourceScope writer : Ref16)
    (epoch supersedesThroughEpoch : UInt64) (nonce : Bytes) : Except SignerError SignedTenureProof := do
  let claim ← wrapErr .proof (WriterTenureClaim.tryNew sourceScope writer epoch supersedesThroughEpoch)
  let transcript ← wrapErr .proof (writerTenureSigningTranscript signer.proofAuthority claim nonce)
  let signature := ed.sign signer.seed transcript
  let proof ← wrapErr .proof (WriterTenureProof.tryNew signer.proofAuthority claim nonce signature.val)
  let envelopeDigest ← wrapErr .digest (proof.envelopeDigest sha256)
  pure { proof, signature, envelopeDigest }

end Ed25519TenureSigner

/-! ## Acquiring -/

def requestSignature (bytes : Bytes) : Except TenureAcquireError Signature64 :=
  if h : bytes.length = 64 then .ok ⟨bytes, h⟩ else .error .invalidRequestSignature

def validateRequestPolicy (ed : Ed25519) (provisioning : AuthorityProvisioning) (request : AcquireTenureRequestV1) :
    Except TenureAcquireError Unit := do
  rejectIf (acquireTenureEd25519Algorithm ≠ 1 ∨ acquireTenureEd25519AlgorithmVersion ≠ 1)
    .unsupportedRequestSignatureProfile
  rejectIf (ed.isKey provisioning.authorization.controllerVerificationKey = false) .invalidProvisionedControllerKey
  let signature ← requestSignature request.authSignature
  let transcript ← mapErr request.signingTranscript .invalidRequestSignature
  rejectIf (ed.verifyStrict provisioning.authorization.controllerVerificationKey transcript signature = false)
    .invalidRequestSignature
  rejectIf (request.scope ≠ provisioning.sourceScope) .unauthorizedScope
  rejectIf (request.writer ≠ provisioning.authorizedWriter) .unauthorizedWriter
  rejectIf (request.draft.controllerPrincipal ≠ provisioning.authorization.controllerPrincipal)
    .unauthorizedControllerPrincipal
  rejectIf (request.draft.controllerKey ≠ provisioning.authorization.controllerKey
    ∨ request.draft.controllerPublicKeyFingerprint ≠ provisioning.authorization.controllerPublicKeyFingerprint)
    .unauthorizedControllerKey

inductive AcquireDisposition
  | issued
  | replayed
  deriving DecidableEq

structure CommittedAcquireTenure where
  response : AcquireTenureResponseV1
  disposition : AcquireDisposition

def acquireIntent (request : AcquireTenureRequestV1) : Except ModelError AcquireIntent := do
  let operationId ← acquireOperationIdTryFromBytes request.operationId
  AcquireIntent.tryNew operationId request.requestDigest request.canonicalBytes request.writer request.clientNonce
    request.maxResponsePayloadBytes

def acquirePreflight (ed : Ed25519) (snapshot : AuthoritySnapshot) (request : AcquireTenureRequestV1) :
    Except TenureAcquireError (AcquireIntent × Preflight) := do
  validateRequestPolicy ed snapshot.provisioning request
  let intent ← wrapErr mapAcquireModelError (acquireIntent request)
  let preflight ← wrapErr mapAcquireModelError (snapshot.preflight intent)
  pure (intent, preflight)

def replayResponse (sha256 : Sha256) (request : AcquireTenureRequestV1) (exactResponseBytes : Bytes)
    (responseDigest proofEnvelopeDigest : Digest32) : Except TenureAcquireError CommittedAcquireTenure := do
  let response ← mapErr (AcquireTenureResponseV1.decodeForRequest sha256 exactResponseBytes request) .invalidStoredResponse
  rejectIf (response.responseDigest ≠ responseDigest ∨ response.proofDigest ≠ proofEnvelopeDigest) .invalidStoredResponse
  pure ⟨response, .replayed⟩

def responseError : Fault → TenureAcquireError
  | .error ⟨.responseBoundExceeded, _⟩ => .responseBoundExceeded
  | _ => .responseEncodingFailed

def issueResponse (sha256 : Sha256) (ed : Ed25519) (signer : Ed25519TenureSigner) (snapshot : AuthoritySnapshot)
    (request : AcquireTenureRequestV1) (intent : AcquireIntent) (nextEpoch nextSnapshotSequence : UInt64) :
    Except TenureAcquireError (AcquireTenureResponseV1 × AuthoritySnapshot) := do
  let signed ← mapErr (signer.sign sha256 ed snapshot.provisioning.sourceScope intent.writer nextEpoch
    snapshot.epochHighWater intent.nonce) .signingFailed
  let response ← wrapErr responseError (AcquireTenureResponseV1.tryNew sha256 request signed.proof)
  rejectIf (response.proofDigest ≠ signed.envelopeDigest) .responseEncodingFailed
  let encoded ← wrapErr mapAcquireModelError (EncodedAcquireResponse.tryNew response.canonicalBytes
    response.responseDigest signed.envelopeDigest)
  let next ← wrapErr mapAcquireModelError (snapshot.withIssuedRecord sha256 ed intent nextEpoch nextSnapshotSequence
    signed.signature signed.envelopeDigest encoded)
  pure (response, next)

def acquireWithFailpoint (sha256 : Sha256) (ed : Ed25519) (accounts : Accounts) (signer : Ed25519TenureSigner)
    (request : AcquireTenureRequestV1) (failpoint : CommitFailpoint) (random : Bytes) :
    Calls Held TenureAcquireError CommittedAcquireTenure := do
  let snapshot ← onFailure id mapAcquireStoreError (AuthorityStore.revalidateCurrent sha256 ed accounts)
  let (intent, preflight) ← check (acquirePreflight ed snapshot request)
  match preflight with
  | .replay exactResponseBytes responseDigest proofEnvelopeDigest =>
    check (replayResponse sha256 request exactResponseBytes responseDigest proofEnvelopeDigest)
  | .issue nextEpoch nextSnapshotSequence => do
    let (response, next) ← check
      (issueResponse sha256 ed signer snapshot request intent nextEpoch nextSnapshotSequence)
    onFailure id mapAcquireStoreError (AuthorityStore.commit sha256 ed accounts next failpoint random)
    pure ⟨response, .issued⟩

/-! ## The authority process -/

structure DeploymentTenureAuthority where
  store : AuthorityStore
  signer : Ed25519TenureSigner

def openSigner (sha256 : Sha256) (ed : Ed25519) (provisioning : AuthorityProvisioning) (seed : Digest32) :
    Except SignerError Ed25519TenureSigner := do
  let signer ← Ed25519TenureSigner.tryFromSeed sha256 ed provisioning.proofAuthority seed
    provisioning.fingerprints.signingKey
  signer.validateProvisioning ed provisioning
  pure signer

structure Launch where
  surroundings : Surroundings
  expectedStoreInstanceId : Id32
  provisioning : AuthorityProvisioning
  seed : Digest32

def openAuthority (sha256 : Sha256) (ed : Ed25519) (accounts : Accounts) (launch : Launch) :
    Calls (Directory Bytes) TenureAuthorityOpenError DeploymentTenureAuthority := do
  let storeInstanceId ← check (mapErr (StoreInstanceId.tryFromBytes launch.expectedStoreInstanceId)
    .invalidExpectedStoreIdentity)
  let signer ← check (mapErr (openSigner sha256 ed launch.provisioning launch.seed) .signingKeyMismatch)
  let store ← onFailure id (fun e => .store (storeOpenDiagnostic e))
    (AuthorityStore.openStore sha256 ed accounts launch.surroundings storeInstanceId launch.provisioning)
  pure ⟨store, signer⟩

/-! ## Runs -/

structure Grant where
  request : AcquireTenureRequestV1
  committed : CommittedAcquireTenure

structure World where
  dir : Directory Bytes
  process : Option DeploymentTenureAuthority
  granted : List Grant

inductive Action
  | acquire (request : AcquireTenureRequestV1) (failpoint : CommitFailpoint) (random : Bytes) (script : List Verdict)
  | open (launch : Launch) (script : List Verdict)
  /-- The process is gone, the machine is not. -/
  | kill
  /-- The machine stops. -/
  | crash (reached : List Bool) (torn : Nat → Torn)

variable (sha256 : Sha256) (ed : Ed25519) (accounts : Accounts)

def answer (a : DeploymentTenureAuthority) (dir : Directory Bytes) (request : AcquireTenureRequestV1)
    (failpoint : CommitFailpoint) (random : Bytes) (script : List Verdict) :
    Except (Stop TenureAcquireError) CommittedAcquireTenure × Held :=
  let (result, host) := acquireWithFailpoint sha256 ed accounts a.signer request failpoint random ⟨⟨dir, a.store⟩, script⟩
  (result, host.own)

/-- What is started while a process has the store finds the lock contended. -/
def Launch.beside (launch : Launch) (process : Option DeploymentTenureAuthority) : Launch :=
  { launch with surroundings := { launch.surroundings with contended := launch.surroundings.contended || process.isSome } }

def step (w : World) : Action → World
  | .acquire request failpoint random script => match w.process with
    | none => w
    | some a => match answer sha256 ed accounts a w.dir request failpoint random script with
      | (.ok committed, held) =>
        { dir := held.dir, process := some { a with store := held.store }, granted := w.granted ++ [⟨request, committed⟩] }
      | (.error (.failed _), held) => { w with dir := held.dir, process := some { a with store := held.store } }
      | (.error .halted, held) => { w with dir := held.dir, process := none }
  | .open launch script =>
    match openAuthority sha256 ed accounts (launch.beside w.process) ⟨w.dir, script⟩ with
    | (.ok a, host) => { w with dir := host.own, process := some a }
    | (.error _, host) => { w with dir := host.own }
  | .kill => { w with process := none }
  | .crash reached torn => { w with dir := w.dir.crash reached torn, process := none }

def run (w : World) (actions : List Action) : World := actions.foldl (step sha256 ed accounts) w

/-- An authority is not opened over an active name that a change is still pending of. -/
def Action.Settled (w : World) : Action → Prop
  | .open launch script => match openAuthority sha256 ed accounts (launch.beside w.process) ⟨w.dir, script⟩ with
    | (.ok _, _) => w.dir.outcomes activeFileName = [w.dir.lookup activeFileName]
    | (.error _, _) => True
  | _ => True

/-- Every step of the run meets that condition. -/
def SettledRun : World → List Action → Prop
  | _, [] => True
  | w, action :: actions => action.Settled sha256 ed accounts w ∧ SettledRun (step sha256 ed accounts w action) actions

instance Action.decidableSettled (w : World) : ∀ action : Action, Decidable (action.Settled sha256 ed accounts w)
  | .open launch script =>
    match hopen : openAuthority sha256 ed accounts (launch.beside w.process) ⟨w.dir, script⟩ with
    | (.ok _, _) => decidable_of_iff (w.dir.outcomes activeFileName = [w.dir.lookup activeFileName]) (by simp [Settled, hopen])
    | (.error _, _) => .isTrue (by simp [Settled, hopen])
  | .acquire _ _ _ _ | .kill | .crash _ _ => .isTrue trivial

instance decidableSettledRun : ∀ (actions : List Action) (w : World), Decidable (SettledRun sha256 ed accounts w actions)
  | [], _ => .isTrue trivial
  | action :: actions, w =>
    have := decidableSettledRun actions (step sha256 ed accounts w action)
    inferInstanceAs (Decidable (_ ∧ _))

/-- The directory an initializer leaves: the lock file and the snapshot of the first sequence. -/
def initializedDirectory (encoded : Bytes) : Directory Bytes where
  files := [⟨[], accounts.ownerUid, privateFileModeBits, privateFileModeBits, true⟩,
    ⟨encoded, accounts.ownerUid, privateFileModeBits, privateFileModeBits, true⟩]
  stable := [(lockFileName, 0), (activeFileName, 1)]
  pending := []

def start (encoded : Bytes) : World := ⟨initializedDirectory accounts encoded, none, []⟩

end Tenure
end ParaEgox
