import ParaEgox.ApplyState
import ParaEgox.Assoc
import ParaEgox.TenureProof

/-!
# Admission — authentication, replay and temporal admission of apply envelopes

An envelope is admitted against exact trust selectors and both signatures.  Three ledgers are kept: the proof nonces, the
request nonces and the temporal lineages.  An exact replay is recognised by its request nonce and answered from the ledgers.
The signature scheme is a parameter.
-/
namespace ParaEgox

/-- `proof.signing_transcript()`, over the flat proof of the control commitment. -/
def WriterTenureProof.signingTranscript (p : WriterTenureProof) : Except Tenure.TenureProofError Bytes := do
  let _ ← Tenure.validateTenureNonce p.nonce
  pure ([Tenure.signingTranscriptMagic, bytesBE 2 1, bytesBE 2 Tenure.writerTenureSigningDomain.length,
      Tenure.writerTenureSigningDomain, bytesBE 2 9].flatten
    ++ Tlv.tlvs 0 [p.authority.asBytes, p.authorityKey.asBytes, bytesBE 2 p.algorithm, bytesBE 2 p.algorithmVersion,
      p.sourceScope.asBytes, p.writer.asBytes, bytesBE 8 p.epoch, bytesBE 8 p.supersedesThroughEpoch, p.nonce])

namespace Admission

open Check ApplyState

/-! ## Envelopes -/

inductive EnvelopeContractError
  | apply (e : ApplyContractError)
  | digest (e : DigestBuildError)
  | frameTooLarge

def maxRuntimeApplyEnvelopeBytes : Nat := 4096

def applyEnvelopeMagic : Bytes :=
  Text.bytes (s := "ParaEGOX") ⟨_, spells_paraEGOX⟩ ++ [0]
    ++ Text.bytes (s := "runtime-apply-envelope") ⟨_, by conv => rhs; simp [ascii]⟩
def applyAuthSigningDomain : Bytes :=
  Text.bytes (s := "paraegox.runtime.apply-envelope-auth.signing.v1") ⟨_, by conv => rhs; simp [ascii]⟩
def applyEnvelopeRequestDigestDomain : Bytes :=
  Text.bytes (s := "paraegox.runtime.apply-envelope.request.sha256.v1") ⟨_, by conv => rhs; simp [ascii]⟩

def applyFields (sha256 : Sha256) (payload : RuntimeApplyControlCommitment) (temporal : ApplyTemporalConstraint)
    (claim : ApplyAuthenticationClaim) : Except EnvelopeContractError (List Bytes) := do
  let header := payload.slice.header
  let proof := payload.control.proof
  let proofEnvelopeDigest ← wrapErr .digest (proof.envelopeDigest sha256)
  let expected := expectedTag payload.control.expectedActive
  pure [bytesBE 2 1, header.target.asBytes, header.provenance.sourceScope.asBytes, header.provenance.sourcePlan.asBytes,
    bytesBE 8 header.provenance.sourceRevision, header.provenance.sourcePlanDigest.asBytes,
    header.assignmentDigest.asBytes, payload.slice.targetSliceDigest.asBytes, proof.writer.asBytes, bytesBE 8 proof.epoch,
    proof.authority.asBytes, proof.authorityKey.asBytes, bytesBE 2 proof.algorithm, bytesBE 2 proof.algorithmVersion,
    proof.sourceScope.asBytes, proof.writer.asBytes, bytesBE 8 proof.epoch, bytesBE 8 proof.supersedesThroughEpoch,
    proof.nonce, proof.signature, proofEnvelopeDigest.asBytes, bytesBE 2 expected.1, expected.2.asBytes,
    payload.control.operationId.asBytes, payload.commitmentDigest.asBytes, bytesBE 2 1, temporal.constraintId.asBytes,
    temporal.targetClockDomain.asBytes, bytesBE 8 temporal.targetClockGeneration, bytesBE 8 temporal.originalBudget,
    bytesBE 8 temporal.remainingBudget, claim.principal.asBytes, claim.key.asBytes, bytesBE 2 claim.algorithm,
    bytesBE 2 claim.algorithmVersion, claim.nonce]

/-- `build_apply_signing_transcript`. -/
def applySigningTranscript (sha256 : Sha256) (payload : RuntimeApplyControlCommitment)
    (temporal : ApplyTemporalConstraint) (claim : ApplyAuthenticationClaim) : Except EnvelopeContractError Bytes := do
  let fields ← applyFields sha256 payload temporal claim
  let encoded := [Tenure.signingTranscriptMagic, bytesBE 2 1, bytesBE 2 applyAuthSigningDomain.length,
    applyAuthSigningDomain, bytesBE 2 36].flatten ++ Tlv.tlvs 0 fields
  rejectIf (maxRuntimeApplyEnvelopeBytes < encoded.length) .frameTooLarge
  pure encoded

structure RuntimeApplyEnvelope where
  controlCommitment : RuntimeApplyControlCommitment
  temporal : ApplyTemporalConstraint
  claim : ApplyAuthenticationClaim
  signature : Bytes
  canonicalWire : Bytes
  requestDigest : Digest32

namespace RuntimeApplyEnvelope

def tryNew (sha256 : Sha256) (payload : RuntimeApplyControlCommitment) (temporal : ApplyTemporalConstraint)
    (claim : ApplyAuthenticationClaim) (signature : Bytes) : Except EnvelopeContractError RuntimeApplyEnvelope := do
  wrapErr .apply (payload.validate sha256)
  let fields ← applyFields sha256 payload temporal claim
  let canonicalWire := [applyEnvelopeMagic, bytesBE 2 1, bytesBE 2 37].flatten ++ Tlv.tlvs 0 (fields ++ [signature])
  rejectIf (maxRuntimeApplyEnvelopeBytes < canonicalWire.length) .frameTooLarge
  let requestDigest ← wrapErr .digest (digest32 sha256 applyEnvelopeRequestDigestDomain [canonicalWire])
  pure ⟨payload, temporal, claim, signature, canonicalWire, requestDigest⟩

def sourceScope (e : RuntimeApplyEnvelope) : Ref16 := e.controlCommitment.slice.header.provenance.sourceScope
def target (e : RuntimeApplyEnvelope) : Ref16 := e.controlCommitment.slice.header.target
def proof (e : RuntimeApplyEnvelope) : WriterTenureProof := e.controlCommitment.control.proof

end RuntimeApplyEnvelope

/-! ## Policy -/

structure TenureTrustSelector where
  sourceScope : Ref16
  authority : Ref16
  key : Ref16
  algorithm : Nat
  algorithmVersion : Nat
  deriving DecidableEq

structure ApplyTrustSelector where
  sourceScope : Ref16
  target : Ref16
  principal : Ref16
  writer : Ref16
  key : Ref16
  algorithm : Nat
  algorithmVersion : Nat
  deriving DecidableEq

structure AdmissionStateLimits where
  tenureNonceCapacity : Nat
  requestNonceCapacity : Nat
  temporalLineageCapacity : Nat

structure ApplyAdmissionPolicy where
  maximumBudget : U64
  stateLimits : AdmissionStateLimits
  tenureKeys : List (TenureTrustSelector × Bytes)
  applyKeys : List (ApplyTrustSelector × Bytes)

/-- `verify_strict` of the signature scheme: key, message and signature. -/
abbrev VerifyStrict := Bytes → Bytes → Bytes → Bool

/-! ## State -/

structure TenureNonceKey where
  selector : TenureTrustSelector
  nonce : Bytes
  deriving DecidableEq

structure RequestNonceKey where
  selector : ApplyTrustSelector
  nonce : Bytes
  deriving DecidableEq

structure TemporalLedgerEntry where
  sourceScope : Ref16
  target : Ref16
  originalBudget : U64
  remainingBudget : U64
  deadline : MonotonicDeadline

structure AdmissionState where
  tenureNonces : List (TenureNonceKey × Digest32)
  requestNonces : List (RequestNonceKey × Digest32)
  temporal : List (Ref16 × TemporalLedgerEntry)

def AdmissionState.forNewBoundary : AdmissionState := ⟨[], [], []⟩

inductive AdmissionDisposition
  | fresh
  | replayed
  deriving DecidableEq

structure AdmissionTransition where
  nextState : AdmissionState
  admitted : AdmittedApply
  disposition : AdmissionDisposition

inductive AdmissionError
  | contract (e : ApplyContractError)
  | envelope (e : EnvelopeContractError)
  | digest (e : DigestBuildError)
  | tenureProof (e : Tenure.TenureProofError)
  | untrustedTenureKey
  | untrustedApplyKey
  | invalidTenureSignatureLength
  | invalidRequestSignatureLength
  | invalidTenureSignature
  | invalidRequestSignature
  | tenureNonceConflict
  | requestNonceConflict
  | admissionStateInconsistent
  | tenureNonceCapacityExceeded
  | requestNonceCapacityExceeded
  | temporalLineageCapacityExceeded
  | temporalLineageConflict
  | clockDomainMismatch
  | clockGenerationMismatch
  | budgetExceedsPolicy
  | budgetExpired
  | budgetExtended
  | deadlineOverflow

/-! ## Admission -/

namespace RuntimeApplyEnvelope

def tenureSelector (e : RuntimeApplyEnvelope) : TenureTrustSelector :=
  ⟨e.sourceScope, e.proof.authority, e.proof.authorityKey, e.proof.algorithm, e.proof.algorithmVersion⟩

def applySelector (e : RuntimeApplyEnvelope) : ApplyTrustSelector :=
  ⟨e.sourceScope, e.target, e.claim.principal, e.proof.writer, e.claim.key, e.claim.algorithm, e.claim.algorithmVersion⟩

def tenureNonceKey (e : RuntimeApplyEnvelope) : TenureNonceKey := ⟨e.tenureSelector, e.proof.nonce⟩

def requestNonceKey (e : RuntimeApplyEnvelope) : RequestNonceKey := ⟨e.applySelector, e.claim.nonce⟩

end RuntimeApplyEnvelope

def ed25519SignatureBytes : Nat := 64

/-- `parse_signature`: exactly 64 bytes. -/
def parseSignature (signature : Bytes) (invalidLength : AdmissionError) : Except AdmissionError Bytes := do
  rejectIf (signature.length ≠ ed25519SignatureBytes) invalidLength
  pure signature

/-- The trust and signature checks of `admit_envelope`: the digest of the complete proof. -/
def authenticate (sha256 : Sha256) (verify : VerifyStrict) (policy : ApplyAdmissionPolicy) (e : RuntimeApplyEnvelope) :
    Except AdmissionError Digest32 := do
  wrapErr .contract (e.controlCommitment.validate sha256)
  let tenureKey ← okOr (Assoc.get e.tenureSelector policy.tenureKeys) .untrustedTenureKey
  let applyKey ← okOr (Assoc.get e.applySelector policy.applyKeys) .untrustedApplyKey
  let tenureSignature ← parseSignature e.proof.signature .invalidTenureSignatureLength
  let tenureTranscript ← wrapErr .tenureProof e.proof.signingTranscript
  rejectIf (verify tenureKey tenureTranscript tenureSignature = false) .invalidTenureSignature
  let requestSignature ← parseSignature e.signature .invalidRequestSignatureLength
  let requestTranscript ← wrapErr .envelope (applySigningTranscript sha256 e.controlCommitment e.temporal e.claim)
  rejectIf (verify applyKey requestTranscript requestSignature = false) .invalidRequestSignature
  wrapErr .digest (e.proof.envelopeDigest sha256)

def ensureNonceConsistent {κ : Type} [DecidableEq κ] (ledger : List (κ × Digest32)) (key : κ) (digest : Digest32)
    (conflict : AdmissionError) : Except AdmissionError Unit :=
  rejectIf ((Assoc.get key ledger).any fun existing => existing ≠ digest) conflict

def ensureLedgerCapacity {κ α : Type} [DecidableEq κ] (ledger : List (κ × α)) (key : κ) (capacity : Nat)
    (capacityExceeded : AdmissionError) : Except AdmissionError Unit :=
  rejectIf (key ∉ Assoc.keys ledger ∧ capacity ≤ ledger.length) capacityExceeded

def disposeRequest (state : AdmissionState) (e : RuntimeApplyEnvelope) : Except AdmissionError AdmissionDisposition :=
  match Assoc.get e.requestNonceKey state.requestNonces with
  | none => .ok .fresh
  | some existing => if existing = e.requestDigest then .ok .replayed else .error .requestNonceConflict

def earlierDeadline (first second : MonotonicDeadline) : MonotonicDeadline :=
  if first.deadline ≤ second.deadline then first else second

def mapDeadlineError : TimeError → AdmissionError
  | .clockDomainMismatch => .clockDomainMismatch
  | .clockGenerationMismatch => .clockGenerationMismatch
  | .deadlineOverflow => .deadlineOverflow
  | .invalidClockGeneration => .clockGenerationMismatch

def installFirst (temporal : ApplyTemporalConstraint) (sourceScope target : Ref16) (reading : ClockReading) :
    Except AdmissionError TemporalLedgerEntry := do
  let candidate ← wrapErr mapDeadlineError (reading.tryDeadlineAfter temporal.remainingBudget)
  pure ⟨sourceScope, target, temporal.originalBudget, temporal.remainingBudget, candidate⟩

def installNext (temporal : ApplyTemporalConstraint) (sourceScope target : Ref16) (previous : TemporalLedgerEntry)
    (reading : ClockReading) : Except AdmissionError TemporalLedgerEntry := do
  rejectIf (previous.remainingBudget < temporal.remainingBudget) .budgetExtended
  let expired ← wrapErr mapDeadlineError (previous.deadline.isExpiredAt reading)
  rejectIf expired .budgetExpired
  let candidate ← wrapErr mapDeadlineError (reading.tryDeadlineAfter temporal.remainingBudget)
  pure ⟨sourceScope, target, temporal.originalBudget, temporal.remainingBudget,
    earlierDeadline previous.deadline candidate⟩

def keepEntry (temporal : ApplyTemporalConstraint) (previous : TemporalLedgerEntry) :
    Except AdmissionError TemporalLedgerEntry := do
  rejectIf (temporal.remainingBudget < previous.remainingBudget) .admissionStateInconsistent
  pure previous

def installTemporal (temporal : ApplyTemporalConstraint) (sourceScope target : Ref16)
    (existing : Option TemporalLedgerEntry) (reading : ClockReading) (maximumBudget : U64)
    (disposition : AdmissionDisposition) : Except AdmissionError TemporalLedgerEntry := do
  rejectIf (temporal.targetClockDomain ≠ reading.domain) .clockDomainMismatch
  rejectIf (temporal.targetClockGeneration ≠ reading.generation) .clockGenerationMismatch
  rejectIf (maximumBudget < temporal.originalBudget) .budgetExceedsPolicy
  rejectIf (temporal.remainingBudget = 0) .budgetExpired
  whenSome existing fun previous =>
    rejectIf (previous.sourceScope ≠ sourceScope ∨ previous.target ≠ target
      ∨ previous.originalBudget ≠ temporal.originalBudget ∨ previous.deadline.domain ≠ temporal.targetClockDomain
      ∨ previous.deadline.generation ≠ temporal.targetClockGeneration) .temporalLineageConflict
  match existing, disposition with
  | some previous, .replayed => keepEntry temporal previous
  | some previous, .fresh => installNext temporal sourceScope target previous reading
  | none, .replayed => .error .admissionStateInconsistent
  | none, .fresh => installFirst temporal sourceScope target reading

def replayIncomplete (state : AdmissionState) (e : RuntimeApplyEnvelope) (disposition : AdmissionDisposition) : Prop :=
  disposition = .replayed ∧ (e.tenureNonceKey ∉ Assoc.keys state.tenureNonces
    ∨ e.temporal.constraintId ∉ Assoc.keys state.temporal)

instance (state : AdmissionState) (e : RuntimeApplyEnvelope) (disposition : AdmissionDisposition) :
    Decidable (replayIncomplete state e disposition) := by
  unfold replayIncomplete
  infer_instance

def retain (state : AdmissionState) (e : RuntimeApplyEnvelope) (proofEnvelopeDigest : Digest32)
    (entry : TemporalLedgerEntry) : AdmissionState where
  tenureNonces := Assoc.put e.tenureNonceKey proofEnvelopeDigest state.tenureNonces
  requestNonces := Assoc.put e.requestNonceKey e.requestDigest state.requestNonces
  temporal := Assoc.put e.temporal.constraintId entry state.temporal

def admittedApply (e : RuntimeApplyEnvelope) (proofEnvelopeDigest : Digest32) (deadline : MonotonicDeadline)
    (exactReplay : Bool) : AdmittedApply where
  payload := e.controlCommitment
  tenure := ⟨e.proof.sourceScope, e.proof.writer, e.proof.epoch, e.proof.supersedesThroughEpoch, proofEnvelopeDigest,
    e.claim.principal⟩
  requestDigest := e.requestDigest
  deadline := deadline
  exactReplay := exactReplay

def admitEnvelope (sha256 : Sha256) (verify : VerifyStrict) (policy : ApplyAdmissionPolicy) (e : RuntimeApplyEnvelope)
    (state : AdmissionState) (reading : ClockReading) : Except AdmissionError AdmissionTransition := do
  let proofEnvelopeDigest ← authenticate sha256 verify policy e
  ensureNonceConsistent state.tenureNonces e.tenureNonceKey proofEnvelopeDigest .tenureNonceConflict
  let disposition ← disposeRequest state e
  rejectIf (replayIncomplete state e disposition) .admissionStateInconsistent
  let entry ← installTemporal e.temporal e.sourceScope e.target (Assoc.get e.temporal.constraintId state.temporal) reading
    policy.maximumBudget disposition
  ensureLedgerCapacity state.tenureNonces e.tenureNonceKey policy.stateLimits.tenureNonceCapacity
    .tenureNonceCapacityExceeded
  ensureLedgerCapacity state.requestNonces e.requestNonceKey policy.stateLimits.requestNonceCapacity
    .requestNonceCapacityExceeded
  ensureLedgerCapacity state.temporal e.temporal.constraintId policy.stateLimits.temporalLineageCapacity
    .temporalLineageCapacityExceeded
  pure ⟨retain state e proofEnvelopeDigest entry,
    admittedApply e proofEnvelopeDigest entry.deadline (disposition = .replayed), disposition⟩

end Admission
end ParaEgox
