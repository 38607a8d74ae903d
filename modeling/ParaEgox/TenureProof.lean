import ParaEgox.Tlv

/-!
# TenureProof — the writer-tenure proof an authority signs

The claim, the authority selector, the bounded proof envelope with its digest, and the transcript the authority signs.  A
value of each type passed the checks of its constructor.
-/
namespace ParaEgox
namespace Tenure

open Check Tlv

def maxTenureNonceBytes : Nat := 64
def maxTenureSignatureBytes : Nat := 512

inductive TenureProofError
  | invalidAlgorithm
  | invalidAlgorithmVersion
  | invalidEpoch
  | invalidSupersedesEpoch
  | emptyNonce
  | nonceTooLong
  | emptySignature
  | signatureTooLong
  deriving DecidableEq

@[ext] structure TenureProofAlgorithm where
  value : UInt16
  nonzero : value ≠ 0

instance : DecidableEq TenureProofAlgorithm := fun _ _ => decidable_of_iff _ TenureProofAlgorithm.ext_iff.symm

def TenureProofAlgorithm.tryNew (value : UInt16) : Except TenureProofError TenureProofAlgorithm := do
  let nonzero ← require (value ≠ 0) .invalidAlgorithm
  pure ⟨value, nonzero.down⟩

@[ext] structure TenureProofAuthority where
  authority : Ref16
  key : Ref16
  algorithm : TenureProofAlgorithm
  algorithmVersion : UInt16
  versioned : algorithmVersion ≠ 0

instance : DecidableEq TenureProofAuthority := fun _ _ => decidable_of_iff _ TenureProofAuthority.ext_iff.symm

def TenureProofAuthority.tryNew (authority key : Ref16) (algorithm : TenureProofAlgorithm) (algorithmVersion : UInt16) :
    Except TenureProofError TenureProofAuthority := do
  let versioned ← require (algorithmVersion ≠ 0) .invalidAlgorithmVersion
  pure ⟨authority, key, algorithm, algorithmVersion, versioned.down⟩

@[ext] structure WriterTenureClaim where
  sourceScope : Ref16
  writer : Ref16
  epoch : UInt64
  supersedesThroughEpoch : UInt64
  started : epoch ≠ 0
  supersedes : supersedesThroughEpoch < epoch

instance : DecidableEq WriterTenureClaim := fun _ _ => decidable_of_iff _ WriterTenureClaim.ext_iff.symm

def WriterTenureClaim.tryNew (sourceScope writer : Ref16) (epoch supersedesThroughEpoch : UInt64) :
    Except TenureProofError WriterTenureClaim := do
  let started ← require (epoch ≠ 0) .invalidEpoch
  let supersedes ← require (supersedesThroughEpoch < epoch) .invalidSupersedesEpoch
  pure ⟨sourceScope, writer, epoch, supersedesThroughEpoch, nonzero64 started, supersedes.down⟩

structure WriterTenureProof where
  authority : TenureProofAuthority
  claim : WriterTenureClaim
  nonce : Bytes
  signature : Bytes
  fresh : nonce ≠ []
  nonceBounded : nonce.length ≤ maxTenureNonceBytes
  signed : signature ≠ []
  signatureBounded : signature.length ≤ maxTenureSignatureBytes
  deriving DecidableEq

def validateTenureNonce (nonce : Bytes) : Except TenureProofError (PLift (nonce ≠ [] ∧ nonce.length ≤ maxTenureNonceBytes)) := do
  let fresh ← require (nonce ≠ []) .emptyNonce
  let bounded ← require (nonce.length ≤ maxTenureNonceBytes) .nonceTooLong
  pure ⟨fresh.down, bounded.down⟩

def signingTranscriptMagic : Bytes :=
  Text.bytes (s := "ParaEGOX") ⟨_, spells_paraEGOX⟩ ++ [0]
    ++ Text.bytes (s := "canonical-signing-transcript") ⟨_, by conv => rhs; simp [ascii]⟩

def writerTenureSigningDomain : Bytes :=
  Text.bytes (s := "paraegox.runtime.writer-tenure.signing.v1") ⟨_, by conv => rhs; simp [ascii]⟩

theorem spells_envelopeDigestDomain :
    ([112, 97, 114, 97, 101, 103, 111, 120, 46, 114, 117, 110, 116, 105, 109, 101, 46, 119, 114, 105, 116, 101, 114, 45,
      116, 101, 110, 117, 114, 101, 45, 112, 114, 111, 111, 102, 46, 115, 104, 97, 50, 53, 54, 46, 118, 49] : Bytes)
      = ascii "paraegox.runtime.writer-tenure-proof.sha256.v1" := by
  simp [ascii]

def writerTenureProofEnvelopeDigestDomain : Bytes :=
  Text.bytes (s := "paraegox.runtime.writer-tenure-proof.sha256.v1") ⟨_, spells_envelopeDigestDomain⟩

/-- `WriterTenureSigningTranscript::try_new`. -/
def writerTenureSigningTranscript (authority : TenureProofAuthority) (claim : WriterTenureClaim) (nonce : Bytes) :
    Except TenureProofError Bytes := do
  let _ ← validateTenureNonce nonce
  pure [signingTranscriptMagic, bytesBE 2 1, bytesBE 2 writerTenureSigningDomain.length, writerTenureSigningDomain,
    bytesBE 2 9, tlv 1 authority.authority.asBytes, tlv 2 authority.key.asBytes,
    tlv 3 (bytesBE 2 authority.algorithm.value.toNat), tlv 4 (bytesBE 2 authority.algorithmVersion.toNat),
    tlv 5 claim.sourceScope.asBytes, tlv 6 claim.writer.asBytes, tlv 7 (bytesBE 8 claim.epoch.toNat),
    tlv 8 (bytesBE 8 claim.supersedesThroughEpoch.toNat), tlv 9 nonce].flatten

namespace WriterTenureProof

def tryNew (authority : TenureProofAuthority) (claim : WriterTenureClaim) (nonce signature : Bytes) :
    Except TenureProofError WriterTenureProof := do
  let valid ← validateTenureNonce nonce
  let signed ← require (signature ≠ []) .emptySignature
  let bounded ← require (signature.length ≤ maxTenureSignatureBytes) .signatureTooLong
  pure ⟨authority, claim, nonce, signature, valid.down.1, valid.down.2, signed.down, bounded.down⟩

def signingTranscript (p : WriterTenureProof) : Except TenureProofError Bytes :=
  writerTenureSigningTranscript p.authority p.claim p.nonce

def envelopeFields (p : WriterTenureProof) : List Bytes :=
  [p.authority.authority.asBytes, p.authority.key.asBytes, bytesBE 2 p.authority.algorithm.value.toNat,
    bytesBE 2 p.authority.algorithmVersion.toNat, p.claim.sourceScope.asBytes, p.claim.writer.asBytes,
    bytesBE 8 p.claim.epoch.toNat, bytesBE 8 p.claim.supersedesThroughEpoch.toNat, p.nonce, p.signature]

def envelopeDigest (sha256 : Sha256) (p : WriterTenureProof) : Except DigestBuildError Digest32 :=
  digest32 sha256 writerTenureProofEnvelopeDigestDomain p.envelopeFields

end WriterTenureProof

/-! ## What the constructors accept -/

@[simp] theorem TenureProofAlgorithm.tryNew_value (a : TenureProofAlgorithm) :
    TenureProofAlgorithm.tryNew a.value = .ok a :=
  ok_bind (require_ok ⟨a.nonzero⟩) rfl

@[simp] theorem TenureProofAuthority.tryNew_fields (a : TenureProofAuthority) :
    TenureProofAuthority.tryNew a.authority a.key a.algorithm a.algorithmVersion = .ok a :=
  ok_bind (require_ok ⟨a.versioned⟩) rfl

@[simp] theorem WriterTenureClaim.tryNew_fields (c : WriterTenureClaim) :
    WriterTenureClaim.tryNew c.sourceScope c.writer c.epoch c.supersedesThroughEpoch = .ok c :=
  ok_bind (require_ok ⟨c.started⟩) <| ok_bind (require_ok ⟨c.supersedes⟩) rfl

theorem validateTenureNonce_of {nonce : Bytes} (h : nonce ≠ [] ∧ nonce.length ≤ maxTenureNonceBytes) :
    validateTenureNonce nonce = .ok ⟨h⟩ :=
  ok_bind (require_ok ⟨h.1⟩) <| ok_bind (require_ok ⟨h.2⟩) rfl

@[simp] theorem WriterTenureProof.tryNew_fields (p : WriterTenureProof) :
    WriterTenureProof.tryNew p.authority p.claim p.nonce p.signature = .ok p :=
  ok_bind (validateTenureNonce_of ⟨p.fresh, p.nonceBounded⟩) <| ok_bind (require_ok ⟨p.signed⟩) <|
    ok_bind (require_ok ⟨p.signatureBounded⟩) rfl

theorem WriterTenureProof.tryNew_ok {authority : TenureProofAuthority} {claim : WriterTenureClaim} {nonce signature : Bytes}
    {p : WriterTenureProof} (h : WriterTenureProof.tryNew authority claim nonce signature = .ok p) :
    p.authority = authority ∧ p.claim = claim ∧ p.nonce = nonce ∧ p.signature = signature := by
  simp only [WriterTenureProof.tryNew, bind_ok, pure_ok] at h
  obtain ⟨_, _, _, _, _, _, rfl⟩ := h
  exact ⟨rfl, rfl, rfl, rfl⟩

/-! ## The transcript -/

def transcriptValues (authority : TenureProofAuthority) (claim : WriterTenureClaim) (nonce : Bytes) : List Bytes :=
  [authority.authority.asBytes, authority.key.asBytes, bytesBE 2 authority.algorithm.value.toNat,
    bytesBE 2 authority.algorithmVersion.toNat, claim.sourceScope.asBytes, claim.writer.asBytes,
    bytesBE 8 claim.epoch.toNat, bytesBE 8 claim.supersedesThroughEpoch.toNat, nonce]

theorem WriterTenureProof.signingTranscript_eq (p : WriterTenureProof) : p.signingTranscript =
    .ok ([signingTranscriptMagic, bytesBE 2 1, bytesBE 2 writerTenureSigningDomain.length, writerTenureSigningDomain,
      bytesBE 2 9].flatten ++ tlvs 0 (transcriptValues p.authority p.claim p.nonce)) := by
  refine ok_bind (validateTenureNonce_of ⟨p.fresh, p.nonceBounded⟩) ?_
  simp [pure, Except.pure, tlvs, transcriptValues]

theorem u16_inj {a b : UInt16} (h : bytesBE 2 a.toNat = bytesBE 2 b.toNat) : a = b :=
  UInt16.toNat_inj.1 (bytesBE_inj a.toNat_lt b.toNat_lt h)

theorem u32_inj {a b : UInt32} (h : bytesBE 4 a.toNat = bytesBE 4 b.toNat) : a = b :=
  UInt32.toNat_inj.1 (bytesBE_inj a.toNat_lt b.toNat_lt h)

theorem u64_inj {a b : UInt64} (h : bytesBE 8 a.toNat = bytesBE 8 b.toNat) : a = b :=
  UInt64.toNat_inj.1 (bytesBE_inj a.toNat_lt b.toNat_lt h)

theorem TenureProofAuthority.ext' {a b : TenureProofAuthority} (h1 : a.authority = b.authority) (h2 : a.key = b.key)
    (h3 : a.algorithm.value = b.algorithm.value) (h4 : a.algorithmVersion = b.algorithmVersion) : a = b := by
  obtain ⟨_, _, ⟨_, _⟩, _, _⟩ := a
  obtain ⟨_, _, ⟨_, _⟩, _, _⟩ := b
  subst h1 h2 h3 h4
  rfl

theorem WriterTenureClaim.ext' {a b : WriterTenureClaim} (h1 : a.sourceScope = b.sourceScope) (h2 : a.writer = b.writer)
    (h3 : a.epoch = b.epoch) (h4 : a.supersedesThroughEpoch = b.supersedesThroughEpoch) : a = b := by
  obtain ⟨_, _, _, _, _, _⟩ := a
  obtain ⟨_, _, _, _, _, _⟩ := b
  subst h1 h2 h3 h4
  rfl

theorem transcriptValues_inj {a a' : TenureProofAuthority} {c c' : WriterTenureClaim} {n n' : Bytes}
    (h : transcriptValues a c n = transcriptValues a' c' n') : a = a' ∧ c = c' ∧ n = n' := by
  simp only [transcriptValues, List.cons.injEq, and_true] at h
  obtain ⟨h1, h2, h3, h4, h5, h6, h7, h8, h9⟩ := h
  exact ⟨TenureProofAuthority.ext' (Ref16.asBytes_inj h1) (Ref16.asBytes_inj h2) (u16_inj h3) (u16_inj h4),
    WriterTenureClaim.ext' (Ref16.asBytes_inj h5) (Ref16.asBytes_inj h6) (u64_inj h7) (u64_inj h8), h9⟩

theorem transcriptValues_fit (p : WriterTenureProof) : ∀ v ∈ transcriptValues p.authority p.claim p.nonce, Fits v := by
  have hnonce : p.nonce.length < 4294967296 := lt_of_le_of_lt p.nonceBounded (by decide)
  simp [transcriptValues, Fits, hnonce]

theorem WriterTenureProof.signingTranscript_inj {p q : WriterTenureProof} (h : p.signingTranscript = q.signingTranscript) :
    p.authority = q.authority ∧ p.claim = q.claim ∧ p.nonce = q.nonce := by
  rw [p.signingTranscript_eq, q.signingTranscript_eq] at h
  have hvalues := List.append_cancel_left (Except.ok.inj h)
  exact transcriptValues_inj (tlvs_inj (transcriptValues_fit p) (transcriptValues_fit q) rfl hvalues)

theorem WriterTenureProof.envelopeDigest_ok (sha256 : Sha256) (p : WriterTenureProof) :
    p.envelopeDigest sha256 = .ok (sha256 (digestInput writerTenureProofEnvelopeDigestDomain p.envelopeFields)) := by
  have hnonce : p.nonce.length < 18446744073709551616 := lt_of_le_of_lt p.nonceBounded (by decide)
  have hsignature : p.signature.length < 18446744073709551616 := lt_of_le_of_lt p.signatureBounded (by decide)
  refine (digest32_ok ..).2 ⟨by decide, by decide, ?_, ?_, rfl⟩
  · simp [envelopeFields]
  · simp [envelopeFields, hnonce, hsignature]

end Tenure
end ParaEgox
