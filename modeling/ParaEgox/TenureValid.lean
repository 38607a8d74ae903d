import Mathlib.Data.List.Perm.Subperm
import ParaEgox.TenureModel
import ParaEgox.TenureCodec

/-!
# TenureValid — what a validated snapshot is

The records of a validated snapshot are ordered by operation, their epochs are the numbers from one to the high water, each
supersedes the one before, and the stored response of each is the response to its stored request.
-/
namespace ParaEgox
namespace Tenure

open Check

@[simp] theorem ensureNonzero_ok (bytes : Bytes) (e : ModelError) (u : Unit) :
    ensureNonzero bytes e = .ok u ↔ Nonzero bytes := by
  simp [ensureNonzero, Nonzero]

@[simp] theorem ensureNonzeroDigest_ok (digest : Digest32) (e : ModelError) (u : Unit) :
    ensureNonzeroDigest digest e = .ok u ↔ Nonzero digest.asBytes := ensureNonzero_ok ..

@[simp] theorem acquireOperationIdTryFromBytes_ok (r q : Ref16) :
    acquireOperationIdTryFromBytes r = .ok q ↔ Nonzero r.asBytes ∧ r = q := by
  simp only [acquireOperationIdTryFromBytes, bind_ok, exists_unit, ensureNonzero_ok, pure_ok]

@[simp] theorem checkedSucc_ok (n m : UInt64) (e : ModelError) :
    checkedSucc n e = .ok m ↔ n.toNat + 1 < 2 ^ 64 ∧ n + 1 = m := by
  simp only [checkedSucc, bind_ok, rejectIf_ok, exists_unit, pure_ok, not_le]

theorem toNat_succ {n : UInt64} (h : n.toNat + 1 < 2 ^ 64) : (n + 1).toNat = n.toNat + 1 := by
  rw [UInt64.toNat_add, UInt64.toNat_one, Nat.mod_eq_of_lt h]

namespace AuthoritySnapshot

/-! ## The loop over the records -/

structure Structured (s : AuthoritySnapshot) (r : AcquireRecord) : Prop where
  operation : Nonzero r.operationId.asBytes
  digest : Nonzero r.requestDigest.asBytes
  requested : r.exactRequestBytes ≠ []
  request : r.exactRequestBytes.length ≤ maxAcquireRequestBytes
  written : Nonzero r.writer.asBytes
  writer : r.writer = s.provisioning.authorizedWriter
  started : r.epoch ≠ 0
  epoch : r.epoch ≤ s.epochHighWater
  supersedes : r.supersedesThroughEpoch = r.epoch - 1
  fresh : r.nonce ≠ []
  nonce : r.nonce.length ≤ maxTenureNonceBytes
  bound : r.responseBound.toNat ≠ 0 ∧ r.responseBound.toNat ≤ maxAcquireResponseBytes
  response : r.exactResponseBytes.length ≤ maxAcquireResponseBytes

variable {s : AuthoritySnapshot} {r : AcquireRecord} {u : Unit} {sha256 : Sha256} {ed : Ed25519}

theorem validateRecordStructure_ok (h : s.validateRecordStructure r = .ok u) : s.Structured r := by
  simp only [validateRecordStructure, bind_ok, rejectIf_ok, exists_unit, ensureNonzero_ok, ensureNonzeroDigest_ok,
    acquireOperationIdTryFromBytes_ok, not_not, not_lt, not_or, ne_eq] at h
  obtain ⟨_, ⟨hoperation, -⟩, hdigest, hrequested, hrequest, hwritten, hwriter, ⟨hstarted, hepoch⟩, hsupersedes, hfresh,
    hnonce, hbound, -, ⟨-, hresponse⟩, -, -⟩ := h
  exact ⟨hoperation, hdigest, hrequested, hrequest, hwritten, hwriter, hstarted, UInt64.not_lt.1 hepoch, hsupersedes,
    hfresh, hnonce, hbound, hresponse⟩

def slot (r : AcquireRecord) : Nat := r.epoch.toNat - 1

theorem validateRecord_ok {seen seen' : Option Ref16 × List Bool}
    (h : s.validateRecord seen r = .ok seen') : (∀ previous, seen.1 = some previous → previous < r.operationId) ∧
      s.Structured r ∧ seen.2[slot r]? = some false ∧ seen' = (some r.operationId, seen.2.set (slot r) true) := by
  simp only [validateRecord, bind_ok, rejectIf_ok, exists_unit, okOr_ok, pure_ok, not_exists, not_and, not_le,
    Option.mem_def, Bool.not_eq_true] at h
  obtain ⟨horder, hstructure, observed, hobserved, hfresh, rfl⟩ := h
  exact ⟨horder, validateRecordStructure_ok hstructure, hfresh ▸ hobserved, rfl⟩

/-- **An accepted loop saw its records in order, each with an epoch that was not seen before.** -/
theorem scan_validateRecord_ok : ∀ {rs : List AcquireRecord} {seen seen' : Option Ref16 × List Bool},
    scan s.validateRecord seen rs = .ok seen' →
      (∀ previous, seen.1 = some previous → ∀ r ∈ rs, previous < r.operationId) ∧
        Keyed.Ascending (·.operationId) rs ∧ (∀ r ∈ rs, s.Structured r) ∧ (rs.map slot).Nodup ∧
          ∀ r ∈ rs, seen.2[slot r]? = some false
  | [], _, _, _ => by simp [Keyed.Ascending]
  | r :: rs, seen, seen', h => by
    obtain ⟨mid, hstep, hrest⟩ := (scan_ok_cons ..).1 h
    obtain ⟨horder, hr, hfresh, rfl⟩ := validateRecord_ok hstep
    obtain ⟨hafter, hsorted, hrs, hnodup, hslots⟩ := scan_validateRecord_ok hrest
    have hlater : ∀ q ∈ rs, r.operationId < q.operationId := hafter _ rfl
    -- the slot of the first record is taken from then on
    have hother : ∀ q ∈ rs, slot r ≠ slot q ∧ seen.2[slot q]? = some false := by
      intro q hq
      have hset := hslots q hq
      rw [List.getElem?_set] at hset
      by_cases heq : slot r = slot q
      · rw [if_pos heq] at hset
        split at hset
        · cases Option.some.inj hset
        · cases hset
      · rw [if_neg heq] at hset
        exact ⟨heq, hset⟩
    refine ⟨fun previous hprevious q hq => ?_, List.pairwise_cons.2 ⟨hlater, hsorted⟩, List.forall_mem_cons.2 ⟨hr, hrs⟩,
      ?_, List.forall_mem_cons.2 ⟨hfresh, fun q hq => (hother q hq).2⟩⟩
    · rcases List.mem_cons.1 hq with rfl | hq
      · exact horder previous hprevious
      · exact lt_trans (horder previous hprevious) (hlater q hq)
    · rw [List.map_cons, List.nodup_cons]
      refine ⟨fun hmem => ?_, hnodup⟩
      obtain ⟨q, hq, heq⟩ := List.mem_map.1 hmem
      exact (hother q hq).1 heq.symm

/-! ## The stored messages -/

/-- What the protocol check found of a record: the request its bytes are, and the response the authority gave to it. -/
structure Bound (sha256 : Sha256) (ed : Ed25519) (s : AuthoritySnapshot) (r : AcquireRecord)
    (request : AcquireTenureRequestV1) (response : AcquireTenureResponseV1) : Prop where
  decoded : AcquireTenureRequestV1.decode sha256 r.exactRequestBytes = .ok request
  operation : request.operationId = r.operationId
  digest : request.requestDigest = r.requestDigest
  scope : request.scope = s.provisioning.sourceScope
  writer : request.writer = r.writer
  nonce : request.clientNonce = r.nonce
  bound : request.maxResponsePayloadBytes = r.responseBound
  principal : request.draft.controllerPrincipal = s.provisioning.authorization.controllerPrincipal
  key : request.draft.controllerKey = s.provisioning.authorization.controllerKey
  fingerprint : request.draft.controllerPublicKeyFingerprint = s.provisioning.authorization.controllerPublicKeyFingerprint
  isKey : ed.isKey s.provisioning.authorization.controllerVerificationKey = true
  signed : ∃ (h : request.authSignature.length = 64) (transcript : Bytes), request.signingTranscript = .ok transcript ∧
    ed.verifyStrict s.provisioning.authorization.controllerVerificationKey transcript ⟨request.authSignature, h⟩ = true
  answered : AcquireTenureResponseV1.decodeForRequest sha256 r.exactResponseBytes request = .ok response
  responseDigest : response.responseDigest = r.responseDigest
  proofDigest : response.proofDigest = r.proofEnvelopeDigest
  epoch : response.proof.claim.epoch = r.epoch
  supersedes : response.proof.claim.supersedesThroughEpoch = r.supersedesThroughEpoch

theorem signature64_ok {bytes : Bytes} {e : ModelError} {signature : Signature64} (h : signature64 bytes e = .ok signature) :
    ∃ hlength : bytes.length = 64, signature = ⟨bytes, hlength⟩ := by
  unfold signature64 at h
  split at h
  · exact ⟨‹_›, (Except.ok.inj h).symm⟩
  · cases h

theorem claim_tryNew_ok {scope writer : Ref16} {epoch supersedes : UInt64} {claim : WriterTenureClaim}
    (h : WriterTenureClaim.tryNew scope writer epoch supersedes = .ok claim) :
    claim.sourceScope = scope ∧ claim.writer = writer ∧ claim.epoch = epoch ∧ claim.supersedesThroughEpoch = supersedes := by
  simp only [WriterTenureClaim.tryNew, bind_ok, pure_ok] at h
  obtain ⟨_, _, _, _, rfl⟩ := h
  exact ⟨rfl, rfl, rfl, rfl⟩

theorem validateRecordProtocol_ok
    (h : s.validateRecordProtocol sha256 ed r = .ok u) : ∃ request response, s.Bound sha256 ed r request response := by
  simp only [validateRecordProtocol, bind_ok, rejectIf_ok, exists_unit, mapErr_ok, wrapErr_ok, not_or, not_not, ne_eq,
    Bool.not_eq_false] at h
  obtain ⟨request, hdecoded, ⟨hoperation, hdigest, hscope, hwriter, hnonce, hresponseBound, hprincipal, hkey, hfingerprint⟩, signature,
    hsignature, transcript, htranscript, hisKey, hsigned, claim, hclaim, proof, hproof, -, -, -, -, -, -, -, response,
    hresponse, hresponseDigest, hproofDigest, hbound⟩ := h
  obtain ⟨hlength, rfl⟩ := signature64_ok hsignature
  obtain ⟨-, -, hepoch, hsupersedes⟩ := claim_tryNew_ok hclaim
  obtain ⟨-, hproofClaim, -, -⟩ := WriterTenureProof.tryNew_ok hproof
  refine ⟨request, response, ?_⟩
  exact { decoded := hdecoded, operation := hoperation, digest := hdigest, scope := hscope, writer := hwriter,
          nonce := hnonce, bound := hresponseBound, principal := hprincipal, key := hkey, fingerprint := hfingerprint, isKey := hisKey,
          signed := ⟨hlength, transcript, htranscript, hsigned⟩, answered := hresponse,
          responseDigest := hresponseDigest, proofDigest := hproofDigest,
          epoch := by rw [hbound, hproofClaim, hepoch], supersedes := by rw [hbound, hproofClaim, hsupersedes] }

/-! ## The whole snapshot -/

structure Valid (sha256 : Sha256) (ed : Ed25519) (s : AuthoritySnapshot) : Prop where
  provisioning : s.provisioning.validate sha256 ed = .ok ()
  owner : s.ownerIdentityFingerprint = s.provisioning.fingerprints.ownerIdentity
  capacity : s.acquireRecords.length ≤ maxRetainedAcquireRecords
  highWater : s.epochHighWater.toNat = s.acquireRecords.length
  sequence : s.snapshotSequence.toNat = s.acquireRecords.length + 1
  sorted : Keyed.Ascending (·.operationId) s.acquireRecords
  structured : ∀ r ∈ s.acquireRecords, s.Structured r
  slots : (s.acquireRecords.map slot).Nodup
  bound : ∀ r ∈ s.acquireRecords, ∃ request response, s.Bound sha256 ed r request response

theorem validate_ok (h : s.validate sha256 ed = .ok u) : s.Valid sha256 ed := by
  simp only [validate, bind_ok, rejectIf_ok, exists_unit, checkedSucc_ok, forEach_ok, not_not, not_lt, ne_eq] at h
  obtain ⟨hprovisioning, -, howner, hcapacity, hhighWater, _, ⟨hfits, rfl⟩, hsequence, seen, hseen, -, hprotocols⟩ := h
  obtain ⟨-, hsorted, hstructured, hslots, -⟩ := scan_validateRecord_ok hseen
  exact { provisioning := hprovisioning, owner := howner, capacity := hcapacity, highWater := hhighWater,
          sequence := by rw [hsequence, toNat_succ hfits, hhighWater], sorted := hsorted, structured := hstructured,
          slots := hslots, bound := fun r hr => validateRecordProtocol_ok (hprotocols r hr) }

theorem slot_succ (h : s.Structured r) : slot r + 1 = r.epoch.toNat := by
  have hpos : 0 < r.epoch.toNat := Nat.pos_of_ne_zero fun hzero => h.started (UInt64.toNat_inj.1 hzero)
  unfold slot
  omega

theorem Valid.epochs (h : s.Valid sha256 ed) :
    (s.acquireRecords.map fun r => r.epoch.toNat).Perm (List.range' 1 s.acquireRecords.length) := by
  have hslots : s.acquireRecords.map (fun r => r.epoch.toNat) = (s.acquireRecords.map slot).map (· + 1) := by
    rw [List.map_map]
    exact List.map_congr_left fun r hr => (slot_succ (h.structured r hr)).symm
  have hnodup : (s.acquireRecords.map fun r => r.epoch.toNat).Nodup := by
    rw [hslots]
    exact h.slots.map (Nat.succ_injective)
  refine (List.subperm_of_subset hnodup fun n hn => ?_).perm_of_length_le (by simp)
  obtain ⟨r, hr, rfl⟩ := List.mem_map.1 hn
  have hstructured := h.structured r hr
  have hle : r.epoch.toNat ≤ s.acquireRecords.length := h.highWater ▸ UInt64.le_iff_toNat_le.1 hstructured.epoch
  have hsucc := slot_succ hstructured
  rw [List.mem_range'_1]
  omega

theorem Valid.supersedes (h : s.Valid sha256 ed) :
    ∀ r ∈ s.acquireRecords, r.supersedesThroughEpoch.toNat + 1 = r.epoch.toNat := by
  intro r hr
  have hstructured := h.structured r hr
  have hpos : (1 : UInt64) ≤ r.epoch := by
    rw [UInt64.le_iff_toNat_le, UInt64.toNat_one]
    exact Nat.pos_of_ne_zero fun hzero => hstructured.started (UInt64.toNat_inj.1 hzero)
  rw [hstructured.supersedes, UInt64.toNat_sub_of_le _ _ hpos, UInt64.toNat_one]
  exact Nat.sub_add_cancel (by simpa [UInt64.le_iff_toNat_le] using hpos)

theorem Valid.epoch_inj (h : s.Valid sha256 ed)
    {r q : AcquireRecord} (hr : r ∈ s.acquireRecords) (hq : q ∈ s.acquireRecords) (heq : r.epoch = q.epoch) : r = q :=
  List.inj_on_of_nodup_map h.slots hr hq (by rw [slot, slot, heq])

/-! ## Issuing -/

def issued (s : AuthoritySnapshot) (record : AcquireRecord) (epoch sequence : UInt64) : AuthoritySnapshot :=
  { s with
    acquireRecords := Keyed.insert (·.operationId) record s.acquireRecords
    epochHighWater := epoch
    snapshotSequence := sequence }

/-- **An issued snapshot is the old one with the new record**, and it was validated. -/
theorem withIssuedRecord_ok {next : AuthoritySnapshot} {intent : AcquireIntent}
    {epoch sequence : UInt64} {signature : Signature64} {digest : Digest32} {response : EncodedAcquireResponse}
    (h : s.withIssuedRecord sha256 ed intent epoch sequence signature digest response = .ok next) :
    next = s.issued (s.issuedRecord intent epoch signature digest response) epoch sequence ∧
      next.validate sha256 ed = .ok () := by
  simp only [withIssuedRecord, bind_ok] at h
  obtain ⟨preflight, -, h⟩ := h
  cases preflight with
  | replay bytes d e => cases h
  | issue expectedEpoch expectedSequence =>
    simp only [bind_ok, rejectIf_ok, exists_unit, pure_ok] at h
    obtain ⟨-, -, -, -, hvalid, rfl⟩ := h
    exact ⟨rfl, hvalid⟩

end AuthoritySnapshot
end Tenure
end ParaEgox
