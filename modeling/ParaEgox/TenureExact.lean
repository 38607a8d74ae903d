import Mathlib.Algebra.Group.Action.Defs
import Mathlib.Algebra.Order.BigOperators.Group.List
import Mathlib.Algebra.Order.Ring.Nat
import ParaEgox.TenureRuns

/-!
# TenureExact — the snapshot codec, panics included

The decoder and the validation it runs, with every slice, subtraction and index of the source as an operation that can
panic; and what the codec is exact about: every valid snapshot has a frame, and a frame that is accepted is the frame of
one snapshot.
-/
namespace ParaEgox
namespace Tenure

open Check Wire

/-! ## Computations that can panic -/

inductive Stop (ε : Type)
  | error (e : ε)
  | panic

variable {ε ε' α β : Type}

def attempt (x : Except ε α) : Except (Stop ε) α := wrapErr .error x

/-- `?` into another error type: a panic stays one. -/
def raise (into : ε → ε') (x : Except (Stop ε) α) : Except (Stop ε') α :=
  match x with
  | .ok a => .ok a
  | .error (.error e) => .error (.error (into e))
  | .error .panic => .error .panic

def nested (x : Res α) (e : ε) : Except (Stop ε) α :=
  match x with
  | .ok a => .ok a
  | .error (.error _) => .error (.error e)
  | .error .panic => .error .panic

/-- `&bytes[start..stop]`. -/
def sliceRange (bytes : Bytes) (start stop : Nat) : Except (Stop ε) Bytes :=
  if start ≤ stop ∧ stop ≤ bytes.length then .ok ((bytes.take stop).drop start) else .error .panic

/-- `&items[..stop]`. -/
def sliceFront (items : List α) (stop : Nat) : Except (Stop ε) (List α) :=
  if stop ≤ items.length then .ok (items.take stop) else .error .panic

/-- `n - 1` on a `u64`. -/
def minusOne (n : UInt64) : Except (Stop ε) UInt64 := if n = 0 then .error .panic else .ok (n - 1)

theorem attempt_bind (x : Except ε α) (f : α → Except ε β) : attempt (x >>= f) = attempt x >>= fun a => attempt (f a) := by
  cases x with
  | error e => rfl
  | ok a => rfl

theorem attempt_known (a : α) : attempt (.ok a : Except ε α) = .ok a := rfl

theorem known_bind (a : α) (f : α → Except ε β) : ((.ok a : Except ε α) >>= f) = f a := rfl

theorem attempt_ok {x : Except ε α} {a : α} : attempt x = .ok a ↔ x = .ok a := wrapErr_ok

theorem attempt_ne_panic (x : Except ε α) : attempt x ≠ .error .panic := by
  cases x with
  | error e => exact fun h => by cases h
  | ok a => exact fun h => by cases h

theorem raise_attempt (into : ε → ε') (x : Except ε α) : raise into (attempt x) = attempt (wrapErr into x) := by
  cases x with
  | error e => rfl
  | ok a => rfl

theorem nested_eq {x : Res α} (h : Avoids .panic x) (e : ε) : nested x e = attempt (mapErr x e) := by
  cases x with
  | ok a => rfl
  | error fault =>
    cases fault with
    | error _ => rfl
    | panic => exact absurd rfl h

namespace Halting

def validateRecordStructure (s : AuthoritySnapshot) (record : AcquireRecord) : Except (Stop ModelError) Unit := do
  let _ ← attempt (acquireOperationIdTryFromBytes record.operationId)
  attempt (ensureNonzeroDigest record.requestDigest .zeroRequestDigest)
  attempt (rejectIf (record.exactRequestBytes = []) .emptyRequest)
  attempt (rejectIf (maxAcquireRequestBytes < record.exactRequestBytes.length) .requestTooLarge)
  attempt (ensureNonzero record.writer.asBytes .zeroWriterReference)
  attempt (rejectIf (record.writer ≠ s.provisioning.authorizedWriter) .unauthorizedWriter)
  attempt (rejectIf (record.epoch = 0 ∨ s.epochHighWater < record.epoch) .invalidEpoch)
  let before ← minusOne record.epoch
  attempt (rejectIf (record.supersedesThroughEpoch ≠ before) .invalidSupersedesEpoch)
  attempt (rejectIf (record.nonce = []) .emptyNonce)
  attempt (rejectIf (maxTenureNonceBytes < record.nonce.length) .nonceTooLarge)
  attempt (rejectIf (record.responseBound.toNat = 0 ∨ maxAcquireResponseBytes < record.responseBound.toNat)
    .responseBoundTooLarge)
  attempt (rejectIf (record.exactResponseBytes = []) .emptyResponse)
  attempt (rejectIf (record.responseBound.toNat < record.exactResponseBytes.length
    ∨ maxAcquireResponseBytes < record.exactResponseBytes.length) .responseTooLarge)
  attempt (ensureNonzeroDigest record.responseDigest .zeroResponseDigest)
  attempt (ensureNonzeroDigest record.proofEnvelopeDigest .zeroProofEnvelopeDigest)

def validateRecordProtocol (sha256 : Sha256) (ed : Ed25519) (s : AuthoritySnapshot) (record : AcquireRecord) :
    Except (Stop ModelError) Unit := do
  let request ← nested (AcquireTenureRequestV1.decode sha256 record.exactRequestBytes) .invalidStoredRequest
  attempt (rejectIf (request.operationId ≠ record.operationId ∨ request.requestDigest ≠ record.requestDigest
    ∨ request.scope ≠ s.provisioning.sourceScope ∨ request.writer ≠ record.writer
    ∨ request.clientNonce ≠ record.nonce ∨ request.maxResponsePayloadBytes ≠ record.responseBound
    ∨ request.draft.controllerPrincipal ≠ s.provisioning.authorization.controllerPrincipal
    ∨ request.draft.controllerKey ≠ s.provisioning.authorization.controllerKey
    ∨ request.draft.controllerPublicKeyFingerprint ≠ s.provisioning.authorization.controllerPublicKeyFingerprint)
    .storedRequestBindingMismatch)
  let requestSignature ← attempt (AuthoritySnapshot.signature64 request.authSignature .invalidStoredRequestSignature)
  let requestTranscript ← attempt (mapErr request.signingTranscript .invalidStoredRequestSignature)
  attempt (rejectIf (ed.isKey s.provisioning.authorization.controllerVerificationKey = false)
    .invalidControllerVerificationKey)
  attempt (rejectIf (ed.verifyStrict s.provisioning.authorization.controllerVerificationKey requestTranscript
    requestSignature = false) .invalidStoredRequestSignature)
  let claim ← attempt (wrapErr .proof (WriterTenureClaim.tryNew s.provisioning.sourceScope record.writer record.epoch
    record.supersedesThroughEpoch))
  let proof ← attempt (wrapErr .proof (WriterTenureProof.tryNew s.provisioning.proofAuthority claim record.nonce
    record.signature.val))
  let envelopeDigest ← attempt (wrapErr .digest (proof.envelopeDigest sha256))
  attempt (rejectIf (envelopeDigest ≠ record.proofEnvelopeDigest) .proofEnvelopeDigestMismatch)
  let transcript ← attempt (wrapErr .proof proof.signingTranscript)
  attempt (rejectIf (ed.isKey s.provisioning.verificationKey = false) .invalidVerificationKey)
  attempt (rejectIf (ed.verifyStrict s.provisioning.verificationKey transcript record.signature = false)
    .invalidProofSignature)
  let response ← nested (AcquireTenureResponseV1.decodeForRequest sha256 record.exactResponseBytes request)
    .invalidStoredResponse
  attempt (rejectIf (response.responseDigest ≠ record.responseDigest ∨ response.proofDigest ≠ record.proofEnvelopeDigest
    ∨ response.proof ≠ proof) .storedResponseBindingMismatch)

def validateRecord (s : AuthoritySnapshot) (seen : Option Ref16 × List Bool) (record : AcquireRecord) :
    Except (Stop ModelError) (Option Ref16 × List Bool) := do
  attempt (rejectIf (∃ previous ∈ seen.1, record.operationId ≤ previous) .nonCanonicalOperationOrdering)
  validateRecordStructure s record
  let observed ← attempt (okOr seen.2[record.epoch.toNat - 1]? .epochHistoryMismatch)
  attempt (rejectIf (observed = true) .duplicateEpoch)
  pure (some record.operationId, seen.2.set (record.epoch.toNat - 1) true)

def validate (sha256 : Sha256) (ed : Ed25519) (s : AuthoritySnapshot) : Except (Stop ModelError) Unit := do
  attempt (s.provisioning.validate sha256 ed)
  attempt (rejectIf (s.snapshotSequence = 0) .zeroSnapshotSequence)
  attempt (rejectIf (s.ownerIdentityFingerprint ≠ s.provisioning.fingerprints.ownerIdentity)
    .ownerIdentityFingerprintMismatch)
  attempt (rejectIf (maxRetainedAcquireRecords < s.acquireRecords.length) .acquireCapacityExceeded)
  attempt (rejectIf (s.epochHighWater.toNat ≠ s.acquireRecords.length) .epochHistoryMismatch)
  let expectedSequence ← attempt (checkedSucc s.epochHighWater .snapshotSequenceOverflow)
  attempt (rejectIf (s.snapshotSequence ≠ expectedSequence) .snapshotSequenceHistoryMismatch)
  let seen ← scan (validateRecord s) (none, List.replicate maxRetainedAcquireRecords false) s.acquireRecords
  let observed ← sliceFront seen.2 s.acquireRecords.length
  attempt (rejectIf (observed.any (!·) = true) .epochHistoryMismatch)
  forEach s.acquireRecords (validateRecordProtocol sha256 ed s)

def encodeSnapshot (sha256 : Sha256) (ed : Ed25519) (s : AuthoritySnapshot) : Except (Stop CodecError) Bytes := do
  raise .model (validate sha256 ed s)
  let payload ← attempt (encodePayload s)
  attempt (rejectIf (2 ^ 64 ≤ payload.length) .lengthOverflow)
  let header := (envelopeHeader s payload.length).flatten
  attempt (rejectIf (header.length ≠ envelopeHeaderWithoutChecksumBytes) .internalHeaderLayout)
  let checksum ← attempt (envelopeChecksum sha256 header payload)
  attempt (rejectIf (authoritySnapshotMaxBytes < envelopeHeaderBytes + payload.length) .envelopeTooLarge)
  pure [header, checksum.asBytes, payload].flatten

/-- The checksum field as an array: `try_into` refuses a slice of another length. -/
def checksumField (bytes : Bytes) : Except CodecError Digest32 :=
  if h : bytes.length = 32 then .ok (Digest32.fromBytes ⟨bytes, h⟩) else .error .truncatedEnvelopeHeader

def decodeSnapshot (sha256 : Sha256) (ed : Ed25519) (encoded : Bytes) : Except (Stop CodecError) AuthoritySnapshot := do
  attempt (rejectIf (authoritySnapshotMaxBytes < encoded.length) .envelopeTooLarge)
  attempt (rejectIf (encoded.length < envelopeHeaderBytes) .truncatedEnvelopeHeader)
  let front ← sliceRange encoded 0 envelopeHeaderWithoutChecksumBytes
  let (header, _) ← attempt (decodeEnvelopeHeader front)
  attempt (rejectIf (2 ^ 64 ≤ envelopeHeaderBytes + header.payloadLength) .declaredPayloadTooLarge)
  attempt (rejectIf (authoritySnapshotMaxBytes < envelopeHeaderBytes + header.payloadLength) .declaredPayloadTooLarge)
  attempt (rejectIf (encoded.length < envelopeHeaderBytes + header.payloadLength) .truncatedPayload)
  attempt (rejectIf (envelopeHeaderBytes + header.payloadLength < encoded.length) .trailingBytes)
  let checksum ← sliceRange encoded envelopeHeaderWithoutChecksumBytes envelopeHeaderBytes
  let expectedChecksum ← attempt (checksumField checksum)
  let payload ← sliceRange encoded envelopeHeaderBytes encoded.length
  let summed ← sliceRange encoded 0 envelopeHeaderWithoutChecksumBytes
  let actualChecksum ← attempt (envelopeChecksum sha256 summed payload)
  attempt (rejectIf (actualChecksum ≠ expectedChecksum) .checksumMismatch)
  let (snapshot, _) ← attempt (decodePayload sha256 ed header.storeInstanceId header.ownerIdentityFingerprint
    header.snapshotSequence payload)
  raise .model (validate sha256 ed snapshot)
  let again ← encodeSnapshot sha256 ed snapshot
  attempt (rejectIf (again ≠ encoded) .nonCanonicalEncoding)
  pure snapshot

end Halting

/-! ## Nothing panics -/

section NoPanic

variable (sha256 : Sha256) (ed : Ed25519) (s : AuthoritySnapshot)

theorem validateRecordStructure_eq (record : AcquireRecord) :
    Halting.validateRecordStructure s record = attempt (s.validateRecordStructure record) := by
  unfold Halting.validateRecordStructure AuthoritySnapshot.validateRecordStructure
  simp only [attempt_bind]
  iterate 6 refine bind_congr_ok fun _ _ => ?_
  refine bind_congr_ok fun _ hepoch => ?_
  rw [attempt_ok, rejectIf_ok, not_or] at hepoch
  have hminus : (minusOne record.epoch : Except (Stop ModelError) UInt64) = .ok (record.epoch - 1) := if_neg hepoch.1
  rw [hminus]
  rfl

theorem validateRecordProtocol_eq (record : AcquireRecord) :
    Halting.validateRecordProtocol sha256 ed s record = attempt (s.validateRecordProtocol sha256 ed record) := by
  unfold Halting.validateRecordProtocol AuthoritySnapshot.validateRecordProtocol
  simp only [attempt_bind]
  rw [nested_eq (AcquireTenureRequestV1.avoids_decode sha256 record.exactRequestBytes)]
  refine bind_congr_ok fun request _ => ?_
  iterate 12 refine bind_congr_ok fun _ _ => ?_
  rw [nested_eq (AcquireTenureResponseV1.avoids_decodeForRequest sha256 record.exactResponseBytes request)]

theorem validateRecord_eq (seen : Option Ref16 × List Bool) (record : AcquireRecord) :
    Halting.validateRecord s seen record = attempt (s.validateRecord seen record) := by
  unfold Halting.validateRecord AuthoritySnapshot.validateRecord
  simp only [attempt_bind, validateRecordStructure_eq]
  rfl

theorem scan_attempt {σ : Type} {f : σ → α → Except ε σ} {g : σ → α → Except (Stop ε) σ} (h : ∀ t x, g t x = attempt (f t x)) :
    ∀ (t : σ) (xs : List α), scan g t xs = attempt (scan f t xs)
  | _, [] => rfl
  | t, x :: xs => by
    have hrest : (fun t' => scan g t' xs) = fun t' => attempt (scan f t' xs) := funext fun t' => scan_attempt h t' xs
    show (g t x >>= fun t' => scan g t' xs) = attempt (f t x >>= fun t' => scan f t' xs)
    rw [attempt_bind, h, hrest]

theorem forEach_attempt {f : α → Except ε Unit} {g : α → Except (Stop ε) Unit} (h : ∀ x, g x = attempt (f x)) :
    ∀ xs : List α, forEach xs g = attempt (forEach xs f)
  | [] => rfl
  | x :: xs => by
    show (g x >>= fun _ => forEach xs g) = attempt (f x >>= fun _ => forEach xs f)
    rw [attempt_bind, h, forEach_attempt h xs]

theorem scan_marks {s : AuthoritySnapshot} : ∀ {rs : List AcquireRecord} {seen seen' : Option Ref16 × List Bool},
    scan s.validateRecord seen rs = .ok seen' → seen'.2.length = seen.2.length
  | [], _, _, h => by
    cases h
    rfl
  | r :: rs, seen, seen', h => by
    obtain ⟨mid, hstep, hrest⟩ := (scan_ok_cons _ _ _ _ _).1 h
    rw [scan_marks hrest]
    unfold AuthoritySnapshot.validateRecord at hstep
    simp only [bind_ok, rejectIf_ok, exists_unit, pure_ok] at hstep
    obtain ⟨-, -, _, -, -, rfl⟩ := hstep
    exact List.length_set ..

theorem validate_eq : Halting.validate sha256 ed s = attempt (s.validate sha256 ed) := by
  unfold Halting.validate AuthoritySnapshot.validate
  simp only [attempt_bind]
  iterate 3 refine bind_congr_ok fun _ _ => ?_
  refine bind_congr_ok fun _ hcapacity => ?_
  rw [attempt_ok, rejectIf_ok, not_lt] at hcapacity
  iterate 3 refine bind_congr_ok fun _ _ => ?_
  rw [scan_attempt (validateRecord_eq s)]
  refine bind_congr_ok fun seen hseen => ?_
  have hmarks := scan_marks (attempt_ok.1 hseen)
  have hslice : (sliceFront seen.2 s.acquireRecords.length : Except (Stop ModelError) (List Bool)) =
      .ok (seen.2.take s.acquireRecords.length) := by
    refine if_pos ?_
    rw [hmarks, List.length_replicate]
    exact hcapacity
  rw [hslice, forEach_attempt (validateRecordProtocol_eq sha256 ed s)]
  rfl

theorem encodeSnapshot_eq : Halting.encodeSnapshot sha256 ed s = attempt (encodeSnapshot sha256 ed s) := by
  unfold Halting.encodeSnapshot encodeSnapshot
  rw [validate_eq, raise_attempt]
  simp only [attempt_bind]
  rfl

theorem sliceRange_of {encoded : Bytes} {start stop : Nat} (hstart : start ≤ stop) (hstop : stop ≤ encoded.length) :
    (sliceRange encoded start stop : Except (Stop ε) Bytes) = .ok ((encoded.take stop).drop start) :=
  if_pos ⟨hstart, hstop⟩

/-- **Decoding never panics.**  Every slice is behind the check of the envelope's length, so it is in range. -/
theorem decodeSnapshot_eq (encoded : Bytes) :
    Halting.decodeSnapshot sha256 ed encoded = attempt (decodeSnapshot sha256 ed encoded) := by
  unfold Halting.decodeSnapshot decodeSnapshot
  rw [attempt_bind]
  refine bind_congr_ok fun _ _ => ?_
  by_cases long : envelopeHeaderBytes ≤ encoded.length
  · have hfront : envelopeHeaderWithoutChecksumBytes ≤ encoded.length := le_trans (by decide) long
    have hsum : ((encoded.take envelopeHeaderBytes).drop envelopeHeaderWithoutChecksumBytes).length = 32 := by
      rw [List.length_drop, List.length_take_of_le long]
      rfl
    rw [rejectIf_neg (not_lt.2 long), dif_pos long, sliceRange_of (Nat.zero_le _) hfront,
      sliceRange_of (by decide) long, sliceRange_of long le_rfl]
    unfold decodeEnveloped Halting.checksumField
    simp only [attempt_bind, encodeSnapshot_eq, validate_eq, raise_attempt, sliceTo, sliceFrom, List.take_length,
      List.drop_zero, attempt_known, known_bind]
    iterate 5 refine bind_congr_ok fun _ _ => ?_
    rw [dif_pos hsum]
    rfl
  · rw [dif_neg long]
    unfold rejectIf
    rw [if_pos (not_le.1 long)]
    rfl

end NoPanic

/-! ## Every valid snapshot has a frame -/

namespace AuthoritySnapshot

theorem Bound.sizes {sha256 : Sha256} {ed : Ed25519} {s : AuthoritySnapshot} {r : AcquireRecord}
    {request : AcquireTenureRequestV1} {response : AcquireTenureResponseV1} (h : s.Bound sha256 ed r request response) :
    r.exactRequestBytes.length ≤ maxAcquireTenureRequestPayloadBytes ∧
      r.exactResponseBytes.length ≤ maxAcquireTenureResponsePayloadBytes := by
  obtain ⟨hbuilt, hrequest⟩ := AcquireTenureRequestV1.decode_ok h.decoded
  obtain ⟨hdrafted, -, hsignature, hbytes, -⟩ := hbuilt.fields
  obtain ⟨hdecode, -, -, -, -, -, -, hbound⟩ := AcquireTenureResponseV1.decodeForRequest_ok h.answered
  obtain ⟨hresponse, -⟩ := AcquireTenureResponseV1.decode_ok hdecode
  constructor
  · rw [← hrequest, hbytes]
    exact requestBytes_le _ hsignature hdrafted.nonce.2
  · rw [← hresponse]
    exact hbound.trans hdrafted.bound.2

end AuthoritySnapshot

theorem encodeRecord_total {s : AuthoritySnapshot} {r : AcquireRecord} (h : s.Structured r) :
    encodeRecord r = .ok (recordFields r).flatten := by
  have hrequest : r.exactRequestBytes.length < 256 ^ 4 := lt_of_le_of_lt h.request (by decide)
  have hnonce : r.nonce.length < 256 ^ 2 := lt_of_le_of_lt h.nonce (by decide)
  have hsignature : r.signature.val.length < 256 ^ 2 := by rw [r.signature.property]; decide
  have hresponse : r.exactResponseBytes.length < 256 ^ 4 := lt_of_le_of_lt h.response (by decide)
  exact ok_bind ((lengthPrefixed_ok ..).2 ⟨hrequest, rfl⟩) <| ok_bind ((lengthPrefixed_ok ..).2 ⟨hnonce, rfl⟩) <|
    ok_bind ((lengthPrefixed_ok ..).2 ⟨hsignature, rfl⟩) <| ok_bind ((lengthPrefixed_ok ..).2 ⟨hresponse, rfl⟩) rfl

theorem encodeRecords_total : ∀ {rs : List AcquireRecord}, (∀ r ∈ rs, encodeRecord r = .ok (recordFields r).flatten) →
    encodeRecords rs = .ok (rs.flatMap fun r => (recordFields r).flatten)
  | [], _ => rfl
  | r :: rs, h => by
    obtain ⟨hr, hrs⟩ := List.forall_mem_cons.1 h
    exact ok_bind hr <| ok_bind (encodeRecords_total hrs) rfl

def maxRecordBytes : Nat :=
  225 + maxAcquireTenureRequestPayloadBytes + maxTenureNonceBytes + maxAcquireTenureResponsePayloadBytes

theorem recordFields_length (r : AcquireRecord) : (recordFields r).flatten.length =
    225 + r.exactRequestBytes.length + r.nonce.length + r.exactResponseBytes.length := by
  simp [recordFields, r.signature.property]
  omega

theorem payloadHead_length (s : AuthoritySnapshot) : (payloadHead s).flatten.length = 302 := by
  simp [payloadHead]

theorem encodeSnapshot_total {sha256 : Sha256} {ed : Ed25519} {s : AuthoritySnapshot}
    (h : s.validate sha256 ed = .ok ()) : ∃ bytes, encodeSnapshot sha256 ed s = .ok bytes := by
  have hvalid := AuthoritySnapshot.validate_ok h
  have hcount : s.acquireRecords.length ≤ 64 := hvalid.capacity
  have hrecords := encodeRecords_total fun r hr => encodeRecord_total (hvalid.structured r hr)
  have hsizes : ∀ n ∈ s.acquireRecords.map fun r => (recordFields r).flatten.length, n ≤ maxRecordBytes := by
    intro n hn
    obtain ⟨r, hr, rfl⟩ := List.mem_map.1 hn
    obtain ⟨_, _, hbound⟩ := hvalid.bound r hr
    obtain ⟨hrequest, hresponse⟩ := hbound.sizes
    have hnonce := (hvalid.structured r hr).nonce
    rw [recordFields_length]
    unfold maxRecordBytes
    omega
  have hlength : ((payloadHead s).flatten ++ s.acquireRecords.flatMap fun r => (recordFields r).flatten).length ≤
      302 + 64 * maxRecordBytes := by
    rw [List.length_append, payloadHead_length, List.length_flatMap]
    have hsum := List.sum_le_card_nsmul _ _ hsizes
    rw [List.length_map, smul_eq_mul] at hsum
    exact Nat.add_le_add_left (hsum.trans (Nat.mul_le_mul_right _ hcount)) _
  generalize hpayload : ((payloadHead s).flatten ++ s.acquireRecords.flatMap fun r => (recordFields r).flatten) = payload
    at hlength
  have hfits : payload.length ≤ 102126 := hlength.trans (by decide)
  have hencoded : encodePayload s = .ok payload :=
    ok_check (by omega) <| ok_bind hrecords (congrArg Except.ok hpayload)
  have hheader := envelopeHeader_length s payload.length
  have hchecksum : ∃ checksum, envelopeChecksum sha256 (envelopeHeader s payload.length).flatten payload = .ok checksum := by
    refine ⟨_, wrapErr_ok.2 ((digest32_ok ..).2 ⟨by decide, by decide, by simp, ?_, rfl⟩)⟩
    intro field hfield
    simp only [List.mem_cons, List.not_mem_nil, or_false] at hfield
    rcases hfield with rfl | rfl
    · rw [hheader]
      decide
    · omega
  obtain ⟨checksum, hchecksum⟩ := hchecksum
  refine ⟨_, ok_bind (wrapErr_ok.2 h) <| ok_bind hencoded <| ok_check (by omega) <|
    ok_check (not_not.2 hheader) <| ok_bind hchecksum <| ok_check ?_ rfl⟩
  unfold envelopeHeaderBytes authoritySnapshotMaxBytes
  omega

/-- **The codec is exact.**  A valid snapshot has a frame that decodes to it; a frame that is accepted is the frame of what
it decodes to; any other bytes than the frame of a snapshot are refused or are the frame of a different valid snapshot; and
no bytes at all make the decoder panic. -/
theorem authority_snapshot_exact (sha256 : Sha256) (ed : Ed25519) :
    (∀ s : AuthoritySnapshot, s.validate sha256 ed = .ok () →
      ∃ bytes, encodeSnapshot sha256 ed s = .ok bytes ∧ decodeSnapshot sha256 ed bytes = .ok s ∧
        ∀ changed, changed ≠ bytes → ∀ s', decodeSnapshot sha256 ed changed = .ok s' →
          s' ≠ s ∧ s'.validate sha256 ed = .ok ()) ∧
    (∀ bytes s, decodeSnapshot sha256 ed bytes = .ok s →
      s.validate sha256 ed = .ok () ∧ encodeSnapshot sha256 ed s = .ok bytes) ∧
    ∀ bytes, Halting.decodeSnapshot sha256 ed bytes = attempt (decodeSnapshot sha256 ed bytes) ∧
      Halting.decodeSnapshot sha256 ed bytes ≠ .error .panic := by
  refine ⟨fun s hs => ?_, fun bytes s h => ?_, fun bytes => ?_⟩
  · obtain ⟨bytes, hencode⟩ := encodeSnapshot_total hs
    obtain ⟨-, hdecode, -, -⟩ := encodeSnapshot_ok hencode
    refine ⟨bytes, hencode, hdecode, fun changed hchanged s' hs' => ?_⟩
    have hagain := decodeSnapshot_ok hs'
    refine ⟨?_, (encodeSnapshot_ok hagain).1⟩
    rintro rfl
    exact hchanged (Except.ok.inj (hagain.symm.trans hencode))
  · have hencode := decodeSnapshot_ok h
    exact ⟨(encodeSnapshot_ok hencode).1, hencode⟩
  · rw [decodeSnapshot_eq]
    exact ⟨rfl, attempt_ne_panic _⟩

/-- The snapshot the sample run leaves, with the records of its two operations. -/
def grantedSnapshot : AuthoritySnapshot :=
  ((run sampleHash sampleScheme ⟨20, 20⟩ (start ⟨20, 20⟩ sampleEncoded) sampleActions).process.map
    (·.store.snapshot)).getD sampleSnapshot

theorem authority_snapshot_exact_granted : grantedSnapshot.acquireRecords.length = 2 ∧
    ∃ bytes, encodeSnapshot sampleHash sampleScheme grantedSnapshot = .ok bytes ∧
      decodeSnapshot sampleHash sampleScheme bytes = .ok grantedSnapshot ∧
        Halting.decodeSnapshot sampleHash sampleScheme bytes = .ok grantedSnapshot := by
  have hgranted : grantedSnapshot.acquireRecords.length = 2 ∧
      grantedSnapshot.validate sampleHash sampleScheme = .ok () := by decide +kernel
  obtain ⟨hencodes, -, hhalts⟩ := authority_snapshot_exact sampleHash sampleScheme
  obtain ⟨bytes, hencode, hdecode, -⟩ := hencodes grantedSnapshot hgranted.2
  refine ⟨hgranted.1, bytes, hencode, hdecode, ?_⟩
  rw [(hhalts bytes).1, hdecode]
  rfl

end Tenure
end ParaEgox
