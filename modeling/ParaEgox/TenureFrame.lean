import ParaEgox.TenureSnapshot
import ParaEgox.TenureValid

/-!
# TenureFrame — an encoded snapshot decodes to itself
-/
namespace ParaEgox
namespace Tenure

open Check Wire

theorem lengthPrefixed_ok (width : Nat) (bytes encoded : Bytes) :
    lengthPrefixed width bytes = .ok encoded ↔ bytes.length < 256 ^ width ∧ bytesBE width bytes.length ++ bytes = encoded := by
  simp only [lengthPrefixed, bind_ok, rejectIf_ok, exists_unit, pure_ok, not_le]

/-- The fields of a record on the wire, in their order. -/
def recordFields (r : AcquireRecord) : List Bytes :=
  [r.operationId.asBytes, r.requestDigest.asBytes, bytesBE 4 r.exactRequestBytes.length ++ r.exactRequestBytes,
    r.writer.asBytes, bytesBE 8 r.epoch.toNat, bytesBE 8 r.supersedesThroughEpoch.toNat,
    bytesBE 2 r.nonce.length ++ r.nonce, bytesBE 4 r.responseBound.toNat,
    bytesBE 2 r.signature.val.length ++ r.signature.val, r.proofEnvelopeDigest.asBytes,
    bytesBE 4 r.exactResponseBytes.length ++ r.exactResponseBytes, r.responseDigest.asBytes, bytesBE 1 r.status.code]

variable {bytes : Bytes} {s : AuthoritySnapshot} {sha256 : Sha256} {ed : Ed25519}

theorem encodeRecord_ok {r : AcquireRecord} (h : encodeRecord r = .ok bytes) : bytes = (recordFields r).flatten := by
  simp only [encodeRecord, bind_ok, pure_ok, lengthPrefixed_ok] at h
  obtain ⟨_, ⟨-, rfl⟩, _, ⟨-, rfl⟩, _, ⟨-, rfl⟩, _, ⟨-, rfl⟩, rfl⟩ := h
  rfl

theorem encodeRecords_ok : ∀ {rs : List AcquireRecord} {bytes : Bytes}, encodeRecords rs = .ok bytes →
    bytes = rs.flatMap fun r => (recordFields r).flatten
  | [], _, h => (Except.ok.inj h).symm
  | r :: rs, bytes, h => by
    simp only [encodeRecords, bind_ok, pure_ok] at h
    obtain ⟨record, hrecord, rest, hrest, rfl⟩ := h
    rw [List.flatMap_cons, encodeRecord_ok hrecord, encodeRecords_ok hrest]

/-- **A record is read back from its fields**, whatever follows them. -/
theorem reads_record {r : AcquireRecord} (h : s.Structured r) : Reads decodeRecord (recordFields r).flatten r := by
  have hrequest : r.exactRequestBytes.length < 256 ^ 4 := lt_of_le_of_lt h.request (by decide)
  have hnonce : r.nonce.length < 256 ^ 2 := lt_of_le_of_lt h.nonce (by decide)
  have hresponse : r.exactResponseBytes.length < 256 ^ 4 := lt_of_le_of_lt h.response (by decide)
  have hsignature : r.signature.val.length < 256 ^ 2 := by rw [r.signature.property]; decide
  have hdecode : decodeSignature r.signature.val = .ok r.signature := dif_pos r.signature.property
  have hstatus : IssuanceStatus.decode r.status.code = .ok r.status := by cases r.status; rfl
  have hcode : r.status.code < 256 ^ 1 := by cases r.status; decide
  have hoperation : wrapErr CodecError.model (acquireOperationIdTryFromBytes r.operationId) = .ok r.operationId :=
    wrapErr_ok.2 ((acquireOperationIdTryFromBytes_ok ..).2 ⟨h.operation, rfl⟩)
  exact reads_field (Fields.reads_ref16 _ r.operationId) <| reads_check hoperation <|
    reads_field (Fields.reads_digest _ r.requestDigest) <|
    reads_field (Fields.reads_counted _ h.request hrequest) <| reads_field (Fields.reads_ref16 _ r.writer) <|
    reads_field (Fields.reads_u64 _ r.epoch) <| reads_field (Fields.reads_u64 _ r.supersedesThroughEpoch) <|
    reads_field (Fields.reads_counted _ h.nonce hnonce) <| reads_field (Fields.reads_u32 _ r.responseBound) <|
    reads_field (Fields.reads_counted _ r.signature.property.le hsignature) <| reads_check hdecode <|
    reads_field (Fields.reads_digest _ r.proofEnvelopeDigest) <|
    reads_field (Fields.reads_counted _ h.response hresponse) <| reads_field (Fields.reads_digest _ r.responseDigest) <|
    reads_field (Fields.reads_uint _ hcode) <| reads_check hstatus <| reads_done r

/-- **A payload is read back**: the head, then every record. -/
theorem decodePayload_encodePayload {payload : Bytes}
    (hvalid : s.Valid sha256 ed) (h : encodePayload s = .ok payload) :
    decodePayload sha256 ed s.storeInstanceId s.ownerIdentityFingerprint s.snapshotSequence payload = .ok (s, []) := by
  simp only [encodePayload, bind_ok, rejectIf_ok, exists_unit, pure_ok, not_le] at h
  obtain ⟨hcount, records, hrecords, rfl⟩ := h
  rw [encodeRecords_ok hrecords]
  have hread : Reads (Reader.times s.acquireRecords.length decodeRecord)
      (s.acquireRecords.flatMap fun r => (recordFields r).flatten) s.acquireRecords :=
    reads_times fun r hr => reads_record (hvalid.structured r hr)
  have hprovisioning : wrapErr CodecError.model (AuthorityProvisioning.tryNew sha256 ed s.provisioning.sourceScope
      s.provisioning.authorizedWriter s.provisioning.proofAuthority s.provisioning.verificationKey
      s.provisioning.authorization { s.provisioning.fingerprints with ownerIdentity := s.ownerIdentityFingerprint }) =
        .ok s.provisioning := by
    have hchecked := hvalid.provisioning
    simp only [AuthorityProvisioning.validate, bind_ok, pure_ok] at hchecked
    obtain ⟨p, hp, -⟩ := hchecked
    have hsame : p = s.provisioning := by
      simp only [AuthorityProvisioning.tryNew, bind_ok, exists_unit, pure_ok] at hp
      obtain ⟨_, _, _, _, _, _, _, _, _, _, _, _, _, _, _, _, _, _, _, _, _, _, rfl⟩ := hp
      rfl
    rw [hvalid.owner]
    exact wrapErr_ok.2 (hsame ▸ hp)
  have halgorithm : wrapErr CodecError.proof (TenureProofAlgorithm.tryNew s.provisioning.proofAuthority.algorithm.value) =
      .ok s.provisioning.proofAuthority.algorithm := wrapErr_ok.2 (TenureProofAlgorithm.tryNew_value _)
  have hauthority : wrapErr CodecError.proof (TenureProofAuthority.tryNew s.provisioning.proofAuthority.authority
      s.provisioning.proofAuthority.key s.provisioning.proofAuthority.algorithm
      s.provisioning.proofAuthority.algorithmVersion) = .ok s.provisioning.proofAuthority :=
    wrapErr_ok.2 (TenureProofAuthority.tryNew_fields _)
  have hsplit : (payloadHead s).flatten ++ (s.acquireRecords.flatMap fun r => (recordFields r).flatten) =
      (payloadHead s ++ [s.acquireRecords.flatMap fun r => (recordFields r).flatten]).flatten := by
    rw [List.flatten_append, List.flatten_singleton]
  rw [hsplit]
  exact consumes_field (Fields.reads_ref16 _ _) <| consumes_field (Fields.reads_ref16 _ _) <|
    consumes_field (Fields.reads_ref16 _ _) <| consumes_field (Fields.reads_ref16 _ _) <|
    consumes_field (Fields.reads_u16 _ _) <| consumes_check halgorithm <| consumes_field (Fields.reads_u16 _ _) <|
    consumes_check hauthority <| consumes_field (Fields.reads_digest _ _) <|
    consumes_field (Fields.reads_ref16 _ _) <| consumes_field (Fields.reads_ref16 _ _) <|
    consumes_field (Fields.reads_digest _ _) <| consumes_field (Fields.reads_digest _ _) <|
    consumes_field (Fields.reads_digest _ _) <| consumes_field (Fields.reads_digest _ _) <|
    consumes_field (Fields.reads_digest _ _) <| consumes_field (Fields.reads_u64 _ _) <|
    consumes_field (Fields.reads_uint _ hcount) <| consumes_check (rejectIf_neg (not_lt.2 hvalid.capacity)) <|
    consumes_check hprovisioning <| consumes_field hread <| consumes_finish _ s

theorem envelopeHeader_length (s : AuthoritySnapshot) (n : Nat) :
    (envelopeHeader s n).flatten.length = envelopeHeaderWithoutChecksumBytes := by
  simp [envelopeHeader, journalMagic, envelopeHeaderWithoutChecksumBytes]

theorem decodeEnvelopeHeader_header {n : Nat} (h : n < 256 ^ 8) : decodeEnvelopeHeader (envelopeHeader s n).flatten =
      .ok (⟨s.storeInstanceId, s.ownerIdentityFingerprint, s.snapshotSequence, n⟩, []) := by
  have hstore : wrapErr CodecError.model (StoreInstanceId.tryFromBytes s.storeInstanceId.bytes) = .ok s.storeInstanceId :=
    wrapErr_ok.2 (StoreInstanceId.tryFromBytes_bytes _)
  refine consumes_field (reads_take journalMagic _) <| consumes_check (rejectIf_neg (not_not.2 rfl)) ?_
  iterate 5 refine consumes_field (Fields.reads_uint _ (by decide)) <| consumes_check (rejectIf_neg (not_not.2 rfl)) ?_
  exact consumes_field (Fields.reads_digest _ _) <| consumes_check hstore <| consumes_field (Fields.reads_digest _ _) <|
    consumes_field (Fields.reads_u64 _ _) <| consumes_field (Fields.reads_uint _ h) <| consumes_finish _ _

/-! ## The parts of a frame -/

/-- A frame is its header, its checksum and its payload. -/
theorem frame_eq (header checksum payload : Bytes) :
    [header, checksum, payload].flatten = header ++ checksum ++ payload := by
  simp

section Parts

variable {header checksum : Bytes} (payload : Bytes) (hheader : header.length = envelopeHeaderWithoutChecksumBytes)
  (hchecksum : checksum.length = 32)

include hheader in
theorem front_of_frame : [header, checksum, payload].flatten.take envelopeHeaderWithoutChecksumBytes = header := by
  rw [List.flatten_cons, ← hheader, List.take_left]

include hheader hchecksum

theorem sealed_length : (header ++ checksum).length = envelopeHeaderBytes := by
  rw [List.length_append, hheader, hchecksum]
  rfl

theorem frame_length : [header, checksum, payload].flatten.length = envelopeHeaderBytes + payload.length := by
  rw [frame_eq, List.length_append, sealed_length hheader hchecksum]

theorem payload_of_frame : [header, checksum, payload].flatten.drop envelopeHeaderBytes = payload := by
  rw [frame_eq, ← sealed_length hheader hchecksum, List.drop_left]

theorem checksum_of_frame : ([header, checksum, payload].flatten.take envelopeHeaderBytes).drop
    envelopeHeaderWithoutChecksumBytes = checksum := by
  rw [frame_eq, ← sealed_length hheader hchecksum, List.take_left, ← hheader, List.drop_left]

end Parts

/-- **What is written is read back**, under a checksum of header and payload. -/
theorem encodeSnapshot_ok (h : encodeSnapshot sha256 ed s = .ok bytes) :
    s.validate sha256 ed = .ok () ∧ decodeSnapshot sha256 ed bytes = .ok s ∧ bytes ≠ [] ∧
      bytes.length ≤ authoritySnapshotMaxBytes := by
  have hencoded := h
  simp only [encodeSnapshot, bind_ok, wrapErr_ok, rejectIf_ok, exists_unit, pure_ok, not_le, not_lt, not_not, ne_eq] at h
  obtain ⟨hvalid, payload, hpayload, hfits, hheader, checksum, hchecksum, hroom, rfl⟩ := h
  have hlength := frame_length payload hheader checksum.asBytes_length
  have hsum := checksum_of_frame payload hheader checksum.asBytes_length
  have long : envelopeHeaderBytes ≤ [(envelopeHeader s payload.length).flatten, checksum.asBytes, payload].flatten.length :=
    hlength ▸ Nat.le_add_right _ _
  refine ⟨hvalid, ?_, ?_, hlength ▸ hroom⟩
  · simp only [decodeSnapshot, bind_ok, rejectIf_ok, exists_unit, not_lt]
    refine ⟨hlength ▸ hroom, ?_⟩
    rw [dif_pos long]
    have hread := decodeEnvelopeHeader_header (s := s) (n := payload.length) (lt_of_lt_of_eq hfits (by decide))
    have hdecoded := decodePayload_encodePayload (AuthoritySnapshot.validate_ok hvalid) hpayload
    have hmachine : envelopeHeaderBytes + payload.length < 2 ^ 64 := lt_of_le_of_lt hroom (by decide)
    unfold decodeEnveloped sliceTo sliceFrom
    simp only [front_of_frame payload hheader, payload_of_frame payload hheader checksum.asBytes_length]
    refine ok_bind hread <| ok_check (not_le.2 hmachine) <| ok_check (not_lt.2 hroom) <|
      ok_check (not_lt.2 hlength.ge) <| ok_check (not_lt.2 hlength.le) <|
      ok_bind hchecksum <| ok_check (not_not.2 ?_) <| ok_bind hdecoded <|
      ok_bind (wrapErr_ok.2 hvalid) <| ok_bind hencoded <| ok_check (not_not.2 rfl) rfl
    simp only [hsum]
    exact (Digest32.fromBytes_asBytes checksum).symm
  · intro hempty
    rw [hempty] at long
    exact absurd long (by decide)

/-- **What is accepted is canonical**: encoding it again gives the bytes that were read. -/
theorem decodeSnapshot_ok (h : decodeSnapshot sha256 ed bytes = .ok s) : encodeSnapshot sha256 ed s = .ok bytes := by
  simp only [decodeSnapshot, bind_ok, rejectIf_ok, exists_unit] at h
  obtain ⟨-, h⟩ := h
  split at h
  · simp only [decodeEnveloped, bind_ok, rejectIf_ok, exists_unit, pure_ok, not_not, Prod.exists, ne_eq] at h
    obtain ⟨_, _, -, -, -, -, -, _, -, -, _, _, -, -, again, hagain, rfl, rfl⟩ := h
    exact hagain
  · cases h

end Tenure
end ParaEgox
