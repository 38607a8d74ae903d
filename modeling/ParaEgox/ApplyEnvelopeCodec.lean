import ParaEgox.ApplyEnvelope
import ParaEgox.TenureCodec

/-!
# ApplyEnvelopeCodec — the apply envelope has one encoding and one meaning

The parser of tagged fields gives back the values an envelope was built from, every value passes the constructor that built
it, and the values determine the envelope.  The transcript holds all of them but the signature.
-/
namespace ParaEgox
namespace Envelope

open Check Tlv Admission

variable {α : Type}

/-! ## The values of an envelope -/

/-- What `append_apply_fields` appends, with the digest of the proof computed. -/
def values (sha256 : Sha256) (c : RuntimeApplyControlCommitment) (temporal : ApplyTemporalConstraint)
    (claim : ApplyRequestAuthClaim) : List Bytes :=
  applyFieldList c temporal claim
    (sha256 (digestInput Tenure.writerTenureProofEnvelopeDigestDomain c.control.writerContext.proof.envelopeFields))

variable (sha256 : Sha256) (c : RuntimeApplyControlCommitment) (temporal : ApplyTemporalConstraint)

theorem applyFieldValues_eq (claim : ApplyRequestAuthClaim) :
    applyFieldValues sha256 c temporal claim = .ok (values sha256 c temporal claim) := by
  have hdigest := c.control.writerContext.proof.envelopeDigest_ok sha256
  refine ok_bind (wrapErr_ok.2 hdigest) rfl

theorem values_lengths (claim : ApplyRequestAuthClaim) : (values sha256 c temporal claim).map List.length =
    [2, 16, 16, 16, 8, 32, 32, 32, 16, 8, 16, 16, 2, 2, 16, 16, 8, 8, c.control.writerContext.proof.nonce.length,
      c.control.writerContext.proof.signature.length, 32, 2, 32, 16, 32, 2, 16, 16, 8, 8, 8, 16, 16, 2, 2,
      claim.nonce.length] := by
  simp only [values, applyFieldList, List.map_cons, List.map_nil, bytesBE_length, Ref16.asBytes_length, Digest32.asBytes_length]

def wire (authentication : ApplyRequestAuthentication) : Bytes :=
  Tenure.valueHeader applyEnvelopeMagic runtimeApplyEnvelopeVersion applyEnvelopeFieldCount
    ++ tlvs 0 (values sha256 c temporal authentication.claim ++ [authentication.signature])

theorem buildApplyEnvelopeWire_eq (authentication : ApplyRequestAuthentication) :
    buildApplyEnvelopeWire sha256 c temporal authentication = .ok (wire sha256 c temporal authentication) :=
  ok_bind (applyFieldValues_eq ..) rfl

theorem wire_length (authentication : ApplyRequestAuthentication) : (wire sha256 c temporal authentication).length =
    35 + 6 * 37 + (470 + c.control.writerContext.proof.nonce.length + c.control.writerContext.proof.signature.length
      + authentication.claim.nonce.length + authentication.signature.length) := by
  have hheader : (Tenure.valueHeader applyEnvelopeMagic runtimeApplyEnvelopeVersion applyEnvelopeFieldCount).length = 35 :=
    rfl
  have hcount : (values sha256 c temporal authentication.claim).length = 36 := rfl
  rw [wire, List.length_append, hheader, tlvs_length, List.length_append, List.map_append, values_lengths, hcount,
    List.sum_append]
  simp only [List.length_singleton, List.map_cons, List.map_nil, List.sum_cons, List.sum_nil]
  omega

theorem wire_length_le (authentication : ApplyRequestAuthentication) :
    (wire sha256 c temporal authentication).length ≤ maxRuntimeApplyEnvelopeBytes := by
  have hnonce := c.control.writerContext.proof.nonceBounded
  have hsignature := c.control.writerContext.proof.signatureBounded
  have hauth := authentication.claim.bounded
  have hsigned := authentication.bounded
  simp only [Tenure.maxTenureNonceBytes, Tenure.maxTenureSignatureBytes, maxApplyAuthNonceBytes,
    maxApplyAuthSignatureBytes] at hnonce hsignature hauth hsigned
  rw [wire_length, maxRuntimeApplyEnvelopeBytes]
  omega

/-- What `try_new` builds. -/
def envelope (authentication : ApplyRequestAuthentication) : RuntimeApplyEnvelope where
  controlCommitment := c
  temporal := temporal
  authentication := authentication
  canonicalWire := wire sha256 c temporal authentication
  requestDigest := sha256 (digestInput applyEnvelopeRequestDigestDomain [wire sha256 c temporal authentication])

theorem requestDigest_ok (authentication : ApplyRequestAuthentication) :
    digest32 sha256 applyEnvelopeRequestDigestDomain [wire sha256 c temporal authentication] =
      .ok (envelope sha256 c temporal authentication).requestDigest := by
  have hlength := wire_length_le sha256 c temporal authentication
  have hmax : maxRuntimeApplyEnvelopeBytes < 2 ^ 64 := by decide
  refine (digest32_ok ..).2 ⟨by decide, by decide, Nat.one_lt_two_pow (by decide), ?_, rfl⟩
  intro f hf
  rw [List.mem_singleton.1 hf]
  omega

theorem RuntimeApplyEnvelope.tryNew_ok (authentication : ApplyRequestAuthentication) (e : RuntimeApplyEnvelope) :
    RuntimeApplyEnvelope.tryNew sha256 c temporal authentication = .ok e ↔
      c.validate sha256 = .ok () ∧ e = envelope sha256 c temporal authentication := by
  have hroom := wire_length_le sha256 c temporal authentication
  constructor
  · intro h
    simp only [tryNew, bind_ok, exists_unit, wrapErr_ok, rejectIf_ok, buildApplyEnvelopeWire_eq, Except.ok.injEq,
      exists_eq_left', pure_ok, requestDigest_ok] at h
    exact ⟨h.1, h.2.2.symm⟩
  · rintro ⟨hvalid, rfl⟩
    exact ok_bind (wrapErr_ok.2 hvalid) <| ok_bind (buildApplyEnvelopeWire_eq ..) <|
      ok_check (not_lt.2 hroom) <| ok_bind (wrapErr_ok.2 (requestDigest_ok ..)) rfl

theorem RuntimeApplyEnvelope.tryNew_fits (authentication : ApplyRequestAuthentication) :
    RuntimeApplyEnvelope.tryNew sha256 c temporal authentication ≠ .error .frameTooLarge := by
  intro h
  cases hvalid : c.validate sha256 with
  | ok u =>
    rw [(RuntimeApplyEnvelope.tryNew_ok sha256 c temporal authentication _).2 ⟨hvalid, rfl⟩] at h
    cases h
  | error e =>
    unfold RuntimeApplyEnvelope.tryNew at h
    rw [hvalid] at h
    cases h

/-! ## Reading the values back -/

def RuntimeApplyEnvelope.Built (e : RuntimeApplyEnvelope) : Prop :=
  ∃ c temporal authentication, RuntimeApplyEnvelope.tryNew sha256 c temporal authentication = .ok e

theorem RuntimeApplyEnvelope.validate_ok (e : RuntimeApplyEnvelope) : e.validate sha256 = .ok () ↔ e.Built sha256 := by
  obtain ⟨c, temporal, authentication, bytes, digest⟩ := e
  constructor
  · intro h
    simp only [validate, bind_ok, exists_unit, wrapErr_ok, rejectIf_ok, buildApplyEnvelopeWire_eq, Except.ok.injEq,
      exists_eq_left', requestDigest_ok, not_not, ne_eq] at h
    obtain ⟨hvalid, rfl, rfl⟩ := h
    exact ⟨c, temporal, authentication, (RuntimeApplyEnvelope.tryNew_ok ..).2 ⟨hvalid, rfl⟩⟩
  · rintro ⟨c', temporal', authentication', hnew⟩
    obtain ⟨hvalid, heq⟩ := (RuntimeApplyEnvelope.tryNew_ok ..).1 hnew
    rw [heq]
    exact ok_bind (wrapErr_ok.2 hvalid) <| ok_bind (buildApplyEnvelopeWire_eq ..) <|
      ok_check (not_not.2 rfl) <| ok_bind (wrapErr_ok.2 (requestDigest_ok ..)) <|
      rejectIf_neg (not_not.2 rfl)

theorem valid_lengths (authentication : ApplyRequestAuthentication) :
    Tenure.Lengths validFieldLength 0 (values sha256 c temporal authentication.claim ++ [authentication.signature]) := by
  have hnonce := c.control.writerContext.proof.nonceBounded
  have hsignature := c.control.writerContext.proof.signatureBounded
  have hauth := authentication.claim.bounded
  have hsigned := authentication.bounded
  have hfresh := List.length_pos_of_ne_nil c.control.writerContext.proof.fresh
  have hproof := List.length_pos_of_ne_nil c.control.writerContext.proof.signed
  have hclaim := List.length_pos_of_ne_nil authentication.claim.fresh
  have hpositive := List.length_pos_of_ne_nil authentication.signed
  have hv19 : validFieldLength 19 c.control.writerContext.proof.nonce.length = true := decide_eq_true ⟨hfresh, hnonce⟩
  have hv20 : validFieldLength 20 c.control.writerContext.proof.signature.length = true :=
    decide_eq_true ⟨hproof, hsignature⟩
  have hv36 : validFieldLength 36 authentication.claim.nonce.length = true := decide_eq_true ⟨hclaim, hauth⟩
  have hv37 : validFieldLength 37 authentication.signature.length = true := decide_eq_true ⟨hpositive, hsigned⟩
  have hf (width n : Nat) (h : width < 2 ^ 32) : Fits (bytesBE width n) := (bytesBE_length width n).trans_lt h
  have hr (r : Ref16) : Fits r.asBytes := r.asBytes_length.trans_lt (by decide)
  have hd (d : Digest32) : Fits d.asBytes := d.asBytes_length.trans_lt (by decide)
  have hb {v : Bytes} {n : Nat} (h : v.length ≤ n) (hn : n < 2 ^ 32) : Fits v := lt_of_le_of_lt h hn
  simp only [values, applyFieldList, List.cons_append, List.nil_append, Tenure.Lengths, bytesBE_length, Ref16.asBytes_length,
    Digest32.asBytes_length, hr, hd, hv19, hv20, hv36, hv37, hb hnonce (by decide), hb hsignature (by decide),
    hb hauth (by decide), hb hsigned (by decide), hf 2 _ (by decide), hf 8 _ (by decide), and_true, true_and]
  decide

theorem parseApplyFrame_wire (authentication : ApplyRequestAuthentication) :
    parseApplyFrame (wire sha256 c temporal authentication) =
      .ok ⟨values sha256 c temporal authentication.claim ++ [authentication.signature]⟩ := by
  refine wrapErr_ok.2 ?_
  refine Tenure.parseValue_tlvs (by decide) ?_ (valid_lengths sha256 c temporal authentication)
    (wire_length_le sha256 c temporal authentication) (by decide)
  change 37 < 2 ^ 16
  decide

section Fields

variable {fields : Tenure.ParsedFields} {tag : Nat}

theorem get_of {v : Bytes} (h : fields.values[tag - 1]? = some v) : get fields tag = .ok v := okOr_ok.2 h

theorem fieldArray_of {width : Nat} {v : Bytes} (h : fields.values[tag - 1]? = some v) (hv : v.length = width) :
    fieldArray width fields tag = .ok ⟨v, hv⟩ := ok_bind (get_of h) (dif_pos hv)

theorem fieldRef16_of {r : Ref16} (h : fields.values[tag - 1]? = some r.asBytes) : fieldRef16 fields tag = .ok r := by
  refine ok_bind (fieldArray_of h r.asBytes_length) ?_
  rw [Ref16.fromBytes_asBytes]
  rfl

theorem fieldDigest32_of {d : Digest32} (h : fields.values[tag - 1]? = some d.asBytes) :
    fieldDigest32 fields tag = .ok d := by
  refine ok_bind (fieldArray_of h d.asBytes_length) ?_
  rw [Digest32.fromBytes_asBytes]
  rfl

theorem fieldU64_of {n : UInt64} (h : fields.values[tag - 1]? = some (bytesBE 8 n.toNat)) :
    fieldU64 fields tag = .ok n := by
  refine ok_bind (fieldArray_of h (bytesBE_length 8 _)) ?_
  rw [fromBE_bytesBE (lt_of_lt_of_eq n.toNat_lt (by decide)), UInt64.ofNat_toNat]
  rfl

theorem fieldU16_of {n : UInt16} (h : fields.values[tag - 1]? = some (bytesBE 2 n.toNat)) :
    fieldU16 fields tag = .ok n := by
  refine ok_bind (get_of h) ?_
  rw [if_pos (bytesBE_length 2 _).ge, List.take_of_length_le (bytesBE_length 2 _).le,
    fromBE_bytesBE (lt_of_lt_of_eq n.toNat_lt (by decide)), UInt16.ofNat_toNat]

end Fields

/-! ## Round trips -/

variable (authentication : ApplyRequestAuthentication)

def parsed : Tenure.ParsedFields := ⟨values sha256 c temporal authentication.claim ++ [authentication.signature]⟩

theorem RuntimeApplyControlCommitment.validate_ok (h : c.validate sha256 = .ok ()) :
    RuntimeSliceCommitment.tryNew sha256 c.slice.header = .ok c.slice ∧
      RuntimeApplyControlCommitment.tryNew sha256 c.slice c.control = .ok c := by
  simp only [validate, bind_ok, exists_unit, wrapErr_ok, rejectIf_ok, not_not, ne_eq] at h
  obtain ⟨hslice, hscope, digest, hdigest, rfl⟩ := h
  have hvalid := hslice
  simp only [RuntimeSliceCommitment.validate, bind_ok, rejectIf_ok, not_not, ne_eq] at hslice
  obtain ⟨slice, hnew, hsame⟩ := hslice
  have hheader : slice.header = c.slice.header := by
    simp only [RuntimeSliceCommitment.tryNew, bind_ok, pure_ok] at hnew
    obtain ⟨_, _, rfl⟩ := hnew
    rfl
  have heq : slice = c.slice := by
    obtain ⟨header, target⟩ := slice
    cases hheader
    cases hsame
    rfl
  refine ⟨heq ▸ hnew, ?_⟩
  exact ok_bind (wrapErr_ok.2 hvalid) <| ok_bind hscope <| ok_bind hdigest rfl

theorem decodeSlice_parsed (h : c.validate sha256 = .ok ()) :
    decodeSlice sha256 (parsed sha256 c temporal authentication) = .ok c.slice := by
  have hslice := (c.validate_ok sha256 h).1
  refine ok_bind (fieldU16_of (n := 1) rfl) <| ok_check (by decide) <| ok_bind (fieldRef16_of rfl) <|
    ok_bind (fieldRef16_of rfl) <| ok_bind (fieldU64_of rfl) <| ok_bind (fieldDigest32_of rfl) <|
    ok_bind (fieldRef16_of rfl) <| ok_bind (fieldDigest32_of rfl) <| ok_bind (mapErr_ok.2 hslice) <|
    ok_bind (get_of rfl) <| ok_check (not_not.2 rfl) rfl

theorem decodeWriter_parsed :
    decodeWriter sha256 (parsed sha256 c temporal authentication) = .ok c.control.writerContext := by
  have hdigest := c.control.writerContext.proof.envelopeDigest_ok sha256
  have hwriter : PlanWriterContext.tryNew c.control.writerContext.writer c.control.writerContext.epoch
      c.control.writerContext.proof = .ok c.control.writerContext :=
    ok_bind (require_ok ⟨c.control.writerContext.routed⟩) <|
      ok_bind (require_ok ⟨c.control.writerContext.fenced⟩) rfl
  refine ok_bind (fieldU16_of rfl) <| ok_bind (wrapErr_ok.2 (Tenure.TenureProofAlgorithm.tryNew_value _)) <|
    ok_bind (fieldRef16_of rfl) <| ok_bind (fieldRef16_of rfl) <| ok_bind (fieldU16_of rfl) <|
    ok_bind (wrapErr_ok.2 (Tenure.TenureProofAuthority.tryNew_fields _)) <| ok_bind (fieldRef16_of rfl) <|
    ok_bind (fieldRef16_of rfl) <| ok_bind (fieldU64_of rfl) <| ok_bind (fieldU64_of rfl) <|
    ok_bind (wrapErr_ok.2 (Tenure.WriterTenureClaim.tryNew_fields _)) <| ok_bind (get_of rfl) <|
    ok_bind (get_of rfl) <| ok_bind (wrapErr_ok.2 (Tenure.WriterTenureProof.tryNew_fields _)) <|
    ok_bind (mapErr_ok.2 hdigest) <| ok_bind (get_of rfl) <| ok_check (not_not.2 rfl) <|
    ok_bind (fieldRef16_of rfl) <| ok_bind (fieldU64_of rfl) (wrapErr_ok.2 hwriter)

theorem zero_digest_bytes : (0 : Digest32).asBytes = List.replicate 32 0 := by decide

theorem decodeExpectedActive_parsed :
    decodeExpectedActive (parsed sha256 c temporal authentication) = .ok c.control.expectedActive := by
  have hdigest : fieldDigest32 (parsed sha256 c temporal authentication) 23
      = .ok (ApplyState.expectedTag c.control.expectedActive).2 := fieldDigest32_of rfl
  cases hexpected : c.control.expectedActive with
  | none =>
    rw [hexpected] at hdigest
    have htag : fieldU16 (parsed sha256 c temporal authentication) 22 = .ok 0 := by
      refine fieldU16_of ?_
      change some (bytesBE 2 (ApplyState.expectedTag c.control.expectedActive).1) = _
      rw [hexpected]
      rfl
    refine ok_bind hdigest <| ok_bind htag ?_
    exact if_pos ⟨rfl, zero_digest_bytes⟩
  | «exact» digest =>
    rw [hexpected] at hdigest
    have htag : fieldU16 (parsed sha256 c temporal authentication) 22 = .ok 1 := by
      refine fieldU16_of ?_
      change some (bytesBE 2 (ApplyState.expectedTag c.control.expectedActive).1) = _
      rw [hexpected]
      rfl
    refine ok_bind hdigest <| ok_bind htag ?_
    rw [if_neg (fun h => by cases h.1), if_pos rfl]
    rfl

theorem decodeTemporal_parsed : decodeTemporal (parsed sha256 c temporal authentication) = .ok temporal := by
  have hgeneration : ClockGeneration.tryNew temporal.targetClockGeneration.value = .ok temporal.targetClockGeneration :=
    ok_bind (require_ok ⟨temporal.targetClockGeneration.nonzero⟩) rfl
  have htemporal : ApplyTemporalConstraint.tryFromParts 1 temporal.constraintId temporal.targetClockDomain
      temporal.targetClockGeneration temporal.originalBudget temporal.remainingBudget = .ok temporal :=
    ok_check (not_not.2 rfl) <| ok_bind (require_ok ⟨temporal.budgeted⟩) <|
      ok_bind (require_ok ⟨temporal.remains⟩) rfl
  exact ok_bind (fieldU64_of rfl) <| ok_bind (mapErr_ok.2 hgeneration) <| ok_bind (fieldU16_of (n := 1) rfl) <|
    ok_bind (fieldRef16_of rfl) <| ok_bind (fieldRef16_of rfl) <| ok_bind (fieldU64_of rfl) <|
    ok_bind (fieldU64_of rfl) (wrapErr_ok.2 htemporal)

theorem decodeClaim_parsed : decodeClaim (parsed sha256 c temporal authentication) = .ok authentication.claim := by
  have halgorithm : ApplyAuthAlgorithm.tryNew authentication.claim.algorithm.value = .ok authentication.claim.algorithm :=
    ok_bind (require_ok ⟨authentication.claim.algorithm.nonzero⟩) rfl
  have hclaim : ApplyRequestAuthClaim.tryNew authentication.claim.principal authentication.claim.key
      authentication.claim.algorithm authentication.claim.algorithmVersion authentication.claim.nonce =
        .ok authentication.claim :=
    ok_bind (require_ok ⟨authentication.claim.versioned⟩) <| ok_bind (require_ok ⟨authentication.claim.fresh⟩) <|
      ok_bind (require_ok ⟨authentication.claim.bounded⟩) rfl
  exact ok_bind (fieldU16_of rfl) <| ok_bind (wrapErr_ok.2 halgorithm) <| ok_bind (fieldRef16_of rfl) <|
    ok_bind (fieldRef16_of rfl) <| ok_bind (fieldU16_of rfl) <| ok_bind (get_of rfl) (wrapErr_ok.2 hclaim)

theorem RuntimeApplyEnvelope.Built.decode {sha256 : Sha256} {e : RuntimeApplyEnvelope} (h : e.Built sha256) :
    RuntimeApplyEnvelope.decode sha256 e.canonicalWire = .ok e := by
  obtain ⟨c, temporal, authentication, hnew⟩ := h
  obtain ⟨hvalid, rfl⟩ := (RuntimeApplyEnvelope.tryNew_ok ..).1 hnew
  have hauthentication : ApplyRequestAuthentication.tryNew authentication.claim authentication.signature
      = .ok authentication :=
    ok_bind (require_ok ⟨authentication.signed⟩) <| ok_bind (require_ok ⟨authentication.bounded⟩) rfl
  have hdraft : RuntimeApplyEnvelopeDraft.tryNew sha256 c temporal authentication.claim
      = .ok ⟨c, temporal, authentication.claim⟩ := ok_bind (wrapErr_ok.2 hvalid) rfl
  have hfinal : RuntimeApplyEnvelopeDraft.finalize sha256 ⟨c, temporal, authentication.claim⟩ authentication.signature
      = .ok (envelope sha256 c temporal authentication) :=
    ok_bind (wrapErr_ok.2 hauthentication) hnew
  exact ok_bind (parseApplyFrame_wire ..) <| ok_bind (decodeSlice_parsed sha256 c temporal authentication hvalid) <|
    ok_bind (decodeWriter_parsed ..) <| ok_bind (decodeExpectedActive_parsed ..) <| ok_bind (fieldRef16_of rfl) <|
    ok_bind (wrapErr_ok.2 (c.validate_ok sha256 hvalid).2) <| ok_bind (get_of rfl) <|
    ok_check (not_not.2 rfl) <| ok_bind (decodeTemporal_parsed ..) <| ok_bind (decodeClaim_parsed ..) <|
    ok_bind (wrapErr_ok.2 hdraft) <| ok_bind (get_of rfl) <| ok_bind (wrapErr_ok.2 hfinal) <|
    ok_check (not_not.2 rfl) rfl

theorem RuntimeApplyEnvelope.decode_ok {sha256 : Sha256} {frame : Bytes} {e : RuntimeApplyEnvelope}
    (h : RuntimeApplyEnvelope.decode sha256 frame = .ok e) : e.Built sha256 ∧ e.canonicalWire = frame := by
  revert e h
  change Returns (RuntimeApplyEnvelope.decode sha256 frame) _
  unfold RuntimeApplyEnvelope.decode
  iterate 12 refine returns_bind fun _ _ => ?_
  refine returns_bind fun envelope hfinal => returns_bind fun _ hwire => ?_
  intro e he
  rw [← pure_ok.1 he]
  rw [rejectIf_ok, not_not] at hwire
  obtain ⟨authentication, _, hnew⟩ := bind_ok.1 (wrapErr_ok.1 hfinal)
  exact ⟨⟨_, _, _, hnew⟩, hwire⟩

/-! ## No frame makes the decoder panic -/

theorem avoids_parseApplyFrame (frame : Bytes) : Avoids .panic (parseApplyFrame frame) := by
  refine avoids_wrapErr ?_
  intro e he
  cases e with
  | error e => cases he
  | panic => exact Tenure.avoids_parseValue _ _ _ _ _ _

abbrev Sound (fields : Tenure.ParsedFields) : Prop :=
  Tenure.Parsed applyEnvelopeFieldCount validFieldLength fields.values

theorem parseApplyFrame_ok {frame : Bytes} {fields : Tenure.ParsedFields} (h : parseApplyFrame frame = .ok fields) :
    Sound fields := Tenure.parseValue_ok (wrapErr_ok.1 h)

section Sound

variable {fields : Tenure.ParsedFields} (h : Sound fields) {tag : Nat}
include h

theorem get_sound (hfirst : 1 ≤ tag) (hlast : tag ≤ applyEnvelopeFieldCount) :
    ∃ v, get fields tag = .ok v ∧ validFieldLength tag v.length = true := by
  have hlt : tag - 1 < fields.values.length := by
    have := h.complete
    omega
  have hvalid := h.lengths (tag - 1) _ (List.getElem?_eq_getElem hlt)
  rw [Nat.sub_add_cancel hfirst] at hvalid
  exact ⟨_, get_of (List.getElem?_eq_getElem hlt), hvalid⟩

theorem avoids_get {k : Bytes → Res β} (htag : 1 ≤ tag ∧ tag ≤ applyEnvelopeFieldCount) (hk : ∀ v, Avoids .panic (k v)) :
    Avoids .panic (get fields tag >>= k) := by
  obtain ⟨v, hv, _⟩ := get_sound h htag.1 htag.2
  exact avoids_bind (avoids_of_ok hv) fun v _ => hk v

variable {tags : List Nat} {width : Nat}

theorem get_width (hbounds : ∀ t ∈ tags, 1 ≤ t ∧ t ≤ applyEnvelopeFieldCount)
    (hwidths : ∀ t ∈ tags, ∀ n, validFieldLength t n = true → n = width) (htag : tag ∈ tags) :
    ∃ v, get fields tag = .ok v ∧ v.length = width := by
  obtain ⟨v, hv, hlength⟩ := get_sound h (hbounds tag htag).1 (hbounds tag htag).2
  exact ⟨v, hv, hwidths tag htag _ hlength⟩

theorem avoids_fieldArray (hbounds : ∀ t ∈ tags, 1 ≤ t ∧ t ≤ applyEnvelopeFieldCount)
    (hwidths : ∀ t ∈ tags, ∀ n, validFieldLength t n = true → n = width) (htag : tag ∈ tags) :
    Avoids .panic (fieldArray width fields tag) := by
  obtain ⟨v, hv, hlength⟩ := get_width h hbounds hwidths htag
  exact avoids_of_ok (ok_bind hv (dif_pos hlength))

theorem avoids_fieldRef16 {k : Ref16 → Res β} (htag : tag ∈ [2, 3, 4, 9, 11, 12, 15, 16, 24, 27, 28, 32, 33])
    (hk : ∀ v, Avoids .panic (k v)) : Avoids .panic (fieldRef16 fields tag >>= k) :=
  avoids_bind (avoids_bind (avoids_fieldArray h (by decide) (by simp [validFieldLength]) htag) fun _ _ =>
    avoids_of_ok rfl) fun v _ => hk v

theorem avoids_fieldDigest32 {k : Digest32 → Res β} (htag : tag ∈ [6, 7, 8, 21, 23, 25])
    (hk : ∀ v, Avoids .panic (k v)) : Avoids .panic (fieldDigest32 fields tag >>= k) :=
  avoids_bind (avoids_bind (avoids_fieldArray h (by decide) (by simp [validFieldLength]) htag) fun _ _ =>
    avoids_of_ok rfl) fun v _ => hk v

theorem avoids_fieldU64 {k : UInt64 → Res β} (htag : tag ∈ [5, 10, 17, 18, 29, 30, 31])
    (hk : ∀ v, Avoids .panic (k v)) : Avoids .panic (fieldU64 fields tag >>= k) :=
  avoids_bind (avoids_bind (avoids_fieldArray h (by decide) (by simp [validFieldLength]) htag) fun _ _ =>
    avoids_of_ok rfl) fun v _ => hk v

theorem avoids_fieldU16 {k : UInt16 → Res β} (htag : tag ∈ [1, 13, 14, 22, 26, 34, 35])
    (hk : ∀ v, Avoids .panic (k v)) : Avoids .panic (fieldU16 fields tag >>= k) := by
  obtain ⟨v, hv, hlength⟩ : ∃ v, get fields tag = .ok v ∧ v.length = 2 :=
    get_width h (by decide) (by simp [validFieldLength]) htag
  exact avoids_bind (avoids_of_ok (ok_bind hv (if_pos hlength.ge))) fun v _ => hk v

end Sound

theorem avoids_refusal {ε : Type} {into : ε → Fault} {x : Except ε α} (h : ∀ e, into e ≠ .panic) :
    Avoids .panic (wrapErr into x) := avoids_wrapErr fun e he => (h e he).elim

theorem avoids_mapped {ε : Type} {x : Except ε α} (e : WireError) : Avoids .panic (mapErr x (Fault.error e)) := by
  cases x <;> simp [Avoids, mapErr]

theorem avoids_reject {p : Prop} [Decidable p] {e : WireError} {k : Unit → Res β} (hk : Avoids .panic (k ())) :
    Avoids .panic (rejectIf p (Fault.error e) >>= k) := avoids_bind (avoids_rejectIf p nofun) fun _ _ => hk

theorem envelopeWireError_ne (e : EnvelopeContractError) : envelopeWireError e ≠ .panic := by
  cases e <;> nofun

theorem temporalWireError_ne (e : TemporalContractError) : temporalWireError e ≠ .panic := by
  cases e <;> nofun

/-- **No frame makes the decoder panic**: each index and each conversion is within what the parser checked. -/
theorem RuntimeApplyEnvelope.avoids_decode (frame : Bytes) : Avoids .panic (RuntimeApplyEnvelope.decode sha256 frame) := by
  unfold RuntimeApplyEnvelope.decode
  refine avoids_bind (avoids_parseApplyFrame frame) fun fields hfields => ?_
  have h := parseApplyFrame_ok hfields
  have hslice : Avoids .panic (decodeSlice sha256 fields) := by
    refine avoids_fieldU16 h (by decide) fun _ => avoids_reject ?_
    iterate 2 refine avoids_fieldRef16 h (by decide) fun _ => ?_
    refine avoids_fieldU64 h (by decide) fun _ => avoids_fieldDigest32 h (by decide) fun _ => ?_
    refine avoids_fieldRef16 h (by decide) fun _ => avoids_fieldDigest32 h (by decide) fun _ => ?_
    exact avoids_bind (avoids_mapped _) fun _ _ => avoids_get h (by decide) fun _ => avoids_reject <| avoids_of_ok rfl
  have hwriter : Avoids .panic (decodeWriter sha256 fields) := by
    refine avoids_fieldU16 h (by decide) fun _ => avoids_bind (avoids_refusal nofun) fun _ _ => ?_
    iterate 2 refine avoids_fieldRef16 h (by decide) fun _ => ?_
    refine avoids_fieldU16 h (by decide) fun _ => avoids_bind (avoids_refusal nofun) fun _ _ => ?_
    iterate 2 refine avoids_fieldRef16 h (by decide) fun _ => ?_
    iterate 2 refine avoids_fieldU64 h (by decide) fun _ => ?_
    refine avoids_bind (avoids_refusal nofun) fun _ _ => avoids_get h (by decide) fun _ => ?_
    refine avoids_get h (by decide) fun _ => avoids_bind (avoids_refusal nofun) fun _ _ => ?_
    refine avoids_bind (avoids_mapped _) fun _ _ => avoids_get h (by decide) fun _ => avoids_reject ?_
    exact avoids_fieldRef16 h (by decide) fun _ => avoids_fieldU64 h (by decide) fun _ => avoids_refusal nofun
  have hexpected : Avoids .panic (decodeExpectedActive fields) := by
    refine avoids_fieldDigest32 h (by decide) fun digest => avoids_fieldU16 h (by decide) fun t => ?_
    by_cases hnone : t = 0 ∧ digest.asBytes = List.replicate 32 0
    · rw [if_pos hnone]
      exact avoids_of_ok rfl
    · rw [if_neg hnone]
      by_cases hone : t = 1
      · rw [if_pos hone]
        exact avoids_of_ok rfl
      · rw [if_neg hone]
        nofun
  have htemporal : Avoids .panic (decodeTemporal fields) := by
    refine avoids_fieldU64 h (by decide) fun _ => avoids_bind (avoids_mapped _) fun _ _ => ?_
    refine avoids_fieldU16 h (by decide) fun _ => ?_
    iterate 2 refine avoids_fieldRef16 h (by decide) fun _ => ?_
    iterate 2 refine avoids_fieldU64 h (by decide) fun _ => ?_
    exact avoids_refusal temporalWireError_ne
  have hclaim : Avoids .panic (decodeClaim fields) := by
    refine avoids_fieldU16 h (by decide) fun _ => avoids_bind (avoids_refusal nofun) fun _ _ => ?_
    iterate 2 refine avoids_fieldRef16 h (by decide) fun _ => ?_
    exact avoids_fieldU16 h (by decide) fun _ => avoids_get h (by decide) fun _ => avoids_refusal nofun
  refine avoids_bind hslice fun _ _ => avoids_bind hwriter fun _ _ => avoids_bind hexpected fun _ _ => ?_
  refine avoids_fieldRef16 h (by decide) fun _ => avoids_bind (avoids_refusal nofun) fun _ _ => ?_
  refine avoids_get h (by decide) fun _ => avoids_reject ?_
  refine avoids_bind htemporal fun _ _ => avoids_bind hclaim fun _ _ => ?_
  refine avoids_bind (avoids_refusal envelopeWireError_ne) fun _ _ => avoids_get h (by decide) fun _ => ?_
  exact avoids_bind (avoids_refusal envelopeWireError_ne) fun _ _ => avoids_reject <| avoids_of_ok rfl

/-! ## What the signed bytes determine -/

theorem PlanWriterContext.ext' {w w' : PlanWriterContext} (h : w.proof = w'.proof) : w = w' := by
  obtain ⟨writer, epoch, proof, routed, fenced⟩ := w
  obtain ⟨writer', epoch', proof', routed', fenced'⟩ := w'
  cases h
  subst routed fenced routed' fenced'
  rfl

theorem expectedTag_inj {a b : ExpectedActive}
    (h : bytesBE 2 (ApplyState.expectedTag a).1 = bytesBE 2 (ApplyState.expectedTag b).1)
    (h' : (ApplyState.expectedTag a).2.asBytes = (ApplyState.expectedTag b).2.asBytes) : a = b := by
  cases a with
  | none =>
    cases b with
    | none => rfl
    | «exact» d =>
      have hne : bytesBE 2 0 ≠ bytesBE 2 1 := by decide
      exact absurd h hne
  | «exact» d =>
    cases b with
    | none =>
      have hne : bytesBE 2 1 ≠ bytesBE 2 0 := by decide
      exact absurd h hne
    | «exact» d' => exact congrArg ExpectedActive.exact (Digest32.asBytes_inj h')

theorem values_inj {c c' : RuntimeApplyControlCommitment} {t t' : ApplyTemporalConstraint} {a a' : ApplyRequestAuthClaim}
    (h : values sha256 c t a = values sha256 c' t' a') : c = c' ∧ t = t' ∧ a = a' := by
  obtain ⟨⟨⟨target, ⟨scope, plan, revision, planDigest⟩, assignment⟩, targetSlice⟩, ⟨writer, expected, operation⟩,
    commitment⟩ := c
  obtain ⟨⟨⟨target', ⟨scope', plan', revision', planDigest'⟩, assignment'⟩, targetSlice'⟩, ⟨writer', expected', operation'⟩,
    commitment'⟩ := c'
  obtain ⟨constraint, domain, ⟨generation, hgeneration⟩, original, remaining, hbudgeted, hremains⟩ := t
  obtain ⟨constraint', domain', ⟨generation', hgeneration'⟩, original', remaining', hbudgeted', hremains'⟩ := t'
  obtain ⟨principal, key, ⟨algorithm, halgorithm⟩, version, nonce, hversioned, hfresh, hbounded⟩ := a
  obtain ⟨principal', key', ⟨algorithm', halgorithm'⟩, version', nonce', hversioned', hfresh', hbounded'⟩ := a'
  simp only [values, applyFieldList, List.cons.injEq, and_true, true_and] at h
  obtain ⟨h2, h3, h4, h5, h6, h7, h8, h9, h10, h11, h12, h13, h14, h15, h16, h17, h18, h19, h20, h21, h22, h23, h24, h25,
    h27, h28, h29, h30, h31, h32, h33, h34, h35, h36⟩ := h
  have hauthority := Tenure.TenureProofAuthority.ext' (Ref16.asBytes_inj h11) (Ref16.asBytes_inj h12) (Tenure.u16_inj h13)
    (Tenure.u16_inj h14)
  have hclaim := Tenure.WriterTenureClaim.ext' (Ref16.asBytes_inj h15) (Ref16.asBytes_inj h16) (Tenure.u64_inj h17)
    (Tenure.u64_inj h18)
  have hwriter : writer = writer' := by
    refine PlanWriterContext.ext' ?_
    obtain ⟨_, _, ⟨_, _, _, _, _, _, _, _⟩, _, _⟩ := writer
    obtain ⟨_, _, ⟨_, _, _, _, _, _, _, _⟩, _, _⟩ := writer'
    cases hauthority
    cases hclaim
    cases h19
    cases h20
    rfl
  obtain rfl := expectedTag_inj h22 h23
  obtain rfl := Ref16.asBytes_inj h2
  obtain rfl := Ref16.asBytes_inj h3
  obtain rfl := Ref16.asBytes_inj h4
  obtain rfl := Tenure.u64_inj h5
  obtain rfl := Digest32.asBytes_inj h6
  obtain rfl := Digest32.asBytes_inj h7
  obtain rfl := Digest32.asBytes_inj h8
  obtain rfl := Ref16.asBytes_inj h24
  obtain rfl := Digest32.asBytes_inj h25
  obtain rfl := Ref16.asBytes_inj h27
  obtain rfl := Ref16.asBytes_inj h28
  obtain rfl := Tenure.u64_inj h29
  obtain rfl := Tenure.u64_inj h30
  obtain rfl := Tenure.u64_inj h31
  obtain rfl := Ref16.asBytes_inj h32
  obtain rfl := Ref16.asBytes_inj h33
  obtain rfl := Tenure.u16_inj h34
  obtain rfl := Tenure.u16_inj h35
  obtain rfl := h36
  obtain rfl := hwriter
  exact ⟨rfl, rfl, rfl⟩

theorem fits_of_lengths {validLength : Nat → Nat → Bool} : ∀ {n : Nat} {vs : List Bytes},
    Tenure.Lengths validLength n vs → ∀ v ∈ vs, Fits v
  | _, [], _ => nofun
  | _, _ :: _, h => List.forall_mem_cons.2 ⟨h.2.1, fits_of_lengths h.2.2⟩

theorem values_fit (v : Bytes) (hv : v ∈ values sha256 c temporal authentication.claim) : Fits v :=
  fits_of_lengths (valid_lengths sha256 c temporal authentication) v (List.mem_append_left _ hv)

def transcriptHeader : Bytes :=
  [Tenure.signingTranscriptMagic, bytesBE 2 applyRequestSigningTranscriptVersion,
    bytesBE 2 applyAuthSigningDomain.length, applyAuthSigningDomain, bytesBE 2 applyAuthSigningFieldCount].flatten

def transcript (claim : ApplyRequestAuthClaim) : Bytes := transcriptHeader ++ tlvs 0 (values sha256 c temporal claim)

theorem transcript_length (claim : ApplyRequestAuthClaim) : (transcript sha256 c temporal claim).length =
    90 + 6 * 36 + (470 + c.control.writerContext.proof.nonce.length + c.control.writerContext.proof.signature.length
      + claim.nonce.length) := by
  have hheader : transcriptHeader.length = 90 := by decide
  have hcount : (values sha256 c temporal claim).length = 36 := rfl
  rw [transcript, List.length_append, hheader, tlvs_length, values_lengths, hcount]
  simp only [List.sum_cons, List.sum_nil]
  clear hheader hcount
  omega

theorem transcript_length_le (claim : ApplyRequestAuthClaim) :
    (transcript sha256 c temporal claim).length ≤ maxRuntimeApplyEnvelopeBytes := by
  have hnonce := c.control.writerContext.proof.nonceBounded
  have hsignature := c.control.writerContext.proof.signatureBounded
  have hauth := claim.bounded
  simp only [Tenure.maxTenureNonceBytes, Tenure.maxTenureSignatureBytes, maxApplyAuthNonceBytes] at hnonce hsignature hauth
  rw [transcript_length, maxRuntimeApplyEnvelopeBytes]
  omega

theorem signingTranscript_eq (e : RuntimeApplyEnvelope) :
    e.signingTranscript sha256 = .ok (transcript sha256 e.controlCommitment e.temporal e.authentication.claim) := by
  have hroom := transcript_length_le sha256 e.controlCommitment e.temporal e.authentication.claim
  unfold RuntimeApplyEnvelope.signingTranscript buildApplySigningTranscript
  exact ok_bind (applyFieldValues_eq ..) <| ok_check (not_lt.2 hroom) rfl

theorem wire_inj {c c' : RuntimeApplyControlCommitment} {t t' : ApplyTemporalConstraint} {a a' : ApplyRequestAuthentication}
    (h : wire sha256 c t a = wire sha256 c' t' a') : c = c' ∧ t = t' ∧ a = a' := by
  have hvalues := tlvs_inj (fits_of_lengths (valid_lengths sha256 c t a)) (fits_of_lengths (valid_lengths sha256 c' t' a'))
    rfl (List.append_cancel_left h)
  obtain ⟨hfields, hsignature⟩ := List.append_inj hvalues rfl
  obtain ⟨hc, ht, hclaim⟩ := values_inj sha256 hfields
  refine ⟨hc, ht, ?_⟩
  obtain ⟨_, _, _, _⟩ := a
  obtain ⟨_, _, _, _⟩ := a'
  cases hclaim
  cases hsignature
  rfl

theorem RuntimeApplyEnvelope.Built.wire_length {sha256 : Sha256} {e : RuntimeApplyEnvelope} (h : e.Built sha256) :
    e.canonicalWire.length ≤ maxRuntimeApplyEnvelopeBytes := by
  obtain ⟨c, temporal, authentication, hnew⟩ := h
  obtain ⟨_, rfl⟩ := (RuntimeApplyEnvelope.tryNew_ok ..).1 hnew
  exact wire_length_le sha256 c temporal authentication

/-- **The signed apply envelope has one encoding and one meaning.**  A built envelope is decoded from its wire; an accepted
frame is the wire of the envelope it gives; no frame makes the decoder panic; no envelope is too large for a frame; every
envelope has a signing transcript, which determines all but the signature; and the bytes under the request digest determine
the envelope. -/
theorem apply_envelope_exact (sha256 : Sha256) :
    (∀ e : RuntimeApplyEnvelope, e.Built sha256 → RuntimeApplyEnvelope.decode sha256 e.canonicalWire = .ok e) ∧
    (∀ frame e, RuntimeApplyEnvelope.decode sha256 frame = .ok e → e.Built sha256 ∧ e.canonicalWire = frame) ∧
    (∀ frame, RuntimeApplyEnvelope.decode sha256 frame ≠ .error .panic) ∧
    (∀ c temporal authentication, RuntimeApplyEnvelope.tryNew sha256 c temporal authentication ≠ .error .frameTooLarge) ∧
    (∀ e : RuntimeApplyEnvelope, e.Built sha256 → e.canonicalWire.length ≤ maxRuntimeApplyEnvelopeBytes) ∧
    (∀ e : RuntimeApplyEnvelope, ∃ t, e.signingTranscript sha256 = .ok t) ∧
    (∀ e e' : RuntimeApplyEnvelope, e.Built sha256 → e'.Built sha256 →
      e.signingTranscript sha256 = e'.signingTranscript sha256 →
        e.controlCommitment = e'.controlCommitment ∧ e.temporal = e'.temporal ∧
          e.authentication.claim = e'.authentication.claim) ∧
    (∀ e : RuntimeApplyEnvelope, e.Built sha256 →
      e.requestDigest = sha256 (digestInput applyEnvelopeRequestDigestDomain [e.canonicalWire])) ∧
    (∀ e e' : RuntimeApplyEnvelope, e.Built sha256 → e'.Built sha256 →
      digestInput applyEnvelopeRequestDigestDomain [e.canonicalWire] =
        digestInput applyEnvelopeRequestDigestDomain [e'.canonicalWire] → e = e') := by
  refine ⟨fun e h => h.decode, fun frame e h => RuntimeApplyEnvelope.decode_ok h,
    RuntimeApplyEnvelope.avoids_decode sha256, RuntimeApplyEnvelope.tryNew_fits sha256, ?_,
    fun e => ⟨_, signingTranscript_eq sha256 e⟩, ?_, ?_, ?_⟩
  · exact fun e h => h.wire_length
  · intro e e' _ _ h
    rw [signingTranscript_eq, signingTranscript_eq, Except.ok.injEq] at h
    refine values_inj sha256 (tlvs_inj ?_ ?_ rfl (List.append_cancel_left h))
    · exact values_fit sha256 e.controlCommitment e.temporal e.authentication
    · exact values_fit sha256 e'.controlCommitment e'.temporal e'.authentication
  · rintro e ⟨c, temporal, authentication, hnew⟩
    obtain ⟨_, rfl⟩ := (RuntimeApplyEnvelope.tryNew_ok ..).1 hnew
    rfl
  · rintro e e' ⟨c, temporal, authentication, hnew⟩ ⟨c', temporal', authentication', hnew'⟩ h
    obtain ⟨_, rfl⟩ := (RuntimeApplyEnvelope.tryNew_ok ..).1 hnew
    obtain ⟨_, rfl⟩ := (RuntimeApplyEnvelope.tryNew_ok ..).1 hnew'
    obtain ⟨rfl, rfl, rfl⟩ := wire_inj sha256 (digestInput_inj h)
    rfl

def sampleCommitment : RuntimeApplyControlCommitment where
  slice := ⟨⟨.ofNat 1, ⟨.ofNat 2, .ofNat 3, 1, .ofNat 4⟩, .ofNat 5⟩, 0⟩
  control :=
    { writerContext :=
        { writer := .ofNat 6
          epoch := 1
          proof :=
            { authority := ⟨.ofNat 7, .ofNat 8, ⟨1, one16⟩, 1, one16⟩
              claim := ⟨.ofNat 2, .ofNat 6, 1, 0, one64, zero_lt_one64⟩
              nonce := [1]
              signature := [2]
              fresh := by decide
              nonceBounded := by decide
              signed := by decide
              signatureBounded := by decide }
          routed := rfl
          fenced := rfl }
      expectedActive := .none
      operationId := .ofNat 9 }
  commitmentDigest := 0

def sampleTemporal : ApplyTemporalConstraint := ⟨.ofNat 10, .ofNat 11, ⟨1, one64⟩, 5, 4, by decide, by decide⟩

def sampleAuthentication : ApplyRequestAuthentication :=
  ⟨⟨.ofNat 12, .ofNat 13, ⟨1, one16⟩, 1, [3], one16, by decide, by decide⟩, [4], by decide, by decide⟩

theorem apply_envelope_exact_sample :
    (envelope (fun _ => 0) sampleCommitment sampleTemporal sampleAuthentication).Built (fun _ => 0) ∧
      RuntimeApplyEnvelope.decode (fun _ => 0)
          (envelope (fun _ => 0) sampleCommitment sampleTemporal sampleAuthentication).canonicalWire =
        .ok (envelope (fun _ => 0) sampleCommitment sampleTemporal sampleAuthentication) := by
  have hvalid : sampleCommitment.validate (fun _ => 0) = .ok () := by decide +kernel
  have hbuilt : (envelope (fun _ => 0) sampleCommitment sampleTemporal sampleAuthentication).Built (fun _ => 0) :=
    ⟨_, _, _, (RuntimeApplyEnvelope.tryNew_ok ..).2 ⟨hvalid, rfl⟩⟩
  exact ⟨hbuilt, (apply_envelope_exact fun _ => 0).1 _ hbuilt⟩

/-! ## The envelope that is admitted -/

variable {sha256}

def flatProof (p : Tenure.WriterTenureProof) : WriterTenureProof :=
  ⟨p.authority.authority, p.authority.key, p.authority.algorithm.value.toNat, p.authority.algorithmVersion.toNat,
    p.claim.sourceScope, p.claim.writer, p.claim.epoch.toNat, p.claim.supersedesThroughEpoch.toNat, p.nonce, p.signature,
    fun h => p.claim.started (UInt64.toNat_inj.1 h), UInt64.lt_iff_toNat_lt.1 p.claim.supersedes⟩

def flatSlice (s : RuntimeSliceCommitment) : ApplyState.RuntimeSliceCommitment :=
  let provenance := s.header.provenance
  ⟨⟨s.header.target, ⟨provenance.sourceScope, provenance.sourcePlan, provenance.sourceRevision.toNat,
    provenance.sourcePlanDigest⟩, s.header.assignmentDigest⟩, s.targetSliceDigest⟩

def flatCommitment (c : RuntimeApplyControlCommitment) : ApplyState.RuntimeApplyControlCommitment :=
  ⟨flatSlice c.slice, ⟨flatProof c.control.writerContext.proof, c.control.expectedActive, c.control.operationId⟩,
    c.commitmentDigest⟩

/-- What the admission reads of an envelope, with numbers for its words. -/
def RuntimeApplyEnvelope.flat (e : RuntimeApplyEnvelope) : Admission.RuntimeApplyEnvelope :=
  let claim := e.authentication.claim
  { controlCommitment := flatCommitment e.controlCommitment
    temporal := ⟨e.temporal.constraintId, e.temporal.targetClockDomain, e.temporal.targetClockGeneration.value.toNat,
      e.temporal.originalBudget.toNat, e.temporal.remainingBudget.toNat⟩
    claim := ⟨claim.principal, claim.key, claim.algorithm.value.toNat, claim.algorithmVersion.toNat, claim.nonce⟩
    signature := e.authentication.signature
    canonicalWire := e.canonicalWire
    requestDigest := e.requestDigest }

theorem flatProof_envelopeDigest (p : Tenure.WriterTenureProof) :
    (flatProof p).envelopeDigest sha256 = p.envelopeDigest sha256 := rfl

theorem applyFields_flat (e : RuntimeApplyEnvelope) :
    applyFields sha256 e.flat.controlCommitment e.flat.temporal e.flat.claim =
      .ok (values sha256 e.controlCommitment e.temporal e.authentication.claim) := by
  obtain ⟨⟨slice, ⟨⟨_, _, proof, rfl, rfl⟩, active, operation⟩, digest⟩, temporal, authentication, wire, requestDigest⟩ := e
  have hproof := (flatProof_envelopeDigest proof).trans (proof.envelopeDigest_ok sha256)
  exact ok_bind (wrapErr_ok.2 hproof) rfl

theorem validate_flat {c : RuntimeApplyControlCommitment} (h : c.validate sha256 = .ok ()) :
    ApplyState.RuntimeApplyControlCommitment.validate sha256 (flatCommitment c) = .ok () := by
  obtain ⟨slice, ⟨⟨_, _, proof, rfl, rfl⟩, active, operation⟩, digest⟩ := c
  simp only [RuntimeApplyControlCommitment.validate, RuntimeSliceCommitment.validate, RuntimeSliceCommitment.tryNew,
    ensureWriterScopeMatches, controlCommitmentDigest, bind_ok, exists_unit, wrapErr_ok, rejectIf_ok, not_not, ne_eq,
    pure_ok] at h
  obtain ⟨⟨_, ⟨d, hslice, rfl⟩, hsame⟩, hscope, d', ⟨d'', hproof, hcontrol⟩, hsame'⟩ := h
  have hcommitted : (flatSlice slice).validate sha256 = .ok () :=
    ok_bind (wrapErr_ok.2 hslice) (rejectIf_neg (not_not.2 hsame))
  exact ok_bind (wrapErr_ok.2 hcommitted) <| ok_check (not_not.2 hscope) <|
    ok_bind (ok_bind (wrapErr_ok.2 ((flatProof_envelopeDigest proof).trans hproof)) (wrapErr_ok.2 hcontrol))
      (rejectIf_neg (not_not.2 hsame'))

/-- **The envelope that is admitted is the one that travels**: its constructor gives it the same bytes and digest, and the
bytes under its signature are the same. -/
theorem RuntimeApplyEnvelope.Built.flat {e : RuntimeApplyEnvelope} (h : e.Built sha256) :
    Admission.RuntimeApplyEnvelope.tryNew sha256 e.flat.controlCommitment e.flat.temporal e.flat.claim e.flat.signature =
        .ok e.flat ∧
      ∃ t, e.signingTranscript sha256 = .ok t ∧
        applySigningTranscript sha256 e.flat.controlCommitment e.flat.temporal e.flat.claim = .ok t := by
  obtain ⟨c, temporal, authentication, hnew⟩ := h
  obtain ⟨hvalid, rfl⟩ := (RuntimeApplyEnvelope.tryNew_ok ..).1 hnew
  have hroom := wire_length_le sha256 c temporal authentication
  have hbound := transcript_length_le sha256 c temporal authentication.claim
  refine ⟨ok_bind (wrapErr_ok.2 (validate_flat hvalid)) <| ok_bind (applyFields_flat _) <| ok_check (not_lt.2 hroom) <|
    ok_bind (wrapErr_ok.2 (requestDigest_ok ..)) rfl, _, signingTranscript_eq .., ?_⟩
  exact ok_bind (applyFields_flat _) <| ok_check (not_lt.2 hbound) rfl

end Envelope
end ParaEgox
