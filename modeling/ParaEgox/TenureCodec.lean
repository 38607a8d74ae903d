import ParaEgox.TenureProtocol

/-!
# TenureCodec — the acquire-tenure wire format is exact

The shared parser reads back what the encoders write and never leaves its input, so that no decoder panics.  Round trips,
the binding of a response to its request, and the transcripts follow from it.
-/
namespace ParaEgox
namespace Tenure

open Check Tlv

/-! ## Slices and numbers -/

theorem slice_append (before mid after : Bytes) {first last : Nat} (hfirst : first = before.length)
    (hlast : last = before.length + mid.length) : slice (before ++ (mid ++ after)) first last = .ok mid := by
  subst hfirst hlast
  have hroom : before.length ≤ before.length + mid.length ∧
      before.length + mid.length ≤ (before ++ (mid ++ after)).length := by
    simp only [List.length_append]
    omega
  rw [slice, if_pos hroom, List.drop_left, Nat.add_sub_cancel_left, List.take_left]

variable {count first last width : Nat} {validLength : Nat → Nat → Bool} {bytes : Bytes} {sha256 : Sha256}
  {r request : AcquireTenureRequestV1} {v : AcquireTenureResponseV1} {kind : AcquireTenureFrameKind}

theorem readBE_bytesBE {n : Nat} (h : n < 256 ^ width) : readBE width (bytesBE width n) = .ok n := by
  rw [readBE, if_pos (le_of_eq (bytesBE_length width n).symm), List.take_of_length_le (le_of_eq (bytesBE_length width n)),
    fromBE_bytesBE h]

theorem readRef16_asBytes {r : Ref16} {tag : Nat} : readRef16 r.asBytes tag = .ok r := by
  have harray : readArray 16 r.asBytes tag = .ok ⟨r.asBytes, r.asBytes_length⟩ := dif_pos r.asBytes_length
  refine ok_bind harray ?_
  rw [Ref16.fromBytes_asBytes]
  rfl

theorem readDigest32_asBytes {d : Digest32} {tag : Nat} : readDigest32 d.asBytes tag = .ok d := by
  have harray : readArray 32 d.asBytes tag = .ok ⟨d.asBytes, d.asBytes_length⟩ := dif_pos d.asBytes_length
  refine ok_bind harray ?_
  rw [Digest32.fromBytes_asBytes]
  rfl

/-! ## The parser reads what the encoders write -/

/-- The values have the lengths the table gives their tags, which follow `n`. -/
def Lengths (validLength : Nat → Nat → Bool) : Nat → List Bytes → Prop
  | _, [] => True
  | n, v :: vs => validLength (n + 1) v.length = true ∧ Fits v ∧ Lengths validLength (n + 1) vs

theorem parseFields_tlvs (hcount : count < 2 ^ 16) :
    ∀ (vs : List Bytes) (before : Bytes) (index : Nat) (values : List Bytes), index + vs.length ≤ count →
      Lengths validLength index vs → (before ++ tlvs index vs).length ≤ u64Max →
      parseFields (before ++ tlvs index vs) count validLength vs.length index before.length values =
        .ok (values ++ vs, (before ++ tlvs index vs).length)
  | [], before, index, values, _, _, _ => by simp [parseFields, tlvs]
  | v :: vs, before, index, values, hroom, hlengths, hsize => by
    obtain ⟨hvalid, hfits, hrest⟩ := hlengths
    have hbytes : before ++ tlvs index (v :: vs) = (before ++ tlv (index + 1) v) ++ tlvs (index + 1) vs := by
      simp [tlvs]
    have hlength : (before ++ tlvs index (v :: vs)).length =
        before.length + 6 + v.length + (tlvs (index + 1) vs).length := by
      rw [hbytes]
      simp only [List.length_append, tlv_length]
      omega
    simp only [List.length_cons] at hroom
    have htag : index + 1 < 256 ^ 2 := lt_of_le_of_lt (by omega) hcount
    have hvalue : v.length < 256 ^ 4 := lt_of_lt_of_eq hfits (by decide)
    -- The three places of one field: its tag, its length, its bytes.
    have hparts : before ++ tlvs index (v :: vs) =
        before ++ (bytesBE 2 (index + 1) ++ (bytesBE 4 v.length ++ (v ++ tlvs (index + 1) vs))) := by
      simp [tlvs, tlv]
    have hslice1 : slice _ before.length (before.length + 2) = .ok _ :=
      slice_append before (bytesBE 2 (index + 1)) (bytesBE 4 v.length ++ (v ++ tlvs (index + 1) vs)) rfl (by simp)
    have hslice2 : slice _ (before.length + 2) (before.length + 6) = .ok _ :=
      slice_append (before ++ bytesBE 2 (index + 1)) (bytesBE 4 v.length) (v ++ tlvs (index + 1) vs) (by simp) (by simp)
    have hslice3 : slice _ (before.length + 6) (before.length + 6 + v.length) = .ok _ :=
      slice_append (before ++ (bytesBE 2 (index + 1) ++ bytesBE 4 v.length)) v (tlvs (index + 1) vs) (by simp) (by simp)
    simp only [List.append_assoc] at hslice2 hslice3
    rw [← hparts] at hslice1 hslice2 hslice3
    have hnext := parseFields_tlvs hcount vs (before ++ tlv (index + 1) v) (index + 1) (values ++ [v]) (by omega) hrest
      (by rw [← hbytes]; exact hsize)
    rw [← hbytes, List.append_assoc, List.length_append, tlv_length, ← Nat.add_assoc] at hnext
    rw [List.length_cons]
    unfold parseFields
    refine ok_bind (addU64_ok.2 ⟨?_, rfl⟩) <| ok_check ?_ <| ok_bind hslice1 <|
      ok_bind (readBE_bytesBE htag) <| ok_bind hslice2 <| ok_bind (readBE_bytesBE hvalue) <|
      ok_check ?_ <| ok_check (lt_irrefl _) <|
      ok_check (lt_irrefl _) <| ok_check ?_ <|
      ok_bind (addU64_ok.2 ⟨?_, rfl⟩) <| ok_check ?_ <| ok_bind hslice3 ?_
    · rw [hlength] at hsize
      simp only [tlvHeaderBytes]
      omega
    · rw [hlength]
      simp only [tlvHeaderBytes]
      omega
    · omega
    · simp [hvalid]
    · rw [hlength] at hsize
      simp only [tlvHeaderBytes]
      omega
    · rw [hlength]
      simp only [tlvHeaderBytes]
      omega
    · simpa [tlvHeaderBytes] using hnext

/-- **The parser reads back a message**: its magic, version and count, and then its fields. -/
theorem parseValue_tlvs {magic : Bytes} {version maximum : Nat} {vs : List Bytes}
    (hversion : version < 2 ^ 16) (hcount : vs.length < 2 ^ 16) (hlengths : Lengths validLength 0 vs)
    (hsize : (valueHeader magic version vs.length ++ tlvs 0 vs).length ≤ maximum) (hmax : maximum ≤ u64Max) :
    parseValue (valueHeader magic version vs.length ++ tlvs 0 vs) magic version vs.length maximum validLength =
      .ok ⟨vs⟩ := by
  have hparts : valueHeader magic version vs.length ++ tlvs 0 vs =
      [] ++ (magic ++ (bytesBE 2 version ++ (bytesBE 2 vs.length ++ tlvs 0 vs))) := by simp [valueHeader]
  have hslice1 : slice _ 0 magic.length = .ok _ :=
    slice_append [] magic (bytesBE 2 version ++ (bytesBE 2 vs.length ++ tlvs 0 vs)) rfl (by simp)
  have hslice2 : slice _ magic.length (magic.length + 2) = .ok _ :=
    slice_append magic (bytesBE 2 version) (bytesBE 2 vs.length ++ tlvs 0 vs) rfl (by simp)
  have hslice3 : slice _ (magic.length + 2) (magic.length + 4) = .ok _ :=
    slice_append (magic ++ bytesBE 2 version) (bytesBE 2 vs.length) (tlvs 0 vs) (by simp) (by simp)
  simp only [List.append_assoc] at hslice3
  rw [← hparts] at hslice1
  rw [List.nil_append] at hparts
  rw [← hparts] at hslice2 hslice3
  have hheader : (valueHeader magic version vs.length).length = magic.length + 4 := by simp [valueHeader]
  have hfields := parseFields_tlvs hcount vs (valueHeader magic version vs.length) 0 [] (Nat.zero_add vs.length).le
    hlengths (hsize.trans hmax)
  rw [hheader] at hfields
  unfold parseValue
  refine ok_check (not_lt.2 hsize) <| ok_check ?_ <| ok_bind hslice1 <|
    ok_check (fun h => h rfl) <| ok_bind hslice2 <| ok_bind (readBE_bytesBE hversion) <|
    ok_check (fun h => h rfl) <| ok_bind hslice3 <| ok_bind (readBE_bytesBE hcount) <|
    ok_bind hfields <| ok_check (lt_irrefl _) <| ok_check (fun h => h rfl) ?_
  · rw [List.length_append, hheader]
    omega
  · rfl

/-! ## Requests -/

def Nonzero (bytes : Bytes) : Prop := bytes.all (· = 0) ≠ true

instance (bytes : Bytes) : Decidable (Nonzero bytes) := inferInstanceAs (Decidable (_ ≠ _))

theorem validateNonzero_ok (bytes : Bytes) (tag : Nat) (u : Unit) : validateNonzero bytes tag = .ok u ↔ Nonzero bytes := by
  rw [validateNonzero, rejectIf_ok]
  rfl

theorem validateNonzero_of (h : Nonzero bytes) (tag : Nat) : validateNonzero bytes tag = .ok () :=
  (validateNonzero_ok bytes tag ()).2 h

/-- The arguments `AcquireTenureRequestDraftV1::try_new` accepts. -/
structure Drafted (intent : AcquireTenureIntentV1) (principal key : Ref16) (fingerprint : Digest32) (nonce : Bytes)
    (bound : UInt32) : Prop where
  scope : Nonzero intent.scope.asBytes
  writer : Nonzero intent.writer.asBytes
  operation : Nonzero intent.operationId.asBytes
  principal : Nonzero principal.asBytes
  key : Nonzero key.asBytes
  fingerprint : Nonzero fingerprint.asBytes
  nonce : 1 ≤ nonce.length ∧ nonce.length ≤ maxAcquireTenureClientNonceBytes
  bound : minAcquireTenureResponsePayloadBytes ≤ bound.toNat ∧ bound.toNat ≤ maxAcquireTenureResponsePayloadBytes

def intentDigestOf (sha256 : Sha256) (i : AcquireTenureIntentV1) : Digest32 :=
  sha256 (digestInput intentDigestDomain [i.scope.asBytes, i.writer.asBytes, i.operationId.asBytes])

theorem AcquireTenureIntentV1.digest_eq (sha256 : Sha256) (i : AcquireTenureIntentV1) :
    i.digest sha256 = .ok (intentDigestOf sha256 i) := by
  refine mapErr_ok.2 ((digest32_ok ..).2 ⟨by decide, by decide, ?_, ?_, rfl⟩)
  · simp
  · simp

/-- **What `try_new` drafts**: its arguments and the intent's digest, whenever they are accepted. -/
theorem AcquireTenureRequestDraftV1.tryNew_ok (sha256 : Sha256) (intent : AcquireTenureIntentV1) (principal key : Ref16)
    (fingerprint : Digest32) (nonce : Bytes) (bound : UInt32) (d : AcquireTenureRequestDraftV1) :
    AcquireTenureRequestDraftV1.tryNew sha256 intent principal key fingerprint nonce bound = .ok d ↔
      Drafted intent principal key fingerprint nonce bound ∧
        d = ⟨intent, principal, key, fingerprint, nonce, bound, intentDigestOf sha256 intent⟩ := by
  simp only [AcquireTenureRequestDraftV1.tryNew, bind_ok, exists_unit, validateNonzero_ok, validateClientNonce,
    validateResponseBound, rejectIf_ok, not_not, AcquireTenureIntentV1.digest_eq, Except.ok.injEq, exists_eq_left',
    pure_ok]
  constructor
  · rintro ⟨h1, h2, h3, h4, h5, h6, h7, h8, rfl⟩
    exact ⟨⟨h1, h2, h3, h4, h5, h6, h7, h8⟩, rfl⟩
  · rintro ⟨h, rfl⟩
    exact ⟨h.scope, h.writer, h.operation, h.principal, h.key, h.fingerprint, h.nonce, h.bound, rfl⟩

def requestValues (d : AcquireTenureRequestDraftV1) : List Bytes :=
  [d.intent.scope.asBytes, d.intent.writer.asBytes, d.intent.operationId.asBytes, d.controllerPrincipal.asBytes,
    d.controllerKey.asBytes, d.controllerPublicKeyFingerprint.asBytes, bytesBE 2 acquireTenureEd25519Algorithm,
    bytesBE 2 acquireTenureEd25519AlgorithmVersion, d.clientNonce, bytesBE 4 d.maxResponsePayloadBytes.toNat,
    d.intentDigest.asBytes]

theorem AcquireTenureRequestDraftV1.unsignedFields_eq (d : AcquireTenureRequestDraftV1) :
    d.unsignedFields = tlvs 0 (requestValues d) := by
  simp [unsignedFields, requestValues, tlvs]

theorem AcquireTenureRequestDraftV1.requestBytes_eq (d : AcquireTenureRequestDraftV1) (signature : Bytes) :
    d.requestBytes signature =
      valueHeader acquireRequestMagic acquireTenureProtocolVersion (requestValues d ++ [signature]).length
        ++ tlvs 0 (requestValues d ++ [signature]) := by
  simp [requestBytes, unsignedFields, requestValues, tlvs, requestFieldCount]

theorem requestBytes_length (d : AcquireTenureRequestDraftV1) {signature : Bytes} (hsignature : signature.length = 64) :
    (d.requestBytes signature).length = 300 + d.clientNonce.length := by
  rw [d.requestBytes_eq, List.length_append, tlvs_length]
  simp [requestValues, valueHeader, hsignature, acquireRequestMagic]
  omega

theorem requestBytes_le (d : AcquireTenureRequestDraftV1) {signature : Bytes} (hsignature : signature.length = 64)
    (hnonce : d.clientNonce.length ≤ maxAcquireTenureClientNonceBytes) :
    (d.requestBytes signature).length ≤ maxAcquireTenureRequestPayloadBytes := by
  rw [requestBytes_length d hsignature]
  have hmax : maxAcquireTenureRequestPayloadBytes = 364 := by decide
  have h64 : maxAcquireTenureClientNonceBytes = 64 := rfl
  omega

def messageDigest (sha256 : Sha256) (domain bytes : Bytes) : Digest32 := sha256 (digestInput domain [bytes])

theorem digestOf_single (sha256 : Sha256) {domain bytes : Bytes} (hdomain : domain ≠ []) (hshort : domain.length < 2 ^ 32)
    (hbytes : bytes.length < 2 ^ 64) : digestOf sha256 domain [bytes] = .ok (messageDigest sha256 domain bytes) :=
  mapErr_ok.2 ((digest32_ok ..).2 ⟨hdomain, hshort, by simp, by simpa using hbytes, rfl⟩)

theorem AcquireTenureRequestDraftV1.finalizeEd25519_ok (sha256 : Sha256) (d : AcquireTenureRequestDraftV1)
    (hnonce : d.clientNonce.length ≤ maxAcquireTenureClientNonceBytes) (signature : Bytes) (r : AcquireTenureRequestV1) :
    d.finalizeEd25519 sha256 signature = .ok r ↔ signature.length = 64 ∧
      r = ⟨d, signature, d.requestBytes signature,
        messageDigest sha256 requestDigestDomain (d.requestBytes signature)⟩ := by
  simp only [finalizeEd25519, validateEd25519Signature, bind_ok, exists_unit, rejectIf_ok, not_not, ne_eq, pure_ok]
  change (signature.length = 64 ∧ _) ↔ _
  refine and_congr_right fun hsignature => ?_
  have hle := requestBytes_le d hsignature hnonce
  have hdigest : digestOf sha256 requestDigestDomain [d.requestBytes signature] = .ok _ :=
    digestOf_single sha256 (by decide) (by decide) (lt_of_le_of_lt hle (by decide))
  rw [hdigest]
  constructor
  · rintro ⟨_, _, hd, rfl⟩
    rw [Except.ok.inj hd]
  · rintro rfl
    exact ⟨not_lt.2 hle, _, rfl, rfl⟩

def AcquireTenureRequestV1.Built (sha256 : Sha256) (r : AcquireTenureRequestV1) : Prop :=
  ∃ intent principal key fingerprint nonce bound signature d,
    AcquireTenureRequestDraftV1.tryNew sha256 intent principal key fingerprint nonce bound = .ok d ∧
      d.finalizeEd25519 sha256 signature = .ok r

theorem AcquireTenureRequestV1.Built.fields (h : r.Built sha256) :
    Drafted r.draft.intent r.draft.controllerPrincipal r.draft.controllerKey r.draft.controllerPublicKeyFingerprint
        r.draft.clientNonce r.draft.maxResponsePayloadBytes ∧
      r.draft.intentDigest = intentDigestOf sha256 r.draft.intent ∧ r.authSignature.length = 64 ∧
      r.canonicalBytes = r.draft.requestBytes r.authSignature ∧
      r.requestDigest = messageDigest sha256 requestDigestDomain r.canonicalBytes := by
  obtain ⟨intent, principal, key, fingerprint, nonce, bound, signature, d, hd, hr⟩ := h
  obtain ⟨hdrafted, rfl⟩ := (AcquireTenureRequestDraftV1.tryNew_ok ..).1 hd
  obtain ⟨hsignature, rfl⟩ := (AcquireTenureRequestDraftV1.finalizeEd25519_ok sha256 _ hdrafted.nonce.2 _ _).1 hr
  exact ⟨hdrafted, rfl, hsignature, rfl, rfl⟩

theorem requestValues_lengths (h : r.Built sha256) :
    Lengths validRequestFieldLength 0 (requestValues r.draft ++ [r.authSignature]) := by
  obtain ⟨hdrafted, _, hsignature, _⟩ := h.fields
  have hnonce := hdrafted.nonce
  have h64 : maxAcquireTenureClientNonceBytes = 64 := rfl
  simp [Lengths, requestValues, validRequestFieldLength, Fits, hsignature, acquireTenureEd25519SignatureBytes]
  omega

theorem AcquireTenureRequestV1.Built.decode (h : r.Built sha256) :
    AcquireTenureRequestV1.decode sha256 r.canonicalBytes = .ok r := by
  obtain ⟨hdrafted, hintent, hsignature, hbytes, hdigest⟩ := h.fields
  have hparse : parseValue r.canonicalBytes acquireRequestMagic acquireTenureProtocolVersion requestFieldCount
      maxAcquireTenureRequestPayloadBytes validRequestFieldLength =
        .ok ⟨requestValues r.draft ++ [r.authSignature]⟩ := by
    have hle := requestBytes_le r.draft hsignature hdrafted.nonce.2
    rw [hbytes, r.draft.requestBytes_eq] at *
    exact parseValue_tlvs (by decide) (Nat.lt_of_sub_eq_succ rfl) (requestValues_lengths h) hle (by decide)
  have hdraft : AcquireTenureRequestDraftV1.tryNew sha256 r.draft.intent r.draft.controllerPrincipal r.draft.controllerKey
      r.draft.controllerPublicKeyFingerprint r.draft.clientNonce r.draft.maxResponsePayloadBytes = .ok r.draft := by
    refine (AcquireTenureRequestDraftV1.tryNew_ok ..).2 ⟨hdrafted, ?_⟩
    rw [← hintent]
  have hfinal : r.draft.finalizeEd25519 sha256 r.authSignature = .ok r := by
    refine (AcquireTenureRequestDraftV1.finalizeEd25519_ok sha256 _ hdrafted.nonce.2 _ _).2 ⟨hsignature, ?_⟩
    rw [← hbytes, ← hdigest]
  have hbound : UInt32.ofNat r.draft.maxResponsePayloadBytes.toNat = r.draft.maxResponsePayloadBytes :=
    UInt32.ofNat_toNat
  unfold AcquireTenureRequestV1.decode
  refine ok_bind hparse ?_
  iterate 5 refine ok_bind rfl <| ok_bind readRef16_asBytes ?_
  refine ok_bind rfl <| ok_bind readDigest32_asBytes <| ok_bind (validateNonzero_of hdrafted.scope _) <|
    ok_bind (validateNonzero_of hdrafted.writer _) <| ok_bind (validateNonzero_of hdrafted.operation _) <|
    ok_bind (validateNonzero_of hdrafted.principal _) <| ok_bind (validateNonzero_of hdrafted.key _) <|
    ok_bind (validateNonzero_of hdrafted.fingerprint _) <| ok_bind rfl <|
    ok_bind (readBE_bytesBE (by decide)) <| ok_check (fun hne => hne rfl) <| ok_bind rfl <|
    ok_bind (readBE_bytesBE (by decide)) <| ok_check (fun hne => hne rfl) <| ok_bind rfl <|
    ok_bind (readBE_bytesBE r.draft.maxResponsePayloadBytes.toNat_lt) <| ok_bind rfl ?_
  rw [hbound]
  exact ok_bind hdraft <| ok_bind rfl <| ok_bind readDigest32_asBytes <|
    ok_check (fun hne => hne rfl) <| ok_bind rfl <| ok_bind hfinal <|
    ok_check (fun hne => hne rfl) rfl

theorem AcquireTenureRequestV1.decode_ok
    (h : AcquireTenureRequestV1.decode sha256 bytes = .ok r) : r.Built sha256 ∧ r.canonicalBytes = bytes := by
  revert r h
  change Returns (AcquireTenureRequestV1.decode sha256 bytes) _
  unfold AcquireTenureRequestV1.decode
  iterate 28 refine returns_bind fun _ _ => ?_
  refine returns_bind fun draft hdraft => ?_
  iterate 4 refine returns_bind fun _ _ => ?_
  refine returns_bind fun request hrequest => returns_bind fun _ hbytes => ?_
  intro r hr
  rw [← pure_ok.1 hr]
  rw [rejectIf_ok, not_not] at hbytes
  exact ⟨⟨_, _, _, _, _, _, _, draft, hdraft, hrequest⟩, hbytes⟩

/-! ## No decoder panics -/

theorem slice_ok {bs : Bytes} (h : slice bytes first last = .ok bs) :
    first ≤ last ∧ last ≤ bytes.length ∧ bs.length = last - first := by
  unfold slice at h
  by_cases hroom : first ≤ last ∧ last ≤ bytes.length
  · rw [if_pos hroom] at h
    obtain rfl := Except.ok.inj h
    rw [List.length_take, List.length_drop]
    omega
  · rw [if_neg hroom] at h
    cases h

theorem avoids_slice (hfirst : first ≤ last) (hlast : last ≤ bytes.length) : Avoids .panic (slice bytes first last) :=
  avoids_of_ok (if_pos ⟨hfirst, hlast⟩)

theorem avoids_readBE (h : width ≤ bytes.length) : Avoids .panic (readBE width bytes) :=
  avoids_of_ok (if_pos h)

theorem avoids_readArray (width : Nat) (bytes : Bytes) (tag : Nat) : Avoids .panic (readArray width bytes tag) := by
  unfold Avoids readArray
  split <;> simp [errAt]

theorem avoids_readRef16 (bytes : Bytes) (tag : Nat) : Avoids .panic (readRef16 bytes tag) :=
  avoids_bind (avoids_readArray 16 bytes tag) fun _ _ => avoids_of_ok rfl

theorem avoids_readDigest32 (bytes : Bytes) (tag : Nat) : Avoids .panic (readDigest32 bytes tag) :=
  avoids_bind (avoids_readArray 32 bytes tag) fun _ _ => avoids_of_ok rfl

theorem avoids_mapErr {ε α : Type} {x : Except ε α} {e : AcquireTenureProtocolError} :
    Avoids .panic (mapErr x (Fault.error e)) := by
  cases x <;> simp [Avoids, mapErr]

theorem avoids_check (p : Prop) [Decidable p] (e : AcquireTenureProtocolError) : Avoids .panic (rejectIf p (Fault.error e)) :=
  avoids_rejectIf p nofun

section Then

variable {ε α β : Type} {p : Prop} [Decidable p] {e : AcquireTenureProtocolError}

theorem avoids_checked {k : Unit → Res β} (h : Avoids .panic (k ())) : Avoids .panic (rejectIf p (Fault.error e) >>= k) :=
  avoids_bind (avoids_check p e) fun _ _ => h

theorem avoids_mapped {x : Except ε α} {k : α → Res β} (h : ∀ a, Avoids .panic (k a)) :
    Avoids .panic (mapErr x (Fault.error e) >>= k) := avoids_bind avoids_mapErr fun a _ => h a

end Then

/-- **The loop stays inside its input**: the two header slices lie before the header's end, the value before its own. -/
theorem avoids_parseFields (bytes : Bytes) (count : Nat) (validLength : Nat → Nat → Bool) :
    ∀ (remaining index cursor : Nat) (values : List Bytes),
      Avoids .panic (parseFields bytes count validLength remaining index cursor values)
  | 0, _, _, _ => avoids_of_ok rfl
  | remaining + 1, index, cursor, values => by
    unfold parseFields
    refine avoids_bind (avoids_addU64 _ _ nofun) fun headerEnd hend => avoids_bind (avoids_check _ _) fun _ hroom => ?_
    obtain ⟨_, rfl⟩ := addU64_ok.1 hend
    rw [rejectIf_ok, not_lt] at hroom
    have htlv : tlvHeaderBytes = 6 := rfl
    refine avoids_bind (avoids_slice (by omega) (by omega)) fun tagBytes htag => ?_
    refine avoids_bind (avoids_readBE (by have := (slice_ok htag).2.2; omega)) fun tag _ => ?_
    refine avoids_bind (avoids_slice (by omega) (by omega)) fun lengthBytes hlength => ?_
    refine avoids_bind (avoids_readBE (by have := (slice_ok hlength).2.2; omega)) fun valueLength _ => ?_
    refine avoids_checked <| avoids_checked <| avoids_checked <| avoids_checked <| avoids_bind (avoids_addU64 _ _
      nofun) fun valueEnd hvalue => avoids_bind (avoids_check _ _) fun _ hfits => ?_
    obtain ⟨_, rfl⟩ := addU64_ok.1 hvalue
    rw [rejectIf_ok, not_lt] at hfits
    exact avoids_bind (avoids_slice (Nat.le_add_right ..) hfits) fun value _ =>
      avoids_parseFields bytes count validLength remaining (index + 1) _ _

theorem avoids_parseValue (bytes magic : Bytes) (version count maximum : Nat) (validLength : Nat → Nat → Bool) :
    Avoids .panic (parseValue bytes magic version count maximum validLength) := by
  unfold parseValue
  refine avoids_checked <| avoids_bind (avoids_check _ _) fun _ hroom => ?_
  rw [rejectIf_ok, not_lt] at hroom
  refine avoids_bind (avoids_slice (Nat.zero_le _) (by omega)) fun _ _ => avoids_checked <| ?_
  refine avoids_bind (avoids_slice (by omega) (by omega)) fun versionBytes hversion => ?_
  refine avoids_bind (avoids_readBE (by have := (slice_ok hversion).2.2; omega)) fun _ _ => avoids_checked <| ?_
  refine avoids_bind (avoids_slice (by omega) (by omega)) fun countBytes hcount => ?_
  refine avoids_bind (avoids_readBE (by have := (slice_ok hcount).2.2; omega)) fun _ _ =>
    avoids_bind (avoids_parseFields _ _ _ _ _ _ _) fun out _ => ?_
  exact avoids_checked <| avoids_checked <| avoids_of_ok rfl

/-- **What the parser accepted**: at least the expected fields, each of a length its tag may have. -/
structure Parsed (count : Nat) (validLength : Nat → Nat → Bool) (values : List Bytes) : Prop where
  complete : count ≤ values.length
  lengths : ∀ i v, values[i]? = some v → validLength (i + 1) v.length = true

theorem parseFields_ok (bytes : Bytes) (count : Nat) (validLength : Nat → Nat → Bool) :
    ∀ {remaining index cursor : Nat} {values : List Bytes} {out : List Bytes × Nat},
      parseFields bytes count validLength remaining index cursor values = .ok out → values.length = index →
      (∀ i v, values[i]? = some v → validLength (i + 1) v.length = true) →
      Parsed (index + remaining) validLength out.1
  | 0, index, cursor, values, out, h, hindex, hvalues => by
    obtain rfl := Except.ok.inj h
    exact ⟨hindex.ge, hvalues⟩
  | remaining + 1, index, cursor, values, out, h, hindex, hvalues => by
    simp only [parseFields, bind_ok, exists_unit, rejectIf_ok, not_or, not_lt, Bool.not_eq_false] at h
    obtain ⟨headerEnd, _, _, _, _, tag, _, _, _, valueLength, _, _, hge, hle, hvalid, valueEnd, hend, _, value, hvalue,
      hrest⟩ := h
    obtain ⟨_, rfl⟩ := addU64_ok.1 hend
    have htag : tag = index + 1 := le_antisymm hle hge
    have hlength : value.length = valueLength := by
      have := (slice_ok hvalue).2.2
      omega
    have hnext := parseFields_ok bytes count validLength hrest (by simp [hindex]) ?_
    · rw [Nat.add_right_comm index 1 remaining] at hnext
      exact hnext
    · intro i v hv
      by_cases hi : i < values.length
      · rw [List.getElem?_append_left hi] at hv
        exact hvalues i v hv
      · rw [List.getElem?_append_right (not_lt.1 hi)] at hv
        rw [List.getElem?_singleton] at hv
        by_cases hzero : i - values.length = 0
        · rw [if_pos hzero] at hv
          have hlast : i + 1 = tag := by omega
          rw [hlast, ← Option.some.inj hv, hlength]
          exact hvalid
        · rw [if_neg hzero] at hv
          cases hv

theorem parseValue_ok {magic : Bytes} {version maximum : Nat}
    {fields : ParsedFields} (h : parseValue bytes magic version count maximum validLength = .ok fields) :
    Parsed count validLength fields.values := by
  simp only [parseValue, bind_ok, exists_unit, rejectIf_ok, pure_ok, not_lt] at h
  obtain ⟨_, _, _, _, _, _, _, _, _, _, _, _, declared, _, ⟨values, cursor⟩, hfields, hcount, _, rfl⟩ := h
  have hparsed := parseFields_ok bytes count validLength hfields rfl (by rintro _ _ ⟨⟩)
  rw [Nat.zero_add] at hparsed
  exact ⟨hcount.trans hparsed.complete, hparsed.lengths⟩

/-- **Every index into the parsed fields is in range**, and its value has a length of its tag. -/
theorem avoids_get {α : Type} {fields : ParsedFields}
    (h : Parsed count validLength fields.values) {tag : Nat} (htag : 1 ≤ tag ∧ tag ≤ count)
    {k : Bytes → Res α} (hk : ∀ v, validLength tag v.length = true → Avoids .panic (k v)) :
    Avoids .panic (fields.get tag >>= k) := by
  have hlt : tag - 1 < fields.values.length := by
    have := h.complete
    omega
  have hget : fields.get tag = .ok fields.values[tag - 1] := okOr_ok.2 (List.getElem?_eq_getElem hlt)
  rw [hget]
  refine hk _ ?_
  have hvalid := h.lengths (tag - 1) _ (List.getElem?_eq_getElem hlt)
  rw [Nat.sub_add_cancel htag.1] at hvalid
  exact hvalid

theorem avoids_ref16 {α : Type} {fields : ParsedFields} (h : Parsed count validLength fields.values) {tag at' : Nat}
    (htag : 1 ≤ tag ∧ tag ≤ count) {k : Ref16 → Res α} (hk : ∀ v, Avoids .panic (k v)) :
    Avoids .panic (fields.get tag >>= fun v => readRef16 v at' >>= k) :=
  avoids_get h htag fun _ _ => avoids_bind (avoids_readRef16 _ _) fun v _ => hk v

theorem avoids_digest32 {α : Type} {fields : ParsedFields} (h : Parsed count validLength fields.values) {tag at' : Nat}
    (htag : 1 ≤ tag ∧ tag ≤ count) {k : Digest32 → Res α} (hk : ∀ v, Avoids .panic (k v)) :
    Avoids .panic (fields.get tag >>= fun v => readDigest32 v at' >>= k) :=
  avoids_get h htag fun _ _ => avoids_bind (avoids_readDigest32 _ _) fun v _ => hk v

theorem validRequest_lengths (length : Nat) :
    (validRequestFieldLength 7 length = true → 2 ≤ length) ∧ (validRequestFieldLength 8 length = true → 2 ≤ length) ∧
      (validRequestFieldLength 10 length = true → 4 ≤ length) := by
  refine ⟨fun h => ?_, fun h => ?_, fun h => ?_⟩
  all_goals
    simp [validRequestFieldLength] at h
    omega

theorem validResponse_lengths (length : Nat) :
    (validResponseFieldLength 6 length = true → 2 ≤ length) ∧ (validResponseFieldLength 7 length = true → 2 ≤ length) ∧
      (validResponseFieldLength 10 length = true → 8 ≤ length) ∧
      (validResponseFieldLength 11 length = true → 8 ≤ length) := by
  refine ⟨fun h => ?_, fun h => ?_, fun h => ?_, fun h => ?_⟩
  all_goals
    simp [validResponseFieldLength] at h
    omega

theorem avoids_tryNew (sha256 : Sha256) (intent : AcquireTenureIntentV1) (principal key : Ref16) (fingerprint : Digest32)
    (nonce : Bytes) (bound : UInt32) :
    Avoids .panic (AcquireTenureRequestDraftV1.tryNew sha256 intent principal key fingerprint nonce bound) := by
  unfold AcquireTenureRequestDraftV1.tryNew
  iterate 8 refine avoids_checked ?_
  exact avoids_mapped fun _ => avoids_of_ok rfl

theorem avoids_finalizeEd25519 (sha256 : Sha256) (d : AcquireTenureRequestDraftV1) (signature : Bytes) :
    Avoids .panic (d.finalizeEd25519 sha256 signature) :=
  avoids_checked <| avoids_checked <| avoids_mapped fun _ => avoids_of_ok rfl

theorem AcquireTenureRequestV1.avoids_decode (sha256 : Sha256) (bytes : Bytes) :
    Avoids .panic (AcquireTenureRequestV1.decode sha256 bytes) := by
  unfold AcquireTenureRequestV1.decode
  refine avoids_bind (avoids_parseValue _ _ _ _ _ _) fun fields hfields => ?_
  have h := parseValue_ok hfields
  iterate 5 refine avoids_ref16 h (by decide) fun _ => ?_
  refine avoids_digest32 h (by decide) fun _ => ?_
  iterate 6 refine avoids_checked ?_
  refine avoids_get h (by decide) fun v hv =>
    avoids_bind (avoids_readBE ((validRequest_lengths v.length).1 hv)) fun _ _ => avoids_checked ?_
  refine avoids_get h (by decide) fun v hv =>
    avoids_bind (avoids_readBE ((validRequest_lengths v.length).2.1 hv)) fun _ _ => avoids_checked ?_
  refine avoids_get h (by decide) fun v hv =>
    avoids_bind (avoids_readBE ((validRequest_lengths v.length).2.2 hv)) fun _ _ => ?_
  exact avoids_get h (by decide) fun _ _ => avoids_bind (avoids_tryNew _ _ _ _ _ _ _) fun _ _ =>
    avoids_digest32 h (by decide) fun _ => avoids_checked <| avoids_get h (by decide) fun _ _ =>
    avoids_bind (avoids_finalizeEd25519 _ _ _) fun _ _ => avoids_checked <| avoids_of_ok rfl

theorem AcquireTenureResponseV1.avoids_decode (sha256 : Sha256) (bytes : Bytes) :
    Avoids .panic (AcquireTenureResponseV1.decode sha256 bytes) := by
  unfold AcquireTenureResponseV1.decode
  refine avoids_bind (avoids_parseValue _ _ _ _ _ _) fun fields hfields => ?_
  have h := parseValue_ok hfields
  refine avoids_ref16 h (by decide) fun _ => avoids_digest32 h (by decide) fun _ => ?_
  iterate 2 refine avoids_ref16 h (by decide) fun _ => ?_
  refine avoids_get h (by decide) fun v hv =>
    avoids_bind (avoids_readBE ((validResponse_lengths v.length).1 hv)) fun _ _ => avoids_mapped fun _ => ?_
  refine avoids_get h (by decide) fun v hv =>
    avoids_bind (avoids_readBE ((validResponse_lengths v.length).2.1 hv)) fun _ _ => avoids_mapped fun _ => ?_
  iterate 2 refine avoids_ref16 h (by decide) fun _ => ?_
  refine avoids_get h (by decide) fun v hv =>
    avoids_bind (avoids_readBE ((validResponse_lengths v.length).2.2.1 hv)) fun _ _ => ?_
  refine avoids_get h (by decide) fun v hv =>
    avoids_bind (avoids_readBE ((validResponse_lengths v.length).2.2.2 hv)) fun _ _ => avoids_mapped fun _ => ?_
  refine avoids_get h (by decide) fun _ _ => avoids_get h (by decide) fun _ _ => avoids_mapped fun _ => ?_
  refine avoids_get h (by decide) fun _ _ => avoids_checked <| avoids_mapped fun _ => ?_
  refine avoids_digest32 h (by decide) fun _ => avoids_checked <| avoids_mapped fun _ => ?_
  exact avoids_digest32 h (by decide) fun _ => avoids_checked <| avoids_checked <| avoids_of_ok rfl

theorem AcquireTenureResponseV1.avoids_decodeForRequest (sha256 : Sha256) (bytes : Bytes)
    (request : AcquireTenureRequestV1) : Avoids .panic (AcquireTenureResponseV1.decodeForRequest sha256 bytes request) :=
  avoids_bind (AcquireTenureResponseV1.avoids_decode sha256 bytes) fun _ _ =>
    avoids_bind (avoids_checked <| avoids_checked <| avoids_check _ _) fun _ _ => avoids_of_ok rfl

/-! ## Responses -/

def AcquireTenureResponseV1.Built (sha256 : Sha256) (request : AcquireTenureRequestV1) (v : AcquireTenureResponseV1) : Prop :=
  request.Built sha256 ∧ ∃ proof, AcquireTenureResponseV1.tryNew sha256 request proof = .ok v

def responseValues (operationId : Ref16) (requestDigest : Digest32) (clientNonce : Bytes) (proof : WriterTenureProof)
    (proofDigest : Digest32) : List Bytes :=
  [operationId.asBytes, requestDigest.asBytes, clientNonce, proof.authority.authority.asBytes,
    proof.authority.key.asBytes, bytesBE 2 proof.authority.algorithm.value.toNat,
    bytesBE 2 proof.authority.algorithmVersion.toNat, proof.claim.sourceScope.asBytes, proof.claim.writer.asBytes,
    bytesBE 8 proof.claim.epoch.toNat, bytesBE 8 proof.claim.supersedesThroughEpoch.toNat, proof.nonce,
    proof.signature, proofDigest.asBytes]

section Response

variable (operationId : Ref16) (requestDigest : Digest32) (clientNonce : Bytes) (proof : WriterTenureProof)
  (proofDigest responseDigest : Digest32)

theorem responseUnsignedFields_eq : responseUnsignedFields operationId requestDigest clientNonce proof proofDigest =
    tlvs 0 (responseValues operationId requestDigest clientNonce proof proofDigest) := by
  simp [responseUnsignedFields, responseValues, tlvs]

theorem responseBytes_eq :
    responseBytes operationId requestDigest clientNonce proof proofDigest responseDigest =
      valueHeader acquireResponseMagic acquireTenureProtocolVersion
          (responseValues operationId requestDigest clientNonce proof proofDigest ++ [responseDigest.asBytes]).length
        ++ tlvs 0 (responseValues operationId requestDigest clientNonce proof proofDigest ++ [responseDigest.asBytes]) := by
  simp [responseBytes, responseUnsignedFields, responseValues, tlvs, responseFieldCount]

theorem responseUnsignedBytes_length : (responseUnsignedBytes operationId requestDigest clientNonce proof
    proofDigest).length = 260 + clientNonce.length + proof.nonce.length + proof.signature.length := by
  rw [responseUnsignedBytes, responseUnsignedFields_eq, List.length_append, tlvs_length]
  simp [responseValues, valueHeader, acquireResponseMagic]
  omega

end Response

theorem AcquireTenureResponseV1.Built.fields (h : v.Built sha256 request) :
    v.operationId = request.operationId ∧ v.requestDigest = request.requestDigest ∧ v.clientNonce = request.clientNonce ∧
      v.proof.claim.sourceScope = request.scope ∧ v.proof.claim.writer = request.writer ∧
      v.proof.nonce = v.clientNonce ∧ v.proof.envelopeDigest sha256 = .ok v.proofDigest ∧
      responseDigestOf sha256 v.operationId v.requestDigest v.clientNonce v.proof v.proofDigest = .ok v.responseDigest ∧
      v.canonicalBytes = responseBytes v.operationId v.requestDigest v.clientNonce v.proof v.proofDigest v.responseDigest ∧
      v.canonicalBytes.length ≤ request.maxResponsePayloadBytes.toNat ∧
      v.canonicalBytes.length ≤ maxAcquireTenureResponsePayloadBytes := by
  obtain ⟨_, proof, h⟩ := h
  simp only [AcquireTenureResponseV1.tryNew, validateProofBinding, bind_ok, exists_unit, rejectIf_ok, not_or, not_not,
    ne_eq, mapErr_ok, pure_ok, not_lt] at h
  obtain ⟨⟨hscope, hwriter, hnonce⟩, proofDigest, hproof, responseDigest, hresponse, hbound, hmax, rfl⟩ := h
  exact ⟨rfl, rfl, rfl, hscope, hwriter, hnonce, hproof, hresponse, rfl, hbound, hmax⟩

theorem responseValues_lengths (h : v.Built sha256 request) : Lengths validResponseFieldLength 0
      (responseValues v.operationId v.requestDigest v.clientNonce v.proof v.proofDigest ++ [v.responseDigest.asBytes]) := by
  obtain ⟨_, _, _, _, _, hnonce, _⟩ := h.fields
  have hfresh : 1 ≤ v.proof.nonce.length := List.length_pos_iff.2 v.proof.fresh
  have hsigned : 1 ≤ v.proof.signature.length := List.length_pos_iff.2 v.proof.signed
  have h1 : v.proof.nonce.length ≤ 64 := v.proof.nonceBounded
  have h2 : v.proof.signature.length ≤ 512 := v.proof.signatureBounded
  rw [← hnonce]
  simp [Lengths, responseValues, validResponseFieldLength, Fits, maxAcquireTenureClientNonceBytes, maxTenureNonceBytes,
    maxTenureSignatureBytes]
  exact ⟨decide_eq_true ⟨hfresh, h1⟩, by omega, decide_eq_true ⟨hfresh, h1⟩, by omega, decide_eq_true ⟨hsigned, h2⟩,
    by omega⟩

theorem AcquireTenureResponseV1.Built.decode (h : v.Built sha256 request) :
    AcquireTenureResponseV1.decode sha256 v.canonicalBytes = .ok v := by
  obtain ⟨_, _, _, _, _, hnonce, hproof, hresponse, hbytes, _, hmax⟩ := h.fields
  have hparse : parseValue v.canonicalBytes acquireResponseMagic acquireTenureProtocolVersion responseFieldCount
      maxAcquireTenureResponsePayloadBytes validResponseFieldLength =
        .ok ⟨responseValues v.operationId v.requestDigest v.clientNonce v.proof v.proofDigest
          ++ [v.responseDigest.asBytes]⟩ := by
    rw [hbytes, responseBytes_eq] at *
    exact parseValue_tlvs (by decide) (Nat.lt_of_sub_eq_succ rfl) (responseValues_lengths h) hmax (by decide)
  unfold AcquireTenureResponseV1.decode
  refine ok_bind hparse <| ok_bind rfl <| ok_bind readRef16_asBytes <| ok_bind rfl <|
    ok_bind readDigest32_asBytes <| ok_bind rfl <| ok_bind readRef16_asBytes <| ok_bind rfl <|
    ok_bind readRef16_asBytes <| ok_bind rfl <|
    ok_bind (readBE_bytesBE v.proof.authority.algorithm.value.toNat_lt) ?_
  rw [UInt16.ofNat_toNat, TenureProofAlgorithm.tryNew_value]
  refine ok_bind rfl <| ok_bind rfl <| ok_bind (readBE_bytesBE v.proof.authority.algorithmVersion.toNat_lt) ?_
  rw [UInt16.ofNat_toNat, TenureProofAuthority.tryNew_fields]
  refine ok_bind rfl <| ok_bind rfl <| ok_bind readRef16_asBytes <| ok_bind rfl <|
    ok_bind readRef16_asBytes <| ok_bind rfl <| ok_bind (readBE_bytesBE v.proof.claim.epoch.toNat_lt) <|
    ok_bind rfl <| ok_bind (readBE_bytesBE v.proof.claim.supersedesThroughEpoch.toNat_lt) ?_
  rw [UInt64.ofNat_toNat, UInt64.ofNat_toNat, WriterTenureClaim.tryNew_fields]
  refine ok_bind rfl <| ok_bind rfl <| ok_bind rfl <|
    ok_bind (mapErr_ok.2 v.proof.tryNew_fields) <| ok_bind rfl <|
    ok_check (fun hne => hne hnonce.symm) <| ok_bind (mapErr_ok.2 hproof) <| ok_bind rfl <|
    ok_bind readDigest32_asBytes <| ok_check (fun hne => hne rfl) <| ok_bind hresponse <|
    ok_bind rfl <| ok_bind readDigest32_asBytes <| ok_check (fun hne => hne rfl) <|
    ok_check (fun hne => hne hbytes.symm) ?_
  rw [← hbytes]
  rfl

theorem AcquireTenureResponseV1.decode_ok
    (h : AcquireTenureResponseV1.decode sha256 bytes = .ok v) : v.canonicalBytes = bytes ∧
      v.canonicalBytes = responseBytes v.operationId v.requestDigest v.clientNonce v.proof v.proofDigest v.responseDigest := by
  revert v h
  change Returns (AcquireTenureResponseV1.decode sha256 bytes) _
  unfold AcquireTenureResponseV1.decode
  iterate 37 refine returns_bind fun _ _ => ?_
  refine returns_bind fun _ hbytes => ?_
  intro v hv
  rw [← pure_ok.1 hv]
  rw [rejectIf_ok, not_not] at hbytes
  exact ⟨hbytes, rfl⟩

theorem AcquireTenureResponseV1.decodeForRequest_ok (h : AcquireTenureResponseV1.decodeForRequest sha256 bytes request = .ok v) :
    AcquireTenureResponseV1.decode sha256 bytes = .ok v ∧ v.operationId = request.operationId ∧
      v.requestDigest = request.requestDigest ∧ v.clientNonce = request.clientNonce ∧
      v.proof.nonce = request.clientNonce ∧ v.proof.claim.sourceScope = request.scope ∧
      v.proof.claim.writer = request.writer ∧ v.canonicalBytes.length ≤ request.maxResponsePayloadBytes.toNat := by
  simp only [decodeForRequest, validateRequestBinding, validateProofBinding, bind_ok, exists_unit, rejectIf_ok, not_or,
    not_not, ne_eq, not_lt, pure_ok] at h
  obtain ⟨_, hdecode, ⟨⟨h1, h2, h3⟩, h4, h5, h6, h7⟩, rfl⟩ := h
  exact ⟨hdecode, h1, h2, h3, h7, h5, h6, h4⟩

theorem AcquireTenureResponseV1.Built.decodeForRequest (h : v.Built sha256 request) :
    AcquireTenureResponseV1.decodeForRequest sha256 v.canonicalBytes request = .ok v := by
  obtain ⟨h1, h2, h3, h4, h5, h6, _, _, _, h7, _⟩ := h.fields
  refine ok_bind h.decode <| ok_bind (ok_check ?_ <| ok_check (not_lt.2 h7) <|
    rejectIf_neg ?_) rfl
  · simp [h1, h2, h3]
  · simp [h4, h5, h6, h3]

/-! ## Frames -/

theorem avoids_decodePrefix (bytes : Bytes) : Avoids .panic (AcquireTenureFrameHeaderV1.decodePrefix bytes) := by
  unfold AcquireTenureFrameHeaderV1.decodePrefix
  refine avoids_bind (avoids_check _ _) fun _ hroom => ?_
  rw [rejectIf_ok, not_lt] at hroom
  have hheader : acquireTenureFrameHeaderBytes = 16 := rfl
  have hmagic : acquireFrameMagic.length = 8 := rfl
  refine avoids_bind (avoids_slice (Nat.zero_le _) (by omega)) fun _ _ => avoids_checked <| ?_
  refine avoids_bind (avoids_slice (by omega) (by omega)) fun _ hversion => ?_
  refine avoids_bind (avoids_readBE (by have := (slice_ok hversion).2.2; omega)) fun _ _ => avoids_checked <| ?_
  refine avoids_bind (avoids_slice (by omega) (by omega)) fun _ hkind => ?_
  refine avoids_bind (avoids_readBE (by have := (slice_ok hkind).2.2; omega)) fun code _ => avoids_bind ?_ fun _ _ => ?_
  · unfold AcquireTenureFrameKind.tryFromWire
    split <;> simp [Avoids, err]
  refine avoids_bind (avoids_slice (by omega) (by omega)) fun _ hlength => ?_
  exact avoids_bind (avoids_readBE (by have := (slice_ok hlength).2.2; omega)) fun _ _ =>
    avoids_checked <| avoids_of_ok rfl

theorem avoids_decodeFrame (frame : Bytes) (kind : AcquireTenureFrameKind) : Avoids .panic (decodeFrame frame kind) := by
  unfold decodeFrame
  refine avoids_checked <| avoids_bind (avoids_decodePrefix frame) fun header _ =>
    avoids_checked <| avoids_bind (avoids_addU64 _ _ nofun) fun _ hend =>
    avoids_bind (avoids_check _ _) fun _ hroom => avoids_checked <| avoids_slice ?_ (le_refl _)
  obtain ⟨_, rfl⟩ := addU64_ok.1 hend
  rw [rejectIf_ok, not_lt] at hroom
  omega

theorem tryFromWire_code (kind : AcquireTenureFrameKind) : AcquireTenureFrameKind.tryFromWire kind.code = .ok kind := by
  cases kind <;> rfl

theorem tryFromWire_ok {value : Nat}
    (h : AcquireTenureFrameKind.tryFromWire value = .ok kind) : value = kind.code := by
  unfold AcquireTenureFrameKind.tryFromWire at h
  split at h
  · rw [← Except.ok.inj h]
    rfl
  · rw [← Except.ok.inj h]
    rfl
  · cases h

/-- **A frame is read back**, whenever its payload is within the maximum of its kind. -/
theorem decodeFrame_buildFrame {payload : Bytes}
    (h : payload.length ≤ kind.maximumPayloadBytes) : decodeFrame (buildFrame kind payload) kind = .ok payload := by
  have hmax : kind.maximumPayloadBytes ≤ maxAcquireTenureResponsePayloadBytes := by cases kind <;> decide
  have hresponse : maxAcquireTenureResponsePayloadBytes = 938 := by decide
  have hframe : maxAcquireTenureFrameBytes = 954 := by decide
  have hheader : acquireTenureFrameHeaderBytes = 16 := rfl
  have hu64 : u64Max = 18446744073709551615 := by decide
  have hmagic : acquireFrameMagic.length = 8 := rfl
  have hparts : buildFrame kind payload = acquireFrameMagic ++ (bytesBE 2 acquireTenureFrameVersion ++
      (bytesBE 2 kind.code ++ (bytesBE 4 payload.length ++ (payload ++ [])))) := by simp [buildFrame]
  have hlength : (buildFrame kind payload).length = 16 + payload.length := by
    rw [hparts]
    simp [hmagic]
    omega
  have hslice1 : slice _ 0 acquireFrameMagic.length = .ok _ := slice_append [] acquireFrameMagic
    (bytesBE 2 acquireTenureFrameVersion ++ (bytesBE 2 kind.code ++ (bytesBE 4 payload.length ++ (payload ++ [])))) rfl
    (by simp)
  have hslice2 : slice _ 8 10 = .ok _ := slice_append acquireFrameMagic (bytesBE 2 acquireTenureFrameVersion)
    (bytesBE 2 kind.code ++ (bytesBE 4 payload.length ++ (payload ++ []))) rfl (by simp [hmagic])
  have hslice3 : slice _ 10 12 = .ok _ := slice_append (acquireFrameMagic ++ bytesBE 2 acquireTenureFrameVersion)
    (bytesBE 2 kind.code) (bytesBE 4 payload.length ++ (payload ++ [])) (by simp [hmagic]) (by simp [hmagic])
  have hslice4 : slice _ 12 16 = .ok _ :=
    slice_append (acquireFrameMagic ++ (bytesBE 2 acquireTenureFrameVersion ++ bytesBE 2 kind.code))
      (bytesBE 4 payload.length) (payload ++ []) (by simp [hmagic]) (by simp [hmagic])
  have hslice5 : slice _ 16 (16 + payload.length) = .ok _ :=
    slice_append (acquireFrameMagic ++ (bytesBE 2 acquireTenureFrameVersion ++ (bytesBE 2 kind.code ++
      bytesBE 4 payload.length))) payload [] (by simp [hmagic]) (by simp [hmagic])
  rw [List.nil_append] at hslice1
  simp only [List.append_assoc] at hslice3 hslice4 hslice5
  rw [← hparts] at hslice1 hslice2 hslice3 hslice4 hslice5
  have hsmall : payload.length < 256 ^ 4 := lt_of_le_of_lt (h.trans hmax) (by decide)
  have hcode : kind.code < 256 ^ 2 := by cases kind <;> decide
  have hprefix : AcquireTenureFrameHeaderV1.decodePrefix (buildFrame kind payload) = .ok ⟨kind, payload.length⟩ := by
    refine ok_check ?_ <| ok_bind hslice1 <| ok_check (fun hne => hne rfl) <|
      ok_bind hslice2 <| ok_bind (readBE_bytesBE (by decide)) <| ok_check (fun hne => hne rfl) <|
      ok_bind hslice3 <| ok_bind (readBE_bytesBE hcode) <| ok_bind (tryFromWire_code kind) <| ok_bind hslice4 <|
      ok_bind (readBE_bytesBE hsmall) <| ok_check (not_lt.2 h) rfl
    rw [hlength]
    omega
  refine ok_check ?_ <| ok_bind hprefix <| ok_check (fun hne => hne rfl) <|
    ok_bind (addU64_ok.2 ⟨?_, rfl⟩) <| ok_check ?_ <| ok_check ?_ ?_
  · rw [hlength]
    omega
  · change 16 + payload.length ≤ u64Max
    omega
  · rw [hlength]
    exact lt_irrefl _
  · rw [hlength]
    exact lt_irrefl _
  · rw [hlength]
    exact hslice5

theorem slice_eq {bs : Bytes} (h : slice bytes first last = .ok bs) :
    bs = (bytes.drop first).take (last - first) := by
  obtain ⟨hfirst, hlast, _⟩ := slice_ok h
  rw [slice, if_pos ⟨hfirst, hlast⟩] at h
  exact (Except.ok.inj h).symm

theorem readBE_ok {n : Nat} (h : readBE width bytes = .ok n) (hlength : bytes.length = width) :
    bytes = bytesBE width n := by
  rw [readBE, if_pos hlength.ge, List.take_of_length_le hlength.le] at h
  rw [← Except.ok.inj h, ← hlength]
  exact (bytesBE_fromBE bytes).symm

theorem frame_parts (frame : Bytes) : frame = frame.take 8 ++ ((frame.drop 8).take 2 ++ ((frame.drop 10).take 2 ++
    ((frame.drop 12).take 4 ++ frame.drop 16))) := by
  have h12 : (frame.drop 12).take 4 ++ frame.drop 16 = frame.drop 12 := by
    rw [show frame.drop 16 = (frame.drop 12).drop 4 by rw [List.drop_drop], List.take_append_drop]
  have h10 : (frame.drop 10).take 2 ++ frame.drop 12 = frame.drop 10 := by
    rw [show frame.drop 12 = (frame.drop 10).drop 2 by rw [List.drop_drop], List.take_append_drop]
  have h8 : (frame.drop 8).take 2 ++ frame.drop 10 = frame.drop 8 := by
    rw [show frame.drop 10 = (frame.drop 8).drop 2 by rw [List.drop_drop], List.take_append_drop]
  rw [h12, h10, h8, List.take_append_drop]

theorem decodeFrame_ok {frame payload : Bytes} (h : decodeFrame frame kind = .ok payload) :
    buildFrame kind payload = frame := by
  simp only [decodeFrame, AcquireTenureFrameHeaderV1.decodePrefix, bind_ok, exists_unit, rejectIf_ok, pure_ok, not_lt,
    not_not, ne_eq] at h
  obtain ⟨_, _, ⟨_, head, hhead, rfl, versionBytes, hversion, _, hv, rfl, kindBytes, hkind, code, hcode, kind', hkind',
    lengthBytes, hlength, n, hn, _, rfl⟩, rfl, _, hend, hge, hle, hpayload⟩ := h
  obtain ⟨_, rfl⟩ := addU64_ok.1 hend
  have h2 := readBE_ok hv (slice_ok hversion).2.2
  have h3 := readBE_ok hcode (slice_ok hkind).2.2
  have h4 := readBE_ok hn (slice_ok hlength).2.2
  have hcode' := tryFromWire_ok hkind'
  have hpl : payload.length = n := by
    have := (slice_ok hpayload).2.2
    have hsum := le_antisymm hle hge
    change frame.length = 16 + n at hsum
    change payload.length = frame.length - 16 at this
    omega
  rw [slice_eq hversion] at h2
  rw [slice_eq hkind] at h3
  rw [slice_eq hlength] at h4
  have hbody : payload = frame.drop 16 := by
    rw [slice_eq hpayload]
    exact List.take_of_length_le (le_of_eq (List.length_drop ..))
  have hmagic : acquireFrameMagic = frame.take 8 := slice_eq hhead
  have hframe := frame_parts frame
  rw [← hmagic] at hframe
  rw [hframe, h2, h3, h4, ← hbody, hcode', ← hpl]
  simp [buildFrame, acquireTenureFrameVersion]

/-! ## Transcripts -/

theorem AcquireTenureRequestDraftV1.signingTranscript_eq (d : AcquireTenureRequestDraftV1) : d.signingTranscript =
    .ok ([requestAuthTranscriptMagic, bytesBE 2 acquireTenureRequestAuthTranscriptVersion,
      bytesBE 2 requestAuthTranscriptDomain.length, requestAuthTranscriptDomain,
      bytesBE 2 requestUnsignedFieldCount].flatten ++ tlvs 0 (requestValues d)) := by
  refine ok_check (by decide) ?_
  rw [← d.unsignedFields_eq]
  simp [pure, Except.pure]

/-- **The bytes a controller signs determine every unsigned field of its request.** -/
theorem AcquireTenureRequestDraftV1.signingTranscript_inj {d d' : AcquireTenureRequestDraftV1}
    (h : d.clientNonce.length ≤ maxAcquireTenureClientNonceBytes)
    (h' : d'.clientNonce.length ≤ maxAcquireTenureClientNonceBytes) (heq : d.signingTranscript = d'.signingTranscript) :
    d = d' := by
  rw [d.signingTranscript_eq, d'.signingTranscript_eq] at heq
  have hfit : ∀ e : AcquireTenureRequestDraftV1, e.clientNonce.length ≤ maxAcquireTenureClientNonceBytes →
      ∀ v ∈ requestValues e, Fits v := by
    intro e he
    have hlt : e.clientNonce.length < 4294967296 := lt_of_le_of_lt he (by decide)
    simp [requestValues, Fits, hlt]
  have hvalues := tlvs_inj (hfit d h) (hfit d' h') rfl (List.append_cancel_left (Except.ok.inj heq))
  simp only [requestValues, List.cons.injEq, and_true, true_and] at hvalues
  obtain ⟨h1, h2, h3, h4, h5, h6, h9, h10, h11⟩ := hvalues
  obtain ⟨⟨_, _, _⟩, _, _, _, _, _, _⟩ := d
  obtain ⟨⟨_, _, _⟩, _, _, _, _, _, _⟩ := d'
  obtain rfl := Ref16.asBytes_inj h1
  obtain rfl := Ref16.asBytes_inj h2
  obtain rfl := Ref16.asBytes_inj h3
  obtain rfl := Ref16.asBytes_inj h4
  obtain rfl := Ref16.asBytes_inj h5
  obtain rfl := Digest32.asBytes_inj h6
  obtain rfl := h9
  obtain rfl := u32_inj h10
  obtain rfl := Digest32.asBytes_inj h11
  rfl

theorem responseUnsignedBytes_inj {o o' : Ref16} {r r' : Digest32} {n n' : Bytes} {p p' : WriterTenureProof}
    {d d' : Digest32} (hn : n = p.nonce) (hn' : n' = p'.nonce)
    (h : responseUnsignedBytes o r n p d = responseUnsignedBytes o' r' n' p' d') :
    o = o' ∧ r = r' ∧ n = n' ∧ p = p' ∧ d = d' := by
  have hfit : ∀ (o : Ref16) (r : Digest32) (p : WriterTenureProof) (d : Digest32),
      ∀ v ∈ responseValues o r p.nonce p d, Fits v := by
    intro o r p d
    have hnonce : p.nonce.length < 4294967296 := lt_of_le_of_lt p.nonceBounded (by decide)
    have hsignature : p.signature.length < 4294967296 := lt_of_le_of_lt p.signatureBounded (by decide)
    simp [responseValues, Fits, hnonce, hsignature]
  have hfields := List.append_cancel_left h
  rw [responseUnsignedFields_eq, responseUnsignedFields_eq, hn, hn'] at hfields
  have hvalues := tlvs_inj (hfit o r p d) (hfit o' r' p' d') rfl hfields
  simp only [responseValues, List.cons.injEq, and_true] at hvalues
  obtain ⟨h1, h2, h3, h4, h5, h6, h7, h8, h9, h10, h11, _, h13, h14⟩ := hvalues
  have hproof : p = p' := by
    have ha := TenureProofAuthority.ext' (Ref16.asBytes_inj h4) (Ref16.asBytes_inj h5) (u16_inj h6) (u16_inj h7)
    have hc := WriterTenureClaim.ext' (Ref16.asBytes_inj h8) (Ref16.asBytes_inj h9) (u64_inj h10) (u64_inj h11)
    obtain ⟨_, _, _, _, _, _, _, _⟩ := p
    obtain ⟨_, _, _, _, _, _, _, _⟩ := p'
    subst ha hc h3 h13
    rfl
  exact ⟨Ref16.asBytes_inj h1, Digest32.asBytes_inj h2, by rw [hn, hn', hproof], hproof, Digest32.asBytes_inj h14⟩

/-- **The acquire-tenure wire format is exact.**  Requests, responses and frames are read back from what the encoders
write, and everything a decoder accepts is what the encoder writes; no bytes make a decoder panic; a response is accepted
for a request only with that request's operation, digest, nonce, scope and writer and within its response bound.  The
controller's transcript determines every unsigned field of a request, and the bytes under the response digest every field
of a response before it; the bytes the authority signs determine the authority, the claim and the nonce. -/
theorem acquire_tenure_wire_exact (sha256 : Sha256) :
    (∀ r : AcquireTenureRequestV1, r.Built sha256 → AcquireTenureRequestV1.decode sha256 r.canonicalBytes = .ok r ∧
      decodeAcquireTenureRequestFrame sha256 (encodeAcquireTenureRequestFrame r) = .ok r) ∧
    (∀ bytes r, AcquireTenureRequestV1.decode sha256 bytes = .ok r → r.Built sha256 ∧ r.canonicalBytes = bytes) ∧
    (∀ frame r, decodeAcquireTenureRequestFrame sha256 frame = .ok r → encodeAcquireTenureRequestFrame r = frame) ∧
    (∀ request, ∀ v : AcquireTenureResponseV1, v.Built sha256 request →
      AcquireTenureResponseV1.decode sha256 v.canonicalBytes = .ok v ∧
      decodeAcquireTenureResponseFrameForRequest sha256 (encodeAcquireTenureResponseFrame v) request = .ok v) ∧
    (∀ bytes v, AcquireTenureResponseV1.decode sha256 bytes = .ok v → v.canonicalBytes = bytes ∧
      v.canonicalBytes = responseBytes v.operationId v.requestDigest v.clientNonce v.proof v.proofDigest v.responseDigest) ∧
    (∀ frame request v, decodeAcquireTenureResponseFrameForRequest sha256 frame request = .ok v →
      encodeAcquireTenureResponseFrame v = frame) ∧
    (∀ bytes request, AcquireTenureRequestV1.decode sha256 bytes ≠ .error .panic ∧
      decodeAcquireTenureRequestFrame sha256 bytes ≠ .error .panic ∧
      AcquireTenureResponseV1.decode sha256 bytes ≠ .error .panic ∧
      AcquireTenureResponseV1.decodeForRequest sha256 bytes request ≠ .error .panic ∧
      decodeAcquireTenureResponseFrameForRequest sha256 bytes request ≠ .error .panic) ∧
    (∀ bytes request v, AcquireTenureResponseV1.decodeForRequest sha256 bytes request = .ok v →
      v.operationId = request.operationId ∧ v.requestDigest = request.requestDigest ∧
      v.clientNonce = request.clientNonce ∧ v.proof.nonce = request.clientNonce ∧
      v.proof.claim.sourceScope = request.scope ∧ v.proof.claim.writer = request.writer ∧
      v.canonicalBytes.length ≤ request.maxResponsePayloadBytes.toNat) ∧
    (∀ r r' : AcquireTenureRequestV1, r.Built sha256 → r'.Built sha256 → r.signingTranscript = r'.signingTranscript →
      r.draft = r'.draft) ∧
    (∀ request request', ∀ v v' : AcquireTenureResponseV1, v.Built sha256 request → v'.Built sha256 request' →
      (responseUnsignedBytes v.operationId v.requestDigest v.clientNonce v.proof v.proofDigest =
          responseUnsignedBytes v'.operationId v'.requestDigest v'.clientNonce v'.proof v'.proofDigest →
        v.operationId = v'.operationId ∧ v.requestDigest = v'.requestDigest ∧ v.clientNonce = v'.clientNonce ∧
          v.proof = v'.proof ∧ v.proofDigest = v'.proofDigest) ∧
      (v.proof.signingTranscript = v'.proof.signingTranscript →
        v.proof.authority = v'.proof.authority ∧ v.proof.claim = v'.proof.claim ∧ v.clientNonce = v'.clientNonce ∧
          v.proof.nonce = v'.proof.nonce)) := by
  refine ⟨?_, fun _ _ h => AcquireTenureRequestV1.decode_ok h, ?_, ?_, fun _ _ h => AcquireTenureResponseV1.decode_ok h,
    ?_, ?_, ?_, ?_, ?_⟩
  · intro r h
    obtain ⟨hdrafted, _, hsignature, hbytes, _⟩ := h.fields
    have hle : r.canonicalBytes.length ≤ AcquireTenureFrameKind.request.maximumPayloadBytes := by
      rw [hbytes]
      exact requestBytes_le r.draft hsignature hdrafted.nonce.2
    exact ⟨h.decode, ok_bind (decodeFrame_buildFrame hle) h.decode⟩
  · intro frame r h
    obtain ⟨payload, hpayload, hr⟩ := bind_ok.1 h
    rw [encodeAcquireTenureRequestFrame, (AcquireTenureRequestV1.decode_ok hr).2]
    exact decodeFrame_ok hpayload
  · intro request v h
    obtain ⟨_, _, _, _, _, _, _, _, _, _, hmax⟩ := h.fields
    have hframe : decodeFrame (encodeAcquireTenureResponseFrame v) .response = .ok v.canonicalBytes :=
      decodeFrame_buildFrame hmax
    exact ⟨h.decode, ok_bind hframe h.decodeForRequest⟩
  · intro frame request v h
    obtain ⟨payload, hpayload, hv⟩ := bind_ok.1 h
    rw [encodeAcquireTenureResponseFrame, (AcquireTenureResponseV1.decode_ok
      (AcquireTenureResponseV1.decodeForRequest_ok hv).1).1]
    exact decodeFrame_ok hpayload
  · intro bytes request
    exact ⟨AcquireTenureRequestV1.avoids_decode sha256 bytes,
      avoids_bind (avoids_decodeFrame bytes _) fun _ _ => AcquireTenureRequestV1.avoids_decode sha256 _,
      AcquireTenureResponseV1.avoids_decode sha256 bytes,
      AcquireTenureResponseV1.avoids_decodeForRequest sha256 bytes request,
      avoids_bind (avoids_decodeFrame bytes _) fun _ _ =>
        AcquireTenureResponseV1.avoids_decodeForRequest sha256 _ request⟩
  · intro bytes request v h
    exact (AcquireTenureResponseV1.decodeForRequest_ok h).2
  · intro r r' h h' heq
    exact AcquireTenureRequestDraftV1.signingTranscript_inj h.fields.1.nonce.2 h'.fields.1.nonce.2 heq
  · intro request request' v v' h h'
    obtain ⟨_, _, _, _, _, hnonce, _⟩ := h.fields
    obtain ⟨_, _, _, _, _, hnonce', _⟩ := h'.fields
    refine ⟨responseUnsignedBytes_inj hnonce.symm hnonce'.symm, fun heq => ?_⟩
    obtain ⟨ha, hc, hn⟩ := WriterTenureProof.signingTranscript_inj heq
    exact ⟨ha, hc, by rw [← hnonce, ← hnonce', hn], hn⟩

/-! ## Two responses under one signature -/

def sampleDraft (sha256 : Sha256) (operationId : Ref16) : AcquireTenureRequestDraftV1 :=
  ⟨⟨.ofNat 1, .ofNat 2, operationId⟩, .ofNat 3, .ofNat 4, .ofNat 5, [6], 938,
    intentDigestOf sha256 ⟨.ofNat 1, .ofNat 2, operationId⟩⟩

def sampleRequest (sha256 : Sha256) (operationId : Ref16) : AcquireTenureRequestV1 :=
  ⟨sampleDraft sha256 operationId, List.replicate 64 7,
    (sampleDraft sha256 operationId).requestBytes (List.replicate 64 7), messageDigest sha256 requestDigestDomain
      ((sampleDraft sha256 operationId).requestBytes (List.replicate 64 7))⟩

def sampleProof : WriterTenureProof where
  authority := ⟨.ofNat 8, .ofNat 9, ⟨1, by decide⟩, 1, by decide⟩
  claim := ⟨.ofNat 1, .ofNat 2, 1, 0, by decide, by decide⟩
  nonce := [6]
  signature := List.replicate 64 10
  fresh := by decide
  nonceBounded := by decide
  signed := by decide
  signatureBounded := by decide

theorem sampleRequest_built (sha256 : Sha256) {operationId : Ref16} (h : Nonzero operationId.asBytes) :
    (sampleRequest sha256 operationId).Built sha256 := by
  have hdrafted : Drafted ⟨.ofNat 1, .ofNat 2, operationId⟩ (.ofNat 3) (.ofNat 4) (.ofNat 5) [6] 938 :=
    ⟨show Nonzero (Ref16.ofNat 1).asBytes by decide, show Nonzero (Ref16.ofNat 2).asBytes by decide, h, by decide,
      by decide, by decide, by decide, by decide⟩
  refine ⟨_, _, _, _, _, _, List.replicate 64 7, sampleDraft sha256 operationId,
    (AcquireTenureRequestDraftV1.tryNew_ok ..).2 ⟨hdrafted, rfl⟩, ?_⟩
  exact (AcquireTenureRequestDraftV1.finalizeEd25519_ok sha256 _ hdrafted.nonce.2 _ _).2 ⟨by decide, rfl⟩

def sampleResponse (sha256 : Sha256) (operationId : Ref16) : AcquireTenureResponseV1 :=
  let requestDigest := (sampleRequest sha256 operationId).requestDigest
  let proofDigest := sha256 (digestInput writerTenureProofEnvelopeDigestDomain sampleProof.envelopeFields)
  let responseDigest := messageDigest sha256 responseDigestDomain
    (responseUnsignedBytes operationId requestDigest [6] sampleProof proofDigest)
  ⟨operationId, requestDigest, [6], sampleProof, proofDigest, responseDigest,
    responseBytes operationId requestDigest [6] sampleProof proofDigest responseDigest⟩

theorem sampleResponse_built (sha256 : Sha256) {operationId : Ref16} (h : Nonzero operationId.asBytes) :
    (sampleResponse sha256 operationId).Built sha256 (sampleRequest sha256 operationId) := by
  have hunsigned : ∀ o r d, (responseUnsignedBytes o r [6] sampleProof d).length = 326 := fun o r d =>
    responseUnsignedBytes_length o r [6] sampleProof d
  have hbytes : ∀ o r d d', (responseBytes o r [6] sampleProof d d').length = 364 := by
    intro o r d d'
    rw [responseBytes_eq, List.length_append, tlvs_length]
    simp [responseValues, valueHeader, acquireResponseMagic, sampleProof]
  refine ⟨sampleRequest_built sha256 h, sampleProof, ?_⟩
  refine ok_check ?_ <| ok_bind (mapErr_ok.2 (sampleProof.envelopeDigest_ok sha256)) <|
    ok_bind (digestOf_single sha256 (by decide) (by decide) ?_) <| ok_check ?_ <|
    ok_check ?_ rfl
  · simp [sampleProof, sampleRequest, sampleDraft, AcquireTenureRequestV1.scope, AcquireTenureRequestV1.writer,
      AcquireTenureRequestV1.clientNonce]
  · exact lt_of_eq_of_lt (hunsigned ..) (by decide)
  · exact not_lt.2 (le_of_eq_of_le (hbytes ..) (by decide : 364 ≤ (938 : UInt32).toNat))
  · exact not_lt.2 (le_of_eq_of_le (hbytes ..) (by decide))

/-- **What the authority signs does not name the operation**: whatever the hash, two responses with the same signed bytes
differ in an unsigned field. -/
theorem responses_share_signed_bytes : ¬ ∃ sha256 : Sha256, ∀ request request', ∀ v v' : AcquireTenureResponseV1,
    v.Built sha256 request → v'.Built sha256 request' → v.proof.signingTranscript = v'.proof.signingTranscript →
      v.operationId = v'.operationId := by
  rintro ⟨sha256, h⟩
  have hv := sampleResponse_built sha256 (show Nonzero (Ref16.ofNat 11).asBytes by decide)
  have hv' := sampleResponse_built sha256 (show Nonzero (Ref16.ofNat 12).asBytes by decide)
  have hsame : Ref16.ofNat 11 = Ref16.ofNat 12 := h _ _ _ _ hv hv' rfl
  revert hsame
  decide

theorem acquire_tenure_wire_exact_sample :
    (sampleRequest (fun _ => 0) (.ofNat 11)).Built (fun _ => 0) ∧
      decodeAcquireTenureRequestFrame (fun _ => 0) (encodeAcquireTenureRequestFrame (sampleRequest (fun _ => 0) (.ofNat 11))) =
        .ok (sampleRequest (fun _ => 0) (.ofNat 11)) := by
  have hbuilt := sampleRequest_built (fun _ => 0) (show Nonzero (Ref16.ofNat 11).asBytes by decide)
  exact ⟨hbuilt, ((acquire_tenure_wire_exact fun _ => 0).1 _ hbuilt).2⟩

end Tenure
end ParaEgox
