import ParaEgox.TerminalReceipt

/-!
# TerminalReceiptCodec — a finished receipt decodes to itself
-/
namespace ParaEgox
namespace Receipt

open Check Tlv Tagged
open Frames (Fault Res)

@[simp] theorem digestOf_ok (sha256 : Sha256) (domain : Bytes) (fields : List Bytes) (d : Digest32) :
    digestOf sha256 domain fields = .ok d ↔ digest32 sha256 domain fields = .ok d := wrapErr_ok

@[simp] theorem validateBounded_ok (bytes : Bytes) (maximum : Nat) (u : Unit) :
    validateBounded bytes maximum = .ok u ↔ bytes ≠ [] ∧ bytes.length ≤ maximum := by
  simp only [validateBounded, rejectIf_ok, not_or, not_lt, ne_eq]

@[simp] theorem nonzeroNumber_ok (value n : U64) : nonzeroNumber value = .ok n ↔ value ≠ 0 ∧ value = n := by
  simp only [nonzeroNumber, bind_ok, rejectIf_ok, exists_unit, pure_ok, ne_eq]

theorem nonzeroAt_of {zero : Prop} [Decidable zero] (h : ¬ zero) (tag : Nat) : nonzeroAt zero tag = .ok () :=
  rejectIf_neg h

theorem shape_of_mode {outcome : ReferenceApplyTerminalOutcome} {lifecycle : ReferenceApplyTerminalLifecycleEffect}
    {head : RuntimeApplyTerminalHead} {mode : Option ReferenceAssemblyMode} {slice : Option TargetSliceDigest}
    (h : validateApplyTerminalShape outcome lifecycle head mode slice = .ok ()) :
    validateApplyTerminalShape outcome lifecycle head none none = .ok () := by
  simp only [validateApplyTerminalShape, bind_ok, exists_unit, rejectIf_ok] at h
  exact ok_check h.1 rfl

theorem decodeOutcome_code (outcome : ReferenceApplyTerminalOutcome) :
    decodeApplyTerminalOutcome (outcomeCode outcome) = .ok outcome := by cases outcome <;> rfl

theorem decodeLifecycle_code (lifecycle : ReferenceApplyTerminalLifecycleEffect) :
    decodeApplyTerminalLifecycle (lifecycleCode lifecycle) = .ok lifecycle := by cases lifecycle <;> rfl

theorem decodeHead_code {head : RuntimeApplyTerminalHead} (h : head.desiredHeadDigest ≠ some 0) :
    decodeApplyTerminalHead head.disposition (head.desiredHeadDigest.getD 0) = .ok head := by
  cases head with
  | preservedNone => rfl
  | preservedExisting digest =>
    have hdigest : digest ≠ 0 := fun heq => h (congrArg some heq)
    simp [decodeApplyTerminalHead, RuntimeApplyTerminalHead.disposition, RuntimeApplyTerminalHead.desiredHeadDigest, hdigest]
  | committedIncoming digest =>
    have hdigest : digest ≠ 0 := fun heq => h (congrArg some heq)
    simp [decodeApplyTerminalHead, RuntimeApplyTerminalHead.disposition, RuntimeApplyTerminalHead.desiredHeadDigest, hdigest]

def Held (width n : Nat) : Prop := n ≠ 0 ∧ n < 256 ^ width

/-- What a receipt's constructor takes from its callers: numbers that fit their fields, and references that are set. -/
structure Encodable (subject : ReceiptSubject) (facts : RuntimeApplyTerminalFacts)
    (authentication : RuntimeResponseAuthentication) : Prop where
  store : subject.store ≠ 0
  epoch : Held 8 facts.completionRuntimeHostEpoch
  sequence : Held 8 facts.completionSnapshotSequence
  generation : Held 8 facts.selectionClockGeneration
  instant : facts.selectionObservedAtNanos < 256 ^ 8
  channel : authentication.claim.channelBindingDigest ≠ 0
  algorithm : Held 2 authentication.claim.algorithm
  version : Held 2 authentication.claim.algorithmVersion
  signature : authentication.signature ≠ [] ∧ authentication.signature.length ≤ maxControlReadSignatureBytes

structure Checked (sha256 : Sha256) (subject : ReceiptSubject) (facts : RuntimeApplyTerminalFacts)
    (authentication : RuntimeResponseAuthentication) (r : RuntimeApplyTerminalReceipt) : Prop where
  nonce : subject.requestNonce ≠ [] ∧ subject.requestNonce.length ≤ maxApplyAuthNonceV2Bytes
  shape : validateApplyTerminalShape facts.outcome facts.lifecycleEffect facts.head none none = .ok ()
  request : subject.requestDigest ≠ 0
  census : facts.resourceCensusDigest ≠ 0
  raw : facts.rawOutcomeDigest ≠ 0
  instant : facts.selectionObservedAtNanos ≠ 0
  result : deriveApplyTerminalResultRef sha256 subject = .ok facts.terminalResultRef
  set : facts.terminalResultRef ≠ 0
  room : (buildReceiptWire subject facts authentication).length ≤ maxRuntimeApplyTerminalReceiptBytes
  wire : r.canonicalWire = buildReceiptWire subject facts authentication
  parts : r.subject = subject ∧ r.facts = facts ∧ r.authentication = authentication
  digest : digestOf sha256 applyTerminalReceiptDigestDomain [r.canonicalWire] = .ok r.receiptDigest

theorem tryNew_ok {sha256 : Sha256} {subject : ReceiptSubject} {facts : RuntimeApplyTerminalFacts}
    {authentication : RuntimeResponseAuthentication} {r : RuntimeApplyTerminalReceipt} :
    RuntimeApplyTerminalReceipt.tryNew sha256 subject facts authentication = .ok r ↔
      Checked sha256 subject facts authentication r := by
  simp only [RuntimeApplyTerminalReceipt.tryNew, bind_ok, exists_unit, rejectIf_ok, validateBounded_ok, pure_ok, not_or,
    not_not, not_lt, ne_eq]
  constructor
  · rintro ⟨hnonce, hshape, ⟨hrequest, hcensus, hraw, hinstant⟩, ref, href, ⟨rfl, hset⟩, hroom, digest, hdigest, rfl⟩
    exact ⟨hnonce, hshape, hrequest, hcensus, hraw, hinstant, href, hset, hroom, rfl, ⟨rfl, rfl, rfl⟩, hdigest⟩
  · intro h
    obtain ⟨rfl, rfl, rfl⟩ := h.parts
    refine ⟨h.nonce, h.shape, ⟨h.request, h.census, h.raw, h.instant⟩, _, h.result, ⟨rfl, h.set⟩, h.room, r.receiptDigest, ?_, ?_⟩
    · exact h.wire ▸ h.digest
    · rw [← h.wire]

/-! ## The wire is read back -/

section Decode

variable {sha256 : Sha256} {subject : ReceiptSubject} {facts : RuntimeApplyTerminalFacts}
  {authentication : RuntimeResponseAuthentication} {r : RuntimeApplyTerminalReceipt}

variable (subject facts authentication) in
def wireValues : List Bytes := receiptValues subject facts authentication.claim ++ [authentication.signature]

theorem wireValues_lengths (hnonce : subject.requestNonce ≠ [] ∧ subject.requestNonce.length ≤ maxApplyAuthNonceV2Bytes)
    (hsignature : authentication.signature ≠ [] ∧ authentication.signature.length ≤ maxControlReadSignatureBytes) :
    Lengths receiptFormat 1 (wireValues subject facts authentication) := by
  have hfirst := List.length_pos_iff.2 hnonce.1
  have hlast := List.length_pos_iff.2 hsignature.1
  have hnonceMax : subject.requestNonce.length ≤ 64 := hnonce.2
  have hsignatureMax : authentication.signature.length ≤ 512 := hsignature.2
  simp [Lengths, wireValues, receiptValues, receiptFormat, validFieldLength, Fits, maxApplyAuthNonceV2Bytes,
    maxControlReadSignatureBytes]
  exact ⟨⟨decide_eq_true ⟨hfirst, hnonceMax⟩, by omega⟩, decide_eq_true ⟨hlast, hsignatureMax⟩, by omega⟩

theorem wireValues_count : (wireValues subject facts authentication).length = applyTerminalReceiptFieldCount := rfl

theorem parse_wire (h : Checked sha256 subject facts authentication r) (he : Encodable subject facts authentication) :
    parse receiptFormat receiptErrors r.canonicalWire = .ok (wireValues subject facts authentication) := by
  rw [h.wire]
  exact parse_build (by decide) (by decide) wireValues_count (wireValues_lengths h.nonce he.signature) h.room

theorem decodeFacts_wire (h : Checked sha256 subject facts authentication r) (he : Encodable subject facts authentication) :
    decodeFacts sha256 (wireValues subject facts authentication) subject.store subject.requestDigest =
      .ok (subject, facts) := by
  have hhead : facts.head.desiredHeadDigest ≠ some 0 := by
    have hshape := h.shape
    simp only [validateApplyTerminalShape, bind_ok, exists_unit, rejectIf_ok, not_or] at hshape
    exact hshape.1.2.2
  have houtcome : outcomeCode facts.outcome < 256 ^ 2 := by cases facts.outcome <;> decide
  have hlifecycle : lifecycleCode facts.lifecycleEffect < 256 ^ 2 := by cases facts.lifecycleEffect <;> decide
  have hdisposition : facts.head.disposition < 256 ^ 2 := by
    cases facts.head <;> simp [RuntimeApplyTerminalHead.disposition]
  exact ok_bind (uint_of rfl houtcome) <| ok_bind (wrapErr_ok.2 (decodeOutcome_code _)) <|
    ok_bind (uint_of rfl hlifecycle) <| ok_bind (wrapErr_ok.2 (decodeLifecycle_code _)) <|
    ok_bind (uint_of rfl hdisposition) <| ok_bind (digest_of rfl) <| ok_bind (wrapErr_ok.2 (decodeHead_code hhead)) <|
    ok_bind (mapErr_ok.2 h.shape) <| ok_bind (digest_of rfl) <| ok_bind (nonzeroAt_of h.census _) <|
    ok_bind (digest_of rfl) <| ok_bind (nonzeroAt_of h.raw _) <|
    ok_bind (uint_of rfl he.epoch.2) <| ok_bind (nonzeroAt_of he.epoch.1 _) <|
    ok_bind (uint_of rfl he.sequence.2) <| ok_bind (nonzeroAt_of he.sequence.1 _) <|
    ok_bind (uint_of rfl he.generation.2) <| ok_bind (nonzeroAt_of he.generation.1 _) <|
    ok_bind (uint_of rfl he.instant) <| ok_bind (nonzeroAt_of h.instant _) <|
    ok_bind (ref16_of rfl) <| ok_bind (ref16_of rfl) <| ok_bind (ref16_of rfl) <|
    ok_bind (mapErr_ok.2 h.result) <| ok_bind (get_of rfl) <| ok_check (not_not.2 rfl) <|
    ok_bind (get_of rfl) rfl

theorem decodeAuthentication_wire (he : Encodable subject facts authentication) :
    decodeAuthentication (wireValues subject facts authentication) = .ok authentication := by
  have hclaim : RuntimeResponseAuthClaim.tryNew authentication.claim.runtimePeer authentication.claim.channelBindingDigest
      authentication.claim.key authentication.claim.algorithm authentication.claim.algorithmVersion =
        .ok authentication.claim :=
    ok_check (not_or.2 ⟨he.version.1, he.channel⟩) rfl
  have hauthentication : RuntimeResponseAuthentication.tryNew authentication.claim authentication.signature =
      .ok authentication := ok_bind ((validateBounded_ok _ _ ()).2 he.signature) rfl
  exact ok_bind (digest_of rfl) <| ok_bind (nonzeroAt_of he.channel _) <| ok_bind (uint_of rfl he.algorithm.2) <|
    ok_bind (nonzeroAt_of he.algorithm.1 _) <| ok_bind (uint_of rfl he.version.2) <|
    ok_bind (nonzeroAt_of he.version.1 _) <| ok_bind (ref16_of rfl) <| ok_bind (ref16_of rfl) <|
    ok_bind (mapErr_ok.2 hclaim) <| ok_bind (get_of rfl) (mapErr_ok.2 hauthentication)

theorem decode_built (h : RuntimeApplyTerminalReceipt.tryNew sha256 subject facts authentication = .ok r)
    (he : Encodable subject facts authentication) : RuntimeApplyTerminalReceipt.decode sha256 r.canonicalWire = .ok r := by
  have hchecked := tryNew_ok.1 h
  exact ok_bind (wrapErr_ok.2 (parse_wire hchecked he)) <| ok_bind (digest_of rfl) <|
    ok_bind (nonzeroAt_of he.store _) <| ok_bind (digest_of rfl) <|
    ok_bind (nonzeroAt_of hchecked.request _) <| ok_bind (decodeFacts_wire hchecked he) <|
    ok_bind (decodeAuthentication_wire he) <| ok_bind (mapErr_ok.2 h) <| ok_check (not_not.2 rfl) rfl

theorem receiptValues_sizes (claim : RuntimeResponseAuthClaim) : (receiptValues subject facts claim).map List.length =
    [16, 32, 16, 16, 32] ++ subject.requestNonce.length ::
      [2, 2, 2, 32, 32, 32, 8, 8, 8, 8, 16, 16, 32, 16, 2, 2] := by
  simp only [receiptValues, List.cons_append, List.nil_append, List.map_cons, List.map_nil, Ref16.asBytes_length,
    Digest32.asBytes_length, bytesBE_length]

theorem receiptValues_total (claim : RuntimeResponseAuthClaim) :
    ((receiptValues subject facts claim).map List.length).sum = 330 + subject.requestNonce.length := by
  have hfirst : [16, 32, 16, 16, 32].sum = 112 := rfl
  have hrest : [2, 2, 2, 32, 32, 32, 8, 8, 8, 8, 16, 16, 32, 16, 2, 2].sum = 218 := rfl
  rw [receiptValues_sizes, List.sum_append, hfirst, List.sum_cons, hrest]
  omega

/-- **No receipt is too long**: its only fields without a fixed length are bounded. -/
theorem wire_room (hnonce : subject.requestNonce.length ≤ maxApplyAuthNonceV2Bytes)
    (hsignature : authentication.signature.length ≤ maxControlReadSignatureBytes) :
    (buildReceiptWire subject facts authentication).length ≤ maxRuntimeApplyTerminalReceiptBytes := by
  have hnonceMax : subject.requestNonce.length ≤ 64 := hnonce
  have hsignatureMax : authentication.signature.length ≤ 512 := hsignature
  have hmagic : receiptFormat.magic.length = 4 := by decide
  have hcount : (wireValues subject facts authentication).length = 23 := rfl
  show (build receiptFormat (wireValues subject facts authentication)).length ≤ 2048
  rw [build_length, hmagic, hcount]
  unfold wireValues
  rw [List.map_append, List.sum_append, receiptValues_total, List.map_singleton, List.sum_singleton]
  omega

variable (subject facts) in
theorem transcript_room (claim : RuntimeResponseAuthClaim)
    (hnonce : subject.requestNonce.length ≤ maxApplyAuthNonceV2Bytes) :
    ∃ transcript, buildSigningTranscript subject facts claim = .ok transcript := by
  have hnonceMax : subject.requestNonce.length ≤ 64 := hnonce
  have hmagic : signingTranscriptMagic.length = 37 := by decide
  have hdomain : applyTerminalReceiptSigningDomain.length = 64 := by decide
  have hcount : (receiptValues subject facts claim).length = 22 := rfl
  refine ⟨_, ok_check ?_ rfl⟩
  show ¬ 2048 < _
  simp only [List.flatten_cons, List.flatten_nil, List.append_nil, List.length_append, bytesBE_length, tlvs_length,
    hmagic, hdomain, hcount, receiptValues_total]
  omega

end Decode

/-! ## The result reference -/

def resultRefInput (subject : ReceiptSubject) : Bytes :=
  digestInput applyTerminalResultRefDomain [bytesBE 2 runtimeApplyTerminalReceiptVersion, subject.target.asBytes,
    subject.store.asBytes, subject.sourceScope.asBytes, subject.operationId.asBytes, subject.requestDigest.asBytes]

theorem resultRef_of {sha256 : Sha256} {subject : ReceiptSubject}
    (h : (front16 (sha256 (resultRefInput subject))).val.all (· = 0) = false) :
    ∃ ref, deriveApplyTerminalResultRef sha256 subject = .ok ref ∧ ref ≠ 0 := by
  have hdigest : digestOf sha256 applyTerminalResultRefDomain [bytesBE 2 runtimeApplyTerminalReceiptVersion,
      subject.target.asBytes, subject.store.asBytes, subject.sourceScope.asBytes, subject.operationId.asBytes,
      subject.requestDigest.asBytes] = .ok (sha256 (resultRefInput subject)) := by
    rw [digestOf_ok, digest32_ok]
    exact ⟨by decide, by decide, by simp, by simp, rfl⟩
  have hset : ¬ (front16 (sha256 (resultRefInput subject))).val.all (· = 0) = true := by
    rw [h]
    exact Bool.false_ne_true
  refine ⟨_, ok_bind hdigest <| ok_check hset rfl, fun hzero => hset ?_⟩
  have hbytes := congrArg Ref16.asBytes hzero
  rw [Ref16.asBytes_fromBytes] at hbytes
  rw [hbytes]
  decide

end Receipt
end ParaEgox
