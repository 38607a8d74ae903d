import ParaEgox.TargetAssignments

/-!
# TargetAssignmentsCodec — target assignments have one order, one encoding and one meaning

A record is read back from its 256 bytes, the order in which assignments are given is forgotten, and the decoder accepts
exactly the bytes of the bodies that can be built.
-/
namespace ParaEgox
namespace Plan

open Check Wire Fields Frames Keyed

/-! ## Records -/

theorem decodeDirection_code (d : PortDirection) : decodeDirection (PortDirection.code d) = some d := by cases d <;> rfl
theorem decodeInteraction_code (k : InteractionKind) : decodeInteraction (InteractionKind.code k) = some k := by
  cases k <;> rfl
theorem decodeCardinality_code (c : PortCardinality) : decodeCardinality (PortCardinality.code c) = some c := by
  cases c; rfl
theorem decodeOverflow_code (p : OverflowPolicy) : decodeOverflow (OverflowPolicy.code p) = some p := by cases p <;> rfl

theorem schemaRef_fields (s : SchemaRef) : schemaRef s.id s.version s.contentDigest = .ok s :=
  ok_bind (require_ok ⟨s.version_ne⟩) rfl

theorem DeliveryProfile.tryNew_fields (d : DeliveryProfile) :
    DeliveryProfile.tryNew d.maxPayloadBytes d.maxMessageAge d.overflowPolicy = .ok d :=
  ok_bind (require_ok ⟨d.payload_ne⟩) <| ok_bind (require_ok ⟨d.age_ne⟩) rfl

theorem MailboxSpec.tryNew_fields (m : MailboxSpec) :
    MailboxSpec.tryNew m.capacityItems m.capacityBytes m.maxQueueAge m.maxInflight m.maxRetainedBytes m.overflowPolicy =
      .ok m :=
  ok_bind (require_ok ⟨m.items_ne⟩) <| ok_bind (require_ok ⟨m.bytes_ne⟩) <|
    ok_bind (require_ok ⟨m.age_ne⟩) <| ok_bind (require_ok ⟨m.inflight_ne⟩) <|
    ok_bind (require_ok ⟨m.retained_ne⟩) rfl

theorem BindingAssignment.tryNew_fields (a : BindingAssignment) :
    BindingAssignment.tryNew a.bindingId a.source a.target a.mailbox a.delivery a.mailboxSpec = .ok a :=
  ok_bind (require_ok ⟨a.leaves⟩) <| ok_bind (require_ok ⟨a.enters⟩) <|
    ok_bind (require_ok ⟨a.sameSchema⟩) <| ok_bind (require_ok ⟨a.sameInteraction⟩) <|
    ok_bind (require_ok ⟨a.sameOverflow⟩) <| ok_bind (require_ok ⟨a.ageBounded⟩) <|
    ok_bind (require_ok ⟨a.holdsPayload⟩) <| ok_bind (require_ok ⟨a.retainsCapacity⟩) <|
    ok_bind (require_ok ⟨a.lossless⟩) rfl

theorem endpointBytes_length (e : PortEndpoint) : (endpointBytes e).length = 87 := by
  simp only [endpointBytes, List.length_flatten, List.map_cons, List.map_nil, List.sum_cons, List.sum_nil,
    Ref16.asBytes_length, Digest32.asBytes_length, bytesBE_length, List.length_singleton]
  rfl

theorem assignmentRecord_length (a : BindingAssignment) : (assignmentRecord a).length = targetAssignmentRecordBytes := by
  simp only [assignmentRecord, List.length_flatten, List.map_cons, List.map_nil, List.sum_cons, List.sum_nil,
    Ref16.asBytes_length, endpointBytes_length, bytesBE_length, List.length_singleton]
  rfl

theorem decodeEndpoint_reads (index : UInt32) (e : PortEndpoint) : Reads (decodeEndpoint index) (endpointBytes e) e := by
  have hschema := schemaRef_fields e.spec.schema
  refine reads_field (reads_ref16 _ _) <| reads_field (reads_ref16 _ _) <|
    reads_field (coded_reads (decodeDirection_code _)) <| reads_field (reads_ref16 _ _) <|
    reads_field (reads_u32 _ _) <| reads_field (reads_digest _ _) <| reads_check (mapErr_ok.2 hschema) <|
    reads_field (coded_reads (decodeInteraction_code _)) <| reads_field (coded_reads (decodeCardinality_code _)) ?_
  exact reads_done e

theorem decodeAssignmentRecord_reads (index : UInt32) (a : BindingAssignment) :
    Reads (decodeAssignmentRecord index) (assignmentRecord a) a := by
  refine reads_field (reads_ref16 _ _) <| reads_field (decodeEndpoint_reads _ _) <|
    reads_field (decodeEndpoint_reads _ _) <| reads_field (reads_ref16 _ _) <| reads_field (reads_u64 _ _) <|
    reads_field (reads_u64 _ _) <| reads_field (coded_reads (decodeOverflow_code _)) <|
    reads_field (reads_u32 _ _) <| reads_field (reads_u64 _ _) <| reads_field (reads_u64 _ _) <|
    reads_field (reads_u32 _ _) <| reads_field (reads_u64 _ _) <|
    reads_field (coded_reads (decodeOverflow_code _)) ?_
  exact reads_check (mapErr_ok.2 a.delivery.tryNew_fields) <|
    reads_check (mapErr_ok.2 a.mailboxSpec.tryNew_fields) <| reads_lift (mapErr_ok.2 a.tryNew_fields)

theorem spends_decodeEndpoint (index : UInt32) : Spends (decodeEndpoint index) 87 :=
  spends_bind spends_ref16 fun _ => spends_bind spends_ref16 fun _ => spends_bind (spends_coded _ _) fun _ =>
    spends_bind spends_ref16 fun _ => spends_bind spends_u32 fun _ => spends_bind spends_digest fun _ =>
    spends_check (avoids_replaced _ _) fun _ => spends_bind (spends_coded _ _) fun _ =>
    spends_bind (spends_coded _ _) fun _ => spends_pure _

theorem spends_decodeAssignmentRecord (index : UInt32) :
    Spends (decodeAssignmentRecord index) targetAssignmentRecordBytes :=
  spends_bind spends_ref16 fun _ => spends_bind (spends_decodeEndpoint _) fun _ =>
    spends_bind (spends_decodeEndpoint _) fun _ => spends_bind spends_ref16 fun _ => spends_bind spends_u64 fun _ =>
    spends_bind spends_u64 fun _ => spends_bind (spends_coded _ _) fun _ => spends_bind spends_u32 fun _ =>
    spends_bind spends_u64 fun _ => spends_bind spends_u64 fun _ => spends_bind spends_u32 fun _ =>
    spends_bind spends_u64 fun _ => spends_bind (spends_coded _ _) fun _ =>
    spends_check (avoids_replaced _ _) fun _ => spends_check (avoids_replaced _ _) fun _ =>
    spends_lift (avoids_replaced _ _)

/-! ## The body -/

theorem distinctAssignments_ok {a b : BindingAssignment} : distinctAssignments a b = .ok () ↔
    a.bindingId ≠ b.bindingId ∧
    ¬ (a.source.instanceRef = b.source.instanceRef ∧ a.source.port = b.source.port) ∧
    ¬ (a.target.instanceRef = b.target.instanceRef ∧ a.target.port = b.target.port) ∧ a.mailbox ≠ b.mailbox := by
  simp only [distinctAssignments, bind_ok, exists_unit, rejectIf_ok, ne_eq]

variable {xs : List BindingAssignment}

theorem ensureAssignmentUniqueness_ok :
    ensureAssignmentUniqueness xs = .ok () ↔ xs.Pairwise fun a b => distinctAssignments a b = .ok () := by
  unfold ensureAssignmentUniqueness
  rw [amongEarlier_ok]
  simp

theorem bindings_nodup (h : ensureAssignmentUniqueness xs = .ok ()) :
    (xs.map BindingAssignment.bindingId).Nodup := by
  refine List.pairwise_map.2 ((ensureAssignmentUniqueness_ok.1 h).imp ?_)
  exact fun hab => (distinctAssignments_ok.1 hab).1

theorem buildTargetAssignmentsWire_length (xs : List BindingAssignment) : (buildTargetAssignmentsWire xs).length =
    targetAssignmentsHeaderBytes + xs.length * targetAssignmentRecordBytes := by
  have hrecords := flatMap_length assignmentRecord_length xs
  have hmagic : targetAssignmentsMagic.length = 4 := rfl
  simp only [buildTargetAssignmentsWire, List.length_append, hrecords, hmagic, bytesBE_length]
  rfl

variable (sha256 : Sha256)

/-- What `try_new` builds of sorted records. -/
def targetAssignments (sorted : List BindingAssignment) : TargetAssignments where
  assignments := sorted
  canonicalWire := buildTargetAssignmentsWire sorted
  assignmentDigest := sha256 (digestInput targetAssignmentsDigestDomain [buildTargetAssignmentsWire sorted])

theorem digestTargetAssignments_ok (h : xs.length ≤ maxTargetAssignments) :
    digestTargetAssignments sha256 (buildTargetAssignmentsWire xs) = .ok (targetAssignments sha256 xs).assignmentDigest := by
  have hlength := buildTargetAssignmentsWire_length xs
  have hmax : targetAssignmentsHeaderBytes + maxTargetAssignments * targetAssignmentRecordBytes < 2 ^ 64 := by decide
  have hroom := Nat.mul_le_mul_right targetAssignmentRecordBytes h
  refine (digest32_ok ..).2 ⟨by decide, by decide, Nat.one_lt_two_pow (by decide), ?_, rfl⟩
  intro f hf
  rw [List.mem_singleton.1 hf]
  omega

theorem TargetAssignments.tryNew_ok {t : TargetAssignments} :
    TargetAssignments.tryNew sha256 xs = .ok t ↔
      xs.length ≤ maxTargetAssignments ∧ ensureAssignmentUniqueness (sortBy BindingAssignment.bindingId xs) = .ok () ∧
        t = targetAssignments sha256 (sortBy BindingAssignment.bindingId xs) := by
  have hsorted := (sortBy_perm BindingAssignment.bindingId xs).length_eq
  constructor
  · intro h
    simp only [tryNew, bind_ok, exists_unit, rejectIf_ok, not_lt, wrapErr_ok, pure_ok] at h
    obtain ⟨hcount, hunique, digest, hdigest, rfl⟩ := h
    rw [digestTargetAssignments_ok sha256 (hsorted.trans_le hcount), Except.ok.injEq] at hdigest
    exact ⟨hcount, hunique, by rw [← hdigest]; rfl⟩
  · rintro ⟨hcount, hunique, rfl⟩
    have hdigest := digestTargetAssignments_ok sha256 (hsorted.trans_le hcount)
    exact ok_check (not_lt.2 hcount) <| ok_bind hunique <| ok_bind (wrapErr_ok.2 hdigest) rfl

def TargetAssignments.Built (t : TargetAssignments) : Prop := ∃ xs, TargetAssignments.tryNew sha256 xs = .ok t

variable {sha256} {t : TargetAssignments}

theorem TargetAssignments.Built.again (h : t.Built sha256) :
    Ascending BindingAssignment.bindingId t.assignments ∧ TargetAssignments.tryNew sha256 t.assignments = .ok t := by
  obtain ⟨xs, hnew⟩ := h
  obtain ⟨hcount, hunique, rfl⟩ := (TargetAssignments.tryNew_ok sha256).1 hnew
  have hsorted := (sortBy_perm BindingAssignment.bindingId xs).length_eq
  have hnodup := ((sortBy_perm BindingAssignment.bindingId xs).map _).nodup_iff.1 (bindings_nodup hunique)
  have hascending := ascending_sortBy BindingAssignment.bindingId hnodup
  refine ⟨hascending, (TargetAssignments.tryNew_ok sha256).2 ⟨hsorted.trans_le hcount, ?_, ?_⟩⟩
  · exact (hascending.sortBy_eq BindingAssignment.bindingId).symm ▸ hunique
  · exact congrArg (targetAssignments sha256) (hascending.sortBy_eq BindingAssignment.bindingId).symm

theorem TargetAssignments.Built.count (h : t.Built sha256) : t.assignments.length ≤ maxTargetAssignments :=
  ((TargetAssignments.tryNew_ok sha256).1 h.again.2).1

theorem TargetAssignments.Built.eq (h : t.Built sha256) : t = targetAssignments sha256 t.assignments := by
  obtain ⟨hascending, hnew⟩ := h.again
  have heq := ((TargetAssignments.tryNew_ok sha256).1 hnew).2.2
  rwa [hascending.sortBy_eq] at heq

theorem TargetAssignments.Built.wire_length (h : t.Built sha256) : t.canonicalWire.length ≤ maxTargetAssignmentsBytes := by
  have hlength := buildTargetAssignmentsWire_length t.assignments
  have hroom := Nat.mul_le_mul_right targetAssignmentRecordBytes h.count
  rw [h.eq]
  exact hlength.trans_le (Nat.add_le_add_left hroom _)

theorem TargetAssignments.validate_ok : t.validate sha256 = .ok () ↔ t.Built sha256 := by
  constructor
  · intro h
    simp only [validate, bind_ok, exists_unit, rejectIf_ok, not_not, ne_eq] at h
    obtain ⟨rebuilt, hnew, hassignments, hwire, hdigest⟩ := h
    obtain ⟨_, _, _⟩ := t
    obtain ⟨_, _, _⟩ := rebuilt
    cases hassignments
    cases hwire
    cases hdigest
    exact ⟨_, hnew⟩
  · intro h
    exact ok_bind h.again.2 <| ok_check (not_not.2 rfl) <|
      ok_check (not_not.2 rfl) <| rejectIf_neg (not_not.2 rfl)

theorem TargetAssignments.tryNew_perm {ys : List BindingAssignment} (hp : xs.Perm ys)
    (h : TargetAssignments.tryNew sha256 xs = .ok t) : TargetAssignments.tryNew sha256 ys = .ok t := by
  obtain ⟨hcount, hunique, rfl⟩ := (TargetAssignments.tryNew_ok sha256).1 h
  have hnodup := ((sortBy_perm BindingAssignment.bindingId xs).map _).nodup_iff.1 (bindings_nodup hunique)
  have hsame := sortBy_of_perm BindingAssignment.bindingId hp hnodup
  exact (TargetAssignments.tryNew_ok sha256).2 ⟨hp.length_eq ▸ hcount, hsame ▸ hunique, by rw [hsame]⟩

/-! ## Round trips -/

theorem targetAssignmentsBody_wire (h : xs.length ≤ maxTargetAssignments) :
    (targetAssignmentsBody (buildTargetAssignmentsWire xs)).on
      (bytesBE 4 xs.length ++ xs.flatMap assignmentRecord) = .ok xs := by
  have hlength := buildTargetAssignmentsWire_length xs
  have hroom := Nat.mul_le_mul_right targetAssignmentRecordBytes h
  have hmax : targetAssignmentsHeaderBytes + maxTargetAssignments * targetAssignmentRecordBytes ≤ u64Max := by decide
  have hword : maxTargetAssignments < 2 ^ 32 := by decide
  have hrecords : eachRecord targetAssignmentRecordBytes decodeAssignmentRecord (xs.flatMap assignmentRecord) = .ok xs :=
    eachRecord_flatMap (by decide) assignmentRecord_length decodeAssignmentRecord_reads
  refine on_of_consumes <| consumes_word (h.trans_lt hword) <| consumes_check (rejectIf_neg (not_lt.2 h)) <|
    consumes_check ((mulU64_ok ..).2 ⟨by omega, rfl⟩) <| consumes_check (addU64_ok.2 ⟨by omega, rfl⟩) <|
    consumes_check ((fill_ok _ _ _ ()).2 hlength) <| consumes_remaining <| consumes_lift hrecords

theorem TargetAssignments.Built.decode (h : t.Built sha256) : TargetAssignments.decode sha256 t.canonicalWire = .ok t := by
  have hnew := h.again.2
  have hwire : t.canonicalWire = buildTargetAssignmentsWire t.assignments := congrArg TargetAssignments.canonicalWire h.eq
  have hbody := targetAssignmentsBody_wire h.count
  have hopen : opening assignmentCodes targetAssignmentsMagic targetAssignmentsVersion targetAssignmentsHeaderBytes
      maxTargetAssignmentsBytes t.canonicalWire =
        .ok (bytesBE 4 t.assignments.length ++ t.assignments.flatMap assignmentRecord) := by
    refine (opening_ok (by decide)).2 ⟨h.wire_length, ?_, ?_⟩
    · rw [hwire, buildTargetAssignmentsWire_length]
      exact Nat.le_add_right _ _
    · rw [hwire, buildTargetAssignmentsWire, List.append_assoc _ _ (List.flatMap _ _)]
  rw [← hwire] at hbody
  exact ok_bind hopen <| ok_bind hbody <| ok_bind (wrapErr_ok.2 hnew) <|
    ok_check (not_not.2 rfl) rfl

theorem TargetAssignments.decode_ok {frame : Bytes} (h : TargetAssignments.decode sha256 frame = .ok t) :
    t.Built sha256 ∧ t.canonicalWire = frame := by
  simp only [decode, bind_ok, exists_unit, wrapErr_ok, rejectIf_ok, not_not, ne_eq, pure_ok] at h
  obtain ⟨body, _, xs, _, t', hnew, hwire, rfl⟩ := h
  exact ⟨⟨xs, hnew⟩, hwire⟩

theorem TargetAssignments.avoids_decode (sha256 : Sha256) (frame : Bytes) :
    Avoids .panic (TargetAssignments.decode sha256 frame) := by
  refine avoids_bind (avoids_opening (by decide)) fun body hopen => ?_
  have hroom := (opening_room 4 (by decide) hopen).2
  refine avoids_bind (avoids_run ?_) fun xs _ => ?_
  · refine avoids_word hroom fun n rest _ => avoids_check (avoids_refuse _ _) fun _ _ => ?_
    refine avoids_check (avoids_mulU64 _ _ nofun) fun _ _ => avoids_check (avoids_addU64 _ _ nofun) fun _ _ => ?_
    refine avoids_check (avoids_fill _ _ _) fun _ _ => avoids_remaining <| avoids_last ?_
    exact avoids_eachRecord spends_decodeAssignmentRecord _
  · exact avoids_bind (avoids_renamed _ _) fun _ _ => avoids_bind (avoids_refuse _ _) fun _ _ => avoids_of_ok rfl

theorem TargetAssignments.exact (sha256 : Sha256) :
    Exact (TargetAssignments.Built sha256) TargetAssignments.canonicalWire (TargetAssignments.decode sha256) where
  decodes _ h := h.decode
  accepted _ _ h := TargetAssignments.decode_ok h
  safe := TargetAssignments.avoids_decode sha256

end Plan
end ParaEgox
