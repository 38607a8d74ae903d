import ParaEgox.TargetAssignmentsCodec
import ParaEgox.TargetExecution

/-!
# TargetExecutionCodec — execution plans have one order, one encoding and one meaning

As for the assignments: records are read back from their 64 and 236 bytes, the order of domains and executions is
forgotten, and the decoder accepts exactly the bytes of the plans that can be built.
-/
namespace ParaEgox
namespace Plan

open Check Wire Fields Frames Keyed
open Dispatch (DispatchClass)

/-! ## Records -/

theorem decodeCallModel_code (m : CallModel) : decodeCallModel m.code = some m := by cases m <;> rfl
theorem decodeWorkloadKind_code (k : WorkloadKind) : decodeWorkloadKind k.code = some k := by cases k <;> rfl
theorem decodeBlockingRisk_code (r : BlockingRisk) : decodeBlockingRisk r.code = some r := by cases r <;> rfl
theorem decodeRunBoundProvenance_code (p : RunBoundProvenance) : decodeRunBoundProvenance p.code = some p := by
  cases p <;> rfl
theorem decodeDispatchClass_code (c : DispatchClass) : decodeDispatchClass (DispatchClass.code c) = some c := by
  cases c <;> rfl
theorem decodeOverrunAction_code (a : OverrunAction) : decodeOverrunAction a.code = some a := by cases a <;> rfl

theorem LoopDomainCapacity.tryNew_fields (c : LoopDomainCapacity) :
    LoopDomainCapacity.tryNew c.maxOutstanding c.controlReserved c.capacityWindow c.controlReservedRunBudget = .ok c :=
  ok_bind (require_ok ⟨c.outstanding⟩) <| ok_bind (require_ok ⟨c.reserved⟩) <|
    ok_bind (require_ok ⟨c.window⟩) <| ok_bind (require_ok ⟨c.control⟩) rfl

theorem LoopLifecycleBudgets.tryNew_fields (b : LoopLifecycleBudgets) :
    LoopLifecycleBudgets.tryNew b.startBudget b.drainBudget b.cleanupBudget = .ok b :=
  ok_bind (require_ok ⟨b.valid⟩) rfl

theorem LoopExecutionRequirements.tryNew_fields (r : LoopExecutionRequirements) : LoopExecutionRequirements.tryNew
    r.callModel r.workloadKind r.blockingRisk r.runBoundProvenance r.maxNonpreemptiveRun = .ok r :=
  ok_bind (require_ok ⟨r.valid⟩) rfl

theorem CallbackBudgets.tryNew_fields (b : CallbackBudgets) :
    CallbackBudgets.tryNew b.runBudget b.cleanupBudget b.overrunAction = .ok b :=
  ok_bind (require_ok ⟨b.valid⟩) rfl

theorem MailboxDispatchPolicy.tryNew_fields (p : MailboxDispatchPolicy) : MailboxDispatchPolicy.tryNew p.dispatchClass
    p.serviceCostTokens p.minimumServiceWeight p.maxBurst p.arrivals p.callbackBudgets = .ok p :=
  ok_bind (require_ok ⟨p.cost⟩) <| ok_bind (require_ok ⟨p.weight⟩) <| ok_bind (require_ok ⟨p.burst⟩) <|
    ok_bind (require_ok ⟨p.bounded⟩) rfl

theorem MailboxExecutionSpec.tryNew_fields (x : MailboxExecutionSpec) : MailboxExecutionSpec.tryNew x.bindingId x.mailbox
    x.targetInstance x.domain x.subject x.requirements x.dispatch = .ok x :=
  ok_bind (require_ok ⟨x.runs⟩) rfl

theorem domainRecord_length (d : LoopDomainSpec) : (domainRecord d).length = loopDomainRecordBytes := by
  simp only [domainRecord, List.length_flatten, List.map_cons, List.map_nil, List.sum_cons, List.sum_nil,
    Ref16.asBytes_length, bytesBE_length]
  rfl

theorem subjectBytes_length (s : CardSubjectSpec) : (subjectBytes s).length = 128 := by
  simp only [subjectBytes, List.length_flatten, List.map_cons, List.map_nil, List.sum_cons, List.sum_nil,
    Ref16.asBytes_length, Digest32.asBytes_length]
  rfl

theorem mailboxExecutionRecord_length (x : MailboxExecutionSpec) :
    (mailboxExecutionRecord x).length = mailboxExecutionRecordBytes := by
  simp only [mailboxExecutionRecord, List.length_flatten, List.map_cons, List.map_nil, List.sum_cons, List.sum_nil,
    Ref16.asBytes_length, subjectBytes_length, bytesBE_length, List.length_singleton]
  rfl

theorem decodeDomainRecord_reads (index : UInt32) (d : LoopDomainSpec) :
    Reads (decodeDomainRecord index) (domainRecord d) d := by
  refine reads_field (reads_ref16 _ _) <| reads_field (reads_u32 _ _) <| reads_field (reads_u32 _ _) <|
    reads_field (reads_u64 _ _) <| reads_field (reads_u64 _ _) <| reads_field (reads_u64 _ _) <|
    reads_field (reads_u64 _ _) <| reads_field (reads_u64 _ _) ?_
  exact reads_check (mapErr_ok.2 d.capacity.tryNew_fields) <|
    reads_check (mapErr_ok.2 d.lifecycle.tryNew_fields) (reads_pure d)

theorem decodeSubject_reads {ε : Type} (s : CardSubjectSpec) :
    Reads (decodeSubject : Cursor ε CardSubjectSpec) (subjectBytes s) s := by
  refine reads_field (reads_ref16 _ _) <| reads_field (reads_ref16 _ _) <| reads_field (reads_digest _ _) <|
    reads_field (reads_digest _ _) <| reads_field (reads_digest _ _) ?_
  exact reads_done s

theorem decodeMailboxExecutionRecord_reads (index : UInt32) (x : MailboxExecutionSpec) :
    Reads (decodeMailboxExecutionRecord index) (mailboxExecutionRecord x) x := by
  refine reads_field (reads_ref16 _ _) <| reads_field (reads_ref16 _ _) <| reads_field (reads_ref16 _ _) <|
    reads_field (reads_ref16 _ _) <| reads_field (decodeSubject_reads _) <|
    reads_field (coded_reads (decodeCallModel_code _)) <| reads_field (coded_reads (decodeWorkloadKind_code _)) <|
    reads_field (coded_reads (decodeBlockingRisk_code _)) <|
    reads_field (coded_reads (decodeRunBoundProvenance_code _)) <|
    reads_field (coded_reads (decodeDispatchClass_code _)) <| reads_field (reads_u32 _ _) <|
    reads_field (reads_u32 _ _) <| reads_field (reads_u16 _ _) <| reads_field (reads_u32 _ _) <|
    reads_field (reads_u64 _ _) <| reads_field (reads_u64 _ _) <| reads_field (reads_u64 _ _) <|
    reads_field (coded_reads (decodeOverrunAction_code _)) ?_
  exact reads_check (mapErr_ok.2 x.requirements.tryNew_fields) <|
    reads_check (mapErr_ok.2 x.dispatch.callbackBudgets.tryNew_fields) <|
    reads_check (mapErr_ok.2 x.dispatch.tryNew_fields) <| reads_lift (mapErr_ok.2 x.tryNew_fields)

theorem spends_decodeDomainRecord (index : UInt32) : Spends (decodeDomainRecord index) loopDomainRecordBytes :=
  spends_bind spends_ref16 fun _ => spends_bind spends_u32 fun _ => spends_bind spends_u32 fun _ =>
    spends_bind spends_u64 fun _ => spends_bind spends_u64 fun _ => spends_bind spends_u64 fun _ =>
    spends_bind spends_u64 fun _ => spends_bind spends_u64 fun _ => spends_check (avoids_replaced _ _) fun _ =>
    spends_check (avoids_replaced _ _) fun _ => spends_pure _

theorem spends_decodeSubject {ε : Type} : Spends (decodeSubject : Cursor ε CardSubjectSpec) 128 :=
  spends_bind spends_ref16 fun _ => spends_bind spends_ref16 fun _ => spends_bind spends_digest fun _ =>
    spends_bind spends_digest fun _ => spends_bind spends_digest fun _ => spends_pure _

theorem spends_decodeMailboxExecutionRecord (index : UInt32) :
    Spends (decodeMailboxExecutionRecord index) mailboxExecutionRecordBytes :=
  spends_bind spends_ref16 fun _ => spends_bind spends_ref16 fun _ => spends_bind spends_ref16 fun _ =>
    spends_bind spends_ref16 fun _ => spends_bind spends_decodeSubject fun _ => spends_bind (spends_coded _ _) fun _ =>
    spends_bind (spends_coded _ _) fun _ => spends_bind (spends_coded _ _) fun _ =>
    spends_bind (spends_coded _ _) fun _ => spends_bind (spends_coded _ _) fun _ => spends_bind spends_u32 fun _ =>
    spends_bind spends_u32 fun _ => spends_bind spends_u16 fun _ => spends_bind spends_u32 fun _ =>
    spends_bind spends_u64 fun _ => spends_bind spends_u64 fun _ => spends_bind spends_u64 fun _ =>
    spends_bind (spends_coded _ _) fun _ => spends_check (avoids_replaced _ _) fun _ =>
    spends_check (avoids_replaced _ _) fun _ => spends_check (avoids_replaced _ _) fun _ =>
    spends_lift (avoids_replaced _ _)

/-! ## The plan -/

structure ExecutionRecords (domains : List LoopDomainSpec) (mailboxes : List MailboxExecutionSpec) : Prop where
  distinctDomains : (domains.map LoopDomainSpec.domain).Nodup
  distinctBindings : (mailboxes.map MailboxExecutionSpec.bindingId).Nodup
  distinctMailboxes : (mailboxes.map MailboxExecutionSpec.mailbox).Nodup
  planned : ∀ x ∈ mailboxes, ∃ d ∈ domains, d.domain = x.domain
  used : ∀ d ∈ domains, ∃ x ∈ mailboxes, x.domain = d.domain

theorem distinctDomains_ok {α ε : Type} {domain : α → Ref16} {e : ε} {xs : List α}
    (h : amongEarlier (fun previous d => rejectIf (domain previous = domain d) e) (fun _ => .ok ()) [] xs = .ok ()) :
    (xs.map domain).Nodup := by
  refine List.pairwise_map.2 ((amongEarlier_ok.1 h).2.1.imp ?_)
  exact fun hab => rejectIf_ok.1 hab

/-- **Valid records are distinct, and domains and executions cover each other.** -/
theorem validateExecutionRecords_ok {domains : List LoopDomainSpec} {mailboxes : List MailboxExecutionSpec}
    (h : validateExecutionRecords domains mailboxes = .ok ()) : ExecutionRecords domains mailboxes := by
  simp only [validateExecutionRecords, bind_ok, exists_unit, forEach_ok] at h
  obtain ⟨hdomains, hexecutions, hused⟩ := h
  obtain ⟨_, hpairs, hplanned⟩ := amongEarlier_ok.1 hexecutions
  have hdistinct {a b : MailboxExecutionSpec} (hab : distinctExecutions a b = .ok ()) :
      a.bindingId ≠ b.bindingId ∧ a.mailbox ≠ b.mailbox := by
    simpa only [distinctExecutions, bind_ok, exists_unit, rejectIf_ok, ne_eq] using hab
  refine ⟨distinctDomains_ok hdomains, ?_, ?_, fun x hx => ?_, fun d hd => ?_⟩
  · exact List.pairwise_map.2 (hpairs.imp fun hab => (hdistinct hab).1)
  · exact List.pairwise_map.2 (hpairs.imp fun hab => (hdistinct hab).2)
  · have halone := hplanned x hx
    simp only [validateExecution, bind_ok, exists_unit, rejectIf_ok, not_not] at halone
    exact halone.1
  · have hd := hused d hd
    simp only [rejectIf_ok, not_not] at hd
    exact hd.1

theorem ExecutionRecords.keys {domains : List LoopDomainSpec} {mailboxes : List MailboxExecutionSpec}
    (h : ExecutionRecords domains mailboxes) : (mailboxes.map MailboxExecutionSpec.key).Nodup := by
  refine List.pairwise_map.2 ((List.pairwise_map.1 h.distinctBindings).imp ?_)
  intro a b hab hkey
  exact hab (congrArg (fun k => (ofLex k).1) hkey)

theorem buildTargetExecutionWire_length (domains : List LoopDomainSpec) (mailboxes : List MailboxExecutionSpec) :
    (buildTargetExecutionWire domains mailboxes).length = targetExecutionHeaderBytes
      + domains.length * loopDomainRecordBytes + mailboxes.length * mailboxExecutionRecordBytes := by
  have hdomains := flatMap_length domainRecord_length domains
  have hmailboxes := flatMap_length mailboxExecutionRecord_length mailboxes
  have hmagic : targetExecutionMagic.length = 4 := rfl
  simp only [buildTargetExecutionWire, List.length_append, hdomains, hmailboxes, hmagic, bytesBE_length]
  unfold targetExecutionHeaderBytes
  omega

variable (sha256 : Sha256)

/-- What `try_new` builds of sorted records. -/
def targetExecutionPlan (domains : List LoopDomainSpec) (mailboxes : List MailboxExecutionSpec) : TargetExecutionPlan where
  domains := domains
  mailboxes := mailboxes
  canonicalWire := buildTargetExecutionWire domains mailboxes
  executionDigest := sha256 (digestInput targetExecutionDigestDomain [buildTargetExecutionWire domains mailboxes])

structure ExecutionCounts (domains : List LoopDomainSpec) (mailboxes : List MailboxExecutionSpec) : Prop where
  domains_ne : domains ≠ []
  mailboxes_ne : mailboxes ≠ []
  domains_le : domains.length ≤ maxLoopDomains
  mailboxes_le : mailboxes.length ≤ maxMailboxExecutions

variable {xs : List MailboxExecutionSpec} {ds : List LoopDomainSpec}

theorem ExecutionCounts.perm {ds' : List LoopDomainSpec} {xs' : List MailboxExecutionSpec}
    (h : ExecutionCounts ds xs) (hd : ds.Perm ds') (hx : xs.Perm xs') : ExecutionCounts ds' xs' where
  domains_ne := fun hnil => h.domains_ne (List.perm_nil.1 (hnil ▸ hd))
  mailboxes_ne := fun hnil => h.mailboxes_ne (List.perm_nil.1 (hnil ▸ hx))
  domains_le := hd.length_eq ▸ h.domains_le
  mailboxes_le := hx.length_eq ▸ h.mailboxes_le

theorem ExecutionCounts.wire_length
    (h : ExecutionCounts ds xs) : (buildTargetExecutionWire ds xs).length ≤ maxTargetExecutionPlanBytes := by
  rw [buildTargetExecutionWire_length]
  exact Nat.add_le_add (Nat.add_le_add_left (Nat.mul_le_mul_right _ h.domains_le) _)
    (Nat.mul_le_mul_right _ h.mailboxes_le)

theorem digestTargetExecution_ok (h : ExecutionCounts ds xs) :
    digestTargetExecution sha256 (buildTargetExecutionWire ds xs) =
      .ok (targetExecutionPlan sha256 ds xs).executionDigest := by
  have hlength := h.wire_length
  have hmax : maxTargetExecutionPlanBytes < 2 ^ 64 := by decide
  refine (digest32_ok ..).2 ⟨by decide, by decide, Nat.one_lt_two_pow (by decide), ?_, rfl⟩
  intro f hf
  rw [List.mem_singleton.1 hf]
  omega

theorem TargetExecutionPlan.tryNew_ok {p : TargetExecutionPlan} : TargetExecutionPlan.tryNew sha256 ds xs = .ok p ↔
      ExecutionCounts ds xs ∧
        validateExecutionRecords (sortBy LoopDomainSpec.domain ds) (sortBy MailboxExecutionSpec.key xs) = .ok () ∧
        p = targetExecutionPlan sha256 (sortBy LoopDomainSpec.domain ds) (sortBy MailboxExecutionSpec.key xs) := by
  have hperm (h : ExecutionCounts ds xs) := h.perm (sortBy_perm LoopDomainSpec.domain ds).symm
    (sortBy_perm MailboxExecutionSpec.key xs).symm
  constructor
  · intro h
    simp only [tryNew, bind_ok, exists_unit, rejectIf_ok, not_lt, wrapErr_ok, pure_ok] at h
    obtain ⟨hd, hx, hds, hxs, hvalid, digest, hdigest, rfl⟩ := h
    have hcounts : ExecutionCounts ds xs := ⟨hd, hx, hds, hxs⟩
    rw [digestTargetExecution_ok sha256 (hperm hcounts), Except.ok.injEq] at hdigest
    exact ⟨hcounts, hvalid, by rw [← hdigest]; rfl⟩
  · rintro ⟨hcounts, hvalid, rfl⟩
    have hdigest := digestTargetExecution_ok sha256 (hperm hcounts)
    exact ok_check hcounts.domains_ne <| ok_check hcounts.mailboxes_ne <|
      ok_check (not_lt.2 hcounts.domains_le) <|
      ok_check (not_lt.2 hcounts.mailboxes_le) <| ok_bind hvalid <|
      ok_bind (wrapErr_ok.2 hdigest) rfl

def TargetExecutionPlan.Built (p : TargetExecutionPlan) : Prop :=
  ∃ ds xs, TargetExecutionPlan.tryNew sha256 ds xs = .ok p

variable {sha256} {p : TargetExecutionPlan}

theorem ascending_records
    (h : validateExecutionRecords (sortBy LoopDomainSpec.domain ds) (sortBy MailboxExecutionSpec.key xs) = .ok ()) :
    (ds.map LoopDomainSpec.domain).Nodup ∧ (xs.map MailboxExecutionSpec.key).Nodup := by
  have hrecords := validateExecutionRecords_ok h
  exact ⟨((sortBy_perm _ ds).map _).nodup_iff.1 hrecords.distinctDomains, ((sortBy_perm _ xs).map _).nodup_iff.1 hrecords.keys⟩

theorem TargetExecutionPlan.Built.again (h : p.Built sha256) :
    Ascending LoopDomainSpec.domain p.domains ∧ Ascending MailboxExecutionSpec.key p.mailboxes ∧
      TargetExecutionPlan.tryNew sha256 p.domains p.mailboxes = .ok p := by
  obtain ⟨ds, xs, hnew⟩ := h
  obtain ⟨hcounts, hvalid, rfl⟩ := (TargetExecutionPlan.tryNew_ok sha256).1 hnew
  obtain ⟨hdomains, hkeys⟩ := ascending_records hvalid
  have hds := ascending_sortBy LoopDomainSpec.domain hdomains
  have hxs := ascending_sortBy MailboxExecutionSpec.key hkeys
  refine ⟨hds, hxs, (TargetExecutionPlan.tryNew_ok sha256).2 ⟨?_, ?_, ?_⟩⟩
  · exact hcounts.perm (sortBy_perm _ ds).symm (sortBy_perm _ xs).symm
  · exact (hds.sortBy_eq _).symm ▸ (hxs.sortBy_eq _).symm ▸ hvalid
  · exact congrArg₂ (targetExecutionPlan sha256) (hds.sortBy_eq _).symm (hxs.sortBy_eq _).symm

theorem TargetExecutionPlan.Built.counts (h : p.Built sha256) : ExecutionCounts p.domains p.mailboxes :=
  ((TargetExecutionPlan.tryNew_ok sha256).1 h.again.2.2).1

theorem TargetExecutionPlan.Built.eq (h : p.Built sha256) : p = targetExecutionPlan sha256 p.domains p.mailboxes := by
  obtain ⟨hds, hxs, hnew⟩ := h.again
  have heq := ((TargetExecutionPlan.tryNew_ok sha256).1 hnew).2.2
  rwa [hds.sortBy_eq, hxs.sortBy_eq] at heq

theorem TargetExecutionPlan.Built.wire_length (h : p.Built sha256) :
    p.canonicalWire.length ≤ maxTargetExecutionPlanBytes := by
  have hlength := h.counts.wire_length
  rw [h.eq]
  exact hlength

theorem TargetExecutionPlan.validate_ok : p.validate sha256 = .ok () ↔ p.Built sha256 := by
  constructor
  · intro h
    simp only [validate, bind_ok, exists_unit, rejectIf_ok, not_not, ne_eq, not_or] at h
    obtain ⟨rebuilt, hnew, ⟨hdomains, hmailboxes⟩, hwire, hdigest⟩ := h
    obtain ⟨_, _, _, _⟩ := p
    obtain ⟨_, _, _, _⟩ := rebuilt
    cases hdomains
    cases hmailboxes
    cases hwire
    cases hdigest
    exact ⟨_, _, hnew⟩
  · intro h
    exact ok_bind h.again.2.2 <| ok_check (by simp) <| ok_check (not_not.2 rfl) <|
      rejectIf_neg (not_not.2 rfl)

theorem TargetExecutionPlan.tryNew_perm {ds' : List LoopDomainSpec} {xs' : List MailboxExecutionSpec}
    (hd : ds.Perm ds') (hx : xs.Perm xs') (h : TargetExecutionPlan.tryNew sha256 ds xs = .ok p) :
    TargetExecutionPlan.tryNew sha256 ds' xs' = .ok p := by
  obtain ⟨hcounts, hvalid, rfl⟩ := (TargetExecutionPlan.tryNew_ok sha256).1 h
  obtain ⟨hdomains, hkeys⟩ := ascending_records hvalid
  have hds := sortBy_of_perm LoopDomainSpec.domain hd hdomains
  have hxs := sortBy_of_perm MailboxExecutionSpec.key hx hkeys
  exact (TargetExecutionPlan.tryNew_ok sha256).2 ⟨hcounts.perm hd hx, hds ▸ hxs ▸ hvalid, by rw [hds, hxs]⟩

/-! ## Round trips -/

theorem targetExecutionBody_wire (h : ExecutionCounts ds xs) :
    (targetExecutionBody (buildTargetExecutionWire ds xs)).on (bytesBE 4 ds.length ++
      (bytesBE 4 xs.length ++ (ds.flatMap domainRecord ++ xs.flatMap mailboxExecutionRecord))) = .ok (ds, xs) := by
  have hlength := buildTargetExecutionWire_length ds xs
  have hroom := h.wire_length
  have hmax : maxTargetExecutionPlanBytes ≤ u64Max := by decide
  have hdomains := flatMap_length domainRecord_length ds
  have hds : eachRecord loopDomainRecordBytes decodeDomainRecord (ds.flatMap domainRecord) = .ok ds :=
    eachRecord_flatMap (by decide) domainRecord_length decodeDomainRecord_reads
  have hxs : eachRecord mailboxExecutionRecordBytes decodeMailboxExecutionRecord (xs.flatMap mailboxExecutionRecord)
      = .ok xs :=
    eachRecord_flatMap (by decide) mailboxExecutionRecord_length decodeMailboxExecutionRecord_reads
  have hpart : (part (ds.length * loopDomainRecordBytes) : Cursor ExecutionWireError Bytes)
      = part (ds.flatMap domainRecord).length := by rw [hdomains]
  refine on_of_consumes <| consumes_word (h.domains_le.trans_lt (by decide)) <|
    consumes_word (h.mailboxes_le.trans_lt (by decide)) <|
    consumes_check (rejectIf_neg (not_lt.2 h.domains_le)) <|
    consumes_check (rejectIf_neg (not_lt.2 h.mailboxes_le)) <| consumes_check ((mulU64_ok ..).2 ⟨by omega, rfl⟩) <|
    consumes_check ((mulU64_ok ..).2 ⟨by omega, rfl⟩) <| consumes_check (addU64_ok.2 ⟨by omega, rfl⟩) <|
    consumes_check (addU64_ok.2 ⟨by omega, rfl⟩) <| consumes_check ((fill_ok _ _ _ ()).2 hlength) ?_
  rw [hpart]
  exact consumes_part <| consumes_check hds <| consumes_remaining <| consumes_check hxs rfl

theorem TargetExecutionPlan.Built.decode (h : p.Built sha256) :
    TargetExecutionPlan.decode sha256 p.canonicalWire = .ok p := by
  have hnew := h.again.2.2
  have hwire : p.canonicalWire = buildTargetExecutionWire p.domains p.mailboxes :=
    congrArg TargetExecutionPlan.canonicalWire h.eq
  have hbody := targetExecutionBody_wire h.counts
  rw [← hwire] at hbody
  refine ok_bind ((opening_ok (by decide)).2 ⟨h.wire_length, ?_, ?_⟩) <| ok_bind hbody <|
    ok_bind (wrapErr_ok.2 hnew) <| ok_check (not_not.2 rfl) rfl
  · rw [hwire, buildTargetExecutionWire_length]
    omega
  · rw [hwire, buildTargetExecutionWire]

theorem TargetExecutionPlan.decode_ok {frame : Bytes} (h : TargetExecutionPlan.decode sha256 frame = .ok p) :
    p.Built sha256 ∧ p.canonicalWire = frame := by
  simp only [decode, bind_ok, exists_unit, wrapErr_ok, rejectIf_ok, not_not, ne_eq, pure_ok] at h
  obtain ⟨body, _, records, _, p', hnew, hwire, rfl⟩ := h
  exact ⟨⟨_, _, hnew⟩, hwire⟩

theorem TargetExecutionPlan.avoids_decode (sha256 : Sha256) (frame : Bytes) :
    Avoids .panic (TargetExecutionPlan.decode sha256 frame) := by
  refine avoids_bind (avoids_opening (by decide)) fun body hopen => ?_
  obtain ⟨hframe, hroom⟩ := opening_room 8 (by decide) hopen
  have hmagic : targetExecutionMagic.length = 4 := rfl
  refine avoids_bind (avoids_run ?_) fun records _ => ?_
  · refine avoids_word (by omega) fun n rest hn => avoids_word ?_ fun m rest' hm => ?_
    · omega
    refine avoids_check (avoids_refuse _ _) fun _ _ => avoids_check (avoids_refuse _ _) fun _ _ => ?_
    refine avoids_check (avoids_mulU64 _ _ nofun) fun domainBytes _ => ?_
    refine avoids_check (avoids_mulU64 _ _ nofun) fun mailboxBytes _ => ?_
    refine avoids_check (avoids_addU64 _ _ nofun) fun withDomains hwith => ?_
    refine avoids_check (avoids_addU64 _ _ nofun) fun expected hexpected => ?_
    refine avoids_check (avoids_fill _ _ _) fun _ hfill => ?_
    have hlength : domainBytes ≤ rest'.length := by
      have hwith := (addU64_ok.1 hwith).2
      have hexpected := (addU64_ok.1 hexpected).2
      have hfill := (fill_ok ..).1 hfill
      unfold targetExecutionHeaderBytes at hwith
      omega
    refine avoids_part hlength fun taken last _ => ?_
    refine avoids_check (avoids_eachRecord spends_decodeDomainRecord _) fun ds _ => avoids_remaining ?_
    exact avoids_check (avoids_eachRecord spends_decodeMailboxExecutionRecord _) fun xs _ => avoids_of_ok rfl
  · exact avoids_bind (avoids_renamed _ _) fun _ _ => avoids_bind (avoids_refuse _ _) fun _ _ => avoids_of_ok rfl

theorem TargetExecutionPlan.exact (sha256 : Sha256) :
    Exact (TargetExecutionPlan.Built sha256) TargetExecutionPlan.canonicalWire (TargetExecutionPlan.decode sha256) where
  decodes _ h := h.decode
  accepted _ _ h := TargetExecutionPlan.decode_ok h
  safe := TargetExecutionPlan.avoids_decode sha256

/-! ## A control mailbox and its peer -/

def sampleDomain : LoopDomainSpec :=
  ⟨.ofNat 1, ⟨2, 1, 1000, 500, by decide, by decide, by decide, by decide⟩, ⟨10, 10, 50, by decide⟩⟩

def sampleMailbox (key : Nat) (dispatchClass : DispatchClass) : MailboxExecutionSpec where
  bindingId := .ofNat key
  mailbox := .ofNat (key + 1)
  targetInstance := .ofNat (key + 2)
  domain := .ofNat 1
  subject := ⟨0, 0, 0, 0, 0⟩
  requirements := ⟨.cooperativeAsync, .io, .none, .measured, 40, by decide⟩
  dispatch := ⟨dispatchClass, 1, 1, 1, 2, ⟨50, 50, .cooperativeCancel, by decide⟩, by decide, by decide, one16, by decide⟩
  runs := (by decide : (40 : UInt64) ≤ 50)

def sampleBinding (key : Nat) : BindingAssignment where
  bindingId := .ofNat key
  source := ⟨.ofNat (key + 3), .ofNat (key + 4), ⟨.outgoing, ⟨.ofNat 8, 1, 0, one32⟩, .signal, .one⟩⟩
  target := ⟨.ofNat (key + 2), .ofNat (key + 5), ⟨.incoming, ⟨.ofNat 8, 1, 0, one32⟩, .signal, .one⟩⟩
  mailbox := .ofNat (key + 1)
  delivery := ⟨8, 1000, .latest, by decide, by decide⟩
  mailboxSpec := ⟨1, 8, 1000, 1, 8, .latest, one32, by decide, by decide, one32, by decide⟩
  leaves := rfl
  enters := rfl
  sameSchema := rfl
  sameInteraction := rfl
  sameOverflow := rfl
  ageBounded := by decide
  holdsPayload := by decide
  retainsCapacity := by decide
  lossless h := by cases h

def sampleBindings : TargetAssignments := targetAssignments (fun _ => 0) [sampleBinding 2, sampleBinding 12]

def sampleExecution : TargetExecutionPlan :=
  targetExecutionPlan (fun _ => 0) [sampleDomain] [sampleMailbox 2 .control, sampleMailbox 12 .stream]

theorem sampleBindings_built : sampleBindings.Built (fun _ => 0) :=
  ⟨[sampleBinding 2, sampleBinding 12], (TargetAssignments.tryNew_ok _).2 ⟨by decide +kernel, by decide +kernel, rfl⟩⟩

theorem sampleExecution_built : sampleExecution.Built (fun _ => 0) :=
  ⟨[sampleDomain], [sampleMailbox 2 .control, sampleMailbox 12 .stream], by decide +kernel⟩

end Plan
end ParaEgox
