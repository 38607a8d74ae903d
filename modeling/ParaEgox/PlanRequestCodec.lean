import ParaEgox.ApplyEnvelopeCodec
import ParaEgox.PlanRequest
import ParaEgox.TargetExecutionCodec

/-!
# PlanRequestCodec — assignments and plans travel unchanged

The requests of all versions are exact formats because their parts are: the words of the header split a frame in one way
only.  The digest of an accepted request is recomputed from the bodies it carries, so that requests with one envelope carry
one plan or exhibit a collision.
-/
namespace ParaEgox
namespace Plan

open Check Wire Fields Frames
open Envelope (RuntimeApplyEnvelope RuntimeSliceCommitment)

variable {A E ε η : Type} {sha256 : Sha256}

/-! ## Slices and requests -/

def ApplyRequest.Built (kind : RequestKind A ε) (sha256 : Sha256) (r : ApplyRequest A) : Prop :=
  ∃ envelope slice, ApplyRequest.tryNew kind sha256 envelope slice = .ok r

/-- What the theorems below ask of a version: its plans are those it can build, and the largest of them fits a frame. -/
structure LawfulRequest (kind : RequestKind A ε) (sha256 : Sha256) (Built : A → Prop) : Prop where
  version_lt : kind.version < 2 ^ 16
  validate_ok : ∀ a, kind.validate a = .ok () ↔ Built a
  fits : ∀ e : RuntimeApplyEnvelope, ∀ s : PlanSlice A, e.Built sha256 → Built s.assignments →
    (ApplyRequest.buildWire kind e s).length ≤ kind.maxBytes

section Requests

variable {kind : RequestKind A ε} {Built : A → Prop} (lawful : LawfulRequest kind sha256 Built)
include lawful

theorem PlanSlice.validate_ok {s : PlanSlice A} : s.validate kind sha256 = .ok () ↔
    s.commitment.validate sha256 = .ok () ∧ Built s.assignments ∧
      s.commitment.header.assignmentDigest = kind.assignmentDigest s.assignments := by
  simp only [validate, bind_ok, exists_unit, wrapErr_ok, rejectIf_ok, not_not, ne_eq, lawful.validate_ok]

variable {e : RuntimeApplyEnvelope} {r : ApplyRequest A}

theorem ApplyRequest.tryNew_ok {s : PlanSlice A} : ApplyRequest.tryNew kind sha256 e s = .ok r ↔
      e.Built sha256 ∧ s.validate kind sha256 = .ok () ∧ e.controlCommitment.slice = s.commitment ∧
        r = ⟨e, s, buildWire kind e s⟩ := by
  simp only [tryNew, bind_ok, exists_unit, wrapErr_ok, rejectIf_ok, not_not, ne_eq, not_lt, pure_ok,
    RuntimeApplyEnvelope.validate_ok]
  constructor
  · rintro ⟨henvelope, hslice, hmatch, -, rfl⟩
    exact ⟨henvelope, hslice, hmatch, rfl⟩
  · rintro ⟨henvelope, hslice, hmatch, rfl⟩
    exact ⟨henvelope, hslice, hmatch, lawful.fits e s henvelope ((PlanSlice.validate_ok lawful).1 hslice).2.1, rfl⟩

theorem assembleRequest_ok {a : A} : assembleRequest kind sha256 e a = .ok r ↔
      e.Built sha256 ∧ Built a ∧ e.controlCommitment.slice.validate sha256 = .ok () ∧
        e.controlCommitment.slice.header.assignmentDigest = kind.assignmentDigest a ∧
        r = ⟨e, ⟨e.controlCommitment.slice, a⟩, ApplyRequest.buildWire kind e ⟨e.controlCommitment.slice, a⟩⟩ := by
  simp only [assembleRequest, PlanSlice.tryNew, bind_ok, exists_unit, mapErr_ok, pure_ok,
    ApplyRequest.tryNew_ok lawful, PlanSlice.validate_ok lawful]
  constructor
  · rintro ⟨s, ⟨⟨hcommitment, hbuilt, hdigest⟩, rfl⟩, henvelope, -, -, rfl⟩
    exact ⟨henvelope, hbuilt, hcommitment, hdigest, rfl⟩
  · rintro ⟨henvelope, hbuilt, hcommitment, hdigest, rfl⟩
    exact ⟨_, ⟨⟨hcommitment, hbuilt, hdigest⟩, rfl⟩, henvelope, ⟨hcommitment, hbuilt, hdigest⟩, rfl, rfl⟩

theorem ApplyRequest.Built.assemble (h : r.Built kind sha256) :
    assembleRequest kind sha256 r.envelope r.slice.assignments = .ok r := by
  obtain ⟨e, ⟨commitment, a⟩, hnew⟩ := h
  obtain ⟨henvelope, hslice, hmatch, rfl⟩ := (ApplyRequest.tryNew_ok lawful).1 hnew
  obtain ⟨hcommitment, hbuilt, hdigest⟩ := (PlanSlice.validate_ok lawful).1 hslice
  dsimp only at hmatch hcommitment hbuilt hdigest
  subst hmatch
  exact (assembleRequest_ok lawful).2 ⟨henvelope, hbuilt, hcommitment, hdigest, rfl⟩

omit lawful in
theorem built_of_assemble {a : A} (h : assembleRequest kind sha256 e a = .ok r) : r.Built kind sha256 := by
  simp only [assembleRequest, bind_ok, mapErr_ok] at h
  obtain ⟨s, -, hnew⟩ := h
  exact ⟨e, s, hnew⟩

end Requests

theorem avoids_assembleRequest (kind : RequestKind A ε) (e : RuntimeApplyEnvelope) (a : A) :
    Avoids .panic (assembleRequest kind sha256 e a) :=
  avoids_bind (avoids_replaced _ _) fun _ _ => avoids_replaced _ _

theorem avoids_envelope (frame : Bytes) :
    Avoids .panic (wrapErr envelopeFault (RuntimeApplyEnvelope.decode sha256 frame)) := by
  refine avoids_wrapErr fun e he => ?_
  cases e with
  | error e => cases he
  | panic => exact RuntimeApplyEnvelope.avoids_decode sha256 frame

/-! ## Plans of bindings and executions -/

def TargetPlan.Built (plan : PlanKind E ε) (sha256 : Sha256) (t : TargetPlan E) : Prop :=
  ∃ bindings execution, TargetPlan.tryNew plan sha256 bindings execution = .ok t

/-- What the theorems below ask of a version's executions: an exact format, and a digest of its bytes. -/
structure LawfulPlan (plan : PlanKind E ε) (sha256 : Sha256) (Built : E → Prop) (decode : Bytes → Res η E)
    (domain : Bytes) : Prop where
  domain_ok : plan.digestDomain ≠ [] ∧ plan.digestDomain.length < 2 ^ 32
  validate_ok : ∀ x, plan.validateExecution x = .ok () ↔ Built x
  exact : Exact Built plan.executionWire decode
  digest_eq : ∀ x, Built x → plan.executionDigest x = sha256 (digestInput domain [plan.executionWire x])

section Plans

variable {plan : PlanKind E ε} {Built : E → Prop} {decode : Bytes → Res η E} {domain : Bytes}
  (lawful : LawfulPlan plan sha256 Built decode domain)
include lawful

def planInput (plan : PlanKind E ε) (bindings : TargetAssignments) (execution : E) : Bytes :=
  digestInput plan.digestDomain [bindings.assignmentDigest.asBytes, (plan.executionDigest execution).asBytes]

omit lawful in
theorem digestAssignments_ok (h : plan.digestDomain ≠ [] ∧ plan.digestDomain.length < 2 ^ 32)
    (bindings : TargetAssignments) (execution : E) :
    TargetPlan.digestAssignments plan sha256 bindings execution = .ok (sha256 (planInput plan bindings execution)) := by
  refine (digest32_ok ..).2 ⟨h.1, h.2, ?_, ?_, rfl⟩
  · rw [List.length_cons, List.length_singleton]
    decide
  · simp only [List.forall_mem_cons, Digest32.asBytes_length]
    exact ⟨by decide, by decide, nofun⟩

variable {t : TargetPlan E}

theorem TargetPlan.tryNew_ok {bindings : TargetAssignments} {execution : E} :
    TargetPlan.tryNew plan sha256 bindings execution = .ok t ↔
      bindings.Built sha256 ∧ Built execution ∧ plan.references bindings execution = .ok () ∧
        t = ⟨bindings, execution, sha256 (planInput plan bindings execution)⟩ := by
  simp only [tryNew, bind_ok, exists_unit, wrapErr_ok, TargetAssignments.validate_ok, lawful.validate_ok, pure_ok,
    digestAssignments_ok lawful.domain_ok, Except.ok.injEq, exists_eq_left']
  constructor
  · rintro ⟨hbindings, hexecution, hreferences, rfl⟩
    exact ⟨hbindings, hexecution, hreferences, rfl⟩
  · rintro ⟨hbindings, hexecution, hreferences, rfl⟩
    exact ⟨hbindings, hexecution, hreferences, rfl⟩

theorem TargetPlan.Built.parts (h : t.Built plan sha256) :
    t.bindings.Built sha256 ∧ Built t.execution ∧ plan.references t.bindings t.execution = .ok () ∧
      t.assignmentDigest = sha256 (planInput plan t.bindings t.execution) ∧
      TargetPlan.tryNew plan sha256 t.bindings t.execution = .ok t := by
  obtain ⟨bindings, execution, hnew⟩ := h
  obtain ⟨hbindings, hexecution, hreferences, rfl⟩ := (TargetPlan.tryNew_ok lawful).1 hnew
  exact ⟨hbindings, hexecution, hreferences, rfl, hnew⟩

theorem TargetPlan.validate_ok : t.validate plan sha256 = .ok () ↔ t.Built plan sha256 := by
  have hdigest : TargetPlan.digestAssignments plan sha256 t.bindings t.execution = _ :=
    digestAssignments_ok lawful.domain_ok t.bindings t.execution
  constructor
  · intro h
    simp only [validate, bind_ok, exists_unit, wrapErr_ok, TargetAssignments.validate_ok, lawful.validate_ok, hdigest,
      Except.ok.injEq, exists_eq_left', rejectIf_ok, not_not, ne_eq] at h
    obtain ⟨hbindings, hexecution, hreferences, hsame⟩ := h
    refine ⟨t.bindings, t.execution, (TargetPlan.tryNew_ok lawful).2 ⟨hbindings, hexecution, hreferences, ?_⟩⟩
    rw [hsame]
  · intro h
    obtain ⟨hbindings, hexecution, hreferences, hsame, -⟩ := h.parts lawful
    exact ok_bind (wrapErr_ok.2 (TargetAssignments.validate_ok.2 hbindings)) <|
      ok_bind ((lawful.validate_ok _).2 hexecution) <| ok_bind hreferences <| ok_bind (wrapErr_ok.2 hdigest) <|
      rejectIf_neg (not_not.2 hsame.symm)

end Plans

/-! ## Frames of two parts -/

variable {body frame : Bytes} {headerBytes : Nat}

theorem requestParts_wire {envelope assignments : Bytes} (he : envelope.length < 2 ^ 32)
    (ha : assignments.length < 2 ^ 32)
    (hframe : frame.length = applyRequestHeaderBytes + (envelope.length + assignments.length)) :
    (requestParts frame).on (bytesBE 4 envelope.length ++ (bytesBE 4 assignments.length ++ (envelope ++ assignments))) =
      .ok (envelope, assignments) := by
  have hmax : applyRequestHeaderBytes + (2 ^ 32 + 2 ^ 32) ≤ u64Max := by decide
  exact on_of_consumes <| consumes_word he <| consumes_word ha <| consumes_check (addU64_ok.2 ⟨by omega, rfl⟩) <|
    consumes_check (addU64_ok.2 ⟨by omega, rfl⟩) <| consumes_check ((fill_ok _ _ _ ()).2 hframe) <|
    consumes_part <| consumes_remaining rfl

theorem requestParts_taken {parts : Bytes × Bytes} (hbody : frame.length = 6 + body.length)
    (h : (requestParts frame).on body = .ok parts) :
    body = bytesBE 4 parts.1.length ++ (bytesBE 4 parts.2.length ++ (parts.1 ++ parts.2)) := by
  obtain ⟨rest, h⟩ := on_ok.1 h
  simp only [requestParts, bind_reads_ok, lift_reads_ok, addU64_ok, fill_ok, exists_unit, pure_reads_ok] at h
  obtain ⟨n, _, hn, m, _, hm, _, _, ⟨⟨-, rfl⟩, rfl⟩, _, _, ⟨⟨-, rfl⟩, rfl⟩, _, ⟨hfill, rfl⟩, e, _, he, a, _, ha, rfl, -⟩ := h
  obtain ⟨rfl, -⟩ := word_taken hn
  obtain ⟨rfl, -⟩ := word_taken hm
  obtain ⟨rfl, rfl⟩ := part_taken he
  obtain ⟨rfl, -⟩ := remaining_taken ha
  simp only [List.length_append, bytesBE_length] at hbody
  unfold applyRequestHeaderBytes at hfill
  have hlength : m = a.length := by omega
  rw [hlength]

theorem avoids_requestParts (hbody : frame.length = 6 + body.length) (hroom : 8 ≤ body.length) :
    Avoids .panic ((requestParts frame).on body) := by
  refine avoids_run <| avoids_word (by omega) fun n rest hn => ?_
  refine avoids_word (by omega) fun m rest' hm => ?_
  refine avoids_check (avoids_addU64 _ _ nofun) fun component hcomponent => ?_
  refine avoids_check (avoids_addU64 _ _ nofun) fun expected hexpected => ?_
  refine avoids_check (avoids_fill _ _ _) fun _ hfill => ?_
  have hcomponent := (addU64_ok.1 hcomponent).2
  have hexpected := (addU64_ok.1 hexpected).2
  have hfill := (fill_ok ..).1 hfill
  unfold applyRequestHeaderBytes at hexpected
  exact avoids_part (by omega) fun _ _ _ => avoids_remaining (avoids_of_ok rfl)

/-! ## Frames of three parts -/

theorem planRequestParts_wire {envelope bindings execution : Bytes} (hheader : headerBytes = 18)
    (he : envelope.length < 2 ^ 32) (hb : bindings.length < 2 ^ 32) (hx : execution.length < 2 ^ 32)
    (hframe : frame.length = headerBytes + envelope.length + bindings.length + execution.length) :
    (planRequestParts headerBytes frame).on (bytesBE 4 envelope.length ++ (bytesBE 4 bindings.length ++
      (bytesBE 4 execution.length ++ (envelope ++ (bindings ++ execution))))) = .ok (envelope, bindings, execution) := by
  have hmax : 18 + (2 ^ 32 + 2 ^ 32 + 2 ^ 32) ≤ u64Max := by decide
  exact on_of_consumes <| consumes_word he <| consumes_word hb <| consumes_word hx <|
    consumes_check (addU64_ok.2 ⟨by omega, rfl⟩) <| consumes_check (addU64_ok.2 ⟨by omega, rfl⟩) <|
    consumes_check (addU64_ok.2 ⟨by omega, rfl⟩) <| consumes_check ((fill_ok _ _ _ ()).2 hframe) <|
    consumes_part <| consumes_part <| consumes_remaining rfl

theorem planRequestParts_taken (hheader : headerBytes = 18)
    {parts : Bytes × Bytes × Bytes} (hbody : frame.length = 6 + body.length)
    (h : (planRequestParts headerBytes frame).on body = .ok parts) :
    body = bytesBE 4 parts.1.length ++ (bytesBE 4 parts.2.1.length ++ (bytesBE 4 parts.2.2.length ++
      (parts.1 ++ (parts.2.1 ++ parts.2.2)))) := by
  obtain ⟨rest, h⟩ := on_ok.1 h
  simp only [planRequestParts, bind_reads_ok, lift_reads_ok, addU64_ok, fill_ok, exists_unit, pure_reads_ok] at h
  obtain ⟨n, _, hn, m, _, hm, l, _, hl, _, _, ⟨⟨-, rfl⟩, rfl⟩, _, _, ⟨⟨-, rfl⟩, rfl⟩, _, _, ⟨⟨-, rfl⟩, rfl⟩, _,
    ⟨hfill, rfl⟩, e, _, he, b, _, hb, x, _, hx, rfl, -⟩ := h
  obtain ⟨rfl, -⟩ := word_taken hn
  obtain ⟨rfl, -⟩ := word_taken hm
  obtain ⟨rfl, -⟩ := word_taken hl
  obtain ⟨rfl, rfl⟩ := part_taken he
  obtain ⟨rfl, rfl⟩ := part_taken hb
  obtain ⟨rfl, -⟩ := remaining_taken hx
  simp only [List.length_append, bytesBE_length] at hbody
  have hlength : l = x.length := by omega
  rw [hlength]

theorem avoids_planRequestParts (hheader : headerBytes = 18)
    (hbody : frame.length = 6 + body.length) (hroom : 12 ≤ body.length) :
    Avoids .panic ((planRequestParts headerBytes frame).on body) := by
  refine avoids_run <| avoids_word (by omega) fun n rest hn => ?_
  refine avoids_word (by omega) fun m rest' hm => ?_
  refine avoids_word (by omega) fun l rest'' hl => ?_
  refine avoids_check (avoids_addU64 _ _ nofun) fun withEnvelope henvelope => ?_
  refine avoids_check (avoids_addU64 _ _ nofun) fun withBindings hbindings => ?_
  refine avoids_check (avoids_addU64 _ _ nofun) fun expected hexpected => ?_
  refine avoids_check (avoids_fill _ _ _) fun _ hfill => ?_
  have henvelope := (addU64_ok.1 henvelope).2
  have hbindings := (addU64_ok.1 hbindings).2
  have hexpected := (addU64_ok.1 hexpected).2
  have hfill := (fill_ok ..).1 hfill
  refine avoids_part (by omega) fun e last he => ?_
  exact avoids_part (by omega) fun _ _ _ => avoids_remaining (avoids_of_ok rfl)

/-! ## The versions with execution plans -/

/-- What a version with execution plans adds: its request carries the bindings and the executions of its plan. -/
structure LawfulPlanRequest (plan : PlanKind E ε) (kind : RequestKind (TargetPlan E) ε) (sha256 : Sha256) (Built : E → Prop)
    (decode : Bytes → Res η E) (domain : Bytes) : Prop extends LawfulPlan plan sha256 Built decode domain where
  version_lt : kind.version < 2 ^ 16
  validate_eq : kind.validate = TargetPlan.validate plan sha256
  digest_eq' : kind.assignmentDigest = TargetPlan.assignmentDigest
  bodies_eq : ∀ t, kind.bodies t = [t.bindings.canonicalWire, plan.executionWire t.execution]
  wire_lt : ∀ x, Built x → (plan.executionWire x).length < 2 ^ 32
  room : ∀ x, Built x → 18 + Admission.maxRuntimeApplyEnvelopeBytes + maxTargetAssignmentsBytes
    + (plan.executionWire x).length ≤ kind.maxBytes

section PlanRequests

variable {plan : PlanKind E ε} {kind : RequestKind (TargetPlan E) ε} {Built : E → Prop} {decode : Bytes → Res η E}
  {domain : Bytes} (lawful : LawfulPlanRequest plan kind sha256 Built decode domain)
include lawful

theorem buildWire_three (e : RuntimeApplyEnvelope) (s : PlanSlice (TargetPlan E)) : ApplyRequest.buildWire kind e s =
    runtimeApplyRequestMagic ++ bytesBE 2 kind.version ++ (bytesBE 4 e.canonicalWire.length ++
      (bytesBE 4 s.assignments.bindings.canonicalWire.length ++
        (bytesBE 4 (plan.executionWire s.assignments.execution).length ++ (e.canonicalWire ++
          (s.assignments.bindings.canonicalWire ++ plan.executionWire s.assignments.execution))))) := by
  simp only [ApplyRequest.buildWire, lawful.bodies_eq, List.flatMap_cons, List.flatMap_nil, List.flatten_cons,
    List.flatten_nil, List.append_nil, List.append_assoc]

theorem buildWire_three_length (e : RuntimeApplyEnvelope) (s : PlanSlice (TargetPlan E)) :
    (ApplyRequest.buildWire kind e s).length = 18 + e.canonicalWire.length
      + s.assignments.bindings.canonicalWire.length + (plan.executionWire s.assignments.execution).length := by
  have hmagic : runtimeApplyRequestMagic.length = 4 := rfl
  rw [buildWire_three lawful]
  simp only [List.length_append, bytesBE_length, hmagic]
  omega

theorem LawfulPlanRequest.request : LawfulRequest kind sha256 (TargetPlan.Built plan sha256) where
  version_lt := lawful.version_lt
  validate_ok t := by
    rw [lawful.validate_eq]
    exact TargetPlan.validate_ok lawful.toLawfulPlan
  fits e s henvelope hbuilt := by
    obtain ⟨hbindings, hexecution, -⟩ := hbuilt.parts lawful.toLawfulPlan
    have he := henvelope.wire_length
    have hb := hbindings.wire_length
    have hx := lawful.room _ hexecution
    rw [buildWire_three_length lawful]
    omega

theorem exact_planRequest (executionCode : η → Nat) (planCode : ε → Nat) :
    Exact (ApplyRequest.Built kind sha256) ApplyRequest.canonicalWire
      (decodePlanRequest plan kind sha256 18 decode executionCode planCode) where
  decodes r h := by
    have hassemble := h.assemble lawful.request
    obtain ⟨henvelope, hbuilt, -, -, heq⟩ := (assembleRequest_ok lawful.request).1 hassemble
    obtain ⟨hbindings, hexecution, -, -, hplan⟩ := hbuilt.parts lawful.toLawfulPlan
    have hfits := lawful.request.fits r.envelope r.slice henvelope hbuilt
    have hwire : r.canonicalWire = ApplyRequest.buildWire kind r.envelope r.slice := by rw [heq]
    have hlength := buildWire_three_length lawful r.envelope r.slice
    rw [← hwire] at hlength
    have he := henvelope.wire_length
    have hb := hbindings.wire_length
    have hx := lawful.wire_lt _ hexecution
    have hmaxe : Admission.maxRuntimeApplyEnvelopeBytes < 2 ^ 32 := by decide
    have hmaxb : maxTargetAssignmentsBytes < 2 ^ 32 := by decide
    have hparts := planRequestParts_wire rfl (by omega) (by omega) hx hlength
    refine ok_bind ((opening_ok lawful.version_lt).2 ⟨hwire ▸ hfits, ?_, hwire.trans (buildWire_three lawful _ _)⟩) <|
      ok_bind hparts <| ok_bind (wrapErr_ok.2 henvelope.decode) <| ok_bind (wrapErr_ok.2 hbindings.decode) <|
      ok_bind (wrapErr_ok.2 (lawful.exact.decodes _ hexecution)) <| ok_bind (wrapErr_ok.2 hplan) hassemble
    omega
  accepted frame r h := by
    simp only [decodePlanRequest, bind_ok, wrapErr_ok] at h
    obtain ⟨body, hopen, parts, hparts, e, he, b, hb, x, hx, t, ht, hassemble⟩ := h
    obtain ⟨-, -, -, -, heq⟩ := (assembleRequest_ok lawful.request).1 hassemble
    obtain ⟨-, -, -, rfl⟩ := (TargetPlan.tryNew_ok lawful.toLawfulPlan).1 ht
    refine ⟨built_of_assemble hassemble, ?_⟩
    have hsplit := planRequestParts_taken rfl (opening_room 12 lawful.version_lt hopen).1 hparts
    obtain ⟨-, -, hframe⟩ := (opening_ok lawful.version_lt).1 hopen
    rw [heq, buildWire_three lawful, (RuntimeApplyEnvelope.decode_ok he).2, (TargetAssignments.decode_ok hb).2,
      (lawful.exact.accepted _ _ hx).2, ← hsplit, ← hframe]
  safe frame := by
    refine avoids_bind (avoids_opening (by decide)) fun body hopen => ?_
    obtain ⟨hbody, hroom⟩ := opening_room 12 lawful.version_lt hopen
    refine avoids_bind (avoids_planRequestParts rfl hbody hroom) fun parts _ => ?_
    exact avoids_bind (avoids_envelope _) fun e _ =>
      avoids_bind (avoids_map _ (TargetAssignments.avoids_decode sha256 _)) fun b _ =>
      avoids_bind (avoids_map _ (lawful.exact.safe _)) fun x _ => avoids_bind (avoids_renamed _ _) fun t _ =>
      avoids_assembleRequest _ e t

end PlanRequests

/-! ## The first version -/

theorem lawful_runtimeApplyRequest (sha256 : Sha256) :
    LawfulRequest (runtimeApplyRequest sha256) sha256 (TargetAssignments.Built sha256) where
  version_lt := (by decide : runtimeApplyRequestVersion < 2 ^ 16)
  validate_ok _ := TargetAssignments.validate_ok
  fits e s henvelope hbuilt := by
    have he := henvelope.wire_length
    have ha := hbuilt.wire_length
    have hmagic : runtimeApplyRequestMagic.length = 4 := rfl
    simp only [ApplyRequest.buildWire, runtimeApplyRequest, List.length_append, List.flatMap_cons, List.flatMap_nil,
      List.flatten_cons, List.flatten_nil, bytesBE_length, hmagic, List.length_nil, maxRuntimeApplyRequestBytes,
      applyRequestHeaderBytes]
    omega

theorem buildWire_two (e : RuntimeApplyEnvelope) (s : RuntimePlanSlice) :
    ApplyRequest.buildWire (runtimeApplyRequest sha256) e s =
      runtimeApplyRequestMagic ++ bytesBE 2 runtimeApplyRequestVersion ++ (bytesBE 4 e.canonicalWire.length ++
        (bytesBE 4 s.assignments.canonicalWire.length ++ (e.canonicalWire ++ s.assignments.canonicalWire))) := by
  simp only [ApplyRequest.buildWire, runtimeApplyRequest, List.flatMap_cons, List.flatMap_nil, List.flatten_cons,
    List.flatten_nil, List.append_nil, List.append_assoc]

theorem decodeRuntimeApplyRequest_built {r : RuntimeApplyRequest} (h : r.Built (runtimeApplyRequest sha256) sha256) :
    decodeRuntimeApplyRequest sha256 r.canonicalWire = .ok r := by
  have hassemble := h.assemble (lawful_runtimeApplyRequest sha256)
  obtain ⟨henvelope, hbuilt, -, -, heq⟩ := (assembleRequest_ok (lawful_runtimeApplyRequest sha256)).1 hassemble
  have hfits := (lawful_runtimeApplyRequest sha256).fits r.envelope r.slice henvelope hbuilt
  have hwire : r.canonicalWire = ApplyRequest.buildWire (runtimeApplyRequest sha256) r.envelope r.slice := by
    rw [heq]
  have he := henvelope.wire_length
  have ha := hbuilt.wire_length
  have hmaxe : Admission.maxRuntimeApplyEnvelopeBytes < 2 ^ 32 := by decide
  have hmaxa : maxTargetAssignmentsBytes < 2 ^ 32 := by decide
  have hmagic : runtimeApplyRequestMagic.length = 4 := rfl
  have hlength : r.canonicalWire.length = applyRequestHeaderBytes
      + (r.envelope.canonicalWire.length + r.slice.assignments.canonicalWire.length) := by
    rw [hwire, buildWire_two]
    simp only [List.length_append, bytesBE_length, hmagic, applyRequestHeaderBytes]
    omega
  have hparts := requestParts_wire (by omega) (by omega) hlength
  refine ok_bind ((opening_ok (by decide)).2 ⟨hwire ▸ hfits, ?_, hwire.trans (buildWire_two ..)⟩) <| ok_bind hparts <|
    ok_bind (wrapErr_ok.2 henvelope.decode) <| ok_bind (wrapErr_ok.2 hbuilt.decode) hassemble
  omega

theorem decodeRuntimeApplyRequest_ok {r : RuntimeApplyRequest} (h : decodeRuntimeApplyRequest sha256 frame = .ok r) :
    r.Built (runtimeApplyRequest sha256) sha256 ∧ r.canonicalWire = frame := by
  simp only [decodeRuntimeApplyRequest, bind_ok, wrapErr_ok] at h
  obtain ⟨body, hopen, parts, hparts, e, he, a, ha, hassemble⟩ := h
  obtain ⟨-, -, -, -, rfl⟩ := (assembleRequest_ok (lawful_runtimeApplyRequest sha256)).1 hassemble
  refine ⟨built_of_assemble hassemble, ?_⟩
  have hsplit := requestParts_taken (opening_room 8 (by decide) hopen).1 hparts
  obtain ⟨-, -, hframe⟩ := (opening_ok (by decide)).1 hopen
  rw [buildWire_two, (RuntimeApplyEnvelope.decode_ok he).2, (TargetAssignments.decode_ok ha).2, ← hsplit, ← hframe]

theorem avoids_decodeRuntimeApplyRequest (sha256 : Sha256) (frame : Bytes) :
    Avoids .panic (decodeRuntimeApplyRequest sha256 frame) := by
  refine avoids_bind (avoids_opening (by decide)) fun body hopen => ?_
  obtain ⟨hbody, hroom⟩ := opening_room 8 (by decide) hopen
  refine avoids_bind (avoids_requestParts hbody hroom) fun parts _ => ?_
  exact avoids_bind (avoids_envelope _) fun e _ =>
    avoids_bind (avoids_map _ (TargetAssignments.avoids_decode sha256 _)) fun a _ => avoids_assembleRequest _ e a

theorem exact_runtimeApplyRequest (sha256 : Sha256) :
    Exact (ApplyRequest.Built (runtimeApplyRequest sha256) sha256) ApplyRequest.canonicalWire
      (decodeRuntimeApplyRequest sha256) where
  decodes _ h := decodeRuntimeApplyRequest_built h
  accepted _ _ h := decodeRuntimeApplyRequest_ok h
  safe := avoids_decodeRuntimeApplyRequest sha256

/-! ## The second version -/

theorem lawful_runtimeApplyRequestV2 (sha256 : Sha256) : LawfulPlanRequest (targetPlanAssignments sha256)
    (runtimeApplyRequestV2 sha256) sha256 (TargetExecutionPlan.Built sha256) (TargetExecutionPlan.decode sha256)
    targetExecutionDigestDomain where
  domain_ok := (by decide : targetPlanAssignmentsDigestDomain ≠ [] ∧ targetPlanAssignmentsDigestDomain.length < 2 ^ 32)
  validate_ok p := wrapErr_ok.trans TargetExecutionPlan.validate_ok
  exact := TargetExecutionPlan.exact sha256
  digest_eq p h := congrArg TargetExecutionPlan.executionDigest h.eq |>.trans
    (congrArg (fun wire => sha256 (digestInput targetExecutionDigestDomain [wire]))
      (congrArg TargetExecutionPlan.canonicalWire h.eq).symm)
  version_lt := (by decide : runtimeApplyRequestV2Version < 2 ^ 16)
  validate_eq := rfl
  digest_eq' := rfl
  bodies_eq _ := rfl
  wire_lt p h := h.wire_length.trans_lt (by decide)
  room p h := Nat.add_le_add_left h.wire_length _

/-! ## One envelope, one plan -/

def assignmentsInput (t : TargetAssignments) : Bytes := digestInput targetAssignmentsDigestDomain [t.canonicalWire]

theorem TargetAssignments.Built.digest_eq {t : TargetAssignments} (h : t.Built sha256) :
    t.assignmentDigest = sha256 (assignmentsInput t) := by
  rw [h.eq]
  rfl

def planInputs (plan : PlanKind E ε) (domain : Bytes) (t : TargetPlan E) : List Bytes :=
  [planInput plan t.bindings t.execution, assignmentsInput t.bindings,
    digestInput domain [plan.executionWire t.execution]]

theorem TargetAssignments.Built.eq_of_digest {t t' : TargetAssignments} (h : t.Built sha256) (h' : t'.Built sha256)
    {inputs : List Bytes} (hfree : ¬ Collides sha256 inputs) (ht : assignmentsInput t ∈ inputs)
    (ht' : assignmentsInput t' ∈ inputs) (hdigest : t.assignmentDigest = t'.assignmentDigest) : t = t' := by
  rw [h.digest_eq, h'.digest_eq] at hdigest
  exact (TargetAssignments.exact sha256).ext h h' (digestInput_inj (eq_of_not_collides hfree ht ht' hdigest))

theorem TargetPlan.Built.eq_of_digest {plan : PlanKind E ε} {Built : E → Prop} {decode : Bytes → Res η E} {domain : Bytes}
    (lawful : LawfulPlan plan sha256 Built decode domain) {t t' : TargetPlan E} (h : t.Built plan sha256)
    (h' : t'.Built plan sha256) (hfree : ¬ Collides sha256 (planInputs plan domain t ++ planInputs plan domain t'))
    (hdigest : t.assignmentDigest = t'.assignmentDigest) : t = t' := by
  obtain ⟨hbindings, hexecution, -, hd, -⟩ := h.parts lawful
  obtain ⟨hbindings', hexecution', -, hd', -⟩ := h'.parts lawful
  have hsame := hdigest
  rw [hd, hd'] at hsame
  have hinput := eq_of_not_collides hfree (by simp [planInputs]) (by simp [planInputs]) hsame
  obtain ⟨hb, hx⟩ := digestInput_pair_inj hinput
  rw [lawful.digest_eq _ hexecution, lawful.digest_eq _ hexecution'] at hx
  have hbytes := digestInput_inj (eq_of_not_collides hfree (by simp [planInputs]) (by simp [planInputs]) hx)
  have hbind := hbindings.eq_of_digest hbindings' hfree (by simp [planInputs]) (by simp [planInputs]) hb
  have hexec := lawful.exact.ext hexecution hexecution' hbytes
  obtain ⟨b, x, d⟩ := t
  obtain ⟨b', x', d'⟩ := t'
  cases hbind
  cases hexec
  cases hdigest
  rfl

theorem ApplyRequest.Built.digest {kind : RequestKind A ε} {Built : A → Prop} (lawful : LawfulRequest kind sha256 Built)
    {r : ApplyRequest A} (h : r.Built kind sha256) : Built r.slice.assignments ∧
      r.envelope.controlCommitment.slice.header.assignmentDigest = kind.assignmentDigest r.slice.assignments := by
  obtain ⟨-, hbuilt, -, hdigest, -⟩ := (assembleRequest_ok lawful).1 (h.assemble lawful)
  exact ⟨hbuilt, hdigest⟩

theorem ApplyRequest.Built.ext {kind : RequestKind A ε} {Built : A → Prop} (lawful : LawfulRequest kind sha256 Built)
    {r r' : ApplyRequest A} (h : r.Built kind sha256) (h' : r'.Built kind sha256) (henvelope : r.envelope = r'.envelope)
    (hplan : r.slice.assignments = r'.slice.assignments) : r = r' := by
  have hr := h.assemble lawful
  rw [henvelope, hplan, h'.assemble lawful] at hr
  exact (Except.ok.inj hr).symm

/-- **Target assignments and execution plans travel unchanged.**  Both bodies and both versions of the request around them
are exact formats; a record's cursor spends the record; the order in which records are given is forgotten; an accepted
request carries the bodies whose recomputed digest its envelope was signed over; and two accepted requests with one envelope
are one request, or their digests exhibit a collision. -/
theorem target_plans_travel (sha256 : Sha256) :
    (Exact (TargetAssignments.Built sha256) TargetAssignments.canonicalWire (TargetAssignments.decode sha256) ∧
      Exact (TargetExecutionPlan.Built sha256) TargetExecutionPlan.canonicalWire (TargetExecutionPlan.decode sha256) ∧
      Exact (ApplyRequest.Built (runtimeApplyRequest sha256) sha256) ApplyRequest.canonicalWire
        (decodeRuntimeApplyRequest sha256) ∧
      Exact (ApplyRequest.Built (runtimeApplyRequestV2 sha256) sha256) ApplyRequest.canonicalWire
        (decodeRuntimeApplyRequestV2 sha256)) ∧
    (∀ index, Spends (decodeAssignmentRecord index) targetAssignmentRecordBytes ∧
      Spends (decodeDomainRecord index) loopDomainRecordBytes ∧
      Spends (decodeMailboxExecutionRecord index) mailboxExecutionRecordBytes) ∧
    (∀ xs ys t, xs.Perm ys → (TargetAssignments.tryNew sha256 xs = .ok t ↔ TargetAssignments.tryNew sha256 ys = .ok t)) ∧
    (∀ ds ds' xs xs' p, ds.Perm ds' → xs.Perm xs' →
      (TargetExecutionPlan.tryNew sha256 ds xs = .ok p ↔ TargetExecutionPlan.tryNew sha256 ds' xs' = .ok p)) ∧
    (∀ frame r, decodeRuntimeApplyRequest sha256 frame = .ok r →
      r.envelope.controlCommitment.slice.header.assignmentDigest = sha256 (assignmentsInput r.slice.assignments)) ∧
    (∀ frame r, decodeRuntimeApplyRequestV2 sha256 frame = .ok r →
      r.envelope.controlCommitment.slice.header.assignmentDigest =
        sha256 (digestInput targetPlanAssignmentsDigestDomain
          [(sha256 (assignmentsInput r.slice.assignments.bindings)).asBytes,
            (sha256 (digestInput targetExecutionDigestDomain [r.slice.assignments.execution.canonicalWire])).asBytes])) ∧
    (∀ frame frame' r r', decodeRuntimeApplyRequest sha256 frame = .ok r → decodeRuntimeApplyRequest sha256 frame' = .ok r' →
      r.envelope = r'.envelope →
        ¬ Collides sha256 [assignmentsInput r.slice.assignments, assignmentsInput r'.slice.assignments] → r = r') ∧
    (∀ frame frame' r r', decodeRuntimeApplyRequestV2 sha256 frame = .ok r →
      decodeRuntimeApplyRequestV2 sha256 frame' = .ok r' → r.envelope = r'.envelope →
        ¬ Collides sha256 (planInputs (targetPlanAssignments sha256) targetExecutionDigestDomain r.slice.assignments ++
          planInputs (targetPlanAssignments sha256) targetExecutionDigestDomain r'.slice.assignments) → r = r') ∧
    (∀ frame frame' r r', decodeRuntimeApplyRequest sha256 frame = .ok r →
      decodeRuntimeApplyRequestV2 sha256 frame' = .ok r' → r.envelope = r'.envelope →
        Collides sha256 (assignmentsInput r.slice.assignments ::
          planInputs (targetPlanAssignments sha256) targetExecutionDigestDomain r'.slice.assignments)) := by
  have lawful := lawful_runtimeApplyRequest sha256
  have lawfulV2 := lawful_runtimeApplyRequestV2 sha256
  have hexact := exact_runtimeApplyRequest sha256
  have hexactV2 : Exact (ApplyRequest.Built (runtimeApplyRequestV2 sha256) sha256) ApplyRequest.canonicalWire
      (decodeRuntimeApplyRequestV2 sha256) := exact_planRequest lawfulV2 _ _
  refine ⟨⟨TargetAssignments.exact sha256, TargetExecutionPlan.exact sha256, hexact, hexactV2⟩, ?_, ?_, ?_, ?_, ?_, ?_, ?_, ?_⟩
  · exact fun index => ⟨spends_decodeAssignmentRecord index, spends_decodeDomainRecord index,
      spends_decodeMailboxExecutionRecord index⟩
  · exact fun xs ys t hp => ⟨TargetAssignments.tryNew_perm hp, TargetAssignments.tryNew_perm hp.symm⟩
  · exact fun ds ds' xs xs' p hd hx =>
      ⟨TargetExecutionPlan.tryNew_perm hd hx, TargetExecutionPlan.tryNew_perm hd.symm hx.symm⟩
  · intro frame r h
    obtain ⟨hbuilt, hdigest⟩ := (hexact.accepted frame r h).1.digest lawful
    exact hdigest.trans hbuilt.digest_eq
  · intro frame r h
    obtain ⟨hbuilt, hdigest⟩ := (hexactV2.accepted frame r h).1.digest lawfulV2.request
    obtain ⟨hbindings, hexecution, -, hd, -⟩ := hbuilt.parts lawfulV2.toLawfulPlan
    have hx : r.slice.assignments.execution.executionDigest = _ := lawfulV2.digest_eq _ hexecution
    rw [lawfulV2.digest_eq'] at hdigest
    rw [hdigest, hd, planInput, hbindings.digest_eq]
    exact congrArg (fun d : Digest32 => sha256 (digestInput targetPlanAssignmentsDigestDomain
      [(sha256 (assignmentsInput r.slice.assignments.bindings)).asBytes, d.asBytes])) hx
  · intro frame frame' r r' h h' henvelope hfree
    have hr := (hexact.accepted frame r h).1
    have hr' := (hexact.accepted frame' r' h').1
    obtain ⟨hbuilt, hdigest⟩ := hr.digest lawful
    obtain ⟨hbuilt', hdigest'⟩ := hr'.digest lawful
    rw [henvelope, hdigest'] at hdigest
    refine hr.ext lawful hr' henvelope ?_
    exact hbuilt.eq_of_digest hbuilt' hfree (by simp) (by simp) hdigest.symm
  · intro frame frame' r r' h h' henvelope hfree
    have hr := (hexactV2.accepted frame r h).1
    have hr' := (hexactV2.accepted frame' r' h').1
    obtain ⟨hbuilt, hdigest⟩ := hr.digest lawfulV2.request
    obtain ⟨hbuilt', hdigest'⟩ := hr'.digest lawfulV2.request
    rw [henvelope, hdigest'] at hdigest
    refine hr.ext lawfulV2.request hr' henvelope ?_
    exact hbuilt.eq_of_digest lawfulV2.toLawfulPlan hbuilt' hfree hdigest.symm
  · intro frame frame' r r' h h' henvelope
    obtain ⟨hbuilt, hdigest⟩ := (hexact.accepted frame r h).1.digest lawful
    obtain ⟨hbuilt', hdigest'⟩ := (hexactV2.accepted frame' r' h').1.digest lawfulV2.request
    obtain ⟨-, -, -, hd', -⟩ := hbuilt'.parts lawfulV2.toLawfulPlan
    rw [henvelope, hdigest'] at hdigest
    have hsame : sha256 (assignmentsInput r.slice.assignments) = sha256 (planInput (targetPlanAssignments sha256)
        r'.slice.assignments.bindings r'.slice.assignments.execution) :=
      hbuilt.digest_eq.symm.trans (hdigest.symm.trans hd')
    refine ⟨_, List.mem_cons_self, _, List.mem_cons_of_mem _ List.mem_cons_self, fun heq => ?_, hsame⟩
    have hdomain := digestInput_domain heq (by decide) lawfulV2.domain_ok.2
    exact absurd hdomain (by decide : targetAssignmentsDigestDomain ≠ targetPlanAssignmentsDigestDomain)

def sampleCommitment : Envelope.RuntimeApplyControlCommitment :=
  { Envelope.sampleCommitment with
    slice := { Envelope.sampleCommitment.slice with
      header := { Envelope.sampleCommitment.slice.header with assignmentDigest := 0 } } }

def sampleEnvelope : RuntimeApplyEnvelope :=
  Envelope.envelope (fun _ => 0) sampleCommitment Envelope.sampleTemporal Envelope.sampleAuthentication

def samplePlan : TargetPlanAssignments := ⟨sampleBindings, sampleExecution, 0⟩

def sampleRequest : RuntimeApplyRequestV2 :=
  ⟨sampleEnvelope, ⟨sampleCommitment.slice, samplePlan⟩,
    ApplyRequest.buildWire (runtimeApplyRequestV2 fun _ => 0) sampleEnvelope ⟨sampleCommitment.slice, samplePlan⟩⟩

/-- A plan of two bindings and their mailboxes is read back from its frame. -/
theorem target_plans_travel_two : sampleRequest.Built (runtimeApplyRequestV2 fun _ => 0) (fun _ => 0) ∧
    decodeRuntimeApplyRequestV2 (fun _ => 0) sampleRequest.canonicalWire = .ok sampleRequest := by
  have lawful := lawful_runtimeApplyRequestV2 fun _ => 0
  have henvelope : sampleEnvelope.Built (fun _ => 0) :=
    ⟨_, _, _, (Envelope.RuntimeApplyEnvelope.tryNew_ok ..).2 ⟨by decide +kernel, rfl⟩⟩
  have hplan : samplePlan.Built (targetPlanAssignments fun _ => 0) (fun _ => 0) :=
    ⟨_, _, (TargetPlan.tryNew_ok lawful.toLawfulPlan).2 ⟨sampleBindings_built, sampleExecution_built, by decide +kernel, rfl⟩⟩
  have hslice : sampleCommitment.slice.validate (fun _ => 0) = .ok () := by decide +kernel
  have hbuilt : sampleRequest.Built (runtimeApplyRequestV2 fun _ => 0) (fun _ => 0) :=
    built_of_assemble ((assembleRequest_ok lawful.request).2 ⟨henvelope, hplan, hslice, rfl, rfl⟩)
  exact ⟨hbuilt, (target_plans_travel fun _ => 0).1.2.2.2.decodes _ hbuilt⟩

end Plan
end ParaEgox
