import ParaEgox.TenureDurable

/-!
# TenureRuns — no epoch is granted twice

What the authority returned is in the snapshot of every disk a stopped machine may leave, and the snapshot an operational
process holds is the one its directory carries.  Both are kept by every request, every crash and every opening that finds the
active name settled, so an epoch that was returned belongs to one record, and with it to one operation.  An opening that
finds a rename before it is durable keeps neither.
-/
namespace ParaEgox
namespace Tenure

open Check Disk Disk.Calls Disk.Directory

variable {sha256 : Sha256} {ed : Ed25519} {accounts : Accounts} {V : Verdict → Prop} {h : Held}

/-! ## A recorded response -/

def Recorded (s : AuthoritySnapshot) (request : AcquireTenureRequestV1) (committed : CommittedAcquireTenure) : Prop :=
  ∃ r ∈ s.acquireRecords, r.operationId = request.operationId ∧ r.requestDigest = request.requestDigest ∧
    r.exactResponseBytes = committed.response.canonicalBytes ∧ r.epoch = committed.response.proof.claim.epoch

def Extends (s next : AuthoritySnapshot) : Prop := ∀ r ∈ s.acquireRecords, r ∈ next.acquireRecords

variable {s : AuthoritySnapshot} {request : AcquireTenureRequestV1} {r : AcquireRecord} {intent : AcquireIntent}
  {signer : Ed25519TenureSigner} {failpoint : CommitFailpoint} {random : Bytes} {w : World}
  {a : DeploymentTenureAuthority}

theorem Recorded.extends {next : AuthoritySnapshot} {committed : CommittedAcquireTenure}
    (hr : Recorded s request committed) (hext : Extends s next) : Recorded next request committed := by
  obtain ⟨r, hmem, hfacts⟩ := hr
  exact ⟨r, hext r hmem, hfacts⟩

theorem replayResponse_ok
    {committed : CommittedAcquireTenure} (hvalid : s.Valid sha256 ed) (hr : r ∈ s.acquireRecords)
    (h : replayResponse sha256 request r.exactResponseBytes r.responseDigest r.proofEnvelopeDigest = .ok committed) :
    committed.response.canonicalBytes = r.exactResponseBytes ∧ committed.response.proof.claim.epoch = r.epoch := by
  simp only [replayResponse, bind_ok, mapErr_ok, rejectIf_ok, exists_unit, pure_ok] at h
  obtain ⟨response, hdecode, -, rfl⟩ := h
  obtain ⟨request', response', hbound⟩ := hvalid.bound r hr
  have hread := (AcquireTenureResponseV1.decodeForRequest_ok hdecode).1
  have hread' := (AcquireTenureResponseV1.decodeForRequest_ok hbound.answered).1
  have hsame : response = response' := Except.ok.inj (hread.symm.trans hread')
  exact ⟨(AcquireTenureResponseV1.decode_ok hread).1, by rw [hsame]; exact hbound.epoch⟩

theorem acquireIntent_ok (h : acquireIntent request = .ok intent) : intent.operationId = request.operationId ∧
      intent.requestDigest = request.requestDigest := by
  simp only [acquireIntent, AcquireIntent.tryNew, bind_ok, exists_unit, acquireOperationIdTryFromBytes_ok, pure_ok] at h
  obtain ⟨_, ⟨-, rfl⟩, -, -, -, -, -, -, -, -, rfl⟩ := h
  exact ⟨rfl, rfl⟩

theorem acquireIntent_built (hbuilt : request.Built sha256)
    (hnonzero : Nonzero request.requestDigest.asBytes) : ∃ intent, acquireIntent request = .ok intent := by
  obtain ⟨hdrafted, -, hsignature, hbytes, -⟩ := hbuilt.fields
  have hlength : request.canonicalBytes.length = 300 + request.draft.clientNonce.length := by
    rw [hbytes]
    exact requestBytes_length request.draft hsignature
  have hle : request.canonicalBytes.length ≤ maxAcquireRequestBytes := by
    rw [hbytes]
    exact le_trans (requestBytes_le request.draft hsignature hdrafted.nonce.2) (by decide)
  have hpos : request.canonicalBytes ≠ [] := by
    intro hnil
    rw [hnil, List.length_nil] at hlength
    omega
  refine ⟨_, ok_bind ((acquireOperationIdTryFromBytes_ok _ _).2 ⟨hdrafted.operation, rfl⟩) <|
    ok_bind ((ensureNonzeroDigest_ok _ _ ()).2 hnonzero) <| ok_check hpos <|
    ok_check (not_lt.2 hle) <| ok_bind ((ensureNonzero_ok _ _ ()).2 hdrafted.writer) <|
    ok_check (List.ne_nil_of_length_pos hdrafted.nonce.1) <|
    ok_check (not_lt.2 (le_trans hdrafted.nonce.2 (by decide))) <|
    ok_check ?_ <| ok_check (not_lt.2 (le_trans hdrafted.bound.2 (by decide))) rfl⟩
  intro hzero
  have hmin := hdrafted.bound.1
  change minAcquireTenureResponsePayloadBytes ≤ request.maxResponsePayloadBytes.toNat at hmin
  rw [hzero] at hmin
  exact absurd hmin (by decide)

theorem sign_ok {scope writer : Ref16} {epoch supersedes : UInt64} {nonce : Bytes}
    {signed : SignedTenureProof} (h : signer.sign sha256 ed scope writer epoch supersedes nonce = .ok signed) :
    signed.proof.claim.epoch = epoch := by
  simp only [Ed25519TenureSigner.sign, bind_ok, wrapErr_ok, pure_ok] at h
  obtain ⟨claim, hclaim, transcript, -, proof, hproof, digest, -, rfl⟩ := h
  rw [(WriterTenureProof.tryNew_ok hproof).2.1, (AuthoritySnapshot.claim_tryNew_ok hclaim).2.2.1]

theorem response_tryNew_ok {proof : WriterTenureProof} {v : AcquireTenureResponseV1}
    (h : AcquireTenureResponseV1.tryNew sha256 request proof = .ok v) : v.proof = proof := by
  simp only [AcquireTenureResponseV1.tryNew, bind_ok, exists_unit, pure_ok] at h
  obtain ⟨-, _, -, _, -, -, -, rfl⟩ := h
  rfl

/-- **An issued response is recorded in the next snapshot**, which keeps every record. -/
theorem issueResponse_ok {next : AuthoritySnapshot} {epoch sequence : UInt64} {response : AcquireTenureResponseV1}
    (hintent : acquireIntent request = .ok intent)
    (h : issueResponse sha256 ed signer s request intent epoch sequence = .ok (response, next)) :
    Extends s next ∧ Recorded next request ⟨response, .issued⟩ := by
  simp only [issueResponse, bind_ok, mapErr_ok, wrapErr_ok, rejectIf_ok, exists_unit, pure_ok, Prod.mk.injEq] at h
  obtain ⟨signed, hsigned, v, hv, -, encoded, hencoded, next', hnext, rfl, rfl⟩ := h
  simp only [EncodedAcquireResponse.tryNew, bind_ok, exists_unit, pure_ok] at hencoded
  obtain ⟨-, -, -, -, rfl⟩ := hencoded
  obtain ⟨rfl, -⟩ := AuthoritySnapshot.withIssuedRecord_ok hnext
  refine ⟨fun r hr => (Keyed.mem_insert _).2 (.inr hr), _, (Keyed.mem_insert _).2 (.inl rfl), ?_⟩
  obtain ⟨hoperation, hdigest⟩ := acquireIntent_ok hintent
  refine ⟨hoperation, hdigest, rfl, ?_⟩
  rw [response_tryNew_ok hv, sign_ok hsigned]
  rfl

/-! ## Acquiring -/

/-- What an acquire leaves.  Where it returns, its response is recorded in the snapshot the store now holds and the
directory carries. -/
def acquiring (sha256 : Sha256) (ed : Ed25519) (accounts : Accounts) (request : AcquireTenureRequestV1) (h : Held) :
    Leaving Held TenureAcquireError CommittedAcquireTenure where
  done committed h' := h.store.state = .operational ∧ ∃ next, Extends h.store.snapshot next ∧
    Recorded next request committed ∧ h'.store = ⟨next, .operational⟩ ∧
      h'.dir.Safe activeFileName (Carries sha256 ed accounts next)
  failed _ h' := h' = h ∨ (h.store.state = .operational ∧ h'.store.state = .stopped ∧ ∃ next, Extends h.store.snapshot next ∧
    h'.dir.Safe activeFileName fun f => Carries sha256 ed accounts h.store.snapshot f ∨ Carries sha256 ed accounts next f)
  halted h' := h' = h ∨ (h.store.state = .operational ∧ ∃ next, Extends h.store.snapshot next ∧
    h'.dir.Safe activeFileName fun f => Carries sha256 ed accounts h.store.snapshot f ∨ Carries sha256 ed accounts next f)

theorem valid_of_carries {d : Directory Bytes}
    (hsafe : d.Safe activeFileName (Carries sha256 ed accounts s)) : s.Valid sha256 ed := by
  obtain ⟨_, f, -, -, -, hencode, -⟩ := hsafe.lookup
  exact AuthoritySnapshot.validate_ok (encodeSnapshot_ok hencode).1

theorem preflight_replay {bytes : Bytes} {d e : Digest32}
    (h : s.preflight intent = .ok (.replay bytes d e)) : ∃ r ∈ s.acquireRecords, r.operationId = intent.operationId ∧
      r.requestDigest = intent.requestDigest ∧ bytes = r.exactResponseBytes ∧ d = r.responseDigest ∧
        e = r.proofEnvelopeDigest := by
  unfold AuthoritySnapshot.preflight at h
  split at h
  next r hfind =>
    simp only [bind_ok, rejectIf_ok, exists_unit, pure_ok, not_not, ne_eq, Preflight.replay.injEq] at h
    obtain ⟨hdigest, rfl, rfl, rfl⟩ := h
    obtain ⟨hmem, hoperation⟩ := Keyed.find_mem _ hfind
    exact ⟨r, hmem, hoperation, hdigest, rfl, rfl, rfl⟩
  · simp only [bind_ok, pure_ok, reduceCtorEq, and_false, exists_false] at h

/-- **Whatever the host does, a response is returned only when its record is durable.** -/
theorem runs_acquire
    (hsafe : h.store.state = .operational → h.dir.Safe activeFileName (Carries sha256 ed accounts h.store.snapshot)) :
    Runs V (acquireWithFailpoint sha256 ed accounts signer request failpoint random) h
      (acquiring sha256 ed accounts request h) := by
  have hsame : Extends h.store.snapshot h.store.snapshot := fun _ hr => hr
  refine runs_bind (Q := fun snapshot h' => h = h' ∧ h.store.state = .operational ∧ snapshot = h.store.snapshot)
    (runs_onFailure (runs_revalidateCurrent.mono (fun _ _ hdone => hdone) ?_ ?_)) ?_
  · rintro e h' (⟨-, -, rfl⟩ | ⟨hstate, rfl, -⟩)
    · exact .inl rfl
    · exact .inr ⟨hstate, rfl, _, hsame, (hsafe hstate).mono fun _ hf => .inl hf⟩
  · rintro h' ⟨rfl, -⟩
    exact .inl rfl
  rintro snapshot _ ⟨rfl, hstate, rfl⟩
  have hnow := hsafe hstate
  refine runs_bind (Q := fun found h' => h = h' ∧ acquireIntent request = .ok found.1 ∧
    h.store.snapshot.preflight found.1 = .ok found.2) (runs_check (fun found hfound => ?_) fun _ _ => .inl rfl) ?_
  · simp only [acquirePreflight, bind_ok, exists_unit, wrapErr_ok, pure_ok] at hfound
    obtain ⟨-, intent, hintent, preflight, hpreflight, rfl⟩ := hfound
    exact ⟨rfl, hintent, hpreflight⟩
  rintro ⟨intent, preflight⟩ _ ⟨rfl, hintent, hpreflight⟩
  obtain ⟨hoperation, hdigest⟩ := acquireIntent_ok hintent
  cases preflight with
  | replay bytes responseDigest proofDigest =>
    obtain ⟨r, hr, hrOperation, hrDigest, rfl, rfl, rfl⟩ := preflight_replay hpreflight
    refine runs_check (fun committed hcommitted => ?_) fun _ _ => .inl rfl
    obtain ⟨hbytes, hepoch⟩ := replayResponse_ok (valid_of_carries hnow) hr hcommitted
    refine ⟨hstate, _, hsame, ⟨r, hr, hrOperation.trans hoperation, hrDigest.trans hdigest, hbytes.symm, hepoch.symm⟩, ?_,
      hnow⟩
    rw [← hstate]
  | issue epoch sequence =>
    refine runs_bind (Q := fun issued h' => h = h' ∧
      issueResponse sha256 ed signer h.store.snapshot request intent epoch sequence = .ok issued)
      (runs_check (fun _ hissued => ⟨rfl, hissued⟩) fun _ _ => .inl rfl) ?_
    rintro ⟨response, next⟩ _ ⟨rfl, hissued⟩
    obtain ⟨hext, hrecorded⟩ := issueResponse_ok hintent hissued
    refine runs_bind (Q := fun _ h' => h'.store = ⟨next, .operational⟩ ∧
      h'.dir.Safe activeFileName (Carries sha256 ed accounts next))
      (runs_onFailure ((runs_commit hnow).mono (fun _ _ hdone => hdone) ?_ ?_)) ?_
    · rintro e h' ⟨hstore, heither⟩
      exact .inr ⟨hstate, by rw [id, hstore], next, hext, heither⟩
    · intro h' heither
      exact .inr ⟨hstate, next, hext, heither⟩
    · rintro _ h' ⟨hstore, hnext⟩
      exact runs_pure ⟨hstate, next, hext, hrecorded, hstore, hnext⟩

/-! ## A request for a recorded operation -/

def answerRecorded (sha256 : Sha256) (ed : Ed25519) (s : AuthoritySnapshot) (r : AcquireRecord)
    (request : AcquireTenureRequestV1) : Except TenureAcquireError CommittedAcquireTenure := do
  validateRequestPolicy ed s.provisioning request
  let _ ← wrapErr mapAcquireModelError (acquireIntent request)
  rejectIf (r.requestDigest ≠ request.requestDigest) .operationDigestConflict
  replayResponse sha256 request r.exactResponseBytes r.responseDigest r.proofEnvelopeDigest

theorem acquirePreflight_recorded
    (hvalid : s.Valid sha256 ed) (hr : r ∈ s.acquireRecords) (hoperation : request.operationId = r.operationId) :
    acquirePreflight ed s request = (do
      validateRequestPolicy ed s.provisioning request
      let intent ← wrapErr mapAcquireModelError (acquireIntent request)
      rejectIf (r.requestDigest ≠ request.requestDigest) .operationDigestConflict
      pure (intent, .replay r.exactResponseBytes r.responseDigest r.proofEnvelopeDigest)) := by
  unfold acquirePreflight
  cases validateRequestPolicy ed s.provisioning request with
  | error e => rfl
  | ok _ =>
    cases hintent : acquireIntent request with
    | error e => rfl
    | ok intent =>
      obtain ⟨hop, hdigest⟩ := acquireIntent_ok hintent
      have hfind : Keyed.find (·.operationId) intent.operationId s.acquireRecords = some r :=
        (hvalid.sorted.find_iff _ _ _).2 ⟨hr, by rw [hop, hoperation]⟩
      have hpreflight : s.preflight intent = (rejectIf (r.requestDigest ≠ intent.requestDigest)
          ModelError.operationDigestConflict >>= fun _ =>
            pure (.replay r.exactResponseBytes r.responseDigest r.proofEnvelopeDigest)) := by
        unfold AuthoritySnapshot.preflight
        rw [hfind]
      change (wrapErr mapAcquireModelError (s.preflight intent) >>= fun p => pure (intent, p)) =
        (rejectIf (r.requestDigest ≠ request.requestDigest) TenureAcquireError.operationDigestConflict >>= fun _ =>
          pure (intent, Preflight.replay r.exactResponseBytes r.responseDigest r.proofEnvelopeDigest))
      rw [hpreflight, ← hdigest]
      by_cases hconflict : r.requestDigest = intent.requestDigest
      · rw [rejectIf_neg (not_not.2 hconflict), rejectIf_neg (not_not.2 hconflict)]
        rfl
      · rw [rejectIf, rejectIf, if_pos hconflict, if_pos hconflict]
        rfl

/-- **A request for a recorded operation is answered from the record and changes nothing**, unless the host fails. -/
theorem runs_acquire_recorded (hstate : h.store.state = .operational)
    (hsafe : h.dir.Safe activeFileName (Carries sha256 ed accounts h.store.snapshot))
    (hr : r ∈ h.store.snapshot.acquireRecords) (hoperation : request.operationId = r.operationId) :
    Runs V (acquireWithFailpoint sha256 ed accounts signer request failpoint random) h
      ⟨fun committed h' => h = h' ∧ answerRecorded sha256 ed h.store.snapshot r request = .ok committed,
        fun e h' => h'.dir = h.dir ∧ ((h = h' ∧ answerRecorded sha256 ed h.store.snapshot r request = .error e) ∨
          ∃ v, V v ∧ v ≠ .works), fun h' => h'.dir = h.dir ∧ ∃ v, V v ∧ v ≠ .works⟩ := by
  have hpreflight := acquirePreflight_recorded (valid_of_carries hsafe) hr hoperation
  refine runs_bind (Q := fun snapshot h' => h = h' ∧ snapshot = h.store.snapshot)
    (runs_onFailure (runs_revalidateCurrent.mono (fun _ _ hdone => ⟨hdone.1, hdone.2.2⟩) ?_ ?_)) ?_
  · rintro e h' (⟨hstopped, -, -⟩ | ⟨-, rfl, hfault⟩)
    · rw [hstate] at hstopped
      cases hstopped
    · exact ⟨rfl, .inr (hfault (readable_of_carries hsafe))⟩
  · rintro h' ⟨rfl, hfault⟩
    exact ⟨rfl, hfault⟩
  rintro snapshot _ ⟨rfl, rfl⟩
  unfold answerRecorded
  rw [hpreflight]
  cases hpolicy : validateRequestPolicy ed h.store.snapshot.provisioning request with
  | error e => exact runs_error_bind ⟨rfl, .inl ⟨rfl, rfl⟩⟩
  | ok _ =>
    cases hintent : wrapErr mapAcquireModelError (acquireIntent request) with
    | error e => exact runs_error_bind ⟨rfl, .inl ⟨rfl, rfl⟩⟩
    | ok intent =>
      by_cases hconflict : r.requestDigest = request.requestDigest
      · simp only [rejectIf_neg (not_not.2 hconflict)]
        refine runs_bind (Q := fun found h' => h = h' ∧
          found = (intent, .replay r.exactResponseBytes r.responseDigest r.proofEnvelopeDigest))
          (runs_check (fun _ hok => ⟨rfl, (Except.ok.inj hok).symm⟩) fun _ he => by cases he) ?_
        rintro _ _ ⟨rfl, rfl⟩
        exact runs_check (fun _ hok => ⟨rfl, hok⟩) fun _ he => ⟨rfl, .inl ⟨rfl, he⟩⟩
      · simp only [rejectIf, if_pos hconflict]
        exact runs_error_bind ⟨rfl, .inl ⟨rfl, rfl⟩⟩

theorem requestSignature_of {bytes : Bytes} (h : bytes.length = 64) : requestSignature bytes = .ok ⟨bytes, h⟩ := dif_pos h

theorem answerRecorded_same (hvalid : s.Valid sha256 ed) (hr : r ∈ s.acquireRecords) (hbuilt : request.Built sha256)
    (hbytes : request.canonicalBytes = r.exactRequestBytes) : ∃ response, response.canonicalBytes = r.exactResponseBytes ∧
      answerRecorded sha256 ed s r request = .ok ⟨response, .replayed⟩ := by
  obtain ⟨request', response, hbound⟩ := hvalid.bound r hr
  have hstructured := hvalid.structured r hr
  have hsame : request = request' := by
    have hdecode := hbuilt.decode
    rw [hbytes, hbound.decoded] at hdecode
    exact (Except.ok.inj hdecode).symm
  subst hsame
  obtain ⟨hsignature, transcript, htranscript, hverified⟩ := hbound.signed
  have hpolicy : validateRequestPolicy ed s.provisioning request = .ok () := by
    refine ok_check (by decide) <| ok_check (by rw [hbound.isKey]; decide) <|
      ok_bind (requestSignature_of hsignature) <|
      ok_bind (mapErr_ok.2 htranscript) <| ok_check (by rw [hverified]; decide) <|
      ok_check (not_not.2 hbound.scope) <| ok_check (not_not.2 ?_) <|
      ok_check (not_not.2 hbound.principal) (rejectIf_neg ?_)
    · rw [hbound.writer, hstructured.writer]
    · simp [hbound.key, hbound.fingerprint]
  have hintent : acquireIntent request = .ok ⟨r.operationId, r.requestDigest, r.exactRequestBytes, r.writer, r.nonce,
      r.responseBound⟩ := by
    refine ok_bind ((acquireOperationIdTryFromBytes_ok _ _).2 ⟨hbound.operation ▸ hstructured.operation, hbound.operation⟩) ?_
    rw [hbound.digest, hbytes, hbound.writer, hbound.nonce, hbound.bound]
    exact ok_bind ((ensureNonzeroDigest_ok _ _ ()).2 hstructured.digest) <| ok_check hstructured.requested <|
      ok_check (not_lt.2 hstructured.request) <| ok_bind ((ensureNonzero_ok _ _ ()).2 hstructured.written) <|
      ok_check hstructured.fresh <| ok_check (not_lt.2 hstructured.nonce) <|
      ok_check hstructured.bound.1 <| ok_check (not_lt.2 hstructured.bound.2) rfl
  refine ⟨response, (AcquireTenureResponseV1.decode_ok (AcquireTenureResponseV1.decodeForRequest_ok hbound.answered).1).1, ?_⟩
  refine ok_bind hpolicy <| ok_bind (wrapErr_ok.2 hintent) <| ok_check (not_not.2 hbound.digest.symm) <|
    ok_bind (mapErr_ok.2 hbound.answered) <| ok_check ?_ rfl
  simp [hbound.responseDigest, hbound.proofDigest]

theorem answerRecorded_conflict (hpolicy : validateRequestPolicy ed s.provisioning request = .ok ())
    (hintent : acquireIntent request = .ok intent) (hdigest : request.requestDigest ≠ r.requestDigest) :
    answerRecorded sha256 ed s r request = .error .operationDigestConflict := by
  unfold answerRecorded
  rw [hpolicy, hintent, rejectIf, if_pos (Ne.symm hdigest)]
  rfl

/-! ## Runs -/

/-- **The invariant of a run.**  Wherever the active file may be found after the machine stopped, it carries a snapshot with
the record of everything that was returned; and an operational process holds the snapshot its directory carries. -/
structure World.Inv (sha256 : Sha256) (ed : Ed25519) (accounts : Accounts) (w : World) : Prop where
  durable : w.dir.Safe activeFileName fun f => ∃ s, Carries sha256 ed accounts s f ∧
    ∀ g ∈ w.granted, Recorded s g.request g.committed
  held : ∀ a, w.process = some a → a.store.state = .operational →
    w.dir.Safe activeFileName (Carries sha256 ed accounts a.store.snapshot)

theorem Carries.unique {s' : AuthoritySnapshot} {f : File} (hs : Carries sha256 ed accounts s f)
    (hs' : Carries sha256 ed accounts s' f) : s = s' := by
  have hdecode := (encodeSnapshot_ok hs.1).2.1
  rw [(encodeSnapshot_ok hs'.1).2.1] at hdecode
  exact (Except.ok.inj hdecode).symm

theorem World.Inv.recorded (hw : w.Inv sha256 ed accounts) {a : DeploymentTenureAuthority}
    (ha : w.process = some a) (hstate : a.store.state = .operational) :
    ∀ g ∈ w.granted, Recorded a.store.snapshot g.request g.committed := by
  obtain ⟨i, f, hi, hf, -, s, hcarries, hgranted⟩ := hw.durable.lookup
  obtain ⟨j, f', hj, hf', -, hheld⟩ := (hw.held a ha hstate).lookup
  have hij : i = j := Option.some.inj (hi.symm.trans hj)
  have hff : f = f' := Option.some.inj (hf.symm.trans (hij ▸ hf'))
  rw [← hff] at hheld
  rw [hheld.unique hcarries]
  exact hgranted

theorem inv_acquire (hw : w.Inv sha256 ed accounts) (request : AcquireTenureRequestV1)
    (failpoint : CommitFailpoint) (random : Bytes) (script : List Verdict) :
    (step sha256 ed accounts w (.acquire request failpoint random script)).Inv sha256 ed accounts := by
  unfold step
  cases ha : w.process with
  | none => exact hw
  | some a =>
    have hruns : Runs (fun _ => True) (acquireWithFailpoint sha256 ed accounts a.signer request failpoint random)
        ⟨w.dir, a.store⟩ (acquiring sha256 ed accounts request ⟨w.dir, a.store⟩) := runs_acquire (hw.held a ha)
    have hrun := hruns script fun _ _ => trivial
    have hrecorded := hw.recorded ha
    -- a directory with one of two snapshots that both have every record keeps the first half
    have hdurable : ∀ {d : Directory Bytes} {next : AuthoritySnapshot}, a.store.state = .operational →
        Extends a.store.snapshot next → (d.Safe activeFileName fun f =>
          Carries sha256 ed accounts a.store.snapshot f ∨ Carries sha256 ed accounts next f) →
        d.Safe activeFileName fun f => ∃ s, Carries sha256 ed accounts s f ∧
          ∀ g ∈ w.granted, Recorded s g.request g.committed := by
      intro d next hstate hext hsafe
      refine hsafe.mono fun f hf => ?_
      rcases hf with hf | hf
      · exact ⟨_, hf, hrecorded hstate⟩
      · exact ⟨_, hf, fun g hg => (hrecorded hstate g hg).extends hext⟩
    simp only [answer]
    match hstep : acquireWithFailpoint sha256 ed accounts a.signer request failpoint random ⟨⟨w.dir, a.store⟩, script⟩ with
    | (.ok committed, host) =>
      rw [hstep] at hrun
      obtain ⟨-, hstate, next, hext, hnew, hstore, hsafe⟩ := hrun
      refine ⟨hsafe.mono fun f hf => ⟨next, hf, fun g hg => ?_⟩, ?_⟩
      · rcases List.mem_append.1 hg with hg | hg
        · exact (hrecorded hstate g hg).extends hext
        · rw [List.mem_singleton.1 hg]
          exact hnew
      · rintro _ ⟨rfl⟩ -
        change host.own.dir.Safe activeFileName (Carries sha256 ed accounts host.own.store.snapshot)
        rw [hstore]
        exact hsafe
    | (.error (.failed e), host) =>
      rw [hstep] at hrun
      obtain ⟨-, hsame | ⟨hstate, hstopped, next, hext, hsafe⟩⟩ := hrun
      · change World.Inv sha256 ed accounts { w with dir := host.own.dir, process := some { a with store := host.own.store } }
        rw [hsame]
        exact ⟨hw.durable, fun _ heq hstate => by
          rw [← Option.some.inj heq] at hstate ⊢
          exact hw.held a ha hstate⟩
      · refine ⟨hdurable hstate hext hsafe, ?_⟩
        rintro _ ⟨rfl⟩ hstate'
        change host.own.store.state = .operational at hstate'
        rw [hstopped] at hstate'
        cases hstate'
    | (.error .halted, host) =>
      rw [hstep] at hrun
      refine ⟨?_, fun _ heq => by cases heq⟩
      rcases hrun with hsame | ⟨hstate, next, hext, hsafe⟩
      · change host.own.dir.Safe _ _
        rw [hsame]
        exact hw.durable
      · exact hdurable hstate hext hsafe

theorem runs_openAuthority {launch : Launch} {d : Directory Bytes} {P : File → Prop} (hd : d.Safe activeFileName P) :
    Runs V (openAuthority sha256 ed accounts launch) d (keeping P fun a => a.store.state = .operational ∧
      ∃ f, d.named activeFileName = some f ∧ decodeSnapshot sha256 ed f.bytes = .ok a.store.snapshot) := by
  refine runs_check_bind (fun _ _ => hd) fun _ _ => runs_check_bind (fun _ _ => hd) fun _ _ => ?_
  exact runs_bind (runs_onFailure (runs_openStore hd)) fun store d' hopen => runs_pure hopen

/-- Opening reads the file that is found; where nothing else may be found later, what it read is durable. -/
theorem inv_open (hw : w.Inv sha256 ed accounts) {launch : Launch} {script : List Verdict}
    (hsettled : (Action.open launch script).Settled sha256 ed accounts w) :
    (step sha256 ed accounts w (.open launch script)).Inv sha256 ed accounts := by
  have hrun {P : File → Prop} (hP : w.dir.Safe activeFileName P) := (runs_openAuthority hP :
    Runs (fun _ => True) (openAuthority sha256 ed accounts (launch.beside w.process)) w.dir _) script fun _ _ => trivial
  simp only [step]
  match hstep : openAuthority sha256 ed accounts (launch.beside w.process) ⟨w.dir, script⟩ with
  | (.ok a, host) =>
    simp only [Action.Settled, hstep] at hsettled
    simp only [hstep] at hrun
    obtain ⟨f, ⟨s, hcarries, hgranted⟩, hsafe⟩ := hw.durable.alone hsettled
    obtain ⟨-, ⟨-, g, hg, hdecode⟩, hd⟩ := hrun hsafe
    obtain ⟨g', hg', rfl⟩ := hsafe.named
    rw [Option.some.inj (hg.symm.trans hg')] at hdecode
    refine ⟨hd.mono fun g hg => ⟨s, hg ▸ hcarries, hgranted⟩, ?_⟩
    rintro _ ⟨rfl⟩ -
    exact hd.mono fun g hg => by
      rw [hg]
      exact ⟨decodeSnapshot_ok hdecode, hcarries.2⟩
  | (.error (.failed e), host) =>
    simp only [hstep] at hrun
    exact ⟨(hrun hw.durable).2, fun a ha hstate => (hrun (hw.held a ha hstate)).2⟩
  | (.error .halted, host) =>
    simp only [hstep] at hrun
    exact ⟨hrun hw.durable, fun a ha hstate => hrun (hw.held a ha hstate)⟩

theorem inv_start {s₀ : AuthoritySnapshot} {encoded : Bytes} (hencoded : encodeSnapshot sha256 ed s₀ = .ok encoded) :
    (start accounts encoded).Inv sha256 ed accounts := by
  refine ⟨?_, fun _ heq => by cases heq⟩
  intro o ho
  have hlookup : o = some 1 := by
    have hone : (start accounts encoded).dir.outcomes activeFileName = [some 1] := by
      have hne : lockFileName ≠ activeFileName := by decide
      simp [start, initializedDirectory, outcomes, Assoc.get_cons, hne]
    rw [hone] at ho
    exact List.mem_singleton.1 ho
  refine ⟨1, _, hlookup, rfl, rfl, s₀, ⟨hencoded, ?_⟩, fun g hg => by cases hg⟩
  exact ok_check (not_not.2 rfl) (rejectIf_neg (not_not.2 rfl))

/-- **A run whose opens find the active name settled keeps the invariant.** -/
theorem inv_run : ∀ (actions : List Action) {w : World}, w.Inv sha256 ed accounts → SettledRun sha256 ed accounts w actions →
    (run sha256 ed accounts w actions).Inv sha256 ed accounts
  | [], _, hw, _ => hw
  | .acquire request failpoint random script :: actions, _, hw, h =>
    inv_run actions (inv_acquire hw request failpoint random script) h.2
  | .open _ _ :: actions, _, hw, h => inv_run actions (inv_open hw h.1) h.2
  | .kill :: actions, _, hw, h => inv_run actions ⟨hw.durable, fun _ heq => by cases heq⟩ h.2
  | .crash reached torn :: actions, _, hw, h =>
    inv_run actions ⟨hw.durable.crash reached torn, fun _ heq => by cases heq⟩ h.2

/-! ## What is returned -/

theorem answer_leaves {dir : Directory Bytes} {L : Leaving Held TenureAcquireError CommittedAcquireTenure}
    (hrun : Runs V (acquireWithFailpoint sha256 ed accounts a.signer request failpoint random) ⟨dir, a.store⟩ L)
    (script : List Verdict) (hscript : ∀ v ∈ script, V v) :
    match answer sha256 ed accounts a dir request failpoint random script with
    | (.ok committed, h') => L.done committed h'
    | (.error (.failed e), h') => L.failed e h'
    | (.error .halted, h') => L.halted h' := by
  have hleft := hrun script hscript
  simp only [answer]
  match hstep : acquireWithFailpoint sha256 ed accounts a.signer request failpoint random ⟨⟨dir, a.store⟩, script⟩ with
  | (.ok committed, host) =>
    rw [hstep] at hleft
    exact hleft.2
  | (.error (.failed e), host) =>
    rw [hstep] at hleft
    exact hleft.2
  | (.error .halted, host) =>
    rw [hstep] at hleft
    exact hleft

theorem answer_stopped (hstopped : a.store.state = .stopped) (dir : Directory Bytes)
    (request : AcquireTenureRequestV1) (failpoint : CommitFailpoint) (random : Bytes) (script : List Verdict) :
    answer sha256 ed accounts a dir request failpoint random script = (.error (.failed .storeStopped), ⟨dir, a.store⟩) := by
  have hrun : Runs (fun _ => True) (acquireWithFailpoint sha256 ed accounts a.signer request failpoint random)
      ⟨dir, a.store⟩ ⟨fun _ _ => False, fun e h' => e = .storeStopped ∧ h' = ⟨dir, a.store⟩, fun _ => False⟩ := by
    refine runs_bind (Q := fun _ _ => False) (runs_onFailure ?_) fun _ _ hfalse => hfalse.elim
    refine runs_bind (Q := fun _ _ => False) (runs_ensureOperational (fun hstate => ?_) fun _ => ⟨rfl, rfl⟩)
      fun _ _ hfalse => hfalse.elim
    change a.store.state = _ at hstate
    rw [hstopped] at hstate
    cases hstate
  have hleft := answer_leaves hrun script fun _ _ => trivial
  match hanswer : answer sha256 ed accounts a dir request failpoint random script with
  | (.ok committed, h') =>
    rw [hanswer] at hleft
    exact hleft.elim
  | (.error (.failed e), h') =>
    rw [hanswer] at hleft
    rw [hleft.1, hleft.2]
  | (.error .halted, h') =>
    rw [hanswer] at hleft
    exact hleft.elim

/-- **What a request for a recorded operation is answered**, and that it leaves the directory as it was. -/
theorem answer_recorded {dir : Directory Bytes} (hstate : a.store.state = .operational)
    (hsafe : dir.Safe activeFileName (Carries sha256 ed accounts a.store.snapshot))
    (hr : r ∈ a.store.snapshot.acquireRecords) (hoperation : request.operationId = r.operationId)
    (failpoint : CommitFailpoint) (random : Bytes) (script : List Verdict) :
    (answer sha256 ed accounts a dir request failpoint random script).2.dir = dir ∧
    (∀ committed, (answer sha256 ed accounts a dir request failpoint random script).1 = .ok committed →
      answerRecorded sha256 ed a.store.snapshot r request = .ok committed) ∧
    ((∀ v ∈ script, v = .works) → answer sha256 ed accounts a dir request failpoint random script =
      (match answerRecorded sha256 ed a.store.snapshot r request with
        | .ok committed => (.ok committed, ⟨dir, a.store⟩)
        | .error e => (.error (.failed e), ⟨dir, a.store⟩))) := by
  have hrun : ∀ V : Verdict → Prop, Runs V (acquireWithFailpoint sha256 ed accounts a.signer request failpoint random)
      ⟨dir, a.store⟩ ⟨_, _, _⟩ := fun V => runs_acquire_recorded hstate hsafe hr hoperation
  have hany := answer_leaves (hrun fun _ => True) script fun _ _ => trivial
  have hworks := fun hscript => answer_leaves (hrun fun v => v = .works) script hscript
  match hanswer : answer sha256 ed accounts a dir request failpoint random script with
  | (.ok committed, h') =>
    rw [hanswer] at hany
    obtain ⟨rfl, hcommitted⟩ := hany
    refine ⟨rfl, fun _ hok => Except.ok.inj hok ▸ hcommitted, fun _ => ?_⟩
    rw [hcommitted]
  | (.error (.failed e), h') =>
    rw [hanswer] at hany
    refine ⟨hany.1, fun _ hok => (by cases hok), fun hscript => ?_⟩
    have hleft := hworks hscript
    rw [hanswer] at hleft
    rcases hleft.2 with ⟨rfl, herror⟩ | ⟨v, hv, hne⟩
    · rw [herror]
    · exact absurd hv hne
  | (.error .halted, h') =>
    rw [hanswer] at hany
    refine ⟨hany.1, fun _ hok => (by cases hok), fun hscript => ?_⟩
    have hleft := hworks hscript
    rw [hanswer] at hleft
    obtain ⟨-, v, hv, hne⟩ := hleft
    exact absurd hv hne

theorem commit_stops
    (hsafe : h.store.state = .operational → h.dir.Safe activeFileName (Carries sha256 ed accounts h.store.snapshot))
    {next : AuthoritySnapshot} {failpoint : CommitFailpoint} {random : Bytes} {script : List Verdict} {e : StoreError}
    {host : Host Held}
    (hfailed : AuthorityStore.commit sha256 ed accounts next failpoint random ⟨h, script⟩ = (.error (.failed e), host)) :
    host.own.store.state = .stopped := by
  have hrun : Runs (fun _ => True) (AuthorityStore.commit sha256 ed accounts next failpoint random) h
      ⟨fun _ _ => True, fun _ h' => h'.store.state = .stopped, fun _ => True⟩ := by
    cases hstate : h.store.state with
    | operational =>
      refine (runs_commit (hsafe hstate)).mono (fun _ _ _ => trivial) (fun _ h' hstop => ?_) fun _ _ => trivial
      change h'.store.state = _
      rw [hstop.1]
    | stopped =>
      refine runs_bind (Q := fun _ _ => False) (runs_ensureOperational (fun hworking => ?_) fun _ => hstate)
        fun _ _ hfalse => hfalse.elim
      rw [hstate] at hworking
      cases hworking
  have hleft := hrun script fun _ _ => trivial
  rw [hfailed] at hleft
  exact hleft.2

/-! ## The authority -/

def Grant.epoch (g : Grant) : UInt64 := g.committed.response.proof.claim.epoch

/-- What is durable of a world: the snapshot in the active file, as a machine that stopped there leaves it. -/
def Durable (sha256 : Sha256) (ed : Ed25519) (w : World) (reached : List Bool) (torn : Nat → Torn)
    (s : AuthoritySnapshot) : Prop :=
  ∃ f, (w.dir.crash reached torn).named activeFileName = some f ∧ decodeSnapshot sha256 ed f.bytes = .ok s

theorem World.Inv.crashed (hw : w.Inv sha256 ed accounts) (reached : List Bool) (torn : Nat → Torn) :
    ∃ s, Durable sha256 ed w reached torn s ∧ s.validate sha256 ed = .ok () ∧
      ∀ g ∈ w.granted, Recorded s g.request g.committed := by
  obtain ⟨f, hf, s, hcarries, hgranted⟩ := (hw.durable.crash reached torn).named
  obtain ⟨hvalid, hdecode, -⟩ := encodeSnapshot_ok hcarries.1
  exact ⟨s, ⟨f, hf, hdecode⟩, hvalid, hgranted⟩

theorem World.Inv.together (hw : w.Inv sha256 ed accounts) :
    ∃ s : AuthoritySnapshot, s.Valid sha256 ed ∧ ∀ g ∈ w.granted, Recorded s g.request g.committed := by
  obtain ⟨s, -, hvalid, hgranted⟩ := hw.crashed [] fun _ => ⟨[], false⟩
  exact ⟨s, AuthoritySnapshot.validate_ok hvalid, hgranted⟩

/-- **The authority never grants an epoch twice**, as long as no store is opened over a rename that is not durable
yet.  Over every such run from an initialized store, whatever the host answers and wherever a process or the machine
stops: responses for different operations carry different epochs, responses for one operation are the same bytes;
every durable snapshot is valid, has the epochs from one to the count of its records, each superseding the one before,
and the record of everything that was returned.  An operational authority answers a recorded request with the recorded
bytes and another one under its operation with a conflict, and neither changes anything.  A failed commit stops the
store, and a stopped store answers nothing.  -/
theorem tenure_granted_once (sha256 : Sha256) (ed : Ed25519) (accounts : Accounts) {s₀ : AuthoritySnapshot} {encoded : Bytes}
    (hencoded : encodeSnapshot sha256 ed s₀ = .ok encoded) (actions : List Action)
    (hsettled : SettledRun sha256 ed accounts (start accounts encoded) actions) (w : World)
    (hw : w = run sha256 ed accounts (start accounts encoded) actions) :
    (∀ g ∈ w.granted, ∀ g' ∈ w.granted, g.request.operationId ≠ g'.request.operationId → g.epoch ≠ g'.epoch) ∧
    (∀ g ∈ w.granted, ∀ g' ∈ w.granted, g.request.operationId = g'.request.operationId →
      g.request.requestDigest = g'.request.requestDigest ∧
        g.committed.response.canonicalBytes = g'.committed.response.canonicalBytes) ∧
    (∀ reached torn, ∃ s, Durable sha256 ed w reached torn s ∧ s.validate sha256 ed = .ok () ∧
      (s.acquireRecords.map fun r => r.epoch.toNat).Perm (List.range' 1 s.acquireRecords.length) ∧
      (∀ r ∈ s.acquireRecords, r.supersedesThroughEpoch.toNat + 1 = r.epoch.toNat) ∧
      ∀ g ∈ w.granted, Recorded s g.request g.committed) ∧
    (∀ a, w.process = some a → a.store.state = .operational →
      (∀ g ∈ w.granted, Recorded a.store.snapshot g.request g.committed) ∧
      ∀ r ∈ a.store.snapshot.acquireRecords, ∀ request : AcquireTenureRequestV1, request.Built sha256 →
        request.operationId = r.operationId → ∀ failpoint random script,
        (answer sha256 ed accounts a w.dir request failpoint random script).2.dir = w.dir ∧
        (∀ committed, (answer sha256 ed accounts a w.dir request failpoint random script).1 = .ok committed →
          request.requestDigest = r.requestDigest ∧ committed.response.canonicalBytes = r.exactResponseBytes) ∧
        ((∀ v ∈ script, v = .works) → request.requestDigest = r.requestDigest →
          (∃ response, response.canonicalBytes = r.exactResponseBytes ∧
            answer sha256 ed accounts a w.dir request failpoint random script =
              (.ok ⟨response, .replayed⟩, ⟨w.dir, a.store⟩)) ∨
          (request.canonicalBytes ≠ r.exactRequestBytes ∧ messageDigest sha256 requestDigestDomain request.canonicalBytes =
            messageDigest sha256 requestDigestDomain r.exactRequestBytes)) ∧
        ((∀ v ∈ script, v = .works) → request.requestDigest ≠ r.requestDigest → Nonzero request.requestDigest.asBytes →
          validateRequestPolicy ed a.store.snapshot.provisioning request = .ok () →
            answer sha256 ed accounts a w.dir request failpoint random script =
              (.error (.failed .operationDigestConflict), ⟨w.dir, a.store⟩))) ∧
    (∀ a, w.process = some a →
      (∀ next failpoint random script e host, AuthorityStore.commit sha256 ed accounts next failpoint random
        ⟨⟨w.dir, a.store⟩, script⟩ = (.error (.failed e), host) → host.own.store.state = .stopped) ∧
      (a.store.state = .stopped → ∀ request failpoint random script,
        answer sha256 ed accounts a w.dir request failpoint random script =
          (.error (.failed .storeStopped), ⟨w.dir, a.store⟩))) := by
  have hinv : w.Inv sha256 ed accounts := hw ▸ inv_run actions (inv_start hencoded) hsettled
  obtain ⟨s, hvalid, hgranted⟩ := hinv.together
  refine ⟨?_, ?_, ?_, ?_, ?_⟩
  · intro g hg g' hg' hne heq
    obtain ⟨r, hr, hop, -, -, hepoch⟩ := hgranted g hg
    obtain ⟨r', hr', hop', -, -, hepoch'⟩ := hgranted g' hg'
    have hrr : r = r' := hvalid.epoch_inj hr hr' (by rw [hepoch, hepoch']; exact heq)
    exact hne (by rw [← hop, ← hop', hrr])
  · intro g hg g' hg' heq
    obtain ⟨r, hr, hop, hdigest, hbytes, -⟩ := hgranted g hg
    obtain ⟨r', hr', hop', hdigest', hbytes', -⟩ := hgranted g' hg'
    have hrr : r = r' := hvalid.sorted.inj _ r hr r' hr' (by rw [hop, hop', heq])
    exact ⟨by rw [← hdigest, ← hdigest', hrr], by rw [← hbytes, ← hbytes', hrr]⟩
  · intro reached torn
    obtain ⟨s, hdurable, hvalidate, hrecorded⟩ := hinv.crashed reached torn
    have hvalid := AuthoritySnapshot.validate_ok hvalidate
    exact ⟨s, hdurable, hvalidate, hvalid.epochs, hvalid.supersedes, hrecorded⟩
  · intro a ha hstate
    refine ⟨hinv.recorded ha hstate, fun r hr request hbuilt hoperation failpoint random script => ?_⟩
    have hsafe := hinv.held a ha hstate
    have hvalid := valid_of_carries hsafe
    obtain ⟨hdir, hok, hworks⟩ := answer_recorded hstate hsafe hr hoperation failpoint random script
    refine ⟨hdir, fun committed hcommitted => ?_, fun hscript hdigest => ?_, fun hscript hdigest hnonzero hpolicy => ?_⟩
    · have hanswer := hok committed hcommitted
      simp only [answerRecorded, bind_ok, exists_unit, rejectIf_ok, not_not, ne_eq] at hanswer
      obtain ⟨-, -, -, hdigest, hreplay⟩ := hanswer
      exact ⟨hdigest.symm, (replayResponse_ok hvalid hr hreplay).1⟩
    · by_cases hbytes : request.canonicalBytes = r.exactRequestBytes
      · obtain ⟨response, hresponse, hanswer⟩ := answerRecorded_same hvalid hr hbuilt hbytes
        refine .inl ⟨response, hresponse, ?_⟩
        rw [hworks hscript, hanswer]
      · obtain ⟨request', response, hbound⟩ := hvalid.bound r hr
        obtain ⟨hbuilt', hcanonical⟩ := AcquireTenureRequestV1.decode_ok hbound.decoded
        refine .inr ⟨hbytes, ?_⟩
        rw [← hbuilt.fields.2.2.2.2, hdigest, ← hbound.digest, hbuilt'.fields.2.2.2.2, hcanonical]
    · obtain ⟨intent, hintent⟩ := acquireIntent_built hbuilt hnonzero
      rw [hworks hscript, answerRecorded_conflict hpolicy hintent hdigest]
  · intro a ha
    exact ⟨fun next failpoint random script e host hfailed => commit_stops (hinv.held a ha) hfailed,
      fun hstopped request failpoint random script => answer_stopped hstopped w.dir request failpoint random script⟩

/-! ## A run -/

def sampleHash : Sha256 := fun _ => .ofNat 5

def sampleScheme : Ed25519 where
  isKey _ := true
  isWeak _ := false
  verifyStrict _ _ _ := true
  verifyingKey _ := .ofNat 13
  sign _ _ := ⟨List.replicate 64 10, by decide⟩

def sampleProvisioning : AuthorityProvisioning where
  sourceScope := .ofNat 1
  authorizedWriter := .ofNat 2
  proofAuthority := sampleProof.authority
  verificationKey := .ofNat 13
  authorization := ⟨.ofNat 3, .ofNat 4, .ofNat 14, .ofNat 5⟩
  fingerprints := ⟨.ofNat 5, .ofNat 15, .ofNat 16, .ofNat 17⟩

def sampleSnapshot : AuthoritySnapshot where
  storeInstanceId := ⟨.ofNat 18, by decide⟩
  ownerIdentityFingerprint := .ofNat 17
  snapshotSequence := 1
  provisioning := sampleProvisioning
  epochHighWater := 0
  acquireRecords := []

def sampleEncoded : Bytes := match encodeSnapshot sampleHash sampleScheme sampleSnapshot with
  | .ok bytes => bytes
  | .error _ => []

def sampleOpen : Action := .open ⟨⟨.ok (), false⟩, .ofNat 18, sampleProvisioning, .ofNat 19⟩ []

def sampleAcquire (operation : Nat) (script : List Verdict) : Action :=
  .acquire (sampleRequest sampleHash (.ofNat operation)) .none (List.replicate 16 1) script

/-- The machine stops, and no change that was pending had reached the disk. -/
def sampleCrash : Action := .crash [] fun _ => ⟨[], false⟩

/-- The process is gone between the rename and the sync of the directory. -/
def cutAfterRename : List Verdict := List.replicate 20 .works ++ [.halts 1]

/-- The authority answers an operation, is killed and started again, is lost together with the machine between the rename and
the directory's sync of the next one, and is asked for both again by the process that follows. -/
def sampleActions : List Action :=
  [sampleOpen, sampleAcquire 11 [], .kill, sampleOpen, sampleAcquire 12 cutAfterRename, sampleCrash, sampleOpen,
    sampleAcquire 12 [], sampleAcquire 11 []]

theorem tenure_granted_once_sample :
    (run sampleHash sampleScheme ⟨20, 20⟩ (start ⟨20, 20⟩ sampleEncoded) sampleActions).granted.map
        (fun g => (g.epoch, g.committed.disposition)) = [(1, .issued), (2, .issued), (1, .replayed)] ∧
      ∀ reached torn, ∃ s, Durable sampleHash sampleScheme
        (run sampleHash sampleScheme ⟨20, 20⟩ (start ⟨20, 20⟩ sampleEncoded) sampleActions) reached torn s ∧
          s.validate sampleHash sampleScheme = .ok () := by
  have hencoded : encodeSnapshot sampleHash sampleScheme sampleSnapshot = .ok sampleEncoded := by decide +kernel
  have hrun : SettledRun sampleHash sampleScheme ⟨20, 20⟩ (start ⟨20, 20⟩ sampleEncoded) sampleActions ∧
      (run sampleHash sampleScheme ⟨20, 20⟩ (start ⟨20, 20⟩ sampleEncoded) sampleActions).granted.map
        (fun g => (g.epoch, g.committed.disposition)) = [(1, .issued), (2, .issued), (1, .replayed)] := by decide +kernel
  refine ⟨hrun.2, fun reached torn => ?_⟩
  obtain ⟨s, hdurable, hvalid, -⟩ :=
    (tenure_granted_once sampleHash sampleScheme ⟨20, 20⟩ hencoded sampleActions hrun.1 _ rfl).2.2.1 reached torn
  exact ⟨s, hdurable, hvalid⟩

/-- Here the machine does not stop: the next process finds the rename, answers from the record, and only then the machine
stops and the rename is lost. -/
def lostActions : List Action :=
  [sampleOpen, sampleAcquire 11 [], sampleAcquire 12 cutAfterRename, sampleOpen, sampleAcquire 12 [], sampleCrash, sampleOpen,
    sampleAcquire 13 []]

/-- **A store opened over a rename that was never synced grants an epoch twice.** -/
theorem epoch_granted_again : encodeSnapshot sampleHash sampleScheme sampleSnapshot = .ok sampleEncoded ∧
    ¬ ∀ g ∈ (run sampleHash sampleScheme ⟨20, 20⟩ (start ⟨20, 20⟩ sampleEncoded) lostActions).granted,
      ∀ g' ∈ (run sampleHash sampleScheme ⟨20, 20⟩ (start ⟨20, 20⟩ sampleEncoded) lostActions).granted,
        g.request.operationId ≠ g'.request.operationId → g.epoch ≠ g'.epoch := by
  decide +kernel

end Tenure
end ParaEgox
