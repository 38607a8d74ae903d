import ParaEgox.Admission

/-!
# AdmissionRuns — the admission ledgers over whole runs

Every transition that is admitted is retained.  The nonce ledgers keep the digest they have under a key, a temporal lineage
keeps its route and origin and only loses time, and an admitted envelope can be submitted again at any reading of its clock.
-/
namespace ParaEgox
namespace Admission

open Check ApplyState

/-! ## One admission -/

structure Shrinks (old new : TemporalLedgerEntry) : Prop where
  sourceScope : new.sourceScope = old.sourceScope
  target : new.target = old.target
  originalBudget : new.originalBudget = old.originalBudget
  domain : new.deadline.domain = old.deadline.domain
  generation : new.deadline.generation = old.deadline.generation
  remaining : new.remainingBudget ≤ old.remainingBudget
  deadline : new.deadline.deadline ≤ old.deadline.deadline

theorem Shrinks.refl (entry : TemporalLedgerEntry) : Shrinks entry entry :=
  ⟨rfl, rfl, rfl, rfl, rfl, Nat.le_refl _, Nat.le_refl _⟩

theorem Shrinks.trans {a b c : TemporalLedgerEntry} (h : Shrinks a b) (h' : Shrinks b c) : Shrinks a c :=
  ⟨h'.1.trans h.1, h'.2.trans h.2, h'.3.trans h.3, h'.4.trans h.4, h'.5.trans h.5, Nat.le_trans h'.6 h.6,
    Nat.le_trans h'.7 h.7⟩

structure Serves (e : RuntimeApplyEnvelope) (entry : TemporalLedgerEntry) : Prop where
  sourceScope : entry.sourceScope = e.sourceScope
  target : entry.target = e.target
  originalBudget : entry.originalBudget = e.temporal.originalBudget
  domain : entry.deadline.domain = e.temporal.targetClockDomain
  generation : entry.deadline.generation = e.temporal.targetClockGeneration
  remaining : entry.remainingBudget ≤ e.temporal.remainingBudget

variable {e : RuntimeApplyEnvelope} {reading : ClockReading}

theorem Serves.shrinks {old new : TemporalLedgerEntry} (h : Serves e old) (hs : Shrinks old new) : Serves e new :=
  ⟨hs.1.trans h.1, hs.2.trans h.2, hs.3.trans h.3, hs.4.trans h.4, hs.5.trans h.5, Nat.le_trans hs.6 h.6⟩

structure Live (policy : ApplyAdmissionPolicy) (e : RuntimeApplyEnvelope) (reading : ClockReading) : Prop where
  domain : e.temporal.targetClockDomain = reading.domain
  generation : e.temporal.targetClockGeneration = reading.generation
  budget : e.temporal.originalBudget ≤ policy.maximumBudget
  remaining : e.temporal.remainingBudget ≠ 0

/-- A fresh entry: it ends after the reading, within the budget of the request and not after the lineage did. -/
structure Installed (e : RuntimeApplyEnvelope) (existing : Option TemporalLedgerEntry) (reading : ClockReading)
    (entry : TemporalLedgerEntry) : Prop where
  serves : Serves e entry
  alive : reading.now < entry.deadline.deadline
  bound : entry.deadline.deadline ≤ reading.now + e.temporal.remainingBudget
  shrinks : ∀ previous, existing = some previous → Shrinks previous entry
  expires : ∀ previous, existing = some previous → reading.now < previous.deadline.deadline

theorem tryDeadlineAfter_ok {duration : U64} {d : MonotonicDeadline}
    (h : reading.tryDeadlineAfter duration = .ok d) : d = ⟨reading.domain, reading.generation, reading.now + duration⟩ := by
  simp only [ClockReading.tryDeadlineAfter, bind_ok, rejectIf_ok, exists_unit, pure_ok] at h
  exact h.2.symm

variable {policy : ApplyAdmissionPolicy} {entry : TemporalLedgerEntry}

theorem installFirst_ok (hlive : Live policy e reading)
    (h : installFirst e.temporal e.sourceScope e.target reading = .ok entry) : Installed e none reading entry := by
  simp only [installFirst, bind_ok, wrapErr_ok, pure_ok] at h
  obtain ⟨candidate, hcandidate, rfl⟩ := h
  have hpos := Nat.pos_of_ne_zero hlive.remaining
  rw [tryDeadlineAfter_ok hcandidate]
  refine ⟨⟨rfl, rfl, rfl, hlive.domain.symm, hlive.generation.symm, Nat.le_refl _⟩, ?_, Nat.le_refl _, ?_, ?_⟩
  · exact Nat.lt_add_of_pos_right hpos
  · intro previous hprevious
    cases hprevious
  · intro previous hprevious
    cases hprevious

theorem installNext_ok
    (hlive : Live policy e reading) {previous : TemporalLedgerEntry} (hscope : previous.sourceScope = e.sourceScope)
    (htarget : previous.target = e.target) (horiginal : previous.originalBudget = e.temporal.originalBudget)
    (hdomain : previous.deadline.domain = e.temporal.targetClockDomain)
    (hgeneration : previous.deadline.generation = e.temporal.targetClockGeneration)
    (h : installNext e.temporal e.sourceScope e.target previous reading = .ok entry) :
    Installed e (some previous) reading entry := by
  simp only [installNext, bind_ok, rejectIf_ok, exists_unit, wrapErr_ok, MonotonicDeadline.isExpiredAt_ok, pure_ok] at h
  obtain ⟨hextended, expired, ⟨_, _, hexpired⟩, hnot, candidate, hcandidate, rfl⟩ := h
  have hpos := Nat.pos_of_ne_zero hlive.remaining
  have hnow : reading.now < previous.deadline.deadline := by
    rw [← hexpired] at hnot
    simpa using hnot
  have hmax := Nat.not_lt.1 hextended
  have hcand := tryDeadlineAfter_ok hcandidate
  unfold earlierDeadline
  split
  · rename_i hle
    rw [hcand] at hle
    refine ⟨⟨rfl, rfl, rfl, hdomain, hgeneration, Nat.le_refl _⟩, hnow, hle, ?_, ?_⟩
    · rintro _ ⟨⟩
      exact ⟨hscope.symm, htarget.symm, horiginal.symm, rfl, rfl, hmax, Nat.le_refl _⟩
    · rintro _ ⟨⟩
      exact hnow
  · rename_i hgt
    rw [hcand] at hgt ⊢
    refine ⟨⟨rfl, rfl, rfl, hlive.domain.symm, hlive.generation.symm, Nat.le_refl _⟩, ?_, Nat.le_refl _, ?_, ?_⟩
    · exact Nat.lt_add_of_pos_right hpos
    · rintro _ ⟨⟩
      refine ⟨hscope.symm, htarget.symm, horiginal.symm, ?_, ?_, hmax, Nat.le_of_not_le hgt⟩
      · exact hlive.domain.symm.trans hdomain.symm
      · exact hlive.generation.symm.trans hgeneration.symm
    · rintro _ ⟨⟩
      exact hnow

theorem installTemporal_ok {existing : Option TemporalLedgerEntry} {disposition : AdmissionDisposition}
    (h : installTemporal e.temporal e.sourceScope e.target existing reading policy.maximumBudget disposition = .ok entry) :
    Live policy e reading ∧ (disposition = .fresh → Installed e existing reading entry)
      ∧ (disposition = .replayed → existing = some entry ∧ Serves e entry) := by
  simp only [installTemporal, bind_ok, rejectIf_ok, exists_unit, whenSome_ok, not_or, not_not, ne_eq, Nat.not_lt] at h
  obtain ⟨hdomain, hgeneration, hbudget, hremaining, hlineage, h⟩ := h
  have hlive : Live policy e reading := ⟨hdomain, hgeneration, hbudget, hremaining⟩
  cases existing with
  | none =>
    cases disposition with
    | fresh =>
      refine ⟨hlive, fun _ => installFirst_ok hlive h, fun hd => ?_⟩
      cases hd
    | replayed => cases h
  | some previous =>
    obtain ⟨hscope, htarget, horiginal, hpd, hpg⟩ := hlineage previous rfl
    cases disposition with
    | fresh =>
      refine ⟨hlive, fun _ => installNext_ok hlive hscope htarget horiginal hpd hpg h, fun hd => ?_⟩
      cases hd
    | replayed =>
      simp only [keepEntry, bind_ok, rejectIf_ok, exists_unit, pure_ok] at h
      obtain ⟨hle, rfl⟩ := h
      refine ⟨hlive, fun hd => ?_, fun _ => ⟨rfl, hscope, htarget, horiginal, hpd, hpg, Nat.not_lt.1 hle⟩⟩
      cases hd

structure Bounded (policy : ApplyAdmissionPolicy) (s : AdmissionState) : Prop where
  tenure_nodup : (Assoc.keys s.tenureNonces).Nodup
  request_nodup : (Assoc.keys s.requestNonces).Nodup
  temporal_nodup : (Assoc.keys s.temporal).Nodup
  tenure_le : s.tenureNonces.length ≤ policy.stateLimits.tenureNonceCapacity
  request_le : s.requestNonces.length ≤ policy.stateLimits.requestNonceCapacity
  temporal_le : s.temporal.length ≤ policy.stateLimits.temporalLineageCapacity

/-- **A later state**: it has every digest under its key, and every lineage with no more time. -/
structure Grows (s s' : AdmissionState) : Prop where
  tenure : ∀ k d, Assoc.get k s.tenureNonces = some d → Assoc.get k s'.tenureNonces = some d
  request : ∀ k d, Assoc.get k s.requestNonces = some d → Assoc.get k s'.requestNonces = some d
  temporal : ∀ id entry, Assoc.get id s.temporal = some entry →
    ∃ entry', Assoc.get id s'.temporal = some entry' ∧ Shrinks entry entry'

theorem Grows.refl (s : AdmissionState) : Grows s s :=
  ⟨fun _ _ h => h, fun _ _ h => h, fun _ entry h => ⟨entry, h, .refl entry⟩⟩

theorem Grows.trans {s t u : AdmissionState} (h : Grows s t) (h' : Grows t u) : Grows s u := by
  refine ⟨fun k d hk => h'.tenure k d (h.tenure k d hk), fun k d hk => h'.request k d (h.request k d hk), ?_⟩
  intro id entry hid
  obtain ⟨mid, hmid, hshrink⟩ := h.temporal id entry hid
  obtain ⟨last, hlast, hshrink'⟩ := h'.temporal id mid hmid
  exact ⟨last, hlast, hshrink.trans hshrink'⟩

theorem put_preserves {κ : Type} [DecidableEq κ] {ledger : List (κ × Digest32)} {key : κ} {digest : Digest32}
    (h : ∀ d, Assoc.get key ledger = some d → d = digest) (k : κ) (d : Digest32)
    (hk : Assoc.get k ledger = some d) : Assoc.get k (Assoc.put key digest ledger) = some d := by
  by_cases heq : k = key
  · subst heq
    rw [Assoc.get_put_self, h d hk]
  · rw [Assoc.get_put_of_ne heq]
    exact hk

theorem length_put_le {κ α : Type} [DecidableEq κ] {ledger : List (κ × α)} {key : κ} {value : α} {capacity : Nat}
    (hle : ledger.length ≤ capacity) (h : ¬ (key ∉ Assoc.keys ledger ∧ capacity ≤ ledger.length)) :
    (Assoc.put key value ledger).length ≤ capacity := by
  rw [Assoc.length_put]
  split
  · exact hle
  · rename_i hkey
    by_contra hgt
    exact h ⟨hkey, by omega⟩

/-- **One admitted envelope**: the ledgers grow within their capacities and hold it. -/
structure AdmittedAt (sha256 : Sha256) (verify : VerifyStrict) (policy : ApplyAdmissionPolicy) (e : RuntimeApplyEnvelope)
    (s : AdmissionState) (reading : ClockReading) (t : AdmissionTransition) (proofDigest : Digest32)
    (entry : TemporalLedgerEntry) : Prop where
  authentic : authenticate sha256 verify policy e = .ok proofDigest
  live : Live policy e reading
  next : t.nextState = retain s e proofDigest entry
  deadline : t.admitted.deadline = entry.deadline
  grows : Grows s t.nextState
  serves : Serves e entry
  fresh : t.disposition = .fresh → Installed e (Assoc.get e.temporal.constraintId s.temporal) reading entry
  replayed : t.disposition = .replayed → Assoc.get e.temporal.constraintId s.temporal = some entry

theorem admitEnvelope_ok {sha256 : Sha256} {verify : VerifyStrict} {s : AdmissionState} {t : AdmissionTransition}
    (h : admitEnvelope sha256 verify policy e s reading = .ok t) :
    (∃ proofDigest entry, AdmittedAt sha256 verify policy e s reading t proofDigest entry)
      ∧ (Bounded policy s → Bounded policy t.nextState) := by
  simp only [admitEnvelope, bind_ok, ensureNonceConsistent, ensureLedgerCapacity, rejectIf_ok, exists_unit, pure_ok] at h
  obtain ⟨proofDigest, hauth, hconsistent, disposition, hdispose, hincomplete, entry, hinstall, htenure, hrequest,
    htemporal, rfl⟩ := h
  obtain ⟨hlive, hfresh, hreplayed⟩ := installTemporal_ok hinstall
  have htenureSame : ∀ d, Assoc.get e.tenureNonceKey s.tenureNonces = some d → d = proofDigest := by
    intro d hd
    rw [hd] at hconsistent
    simpa using hconsistent
  have hrequestSame : ∀ d, Assoc.get e.requestNonceKey s.requestNonces = some d → d = e.requestDigest := by
    intro d hd
    rw [disposeRequest, hd] at hdispose
    dsimp only at hdispose
    split at hdispose
    · assumption
    · cases hdispose
  have hshrinks : ∀ previous, Assoc.get e.temporal.constraintId s.temporal = some previous → Shrinks previous entry := by
    intro previous hprevious
    cases disposition with
    | fresh => exact (hfresh rfl).shrinks previous hprevious
    | replayed =>
      have hsame := (hreplayed rfl).1
      rw [hprevious] at hsame
      cases hsame
      exact .refl _
  have hserves : Serves e entry := by
    cases disposition with
    | fresh => exact (hfresh rfl).serves
    | replayed => exact (hreplayed rfl).2
  refine ⟨⟨proofDigest, entry, hauth, hlive, rfl, rfl, ⟨?_, ?_, ?_⟩, hserves, hfresh, fun hd => (hreplayed hd).1⟩, ?_⟩
  · exact put_preserves htenureSame
  · exact put_preserves hrequestSame
  · intro id previous hid
    by_cases heq : id = e.temporal.constraintId
    · subst heq
      exact ⟨entry, Assoc.get_put_self .., hshrinks previous hid⟩
    · exact ⟨previous, (Assoc.get_put_of_ne heq ..).trans hid, .refl previous⟩
  · intro hb
    exact ⟨Assoc.nodup_keys_put _ hb.tenure_nodup, Assoc.nodup_keys_put _ hb.request_nodup,
      Assoc.nodup_keys_put _ hb.temporal_nodup, length_put_le hb.tenure_le htenure, length_put_le hb.request_le hrequest,
      length_put_le hb.temporal_le htemporal⟩

/-! ## Runs -/

structure AdmissionRecord where
  envelope : RuntimeApplyEnvelope
  reading : ClockReading
  disposition : AdmissionDisposition

def AdmissionRecord.id (a : AdmissionRecord) : Ref16 := a.envelope.temporal.constraintId

structure AdmissionRun where
  state : AdmissionState
  history : List AdmissionRecord

section Runs

variable (sha256 : Sha256) (verify : VerifyStrict) (policy : ApplyAdmissionPolicy)

def AdmissionRun.step (run : AdmissionRun) (request : RuntimeApplyEnvelope × ClockReading) : AdmissionRun :=
  match admitEnvelope sha256 verify policy request.1 run.state request.2 with
  | .ok t => ⟨t.nextState, run.history ++ [⟨request.1, request.2, t.disposition⟩]⟩
  | .error _ => run

def AdmissionRun.after (run : AdmissionRun) (requests : List (RuntimeApplyEnvelope × ClockReading)) : AdmissionRun :=
  requests.foldl (AdmissionRun.step sha256 verify policy) run

def AdmissionRun.start : AdmissionRun := ⟨.forNewBoundary, []⟩

structure Retained (s : AdmissionState) (a : AdmissionRecord) : Prop where
  proof : ∃ d, authenticate sha256 verify policy a.envelope = .ok d
    ∧ Assoc.get a.envelope.tenureNonceKey s.tenureNonces = some d
  request : Assoc.get a.envelope.requestNonceKey s.requestNonces = some a.envelope.requestDigest
  live : Live policy a.envelope a.reading
  entry : ∃ entry, Assoc.get a.id s.temporal = some entry ∧ Serves a.envelope entry
    ∧ (a.disposition = .fresh → entry.deadline.deadline ≤ a.reading.now + a.envelope.temporal.remainingBudget)

/-- **The invariant of a run.** -/
structure Inv (run : AdmissionRun) : Prop where
  bounded : Bounded policy run.state
  retained : ∀ a ∈ run.history, Retained sha256 verify policy run.state a
  known : ∀ id ∈ Assoc.keys run.state.temporal, ∃ a ∈ run.history, a.id = id
  first : ∀ pre a post, run.history = pre ++ a :: post → (∀ b ∈ pre, b.id ≠ a.id) → a.disposition = .fresh

variable {sha256 verify policy}

theorem Retained.grows {s s' : AdmissionState} {a : AdmissionRecord} (h : Retained sha256 verify policy s a)
    (hgrows : Grows s s') : Retained sha256 verify policy s' a := by
  obtain ⟨d, hauth, hd⟩ := h.proof
  obtain ⟨entry, hentry, hserves, hbound⟩ := h.entry
  obtain ⟨entry', hentry', hshrinks⟩ := hgrows.temporal _ _ hentry
  refine ⟨⟨d, hauth, hgrows.tenure _ _ hd⟩, hgrows.request _ _ h.request, h.live, entry', hentry', hserves.shrinks hshrinks,
    fun hfresh => ?_⟩
  exact Nat.le_trans hshrinks.deadline (hbound hfresh)

theorem AdmittedAt.retained {e : RuntimeApplyEnvelope} {s : AdmissionState} {reading : ClockReading}
    {t : AdmissionTransition} {d : Digest32} {entry : TemporalLedgerEntry}
    (h : AdmittedAt sha256 verify policy e s reading t d entry) :
    Retained sha256 verify policy t.nextState ⟨e, reading, t.disposition⟩ := by
  have hnext := h.next
  refine ⟨⟨d, h.authentic, ?_⟩, ?_, h.live, entry, ?_, h.serves, fun hfresh => (h.fresh hfresh).bound⟩
  · rw [hnext]
    exact Assoc.get_put_self ..
  · rw [hnext]
    exact Assoc.get_put_self ..
  · rw [hnext]
    exact Assoc.get_put_self ..

theorem split_snoc {α : Type} {xs pre post : List α} {x a : α} (h : xs ++ [x] = pre ++ a :: post) :
    (pre = xs ∧ a = x) ∨ ∃ post', xs = pre ++ a :: post' := by
  rcases List.eq_nil_or_concat post with rfl | ⟨post', last, rfl⟩
  · obtain ⟨hxs, hx⟩ := List.append_inj' h rfl
    exact .inl ⟨hxs.symm, (List.singleton_inj.1 hx).symm⟩
  · refine .inr ⟨post', ?_⟩
    rw [List.concat_eq_append, ← List.cons_append, ← List.append_assoc] at h
    exact (List.append_inj' h rfl).1

theorem mem_keys_put {κ α : Type} [DecidableEq κ] {k j : κ} {v : α} {xs : List (κ × α)}
    (h : j ∈ Assoc.keys (Assoc.put k v xs)) : j = k ∨ j ∈ Assoc.keys xs := by
  by_cases hjk : j = k
  · exact .inl hjk
  · right
    by_contra hnot
    have hnone := Assoc.get_eq_none.2 hnot
    rw [← Assoc.get_put_of_ne hjk v] at hnone
    exact Assoc.get_eq_none.1 hnone h

theorem Inv.step {run : AdmissionRun} (h : Inv sha256 verify policy run)
    (request : RuntimeApplyEnvelope × ClockReading) :
    Inv sha256 verify policy (run.step sha256 verify policy request) := by
  unfold AdmissionRun.step
  split
  swap
  · exact h
  rename_i t ht
  obtain ⟨⟨d, entry, hat⟩, hbounded⟩ := admitEnvelope_ok ht
  refine ⟨hbounded h.bounded, ?_, ?_, ?_⟩
  · exact List.forall_mem_append.2 ⟨fun a ha => (h.retained a ha).grows hat.grows, List.forall_mem_singleton.2 hat.retained⟩
  · intro id hid
    rw [hat.next] at hid
    rcases mem_keys_put hid with rfl | hid
    · exact ⟨_, List.mem_append_right _ (List.mem_singleton_self _), rfl⟩
    · obtain ⟨a, ha, hid⟩ := h.known id hid
      exact ⟨a, List.mem_append_left _ ha, hid⟩
  · intro pre a post hsplit hnew
    rcases split_snoc hsplit with ⟨rfl, rfl⟩ | ⟨post', hsplit'⟩
    · -- a replay would need the lineage in the ledger, and the history knows every lineage there
      cases hd : t.disposition with
      | fresh => rfl
      | replayed =>
        obtain ⟨b, hb, hid⟩ := h.known _ (Assoc.key_of_get (hat.replayed hd))
        exact absurd hid (hnew b hb)
    · exact h.first pre a post' hsplit' hnew

theorem inv_start : Inv sha256 verify policy .start where
  bounded := ⟨List.nodup_nil, List.nodup_nil, List.nodup_nil, Nat.zero_le _, Nat.zero_le _, Nat.zero_le _⟩
  retained := fun a ha => by cases ha
  known := fun id hid => by cases hid
  first := fun pre a post h => by cases pre <;> cases h

theorem Inv.after : ∀ {run : AdmissionRun} (_ : Inv sha256 verify policy run)
    (requests : List (RuntimeApplyEnvelope × ClockReading)), Inv sha256 verify policy (run.after sha256 verify policy requests)
  | _, h, [] => h
  | _, h, request :: requests => (h.step request).after requests

theorem grows_step (run : AdmissionRun) (request : RuntimeApplyEnvelope × ClockReading) :
    Grows run.state (run.step sha256 verify policy request).state := by
  unfold AdmissionRun.step
  split
  · rename_i t ht
    obtain ⟨⟨d, entry, hat⟩, _⟩ := admitEnvelope_ok ht
    exact hat.grows
  · exact .refl _

theorem grows_after : ∀ (requests : List (RuntimeApplyEnvelope × ClockReading)) (run : AdmissionRun),
    Grows run.state (run.after sha256 verify policy requests).state
  | [], run => .refl run.state
  | request :: requests, run => (grows_step run request).trans (grows_after requests _)

/-- **An admitted envelope is a replay at every reading of its clock**, and answering it changes nothing. -/
theorem Inv.replay {run : AdmissionRun} (h : Inv sha256 verify policy run) {a : AdmissionRecord} (ha : a ∈ run.history)
    {reading : ClockReading} (hdomain : reading.domain = a.reading.domain)
    (hgeneration : reading.generation = a.reading.generation) :
    ∃ admitted, admitEnvelope sha256 verify policy a.envelope run.state reading = .ok ⟨run.state, admitted, .replayed⟩ := by
  have hr := h.retained a ha
  obtain ⟨d, hauth, hd⟩ := hr.proof
  obtain ⟨entry, hentry, hserves, _⟩ := hr.entry
  have hentry' : Assoc.get a.envelope.temporal.constraintId run.state.temporal = some entry := hentry
  have htenure := Assoc.key_of_get hd
  have hrequest := Assoc.key_of_get hr.request
  have htemporal := Assoc.key_of_get hentry'
  have hdispose : disposeRequest run.state a.envelope = .ok .replayed := by
    rw [disposeRequest, hr.request]
    exact if_pos rfl
  have hinstall : installTemporal a.envelope.temporal a.envelope.sourceScope a.envelope.target (some entry) reading
      policy.maximumBudget .replayed = .ok entry := by
    refine ok_check (not_not.2 (hr.live.domain.trans hdomain.symm)) <|
      ok_check (not_not.2 (hr.live.generation.trans hgeneration.symm)) <|
      ok_check (Nat.not_lt.2 hr.live.budget) <| ok_check hr.live.remaining <|
      ok_check ?_ <| ok_check (Nat.not_lt.2 hserves.remaining) rfl
    simp [hserves.sourceScope, hserves.target, hserves.originalBudget, hserves.domain, hserves.generation]
  have hstate : retain run.state a.envelope d entry = run.state := by
    simp only [retain, Assoc.put_of_get h.bounded.tenure_nodup hd, Assoc.put_of_get h.bounded.request_nodup hr.request,
      Assoc.put_of_get h.bounded.temporal_nodup hentry']
  refine ⟨admittedApply a.envelope d entry.deadline true, ok_bind hauth <| ok_check ?_ <| ok_bind hdispose <| ok_check ?_ <|
    ok_bind (a := entry) ?_ <| ok_check (fun hfull => hfull.1 htenure) <|
    ok_check (fun hfull => hfull.1 hrequest) <|
    ok_check (fun hfull => hfull.1 htemporal) ?_⟩
  · simp [hd]
  · rintro ⟨_, hgone | hgone⟩
    · exact hgone htenure
    · exact hgone htemporal
  · rw [hentry']
    exact hinstall
  · rw [hstate]
    rfl

theorem authenticate_digest {e : RuntimeApplyEnvelope} {d : Digest32} (h : authenticate sha256 verify policy e = .ok d) :
    e.proof.envelopeDigest sha256 = .ok d := by
  simp only [authenticate, bind_ok, wrapErr_ok] at h
  obtain ⟨_, _, _, _, _, _, _, _, _, _, _, _, _, _, _, _, _, _, hdigest⟩ := h
  exact hdigest

variable (sha256 verify policy)

/-- What a run guarantees of its state, of everything it admitted and of the next request. -/
structure NeverExtends (run : AdmissionRun) : Prop where
  tenure_le : run.state.tenureNonces.length ≤ policy.stateLimits.tenureNonceCapacity
  request_le : run.state.requestNonces.length ≤ policy.stateLimits.requestNonceCapacity
  temporal_le : run.state.temporal.length ≤ policy.stateLimits.temporalLineageCapacity
  request_digest : ∀ a ∈ run.history, ∀ b ∈ run.history, a.envelope.requestNonceKey = b.envelope.requestNonceKey →
    a.envelope.requestDigest = b.envelope.requestDigest
  tenure_digest : ∀ a ∈ run.history, ∀ b ∈ run.history, a.envelope.tenureNonceKey = b.envelope.tenureNonceKey →
    a.envelope.proof.envelopeDigest sha256 = b.envelope.proof.envelopeDigest sha256
  /-- A lineage ends no later than its first admitting reading and that request's budget. -/
  first_bound : ∀ pre a post, run.history = pre ++ a :: post → (∀ b ∈ pre, b.id ≠ a.id) →
    ∃ entry, Assoc.get a.id run.state.temporal = some entry ∧ entry.deadline.domain = a.reading.domain
      ∧ entry.deadline.generation = a.reading.generation
      ∧ entry.deadline.deadline ≤ a.reading.now + a.envelope.temporal.remainingBudget
  /-- A fresh request is admitted before its lineage ends, and gets a deadline after its reading. -/
  fresh_alive : ∀ e reading t, admitEnvelope sha256 verify policy e run.state reading = .ok t → t.disposition = .fresh →
    (∀ entry, Assoc.get e.temporal.constraintId run.state.temporal = some entry →
      entry.deadline.domain = reading.domain ∧ entry.deadline.generation = reading.generation
        ∧ reading.now < entry.deadline.deadline ∧ t.admitted.deadline.deadline ≤ entry.deadline.deadline)
      ∧ reading.now < t.admitted.deadline.deadline
  /-- An admitted envelope is answered again, with the state unchanged. -/
  replay : ∀ a ∈ run.history, ∀ reading : ClockReading, reading.domain = a.reading.domain →
    reading.generation = a.reading.generation →
      ∃ admitted, admitEnvelope sha256 verify policy a.envelope run.state reading = .ok ⟨run.state, admitted, .replayed⟩

/-- **Admission never extends time and never forgets a nonce**, for every policy, signature scheme and sequence of
envelopes and readings. -/
theorem admission_never_extends_time (requests more : List (RuntimeApplyEnvelope × ClockReading)) :
    NeverExtends sha256 verify policy (AdmissionRun.start.after sha256 verify policy requests)
      ∧ Grows (AdmissionRun.start.after sha256 verify policy requests).state
        (AdmissionRun.start.after sha256 verify policy (requests ++ more)).state := by
  have h : Inv sha256 verify policy (AdmissionRun.start.after sha256 verify policy requests) := inv_start.after requests
  constructor
  · refine ⟨h.bounded.tenure_le, h.bounded.request_le, h.bounded.temporal_le, ?_, ?_, ?_, ?_, fun a ha reading => h.replay ha⟩
    · intro a ha b hb heq
      have hr := (h.retained a ha).request
      rw [heq, (h.retained b hb).request] at hr
      exact (Option.some.inj hr).symm
    · intro a ha b hb heq
      obtain ⟨d, hauth, hd⟩ := (h.retained a ha).proof
      obtain ⟨d', hauth', hd'⟩ := (h.retained b hb).proof
      rw [heq, hd'] at hd
      rw [authenticate_digest hauth, authenticate_digest hauth', Option.some.inj hd]
    · intro pre a post hsplit hnew
      have ha : a ∈ (AdmissionRun.start.after sha256 verify policy requests).history := by
        rw [hsplit]
        exact List.mem_append_right _ List.mem_cons_self
      have hr := h.retained a ha
      obtain ⟨entry, hentry, hserves, hbound⟩ := hr.entry
      exact ⟨entry, hentry, hserves.domain.trans hr.live.domain, hserves.generation.trans hr.live.generation,
        hbound (h.first pre a post hsplit hnew)⟩
    · intro e reading t ht hfresh
      obtain ⟨⟨d, entry, hat⟩, _⟩ := admitEnvelope_ok ht
      have hinstalled := hat.fresh hfresh
      rw [hat.deadline]
      refine ⟨fun previous hprevious => ?_, hinstalled.alive⟩
      have hshrinks := hinstalled.shrinks previous hprevious
      refine ⟨?_, ?_, hinstalled.expires previous hprevious, hshrinks.deadline⟩
      · exact hshrinks.domain.symm.trans (hat.serves.domain.trans hat.live.domain)
      · exact hshrinks.generation.symm.trans (hat.serves.generation.trans hat.live.generation)
  · unfold AdmissionRun.after
    rw [List.foldl_append]
    exact grows_after more _

end Runs

/-! ## A request that is sent again after its deadline -/

def sampleProof : WriterTenureProof where
  authority := .ofNat 1
  authorityKey := .ofNat 2
  algorithm := 1
  algorithmVersion := 1
  sourceScope := .ofNat 3
  writer := .ofNat 4
  epoch := 1
  supersedesThroughEpoch := 0
  nonce := [1]
  signature := List.replicate 64 7
  epoch_ne_zero := Nat.one_ne_zero
  supersedes_lt := Nat.one_pos

def sampleEnvelope : RuntimeApplyEnvelope where
  controlCommitment := ⟨⟨⟨.ofNat 5, ⟨.ofNat 3, .ofNat 6, 1, .ofNat 7⟩, .ofNat 8⟩, 0⟩, ⟨sampleProof, .none, .ofNat 9⟩, 0⟩
  temporal := ⟨.ofNat 10, .ofNat 11, 1, 10, 10⟩
  claim := ⟨.ofNat 12, .ofNat 13, 1, 1, [2]⟩
  signature := List.replicate 64 8
  canonicalWire := []
  requestDigest := 0

def samplePolicy : ApplyAdmissionPolicy where
  maximumBudget := 100
  stateLimits := ⟨1, 1, 1⟩
  tenureKeys := [(sampleEnvelope.tenureSelector, [])]
  applyKeys := [(sampleEnvelope.applySelector, [])]

example : ((AdmissionRun.start.after (fun _ => 0) (fun _ _ _ => true) samplePolicy
    [(sampleEnvelope, ⟨.ofNat 11, 1, 5⟩), (sampleEnvelope, ⟨.ofNat 11, 1, 50⟩)]).history.map (·.disposition))
      = [.fresh, .replayed] := by decide +kernel

end Admission
end ParaEgox
