import Mathlib.Data.Set.Function
import ParaEgox.JournalRestart

/-!
# JournalRestartable — every crash can be followed by a restart

`try_startup_invalidation_successor` accepts every snapshot a builder run reaches: the eligibility it derives from the
interrupted live state passes the cross references, and the candidate is an accepted successor.
-/
namespace ParaEgox
namespace Journal

open Check RuntimeJournalState

/-! ## Digests -/

variable {s : RuntimeJournalState} {c : Contracts} {sequence : U64}

theorem encodePayload_length {payload : Bytes} (h : encodePayload s = .ok payload) :
    payload.length < 2 ^ 64 := by
  simp only [encodePayload, encodePayloadVersion, bind_ok, rejectIf_ok, exists_unit, pure_ok, not_lt] at h
  obtain ⟨_, _, _, hlength, rfl⟩ := h
  refine lt_of_le_of_lt hlength ?_
  decide

theorem startupReconcileEvidenceDigest_total (sha256 : Sha256) {payload : Bytes}
    (h : encodePayload s = .ok payload) : startupReconcileEvidenceDigest sha256 s =
      .ok (sha256 (digestInput runtimeStartupReconcileDomain [payload])) := by
  unfold startupReconcileEvidenceDigest
  rw [h]
  exact journalDigest_total sha256 (by decide) (by decide) (by simp) (by simpa using encodePayload_length h)

theorem startupInvalidationEvidenceDigest_total (sha256 : Sha256) {payload : Bytes}
    (h : encodePayload s = .ok payload) (s' : RuntimeJournalState) :
    ∃ input, startupInvalidationEvidenceDigest sha256 s s' = .ok (sha256 input) := by
  unfold startupInvalidationEvidenceDigest
  rw [h]
  refine ⟨_, journalDigest_total sha256 (by decide) (by decide) (by simp) ?_⟩
  simpa [encU64] using encodePayload_length h

def RecoveryTerminalRecord.failureInput (t : RecoveryTerminalRecord) : Bytes :=
  digestInput runtimeRecoveryFailureDomain [recoveryFailureRecord t.recovery t.selection t.resourceCensusDigest]

theorem failureInput_actionId {t t' : RecoveryTerminalRecord} (h : t.failureInput = t'.failureInput) :
    t.recovery.action.actionId = t'.recovery.action.actionId := by
  have hrecord := digestInput_inj h
  simp only [recoveryFailureRecord, encodeRecoveryAction, encodeAction, List.flatten_cons, List.append_assoc] at hrecord
  exact Ref16.asBytes_inj (List.append_inj hrecord (by simp [Ref16.asBytes])).1

/-- The hash never gives the all-zero digest, and gives no two of the inputs one digest. -/
structure HashesApart (sha256 : Sha256) (inputs : Set Bytes) : Prop where
  nonzero : ∀ input, sha256 input ≠ 0
  injective : Set.InjOn sha256 inputs

def RuntimeJournalState.failureInputs (s : RuntimeJournalState) : Set Bytes :=
  { input | ∃ t ∈ s.recoveryTerminals, t.failureInput = input }

/-! ## The head of a failed recovery -/

/-- While a failed recovery is live, its terminal was of the revision and plan of the desired head. -/
def RuntimeJournalState.FailedHead (s : RuntimeJournalState) : Prop :=
  ∀ head actionId failure census active, s.liveMaterialization = .recoveryFailedNotReady head actionId failure census →
    s.activeDesired = some active → ∀ t ∈ s.recoveryTerminals, t.recovery.action.actionId = actionId →
      t.recovery.sourceRevision = active.sourceRevision ∧ t.recovery.sourcePlanDigest = active.sourcePlanDigest

theorem recoveryAction_fresh (h : s.ActionsOk c) {r : RecoveryAction}
    (hr : s.recoveryAction = some r) {t : RecoveryTerminalRecord} (ht : t ∈ s.recoveryTerminals) :
    t.recovery.action.actionId ≠ r.action.actionId := by
  have hdistinct := h.distinct
  unfold allActions at hdistinct
  rw [List.map_append, List.nodup_append] at hdistinct
  refine hdistinct.2.2 _ ?_ _ ?_
  · exact List.mem_map.2 ⟨t.recovery.action, List.mem_append_left _ (List.mem_append_right _
      (List.mem_map.2 ⟨t, ht, rfl⟩)), rfl⟩
  · exact List.mem_map.2 ⟨r.action, by simp [hr], rfl⟩

theorem isFailed_of_same_except_census {live live' : LiveMaterialization} {head failure census actionId}
    (h : liveIdentityPreservedExceptCensus live' live = true)
    (hlive : live' = .recoveryFailedNotReady head actionId failure census) :
    ∃ census', live = .recoveryFailedNotReady head actionId failure census' := by
  subst hlive
  cases live <;>
    simp [liveIdentityPreservedExceptCensus, LiveMaterialization.withResourceCensus] at h
  obtain ⟨rfl, rfl, rfl⟩ := h
  exact ⟨_, rfl⟩

theorem Transition.failedHead {s' : RuntimeJournalState} (h : Transition c.sha256 s s')
    (hactions : s.ActionsOk c) (hs : s.FailedHead) : s'.FailedHead := by
  intro head actionId failure census active hlive hactive t ht hid
  cases h with
  | startupInvalidation => cases hlive
  | tenureOnly => exact hs head actionId failure census active hlive hactive t ht hid
  | fullAdmission =>
    refine hs head actionId failure census active ?_ hactive t ht hid
    simp only [fullAdmissionLiveMaterialization] at hlive
    split at hlive
    · cases hlive
    · cases hlive
    · exact hlive
  | preparedProgress => exact hs head actionId failure census active hlive hactive t ht hid
  | resourceProgress resources live successor sameLive =>
    obtain ⟨census', hold⟩ := isFailed_of_same_except_census sameLive hlive
    exact hs head actionId failure census' active hold hactive t ht hid
  | startPublished prepared action terminal active' live =>
    rename_i ready _
    simp only [closed] at hlive
    rw [hlive] at ready
    cases ready
  | startClosed prepared action terminal live resources terminals =>
    rename_i hzero
    simp only [closed] at hlive
    subst hlive
    simp only [exactZeroLive, closed] at hzero
    split at hzero <;> simp_all
  | emptyHeadRetire =>
    rename_i draining _
    simp only at hlive
    rw [hlive] at draining
    cases draining
  | exactZeroTerminal prepared active' terminal live resources terminals resourceAction hprepared appends census' kind
      activeKind head' hexact =>
    simp only [closed] at hlive
    rw [hlive] at hexact
    cases hexact
  | recoveryPlan recovery live eligible noAction allTerminal phase epoch generation recovering =>
    simp only at hlive
    rw [hlive] at recovering
    cases recovering
  | recoveryProgress current old hold progress recovering => exact hs head actionId failure census active hlive hactive t ht hid
  | recoveryPublished old terminal live resources terminals hold appends census' predecessor ready =>
    simp only at hlive
    rw [hlive] at ready
    cases ready
  | recoveryFailed old terminal head' failure' liveCensus resources terminals hold appends =>
    simp only at hlive ht
    cases hlive
    rw [appends.eq] at ht
    rcases List.mem_append.1 ht with ht | ht
    · exact absurd hid (recoveryAction_fresh hactions hold ht)
    · cases List.mem_singleton.1 ht
      have hvalid := hactions.recovery old hold
      simp only [RecoveryAction.validate, bind_ok, okOr_ok, rejectIf_ok, exists_unit, not_or, not_not, ne_eq] at hvalid
      obtain ⟨_, a, ha, _, _, hrevision, hplan, _⟩ := hvalid
      rw [hactive] at ha
      cases ha
      rw [appends.recovery]
      exact ⟨hrevision.symm, hplan.symm⟩
  | recoveryAbortNoEffects old terminal terminals hold appends phase raw eligible =>
    simp only at hlive
    rw [hlive] at eligible
    cases eligible
  | operationTerminalNoEffects => exact hs head actionId failure census active hlive hactive t ht hid
  | quarantine live free quarantined =>
    simp only at hlive
    rw [hlive] at quarantined
    cases quarantined

theorem RuntimeJournalSnapshot.Reachable.failedHead {s : RuntimeJournalSnapshot}
    (h : RuntimeJournalSnapshot.Reachable c s) : s.state.FailedHead := by
  obtain ⟨first, hfirst, hchain⟩ := h
  induction hchain with
  | refl =>
    intro _ _ _ _ _ hlive
    rw [RuntimeJournalSnapshot.Initial.state_eq hfirst |>.choose_spec] at hlive
    cases hlive
  | tail hab hstep ih =>
    exact hstep.transition.failedHead (RuntimeJournalSnapshot.Chain.built hfirst.built hab).valid.actions ih

/-! ## Eligibility -/

theorem nonterminal_eq_unbound (hs : s.Valid c sequence)
    (hnone : s.currentAction = none) : s.nonterminal = s.unboundNonterminal := by
  unfold RuntimeJournalState.nonterminal unboundNonterminal
  refine List.filter_congr fun r hr => ?_
  cases hterminal : r.phase.isTerminal with
  | true => rfl
  | false =>
    have howner := (hs.resources r hr).owner
    unfold resourceOwnerCheck at howner
    rw [if_neg (by simp [hterminal]), hnone] at howner
    cases hid : r.actionId with
    | none => rfl
    | some id => simp [hid] at howner

/-- **The failure a restart carries on is the one recovery's**: equal failure digests are of one record. -/
theorem latchedFailure_unique (hs : s.Valid c sequence)
    (hfailed : s.FailedHead) (hhash : HashesApart c.sha256 s.failureInputs) {active : ActiveDesiredHead}
    {head : TargetSliceDigest} {actionId : Ref16} {failure census : Digest32} (hactive : s.activeDesired = some active)
    (hlive : s.liveMaterialization = .recoveryFailedNotReady head actionId failure census)
    {t : RecoveryTerminalRecord} (hone : onlyOne (s.recoveryTerminals.filter (·.recovery.action.actionId = actionId))
      = some t) (hhead : t.recovery.activeSliceDigest = active.slice.digest) (hcensus : t.resourceCensusDigest = census)
    (hlatch : t.failureLatchDigest = some failure) (hprimary : t.selection.primary ≠ .oneSourceLoopActive) :
    s.recoveryTerminals.countP (latchedFailure active failure census) = 1 := by
  have hfilter : s.recoveryTerminals.filter (·.recovery.action.actionId = actionId) = [t] := by
    unfold onlyOne at hone
    split at hone
    · rename_i hsingle
      cases hone
      exact hsingle
    · cases hone
  have hmem : t ∈ s.recoveryTerminals ∧ t.recovery.action.actionId = actionId := by
    have : t ∈ s.recoveryTerminals.filter (·.recovery.action.actionId = actionId) := by rw [hfilter]; simp
    simpa using this
  have hdigest (t' : RecoveryTerminalRecord) (ht' : t' ∈ s.recoveryTerminals)
      (hf : t'.failureLatchDigest = some failure) : failure = c.sha256 t'.failureInput := by
    have hvalid := recoveryTerminal_valid hs.recoveryTerminals ht'
    simp only [RecoveryTerminalRecord.validate, bind_ok, exists_unit] at hvalid
    have hlatch := hvalid.2.2.2.2.2.2.1
    unfold RecoveryTerminalRecord.validateFailureLatch at hlatch
    split at hlatch
    · simp [hf] at hlatch
    · simp only [bind_ok, rejectIf_ok, not_not, ne_eq, hf, Option.some.injEq] at hlatch
      obtain ⟨d, hd, rfl⟩ := hlatch
      exact journalDigest_eq hd
  obtain ⟨common, hscope⟩ := hs.scope
  obtain ⟨hrevision, hplan⟩ := hfailed head actionId failure census active hlive hactive t hmem.1 hmem.2
  have hsame : t.recovery.sourceScope = active.sourceScope :=
    (hscope.recoveryTerminals t hmem.1).1.trans (hscope.active active hactive).scope.symm
  have haborted : t.selection.primary ≠ .abortedBeforeIntentNoEffects := by
    intro habort
    have hlineage := recoveryTerminal_lineage hs.recoveryTerminals hmem.1
    have hvalid := recoveryTerminal_valid hs.recoveryTerminals hmem.1
    simp only [RecoveryTerminalRecord.validate, bind_ok, exists_unit] at hvalid
    have hfail := hvalid.2.2.2.2.2.2.1
    unfold RecoveryTerminalRecord.validateFailureLatch at hfail
    cases hphase : t.recovery.phase with
    | startupInvalidatedNoEffects =>
      rw [if_pos (.inr ⟨habort, hphase⟩), hlatch] at hfail
      simp at hfail
    | startCallIntent =>
      simp only [recoveryTerminalRawLineageIsValid, hphase, habort, Bool.and_eq_true] at hlineage
      have := hlineage.2
      split at this <;> simp at this
    | _ => simp [recoveryTerminalRawLineageIsValid, hphase, habort] at hlineage
  have hcount : s.recoveryTerminals.countP (latchedFailure active failure census)
      = s.recoveryTerminals.countP (·.recovery.action.actionId = actionId) := by
    refine List.countP_congr fun t' ht' => ?_
    simp only [decide_eq_true_eq]
    constructor
    · intro hlatched
      simp only [latchedFailure, Bool.and_eq_true, decide_eq_true_eq] at hlatched
      have heq := (hdigest t' ht' hlatched.1.1.1.1.1.1.1).symm.trans (hdigest t hmem.1 hlatch)
      rw [← hmem.2]
      exact failureInput_actionId (hhash.injective ⟨t', ht', rfl⟩ ⟨t, hmem.1, rfl⟩ heq)
    · intro hid
      have heq : t' ∈ s.recoveryTerminals.filter (·.recovery.action.actionId = actionId) := by simp [ht', hid]
      rw [hfilter, List.mem_singleton] at heq
      subst heq
      simp [latchedFailure, hlatch, hhead, hsame, hrevision, hplan, hcensus, hprimary, haborted]
  rw [hcount, List.countP_eq_length_filter, hfilter]
  rfl

theorem reconcile_accepted (s : RuntimeJournalState) {reason : Digest32} (census : Digest32) (h : reason ≠ 0) :
    s.validateEligibility .reconcileRequired (some reason) census = .ok () := by
  simp only [validateEligibility, bind_ok, okOr_ok, ensureNonzeroDigest_ok]
  exact ⟨reason, rfl, h⟩

/-- **The restart's eligibility passes its own cross references**, whatever live state it interrupts. -/
theorem startupEligibility_accepted
    (hs : s.Valid c sequence) (hfailed : s.FailedHead) (hhash : HashesApart c.sha256 s.failureInputs) {payload : Bytes}
    (hpayload : encodePayload s = .ok payload) {census : Digest32}
    (hcensus : computeResourceCensusDigest c.sha256 s.ownedResources = .ok census) :
    ∃ eligibility failure, startupEligibility c.sha256 s = .ok (eligibility, failure) ∧
      s.validateEligibility eligibility failure census = .ok () := by
  have hreconcile := startupReconcileEvidenceDigest_total c.sha256 hpayload
  have hevidence := reconcile_accepted s census (hhash.nonzero (digestInput runtimeStartupReconcileDomain [payload]))
  have hlive := hs.live
  simp only [validateLiveCrossReferences, bind_ok] at hlive
  obtain ⟨_, heq, hlive⟩ := hlive
  cases hcensus.symm.trans heq
  by_cases hagain : s.liveMaterialization.isStartupInvalidated = true
  · -- a restart before any recovery carries its eligibility on
    cases hm : s.liveMaterialization <;> simp only [hm, LiveMaterialization.isStartupInvalidated,
      Bool.false_eq_true] at hagain
    refine ⟨_, _, by rw [startupEligibility, hm], ?_⟩
    simp only [hm, validateStartupInvalidated, bind_ok, rejectIf_ok, exists_unit, not_or, not_not, ne_eq] at hlive
    obtain ⟨⟨_, _, rfl⟩, _, _, helig⟩ := hlive
    exact helig
  by_cases haction : s.currentAction.isSome = true
  · cases hm : s.liveMaterialization with
    | startupInvalidated => exact absurd (by rw [hm]; rfl) hagain
    | recovering head actionId generation recorded =>
      simp only [hm, validateRecovering, expectActive, bind_ok, okOr_ok, rejectIf_ok, exists_unit, pure_ok] at hlive
      obtain ⟨_, active, ⟨_, hactive, hkind, rfl⟩, _, hcommit, _⟩ := hlive
      unfold startupEligibility
      rw [hm]
      dsimp only
      split
      · refine ⟨_, _, rfl, ?_⟩
        simp only [validateEligibility, expectActive, bind_ok, okOr_ok, rejectIf_ok, exists_unit, pure_ok]
        exact ⟨_, ⟨_, hactive, hkind, rfl⟩, by simp, hcommit⟩
      · rw [hreconcile]
        exact ⟨_, _, rfl, hevidence⟩
    | _ =>
      refine ⟨_, _, ?_, hevidence⟩
      rw [startupEligibility, hm]
      simp only [Bool.false_and, Bool.false_eq_true, if_false, if_pos haction, hreconcile]
      rfl
  · have hnone : s.currentAction = none := by simpa using haction
    have hunbound := nonterminal_eq_unbound hs hnone
    cases hm : s.liveMaterialization with
    | none =>
      simp only [hm, rejectIf_ok, not_or, not_not, ne_eq] at hlive
      obtain ⟨hactive, _, hempty⟩ := hlive
      have hactive : s.activeDesired = none := by simpa using hactive
      refine ⟨.noActiveHead, none, ?_, ?_⟩
      · rw [startupEligibility, hm, hactive]
        simp [hnone]
      · simp [validateEligibility, hactive, hunbound, hempty, hnone]
    | startupInvalidated => exact absurd (by rw [hm]; rfl) hagain
    | recovering head actionId generation recorded =>
      simp only [hm, validateRecovering, bind_ok, okOr_ok, exists_unit] at hlive
      obtain ⟨_, _, _, _, _, r, hr, _⟩ := hlive
      rw [(recovery_none_of_currentAction hnone).1] at hr
      cases hr
    | liveReady head epoch generation recorded =>
      simp only [hm, validateLiveReady, expectActive, bind_ok, okOr_ok, rejectIf_ok, exists_unit, pure_ok, not_or,
        not_not, ne_eq] at hlive
      obtain ⟨active, ⟨_, hactive, hkind, rfl⟩, ⟨hhead, _⟩, hcommit, _⟩ := hlive
      refine ⟨.eligibleOneSourceLoop, none, ?_, ?_⟩
      · rw [startupEligibility, hm, hactive]
        simp [hnone, hkind, hhead]
      · simp only [validateEligibility, expectActive, bind_ok, okOr_ok, rejectIf_ok, exists_unit, pure_ok]
        exact ⟨_, ⟨_, hactive, not_not.2 hkind, rfl⟩, by simp, hcommit⟩
    | recoveryFailedNotReady head actionId failure recorded =>
      simp only [hm, validateRecoveryFailedNotReady, expectActive, bind_ok, okOr_ok, rejectIf_ok, exists_unit, pure_ok,
        ensureNonzeroDigest_ok, not_or, not_not, ne_eq] at hlive
      obtain ⟨active, ⟨_, hactive, hkind, rfl⟩, _, hfailure, t, hone, ⟨hhead, hzero, rfl, _, hthead, htcensus, htlatch,
        htprimary, _⟩, hcommit⟩ := hlive
      refine ⟨.recoveryFailureLatched, some failure, ?_, ?_⟩
      · rw [startupEligibility, hm, hactive]
        simp [hnone, hkind, hhead]
      · have hcount := latchedFailure_unique hs hfailed hhash hactive hm hone (hthead.trans hhead.symm) htcensus htlatch
          htprimary
        simp only [validateEligibility, expectActive, bind_ok, okOr_ok, rejectIf_ok, exists_unit, pure_ok,
          ensureNonzeroDigest_ok]
        exact ⟨_, ⟨_, hactive, not_not.2 hkind, rfl⟩, failure, rfl, hfailure, by rw [hcount]; simp [hzero, hnone], hcommit⟩
    | draining head operationId actionId generation recorded =>
      refine ⟨_, _, ?_, hevidence⟩
      rw [startupEligibility, hm]
      simp only [Bool.false_and, Bool.false_eq_true, if_false, if_neg haction, hreconcile]
      cases s.activeDesired <;> rfl
    | exactZero head recorded =>
      simp only [hm, validateExactZero, expectActive, bind_ok, okOr_ok, rejectIf_ok, exists_unit, pure_ok, not_or,
        not_not, ne_eq] at hlive
      obtain ⟨active, ⟨_, hactive, hkind, rfl⟩, ⟨hhead, hempty, _⟩, hcommit, _⟩ := hlive
      refine ⟨.canonicalEmptyExactZero, none, ?_, ?_⟩
      · rw [startupEligibility, hm, hactive]
        simp [hnone, hkind, hhead]
      · simp only [validateEligibility, expectActive, bind_ok, okOr_ok, rejectIf_ok, exists_unit, pure_ok]
        exact ⟨_, ⟨_, hactive, not_not.2 hkind, rfl⟩, by simp [hunbound, hempty, hnone], hcommit⟩
    | quarantined head reason recorded =>
      simp only [hm, validateQuarantined, bind_ok, ensureNonzeroDigest_ok, exists_unit] at hlive
      refine ⟨.reconcileRequired, some reason, ?_, reconcile_accepted s census hlive.1⟩
      rw [startupEligibility, hm]
      simp only [Bool.false_and, Bool.false_eq_true, if_false, if_neg haction]

theorem currentAction_valid (hs : s.Valid c sequence)
    {a : JournalActionRef} (ha : s.currentAction = some a) : validateAction a s.host = .ok () := by
  unfold currentAction at ha
  split at ha
  · rename_i action hprepared
    cases ha
    obtain ⟨p, hp, haction⟩ := Option.bind_eq_some_iff.1 hprepared
    exact (hs.actions.prepared p hp).valid a haction
  · obtain ⟨r, hr, rfl⟩ := Option.map_eq_some_iff.1 ha
    have hvalid := hs.actions.recovery r hr
    simp only [RecoveryAction.validate, RecoveryAction.validateIntrinsic, bind_ok, exists_unit] at hvalid
    exact hvalid.1.2.1

/-! ## The candidate -/

namespace Restarts
variable {c : Contracts} {s s' : RuntimeJournalState}

theorem eligibility (h : Restarts s s') (e : StartupRecoveryEligibility) (failure : Option Digest32)
    (census : Digest32) : s'.validateEligibility e failure census = s.validateEligibility e failure census := by
  unfold validateEligibility expectActive validateActiveCommitRef
  rw [h.active, h.nonterminal, h.currentAction, h.recoveryTerminals, h.terminals]

theorem request (h : Restarts s s') {store : Id32} {mismatch : RuntimeJournalError}
    (hs : validatePreparedRequestBusinessInvariants c s store mismatch = .ok ()) :
    validatePreparedRequestBusinessInvariants c s' store mismatch = .ok () := by
  simp only [validatePreparedRequestBusinessInvariants, whenSome_ok] at hs ⊢
  intro p' hp'
  obtain ⟨p, hp, hq⟩ := h.prepared_some hp'
  have hrequest := hs p hp
  simp only [validatePreparedRequest, bind_ok, okOr_ok, mapErr_ok, rejectIf_ok, h.host, h.fence, not_or, not_and_or,
    not_not] at hrequest ⊢
  obtain ⟨request, hdecode, ingress, hingress, fence, hfence, temporal, htemporal, proof, hproof, slice, hslice, hmatch,
    hrecorded, htenure⟩ := hrequest
  -- every phase a restart leaves admits a superseded tenure
  have hphase : p'.phase.superseded = true := by
    rcases startupInvalidatedPreparedOp_eq hq with ⟨_, _, _, rfl⟩ | ⟨_, _, phase, hphase, _, rfl⟩
    · rfl
    · rcases hphase with rfl | rfl <;> rfl
  have hfields : p'.request = p.request ∧ p'.temporalConstraintId = p.temporalConstraintId ∧
      p'.sourceScope = p.sourceScope ∧
      requestMatchesPrepared request ingress slice temporal store p' =
        requestMatchesPrepared request ingress slice temporal store p := by
    rcases startupInvalidatedPreparedOp_eq hq with ⟨_, _, _, rfl⟩ | ⟨_, _, phase, _, _, rfl⟩
    · exact ⟨rfl, rfl, rfl, rfl⟩
    · exact ⟨rfl, rfl, rfl, rfl⟩
  obtain ⟨hreq, htid, hscope, hmatches⟩ := hfields
  rw [hreq, htid, hscope]
  refine ⟨request, hdecode, ingress, hingress, fence, hfence, temporal, htemporal, proof, hproof, slice, hslice, ?_,
    hrecorded, htenure.imp id fun hsuperseded => ?_⟩
  · rw [hmatches]
    exact hmatch
  · simp only [Bool.and_eq_true] at hsuperseded ⊢
    exact ⟨hsuperseded.1, hphase⟩

theorem listLengths (h : Restarts s s') : s'.listLengths = s.listLengths := by
  unfold RuntimeJournalState.listLengths
  rw [h.host, h.recoveryTerminals, h.resources, h.terminals]
  rfl

theorem opaqueValues (h : Restarts s s') : s'.opaqueValues = s.opaqueValues := by
  have hprepared := h.prepared_map (fun p => p.request :: p.retiring.toList.map (·.oldSlice)) fun _ _ _ => rfl
  have hflat : s'.prepared.toList.flatMap (fun p => p.request :: p.retiring.toList.map (·.oldSlice)) =
      s.prepared.toList.flatMap (fun p => p.request :: p.retiring.toList.map (·.oldSlice)) := by
    rw [List.flatMap_def, List.flatMap_def, ← Option.toList_map, ← Option.toList_map, hprepared]
  unfold RuntimeJournalState.opaqueValues
  rw [hflat, h.host, h.active, h.resources, h.terminals]
  rfl

theorem payload (h : Restarts s s') {payload : Bytes} (hpayload : encodePayload s = .ok payload)
    (hfits : headerBytes + (payloadBytes runtimeJournalPayloadVersion s').length ≤ maxRuntimeJournalSnapshotBytes) :
    encodePayload s' = .ok (payloadBytes runtimeJournalPayloadVersion s') := by
  simp only [encodePayload, encodePayloadVersion, bind_ok, rejectIf_ok, exists_unit, pure_ok] at hpayload ⊢
  rw [h.listLengths, h.opaqueValues]
  exact ⟨hpayload.1, by simp, hpayload.2.2.1, by omega, trivial⟩

end Restarts

namespace RuntimeJournalSnapshot
variable {c : Contracts} {s : RuntimeJournalSnapshot}

/-- The room a restart needs: both generations and the sequence below `u64::MAX`, and an encoding that fits. -/
structure RestartLimits (c : Contracts) (s : RuntimeJournalSnapshot) : Prop where
  epoch : s.state.host.runtimeHostEpochHighWater < u64Max
  generation : s.state.host.clockGenerationHighWater < u64Max
  sequence : s.sequence < u64Max
  fits : ∀ state, startupInvalidationState c.sha256 s.state = .ok state →
    headerBytes + (payloadBytes runtimeJournalPayloadVersion state).length ≤ maxRuntimeJournalSnapshotBytes

def restartRoom (c : Contracts) (s : RuntimeJournalSnapshot) : Bool :=
  s.state.host.runtimeHostEpochHighWater < u64Max && s.state.host.clockGenerationHighWater < u64Max
    && s.sequence < u64Max
    && match startupInvalidationState c.sha256 s.state with
      | .ok state =>
        headerBytes + (payloadBytes runtimeJournalPayloadVersion state).length ≤ maxRuntimeJournalSnapshotBytes
      | .error _ => true

theorem restartRoom_limits (h : restartRoom c s = true) : RestartLimits c s := by
  simp only [restartRoom, Bool.and_eq_true, decide_eq_true_eq] at h
  obtain ⟨⟨⟨hepoch, hgeneration⟩, hsequence⟩, hfits⟩ := h
  refine ⟨hepoch, hgeneration, hsequence, fun state hstate => ?_⟩
  rw [hstate] at hfits
  exact of_decide_eq_true hfits

theorem Built.restart_parts (hs : s.Built c) :
    ∃ prepared recovery census payload, startupInvalidatedPrepared s.state.prepared = .ok prepared ∧
      startupInvalidatedRecovery s.state.recoveryAction = .ok recovery ∧
      computeResourceCensusDigest c.sha256 s.state.ownedResources = .ok census ∧
      encodePayload s.state = .ok payload := by
  have hvalid := hs.valid
  have hprepared : ∃ prepared, startupInvalidatedPrepared s.state.prepared = .ok prepared := by
    cases hp : s.state.prepared with
    | none => exact ⟨none, rfl⟩
    | some p =>
      obtain ⟨common, hscope⟩ := hvalid.scope
      have hlatch := ((PreparedOperation.validate_ok _ _ _ _ _ _).1 (hscope.prepared p hp).valid).2.2
      obtain ⟨p', hp'⟩ := startupInvalidatedPreparedOp_total hlatch (hvalid.actions.prepared p hp)
      exact ⟨some p', by rw [startupInvalidatedPrepared, hp']; rfl⟩
  have hrecovery : ∃ recovery, startupInvalidatedRecovery s.state.recoveryAction = .ok recovery := by
    cases hr : s.state.recoveryAction with
    | none => exact ⟨none, rfl⟩
    | some r =>
      have hr := hvalid.actions.recovery r hr
      simp only [RecoveryAction.validate, RecoveryAction.validateIntrinsic, bind_ok, exists_unit] at hr
      obtain ⟨r', hr'⟩ := startupInvalidatedRecoveryAction_total hr.1.2.2.2.2
      exact ⟨some r', by rw [startupInvalidatedRecovery, hr']; rfl⟩
  obtain ⟨prepared, hprepared⟩ := hprepared
  obtain ⟨recovery, hrecovery⟩ := hrecovery
  have hlive := hvalid.live
  simp only [validateLiveCrossReferences, bind_ok] at hlive
  obtain ⟨census, hcensus, _⟩ := hlive
  have hbuilt := hs
  simp only [Built, tryNew, bind_ok, exists_unit] at hbuilt
  obtain ⟨_, _, _, _, _, payload, hpayload, _⟩ := hbuilt
  exact ⟨prepared, recovery, census, payload, hprepared, hrecovery, hcensus, hpayload⟩

theorem restarted_accepted {s : RuntimeJournalState} {sequence : U64} (hvalid : s.Valid c sequence)
    {prepared : Option PreparedOperation} {recovery : Option RecoveryAction} {eligibility : StartupRecoveryEligibility}
    {invalidation census : Digest32} {failure : Option Digest32}
    (hepoch : s.host.runtimeHostEpochHighWater + 1 ≤ u64Max)
    (hgeneration : s.host.clockGenerationHighWater + 1 ≤ u64Max)
    (hprepared : startupInvalidatedPrepared s.prepared = .ok prepared)
    (hrecovery : startupInvalidatedRecovery s.recoveryAction = .ok recovery)
    (helig : startupEligibility c.sha256 s = .ok (eligibility, failure))
    (hcensus : computeResourceCensusDigest c.sha256 s.ownedResources = .ok census)
    (hinvalidation : startupInvalidationEvidenceDigest c.sha256 s
      (restarted s prepared recovery eligibility invalidation failure census) = .ok invalidation) :
    (restarted s prepared recovery eligibility invalidation failure census).validateSuccessor c.sha256 s = .ok () := by
  have hrestarts : Restarts s (restarted s prepared recovery eligibility invalidation failure census) :=
    restarted_restarts hprepared hrecovery _ _ _ _
  have hfresh : ¬ ∃ r ∈ s.ownedResources, r.runtimeHostEpoch = s.host.runtimeHostEpochHighWater + 1 := by
    rintro ⟨r, hr, heq⟩
    have hle := (hvalid.resources r hr).epoch_le
    rw [heq] at hle
    exact absurd hle (Nat.not_succ_le_self _)
  have haction : (restarted s prepared recovery eligibility invalidation failure census).currentAction.any
      (fun a => decide (a.runtimeHostEpoch = s.host.runtimeHostEpochHighWater + 1)) = false := by
    rw [hrestarts.currentAction]
    cases haction : s.currentAction with
    | none => rfl
    | some a => exact decide_eq_false (Nat.ne_of_lt (validateAction_lt (currentAction_valid hvalid haction)).1)
  simp only [restarted] at hinvalidation haction ⊢
  simp only [validateSuccessor, validateStartupInvalidationSuccessor, validateStartupInvalidationLive, bind_ok,
    refuse_ok, exists_unit]
  refine ⟨by simp [validatePinnedHostTruth], by simp [hepoch, hgeneration], prepared, hprepared, recovery, hrecovery,
    by simp, by simp, census, hcensus, by simp, _, hinvalidation, by simp, (eligibility, failure), helig, ?_⟩
  simp [hfresh, haction]

theorem restarted_metadata {s s' : RuntimeJournalState} (h : Restarts s s') (sequence : U64) (store : Id32) :
    s'.validateNewTerminalMetadata c s sequence store = .ok () := by
  simp only [validateNewTerminalMetadata, bind_ok, forEach_ok, whenSome_ok, rejectIf_ok, exists_unit, not_and_or,
    h.terminals, h.recoveryTerminals]
  refine ⟨fun t ht => .inl ?_, fun t ht => .inl (not_not.2 ⟨t, ht, rfl⟩), fun p hp t ht => ?_⟩
  · rw [Keyed.find_none]
    exact fun hnone => hnone t ht rfl
  · have hlength := (appendedTerminalForPrepared_eq.1 ht).length
    rw [h.terminals] at hlength
    exact absurd hlength (Nat.ne_of_lt (Nat.lt_succ_self _))

/-- **A restart of a reachable snapshot succeeds**, and keeps the failure records. -/
theorem Reachable.restart (hs : Reachable c s) (hhash : HashesApart c.sha256 s.state.failureInputs)
    (hlimits : RestartLimits c s) :
    ∃ s', s.tryStartupInvalidationSuccessor c = .ok s' ∧ s'.state.failureInputs = s.state.failureInputs := by
  have hbuilt := hs.built
  have hvalid := hbuilt.valid
  have hknown := hbuilt.established
  obtain ⟨prepared, recovery, census, payload, hprepared, hrecovery, hcensus, hpayload⟩ := hbuilt.restart_parts
  obtain ⟨eligibility, failure, helig, haccepted⟩ :=
    startupEligibility_accepted hvalid hs.failedHead hhash hpayload hcensus
  obtain ⟨input, hinvalidation⟩ := startupInvalidationEvidenceDigest_total c.sha256 hpayload
    (restarted s.state prepared recovery eligibility 0 failure census)
  have hepoch : s.state.host.runtimeHostEpochHighWater + 1 ≤ u64Max := hlimits.epoch
  have hgeneration : s.state.host.clockGenerationHighWater + 1 ≤ u64Max := hlimits.generation
  have hsequence : s.sequence + 1 ≤ u64Max := hlimits.sequence
  let state := restarted s.state prepared recovery eligibility (c.sha256 input) failure census
  have hstate : startupInvalidationState c.sha256 s.state = .ok state := by
    simp only [startupInvalidationState, bind_ok, checkedAdd_ok, pure_ok]
    exact ⟨_, ⟨hepoch, rfl⟩, _, ⟨hgeneration, rfl⟩, prepared, hprepared, recovery, hrecovery, (eligibility, failure),
      helig, census, hcensus, _, hinvalidation, rfl⟩
  have hrestarts : Restarts s.state state := restarted_restarts hprepared hrecovery _ _ _ _
  have hcross : state.validateLiveCrossReferences c = .ok () := by
    simp only [validateLiveCrossReferences, bind_ok]
    refine ⟨census, hcensus, ?_⟩
    simp only [state, restarted, validateStartupInvalidated, bind_ok, rejectIf_ok, exists_unit, ensureNonzeroDigest_ok]
    refine ⟨by simp, hhash.nonzero input, by simp [headMatches, activeHead], ?_⟩
    exact (hrestarts.eligibility _ _ _).trans haccepted
  have hfits := hlimits.fits state hstate
  obtain ⟨wire, hwire⟩ := encodeSnapshot_total c.sha256 s.storeInstanceId s.ownerTargetFingerprint (s.sequence + 1) hfits
  have hnew : tryNew c s.storeInstanceId s.ownerTargetFingerprint (s.sequence + 1) state =
      .ok ⟨s.storeInstanceId, s.ownerTargetFingerprint, s.sequence + 1, state, wire⟩ := by
    simp only [tryNew, bind_ok, exists_unit, validate_ok, pure_ok]
    refine ⟨?_, hrestarts.valid hvalid ⟨_, _, _, _, _, _, rfl⟩ hcross, hknown.owner, hrestarts.request hknown.request,
      hknown.receipts, _, hrestarts.payload hpayload hfits, wire, hwire, rfl⟩
    have henvelope := hknown.envelope
    simp only [validateEnvelopeIdentity, bind_ok, rejectIf_ok, exists_unit] at henvelope ⊢
    exact ⟨henvelope.1, henvelope.2.1, Nat.succ_ne_zero _⟩
  have hsuccessor : state.validateSuccessor c.sha256 s.state = .ok () :=
    restarted_accepted hvalid hepoch hgeneration hprepared hrecovery helig hcensus hinvalidation
  refine ⟨⟨s.storeInstanceId, s.ownerTargetFingerprint, s.sequence + 1, state, wire⟩, ?_, rfl⟩
  simp only [tryStartupInvalidationSuccessor, tryValidatedSuccessor, bind_ok, checkedAdd_ok, exists_unit, pure_ok]
  exact ⟨state, hstate, _, ⟨hsequence, rfl⟩, _, hnew, (validateSuccessorOf_ok _ _ _).2
    ⟨rfl, rfl, rfl, hsequence, hsuccessor, restarted_metadata hrestarts _ _⟩, rfl⟩

def restartTimes (c : Contracts) : Nat → RuntimeJournalSnapshot → Res RuntimeJournalSnapshot
  | 0, s => .ok s
  | n + 1, s => s.tryStartupInvalidationSuccessor c >>= restartTimes c n

theorem Reachable.restartTimes (hs : Reachable c s) (hhash : HashesApart c.sha256 s.state.failureInputs) :
    ∀ n, (∀ k < n, ∀ t, RuntimeJournalSnapshot.restartTimes c k s = .ok t → RestartLimits c t) →
      ∃ t, RuntimeJournalSnapshot.restartTimes c n s = .ok t := by
  intro n
  induction n generalizing s with
  | zero => exact fun _ => ⟨s, rfl⟩
  | succ n ih =>
    intro hroom
    obtain ⟨s', hs', hinputs⟩ := hs.restart hhash (hroom 0 (Nat.succ_pos n) s rfl)
    have hreach : Reachable c s' := by
      obtain ⟨first, hfirst, hchain⟩ := hs
      exact ⟨first, hfirst, hchain.tail (Builder.call_step (b := .startupInvalidation) hs')⟩
    have hnext (k : Nat) : RuntimeJournalSnapshot.restartTimes c (k + 1) s =
        RuntimeJournalSnapshot.restartTimes c k s' := by
      rw [RuntimeJournalSnapshot.restartTimes, hs']
      rfl
    rw [hnext]
    refine ih hreach (hinputs ▸ hhash) fun k hk t ht => ?_
    exact hroom (k + 1) (Nat.succ_lt_succ hk) t ((hnext k).trans ht)

/-- **A crash can always be followed by a restart**: wherever a run of the builders was interrupted, the restart
transaction is accepted while the generations, the sequence and the encoding have room, and its result restarts again,
any number of times. -/
theorem crash_restartable {s : RuntimeJournalSnapshot} (hs : BuilderReachable c s)
    (hhash : HashesApart c.sha256 s.state.failureInputs) (hlimits : RestartLimits c s) :
    ∃ s', s.tryStartupInvalidationSuccessor c = .ok s' ∧ BuilderReachable c s' ∧
      ∀ n, (∀ k < n, ∀ t, RuntimeJournalSnapshot.restartTimes c k s' = .ok t → RestartLimits c t) →
        ∃ t, RuntimeJournalSnapshot.restartTimes c n s' = .ok t := by
  obtain ⟨s', hs', hinputs⟩ := hs.reachable.restart hhash hlimits
  have hreach : BuilderReachable c s' := hs.call (b := .startupInvalidation) hs'
  exact ⟨s', hs', hreach, hreach.reachable.restartTimes (hinputs ▸ hhash)⟩

theorem crash_restartable_interrupted : ∃ run s', Sample.interruptedRun = .ok run ∧
    run.mid.tryStartupInvalidationSuccessor Sample.contracts = .ok s' ∧ BuilderReachable Sample.contracts s' := by
  obtain ⟨run, hrun, hfirst, hmid, _⟩ := Sample.interruptedRun_ok
  have hall : (Sample.interruptedRun.map fun run => run.mid.state.recoveryTerminals.isEmpty
      && restartRoom Sample.contracts run.mid) = .ok true := by decide +kernel
  rw [hrun] at hall
  obtain ⟨hempty, hroom⟩ := Bool.and_eq_true_iff.1 (Except.ok.inj hall)
  have hinputs : ∀ input, input ∉ run.mid.state.failureInputs := by
    rintro input ⟨t, ht, _⟩
    rw [List.isEmpty_iff.1 hempty] at ht
    cases ht
  have hhash : HashesApart Sample.contracts.sha256 run.mid.state.failureInputs :=
    ⟨Sample.hash_ne_zero, fun input hinput => absurd hinput (hinputs input)⟩
  obtain ⟨s', hs', hreach, _⟩ := crash_restartable ⟨run.first, run.builders, hfirst, hmid⟩ hhash (restartRoom_limits hroom)
  exact ⟨run, s', hrun, hs', hreach⟩

end RuntimeJournalSnapshot
end Journal
end ParaEgox
