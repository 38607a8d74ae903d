import ParaEgox.JournalHead

/-!
# JournalRestart — a restart keeps every record valid

The restart moves both generations on and rewrites the unfinished operation and recovery.  Each record the validator
accepted before is accepted again at the later generations, and the rewritten ones pass in their new phases.
-/
namespace ParaEgox
namespace Journal

open Check RuntimeJournalState

def HostClockAdmissionState.next (host : HostClockAdmissionState) : HostClockAdmissionState :=
  { host with
    runtimeHostEpochHighWater := host.runtimeHostEpochHighWater + 1
    clockGenerationHighWater := host.clockGenerationHighWater + 1 }

theorem validateAction_next {a : JournalActionRef} {host : HostClockAdmissionState}
    (h : validateAction a host = .ok ()) : validateAction a host.next = .ok () := by
  simp only [validateAction, bind_ok, ensureNonzeroRef_ok, rejectIf_ok, exists_unit, not_or, not_lt] at h ⊢
  obtain ⟨h1, h2, h3, h4, h5, h6⟩ := h
  exact ⟨h1, h2, Nat.le_succ_of_le h3, h4, Nat.le_succ_of_le h5, h6⟩

theorem validateAction_lt {a : JournalActionRef} {host : HostClockAdmissionState}
    (h : validateAction a host = .ok ()) : a.runtimeHostEpoch < host.next.runtimeHostEpochHighWater ∧
      a.clockGeneration < host.next.clockGenerationHighWater := by
  simp only [validateAction, bind_ok, ensureNonzeroRef_ok, rejectIf_ok, exists_unit, not_or, not_lt] at h
  obtain ⟨_, _, h3, _, h5, _⟩ := h
  exact ⟨Nat.lt_succ_of_le h3, Nat.lt_succ_of_le h5⟩

/-! ## Latches -/

theorem interruptedRaw_validate {previous : Option RawActionOutcomeLatch}
    (h : ∀ raw, previous = some raw → raw.validate = .ok ()) : (interruptedRaw previous).validate = .ok () := by
  cases previous with
  | none => decide
  | some raw =>
    have h := h raw rfl
    simp only [RawActionOutcomeLatch.validate, bind_ok, rejectIf_ok, exists_unit, interruptedRaw,
      Option.getD_some] at h ⊢
    obtain ⟨h1, h2, _, h4⟩ := h
    exact ⟨h1, h2, by simp, h4⟩

theorem interruptedRaw_sample {previous : Option RawActionOutcomeLatch} {generation deadline : U64}
    (h : ∀ raw, previous = some raw →
      (raw.deadline ≠ .notObserved → raw.observedClockGeneration = generation) ∧
        (raw.deadline = .timedOut → deadline ≤ raw.observedAtNanos)) :
    ((interruptedRaw previous).deadline ≠ .notObserved →
        (interruptedRaw previous).observedClockGeneration = generation) ∧
      ((interruptedRaw previous).deadline = .timedOut → deadline ≤ (interruptedRaw previous).observedAtNanos) := by
  cases previous with
  | none => exact ⟨fun hne => absurd rfl hne, fun heq => (nomatch heq)⟩
  | some raw => exact h raw rfl

/-! ## The prepared operation -/

structure LatchOk (p : PreparedOperation) : Prop where
  action : p.rawOutcome ≠ none → p.action ≠ none
  valid : ∀ raw, p.rawOutcome = some raw → raw.validate = .ok ()
  sample : ∀ raw, p.rawOutcome = some raw →
    (raw.deadline ≠ .notObserved → raw.observedClockGeneration = p.installedClockGeneration) ∧
      (raw.deadline = .timedOut → p.installedDeadlineNanos ≤ raw.observedAtNanos)
  flags : ∀ raw, p.rawOutcome = some raw → (raw.hostInterrupted || raw.higherTenureTakeover) = true →
    p.phase = .supersededReconcileRequired ∨ p.phase = .startupReconcileRequired
  takeover : p.phase = .supersededReconcileRequired → p.rawOutcome.any (·.higherTenureTakeover) = true
  interrupted : p.phase = .startupReconcileRequired → p.rawOutcome.any (·.hostInterrupted) = true

theorem validateLatchSample_ok (raw : RawActionOutcomeLatch) (generation deadline : U64) :
    validateLatchSample raw generation deadline = .ok () ↔ raw.validate = .ok () ∧
      (raw.deadline ≠ .notObserved → raw.observedClockGeneration = generation) ∧
      (raw.deadline = .timedOut → deadline ≤ raw.observedAtNanos) := by
  simp only [validateLatchSample, bind_ok, rejectIf_ok, exists_unit, not_and, not_not, not_lt, ne_eq]

theorem validateLatch_ok (p : PreparedOperation) : p.validateLatch = .ok () ↔ LatchOk p := by
  simp only [PreparedOperation.validateLatch, bind_ok, rejectIf_ok, whenSome_ok, exists_unit, validateLatchSample_ok,
    not_or, not_and, not_not]
  constructor
  · rintro ⟨h1, h2, h3, h4⟩
    refine ⟨fun hraw => ?_, fun raw hraw => (h1 raw hraw).2.1, fun raw hraw => (h1 raw hraw).2.2,
      fun raw hraw hflag => ?_, h3, h4⟩
    · obtain ⟨raw, hraw⟩ := Option.ne_none_iff_exists'.1 hraw
      exact (h1 raw hraw).1
    · rw [hraw, Option.any_some, hflag, Bool.true_and, Bool.not_eq_true', Bool.not_eq_false] at h2
      simpa using h2
  · rintro ⟨h1, h2, h3, h4, h5, h6⟩
    refine ⟨fun raw hraw => ⟨h1 (by rw [hraw]; simp), h2 raw hraw, h3 raw hraw⟩, fun hany => ?_, h5, h6⟩
    obtain ⟨raw, hraw, hflag⟩ := (Option.any_eq_true _ _).1 hany
    rw [Bool.and_eq_true] at hflag
    rcases h4 raw hraw hflag.1 with h | h <;> simp [h] at hflag

theorem PreparedOperation.validate_ok (sha256 : Sha256) (p : PreparedOperation) (manifest : Digest32)
    (nonces : List ReplayLedgerRecord) (temporals : List TemporalLineageRecord) (channel : Bool) :
    p.validate sha256 manifest nonces temporals channel = .ok () ↔
      p.validateAdmitted sha256 manifest nonces temporals channel = .ok () ∧
        p.validateRetiring sha256 manifest = .ok () ∧ LatchOk p := by
  simp only [PreparedOperation.validate, bind_ok, exists_unit, validateLatch_ok]

theorem startupInvalidatedPreparedOp_total {s : RuntimeJournalState} {p : PreparedOperation} (hlatch : LatchOk p)
    (haction : s.PreparedActionOk p) : ∃ p', startupInvalidatedPreparedOp p = .ok p' := by
  have hraw : p.action = none → p.rawOutcome = none := fun hnone => by
    by_contra hraw
    exact hlatch.action hraw hnone
  have hpresent := haction.present
  unfold startupInvalidatedPreparedOp
  cases hphase : p.phase <;> simp only [hphase, PreparedPhase.requiresAction] at hpresent ⊢
  case preparedNoEffects | supersededBeforeEffects | startupExpiredNoEffects =>
    have hnone : p.action = none := Option.isSome_eq_false_iff.1 hpresent.symm |> Option.isNone_iff_eq_none.1
    rw [rejectIf_neg (by simp [hnone, hraw hnone])]
    exact ⟨_, rfl⟩
  case supersededReconcileRequired =>
    have hsome : p.action.isNone = false := by rw [Option.isNone_eq_false_iff]; exact hpresent.symm
    rw [rejectIf_neg (by simp [hsome, hlatch.takeover hphase])]
    exact ⟨_, rfl⟩
  all_goals
    have hsome : p.action.isNone = false := by rw [Option.isNone_eq_false_iff]; exact hpresent.symm
    rw [rejectIf_neg (by simp [hsome])]
    exact ⟨_, rfl⟩

section
variable {p p' : PreparedOperation}

theorem LatchOk.restarted (h : LatchOk p) (hp : startupInvalidatedPreparedOp p = .ok p') : LatchOk p' := by
  rcases startupInvalidatedPreparedOp_eq hp with ⟨_, haction, hraw, rfl⟩ | ⟨_, haction, phase, hphase, hsup, rfl⟩
  · refine ⟨fun hne => absurd hraw hne, ?_, ?_, ?_, ?_, ?_⟩ <;> simp [hraw]
  · refine ⟨fun _ => haction, ?_, ?_, fun _ _ _ => hphase, fun htake => ?_, fun _ => rfl⟩
    · rintro raw ⟨⟩
      exact interruptedRaw_validate h.valid
    · rintro raw ⟨⟩
      exact interruptedRaw_sample h.sample
    · obtain ⟨raw, hraw, hflag⟩ := (Option.any_eq_true _ _).1 (h.takeover (hsup.1 htake))
      simp [hraw, interruptedRaw, hflag]

theorem validateAdmitted_restarted (hp : startupInvalidatedPreparedOp p = .ok p') (sha256 : Sha256)
    (manifest : Digest32) (nonces : List ReplayLedgerRecord) (temporals : List TemporalLineageRecord)
    (channel : Bool) : p'.validateAdmitted sha256 manifest nonces temporals channel =
      p.validateAdmitted sha256 manifest nonces temporals channel := by
  rcases startupInvalidatedPreparedOp_eq hp with ⟨_, _, _, rfl⟩ | ⟨_, _, _, _, _, rfl⟩ <;> rfl

theorem mayRetire_restarted (hp : startupInvalidatedPreparedOp p = .ok p') (h : p.phase.mayRetire = true) :
    p'.phase.mayRetire = true := by
  rcases startupInvalidatedPreparedOp_eq hp with ⟨hbefore, _, _, rfl⟩ | ⟨_, _, phase, hphase, _, rfl⟩
  · rw [mayRetire_not_before h] at hbefore
    cases hbefore
  · rcases hphase with rfl | rfl <;> rfl

theorem validateRetiring_restarted (hp : startupInvalidatedPreparedOp p = .ok p') {sha256 : Sha256}
    {manifest : Digest32} (h : p.validateRetiring sha256 manifest = .ok ()) :
    p'.validateRetiring sha256 manifest = .ok () := by
  have hretiring : p'.retiring = p.retiring ∧ p'.action = p.action ∧ p'.sourceScope = p.sourceScope ∧
      p'.sliceProvenance = p.sliceProvenance ∧ p'.sourceRevision = p.sourceRevision ∧
      p'.expectedActive = p.expectedActive ∧ p'.phase ≠ .headCommittedRetiringOld := by
    rcases startupInvalidatedPreparedOp_eq hp with ⟨_, _, _, rfl⟩ | ⟨_, _, phase, hphase, _, rfl⟩
    · exact ⟨rfl, rfl, rfl, rfl, rfl, rfl, by simp⟩
    · exact ⟨rfl, rfl, rfl, rfl, rfl, rfl, by rcases hphase with rfl | rfl <;> simp⟩
  obtain ⟨h1, h2, h3, h4, h5, h6, h7⟩ := hretiring
  unfold PreparedOperation.validateRetiring at h ⊢
  rw [h1, h2, h3, h4, h5, h6]
  split at h
  · split at h
    · rename_i hmay
      rw [if_pos ⟨mayRetire_restarted hp hmay.1, hmay.2⟩]
      exact h
    · cases h
  · exact rejectIf_ok.2 h7

theorem PreparedActionOk.restarted {s : RuntimeJournalState} {s' : RuntimeJournalState} (h : s.PreparedActionOk p)
    (hhost : s'.host = s.host.next) (hp : startupInvalidatedPreparedOp p = .ok p') : s'.PreparedActionOk p' := by
  rcases startupInvalidatedPreparedOp_eq hp with ⟨_, haction, _, rfl⟩ | ⟨_, haction, phase, hphase, hsup, rfl⟩
  · refine ⟨by rw [haction]; rfl, ?_, ?_, ?_, ?_, ?_⟩ <;> simp [haction]
  · have hsome : p.action.isSome = true := Option.isSome_iff_ne_none.2 haction
    refine ⟨?_, fun a ha => ?_, fun a ha => ?_, h.generation, fun a ha _ => ?_, fun a ha hi => ?_⟩
    · rcases hphase with rfl | rfl <;> exact hsome.symm
    · have hkind := h.kind a ha
      have hsup := hsup
      rcases hphase with rfl | rfl <;> cases hold : p.phase <;> simp_all [phaseKindIsValid]
    · rw [hhost]
      exact validateAction_next (h.valid a ha)
    · rw [hhost]
      exact validateAction_lt (h.valid a ha)
    · simp [interruptedRaw] at hi

end

/-! ## The recovery action and the recovery terminals -/

section
variable {sha256 : Sha256} {host : HostClockAdmissionState} {r r' : RecoveryAction}

theorem startupInvalidatedRecoveryAction_total (h : r.validateLatch host = .ok ()) :
    ∃ r', startupInvalidatedRecoveryAction r = .ok r' := by
  simp only [RecoveryAction.validateLatch, bind_ok, rejectIf_ok, exists_unit, not_and] at h
  have hnone := h.1
  unfold startupInvalidatedRecoveryAction
  cases hphase : r.phase <;> simp only [hphase, RecoveryPhase.noEffects, forall_const] at hnone ⊢
  case recoveryPlannedNoEffects | startupInvalidatedNoEffects =>
    rw [rejectIf_neg hnone]
    exact ⟨_, rfl⟩
  all_goals exact ⟨_, rfl⟩

theorem validateLatch_next (h : r.validateLatch host = .ok ()) : r.validateLatch host.next = .ok () := by
  simp only [RecoveryAction.validateLatch, bind_ok, rejectIf_ok, exists_unit, not_and, not_or, not_le] at h ⊢
  obtain ⟨h1, h2, h3, h4⟩ := h
  exact ⟨h1, h2, h3, fun hi => ⟨Nat.lt_succ_of_lt (h4 hi).1, Nat.lt_succ_of_lt (h4 hi).2⟩⟩

theorem validateLatch_restarted (haction : validateAction r.action host = .ok ())
    (h : r.validateLatch host = .ok ()) (hr : startupInvalidatedRecoveryAction r = .ok r') :
    r'.validateLatch host.next = .ok () := by
  simp only [RecoveryAction.validateLatch, bind_ok, rejectIf_ok, whenSome_ok, exists_unit, validateLatchSample_ok] at h ⊢
  obtain ⟨_, h2, _, _⟩ := h
  rcases startupInvalidatedRecoveryAction_eq hr with ⟨_, hraw, rfl⟩ | ⟨_, rfl⟩
  · simp [hraw]
  · refine ⟨by simp [RecoveryPhase.noEffects], ?_, by simp [interruptedRaw], ?_⟩
    · rintro raw ⟨⟩
      exact ⟨interruptedRaw_validate fun raw hraw => (h2 raw hraw).1, interruptedRaw_sample fun raw hraw => (h2 raw hraw).2⟩
    · rw [not_and, not_or, not_le, not_le]
      exact fun _ => validateAction_lt haction

theorem validateIntrinsic_next (h : r.validateIntrinsic sha256 host false = .ok ()) :
    r.validateIntrinsic sha256 host.next false = .ok () := by
  simp only [RecoveryAction.validateIntrinsic, bind_ok, exists_unit] at h ⊢
  obtain ⟨h1, h2, h3, _, h5⟩ := h
  exact ⟨h1, validateAction_next h2, h3, by simp, validateLatch_next h5⟩

theorem RecoveryAction.validate_restarted {active : Option ActiveDesiredHead}
    (h : r.validate sha256 host active = .ok ()) (hr : startupInvalidatedRecoveryAction r = .ok r') :
    r'.validate sha256 host.next active = .ok () := by
  simp only [RecoveryAction.validate, RecoveryAction.validateIntrinsic, bind_ok, exists_unit] at h ⊢
  obtain ⟨⟨h1, h2, h3, _, h5⟩, a, ha, h6⟩ := h
  have hlatch := validateLatch_restarted h2 h5 hr
  rcases startupInvalidatedRecoveryAction_eq hr with ⟨_, _, rfl⟩ | ⟨_, rfl⟩
  · exact ⟨⟨h1, validateAction_next h2, h3, by simp [RecoveryPhase.invalidated], hlatch⟩, a, ha, h6⟩
  · exact ⟨⟨h1, validateAction_next h2, h3, by simp [RecoveryPhase.invalidated], hlatch⟩, a, ha, h6⟩

theorem RecoveryTerminalRecord.validate_next {t : RecoveryTerminalRecord} {terminals : List TerminalOperationRecord}
    {sequence : U64} (h : t.validate sha256 host terminals sequence = .ok ()) :
    t.validate sha256 host.next terminals (sequence + 1) = .ok () := by
  simp only [RecoveryTerminalRecord.validate, bind_ok, exists_unit, rejectIf_ok, not_or, not_lt] at h ⊢
  obtain ⟨h1, ⟨h2, h3, h4, h5, h6, h7, h8⟩, h9⟩ := h
  exact ⟨validateIntrinsic_next h1, ⟨h2, h3, Nat.le_succ_of_le h4, h5, h6, Nat.le_succ_of_le h7, Nat.le_succ_of_le h8⟩, h9⟩

end

/-! ## The restarted state -/

/-- The records of `s'` that a restart of `s` only reads, and the two it rewrites. -/
structure Restarts (s s' : RuntimeJournalState) : Prop where
  transaction : s'.lastTransaction = .startupInvalidation
  host : s'.host = s.host.next
  fence : s'.writerFence = s.writerFence
  highWater : s'.sourceRevisionHighWater = s.sourceRevisionHighWater
  active : s'.activeDesired = s.activeDesired
  recoveryTerminals : s'.recoveryTerminals = s.recoveryTerminals
  resources : s'.ownedResources = s.ownedResources
  terminals : s'.terminalOperations = s.terminalOperations
  prepared : startupInvalidatedPrepared s.prepared = .ok s'.prepared
  recovery : startupInvalidatedRecovery s.recoveryAction = .ok s'.recoveryAction

theorem restarted_restarts {s : RuntimeJournalState} {prepared : Option PreparedOperation}
    {recovery : Option RecoveryAction} (hprepared : startupInvalidatedPrepared s.prepared = .ok prepared)
    (hrecovery : startupInvalidatedRecovery s.recoveryAction = .ok recovery) (eligibility invalidation failure census) :
    Restarts s (restarted s prepared recovery eligibility invalidation failure census) :=
  ⟨rfl, rfl, rfl, rfl, rfl, rfl, rfl, rfl, hprepared, hrecovery⟩

namespace Restarts
variable {c : Contracts} {s s' : RuntimeJournalState} {sequence : U64}

theorem prepared_some (h : Restarts s s') {p' : PreparedOperation} (hp' : s'.prepared = some p') :
    ∃ p, s.prepared = some p ∧ startupInvalidatedPreparedOp p = .ok p' := by
  have hprepared := h.prepared
  rw [hp'] at hprepared
  cases hp : s.prepared with
  | none => rw [hp] at hprepared; cases hprepared
  | some p =>
    rw [hp, startupInvalidatedPrepared, bind_ok] at hprepared
    obtain ⟨q, hq, heq⟩ := hprepared
    cases heq
    exact ⟨p, rfl, hq⟩

theorem prepared_none (h : Restarts s s') (hp' : s'.prepared = none) : s.prepared = none := by
  have hprepared := h.prepared
  rw [hp'] at hprepared
  cases hp : s.prepared with
  | none => rfl
  | some p =>
    rw [hp, startupInvalidatedPrepared, bind_ok] at hprepared
    obtain ⟨q, hq, heq⟩ := hprepared
    cases heq

theorem recovery_some (h : Restarts s s') {r' : RecoveryAction} (hr' : s'.recoveryAction = some r') :
    ∃ r, s.recoveryAction = some r ∧ startupInvalidatedRecoveryAction r = .ok r' := by
  have hrecovery := h.recovery
  rw [hr'] at hrecovery
  cases hr : s.recoveryAction with
  | none => rw [hr] at hrecovery; cases hrecovery
  | some r =>
    rw [hr, startupInvalidatedRecovery, bind_ok] at hrecovery
    obtain ⟨q, hq, heq⟩ := hrecovery
    cases heq
    exact ⟨r, rfl, hq⟩

theorem recovery_none (h : Restarts s s') (hr' : s'.recoveryAction = none) : s.recoveryAction = none := by
  have hrecovery := h.recovery
  rw [hr'] at hrecovery
  cases hr : s.recoveryAction with
  | none => rfl
  | some r =>
    rw [hr, startupInvalidatedRecovery, bind_ok] at hrecovery
    obtain ⟨q, hq, heq⟩ := hrecovery
    cases heq

theorem preparedAction (h : Restarts s s') : s'.prepared.bind (·.action) = s.prepared.bind (·.action) := by
  cases hp' : s'.prepared with
  | none => rw [h.prepared_none hp']
  | some p' =>
    obtain ⟨p, hp, hq⟩ := h.prepared_some hp'
    rw [hp]
    exact (startupInvalidated_identity hq).2

theorem recoveryAction (h : Restarts s s') : s'.recoveryAction.map (·.action) = s.recoveryAction.map (·.action) := by
  cases hr' : s'.recoveryAction with
  | none => rw [h.recovery_none hr']
  | some r' =>
    obtain ⟨r, hr, hq⟩ := h.recovery_some hr'
    rw [hr]
    rcases startupInvalidatedRecoveryAction_eq hq with ⟨_, _, rfl⟩ | ⟨_, rfl⟩ <;> rfl

theorem currentAction (h : Restarts s s') : s'.currentAction = s.currentAction := by
  unfold RuntimeJournalState.currentAction
  rw [h.preparedAction, h.recoveryAction]

theorem allActions (h : Restarts s s') : s'.allActions = s.allActions := by
  unfold RuntimeJournalState.allActions
  rw [h.preparedAction, h.recoveryAction, h.terminals, h.recoveryTerminals]

theorem nonterminal (h : Restarts s s') : s'.nonterminal = s.nonterminal := by
  unfold RuntimeJournalState.nonterminal
  rw [h.resources]

theorem activeHead (h : Restarts s s') : s'.activeHead = s.activeHead := by
  unfold RuntimeJournalState.activeHead
  rw [h.active]

/-! ### Each part of the validator -/

theorem hostOk (h : Restarts s s') (hs : s.HostOk) : s'.HostOk := by
  refine ⟨?_, ?_, ?_, ?_, ?_, ?_⟩ <;> rw [h.host]
  · exact ⟨hs.pinned.clockDomain, hs.pinned.buildDescriptor, hs.pinned.singletonManifest, hs.pinned.identity,
      hs.pinned.instance_ne, hs.pinned.compatibility, hs.pinned.descriptor, hs.pinned.instance_eq,
      hs.pinned.compatibility_eq, hs.pinned.admission, hs.pinned.channel, hs.pinned.controller⟩
  · exact ⟨fun hzero => absurd hzero (Nat.succ_ne_zero _), fun hzero => absurd hzero (Nat.succ_ne_zero _)⟩
  · exact hs.tenureNonces
  · exact hs.requestNonces
  · obtain ⟨hlen, hasc, hall⟩ := (validateTemporalRecords_ok _ _).1 hs.temporalLineages
    exact (validateTemporalRecords_ok _ _).2 ⟨hlen, hasc, fun t ht => (hall t ht).mono (Nat.le_succ _)⟩
  · exact fun hzero => absurd hzero (Nat.succ_ne_zero _)

theorem scopeOk (h : Restarts s s') {payloadVersion : Nat} {common : Ref16}
    (hs : s.ScopeOk c payloadVersion common) : s'.ScopeOk c payloadVersion common := by
  refine ⟨?_, ?_, ?_, fun p' hp' => ?_, fun a ha => ?_, ?_, ?_, fun r' hr' => ?_⟩
  · have hfence := hs.fence
    unfold FenceOk at hfence ⊢
    rw [h.fence, h.host]
    exact hfence
  · have hhigh := hs.highWater
    unfold HighWaterOk at hhigh ⊢
    rw [h.highWater]
    exact hhigh
  · rw [h.host]
    exact hs.temporals
  · obtain ⟨p, hp, hq⟩ := h.prepared_some hp'
    have hok := hs.prepared p hp
    obtain ⟨hadmitted, hretiring, hlatch⟩ := (PreparedOperation.validate_ok _ _ _ _ _ _).1 hok.valid
    have hvalid : p'.validate c.sha256 s'.host.singletonManifest.digest s'.host.requestNonces s'.host.temporalLineages
        (decide (payloadVersion = runtimeJournalPayloadVersion)) = .ok () := by
      rw [h.host]
      refine (PreparedOperation.validate_ok _ _ _ _ _ _).2 ⟨?_, validateRetiring_restarted hq hretiring,
        hlatch.restarted hq⟩
      rw [validateAdmitted_restarted hq]
      exact hadmitted
    rcases startupInvalidatedPreparedOp_eq hq with ⟨_, _, _, rfl⟩ | ⟨_, _, phase, hphase, _, rfl⟩
    · exact ⟨hok.operation, hok.scope, hok.scope_ne, h.highWater ▸ hok.revision, h.fence ▸ hok.fence, hvalid,
        fun hrun => by simp [runsNow] at hrun⟩
    · exact ⟨hok.operation, hok.scope, hok.scope_ne, h.highWater ▸ hok.revision, h.fence ▸ hok.fence, hvalid,
        fun hrun => by rcases hphase with rfl | rfl <;> simp [runsNow] at hrun⟩
  · have hok := hs.active a (h.active ▸ ha)
    exact ⟨hok.operation, hok.scope, hok.scope_ne, h.highWater ▸ hok.revision, h.fence ▸ hok.fence, by
      rw [h.host]; exact hok.valid⟩
  · rw [h.terminals]
    exact hs.terminals
  · rw [h.recoveryTerminals]
    exact hs.recoveryTerminals
  · obtain ⟨r, hr, hq⟩ := h.recovery_some hr'
    have hok := hs.recovery r hr
    rcases startupInvalidatedRecoveryAction_eq hq with ⟨_, _, rfl⟩ | ⟨_, rfl⟩
    · exact ⟨hok.scope, hok.scope_ne, h.highWater ▸ hok.revision⟩
    · exact ⟨hok.scope, hok.scope_ne, h.highWater ▸ hok.revision⟩

theorem prepared_map {β : Type} (h : Restarts s s') (f : PreparedOperation → β)
    (hf : ∀ p phase raw, f { p with phase := phase, rawOutcome := raw } = f p) :
    s'.prepared.map f = s.prepared.map f := by
  cases hp' : s'.prepared with
  | none => rw [h.prepared_none hp']
  | some p' =>
    obtain ⟨p, hp, hq⟩ := h.prepared_some hp'
    rw [hp]
    rcases startupInvalidatedPreparedOp_eq hq with ⟨_, _, hraw, rfl⟩ | ⟨_, _, phase, _, _, rfl⟩
    · exact congrArg some (hf p _ p.rawOutcome)
    · exact congrArg some (hf p _ _)

theorem prepared_any (h : Restarts s s') (f : PreparedOperation → Bool)
    (hf : ∀ p phase raw, f { p with phase := phase, rawOutcome := raw } = f p) :
    s'.prepared.any f = s.prepared.any f := by
  have hmap := h.prepared_map f hf
  cases hp' : s'.prepared <;> cases hp : s.prepared <;> simp_all

theorem admissionOk (h : Restarts s s') (hs : s.AdmissionOk) : s'.AdmissionOk := by
  have hnonce (nonce : ReplayLedgerRecord) : s'.preparedOwnsNonce nonce = s.preparedOwnsNonce nonce :=
    h.prepared_any _ fun _ _ _ => rfl
  have htemporal (temporal : TemporalLineageRecord) :
      s'.preparedOwnsTemporal temporal = s.preparedOwnsTemporal temporal := h.prepared_any _ fun _ _ _ => rfl
  have hmaximum : s'.observedMaximum = s.observedMaximum := by
    unfold observedMaximum
    have hmap := h.prepared_map (·.sourceRevision) fun _ _ _ => rfl
    rw [h.terminals, ← Option.toList_map, ← Option.toList_map, hmap]
  refine ⟨?_, ?_, ?_, ?_, fun t ht p' hp' => ?_, ?_⟩
  · rw [h.host, h.terminals]
    exact fun nonce hmem => by rw [hnonce]; exact hs.nonces nonce hmem
  · rw [h.host, h.terminals]
    exact fun temporal hmem => by rw [htemporal]; exact hs.temporals temporal hmem
  · rw [h.host, h.terminals]
    exact hs.terminalNonce
  · rw [h.host, h.terminals]
    exact hs.terminalTemporal
  · rw [h.terminals] at ht
    obtain ⟨p, hp, hq⟩ := h.prepared_some hp'
    rcases startupInvalidatedPreparedOp_eq hq with ⟨_, _, _, rfl⟩ | ⟨_, _, _, _, _, rfl⟩
    · exact hs.distinct t ht p hp
    · exact hs.distinct t ht p hp
  · rw [h.highWater, hmaximum]
    exact hs.highWater

theorem actionsOk (h : Restarts s s') (hs : s.ActionsOk c) : s'.ActionsOk c := by
  refine ⟨fun p' hp' => ?_, fun r' hr' => ?_, ?_, ?_⟩
  · obtain ⟨p, hp, hq⟩ := h.prepared_some hp'
    exact PreparedActionOk.restarted (hs.prepared p hp) h.host hq
  · obtain ⟨r, hr, hq⟩ := h.recovery_some hr'
    rw [h.host, h.active]
    exact RecoveryAction.validate_restarted (hs.recovery r hr) hq
  · rcases hs.single with hnone | hnone
    · exact .inl (h.preparedAction.trans hnone)
    · refine .inr ?_
      have hmap := h.recoveryAction
      rw [hnone] at hmap
      exact Option.map_eq_none_iff.1 hmap
  · rw [h.allActions]
    exact hs.distinct

theorem producerGenerations (h : Restarts s s') (hs : s.validateProducerGenerations = .ok ()) :
    s'.validateProducerGenerations = .ok () := by
  unfold validateProducerGenerations completedProducers at hs ⊢
  rw [h.terminals, h.recoveryTerminals, h.currentAction]
  exact hs

theorem resourceOk (h : Restarts s s') {r : OwnedResourceRecord} (hr : s.ResourceOk r)
    (hlive : ∃ head generation eligibility invalidation failure census, s'.liveMaterialization =
      .startupInvalidated head s.host.runtimeHostEpochHighWater generation eligibility invalidation failure census) :
    s'.ResourceOk r := by
  refine ⟨hr.logical, hr.generation, hr.epoch_ne, ?_, hr.evidence, ?_⟩
  · rw [h.host]
    exact Nat.le_succ_of_le hr.epoch_le
  · have howner := hr.owner
    unfold resourceOwnerCheck at howner ⊢
    rw [h.currentAction]
    split at howner
    · rename_i hterminal
      rw [if_pos hterminal]
      exact howner
    · rename_i hopen
      rw [if_neg hopen]
      split at howner
      · exact howner
      · obtain ⟨_, _, _, _, _, _, hlive⟩ := hlive
        refine rejectIf_neg ?_
        simp only [resourceBelongsToLive, hlive, decide_eq_true_eq, not_not]
        exact hr.epoch_le

theorem referenceProfileCensus (h : Restarts s s') (hlive : s'.liveMaterialization.isLiveReady = false)
    (hs : s.validateReferenceProfileCensus = .ok ()) : s'.validateReferenceProfileCensus = .ok () := by
  simp only [validateReferenceProfileCensus, bind_ok, rejectIf_ok, exists_unit] at hs ⊢
  rw [h.nonterminal, hlive]
  exact ⟨hs.1, hs.2.1, by simp⟩

theorem terminal (h : Restarts s s') {t : TerminalOperationRecord}
    (ht : s.validateTerminal c sequence t = .ok ()) : s'.validateTerminal c (sequence + 1) t = .ok () := by
  simp only [validateTerminal, bind_ok, rejectIf_ok, whenSome_ok, okOr_ok, exists_unit, not_or, not_lt, h.host,
    h.highWater] at ht ⊢
  obtain ⟨⟨h1, h2, h3, h4⟩, highWater, hhigh, ⟨h5, h6, h7⟩, h8, h9, h10, h11, h12, h13, h14, h15, h16, h17, h18, h19,
    h20, h21⟩ := ht
  exact ⟨⟨h1, Nat.le_succ_of_le h2, h3, Nat.le_succ_of_le h4⟩, highWater, hhigh, ⟨h5, h6, Nat.le_succ_of_le h7⟩, h8, h9,
    h10, h11, h12, h13, h14, h15, h16, h17, h18, h19, fun a ha => ⟨validateAction_next (h20 a ha).1, (h20 a ha).2⟩, h21⟩

theorem recoveryTerminalsOk (h : Restarts s s') (hs : s.validateRecoveryTerminals c sequence = .ok ()) :
    s'.validateRecoveryTerminals c (sequence + 1) = .ok () := by
  simp only [validateRecoveryTerminals, bind_ok, rejectIf_ok, exists_unit, h.recoveryTerminals] at hs ⊢
  obtain ⟨hcapacity, chain, hscan, hfresh⟩ := hs
  have hsome : s'.recoveryAction.isSome = s.recoveryAction.isSome := by
    have hmap := congrArg Option.isSome h.recoveryAction
    simpa using hmap
  refine ⟨by rw [hsome]; exact hcapacity, chain, ?_, ?_⟩
  · refine scan_mono (fun t _ m m' hstep => ?_) hscan
    simp only [recoveryTerminalStep, bind_ok, exists_unit, h.host, h.terminals] at hstep ⊢
    exact ⟨RecoveryTerminalRecord.validate_next hstep.1, hstep.2⟩
  · intro hany
    obtain ⟨r', hr', hbad⟩ := (Option.any_eq_true _ _).1 hany
    obtain ⟨r, hr, hq⟩ := h.recovery_some hr'
    refine hfresh ((Option.any_eq_true _ _).2 ⟨r, hr, ?_⟩)
    rcases startupInvalidatedRecoveryAction_eq hq with ⟨_, _, rfl⟩ | ⟨_, rfl⟩ <;> exact hbad

theorem chronology (h : Restarts s s') (hs : s.validateGlobalCompletionChronology = .ok ()) :
    s'.validateGlobalCompletionChronology = .ok () := by
  unfold validateGlobalCompletionChronology completions at hs ⊢
  rw [h.terminals, h.recoveryTerminals]
  exact hs

theorem headChain (h : Restarts s s') (hs : s.validateTerminalHeadChain = .ok ()) :
    s'.validateTerminalHeadChain = .ok () := by
  simp only [validateTerminalHeadChain, bind_ok, rejectIf_ok, chronological, h.terminals, h.activeHead, not_and_or,
    not_not] at hs ⊢
  obtain ⟨chain, hscan, hs⟩ := hs
  refine ⟨chain, hscan, hs.imp (fun hprogress => ?_) id⟩
  obtain ⟨p, hp, hall⟩ := (Option.any_eq_true _ _).1 hprogress
  cases hp' : s'.prepared with
  | none => rw [h.prepared_none hp'] at hp; cases hp
  | some p' =>
    obtain ⟨q, hq, hrestart⟩ := h.prepared_some hp'
    rw [hp] at hq
    cases hq
    refine (Option.any_eq_true _ _).2 ⟨p', hp', ?_⟩
    simp only [Bool.and_eq_true] at hall ⊢
    obtain ⟨⟨⟨h1, h2⟩, h3⟩, h4⟩ := hall
    have hretire := mayRetire_restarted hrestart h2
    rw [h.activeHead]
    rcases startupInvalidatedPreparedOp_eq hrestart with ⟨_, _, _, rfl⟩ | ⟨_, _, _, _, _, rfl⟩
    · exact ⟨⟨⟨h1, hretire⟩, h3⟩, h4⟩
    · exact ⟨⟨⟨h1, hretire⟩, h3⟩, h4⟩

/-- **A restart of a valid state is valid**, once its live cross references are. -/
theorem valid (h : Restarts s s') (hs : s.Valid c sequence)
    (hlive : ∃ head generation eligibility invalidation failure census, s'.liveMaterialization =
      .startupInvalidated head s.host.runtimeHostEpochHighWater generation eligibility invalidation failure census)
    (hcross : s'.validateLiveCrossReferences c = .ok ()) : s'.Valid c (sequence + 1) := by
  have hnotReady : s'.liveMaterialization.isLiveReady = false := by
    obtain ⟨_, _, _, _, _, _, hlive⟩ := hlive
    rw [hlive]
    rfl
  have hone : ¬ sequence + 1 = 1 := fun heq => hs.sequence_ne (Nat.succ_injective heq)
  obtain ⟨common, hscope⟩ := hs.scope
  refine
    { sequence_ne := Nat.succ_ne_zero _
      initialized := ?_
      unstarted := ?_
      host := h.hostOk hs.host
      scope := ⟨common, h.scopeOk hscope⟩
      terminalsNeed := ?_
      admission := h.admissionOk hs.admission
      actions := h.actionsOk hs.actions
      generations := h.producerGenerations hs.generations
      resourceCount := h.resources ▸ hs.resourceCount
      resourceOrder := h.resources ▸ hs.resourceOrder
      resources := ?_
      census := h.referenceProfileCensus hnotReady hs.census
      terminalCount := h.terminals ▸ hs.terminalCount
      terminalOrder := h.terminals ▸ hs.terminalOrder
      terminals := ?_
      recoveryTerminals := h.recoveryTerminalsOk hs.recoveryTerminals
      chronology := h.chronology hs.chronology
      live := hcross
      heads := h.headChain hs.heads }
  · rw [h.transaction]
    exact ⟨fun heq => absurd heq hone, fun heq => (nomatch heq)⟩
  · rw [h.host]
    exact ⟨fun heq => absurd heq hone, fun heq => absurd heq.1 (Nat.succ_ne_zero _)⟩
  · rw [h.terminals, h.highWater, h.fence]
    exact hs.terminalsNeed
  · rw [h.resources]
    exact fun r hr => h.resourceOk (hs.resources r hr) hlive
  · rw [h.terminals]
    exact fun t ht => h.terminal (hs.terminals t ht)

end Restarts
end Journal
end ParaEgox
