import ParaEgox.JournalHistory

/-!
# JournalOperation — the life of one operation and of one recovery

The prepared operation is kept, rewritten by a restart or a takeover, progressed, retired head-first or completed by one
appended terminal; a recovery action likewise.  Results about one operation over a whole chain read these steps only.
-/
namespace ParaEgox
namespace Journal

open Check RuntimeJournalState

/-! ## The prepared operation -/

structure RuntimeJournalState.Quiet (s : RuntimeJournalState) : Prop where
  noRestart : s.lastTransaction ≠ .startupInvalidation
  noTenure : s.lastTransaction ≠ .tenureOnly
  noRetire : s.lastTransaction ≠ .emptyHeadRetire

inductive PreparedNext (s s' : RuntimeJournalState) (p : PreparedOperation) : Prop
  | kept (next : s'.prepared = some p) (quiet : s'.Quiet)
      (terminals : s'.terminalOperations = s.terminalOperations)
  | restarted (p' : PreparedOperation) (restart : startupInvalidatedPreparedOp p = .ok p')
      (next : s'.prepared = some p') (transaction : s'.lastTransaction = .startupInvalidation)
      (terminals : s'.terminalOperations = s.terminalOperations)
  | taken (next : s'.prepared = some (tenureSuccessorPreparedOp p)) (transaction : s'.lastTransaction = .tenureOnly)
      (terminals : s'.terminalOperations = s.terminalOperations)
  | progressed (p' : PreparedOperation) (progress : Progress s p' p) (next : s'.prepared = some p')
      (transaction : s'.lastTransaction = .preparedProgress)
      (terminals : s'.terminalOperations = s.terminalOperations)
  | retired (p' : PreparedOperation) (active : ActiveDesiredHead) (kind : p.incomingKind = .emptyDeactivate)
      (oldPhase : p.phase = .preparedNoEffects) (phase : p'.phase = .headCommittedRetiringOld)
      (identity : preparedIdentityEqual p' p = true) (action : p'.action ≠ none) (raw : p'.rawOutcome = none)
      (next : s'.prepared = some p') (head : s'.activeDesired = some active) (headOf : headOf p' active = true)
      (transaction : s'.lastTransaction = .emptyHeadRetire)
      (terminals : s'.terminalOperations = s.terminalOperations)
  | completed (t : TerminalOperationRecord)
      (appends : Appends s'.terminalOperations s.terminalOperations p t)
      (raw : terminalRawIsValidSuccessor t p = true) (next : s'.prepared = none)
      (active : t.selection.primary = .oneSourceLoopActive → p.phase = .firstActionIntent)
      (fast : p.phase.beforeEffects = true → p.phase ≠ .preparedNoEffects →
        t.headDisposition = preservedHeadDisposition s ∧ s'.activeDesired = s.activeDesired ∧
          s'.ownedResources = s.ownedResources)
      (quiet : s'.Quiet)

theorem mayRetire_not_before {phase : PreparedPhase} (h : phase.mayRetire = true) : phase.beforeEffects = false := by
  cases phase <;> simp_all [PreparedPhase.mayRetire, PreparedPhase.beforeEffects]

theorem startOpen_not_before {phase : PreparedPhase} (h : phase.startOpen = true) : phase.beforeEffects = false := by
  cases phase <;> simp_all [PreparedPhase.startOpen, PreparedPhase.beforeEffects]

variable {s : RuntimeJournalState} {p : PreparedOperation} {previous terminals : List TerminalOperationRecord}
  {t : TerminalOperationRecord} {r : RecoveryAction}

theorem exactZeroResourceAction_cases
    {action : Option JournalActionRef} (h : s.exactZeroResourceAction p = .ok action) :
    (p.phase.mayRetire = true ∧ action = p.action ∧
      ∃ old, s.activeDesired = some old ∧ old.kind = .emptyDeactivate ∧ old.operationId = p.operationId ∧
        old.committingResultDigest = none) ∨
      (p.phase = .preparedNoEffects ∧ action = none ∧ exactZeroFastPathEligible s = true) := by
  unfold exactZeroResourceAction at h
  split at h
  · rename_i hphase
    simp only [bind_ok, refuse_ok, exists_unit, pure_ok, not_or, not_not, Option.any_eq_true, Bool.and_eq_true,
      decide_eq_true_eq, Option.isNone_iff_eq_none] at h
    obtain ⟨⟨⟨old, hold, ⟨hkind, hop⟩, hnone⟩, _⟩, rfl⟩ := h
    exact .inl ⟨hphase, rfl, old, hold, hkind, hop, hnone⟩
  · split at h
    · rename_i hphase
      simp only [bind_ok, refuse_ok, exists_unit, pure_ok, not_not] at h
      exact .inr ⟨hphase, h.2.symm, h.1⟩
    · cases h

theorem Transition.preparedNext {sha256 : Sha256} {s' : RuntimeJournalState}
    (h : Transition sha256 s s') (hp : s.prepared = some p) : PreparedNext s s' p := by
  cases h with
  | startupInvalidation prepared _ _ _ _ _ _ _ hprepared =>
    rw [hp, startupInvalidatedPrepared, bind_ok] at hprepared
    obtain ⟨p', hp', heq⟩ := hprepared
    exact .restarted p' hp' (pure_ok.1 heq).symm rfl rfl
  | tenureOnly =>
    refine .taken ?_ rfl rfl
    rw [tenureSuccessorPrepared, hp]
    rfl
  | fullAdmission _ _ _ _ idle => rw [hp] at idle; cases idle
  | preparedProgress current old hold progress =>
    rw [hp] at hold
    cases hold
    exact .progressed current progress rfl rfl rfl
  | startPublished prepared _ terminal _ _ _ _ hprepared _ appends _ _ phase _ raw _ _ _ _ _ _ _ _ =>
    rw [hp] at hprepared
    cases hprepared
    exact .completed terminal appends raw rfl (fun _ => phase) (fun hb => by rw [phase] at hb; cases hb)
      ⟨by simp [closed], by simp [closed], by simp [closed]⟩
  | startClosed prepared _ terminal _ _ _ hprepared _ appends _ _ phase _ raw primary _ _ _ _ =>
    rw [hp] at hprepared
    cases hprepared
    refine .completed terminal appends raw rfl (fun ha => ?_) (fun hb => ?_)
      ⟨by simp [closed], by simp [closed], by simp [closed]⟩
    · rw [ha] at primary
      cases primary
    · rw [startOpen_not_before phase] at hb
      cases hb
  | emptyHeadRetire old current _ active _ _ _ action _ _ _ _ hold _ _ haction _ kind oldPhase phase identity _ _ _ _ _ _ head
      _ raw _ _ =>
    rw [hp] at hold
    cases hold
    exact .retired current active kind oldPhase phase identity (by rw [haction]; exact Option.some_ne_none _) raw rfl
      rfl head rfl rfl
  | exactZeroTerminal prepared _ terminal _ _ _ resourceAction hprepared appends _ kind _ _ _ _ _ _ raw hresource _ commits
      _ _ =>
    rw [hp] at hprepared
    cases hprepared
    refine .completed terminal appends raw rfl (fun ha => ?_) (fun hb hn => ?_)
      ⟨by simp [closed], by simp [closed], by simp [closed]⟩
    · rw [ha] at commits
      cases commits
    · rcases exactZeroResourceAction_cases hresource with ⟨hretire, _⟩ | ⟨hfast, _⟩
      · rw [mayRetire_not_before hretire] at hb
        cases hb
      · exact absurd hfast hn
  | operationTerminalNoEffects prepared terminal _ hprepared appends _ _ _ primary _ _ _ disposition raw =>
    rw [hp] at hprepared
    cases hprepared
    refine .completed terminal appends raw rfl (fun ha => ?_) (fun _ _ => ⟨disposition, rfl, rfl⟩)
      ⟨by simp [closed], by simp [closed], by simp [closed]⟩
    rw [ha] at primary
    cases primary
  | _ => exact .kept hp ⟨by simp, by simp, by simp⟩ rfl

theorem startupInvalidatedPreparedOp_eq {p' : PreparedOperation} (h : startupInvalidatedPreparedOp p = .ok p') :
    (p.phase.beforeEffects = true ∧ p.action = none ∧ p.rawOutcome = none ∧
      p' = { p with phase := .startupExpiredNoEffects }) ∨
    (p.phase.beforeEffects = false ∧ p.action ≠ none ∧ ∃ phase,
      (phase = .supersededReconcileRequired ∨ phase = .startupReconcileRequired) ∧
        (phase = .supersededReconcileRequired ↔ p.phase = .supersededReconcileRequired) ∧
        p' = { p with phase := phase, rawOutcome := some (interruptedRaw p.rawOutcome) }) := by
  unfold startupInvalidatedPreparedOp at h
  split at h <;> rename_i hphase <;>
    simp only [bind_ok, rejectIf_ok, exists_unit, pure_ok, not_or, Option.isSome_iff_ne_none,
      Option.isNone_iff_eq_none, not_not, ne_eq] at h
  case h_1 => exact .inl ⟨by rw [hphase]; rfl, h.1.1, h.1.2, h.2.symm⟩
  case h_2 => exact .inl ⟨by rw [hphase]; rfl, h.1.1, h.1.2, h.2.symm⟩
  case h_3 => exact .inl ⟨by rw [hphase]; rfl, h.1.1, h.1.2, h.2.symm⟩
  case h_6 => exact .inr ⟨by rw [hphase]; rfl, h.1.1, _, .inl rfl, by simp [hphase], h.2.symm⟩
  all_goals exact .inr ⟨by rw [hphase]; rfl, h.1, _, .inr rfl, by simp [hphase], h.2.symm⟩

theorem tenureSuccessorPreparedOp_eq (p : PreparedOperation) :
    (p.phase.beforeEffects = true ∧ tenureSuccessorPreparedOp p = { p with phase := .supersededBeforeEffects }) ∨
    (p.phase.beforeEffects = false ∧ tenureSuccessorPreparedOp p =
      { p with phase := .supersededReconcileRequired, rawOutcome := some (takeoverRaw p.rawOutcome) }) := by
  unfold tenureSuccessorPreparedOp
  cases hphase : p.phase
  case preparedNoEffects | supersededBeforeEffects | startupExpiredNoEffects => exact .inl ⟨rfl, rfl⟩
  all_goals exact .inr ⟨rfl, rfl⟩

theorem preparedIdentityEqual_rfl (p : PreparedOperation) : preparedIdentityEqual p p = true := by
  simp [preparedIdentityEqual]

theorem startupInvalidated_identity {p' : PreparedOperation} (h : startupInvalidatedPreparedOp p = .ok p') :
    preparedIdentityEqual p' p = true ∧ p'.action = p.action := by
  rcases startupInvalidatedPreparedOp_eq h with ⟨_, _, _, rfl⟩ | ⟨_, _, _, _, _, rfl⟩
  · exact ⟨preparedIdentityEqual_rfl p, rfl⟩
  · exact ⟨preparedIdentityEqual_rfl p, rfl⟩

theorem tenureSuccessor_identity (p : PreparedOperation) :
    preparedIdentityEqual (tenureSuccessorPreparedOp p) p = true ∧ (tenureSuccessorPreparedOp p).action = p.action := by
  rcases tenureSuccessorPreparedOp_eq p with ⟨_, h⟩ | ⟨_, h⟩
  · rw [h]
    exact ⟨preparedIdentityEqual_rfl p, rfl⟩
  · rw [h]
    exact ⟨preparedIdentityEqual_rfl p, rfl⟩

theorem Appends.matches (h : Appends terminals previous p t) : terminalMatchesPrepared p t = true :=
  List.find?_some h.found

theorem Appends.mem (h : Appends terminals previous p t) : t ∈ terminals :=
  List.mem_of_find?_eq_some h.found

/-- **The terminal ledger grows by exactly the appended record**, which the earlier ledger did not hold. -/
theorem Appends.perm (h : Appends terminals previous p t)
    (hprevious : Keyed.Ascending TerminalOperationRecord.key previous) (hfresh : t ∉ previous) :
    terminals.Perm (t :: previous) := by
  have hnodup : (t :: previous).Nodup := by
    refine List.nodup_cons.2 ⟨hfresh, hprevious.imp fun hlt heq => ?_⟩
    rw [heq] at hlt
    exact lt_irrefl _ hlt
  have hsub : t :: previous ⊆ terminals :=
    List.cons_subset.2 ⟨h.mem, Keyed.recordsPreserved_mem _ h.preserved⟩
  exact ((List.subperm_of_subset hnodup hsub).perm_of_length_le (by rw [h.length]; rfl)).symm

theorem Appends.fresh {c : Contracts} {sequence : U64}
    (h : Appends terminals s.terminalOperations p t) (hs : s.Valid c sequence) (hp : s.prepared = some p) :
    t ∉ s.terminalOperations := by
  intro hmem
  have hmatch := h.matches
  simp only [terminalMatchesPrepared, Bool.and_eq_true, decide_eq_true_eq] at hmatch
  obtain ⟨⟨⟨⟨⟨⟨⟨⟨⟨⟨⟨⟨⟨⟨hscope, hop⟩, _⟩, _⟩, _⟩, _⟩, _⟩, _⟩, _⟩, _⟩, _⟩, _⟩, _⟩, _⟩, _⟩ := hmatch
  exact hs.admission.distinct t hmem p hp ⟨hscope.symm, hop.symm⟩

/-! ## The recovery action -/

inductive RecoveryNext (s s' : RuntimeJournalState) (r : RecoveryAction) : Prop
  | kept (next : s'.recoveryAction = some r)
  | restarted (r' : RecoveryAction) (restart : startupInvalidatedRecoveryAction r = .ok r')
      (next : s'.recoveryAction = some r') (transaction : s'.lastTransaction = .startupInvalidation)
  | taken (next : s'.recoveryAction = some (tenureSuccessorRecoveryAction r))
      (transaction : s'.lastTransaction = .tenureOnly)
  | progressed (r' : RecoveryAction) (progress : RecoveryProgress r' r) (next : s'.recoveryAction = some r')
      (transaction : s'.lastTransaction = .recoveryProgress)
  | completed (t : RecoveryTerminalRecord) (appends : AppendsRecovery s'.recoveryTerminals s.recoveryTerminals r t)
      (next : s'.recoveryAction = none)
      (active : t.selection.primary = .oneSourceLoopActive → r.phase = .startCallIntent)

theorem recovery_none_of_currentAction (h : s.currentAction = none) :
    s.recoveryAction = none ∧ s.prepared.bind (·.action) = none := by
  unfold currentAction at h
  split at h
  · cases h
  · rename_i hnone
    exact ⟨Option.map_eq_none_iff.1 h, hnone⟩

theorem Transition.recoveryNext {sha256 : Sha256} {s' : RuntimeJournalState}
    (h : Transition sha256 s s') (hr : s.recoveryAction = some r) : RecoveryNext s s' r := by
  cases h with
  | startupInvalidation _ recovery _ _ _ _ _ _ _ hrecovery =>
    rw [hr, startupInvalidatedRecovery, bind_ok] at hrecovery
    obtain ⟨r', hr', heq⟩ := hrecovery
    exact .restarted r' hr' (pure_ok.1 heq).symm rfl
  | tenureOnly =>
    refine .taken ?_ rfl
    rw [tenureSuccessorRecovery, hr]
    rfl
  | recoveryPlan recovery _ _ noAction =>
    rw [(recovery_none_of_currentAction noAction).1] at hr
    cases hr
  | recoveryProgress current old hold progress =>
    rw [hr] at hold
    cases hold
    exact .progressed current progress rfl rfl
  | recoveryPublished old terminal _ _ _ hold appends _ _ _ phase =>
    rw [hr] at hold
    cases hold
    exact .completed terminal appends rfl fun _ => phase
  | recoveryFailed old terminal _ _ _ _ _ hold appends _ _ _ notActive =>
    rw [hr] at hold
    cases hold
    exact .completed terminal appends rfl fun hactive => absurd hactive notActive
  | recoveryAbortNoEffects old terminal _ hold appends _ _ _ _ primary =>
    rw [hr] at hold
    cases hold
    refine .completed terminal appends rfl fun hactive => ?_
    rw [hactive] at primary
    cases primary
  | _ => exact .kept hr

theorem startupInvalidatedRecoveryAction_eq {r' : RecoveryAction} (h : startupInvalidatedRecoveryAction r = .ok r') :
    (r.phase.noEffects = true ∧ r.rawOutcome = none ∧ r' = { r with phase := .startupInvalidatedNoEffects }) ∨
    (r.phase.noEffects = false ∧ r' =
      { r with phase := .startupReconcileRequired, rawOutcome := some (interruptedRaw r.rawOutcome) }) := by
  unfold startupInvalidatedRecoveryAction at h
  cases hphase : r.phase <;> simp only [hphase, bind_ok, rejectIf_ok, exists_unit, pure_ok, Option.isSome_iff_ne_none,
    not_not, ne_eq] at h
  case recoveryPlannedNoEffects | startupInvalidatedNoEffects => exact .inl ⟨rfl, h.1, h.2.symm⟩
  all_goals exact .inr ⟨rfl, h.symm⟩

theorem tenureSuccessorRecoveryAction_eq (r : RecoveryAction) :
    (r.phase.noEffects = true ∧ tenureSuccessorRecoveryAction r = r) ∨
    (r.phase.noEffects = false ∧
      tenureSuccessorRecoveryAction r = { r with rawOutcome := some (takeoverRaw r.rawOutcome) }) := by
  unfold tenureSuccessorRecoveryAction
  cases hphase : r.phase
  case recoveryPlannedNoEffects | startupInvalidatedNoEffects => exact .inl ⟨rfl, rfl⟩
  all_goals exact .inr ⟨rfl, rfl⟩

theorem RecoveryProgress.facts {r' : RecoveryAction} (h : RecoveryProgress r' r) :
    r'.action = r.action ∧ latchPreserved r'.rawOutcome r.rawOutcome = true := by
  have hacc := h.accepted
  simp only [validateRecoveryLatchSuccessor, rejectIf_ok, not_and, not_or, not_not, ne_eq] at hacc
  have hacc := hacc h.id
  exact ⟨hacc.1, hacc.2.2.2.2.2.2.2.2.2.2.2⟩

end Journal
end ParaEgox
