import ParaEgox.JournalOutcome

/-!
# JournalAction — the life of one lifecycle action

An action id names one action for ever: once the journal knows it, every later snapshot has it under way or on record.
An action a restart found unfinished is interrupted, and no builder starts it, publishes it or gives it a resource again:
until its terminal, it is only taken over and cleaned up.
-/
namespace ParaEgox
namespace Journal

open Check RuntimeJournalState

/-! ## Known actions -/

def Known (s : RuntimeJournalState) (action : JournalActionRef) : Prop :=
  (∃ latch, Underway s action latch) ∨ ∃ selection, Reported s action selection

theorem Underway.known_step {c : Contracts} {s s' : RuntimeJournalState} (h : Transition c.sha256 s s')
    (hs : s.ActionsOk c) {action : JournalActionRef} {latch : Option RawActionOutcomeLatch}
    (hu : Underway s action latch) : Known s' action := by
  cases hu with
  | prepared p hp ha _ =>
    rcases h.preparedNext hp with ⟨next⟩ | ⟨p', restart, next⟩ | ⟨next⟩ | ⟨p', progress, next⟩ |
      ⟨p', _, _, oldPhase⟩ | ⟨t, appends⟩
    · exact .inl ⟨_, .prepared p next ha rfl⟩
    · exact .inl ⟨_, .prepared p' next ((startupInvalidated_identity restart).2.trans ha) rfl⟩
    · exact .inl ⟨_, .prepared _ next ((tenureSuccessor_identity p).2.trans ha) rfl⟩
    · rcases progress.moved with ⟨_, hact, _⟩ | ⟨hfirst, _⟩
      · exact .inl ⟨_, .prepared p' next (hact.trans ha) rfl⟩
      · simp [isFirstActionIntent, ha] at hfirst
    · have hpresent := (hs.prepared p hp).present
      rw [oldPhase, ha] at hpresent
      cases hpresent
    · exact .inr ⟨t.selection, .operation t appends.mem ((appends_action appends).trans ha) rfl⟩
  | recovery r hr ha _ =>
    rcases h.recoveryNext hr with ⟨next⟩ | ⟨r', restart, next⟩ | ⟨next⟩ | ⟨r', progress, next⟩ | ⟨t, appends, _⟩
    · exact .inl ⟨_, .recovery r next ha rfl⟩
    · rcases startupInvalidatedRecoveryAction_eq restart with ⟨_, _, rfl⟩ | ⟨_, rfl⟩
      · exact .inl ⟨_, .recovery _ next ha rfl⟩
      · exact .inl ⟨_, .recovery _ next ha rfl⟩
    · rcases tenureSuccessorRecoveryAction_eq r with ⟨_, heq⟩ | ⟨_, heq⟩
      · rw [heq] at next
        exact .inl ⟨_, .recovery r next ha rfl⟩
      · rw [heq] at next
        exact .inl ⟨_, .recovery _ next ha rfl⟩
    · exact .inl ⟨_, .recovery r' next (progress.facts.1.trans ha) rfl⟩
    · have hmem : t ∈ s'.recoveryTerminals := by rw [appends.eq]; simp
      exact .inr ⟨t.selection, .recovery t hmem (by rw [appends.recovery, ha]) rfl⟩

/-- **The step lemma**: a known action stays known. -/
theorem Known.step {c : Contracts} {s s' : RuntimeJournalState} (h : Transition c.sha256 s s') (hs : s.ActionsOk c)
    {action : JournalActionRef} (hk : Known s action) : Known s' action := by
  rcases hk with ⟨latch, hu⟩ | ⟨selection, hr⟩
  · exact hu.known_step h hs
  · exact .inr ⟨selection, hr.step h⟩

namespace RuntimeJournalSnapshot

variable {c : Contracts} {action : JournalActionRef} {s : RuntimeJournalState}

theorem Chain.known {a b : RuntimeJournalSnapshot} (ha : a.Built c)
    (h : Chain c a b) (hk : Known a.state action) : Known b.state action := by
  induction h with
  | refl => exact hk
  | tail hchain hstep ih => exact ih.step hstep.transition (Chain.built ha hchain).valid.actions

/-! ## The phases builders work on -/

def Builder.preparedPhase : Builder → Option PreparedPhase
  | oneSourceIntent _ | emptyHeadRetire _ | emptyExactZeroFastPath .. | noEffectDeadline _ => some .preparedNoEffects
  | reserveOneSourceResources _ | ownOneSourceResources _ | oneSourceSuccess .. | oneSourcePostIntentTimeout _ =>
    some .firstActionIntent
  | latchEmptySuccess _ => some .headCommittedRetiringOld
  | startupAbortedNoEffects _ => some .startupExpiredNoEffects
  | _ => none

def Builder.recoveryPhase : Builder → Option RecoveryPhase
  | recoveryIntent _ => some .recoveryPlannedNoEffects
  | reserveRecoveryResources _ | ownRecoveryResources _ | latchRecoveryCallback .. | latchRecoveryDeadline _
  | recoveryLiveReady _ => some .startCallIntent
  | _ => none

theorem startIntentAction_some (h : startIntentAction s = some action) :
    ∃ p, s.prepared = some p ∧ p.phase = .firstActionIntent ∧ p.action = some action
      ∧ action.kind = .startOneSourceLoop := by
  rw [startIntentAction, Option.filter_eq_some_iff, Option.bind_eq_some_iff] at h
  obtain ⟨⟨p, hp, ha⟩, hkind⟩ := h
  rw [Option.filter_eq_some_iff] at hp
  exact ⟨p, hp.1, of_decide_eq_true hp.2, ha, of_decide_eq_true hkind⟩

theorem restartCallAction_some {unanswered : Bool} (h : restartCallAction s unanswered = some action) :
    ∃ r, s.recoveryAction = some r ∧ r.phase = .startCallIntent ∧ r.action = action
      ∧ (unanswered = true → r.rawOutcome = none) := by
  rw [restartCallAction, Option.filter_eq_some_iff, Option.map_eq_some_iff] at h
  obtain ⟨⟨r, hr, ha⟩, _⟩ := h
  rw [Option.filter_eq_some_iff] at hr
  obtain ⟨hr, hphase⟩ := hr
  simp only [Bool.and_eq_true, decide_eq_true_eq, Bool.or_eq_true, Bool.not_eq_true', Option.isNone_iff_eq_none] at hphase
  refine ⟨r, hr, hphase.1, ha, fun htrue => hphase.2.resolve_left ?_⟩
  rw [htrue]
  decide

variable {b : Builder} {p prepared : PreparedOperation} {s' : RuntimeJournalSnapshot} {state : RuntimeJournalState}
  {sha256 : Sha256} {resources resources' : List OwnedResourceRecord} {plan : TerminalPlan}
  {tombstones : Option RuntimeOneSourceTombstonesInput}

theorem openStart_some (h : openStart s = .ok p) :
    s.prepared = some p ∧ p.phase = .firstActionIntent := by
  simp only [openStart, demand_ok, Option.filter_eq_some_iff, Bool.and_eq_true, decide_eq_true_eq] at h
  exact ⟨h.1, h.2.1.1⟩

theorem preparedEmpty_some (h : preparedEmpty s = .ok p) :
    s.prepared = some p ∧ p.phase = .preparedNoEffects := by
  simp only [preparedEmpty, demand_ok, Option.filter_eq_some_iff, Bool.and_eq_true, decide_eq_true_eq] at h
  exact ⟨h.1, h.2.1⟩

theorem effectless_some {phase : PreparedPhase}
    (h : effectless s phase = .ok p) : s.prepared = some p ∧ p.phase = phase := by
  simp only [effectless, demand_ok, Option.filter_eq_some_iff, Bool.and_eq_true, decide_eq_true_eq] at h
  exact ⟨h.1, h.2.1.1⟩

/-- **A builder that names a phase of the prepared operation finds the operation in it.** -/
theorem Builder.call_prepared {s : RuntimeJournalSnapshot} {phase : PreparedPhase}
    (h : b.call c s = .ok s') (hphase : b.preparedPhase = some phase) :
    ∃ p, s.state.prepared = some p ∧ p.phase = phase := by
  cases b <;> simp only [Builder.preparedPhase, Option.some.injEq, reduceCtorEq] at hphase <;> subst hphase
  case oneSourceIntent input =>
    obtain ⟨p, hp, h⟩ := bind_ok.1 h
    obtain ⟨_, hok, _⟩ := bind_ok.1 h
    simp only [refuse_ok, not_or, not_not, ne_eq] at hok
    exact ⟨p, demand_ok.1 hp, hok.2.1⟩
  case reserveOneSourceResources refs =>
    obtain ⟨action, ha, _⟩ := bind_ok.1 h
    obtain ⟨p, hp, hphase, _⟩ := startIntentAction_some (demand_ok.1 ha)
    exact ⟨p, hp, hphase⟩
  case ownOneSourceResources input =>
    obtain ⟨action, ha, _⟩ := bind_ok.1 h
    obtain ⟨p, hp, hphase, _⟩ := startIntentAction_some (demand_ok.1 ha)
    exact ⟨p, hp, hphase⟩
  case oneSourceSuccess slice actionId terminal =>
    obtain ⟨p, hp, _⟩ := bind_ok.1 h
    exact ⟨p, openStart_some hp⟩
  case oneSourcePostIntentTimeout terminal =>
    obtain ⟨p, hp, _⟩ := bind_ok.1 h
    exact ⟨p, openStart_some hp⟩
  case emptyHeadRetire input =>
    obtain ⟨p, hp, _⟩ := bind_ok.1 h
    exact ⟨p, preparedEmpty_some hp⟩
  case latchEmptySuccess observation =>
    obtain ⟨p, hp, _⟩ := bind_ok.1 h
    simp only [demand_ok, Option.filter_eq_some_iff, Bool.and_eq_true, decide_eq_true_eq] at hp
    exact ⟨p, hp.1, hp.2.1.1⟩
  case emptyExactZeroFastPath slice terminal =>
    obtain ⟨p, hp, _⟩ := bind_ok.1 h
    exact ⟨p, preparedEmpty_some hp⟩
  case startupAbortedNoEffects terminal =>
    obtain ⟨p, hp, _⟩ := bind_ok.1 h
    exact ⟨p, effectless_some hp⟩
  case noEffectDeadline terminal =>
    obtain ⟨p, hp, _⟩ := bind_ok.1 h
    exact ⟨p, effectless_some hp⟩

theorem filtered_phase {phase : RecoveryPhase} {q : RecoveryAction → Bool}
    {f : RecoveryAction → Res RuntimeJournalSnapshot}
    (h : (demand (s.recoveryAction.filter fun r => decide (r.phase = phase) && q r) >>= f) = .ok s') :
    ∃ r, s.recoveryAction = some r ∧ r.phase = phase := by
  obtain ⟨r, hr, _⟩ := bind_ok.1 h
  simp only [demand_ok, Option.filter_eq_some_iff, Bool.and_eq_true, decide_eq_true_eq] at hr
  exact ⟨r, hr.1, hr.2.1⟩

/-- **A builder that names a phase of the recovery finds the recovery in it.** -/
theorem Builder.call_recovery {s : RuntimeJournalSnapshot} {phase : RecoveryPhase}
    (h : b.call c s = .ok s') (hphase : b.recoveryPhase = some phase) :
    ∃ r, s.state.recoveryAction = some r ∧ r.phase = phase := by
  cases b <;> simp only [Builder.recoveryPhase, Option.some.injEq, reduceCtorEq] at hphase <;> subst hphase
  case recoveryIntent observation => exact filtered_phase h
  case reserveRecoveryResources refs =>
    obtain ⟨action, ha, _⟩ := bind_ok.1 h
    obtain ⟨r, hr, hphase, _⟩ := restartCallAction_some (demand_ok.1 ha)
    exact ⟨r, hr, hphase⟩
  case ownRecoveryResources input =>
    obtain ⟨action, ha, _⟩ := bind_ok.1 h
    obtain ⟨r, hr, hphase, _⟩ := restartCallAction_some (demand_ok.1 ha)
    exact ⟨r, hr, hphase⟩
  case latchRecoveryCallback outcome observation => exact filtered_phase h
  case latchRecoveryDeadline observation => exact filtered_phase h
  case recoveryLiveReady observation => exact filtered_phase h

/-! ## What a builder leaves -/

/-- Every state the call can end in satisfies `P`. -/
def Ends (P : RuntimeJournalState → Prop) (call : Res RuntimeJournalSnapshot) : Prop :=
  ∀ s', call = .ok s' → P s'.state

theorem ends_validated {P : RuntimeJournalState → Prop} {s : RuntimeJournalSnapshot} (h : P state) :
    Ends P (s.tryValidatedSuccessor c state) := by
  intro s' hok
  rw [(tryValidatedSuccessor_ok hok).2]
  exact h

theorem ends_bind {P : RuntimeJournalState → Prop} {α : Type} {x : Res α} {f : α → Res RuntimeJournalSnapshot}
    (h : ∀ a, x = .ok a → Ends P (f a)) : Ends P (x >>= f) := by
  intro s' hok
  obtain ⟨a, ha, hf⟩ := bind_ok.mp hok
  exact h a ha s' hf

theorem withResources_ok (h : withResources sha256 s resources = .ok state) :
    ∃ census, state = { s with
      lastTransaction := .resourceProgress, ownedResources := resources
      liveMaterialization := s.liveMaterialization.withResourceCensus census } := by
  simp only [withResources, bind_ok, pure_ok] at h
  obtain ⟨census, _, rfl⟩ := h
  exact ⟨census, rfl⟩

theorem closedState_ok {self : RuntimeJournalSnapshot} {transaction : RuntimeJournalTransaction}
    {headDisposition : TerminalHeadDisposition} {active : Option ActiveDesiredHead} {live : LiveMaterialization}
    {response : OpaqueCanonicalValue}
    {completionSequence : U64}
    (h : self.closedState transaction prepared plan headDisposition active live response completionSequence
      = .ok state) :
    ∃ terminals, insertTerminalRecord self.state.terminalOperations (terminalRecord prepared plan.selection
        headDisposition plan.census response self.state.host.runtimeHostEpochHighWater completionSequence)
        = .ok terminals ∧ state = closed self.state transaction active live plan.resources terminals := by
  simp only [closedState, bind_ok, pure_ok] at h
  obtain ⟨terminals, hterminals, rfl⟩ := h
  exact ⟨terminals, hterminals, rfl⟩

def Builder.transaction : Builder → RuntimeJournalTransaction
  | startupInvalidation => .startupInvalidation
  | beginStartupResourceCleanup | completeStartupResourceCleanup _ | reserveRecoveryResources _ | ownRecoveryResources _
  | beginRecoveryCleanup | reserveOneSourceResources _ | ownOneSourceResources _ => .resourceProgress
  | operationalQuarantine _ => .quarantine
  | abortStartupInvalidatedRecovery _ => .recoveryAbortNoEffects
  | recoveryPlan _ => .recoveryPlan
  | recoveryIntent _ | latchRecoveryCallback .. | latchRecoveryDeadline _ => .recoveryProgress
  | recoveryLiveReady _ | recoveryFailedNotReady .. => .recoveryPublish
  | tenureOnly _ => .tenureOnly
  | fullAdmission _ => .fullAdmission
  | oneSourceIntent _ | latchEmptySuccess _ => .preparedProgress
  | oneSourceSuccess .. | oneSourcePostIntentTimeout _ | startupInterruptedStart .. => .normalStartTerminal
  | emptyHeadRetire _ => .emptyHeadRetire
  | emptyExactZero .. | emptyExactZeroFastPath .. => .exactZeroTerminal
  | startupAbortedNoEffects _ | noEffectDeadline _ => .operationTerminalNoEffects

attribute [local irreducible] tryValidatedSuccessor in
theorem Builder.call_transaction {s : RuntimeJournalSnapshot}
    (h : b.call c s = .ok s') : s'.state.lastTransaction = b.transaction := by
  suffices hends : Ends (fun state => state.lastTransaction = b.transaction) (b.call c s) from hends s' h
  cases b
  case startupInvalidation =>
    refine ends_bind fun state hstate => ends_validated ?_
    simp only [startupInvalidationState, bind_ok, pure_ok] at hstate
    obtain ⟨_, _, _, _, _, _, _, _, _, _, _, _, _, _, rfl⟩ := hstate
    rfl
  all_goals repeat' first
    | refine ends_bind fun _ hstep => ?_
    | exact ends_validated rfl
    | (obtain ⟨_, rfl⟩ := withResources_ok hstep; exact ends_validated rfl)
    | (obtain ⟨_, _, rfl⟩ := closedState_ok hstep; exact ends_validated rfl)

/-! ## Resources a builder leaves -/

def CleansUp (resources resources' : List OwnedResourceRecord) : Prop :=
  ∀ r ∈ resources', r ∈ resources ∨ r.phase = .cleanupPending ∨ r.phase.isTerminal = true

theorem CleansUp.refl (resources : List OwnedResourceRecord) : CleansUp resources resources := fun _ hr => .inl hr

theorem CleansUp.trans {a b c : List OwnedResourceRecord} (hab : CleansUp a b) (hbc : CleansUp b c) : CleansUp a c := by
  intro r hr
  rcases hbc r hr with hr | hr
  · exact hab r hr
  · exact .inr hr

theorem cleansUp_map {f : OwnedResourceRecord → OwnedResourceRecord}
    (h : ∀ r ∈ resources, f r = r ∨ (f r).phase = .cleanupPending) : CleansUp resources (resources.map f) := by
  intro r' hr'
  obtain ⟨r, hr, rfl⟩ := List.mem_map.1 hr'
  rcases h r hr with heq | hphase
  · rw [heq]
    exact .inl hr
  · exact .inr (.inl hphase)

theorem tombstoned_terminal {r r' : OwnedResourceRecord} {evidence : OpaqueCanonicalValue}
    (h : tombstoned r evidence = some r') : r'.phase.isTerminal = true := by
  rw [tombstoned, Option.map_eq_some_iff] at h
  obtain ⟨phase, hphase, rfl⟩ := h
  cases hold : r.phase <;> rw [hold] at hphase <;> cases hphase <;> rfl

theorem cleansUp_replace {r r' : OwnedResourceRecord}
    {evidence : OpaqueCanonicalValue} (h : tombstoned r evidence = some r') :
    CleansUp resources (Keyed.replace OwnedResourceRecord.key r' resources) := by
  intro x hx
  rcases (Keyed.mem_replace _).1 hx with ⟨rfl, _⟩ | ⟨hx, _⟩
  · exact .inr (.inr (tombstoned_terminal h))
  · exact .inl hx

theorem installResourceTombstone_cleansUp {kind : ResourceKind} {input : RuntimeResourceTombstoneInput}
    (h : installResourceTombstone resources kind action input = .ok resources') : CleansUp resources resources' := by
  simp only [installResourceTombstone, bind_ok, okOr_ok, exists_unit, pure_ok] at h
  obtain ⟨r, _, _, new, hnew, rfl⟩ := h
  exact cleansUp_replace hnew

theorem installStartupResourceTombstone_cleansUp {kind : ResourceKind} {input : RuntimeResourceTombstoneInput}
    (h : installStartupResourceTombstone resources kind input = .ok resources') : CleansUp resources resources' := by
  simp only [installStartupResourceTombstone, bind_ok, okOr_ok, pure_ok] at h
  obtain ⟨r, _, new, hnew, rfl⟩ := h
  exact cleansUp_replace hnew

theorem installPairTombstones_cleansUp
    {input : RuntimeOneSourceTombstonesInput} (h : installPairTombstones resources action input = .ok resources') :
    CleansUp resources resources' := by
  obtain ⟨mid, hmid, hrest⟩ := bind_ok.1 h
  exact (installResourceTombstone_cleansUp hmid).trans (installResourceTombstone_cleansUp hrest)

theorem installTombstones_cleansUp
    {input : Option RuntimeOneSourceTombstonesInput} (h : installTombstones resources action input = .ok resources') :
    CleansUp resources resources' := by
  cases input with
  | none =>
    cases h
    exact .refl _
  | some input => exact installPairTombstones_cleansUp h

def Builder.acquires : Builder → Bool
  | reserveRecoveryResources _ | ownRecoveryResources _ | recoveryLiveReady _ | reserveOneSourceResources _
  | ownOneSourceResources _ | oneSourceSuccess .. => true
  | _ => false

theorem interruptedStartPlan_cleansUp {observation : RuntimeDeadlineObservation}
    (h : interruptedStartPlan sha256 s prepared action tombstones observation = .ok plan) :
    CleansUp s.ownedResources plan.resources := by
  simp only [interruptedStartPlan, bind_ok, exists_unit, pure_ok] at h
  obtain ⟨resources, hresources, _, _, _, _, _, _, _, _, rfl⟩ := h
  exact installTombstones_cleansUp hresources

theorem emptyExactZeroPlan_cleansUp {observation : RuntimeDeadlineObservation}
    (h : emptyExactZeroPlan sha256 s prepared action tombstones observation = .ok plan) :
    CleansUp s.ownedResources plan.resources := by
  simp only [emptyExactZeroPlan, bind_ok, exists_unit, pure_ok] at h
  obtain ⟨resources, hresources, _, _, _, _, _, _, _, _, rfl⟩ := h
  exact installTombstones_cleansUp hresources

theorem failedRecoveryCleanup_cleansUp {recovery : RecoveryAction} {raw : RawActionOutcomeLatch}
    {cleaned : List OwnedResourceRecord × RawActionOutcomeLatch}
    (h : failedRecoveryCleanup sha256 s recovery raw tombstones = .ok cleaned) :
    CleansUp s.ownedResources cleaned.1 := by
  cases tombstones with
  | none =>
    simp only [failedRecoveryCleanup, bind_ok, exists_unit, pure_ok] at h
    obtain ⟨_, _, _, rfl⟩ := h
    exact .refl _
  | some tombstones =>
    simp only [failedRecoveryCleanup, bind_ok, pure_ok] at h
    obtain ⟨resources, hresources, _, _, rfl⟩ := h
    exact installPairTombstones_cleansUp hresources

attribute [local irreducible] tryValidatedSuccessor in
/-- **A builder that acquires nothing leaves old records, or cleans them up.** -/
theorem Builder.call_cleansUp {s : RuntimeJournalSnapshot} (h : b.call c s = .ok s') (hb : b.acquires = false) :
    CleansUp s.state.ownedResources s'.state.ownedResources := by
  suffices hends : Ends (fun state => CleansUp s.state.ownedResources state.ownedResources) (b.call c s) from hends s' h
  cases b
  case startupInvalidation =>
    refine ends_bind fun state hstate => ends_validated ?_
    simp only [startupInvalidationState, bind_ok, pure_ok] at hstate
    obtain ⟨_, _, _, _, _, _, _, _, _, _, _, _, _, _, rfl⟩ := hstate
    exact .refl _
  case beginStartupResourceCleanup =>
    refine ends_bind fun _ _ => ends_bind fun _ _ => ends_bind fun state hstate => ends_validated ?_
    obtain ⟨_, rfl⟩ := withResources_ok hstate
    refine cleansUp_map fun r _ => ?_
    unfold beginCleanup
    by_cases howned : r.phase = .owned
    · rw [if_pos howned]
      exact .inr rfl
    · rw [if_neg howned]
      exact .inl rfl
  case completeStartupResourceCleanup tombstones =>
    refine ends_bind fun _ _ => ends_bind fun mid hmid => ends_bind fun last hlast => ends_bind fun state hstate =>
      ends_validated ?_
    obtain ⟨_, rfl⟩ := withResources_ok hstate
    exact (installStartupResourceTombstone_cleansUp hmid).trans (installStartupResourceTombstone_cleansUp hlast)
  case beginRecoveryCleanup =>
    refine ends_bind fun recovery _ => ends_bind fun _ _ => ends_bind fun state hstate => ends_validated ?_
    obtain ⟨_, rfl⟩ := withResources_ok hstate
    refine cleansUp_map fun r _ => ?_
    by_cases howned : r.actionId = some recovery.action.actionId ∧ r.phase = .owned
    · rw [if_pos howned]
      exact .inr rfl
    · rw [if_neg howned]
      exact .inl rfl
  case recoveryFailedNotReady tombstones observation =>
    refine ends_bind fun _ _ => ends_bind fun _ _ => ends_bind fun _ _ => ends_bind fun cleaned hcleaned => ?_
    have hclean := failedRecoveryCleanup_cleansUp hcleaned
    repeat' first
      | refine ends_bind fun _ _ => ?_
      | exact ends_validated hclean
  case startupInterruptedStart tombstones terminal =>
    refine ends_bind fun _ _ => ends_bind fun _ _ => ends_bind fun _ _ => ends_bind fun plan hplan =>
      ends_bind fun _ _ => ends_bind fun state hstate => ends_validated ?_
    obtain ⟨_, _, rfl⟩ := closedState_ok hstate
    exact interruptedStartPlan_cleansUp hplan
  case emptyExactZero tombstones terminal =>
    refine ends_bind fun _ _ => ends_bind fun _ _ => ends_bind fun _ _ => ends_bind fun plan hplan =>
      ends_bind fun _ _ => ends_bind fun state hstate => ends_validated ?_
    obtain ⟨_, _, rfl⟩ := closedState_ok hstate
    exact emptyExactZeroPlan_cleansUp hplan
  case emptyHeadRetire input =>
    refine ends_bind fun _ _ => ends_bind fun _ _ => ends_bind fun _ _ => ends_bind fun _ _ =>
      ends_bind fun resources hresources => ends_bind fun _ _ => ends_validated ?_
    simp only [retireResources, bind_ok, exists_unit, pure_ok] at hresources
    obtain ⟨_, rfl⟩ := hresources
    refine cleansUp_map fun r _ => ?_
    by_cases hterminal : r.phase.isTerminal = true
    · rw [if_pos hterminal]
      exact .inl rfl
    · rw [if_neg hterminal]
      exact .inr rfl
  case oneSourcePostIntentTimeout terminal =>
    refine ends_bind fun _ _ => ends_bind fun _ _ => ends_bind fun plan hplan => ends_bind fun _ _ =>
      ends_bind fun state hstate => ends_validated ?_
    obtain ⟨_, _, rfl⟩ := closedState_ok hstate
    simp only [postIntentTimeoutPlan, bind_ok, exists_unit, pure_ok] at hplan
    obtain ⟨_, _, _, _, _, _, rfl⟩ := hplan
    exact .refl _
  case emptyExactZeroFastPath slice terminal =>
    refine ends_bind fun _ _ => ends_bind fun _ _ => ends_bind fun plan hplan => ends_bind fun _ _ =>
      ends_bind fun state hstate => ends_validated ?_
    obtain ⟨_, _, rfl⟩ := closedState_ok hstate
    simp only [fastPathPlan, bind_ok, exists_unit, pure_ok] at hplan
    obtain ⟨_, _, _, _, _, rfl⟩ := hplan
    exact .refl _
  case startupAbortedNoEffects terminal =>
    refine ends_bind fun _ _ => ends_bind fun plan hplan => ends_bind fun _ _ =>
      ends_bind fun state hstate => ends_validated ?_
    obtain ⟨_, _, rfl⟩ := closedState_ok hstate
    simp only [startupAbortedPlan, bind_ok, exists_unit, pure_ok] at hplan
    obtain ⟨_, _, _, _, _, rfl⟩ := hplan
    exact .refl _
  case noEffectDeadline terminal =>
    refine ends_bind fun _ _ => ends_bind fun plan hplan => ends_bind fun _ _ =>
      ends_bind fun state hstate => ends_validated ?_
    obtain ⟨_, _, rfl⟩ := closedState_ok hstate
    simp only [noEffectDeadlinePlan, bind_ok, exists_unit, pure_ok] at hplan
    obtain ⟨_, _, _, _, _, _, rfl⟩ := hplan
    exact .refl _
  case reserveRecoveryResources | ownRecoveryResources | recoveryLiveReady | reserveOneSourceResources
    | ownOneSourceResources | oneSourceSuccess => cases hb
  all_goals repeat' first
    | refine ends_bind fun _ _ => ?_
    | exact ends_validated (CleansUp.refl _)

/-! ## Interrupted actions -/

inductive Interrupted (s : RuntimeJournalState) (action : JournalActionRef) : Prop
  | prepared (p : PreparedOperation) (hp : s.prepared = some p) (ha : p.action = some action)
      (phase : p.phase = .startupReconcileRequired ∨ p.phase = .supersededReconcileRequired)
  | recovery (r : RecoveryAction) (hr : s.recoveryAction = some r) (ha : r.action = action)
      (phase : r.phase.invalidated = true)

/-- **What is left for an interrupted action**: a takeover, the cleanup of resources, or a terminal that did not go
live. -/
inductive WindsDown (s s' : RuntimeJournalState) (action : JournalActionRef) : Prop
  | taken (transaction : s'.lastTransaction = .tenureOnly) (still : Interrupted s' action)
  | kept (record : ∀ latch, Underway s action latch → Underway s' action latch) (still : Interrupted s' action)
  | reported (selection : TerminalOutcomeSelection) (report : Reported s' action selection)
      (notActive : selection.primary ≠ .oneSourceLoopActive)

theorem Step.interrupts {d d' : RuntimeJournalSnapshot} (h : Step c d d')
    (hrestart : d'.state.lastTransaction = .startupInvalidation)
    {latch : Option RawActionOutcomeLatch} (hu : Underway d.state action latch) : Interrupted d'.state action := by
  have htransition := h.transition
  generalize hstate : d'.state = state at htransition hrestart ⊢
  cases htransition with
  | startupInvalidation prepared recovery _ _ _ _ _ _ hprepared hrecovery =>
    cases hu with
    | prepared p hp ha _ =>
      rw [hp, startupInvalidatedPrepared, bind_ok] at hprepared
      obtain ⟨p', hp', heq⟩ := hprepared
      refine .prepared p' (pure_ok.1 heq).symm ((startupInvalidated_identity hp').2.trans ha) ?_
      rcases startupInvalidatedPreparedOp_eq hp' with ⟨_, hnone, _⟩ | ⟨_, _, phase, hphase, _, rfl⟩
      · rw [ha] at hnone
        cases hnone
      · exact hphase.symm
    | recovery r hr ha _ =>
      rw [hr, startupInvalidatedRecovery, bind_ok] at hrecovery
      obtain ⟨r', hr', heq⟩ := hrecovery
      have hnext : recovery = some r' := (pure_ok.1 heq).symm
      rcases startupInvalidatedRecoveryAction_eq hr' with ⟨_, _, rfl⟩ | ⟨_, rfl⟩
      · exact .recovery _ hnext ha rfl
      · exact .recovery _ hnext ha rfl
  | _ => cases hrestart

namespace Interrupted
variable {c : Contracts} {s : RuntimeJournalState} {action : JournalActionRef}

theorem prepared_phase (h : Interrupted s action) (hs : s.ActionsOk c) {p : PreparedOperation}
    (hp : s.prepared = some p) (hrequires : p.phase.requiresAction = true) :
    p.phase = .startupReconcileRequired ∨ p.phase = .supersededReconcileRequired := by
  cases h with
  | prepared p' hp' _ phase =>
    rw [hp] at hp'
    cases hp'
    exact phase
  | recovery r hr _ _ =>
    have hpresent := (hs.prepared p hp).present
    rw [hrequires, eq_comm, Option.isSome_iff_exists] at hpresent
    obtain ⟨a, ha⟩ := hpresent
    rcases hs.single with hnone | hnone
    · rw [hp, Option.bind_some, ha] at hnone
      cases hnone
    · rw [hr] at hnone
      cases hnone

theorem recovery_phase (h : Interrupted s action) (hs : s.ActionsOk c) {r : RecoveryAction}
    (hr : s.recoveryAction = some r) : r.phase.invalidated = true := by
  cases h with
  | prepared p hp ha _ =>
    rcases hs.single with hnone | hnone
    · rw [hp, Option.bind_some, ha] at hnone
      cases hnone
    · rw [hr] at hnone
      cases hnone
  | recovery r' hr' _ phase =>
    rw [hr] at hr'
    cases hr'
    exact phase

theorem not_acquires (h : Interrupted s action) {d d' : RuntimeJournalSnapshot} (hd : d.state = s) (hs : s.ActionsOk c)
    {b : Builder} (hcall : b.call c d = .ok d') : b.acquires = false := by
  subst hd
  have hstart : b.preparedPhase ≠ some .firstActionIntent := by
    intro hphase
    obtain ⟨p, hp, hfirst⟩ := Builder.call_prepared hcall hphase
    rcases h.prepared_phase hs hp (by rw [hfirst]; rfl) with heq | heq
    · rw [hfirst] at heq
      cases heq
    · rw [hfirst] at heq
      cases heq
  have hrecovery : b.recoveryPhase ≠ some .startCallIntent := by
    intro hphase
    obtain ⟨r, hr, hcalled⟩ := Builder.call_recovery hcall hphase
    have hinvalidated := h.recovery_phase hs hr
    rw [hcalled] at hinvalidated
    cases hinvalidated
  cases b <;> first
    | rfl
    | exact absurd rfl hstart
    | exact absurd rfl hrecovery

end Interrupted

theorem Builder.preparedPhase_of_progress (h : b.transaction = .preparedProgress) :
    b.preparedPhase = some .preparedNoEffects ∨ b.preparedPhase = some .headCommittedRetiringOld := by
  cases b <;> first
    | exact .inl rfl
    | exact .inr rfl
    | cases h

theorem Builder.recoveryPhase_of_progress (h : b.transaction = .recoveryProgress) :
    b.recoveryPhase = some .recoveryPlannedNoEffects ∨ b.recoveryPhase = some .startCallIntent := by
  cases b <;> first
    | exact .inl rfl
    | exact .inr rfl
    | cases h

theorem Builder.eq_startup_of_transaction (h : b.transaction = .startupInvalidation) : b = .startupInvalidation := by
  cases b <;> first
    | rfl
    | cases h

/-- **Nothing but a restart, a takeover, cleanup or a terminal happens to an interrupted action.** -/
theorem Interrupted.windsDown {d d' : RuntimeJournalSnapshot}
    (h : Interrupted d.state action) (hd : d.Built c) {b : Builder} (hb : b ≠ .startupInvalidation)
    (hcall : b.call c d = .ok d') : WindsDown d.state d'.state action := by
  have hs := hd.valid.actions
  have htransition := (Builder.call_step hcall).transition
  have hlast := Builder.call_transaction hcall
  have hrestart : d'.state.lastTransaction ≠ .startupInvalidation := fun heq =>
    hb (Builder.eq_startup_of_transaction (hlast.symm.trans heq))
  cases h with
  | prepared p hp ha phase =>
    have hlive : p.phase ≠ .preparedNoEffects ∧ p.phase ≠ .headCommittedRetiringOld ∧ p.phase ≠ .firstActionIntent := by
      rcases phase with hphase | hphase <;> rw [hphase] <;> decide
    rcases htransition.preparedNext hp with ⟨next⟩ | ⟨p', _, _, transaction⟩ | ⟨next, transaction⟩ |
      ⟨p', _, _, transaction⟩ | ⟨p', _, _, oldPhase⟩ | ⟨t, appends, _, _, active⟩
    · refine .kept (fun latch hu => ?_) (.prepared p next ha phase)
      have hsame := (show Underway d.state action p.rawOutcome from .prepared p hp ha rfl).unique hs hu
      exact .prepared p next ha hsame.2.symm
    · exact absurd transaction hrestart
    · refine .taken transaction (.prepared _ next ((tenureSuccessor_identity p).2.trans ha) ?_)
      rcases tenureSuccessorPreparedOp_eq p with ⟨hbefore, _⟩ | ⟨_, heq⟩
      · rcases phase with hphase | hphase <;> rw [hphase] at hbefore <;> cases hbefore
      · rw [heq]
        exact .inr rfl
    · rcases Builder.preparedPhase_of_progress (hlast.symm.trans transaction) with hphase | hphase
      · obtain ⟨p', hp', heq⟩ := Builder.call_prepared hcall hphase
        rw [hp] at hp'
        cases hp'
        exact absurd heq hlive.1
      · obtain ⟨p', hp', heq⟩ := Builder.call_prepared hcall hphase
        rw [hp] at hp'
        cases hp'
        exact absurd heq hlive.2.1
    · exact absurd oldPhase hlive.1
    · refine .reported t.selection (.operation t appends.mem ((appends_action appends).trans ha) rfl) fun hactive => ?_
      exact hlive.2.2 (active hactive)
  | recovery r hr ha phase =>
    have hlive : r.phase ≠ .recoveryPlannedNoEffects ∧ r.phase ≠ .startCallIntent := by
      constructor <;> intro hphase <;> rw [hphase] at phase <;> cases phase
    rcases htransition.recoveryNext hr with ⟨next⟩ | ⟨r', _, _, transaction⟩ | ⟨next, transaction⟩ |
      ⟨r', _, _, transaction⟩ | ⟨t, appends, _, active⟩
    · refine .kept (fun latch hu => ?_) (.recovery r next ha phase)
      have hsame := (show Underway d.state action r.rawOutcome from .recovery r hr ha rfl).unique hs hu
      exact .recovery r next ha hsame.2.symm
    · exact absurd transaction hrestart
    · refine .taken transaction ?_
      rcases tenureSuccessorRecoveryAction_eq r with ⟨_, heq⟩ | ⟨_, heq⟩
      · rw [heq] at next
        exact .recovery r next ha phase
      · rw [heq] at next
        exact .recovery _ next ha phase
    · rcases Builder.recoveryPhase_of_progress (hlast.symm.trans transaction) with hphase | hphase
      · obtain ⟨r', hr', heq⟩ := Builder.call_recovery hcall hphase
        rw [hr] at hr'
        cases hr'
        exact absurd heq hlive.1
      · obtain ⟨r', hr', heq⟩ := Builder.call_recovery hcall hphase
        rw [hr] at hr'
        cases hr'
        exact absurd heq hlive.2
    · have hmem : t ∈ d'.state.recoveryTerminals := by rw [appends.eq]; simp
      refine .reported t.selection (.recovery t hmem (by rw [appends.recovery, ha]) rfl) fun hactive => ?_
      exact hlive.2 (active hactive)

end RuntimeJournalSnapshot
end Journal
end ParaEgox
