import ParaEgox.CallContract

/-!
# ReassemblyContract — what the restart state machine promises of its calls

Every call of `Reassembly.run` is permitted where it is made, whatever the owner and the clock answer: a recovery reaches
its materialization and its callback only over the recovery intent and the resources it has committed itself.
-/
namespace ParaEgox
namespace Control

open Check Journal RuntimeJournalSnapshot Program

variable {c : Contracts} {w : World} {α β : Type}

/-! ## The resources of a recovery -/

section Resources

variable {resources resources' : List OwnedResourceRecord} {action : JournalActionRef} {kind : ResourceKind}

theorem ResourceKind.code_injective : Function.Injective ResourceKind.code := by
  intro a b h
  cases a <;> cases b <;> first
    | rfl
    | cases h

theorem insertResourceRecord_mem {record : OwnedResourceRecord}
    (h : insertResourceRecord resources record = .ok resources') (r : OwnedResourceRecord) :
    r ∈ resources' ↔ r = record ∨ r ∈ resources := by
  simp only [insertResourceRecord, insertRecord, bind_ok, exists_unit, pure_ok] at h
  obtain ⟨_, _, rfl⟩ := h
  exact Keyed.mem_insert _

theorem reservedRecord_holds {logicalRef : Ref16} (h : reservedRecord kind logicalRef action ∈ resources) :
    Holds resources action .reserved kind := ⟨_, h, rfl, rfl, rfl, rfl, rfl⟩

theorem reservePair_holds {refs : RuntimeOneSourceResourceRefs}
    (h : reservePair resources refs action = .ok resources') :
    PairIn resources' action .reserved := by
  simp only [reservePair, bind_ok] at h
  obtain ⟨mid, hmid, hlast⟩ := h
  have hmem := insertResourceRecord_mem hlast
  exact ⟨reservedRecord_holds ((hmem _).2 (.inr ((insertResourceRecord_mem hmid _).2 (.inl rfl)))),
    reservedRecord_holds ((hmem _).2 (.inl rfl))⟩

theorem installResourceOwnership_holds {input : RuntimeResourceOwnershipInput}
    (h : installResourceOwnership resources kind action input = .ok resources') :
    Holds resources' action .owned kind ∧ ∀ r ∈ resources, r.kind ≠ kind → r ∈ resources' := by
  simp only [installResourceOwnership, bind_ok, okOr_ok, exists_unit, rejectIf_ok, not_or, not_not, pure_ok] at h
  obtain ⟨r, hfind, ⟨_, hid, hepoch⟩, rfl⟩ := h
  obtain ⟨hmem, hkey⟩ := Keyed.find_mem _ hfind
  simp only [OwnedResourceRecord.key, resourceKey, toLex_inj, Prod.mk.injEq] at hkey
  have hkind := ResourceKind.code_injective hkey.1
  refine ⟨⟨_, (Keyed.mem_replace _).2 (.inl ⟨rfl, r, hmem, rfl⟩), hkind, hid, hkey.2.2, hepoch, rfl⟩, ?_⟩
  intro other hother hne
  refine (Keyed.mem_replace _).2 (.inr ⟨hother, fun heq => hne ?_⟩)
  simp only [OwnedResourceRecord.key, toLex_inj, Prod.mk.injEq] at heq
  exact (ResourceKind.code_injective heq.1).trans hkind

theorem installPairOwnership_holds {input : RuntimeOneSourceOwnershipInput}
    (h : installPairOwnership resources action input = .ok resources') : PairIn resources' action .owned := by
  simp only [installPairOwnership, bind_ok] at h
  obtain ⟨mid, hmid, hlast⟩ := h
  obtain ⟨r, hr, hkind, hrest⟩ := (installResourceOwnership_holds hmid).1
  obtain ⟨hcard, hkept⟩ := installResourceOwnership_holds hlast
  refine ⟨⟨r, hkept r hr ?_, hkind, hrest⟩, hcard⟩
  rw [hkind]
  decide

end Resources

/-! ## A recovery on its way to its callback -/

def Called (s : RuntimeJournalState) (action : JournalActionRef) : Prop :=
  ∃ r, s.recoveryAction = some r ∧ r.phase = .startCallIntent ∧ r.action = action ∧ r.rawOutcome = none

theorem Called.intended {s : RuntimeJournalState} {action : JournalActionRef} (h : Called s action) :
    StartIntended s action := by
  obtain ⟨r, hr, hphase, ha, hlatch⟩ := h
  exact .recovery r hr hphase ha hlatch

section Builders

variable {s s' : RuntimeJournalSnapshot} {action : JournalActionRef}

theorem recoveryIntent_called {observation : RuntimeDeadlineObservation}
    (h : Builder.call c s (.recoveryIntent observation) = .ok s') : ∃ action, Called s'.state action := by
  simp only [Builder.call, tryRecoveryIntentSuccessor, bind_ok, RuntimeJournalState.demand_ok,
    Option.filter_eq_some_iff, Bool.and_eq_true,
    Option.isNone_iff_eq_none, exists_unit] at h
  obtain ⟨r, ⟨_, _, hlatch⟩, _, hnew⟩ := h
  rw [(tryValidatedSuccessor_ok hnew).2]
  exact ⟨r.action, _, rfl, rfl, rfl, hlatch⟩

theorem Called.eq_of_call {unanswered : Bool} {action' : JournalActionRef} (h : Called s.state action)
    (hcall : restartCallAction s.state unanswered = some action') : action' = action := by
  obtain ⟨r, hr, _, rfl, _⟩ := h
  obtain ⟨r', hr', _, rfl, _⟩ := restartCallAction_some hcall
  rw [hr] at hr'
  cases hr'
  rfl

theorem reserveRecovery_called {refs : RuntimeOneSourceResourceRefs} (hcalled : Called s.state action)
    (h : Builder.call c s (.reserveRecoveryResources refs) = .ok s') :
    Called s'.state action ∧ PairIn s'.state.ownedResources action .reserved := by
  simp only [Builder.call, tryReserveRecoveryResourcesSuccessor, bind_ok, RuntimeJournalState.demand_ok, exists_unit]
    at h
  obtain ⟨_, haction, _, resources, hresources, state, hstate, hnew⟩ := h
  cases hcalled.eq_of_call haction
  obtain ⟨_, rfl⟩ := withResources_ok hstate
  rw [(tryValidatedSuccessor_ok hnew).2]
  exact ⟨hcalled, reservePair_holds hresources⟩

theorem ownRecovery_called {input : RuntimeOneSourceOwnershipInput} (hcalled : Called s.state action)
    (h : Builder.call c s (.ownRecoveryResources input) = .ok s') :
    Called s'.state action ∧ PairIn s'.state.ownedResources action .owned := by
  simp only [Builder.call, tryOwnRecoveryResourcesSuccessor, bind_ok, RuntimeJournalState.demand_ok] at h
  obtain ⟨_, haction, resources, hresources, state, hstate, hnew⟩ := h
  cases hcalled.eq_of_call haction
  obtain ⟨_, rfl⟩ := withResources_ok hstate
  rw [(tryValidatedSuccessor_ok hnew).2]
  exact ⟨hcalled, installPairOwnership_holds hresources⟩

end Builders

/-! ## The restart -/

/-- The restart state machine holds the durable snapshot while the store runs. -/
structure Follows (s : RuntimeJournalSnapshot) (w : World) : Prop where
  running : w.store.stopped = false
  current : s = w.store.durable

def reassemblyTie (c : Contracts) : Tie c RuntimeJournalSnapshot where
  view s := s
  linked := Follows
  left _ _ := True
  weaken _ := trivial
  running h := h.running
  current h := h.current
  record h := ⟨h.running, h.current⟩

namespace Reassembly

variable {x : Provision} {s : RuntimeJournalSnapshot} {action : JournalActionRef} {bound : Binding}
  {plan : RuntimeOneSourceOwnerPlan} {deadlineNanos : U64}

/-- The job makes permitted calls only, and holds the durable snapshot when it ends. -/
abbrev Keeps (c : Contracts) (j : Reassembly α) (s : RuntimeJournalSnapshot) (w : World) : Prop :=
  Safe (reassemblyTie c) j s w (Tied (reassemblyTie c))

theorem observe_safe (h : Follows s w) :
    Safe (reassemblyTie c) observe s w fun _ => Stays (reassemblyTie c) s w :=
  Safe.self (Safe.ask h (.observe s.state.host.clockGenerationHighWater) (fun answer => answer) rfl trivial)

variable {good : β → RuntimeJournalSnapshot → World → Prop} {b : Builder}

theorem observe_then {f : RuntimeDeadlineObservation → Reassembly β} (h : Follows s w)
    (hf : ∀ observation w', Follows s w' → Safe (reassemblyTie c) (f observation) s w' good) :
    Safe (reassemblyTie c) (observe >>= f) s w good := by
  refine Safe.bind (observe_safe h) ?_
  rintro observation _ w' ⟨h', rfl, _⟩
  exact hf observation w' h'

theorem call_then {call : PortCall} {f : call.Answer → Reassembly β}
    (h : Follows s w) (hcall : call.isCommit = false) (hmay : Announced s.state call)
    (hf : ∀ answer w', Follows s w' → Safe (reassemblyTie c) (f answer) s w' good) :
    Safe (reassemblyTie c) (Job.call (I := ports) call >>= f) s w good := by
  refine Safe.bind (Safe.call h call hcall (h.current ▸ hmay)) ?_
  rintro answer _ w' ⟨h', rfl, _⟩
  exact hf answer w' h'

/-- **What the restart commits is a builder's successor**: it then holds the new snapshot. -/
theorem advance_safe (h : Follows s w) (hb : allowed c w b) :
    Safe (reassemblyTie c) (advance c b) s w fun _ s' w' => Follows s' w' ∧ Builder.call c s b = .ok s' := by
  refine Safe.self (Safe.lifted h fun next hnext => ?_)
  have hoffer : permitted c (.commitSnapshot next) w := ⟨h.running, b, hb, h.current ▸ hnext⟩
  refine (Job.meets_bind _ _).2 ((Job.meets_call (I := ports) (.commitSnapshot next)).2 ⟨hoffer, ?_⟩)
  rintro answer w' ⟨store, hcommit, rfl⟩
  generalize hstore : w.store = old at hcommit
  cases hcommit with
  | published d accepted => exact ⟨⟨rfl, rfl⟩, hnext⟩
  | refused => trivial
  | uncertain d accepted => trivial

theorem advance_keeps (h : Follows s w) (hb : allowed c w b) : Keeps c (advance c b) s w :=
  (advance_safe h hb).mono fun _ _ _ h => h.1

theorem advance_then {f : Unit → Reassembly β} (h : Follows s w) (hb : allowed c w b)
    (hf : ∀ s' w', Follows s' w' → Builder.call c s b = .ok s' → Safe (reassemblyTie c) (f ()) s' w' good) :
    Safe (reassemblyTie c) (advance c b >>= f) s w good := by
  refine Safe.bind (advance_safe h hb) ?_
  rintro ⟨⟩ s' w' ⟨h', hcall⟩
  exact hf s' w' h' hcall

theorem quarantine_keeps (h : Follows s w) (reason : QuarantineReason) : Keeps c (quarantine c reason) s w :=
  Safe.self (Safe.lifted h fun _ _ => advance_keeps h trivial)

theorem quarantinePreservingFailure_keeps (h : Follows s w) (reason : QuarantineReason) (priorFailure : Digest32) :
    Keeps c (quarantinePreservingFailure c reason priorFailure) s w :=
  Safe.self (Safe.lifted h fun _ _ => advance_keeps h trivial)

/-! ## The interrupted operation -/

theorem historical_then {f : PreparedOperation × ReferenceApplyRequest × ReferenceChannelBinding → Reassembly β}
    (h : Follows s w) (hf : ∀ facts, Safe (reassemblyTie c) (f facts) s w good) :
    Safe (reassemblyTie c) (historical c >>= f) s w good :=
  (Job.meets_bind _ f).2 (Safe.self (Safe.needed h fun _ _ => Safe.needed h fun _ _ => Safe.lifted h fun _ _ => hf _))

theorem signed_then {request : ReferenceApplyRequest} {preview : RuntimeTerminalPreview}
    {channel : ReferenceChannelBinding} {observation : RuntimeDeadlineObservation}
    {f : RuntimeTerminalInput → Reassembly β} (h : Follows s w)
    (hf : ∀ terminal, Safe (reassemblyTie c) (f terminal) s w good) :
    Safe (reassemblyTie c) (signed x request preview channel observation >>= f) s w good :=
  (Job.meets_bind _ f).2 (Safe.lifted h fun _ _ => Safe.lift h fun terminal _ => hf terminal)

theorem terminalizeInterruptedNormal_keeps (h : Follows s w) (tombstones : Option RuntimeOneSourceTombstonesInput) :
    Keeps x.contracts (terminalizeInterruptedNormal x tombstones) s w := by
  refine historical_then h fun ⟨prepared, request, channel⟩ => observe_then h fun observation w' h' =>
    Safe.self (Safe.lifted h' fun preview _ => signed_then h' fun terminal => advance_keeps h' ?_)
  cases prepared.incomingKind <;> trivial

theorem terminalizeAbortedNoEffects_keeps (h : Follows s w) : Keeps x.contracts (terminalizeAbortedNoEffects x) s w :=
  historical_then h fun _ => observe_then h fun _ _ h' =>
    Safe.self (Safe.lifted h' fun _ _ => signed_then h' fun _ => advance_keeps h' trivial)

/-! ## A recovery -/

theorem cleanFailedRecovery_keeps (h : Follows s w) : Keeps c (cleanFailedRecovery c action) s w := by
  refine advance_then h trivial fun s' w' h' _ => call_then h' rfl trivial fun answer w₁ h₁ => ?_
  cases answer with
  | error _ => exact quarantine_keeps h₁ _
  | ok tombstones => exact observe_then h₁ fun _ _ h₂ => advance_keeps h₂ trivial

theorem selectRecovery_keeps (h : Follows s w) : Keeps c (selectRecovery c action deadlineNanos) s w := by
  refine observe_then h fun selection w' h' => Safe.ite (fun _ => advance_keeps h' trivial) fun _ => ?_
  exact advance_then h' trivial fun _ _ h₁ _ => cleanFailedRecovery_keeps h₁

/-- **The recovery callback is called with its intent and its owned resources durable.** -/
theorem callRecovery_keeps (h : Follows s w) (hcalled : Called s.state action)
    (howned : PairIn s.state.ownedResources action .owned) : Keeps c (callRecovery c action deadlineNanos) s w := by
  refine call_then h rfl ⟨hcalled.intended, howned⟩ fun callback w₁ h₁ => observe_then h₁ fun observation w₂ h₂ =>
    Safe.lifted h₂ fun outcome _ => advance_then h₂ trivial fun s' w' h' _ => Safe.ite (fun _ => ?_) fun _ => ?_
  · exact selectRecovery_keeps h'
  · exact cleanFailedRecovery_keeps h'

theorem materializeRecovery_keeps (h : Follows s w) (hcalled : Called s.state action) :
    Keeps c (materializeRecovery c action plan deadlineNanos) s w := by
  refine advance_then h trivial fun s' w' h' hreserve => ?_
  obtain ⟨hcalled', hreserved⟩ := reserveRecovery_called hcalled hreserve
  refine call_then h' rfl ⟨hcalled'.intended, hreserved⟩ fun answer w₁ h₁ => ?_
  cases answer with
  | error _ => exact quarantine_keeps h₁ _
  | ok ownership =>
    refine advance_then h₁ trivial fun s₂ w₂ h₂ hown => ?_
    obtain ⟨hcalled₂, howned⟩ := ownRecovery_called hcalled' hown
    exact callRecovery_keeps h₂ hcalled₂ howned

theorem confirmRecovery_keeps (h : Follows s w) (hcalled : ∃ action, Called s.state action) :
    Keeps c (confirmRecovery c bound plan deadlineNanos) s w := by
  refine Safe.self (Safe.needed h fun recovery hrecovery => call_then h rfl trivial fun answer w' h' => ?_)
  obtain ⟨action, r, hr, hcalled⟩ := hcalled
  rw [hr] at hrecovery
  cases hrecovery
  cases answer with
  | error _ => exact quarantine_keeps h' _
  | ok durablePlan =>
    refine Safe.ite (fun _ => ?_) fun _ => quarantine_keeps h' _
    exact materializeRecovery_keeps h' ⟨recovery, hr, hcalled.1, rfl, hcalled.2.2⟩

theorem intendRecovery_keeps (h : Follows s w) : Keeps c (intendRecovery c bound plan deadlineNanos) s w := by
  refine observe_then h fun preIntent w₁ h₁ => Safe.ite (fun _ => advance_keeps h₁ trivial) fun _ =>
    advance_then h₁ trivial fun s' w' h' hintent => observe_then h' fun postIntent w₂ h₂ =>
      Safe.ite (fun _ => advance_keeps h₂ trivial) fun _ => ?_
  exact confirmRecovery_keeps h₂ (recoveryIntent_called hintent)

theorem planRecovery_keeps (h : Follows s w) (plannedAt : RuntimeDeadlineObservation) :
    Keeps c (planRecovery c bound plan plannedAt) s w :=
  Safe.guarded h fun _ => Safe.self (Safe.lifted h fun _ _ =>
    advance_then h trivial fun _ _ h' _ => intendRecovery_keeps h')

theorem startRecovery_keeps (h : Follows s w) : Keeps c (startRecovery c bound) s w := by
  refine call_then h rfl trivial fun answer w' h' => ?_
  cases answer with
  | error _ => exact quarantine_keeps h' _
  | ok plan =>
    refine observe_then h' fun plannedAt w₁ h₁ => Safe.ite (fun _ => ?_) fun _ => ?_
    · exact quarantine_keeps h₁ _
    · exact planRecovery_keeps h₁ plannedAt

theorem recoverLive_keeps (h : Follows s w) : Keeps c (recoverLive c bound) s w := by
  refine Safe.self ?_
  split
  · exact startRecovery_keeps h
  · exact Safe.needed h fun _ _ => quarantinePreservingFailure_keeps h _ _
  · exact Safe.pure h
  · exact Safe.pure h
  · exact Safe.pure h
  · exact quarantine_keeps h _

theorem settleRecovery_keeps (h : Follows s w) (recovery : RecoveryAction) :
    Keeps c (settleRecovery c bound recovery) s w := by
  unfold settleRecovery
  split
  · exact observe_then h fun _ _ h₁ => advance_then h₁ trivial fun _ _ h' _ => recoverLive_keeps h'
  · refine call_then h rfl trivial fun answer w' h' => ?_
    cases answer with
    | error _ => exact quarantine_keeps h' _
    | ok _ => exact observe_then h' fun _ _ h₁ => advance_keeps h₁ trivial
  · exact quarantine_keeps h _
  · exact quarantine_keeps h _

theorem reassembleActive_keeps (h : Follows s w) (execution : ReferenceTargetExecution) :
    Keeps c (reassembleActive c execution) s w := by
  refine Safe.self (Safe.needed h fun active _ => Safe.ite (fun _ => quarantine_keeps h _) fun _ => ?_)
  cases s.state.recoveryAction with
  | some recovery => exact settleRecovery_keeps h recovery
  | none => exact recoverLive_keeps h

/-! ## The run -/

theorem closePrepared_keeps (h : Follows s w) (tombstones : Option RuntimeOneSourceTombstonesInput) :
    Keeps x.contracts (closePrepared x bound tombstones) s w := by
  cases tombstones with
  | some tombstones => exact terminalizeInterruptedNormal_keeps h _
  | none =>
    refine Safe.self (Safe.needed h fun action _ => call_then h rfl trivial fun answer w' h' => ?_)
    cases answer with
    | error _ => exact quarantine_keeps h' _
    | ok _ => exact terminalizeInterruptedNormal_keeps h' _

theorem afterCleanup_keeps (h : Follows s w) (reconcile : Bool) (tombstones : Option RuntimeOneSourceTombstonesInput) :
    Keeps x.contracts (afterCleanup x bound reconcile tombstones) s w :=
  Safe.ite (fun _ => closePrepared_keeps h tombstones) fun _ => reassembleActive_keeps h _

theorem cleanupOld_keeps (h : Follows s w) (reconcile : Bool) :
    Keeps x.contracts (cleanupOld x bound reconcile) s w := by
  refine Safe.self (call_then h rfl trivial fun answer w' h' => ?_)
  cases answer with
  | error _ => exact quarantine_keeps h' _
  | ok tombstones =>
    refine advance_then h' trivial fun s₁ w₁ h₁ _ => Safe.ite (fun _ => afterCleanup_keeps h₁ _ _) fun _ => ?_
    exact advance_then h₁ trivial fun _ _ h₂ _ => afterCleanup_keeps h₂ _ _

theorem runBound_keeps (h : Follows s w) (execution : ReferenceTargetExecution) :
    Keeps x.contracts (runBound x execution) s w := by
  refine Safe.self ?_
  cases cleanupProvenance s.state with
  | none => exact quarantine_keeps h _
  | some cleanup =>
    refine Safe.ite (fun _ => quarantine_keeps h _) fun _ => Safe.ite (fun _ => ?_) fun _ => ?_
    · exact cleanupOld_keeps h _
    · exact afterCleanup_keeps h _ _

/-- **Every call of the restart is permitted**, however deep it goes, and it ends on the durable snapshot. -/
theorem run_keeps (execution : Option ReferenceTargetExecution) :
    ∀ (depth : Nat) {s : RuntimeJournalSnapshot} {w : World},
    Follows s w → Keeps x.contracts (run x execution depth) s w := by
  intro depth
  induction depth with
  | zero => intro s w _; trivial
  | succ depth ih =>
    intro s w h
    refine Safe.self (Safe.ite (fun _ => Safe.pure h) fun _ => Safe.ite (fun _ => ?_) fun _ => ?_)
    · refine Safe.bind (terminalizeAbortedNoEffects_keeps h) ?_
      intro _ s' w' h'
      exact ih h'
    · cases execution with
      | none => exact quarantine_keeps h _
      | some execution => exact runBound_keeps h execution

end Reassembly
end Control
end ParaEgox
