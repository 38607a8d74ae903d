import ParaEgox.CallContract

/-!
# ApplyContract — what the apply owner promises of its calls

Every call of `tryApply` is permitted where it is made: each commit is a builder's successor of the durable snapshot, and
each owner effect follows the commit that announces it.  The projection follows the store as long as the store runs.
-/
namespace ParaEgox
namespace Control

open Check Journal RuntimeJournalSnapshot Program

variable {c : Contracts} {w w' : World} {α β : Type}

/-! ## The projection of the apply owner -/

theorem AdmittedUnder.record {tenure : RuntimeTenureAdmissionInput} (h : AdmittedUnder c w tenure) (call : PortCall)
    (store : Store) : AdmittedUnder c (w.record call store) tenure := by
  obtain ⟨e, he, hlife, hadmits⟩ := h
  exact ⟨e, List.mem_cons_of_mem _ he, hlife, hadmits⟩

def Resident (c : Contracts) (core : RuntimeReferenceApplyCore) (w : World) : Prop :=
  ∀ tenure, core.residentFullAdmittedTenure = some tenure → AdmittedUnder c w tenure

/-- What a finished request leaves: a store that has stopped, or still the durable snapshot. -/
structure Aligned (c : Contracts) (core : RuntimeReferenceApplyCore) (w : World) : Prop where
  current : w.store.stopped = true ∨ core.state = w.store.durable
  resident : Resident c core w

structure Linked (c : Contracts) (task : Task) (core : RuntimeReferenceApplyCore) (w : World) : Prop where
  running : w.store.stopped = false
  current : core.state = w.store.durable
  resident : Resident c core w
  task : w.task = task

variable {core : RuntimeReferenceApplyCore} {task : Task}

theorem Resident.record (h : Resident c core w) (call : PortCall) (store : Store) :
    Resident c core (w.record call store) := fun tenure ht => (h tenure ht).record call store

theorem resident_none {state : RuntimeJournalSnapshot} : Resident c ⟨state, none⟩ w := by
  rintro _ ⟨⟩

theorem Linked.cleared (h : Linked c task core w) :
    Linked c task { core with residentFullAdmittedTenure := none } w := ⟨h.running, h.current, resident_none, h.task⟩

def applyTie (c : Contracts) (task : Task) : Tie c RuntimeReferenceApplyCore where
  view := RuntimeReferenceApplyCore.state
  linked := Linked c task
  left := Aligned c
  weaken h := ⟨.inr h.current, h.resident⟩
  running h := h.running
  current h := h.current
  record h := ⟨h.running, h.current, h.resident.record _ _, h.task⟩

/-- The snapshot the store is given is the successor of a builder this task may call. -/
def Offers (c : Contracts) (w : World) (next : RuntimeJournalSnapshot) : Prop :=
  ∃ b, allowed c w b ∧ Builder.call c w.store.durable b = .ok next

theorem Linked.offers (h : Linked c task core w) {b : Builder} (hb : allowed c w b) {next : RuntimeJournalSnapshot}
    (hcall : journaled (Builder.call c core.state b) = .ok next) : Offers c w next :=
  ⟨b, hb, h.current ▸ journaled_ok.1 hcall⟩

/-- A builder behind the slice of the prepared request. -/
theorem Linked.offersSliced {request : ReferenceApplyRequest}
    (h : Linked c task core w) {b : OpaqueCanonicalValue → Builder} (hb : ∀ slice, allowed c w (b slice))
    {next : RuntimeJournalSnapshot} (hcall : (referenceSlice core.state request >>= fun slice =>
      journaled (Builder.call c core.state (b slice))) = .ok next) : Offers c w next := by
  obtain ⟨slice, _, hcall⟩ := bind_ok.1 hcall
  exact h.offers (hb slice) hcall

namespace Apply

variable {x : Provision} {task : Task} {core : RuntimeReferenceApplyCore} {request : ReferenceApplyRequest}
  {preflight : RuntimeReferenceApplyPreflight} {action : JournalActionRef} {refs : RuntimeOneSourceResourceRefs}
  {good : β → RuntimeReferenceApplyCore → World → Prop}

/-- What a request that ends well leaves: a terminal it answers is the durable journal's. -/
structure Answers (c : Contracts) (task : Task) (request : ReferenceApplyRequest)
    (outcome : RuntimeReferenceApplyOutcome)
    (core : RuntimeReferenceApplyCore) (w : World) : Prop where
  linked : Linked c task core w
  durable : ∀ stored, outcome = .terminal stored → terminalReplay c core.state request = .ok (some stored)

/-- The job makes permitted calls only, and is still tied to the world when it ends. -/
abbrev Stands (x : Provision) (task : Task) (j : Apply α) (core : RuntimeReferenceApplyCore) (w : World) : Prop :=
  Safe (applyTie x.contracts task) j core w (Tied (applyTie x.contracts task))

/-- The job makes permitted calls only, and answers its request so. -/
abbrev Keeps (x : Provision) (task : Task) (request : ReferenceApplyRequest) (j : Apply RuntimeReferenceApplyOutcome)
    (core : RuntimeReferenceApplyCore) (w : World) : Prop :=
  Safe (applyTie x.contracts task) j core w (Answers x.contracts task request)

/-! ## Ports -/

theorem observe_then {clockGeneration : U64} {f : RuntimeDeadlineObservation → Apply β} (h : Linked c task core w)
    (hf : ∀ observation w', Linked c task core w' → Safe (applyTie c task) (f observation) core w' good) :
    Safe (applyTie c task) (observe clockGeneration >>= f) core w good :=
  Safe.asked h (.observe clockGeneration) (fun answer => answer) rfl trivial hf

variable {next start : RuntimeJournalSnapshot} {p : PreparedOperation}

theorem commitState_safe (h : Linked c task core w) (hnext : Offers c w next) :
    Safe (applyTie c task) (commitState next) core w fun _ core' w' =>
      core' = { core with state := next } ∧ w' = w.record (.commitSnapshot next) ⟨next, false⟩ := by
  refine (Job.meets_bind _ _).2 ((Job.meets_call (I := ports) (.commitSnapshot next)).2 ⟨⟨h.running, hnext⟩, ?_⟩)
  rintro answer w' ⟨store, hcommit, rfl⟩
  generalize hstore : w.store = old at hcommit
  cases hcommit with
  | published d accepted => exact ⟨rfl, rfl⟩
  | refused => exact ⟨.inl rfl, h.resident.record _ _⟩
  | uncertain d accepted => exact ⟨.inl rfl, h.resident.record _ _⟩

theorem advance_safe {step : RuntimeJournalSnapshot → Except RuntimeControlStateError RuntimeJournalSnapshot}
    (h : Linked c task core w) (hstep : ∀ next, step core.state = .ok next → Offers c w next) :
    Safe (applyTie c task) (advance step) core w fun _ core' w' =>
      Linked c task core' w' ∧ step core.state = .ok core'.state := by
  refine Safe.self (Safe.lifted h fun next hnext => (commitState_safe h (hstep next hnext)).mono ?_)
  rintro _ _ _ ⟨rfl, rfl⟩
  exact ⟨⟨rfl, rfl, h.resident.record _ _, h.task⟩, hnext⟩

theorem advance_then {step : RuntimeJournalSnapshot → Except RuntimeControlStateError RuntimeJournalSnapshot}
    {f : Unit → Apply β} (h : Linked c task core w) (hstep : ∀ next, step core.state = .ok next → Offers c w next)
    (hf : ∀ core' w', Linked c task core' w' → step core.state = .ok core'.state →
      Safe (applyTie c task) (f ()) core' w' good) : Safe (applyTie c task) (advance step >>= f) core w good :=
  Safe.bind (advance_safe h hstep) fun _ core' w' hmoved => hf core' w' hmoved.1 hmoved.2

/-! ## Readings -/

theorem prepared_then {f : PreparedOperation → Apply β} (h : Linked c task core w)
    (hf : ∀ p, core.state.state.prepared = some p → Safe (applyTie c task) (f p) core w good) :
    Safe (applyTie c task) (prepared >>= f) core w good :=
  (Job.meets_bind _ f).2 (Safe.self ((Job.meets_need _ _).2 ⟨hf, fun _ => (applyTie c task).weaken h⟩))

theorem startAction_then {f : JournalActionRef → Apply β} (h : Linked c task core w)
    (hf : ∀ action, StartIntended core.state.state action → Safe (applyTie c task) (f action) core w good) :
    Safe (applyTie c task) (startAction >>= f) core w good := by
  refine (Job.meets_bind _ f).2 (prepared_then h fun p hp => Safe.guarded h fun hphase => ?_)
  refine (Job.meets_need _ _).2 ⟨fun action haction => hf action ?_, fun _ => (applyTie c task).weaken h⟩
  rw [not_or, not_not, Bool.not_eq_true, Option.isSome_eq_false_iff, Option.isNone_iff_eq_none] at hphase
  exact .operation p hp hphase.1 (Option.filter_eq_some_iff.1 haction).1 hphase.2

theorem phaseOfRecords_ok {records : List OwnedResourceRecord} {phase : StartResourcePhase}
    (h : phaseOfRecords records = .ok phase) : phase ≠ .absent ∧ ∀ r ∈ records,
      (phase = .reserved → r.phase = .reserved) ∧ (phase = .owned → r.phase = .owned) := by
  unfold phaseOfRecords at h
  split at h
  · rename_i hall
    cases h
    exact ⟨by rintro ⟨⟩, fun r hr => ⟨fun _ => by simpa using List.all_eq_true.1 hall r hr, by rintro ⟨⟩⟩⟩
  · split at h
    · rename_i hall
      cases h
      exact ⟨by rintro ⟨⟩, fun r hr => ⟨by rintro ⟨⟩, fun _ => by simpa using List.all_eq_true.1 hall r hr⟩⟩
    · cases h

/-- **The pair of the plan, in the phase the journal has it in.** -/
theorem resourcePhase_ok {resources : List OwnedResourceRecord} {phase : StartResourcePhase}
    (h : resourcePhase resources action refs = .ok phase) :
    (phase = .reserved → PairIn resources action .reserved) ∧ (phase = .owned → PairIn resources action .owned) := by
  unfold resourcePhase at h
  dsimp only at h
  split at h
  · cases h
    exact ⟨by rintro ⟨⟩, by rintro ⟨⟩⟩
  · simp only [bind_ok, exists_unit, rejectIf_ok, not_or, not_not] at h
    obtain ⟨⟨_, hrecords⟩, ⟨⟨a, ha, hakind, _⟩, b, hb, hbkind, _⟩, hphase⟩ := h
    have hmem : ∀ r ∈ recordsOf resources action, r ∈ resources ∧ r.actionId = some action.actionId := by
      intro r hr
      simpa [recordsOf] using hr
    have hof : ∀ r ∈ recordsOf resources action,
        r.generation = action.resourceGeneration ∧ r.runtimeHostEpoch = action.runtimeHostEpoch := by
      intro r hr
      by_contra hne
      exact hrecords ⟨r, hr, not_and_or.1 hne⟩
    have hphases := (phaseOfRecords_ok hphase).2
    exact ⟨fun heq => ⟨⟨a, (hmem a ha).1, hakind, (hmem a ha).2, (hof a ha).1, (hof a ha).2, (hphases a ha).1 heq⟩,
        b, (hmem b hb).1, hbkind, (hmem b hb).2, (hof b hb).1, (hof b hb).2, (hphases b hb).1 heq⟩,
      fun heq => ⟨⟨a, (hmem a ha).1, hakind, (hmem a ha).2, (hof a ha).1, (hof a ha).2, (hphases a ha).2 heq⟩,
        b, (hmem b hb).1, hbkind, (hmem b hb).2, (hof b hb).1, (hof b hb).2, (hphases b hb).2 heq⟩⟩

theorem startResourcePhase_then {f : StartResourcePhase → Apply β} (h : Linked c task core w)
    (hf : ∀ phase, (phase = .reserved → PairIn core.state.state.ownedResources action .reserved) →
      (phase = .owned → PairIn core.state.state.ownedResources action .owned) →
      Safe (applyTie c task) (f phase) core w good) :
    Safe (applyTie c task) (startResourcePhase action refs >>= f) core w good := by
  refine (Job.meets_bind _ f).2 (Safe.self (Safe.lift h fun phase hphase => ?_))
  obtain ⟨hreserved, howned⟩ := resourcePhase_ok hphase
  exact hf phase hreserved howned

theorem preview_then {step : RuntimeJournalSnapshot → Res RuntimeTerminalPreview} {f : RuntimeTerminalPreview → Apply β}
    (h : Linked c task core w) (hf : ∀ facts, Safe (applyTie c task) (f facts) core w good) :
    Safe (applyTie c task) (preview step >>= f) core w good :=
  (Job.meets_bind _ f).2 (Safe.self (Safe.lift h fun facts _ => hf facts))

/-! ## Terminals -/

variable {selection : RuntimeDeadlineObservation} {facts : RuntimeTerminalPreview}

theorem completedOutcome_keeps (h : Linked x.contracts task core w) :
    Keeps x task request (completedOutcome x request) core w :=
  (Job.meets_bind _ _).2 (Safe.self (Safe.lift h fun _ hreplay => Safe.needed h fun _ hstored => Safe.pure
    ⟨h, fun _ heq => RuntimeReferenceApplyOutcome.terminal.inj heq ▸ hstored ▸ hreplay⟩))

/-- **A terminal**: whatever is signed, what is committed is a builder's successor. -/
theorem finish_keeps (h : Linked x.contracts task core w)
    {step : RuntimeJournalSnapshot → RuntimeTerminalInput → Except RuntimeControlStateError RuntimeJournalSnapshot}
    (hstep : ∀ terminal next, step core.state terminal = .ok next → Offers x.contracts w next) :
    Keeps x task request (finish x request selection facts step) core w := by
  refine (Job.meets_bind _ _).2 ((Job.meets_bind _ _).2 (Safe.lift h fun receipt _ => Safe.lift h fun terminal _ => ?_))
  exact advance_then h (hstep terminal) fun _ _ h' _ => completedOutcome_keeps h'

theorem finishNoEffectDeadline_keeps (h : Linked x.contracts task core w) :
    Keeps x task request (finishNoEffectDeadline x request selection) core w :=
  preview_then h fun _ => finish_keeps h fun terminal _ =>
    h.offersSliced (b := fun _ => .noEffectDeadline terminal) fun _ => trivial

theorem finishOneSourcePostIntentTimeout_keeps (h : Linked x.contracts task core w) :
    Keeps x task request (finishOneSourcePostIntentTimeout x request selection) core w :=
  preview_then h fun _ => finish_keeps h fun terminal _ =>
    h.offersSliced (b := fun _ => .oneSourcePostIntentTimeout terminal) fun _ => trivial

/-! ## A one-source start -/

/-- **The callback is called with its intent and its owned resources durable.** -/
theorem startOwned_keeps (h : Linked x.contracts task core w) (hintent : StartIntended core.state.state action)
    (howned : PairIn core.state.state.ownedResources action .owned) :
    Keeps x task request (startOwned x request action) core w := by
  refine Safe.asked h (.startOneSourceOnce action) (fun answer => answer) rfl ?_ fun _ w₁ h₁ =>
    prepared_then h₁ fun p _ => observe_then h₁ fun selection w₂ h₂ => preview_then h₂ fun _ => finish_keeps h₂ ?_
  · rw [← h.current]
    exact ⟨hintent, howned⟩
  · exact fun terminal _ => h₂.offersSliced (b := fun slice => .oneSourceSuccess slice _ terminal) fun _ => trivial

/-- A builder that only moves resources keeps the intent. -/
theorem startIntended_of_eq {s s' : RuntimeJournalState} (h : StartIntended s action) (hp : s'.prepared = s.prepared)
    (hr : s'.recoveryAction = s.recoveryAction) : StartIntended s' action := by
  cases h with
  | operation p hprepared phase ha latch => exact .operation p (hp.trans hprepared) phase ha latch
  | recovery r hrecovery phase ha latch => exact .recovery r (hr.trans hrecovery) phase ha latch

theorem reserved_intended {s s' : RuntimeJournalSnapshot} (h : StartIntended s.state action)
    (hcall : Builder.call c s (.reserveOneSourceResources refs) = .ok s') : StartIntended s'.state action := by
  simp only [Builder.call, tryReserveOneSourceResourcesSuccessor, bind_ok, exists_unit] at hcall
  obtain ⟨_, _, _, _, _, state, hstate, hnew⟩ := hcall
  obtain ⟨census, rfl⟩ := withResources_ok hstate
  rw [(tryValidatedSuccessor_ok hnew).2]
  exact startIntended_of_eq h rfl rfl

theorem owned_intended {s s' : RuntimeJournalSnapshot} {input : RuntimeOneSourceOwnershipInput}
    (h : StartIntended s.state action) (hcall : Builder.call c s (.ownOneSourceResources input) = .ok s') :
    StartIntended s'.state action := by
  simp only [Builder.call, tryOwnOneSourceResourcesSuccessor, bind_ok] at hcall
  obtain ⟨_, _, _, _, state, hstate, hnew⟩ := hcall
  obtain ⟨census, rfl⟩ := withResources_ok hstate
  rw [(tryValidatedSuccessor_ok hnew).2]
  exact startIntended_of_eq h rfl rfl

theorem ownReserved_safe (h : Linked x.contracts task core w) (hintent : StartIntended core.state.state action) :
    Safe (applyTie x.contracts task) (ownReserved x action refs) core w fun _ core' w' =>
      Linked x.contracts task core' w' ∧ StartIntended core'.state.state action := by
  refine startResourcePhase_then h fun phase hreserved _ => Safe.ite (fun hphase => ?_) fun _ => Safe.pure ⟨h, hintent⟩
  refine Safe.asked h (.materializeOneSource action refs) (fun answer => answer) rfl ?_ fun ownership w' h' =>
    (advance_safe h' fun _ => h'.offers (b := .ownOneSourceResources ownership) trivial).mono fun _ core' _ hmoved => ?_
  · rw [← h.current]
    exact ⟨hintent, hreserved hphase⟩
  · exact ⟨hmoved.1, owned_intended hintent (journaled_ok.1 hmoved.2)⟩

theorem materializeAndStart_keeps (h : Linked x.contracts task core w)
    (hintent : StartIntended core.state.state action) :
    Keeps x task request (materializeAndStart x request action refs) core w := by
  refine Safe.bind (ownReserved_safe h hintent) ?_
  rintro _ core' w' ⟨h', hintent'⟩
  refine startResourcePhase_then h' fun phase _ howned => Safe.guarded h' fun hphase => ?_
  exact startOwned_keeps h' hintent' (howned (not_not.1 hphase))

theorem reserveAndStart_keeps (h : Linked x.contracts task core w) (hintent : StartIntended core.state.state action) :
    Keeps x task request (reserveAndStart x request action refs) core w := by
  refine prepared_then h fun p _ => observe_then h fun postIntent w₁ h₁ =>
    Safe.ite (fun _ => finishOneSourcePostIntentTimeout_keeps h₁) fun _ => ?_
  refine advance_then h₁ (fun _ => h₁.offers (b := .reserveOneSourceResources refs) trivial) fun core' w' h' hcall => ?_
  exact materializeAndStart_keeps h' (reserved_intended hintent (journaled_ok.1 hcall))

theorem continueStart_keeps (h : Linked x.contracts task core w) :
    Keeps x task request (continueStart x request) core w := by
  refine startAction_then h fun action hintent => Safe.asked h (.prepareOneSource request (some action))
    (fun answer => answer) rfl trivial fun plan w₁ h₁ => Safe.lifted h₁ fun _ _ =>
      startResourcePhase_then h₁ fun phase _ _ => Safe.ite (fun _ => ?_) fun _ => ?_
  · exact reserveAndStart_keeps h₁ hintent
  · exact materializeAndStart_keeps h₁ hintent

theorem intendStart_keeps (h : Linked x.contracts task core w) :
    Keeps x task request (intendStart x request p) core w := by
  refine observe_then h fun preIntent w₁ h₁ => Safe.ite (fun _ => finishNoEffectDeadline_keeps h₁) fun _ =>
    Safe.asked h₁ (.prepareOneSource request none) (fun answer => answer) rfl trivial fun plan w₂ h₂ =>
      Safe.lifted h₂ fun _ _ => advance_then h₂ ?_ fun _ _ h' _ => continueStart_keeps h'
  exact fun _ => h₂.offers (b := .oneSourceIntent (startInput plan preIntent)) trivial

theorem executeOneSource_keeps (h : Linked x.contracts task core w) :
    Keeps x task request (executeOneSource x request) core w :=
  prepared_then h fun _ _ => Safe.guarded h fun _ => Safe.ite (fun _ => intendStart_keeps h) fun _ =>
    continueStart_keeps h

/-! ## An empty retire -/

theorem latchEmpty_keeps (h : Linked x.contracts task core w) (observation : RuntimeDeadlineObservation) :
    Stands x task (advance fun self => journaled (Builder.call x.contracts self (.latchEmptySuccess observation)))
      core w :=
  (advance_safe h fun _ => h.offers (b := .latchEmptySuccess observation) trivial).mono fun _ _ _ hmoved => hmoved.1

theorem stopRetiring_keeps (h : Linked x.contracts task core w)
    (hintent : StopIntended core.state.state action) : Stands x task (stopRetiring x p action) core w := by
  refine observe_then h fun preStop w₁ h₁ => Safe.asked h₁ (.stopOneSourceOnce action) (fun answer => answer) rfl ?_
    fun _ w₂ h₂ => Safe.ite (fun _ => latchEmpty_keeps h₂ preStop) fun _ => ?_
  · rw [← h₁.current]
    exact hintent
  · exact observe_then h₂ fun observation _ h₃ => latchEmpty_keeps h₃ observation

theorem cleanupRetiring_keeps (h : Linked x.contracts task core w) :
    Keeps x task request (cleanupRetiring x request action) core w := by
  refine Safe.asked h (.cleanupOneSourceOnce action) (fun answer => answer) rfl trivial fun tombstones w₁ h₁ =>
    prepared_then h₁ fun p _ => observe_then h₁ fun selection w₂ h₂ => preview_then h₂ fun _ => finish_keeps h₂ ?_
  exact fun terminal _ => h₂.offers (b := .emptyExactZero (some tombstones) terminal) trivial

theorem continueRetire_keeps (h : Linked x.contracts task core w) :
    Keeps x task request (continueRetire x request) core w := by
  refine prepared_then h fun p hp => Safe.guarded h fun hphase => Safe.needed h fun action haction =>
    Safe.needed h fun retiring _ => Safe.asked h (.prepareEmptyRetire _ _ _) (fun answer => answer) rfl trivial
      fun plan w₁ h₁ => Safe.guarded h₁ fun _ => Safe.via (Tied (applyTie x.contracts task))
        (Safe.ite (fun hlatch => ?_) fun _ => Safe.pure h₁) fun _ _ _ h₂ => cleanupRetiring_keeps h₂
  exact stopRetiring_keeps h₁ ⟨p, hp, not_not.1 hphase, (Option.filter_eq_some_iff.1 haction).1, hlatch⟩

theorem intendRetire_keeps (h : Linked x.contracts task core w) {preIntent : RuntimeDeadlineObservation} :
    Keeps x task request (intendRetire x request preIntent) core w := by
  refine (Job.meets_bind _ _).2 (Safe.self ((Job.meets_need _ _).2 ⟨fun facts _ => ?_, fun _ =>
    (applyTie x.contracts task).weaken h⟩))
  refine Safe.asked h (.prepareEmptyRetire _ _ _) (fun answer => answer) rfl trivial fun plan w₁ h₁ =>
    advance_then h₁ (fun next hnext => ?_) fun _ _ h₂ _ => continueRetire_keeps h₂
  exact h₁.offersSliced (b := fun slice => .emptyHeadRetire ⟨plan.actionId, slice, _, preIntent⟩)
    (fun _ => trivial) hnext

theorem intendEmpty_keeps (h : Linked x.contracts task core w) :
    Keeps x task request (intendEmpty x request p) core w := by
  refine observe_then h fun preIntent w₁ h₁ => Safe.ite (fun _ => finishNoEffectDeadline_keeps h₁) fun _ => Safe.self ?_
  cases core.state.tryPreviewEmptyExactZeroFastPath x.contracts preIntent with
  | ok facts => exact finish_keeps h₁ fun terminal _ =>
      h₁.offersSliced (b := fun slice => .emptyExactZeroFastPath slice terminal) fun _ => trivial
  | error _ => exact intendRetire_keeps h₁

theorem executeEmpty_keeps (h : Linked x.contracts task core w) : Keeps x task request (executeEmpty x request) core w :=
  prepared_then h fun _ _ => Safe.guarded h fun _ => Safe.ite (fun _ => intendEmpty_keeps h) fun _ =>
    continueRetire_keeps h

theorem execute_keeps (h : Linked x.contracts task core w) : Keeps x task request (execute x request) core w := by
  unfold execute
  split
  · exact executeOneSource_keeps h
  · exact executeEmpty_keeps h

/-! ## Admission -/

/-- **When a full admission may follow**: its input is the request's own, and where the tenure was durable before the
request, this process has admitted under it. -/
structure Capable (c : Contracts) (request : ReferenceApplyRequest) (preflight : RuntimeReferenceApplyPreflight)
    (start : RuntimeJournalSnapshot) (core : RuntimeReferenceApplyCore) (w : World)
    (capability : RuntimePreparedReferenceAdmission) : Prop where
  input : tryReferenceAdmissionInput c start request preflight = .ok capability.admission
  admitted : fullAdmissionStatus core.state.state capability.admission = .new →
    tenureAdmissionStatus start.state capability.admission.tenure = .exact →
      AdmittedUnder c w capability.admission.tenure

theorem commitFull_safe
    (h : Linked x.contracts (.apply request preflight start) core w) {capability : RuntimePreparedReferenceAdmission}
    (hcapable : Capable x.contracts request preflight start core w capability) {full : RuntimeControlTransition}
    (hfull : tryReferenceFullAdmission x.contracts core.state capability = .ok full) :
    Stands x (.apply request preflight start) (commitFull full capability.admission.tenure) core w := by
  refine Safe.ite (fun hcommitted => ?_) fun _ => Safe.pure h
  simp only [tryReferenceFullAdmission, bind_ok, exists_unit, rejectIf_ok, not_not, admitStatus] at hfull
  obtain ⟨_, _, hfull⟩ := hfull
  split at hfull
  · cases hfull
    cases hcommitted
  · cases hfull
  rename_i hnew
  simp only [bind_ok, journaled_ok, pure_ok] at hfull
  obtain ⟨next, hcall, rfl⟩ := hfull
  have hallowed : allowed x.contracts w (.fullAdmission capability.admission) :=
    ⟨request, preflight, start, h.task, hcapable.input, hcapable.admitted hnew⟩
  refine Safe.bind (commitState_safe h (h.offers hallowed (journaled_ok.2 hcall))) ?_
  rintro _ _ _ ⟨rfl, rfl⟩
  refine (Job.meets_update _).2 ⟨rfl, rfl, fun tenure htenure => ?_, h.task⟩
  refine ⟨_, List.mem_cons_self, rfl, capability.admission, ⟨request, preflight, start, h.task, rfl, hcapable.input, ?_⟩,
    Option.some.inj htenure⟩
  exact h.current ▸ hcall

theorem admitAndExecute_safe
    (h : Linked x.contracts (.apply request preflight start) core w) {capability : RuntimePreparedReferenceAdmission}
    (hcapable : Capable x.contracts request preflight start core w capability) :
    Keeps x (.apply request preflight start) request (admitAndExecute x request capability) core w := by
  refine Safe.self (Safe.lifted h fun full hfull => Safe.bind (commitFull_safe h hcapable hfull) ?_)
  intro _ _ _ hlinked
  exact execute_keeps hlinked

/-- What the tenure transition of a request is: its admission is durable, its tenure is, or its tenure is new. -/
theorem tryReferenceTenureOnly_ok {tenure : RuntimeControlTransition}
    (h : tryReferenceTenureOnly c start request preflight = .ok tenure) :
    ∃ input, tryReferenceAdmissionInput c start request preflight = .ok input ∧
      ((fullAdmissionStatus start.state input = .exact ∧ tenure = ⟨start, .alreadyDurable, some ⟨input, start⟩⟩) ∨
        tenure = ⟨start, .alreadyDurable, none⟩ ∨
        tenureAdmissionStatus start.state input.tenure = .new ∧ ∃ next,
          Builder.call c start (.tenureOnly input.tenure) = .ok next ∧
            tenure = ⟨next, .committed, some ⟨input, next⟩⟩) := by
  simp only [tryReferenceTenureOnly, bind_ok] at h
  obtain ⟨input, hinput, h⟩ := h
  refine ⟨input, hinput, ?_⟩
  split at h
  · unfold durableTenureTransition at h
    split at h
    · rename_i hexact
      cases h
      exact .inl ⟨hexact, rfl⟩
    · cases h
      exact .inr (.inl rfl)
    · cases h
  · cases h
  · rename_i hnew
    simp only [newTenureTransition, bind_ok, journaled_ok, pure_ok] at h
    obtain ⟨next, hcall, rfl⟩ := h
    exact .inr (.inr ⟨hnew, next, hcall, rfl⟩)

theorem commitTenure_safe (h : Linked x.contracts task core w)
    {ready : Option RuntimePreparedReferenceAdmission} (hnext : Offers x.contracts w next) :
    Safe (applyTie x.contracts task) (commitTenure ⟨next, .committed, ready⟩) core w fun _ core' w' =>
      core' = ⟨next, none⟩ ∧ w' = w.record (.commitSnapshot next) ⟨next, false⟩ := by
  refine Safe.ite (fun _ => ?_) fun hne => absurd rfl hne
  exact (Job.meets_bind _ _).2 ((Job.meets_update _).2 (commitState_safe h.cleared hnext))

theorem commitTenure_durable_then {ready : Option RuntimePreparedReferenceAdmission}
    {f : Unit → Apply β} : (commitTenure ⟨next, .alreadyDurable, ready⟩ >>= f) = f () := by
  have hdurable : commitTenure ⟨next, .alreadyDurable, ready⟩ = Pure.pure () := if_neg nofun
  rw [hdurable]
  rfl

/-- The resident tenure is taken, and continues into an admission only where it is the request's own. -/
theorem continuation_safe (h : Linked x.contracts (.apply request preflight core.state) core w) :
    Safe (applyTie x.contracts (.apply request preflight core.state)) (admissionCapability x request preflight none)
      core w
      fun capability core' w' => Linked x.contracts (.apply request preflight core.state) core' w' ∧
        ∀ ready, capability = some ready → Capable x.contracts request preflight core.state core' w' ready := by
  refine Safe.self ((Job.meets_bind _ _).2 ((Job.meets_update _).2 ?_))
  have hcleared : Linked x.contracts (.apply request preflight core.state)
      { core with residentFullAdmittedTenure := none } w := h.cleared
  cases hresident : core.residentFullAdmittedTenure with
  | none => exact ⟨hcleared, by rintro _ ⟨⟩⟩
  | some resident =>
    refine Safe.lift hcleared fun capability hcapability => ⟨hcleared, ?_⟩
    rintro ready rfl
    simp only [tryReferenceResidentTenureContinuation, bind_ok] at hcapability
    obtain ⟨input, hinput, hcapability⟩ := hcapability
    split at hcapability
    · cases hcapability
    · rename_i hsame
      simp only [bind_ok, exists_unit, pure_ok, Option.some.injEq] at hcapability
      obtain ⟨_, rfl⟩ := hcapability
      exact ⟨hinput, fun _ _ => not_not.1 hsame ▸ h.resident resident hresident⟩

theorem applyFresh_safe (h : Linked x.contracts (.apply request preflight core.state) core w) :
    Keeps x (.apply request preflight core.state) request (applyFresh x request preflight) core w := by
  refine Safe.self (Safe.lifted h fun tenure htenure => ?_)
  obtain ⟨input, hinput, ⟨hexact, rfl⟩ | rfl | ⟨hnew, next, hcall, rfl⟩⟩ := tryReferenceTenureOnly_ok htenure
  · rw [commitTenure_durable_then]
    refine admitAndExecute_safe h ⟨hinput, fun hstatus => ?_⟩
    rw [hexact] at hstatus
    cases hstatus
  · rw [commitTenure_durable_then]
    refine Safe.via _ (continuation_safe h) ?_
    rintro capability core' w' ⟨hlinked, hcapable⟩
    cases capability with
    | none => exact Safe.pure ⟨hlinked, by rintro _ ⟨⟩⟩
    | some ready => exact admitAndExecute_safe hlinked (hcapable ready rfl)
  · refine Safe.bind (commitTenure_safe h (h.offers
    (b := .tenureOnly input.tenure) ⟨request, preflight, _, input, h.task, hinput, rfl, hnew⟩
    (journaled_ok.2 hcall))) ?_
    rintro _ _ _ ⟨rfl, rfl⟩
    have hlinked : Linked x.contracts (.apply request preflight core.state) ⟨next, none⟩
        (w.record (.commitSnapshot next) ⟨next, false⟩) := ⟨rfl, rfl, resident_none, h.task⟩
    refine admitAndExecute_safe hlinked ⟨hinput, fun _ hexact => ?_⟩
    rw [hnew] at hexact
    cases hexact

theorem currentSnapshot_ok {store : Store} {current : RuntimeJournalSnapshot}
    (h : (if store.stopped then Except.error .unavailable else .ok store.durable :
      Except RuntimeReferenceApplyStoreError RuntimeJournalSnapshot) = .ok current) :
    store.stopped = false ∧ store.durable = current := by
  cases hstopped : store.stopped with
  | false =>
    rw [hstopped, if_neg Bool.false_ne_true] at h
    exact ⟨rfl, Except.ok.inj h⟩
  | true =>
    rw [hstopped, if_pos rfl] at h
    cases h

theorem currentSnapshot_error {store : Store} {e : RuntimeReferenceApplyStoreError}
    (h : (if store.stopped then Except.error .unavailable else .ok store.durable :
      Except RuntimeReferenceApplyStoreError RuntimeJournalSnapshot) = .error e) : store.stopped = true := by
  by_contra hrunning
  rw [if_neg hrunning] at h
  cases h

def afterReplay (x : Provision) (request : ReferenceApplyRequest) (preflight : RuntimeReferenceApplyPreflight) :
    Apply RuntimeReferenceApplyOutcome := do
  let replay ← tryTerminalReplay x request
  match replay with
  | some stored => Pure.pure (.terminal stored)
  | none => applyFresh x request preflight

/-- A request reads the store first, and goes on only where it runs and holds the projected snapshot. -/
theorem tryApply_meets {may : PortCall → World → Prop}
    {good : RuntimeReferenceApplyOutcome → RuntimeReferenceApplyCore → World → Prop}
    {bad : RuntimeReferenceApplyError → RuntimeReferenceApplyCore → World → Prop} (hread : may .currentSnapshot w)
    (hchannel : preflight.responseChannel ≠ x.channel → bad (.state .preflightRejected) core w)
    (hbad : w.store.stopped = true ∨ core.state ≠ w.store.durable → ∀ e, bad e core (w.record .currentSnapshot w.store))
    (hgo : w.store.stopped = false → core.state = w.store.durable → Job.Meets (reacts x.contracts) may
      (afterReplay x request preflight) core (w.record .currentSnapshot w.store) good bad) :
    Job.Meets (reacts x.contracts) may (tryApply x request preflight) core w good bad := by
  refine (Job.meets_bind _ _).2 ((Job.meets_rejectIf _ _).2 ⟨fun _ => ?_, hchannel⟩)
  refine (Job.meets_bind _ _).2 ((Job.meets_bind _ _).2 ((Job.meets_bind _ _).2
    ((Job.meets_call (I := ports) .currentSnapshot).2 ⟨hread, ?_⟩)))
  rintro answer w' ⟨store, ⟨rfl, rfl⟩, rfl⟩
  refine (Job.meets_bind _ _).2 ((Job.meets_lift _ _).2 ⟨fun current hcurrent => ?_, fun e he => ?_⟩)
  · obtain ⟨hrunning, rfl⟩ := currentSnapshot_ok hcurrent
    refine (Job.meets_bind _ _).2 ((Job.meets_rejectIf _ _).2 ⟨fun hsame => ?_, fun hne => hbad (.inr (Ne.symm hne)) _⟩)
    exact (Job.meets_bind _ _).1 (hgo hrunning (not_not.1 hsame).symm)
  · exact hbad (.inl (currentSnapshot_error he)) _

/-- A terminal that was answered is the durable journal's for the request in hand. -/
def Answered (c : Contracts) (w : World) (outcome : RuntimeReferenceApplyOutcome) : Prop :=
  ∀ stored, outcome = .terminal stored → ∃ request preflight start, w.task = .apply request preflight start ∧
    terminalReplay c w.store.durable request = .ok (some stored)

/-- **Every call of `tryApply` is permitted**, whatever the ports answer, its projection stays aligned with the store, and
what it answers is durable. -/
theorem tryApply_safe (h : Aligned x.contracts core w) (htask : w.task = .apply request preflight core.state) :
    Job.Meets (reacts x.contracts) (permitted x.contracts) (tryApply x request preflight) core w
      (fun outcome core w => Aligned x.contracts core w ∧ Answered x.contracts w outcome)
      fun _ => Aligned x.contracts := by
  have hleft : Aligned x.contracts core (w.record .currentSnapshot w.store) := ⟨h.current, h.resident.record _ _⟩
  refine tryApply_meets trivial (fun _ => h) (fun _ _ => hleft) fun hrunning hsame => ?_
  have hlinked : Linked x.contracts (.apply request preflight core.state) core (w.record .currentSnapshot w.store) :=
    ⟨hrunning, hsame, hleft.resident, htask⟩
  have hsafe : Keeps x (.apply request preflight core.state) request (afterReplay x request preflight) core
      (w.record .currentSnapshot w.store) := by
    refine (Job.meets_bind _ _).2 (Safe.self (Safe.lift hlinked fun replay hreplay => ?_))
    cases replay with
    | some stored => exact ⟨hlinked, fun _ heq => RuntimeReferenceApplyOutcome.terminal.inj heq ▸ hreplay⟩
    | none => exact applyFresh_safe hlinked
  refine hsafe.mono fun _ core' w' h => ⟨(applyTie x.contracts _).weaken h.linked, fun stored heq => ?_⟩
  exact ⟨request, preflight, core.state, h.linked.task, h.linked.current ▸ h.durable stored heq⟩

end Apply
end Control
end ParaEgox
