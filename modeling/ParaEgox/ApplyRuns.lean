import ParaEgox.ApplyState

/-!
# ApplyRuns — apply control over whole runs

A journal stores the next state of every accepted transition atomically with its operation record, and hands each reducer
the record it has stored for the operation.  One invariant ties the prepared operation, the fence and the table together;
fencing, activation, supersession and replay are read off it for every order of commands.
-/
namespace ParaEgox
namespace ApplyState

open Check

/-! ## The stored state -/

structure Stored where
  state : ApplyControlState
  operations : Ref16 → Option OperationRecord

namespace Stored

def initial (sourceScope target : Ref16) : Stored := ⟨.new sourceScope target, fun _ => none⟩

def put (s : Stored) (state : ApplyControlState) (r : OperationRecord) : Stored :=
  ⟨state, Function.update s.operations r.operationId (some r)⟩

def putSuperseded (s : Stored) (state : ApplyControlState) : Option OperationRecord → Stored
  | none => ⟨state, s.operations⟩
  | some r => s.put state r

end Stored

inductive Command
  | writerFence (admitted : AdmittedApply) (reading : ClockReading)
  | prepare (admitted : AdmittedApply) (reading : ClockReading)
  | activate (operationId : Ref16) (ready : PreparationReadyFact) (reading : ClockReading)

def Command.Admitted (requests : AdmittedApply → Prop) : Command → Prop
  | writerFence admitted _ | prepare admitted _ => requests admitted
  | activate .. => True

namespace Stored

def activateStored (sha256 : Sha256) (s : Stored) (ready : PreparationReadyFact) (reading : ClockReading) :
    Option OperationRecord → Except ApplyRejection Stored
  -- no record of the operation: there is nothing to evaluate
  | none => pure s
  | some operation => do
    let t ← evaluateActivate sha256 s.state operation ready reading
    pure (s.put t.nextState t.operation)

def evaluate (sha256 : Sha256) (s : Stored) : Command → Except ApplyRejection Stored
  | .writerFence admitted reading => do
    let t ← evaluateWriterFence sha256 s.state admitted reading
    pure (s.putSuperseded t.nextState t.supersededOperation)
  | .prepare admitted reading => do
    let t ← evaluatePrepare sha256 s.state admitted (s.operations admitted.payload.control.operationId) reading
    pure (s.put t.nextState t.operation)
  | .activate operationId ready reading => activateStored sha256 s ready reading (s.operations operationId)

def step (sha256 : Sha256) (s : Stored) (command : Command) : Stored :=
  match s.evaluate sha256 command with
  | .ok s' => s'
  | .error _ => s

def run (sha256 : Sha256) (s : Stored) (commands : List Command) : Stored := commands.foldl (step sha256) s

end Stored

/-! ## What the checks say -/

/-- What `ensure_control_state_consistent` accepts. -/
structure Consistent (sha256 : Sha256) (s : ApplyControlState) : Prop where
  fenced : s.active.isSome → s.writerFence ≠ none
  active : ∀ a, s.active = some a → a.slice.validate sha256 = .ok () ∧ ownSlice s a.slice
  prepared : ∀ p, s.prepared = some p → p.incoming.validate sha256 = .ok () ∧ ownSlice s p.incoming
    ∧ s.writerFence = some p.writerFence ∧ expectedActiveMatches s p.expectedActive = true
    ∧ ¬ revisionStale s p.incoming

theorem ensureControlStateConsistent_ok (sha256 : Sha256) (s : ApplyControlState) (u : Unit) :
    ensureControlStateConsistent sha256 s = .ok u ↔ Consistent sha256 s := by
  simp only [ensureControlStateConsistent, validateStoredSlice, bind_ok, rejectIf_ok, whenSome_ok, wrapErr_ok, exists_unit,
    not_or, not_and, not_not, ne_eq, Option.isNone_iff_eq_none]
  constructor
  · rintro ⟨hfence, hactive, hprepared⟩
    refine ⟨hfence, hactive, fun p hp => ?_⟩
    obtain ⟨hvalid, ⟨hown, hw, hcas⟩, hrev⟩ := hprepared p hp
    exact ⟨hvalid, hown, hw, hcas, hrev⟩
  · rintro ⟨hfence, hactive, hprepared⟩
    refine ⟨hfence, hactive, fun p hp => ?_⟩
    obtain ⟨hvalid, hown, hw, hcas, hrev⟩ := hprepared p hp
    exact ⟨hvalid, ⟨hown, hw, hcas⟩, hrev⟩

/-- **What the writer fence can do**: install a first fence, keep the current one, or advance it and supersede the
prepared operation. -/
inductive FenceStep (s : ApplyControlState) (tenure : VerifiedWriterTenure) (t : FenceTransition) : Prop
  | first (unfenced : s.writerFence = none) (next : t = ⟨{ s with writerFence := some tenure.fence }, .advanced, none⟩)
  | kept (fence : s.writerFence = some tenure.fence) (next : t = ⟨s, .kept, none⟩)
  | advanced (current : WriterFence) (fence : s.writerFence = some current) (newer : current.epoch < tenure.epoch)
      (next : t = ⟨{ s with writerFence := some tenure.fence, prepared := none }, .advanced,
        s.prepared.map fun p => s.operation p.operationId p.requestDigest .superseded⟩)

theorem evaluateOverFence_ok {s : ApplyControlState} {admitted : AdmittedApply} {reading : ClockReading}
    {current : WriterFence} {t : FenceTransition} (hcurrent : s.writerFence = some current)
    (h : evaluateOverFence s admitted reading current = .ok t) : FenceStep s admitted.tenure t := by
  unfold evaluateOverFence at h
  dsimp only at h
  split at h
  · cases h
  · rename_i hstale
    split at h
    · simp only [bind_ok, rejectIf_ok, exists_unit, pure_ok, ne_eq, not_not] at h
      obtain ⟨hsame, _, rfl⟩ := h
      exact .kept (hcurrent.trans (congrArg some hsame)) rfl
    · rename_i hne
      simp only [bind_ok, rejectIf_ok, exists_unit, pure_ok] at h
      obtain ⟨_, _, rfl⟩ := h
      refine .advanced current hcurrent ?_ rfl
      have hle := Nat.le_of_not_lt hstale
      exact lt_of_le_of_ne hle (Ne.symm hne)

theorem evaluateWriterFence_ok {sha256 : Sha256} {s : ApplyControlState} {admitted : AdmittedApply}
    {reading : ClockReading} {t : FenceTransition} (h : evaluateWriterFence sha256 s admitted reading = .ok t) :
    FenceStep s admitted.tenure t := by
  unfold evaluateWriterFence at h
  simp only [bind_ok, rejectIf_ok, exists_unit, ensureControlStateConsistent_ok] at h
  obtain ⟨_, _, h⟩ := h
  split at h
  · rename_i hnone
    simp only [bind_ok, exists_unit, pure_ok] at h
    obtain ⟨_, rfl⟩ := h
    exact .first hnone rfl
  · rename_i current hcurrent
    exact evaluateOverFence_ok hcurrent h

/-- **What a preparation can do**: answer with the record, or prepare a new operation. -/
inductive PrepareStep (sha256 : Sha256) (s : ApplyControlState) (admitted : AdmittedApply)
    (prior : Option OperationRecord) (t : PrepareTransition) : Prop
  | replayed (existing : OperationRecord) (found : prior = some existing)
      (next : t = ⟨s, existing, .replayed existing.phase⟩)
  | prepared (unknown : prior = none) (valid : admitted.payload.validate sha256 = .ok ())
      (own : ownSlice s admitted.payload.slice) (fence : s.writerFence = some admitted.tenure.fence)
      (cas : expectedActiveMatches s admitted.payload.control.expectedActive = true)
      (newer : ¬ revisionStale s admitted.payload.slice) (free : s.prepared = none)
      (next : t = ⟨{ s with prepared := some (preparedOf admitted admitted.tenure.fence) },
        s.operation admitted.payload.control.operationId admitted.requestDigest .prepared, .prepared⟩)

theorem evaluatePrepare_ok {sha256 : Sha256} {s : ApplyControlState} {admitted : AdmittedApply}
    {prior : Option OperationRecord} {reading : ClockReading} {t : PrepareTransition}
    (h : evaluatePrepare sha256 s admitted prior reading = .ok t) : PrepareStep sha256 s admitted prior t := by
  simp only [evaluatePrepare, bind_ok, wrapErr_ok, rejectIf_ok, exists_unit, ne_eq, not_not] at h
  obtain ⟨hvalid, htarget, hscope, _, h⟩ := h
  cases prior with
  | some existing =>
    simp only [replayPrepare, bind_ok, exists_unit, pure_ok] at h
    obtain ⟨_, _, _, _, rfl⟩ := h
    exact .replayed existing rfl rfl
  | none =>
    simp only [freshPrepare, matchingWriterFence, bind_ok, rejectIf_ok, exists_unit, pure_ok, ne_eq, not_not,
      Option.not_isSome_iff_eq_none] at h
    obtain ⟨_, _, ⟨hfence, rfl⟩, hcas, hnewer, hfree, rfl⟩ := h
    exact .prepared rfl hvalid ⟨htarget, hscope⟩ hfence hcas hnewer hfree rfl

/-- **What an activation can do**: answer with an active record, or activate the prepared operation. -/
inductive ActivateStep (s : ApplyControlState) (operation : OperationRecord) (t : ActivateTransition) : Prop
  | replayed (active : operation.phase = .active) (next : t = ⟨s, operation, .replayed⟩)
  | activated (prepared : operation.phase = .prepared) (p : PreparedControl) (hp : s.prepared = some p)
      (id : p.operationId = operation.operationId) (digest : p.requestDigest = operation.requestDigest)
      (next : t = ⟨{ s with active := some ⟨p.incoming⟩, prepared := none },
        s.operation operation.operationId operation.requestDigest .active, .activated⟩)

theorem evaluateActivate_ok {sha256 : Sha256} {s : ApplyControlState} {operation : OperationRecord}
    {ready : PreparationReadyFact} {reading : ClockReading} {t : ActivateTransition}
    (h : evaluateActivate sha256 s operation ready reading = .ok t) : ActivateStep s operation t := by
  simp only [evaluateActivate, bind_ok, exists_unit] at h
  obtain ⟨_, _, _, h⟩ := h
  split at h
  · cases h
  · rename_i hactive
    rw [pure_ok] at h
    exact .replayed hactive h.symm
  · rename_i hprepared
    simp only [activatePrepared, bind_ok, okOr_ok, rejectIf_ok, exists_unit, pure_ok, not_or, ne_eq, not_not] at h
    obtain ⟨p, hp, _, ⟨hid, hdigest⟩, _, rfl⟩ := h
    exact .activated hprepared p hp hid hdigest rfl

/-! ## The invariant -/

def Committed (requests : AdmittedApply → Prop) : Prop :=
  ∀ a b, requests a → requests b → a.requestDigest = b.requestDigest → a.payload = b.payload

/-- A record of the table: under its own key, of this scope and target, and prepared for an admitted request. -/
structure Recorded (sha256 : Sha256) (requests : AdmittedApply → Prop) (s : ApplyControlState) (id : Ref16)
    (r : OperationRecord) : Prop where
  key : r.operationId = id
  scope : r.sourceScope = s.sourceScope
  target : r.target = s.target
  request : ∃ a, requests a ∧ a.requestDigest = r.requestDigest ∧ a.payload.control.operationId = id
    ∧ a.payload.validate sha256 = .ok () ∧ ownSlice s a.payload.slice
  prepared : r.phase = .prepared → ∃ p, s.prepared = some p ∧ p.operationId = id

/-- **The invariant**: the state is consistent, and the table holds exactly the prepared operation as prepared. -/
structure Inv (sha256 : Sha256) (requests : AdmittedApply → Prop) (s : Stored) : Prop where
  consistent : Consistent sha256 s.state
  recorded : ∀ id r, s.operations id = some r → Recorded sha256 requests s.state id r
  prepared : ∀ p, s.state.prepared = some p →
    s.operations p.operationId = some (s.state.operation p.operationId p.requestDigest .prepared)

theorem Inv.initial (sha256 : Sha256) (requests : AdmittedApply → Prop) (sourceScope target : Ref16) :
    Inv sha256 requests (Stored.initial sourceScope target) := by
  refine ⟨⟨fun h => ?_, fun a h => ?_, fun p h => ?_⟩, fun id r h => ?_, fun p h => ?_⟩ <;> cases h

inductive StoredStep (sha256 : Sha256) (s : Stored) (command : Command) (s' : Stored) : Prop
  | same (next : s' = s)
  | fenced (f : WriterFence) (unfenced : s.state.writerFence = none)
      (next : s' = ⟨{ s.state with writerFence := some f }, s.operations⟩)
  | advanced (f current : WriterFence) (fence : s.state.writerFence = some current) (newer : current.epoch < f.epoch)
      (next : s' = s.putSuperseded { s.state with writerFence := some f, prepared := none }
        (s.state.prepared.map fun p => s.state.operation p.operationId p.requestDigest .superseded))
  | prepared (admitted : AdmittedApply) (reading : ClockReading) (origin : command = .prepare admitted reading)
      (unknown : s.operations admitted.payload.control.operationId = none)
      (valid : admitted.payload.validate sha256 = .ok ()) (own : ownSlice s.state admitted.payload.slice)
      (fence : s.state.writerFence = some admitted.tenure.fence)
      (cas : expectedActiveMatches s.state admitted.payload.control.expectedActive = true)
      (newer : ¬ revisionStale s.state admitted.payload.slice) (free : s.state.prepared = none)
      (next : s' = s.put { s.state with prepared := some (preparedOf admitted admitted.tenure.fence) }
        (s.state.operation admitted.payload.control.operationId admitted.requestDigest .prepared))
  | activated (p : PreparedControl) (ready : PreparationReadyFact) (reading : ClockReading)
      (origin : command = .activate p.operationId ready reading) (hp : s.state.prepared = some p)
      (next : s' = s.put { s.state with active := some ⟨p.incoming⟩, prepared := none }
        (s.state.operation p.operationId p.requestDigest .active))

variable {r : OperationRecord} {id : Ref16}

theorem Stored.put_same {s : Stored} (h : s.operations r.operationId = some r) :
    s.put s.state r = s := by
  unfold Stored.put
  rw [← h, Function.update_eq_self]

variable {sha256 : Sha256} {requests : AdmittedApply → Prop} {s s' : Stored} {command : Command}

theorem Inv.evaluate (h : Inv sha256 requests s) (hok : s.evaluate sha256 command = .ok s') :
    StoredStep sha256 s command s' := by
  cases command with
  | writerFence admitted reading =>
    simp only [Stored.evaluate, bind_ok, pure_ok] at hok
    obtain ⟨t, ht, rfl⟩ := hok
    rcases evaluateWriterFence_ok ht with ⟨unfenced, rfl⟩ | ⟨_, rfl⟩ | ⟨current, fence, newer, rfl⟩
    · exact .fenced _ unfenced rfl
    · exact .same rfl
    · exact .advanced _ current fence newer rfl
  | prepare admitted reading =>
    simp only [Stored.evaluate, bind_ok, pure_ok] at hok
    obtain ⟨t, ht, rfl⟩ := hok
    rcases evaluatePrepare_ok ht with ⟨existing, found, rfl⟩ | ⟨unknown, valid, own, fence, cas, newer, free, rfl⟩
    · refine .same (Stored.put_same ?_)
      rw [(h.recorded _ _ found).key]
      exact found
    · exact .prepared admitted reading rfl unknown valid own fence cas newer free rfl
  | activate operationId ready reading =>
    have hok : Stored.activateStored sha256 s ready reading (s.operations operationId) = .ok s' := hok
    cases hfound : s.operations operationId with
    | none =>
      rw [hfound] at hok
      exact .same (pure_ok.1 hok).symm
    | some operation =>
      simp only [hfound, Stored.activateStored, bind_ok, pure_ok] at hok
      obtain ⟨t, ht, rfl⟩ := hok
      have hid := (h.recorded _ _ hfound).key
      rcases evaluateActivate_ok ht with ⟨_, rfl⟩ | ⟨_, p, hp, id, digest, rfl⟩
      · refine .same (Stored.put_same ?_)
        rw [hid]
        exact hfound
      · refine .activated p ready reading (by rw [id, hid]) hp ?_
        rw [id, digest]

/-! ## One step keeps the invariant -/

theorem Recorded.mono {st st' : ApplyControlState}
    (h : Recorded sha256 requests st id r) (hscope : st'.sourceScope = st.sourceScope) (htarget : st'.target = st.target)
    (hprepared : r.phase = .prepared → ∃ p, st'.prepared = some p ∧ p.operationId = id) :
    Recorded sha256 requests st' id r := by
  obtain ⟨a, ha, hdigest, hid, hvalid, hown⟩ := h.request
  refine ⟨h.key, h.scope.trans hscope.symm, h.target.trans htarget.symm, ⟨a, ha, hdigest, hid, hvalid, ?_⟩, hprepared⟩
  unfold ownSlice
  rw [hscope, htarget]
  exact hown

theorem Inv.recordedAs (h : Inv sha256 requests s) {p : PreparedControl} (hp : s.state.prepared = some p)
    {st' : ApplyControlState} (hscope : st'.sourceScope = s.state.sourceScope) (htarget : st'.target = s.state.target)
    {phase : OperationPhase} (hphase : phase ≠ .prepared) :
    Recorded sha256 requests st' p.operationId (s.state.operation p.operationId p.requestDigest phase) := by
  obtain ⟨a, ha, hdigest, hid, hvalid, hown⟩ := (h.recorded _ _ (h.prepared p hp)).request
  refine ⟨rfl, hscope.symm, htarget.symm, ⟨a, ha, hdigest, hid, hvalid, ?_⟩, fun heq => absurd heq hphase⟩
  unfold ownSlice
  rw [hscope, htarget]
  exact hown

theorem Stored.put_operations {s : Stored} {st : ApplyControlState}
    {found : OperationRecord} (h : (s.put st r).operations id = some found) :
    (id = r.operationId ∧ found = r) ∨ (id ≠ r.operationId ∧ s.operations id = some found) := by
  unfold Stored.put at h
  dsimp only at h
  by_cases hid : id = r.operationId
  · rw [hid, Function.update_self] at h
    exact .inl ⟨hid, (Option.some.inj h).symm⟩
  · rw [Function.update_of_ne hid] at h
    exact .inr ⟨hid, h⟩

theorem Inv.unprepare (h : Inv sha256 requests s) {p : PreparedControl} (hp : s.state.prepared = some p)
    (st' : ApplyControlState) (phase : OperationPhase)
    (hscope : st'.sourceScope = s.state.sourceScope) (htarget : st'.target = s.state.target)
    (hconsistent : Consistent sha256 st') (hnone : st'.prepared = none) (hphase : phase ≠ .prepared) :
    Inv sha256 requests (s.put st' (s.state.operation p.operationId p.requestDigest phase)) := by
  refine ⟨hconsistent, fun id r hr => ?_, fun q hq => ?_⟩
  · rcases Stored.put_operations hr with ⟨rfl, rfl⟩ | ⟨hid, hr⟩
    · exact h.recordedAs hp hscope htarget hphase
    · refine (h.recorded id r hr).mono hscope htarget fun hprepared => ?_
      obtain ⟨q, hq, hqid⟩ := (h.recorded id r hr).prepared hprepared
      rw [hp] at hq
      cases hq
      exact absurd hqid.symm hid
  · have hq : st'.prepared = some q := hq
    rw [hnone] at hq
    cases hq

/-- **The step lemma.** -/
theorem Inv.step (h : Inv sha256 requests s) (hadmitted : command.Admitted requests)
    (hstep : StoredStep sha256 s command s') : Inv sha256 requests s' := by
  have hc := h.consistent
  cases hstep with
  | same next =>
    rw [next]
    exact h
  | fenced f unfenced next =>
    subst next
    have hactive : s.state.active = none := by
      by_contra hne
      exact hc.fenced (Option.isSome_iff_ne_none.2 hne) unfenced
    have hprepared : s.state.prepared = none := by
      by_contra hne
      obtain ⟨p, hp⟩ := Option.ne_none_iff_exists'.1 hne
      have hfence := (hc.prepared p hp).2.2.1
      rw [unfenced] at hfence
      cases hfence
    refine ⟨⟨fun ha => ?_, fun a ha => ?_, fun p hp => ?_⟩, fun id r hr => ?_, fun p hp => ?_⟩
    · have ha : s.state.active.isSome := ha
      rw [hactive] at ha
      cases ha
    · have ha : s.state.active = some a := ha
      rw [hactive] at ha
      cases ha
    · have hp : s.state.prepared = some p := hp
      rw [hprepared] at hp
      cases hp
    · exact (h.recorded id r hr).mono rfl rfl (h.recorded id r hr).prepared
    · exact h.prepared p hp
  | advanced f current fence newer next =>
    subst next
    have hconsistent : Consistent sha256 { s.state with writerFence := some f, prepared := none } :=
      ⟨fun _ => Option.some_ne_none f, fun a ha => hc.active a ha, fun p hp => by cases hp⟩
    cases hp : s.state.prepared with
    | none =>
      refine ⟨hconsistent, fun id r hr => ?_, fun p hq => by cases hq⟩
      refine (h.recorded id r hr).mono rfl rfl fun hprepared => ?_
      obtain ⟨q, hq, _⟩ := (h.recorded id r hr).prepared hprepared
      rw [hp] at hq
      cases hq
    | some p =>
      exact h.unprepare hp { s.state with writerFence := some f, prepared := none } .superseded rfl rfl hconsistent rfl
        (by decide)
  | prepared admitted reading origin unknown valid own fence cas newer free next =>
    subst next
    subst origin
    refine ⟨⟨hc.fenced, hc.active, fun p hp => ?_⟩, fun id r hr => ?_, fun p hp => ?_⟩
    · cases hp
      have hslice : admitted.payload.slice.validate sha256 = .ok () := by
        simp only [RuntimeApplyControlCommitment.validate, bind_ok, wrapErr_ok, exists_unit] at valid
        exact valid.1
      exact ⟨hslice, own, fence, cas, newer⟩
    · rcases Stored.put_operations hr with ⟨rfl, rfl⟩ | ⟨hid, hr⟩
      · exact ⟨rfl, rfl, rfl, ⟨admitted, hadmitted, rfl, rfl, valid, own⟩, fun _ => ⟨_, rfl, rfl⟩⟩
      · refine (h.recorded id r hr).mono rfl rfl fun hprepared => ?_
        obtain ⟨q, hq, _⟩ := (h.recorded id r hr).prepared hprepared
        rw [free] at hq
        cases hq
    · cases hp
      exact Function.update_self ..
  | activated p ready reading origin hp next =>
    subst next
    have hpc := hc.prepared p hp
    refine h.unprepare hp { s.state with active := some ⟨p.incoming⟩, prepared := none } .active rfl rfl
      ⟨fun _ => ?_, fun a ha => ?_, fun q hq => by cases hq⟩ rfl (by decide)
    · exact hpc.2.2.1 ▸ Option.some_ne_none _
    · cases ha
      exact ⟨hpc.1, hpc.2.1⟩

/-! ## Runs -/

theorem Inv.step_command (h : Inv sha256 requests s) (command : Command) :
    StoredStep sha256 s command (s.step sha256 command) := by
  unfold Stored.step
  split
  · rename_i s' hok
    exact h.evaluate hok
  · exact .same rfl

theorem Inv.run {R : Stored → Stored → Prop} (hrefl : ∀ s, R s s) (htrans : ∀ a b c, R a b → R b c → R a c)
    (hstep : ∀ s command, Inv sha256 requests s → R s (s.step sha256 command)) : ∀ {commands : List Command} {s : Stored},
    Inv sha256 requests s → (∀ command ∈ commands, command.Admitted requests) →
      Inv sha256 requests (s.run sha256 commands) ∧ R s (s.run sha256 commands)
  | [], s, h, _ => ⟨h, hrefl s⟩
  | command :: commands, s, h, hadmitted => by
    obtain ⟨hfirst, hrest⟩ := List.forall_mem_cons.1 hadmitted
    obtain ⟨hinv, hR⟩ := Inv.run hrefl htrans hstep (h.step hfirst (h.step_command command)) hrest
    exact ⟨hinv, htrans _ _ _ (hstep s command h) hR⟩

def FenceKept (s s' : Stored) : Prop :=
  ∀ f, s.state.writerFence = some f →
    ∃ f', s'.state.writerFence = some f' ∧ f.epoch ≤ f'.epoch ∧ (f'.epoch = f.epoch → f' = f)

theorem FenceKept.refl (s : Stored) : FenceKept s s := fun f hf => ⟨f, hf, Nat.le_refl _, fun _ => rfl⟩

theorem FenceKept.trans (a b c : Stored) (hab : FenceKept a b) (hbc : FenceKept b c) : FenceKept a c := by
  intro f hf
  obtain ⟨g, hg, hfg, hsame⟩ := hab f hf
  obtain ⟨k, hk, hgk, hsame'⟩ := hbc g hg
  refine ⟨k, hk, Nat.le_trans hfg hgk, fun heq => ?_⟩
  have hgf : g.epoch = f.epoch := Nat.le_antisymm (heq ▸ hgk) hfg
  rw [hsame' (heq.trans hgf.symm), hsame hgf]

theorem StoredStep.fenceKept (h : StoredStep sha256 s command s') : FenceKept s s' := by
  cases h with
  | same next =>
    rw [next]
    exact .refl s
  | fenced f unfenced next =>
    intro g hg
    rw [unfenced] at hg
    cases hg
  | advanced f current fence newer next =>
    intro g hg
    rw [fence] at hg
    cases hg
    refine ⟨f, ?_, Nat.le_of_lt newer, fun heq => absurd heq (Nat.ne_of_gt newer)⟩
    rw [next]
    cases s.state.prepared <;> rfl
  | prepared admitted reading origin unknown valid own fence cas newer free next =>
    rw [next]
    exact fun g hg => ⟨g, hg, Nat.le_refl _, fun _ => rfl⟩
  | activated p ready reading origin hp next =>
    rw [next]
    exact fun g hg => ⟨g, hg, Nat.le_refl _, fun _ => rfl⟩

def Settled (s s' : Stored) : Prop :=
  ∀ id r, s.operations id = some r → r.phase ≠ .prepared → s'.operations id = some r

theorem Settled.refl (s : Stored) : Settled s s := fun _ _ hr _ => hr

theorem Settled.trans (a b c : Stored) (hab : Settled a b) (hbc : Settled b c) : Settled a c :=
  fun id r hr hphase => hbc id r (hab id r hr hphase) hphase

theorem Inv.settled_put (h : Inv sha256 requests s) {p : PreparedControl} (hp : s.state.prepared = some p)
    (st' : ApplyControlState) (hr : r.operationId = p.operationId) : Settled s (s.put st' r) := by
  intro id found hfound hphase
  have hid : id ≠ r.operationId := by
    rintro rfl
    rw [hr, h.prepared p hp] at hfound
    cases hfound
    exact hphase rfl
  exact (Function.update_of_ne hid _ _).trans hfound

theorem Inv.settled (h : Inv sha256 requests s) (hstep : StoredStep sha256 s command s') : Settled s s' := by
  cases hstep with
  | same next =>
    rw [next]
    exact .refl s
  | fenced f unfenced next =>
    rw [next]
    exact fun _ _ hr _ => hr
  | advanced f current fence newer next =>
    rw [next]
    cases hp : s.state.prepared with
    | none => exact fun _ _ hr _ => hr
    | some p => exact h.settled_put hp _ rfl
  | prepared admitted reading origin unknown valid own fence cas newer free next =>
    rw [next]
    intro id r hr hphase
    have hid : id ≠ admitted.payload.control.operationId := by
      rintro rfl
      rw [unknown] at hr
      cases hr
    exact (Function.update_of_ne hid _ _).trans hr
  | activated p ready reading origin hp next =>
    rw [next]
    exact h.settled_put hp _ rfl

/-- The command activates the prepared operation over the slice it expected, with a newer revision. -/
structure Activates (s : Stored) (command : Command) (s' : Stored) (p : PreparedControl) : Prop where
  origin : ∃ ready reading, command = .activate p.operationId ready reading
  prepared : s.state.prepared = some p
  cas : expectedActiveMatches s.state p.expectedActive = true
  newer : ∀ a, s.state.active = some a → a.slice.revision < p.incoming.revision
  next : s'.state.active = some ⟨p.incoming⟩

theorem Inv.activates (h : Inv sha256 requests s) (hstep : StoredStep sha256 s command s')
    (hne : s'.state.active ≠ s.state.active) : ∃ p, Activates s command s' p := by
  cases hstep with
  | same next => exact absurd (by rw [next]) hne
  | fenced f unfenced next => exact absurd (by rw [next]) hne
  | advanced f current fence newer next =>
    refine absurd ?_ hne
    rw [next]
    cases s.state.prepared <;> rfl
  | prepared admitted reading origin unknown valid own fence cas newer free next => exact absurd (by rw [next]; rfl) hne
  | activated p ready reading origin hp next =>
    obtain ⟨_, _, _, hcas, hnewer⟩ := h.consistent.prepared p hp
    refine ⟨p, ⟨ready, reading, origin⟩, hp, hcas, fun a ha => ?_, by rw [next]; rfl⟩
    by_contra hle
    exact hnewer ⟨a, ha, Nat.le_of_not_lt hle⟩

def Stored.phase (s : Stored) (id : Ref16) : Option OperationPhase := (s.operations id).map (·.phase)

theorem Settled.phase (h : Settled s s') {phase : OperationPhase} (hphase : s.phase id = some phase)
    (hne : phase ≠ .prepared) : s'.phase id = some phase := by
  unfold Stored.phase at hphase ⊢
  obtain ⟨r, hr, rfl⟩ := Option.map_eq_some_iff.1 hphase
  rw [h id r hr hne]
  rfl

def BecomesActive (sha256 : Sha256) (s : Stored) (command : Command) (id : Ref16) : Prop :=
  s.phase id ≠ some .active ∧ (s.step sha256 command).phase id = some .active

theorem Inv.replay_settled (h : Inv sha256 requests s) (hrequests : Committed requests)
    (hr : s.operations id = some r) (hphase : r.phase ≠ .prepared) :
    (whenSome s.state.prepared fun prepared =>
      rejectIf (prepared.operationId = r.operationId ∨ prepared.requestDigest = r.requestDigest)
        ApplyRejection.operationStateMismatch) = .ok () := by
  simp only [whenSome_ok, rejectIf_ok, not_or]
  intro p hp
  have hrec := h.recorded id r hr
  have hrow := h.prepared p hp
  have hid : p.operationId ≠ id := by
    rintro rfl
    rw [hr] at hrow
    exact hphase (by rw [Option.some.inj hrow]; rfl)
  refine ⟨fun heq => hid (heq.trans hrec.key), fun heq => ?_⟩
  obtain ⟨a, ha, hadigest, haid, _⟩ := hrec.request
  obtain ⟨b, hb, hbdigest, hbid, _⟩ := (h.recorded _ _ hrow).request
  have hpayload : b.payload = a.payload := hrequests b a hb ha ((hbdigest.trans heq).trans hadigest.symm)
  rw [hpayload, haid] at hbid
  exact hid hbid.symm

theorem Inv.replay (h : Inv sha256 requests s) (hrequests : Committed requests) {admitted : AdmittedApply}
    (hadmitted : requests admitted)
    (hr : s.operations admitted.payload.control.operationId = some r) (hdigest : r.requestDigest = admitted.requestDigest)
    (reading : ClockReading) :
    evaluatePrepare sha256 s.state admitted (some r) reading = .ok ⟨s.state, r, .replayed r.phase⟩ := by
  have hrec := h.recorded _ r hr
  obtain ⟨a, ha, hadigest, _, hvalid, hown⟩ := hrec.request
  have hpayload : a.payload = admitted.payload := hrequests a admitted ha hadmitted (hadigest.trans hdigest)
  rw [hpayload] at hvalid hown
  have hconsistent : ensureReplayedOperationConsistent s.state r = .ok () := by
    unfold ensureReplayedOperationConsistent
    cases hphase : r.phase with
    | prepared =>
      obtain ⟨p, hp, hid⟩ := hrec.prepared hphase
      have hrow := h.prepared p hp
      rw [hid, hr] at hrow
      simp only [bind_ok, okOr_ok, rejectIf_ok, not_not]
      refine ⟨p, hp, hid.trans hrec.key.symm, ?_, (h.consistent.prepared p hp).2.2.1⟩
      rw [Option.some.inj hrow]
      rfl
    | active => exact h.replay_settled hrequests hr (by rw [hphase]; decide)
    | superseded => exact h.replay_settled hrequests hr (by rw [hphase]; decide)
  simp only [evaluatePrepare, replayPrepare, ensureOperationBelongsToState, bind_ok, wrapErr_ok, rejectIf_ok, exists_unit,
    pure_ok, ne_eq, not_not, ensureControlStateConsistent_ok, and_true]
  exact ⟨hvalid, hown.1, hown.2, h.consistent, ⟨hrec.scope, hrec.target⟩, hrec.key, hdigest, hconsistent⟩

/-- **Apply control is safe over whole runs.**  After any admitted commands the state is consistent.  Whatever follows, the
fence is kept or of a higher epoch; a settled record never changes, so that no operation becomes active twice and a
superseded one never does; the active slice changes only by activating the prepared operation over the slice it expected
and with a newer revision; a rejected command stores nothing; and a recorded request is answered with its record. -/
theorem apply_control_safety {sha256 : Sha256} {requests : AdmittedApply → Prop} (hrequests : Committed requests)
    (sourceScope target : Ref16) (commands : List Command)
    (hadmitted : ∀ command ∈ commands, command.Admitted requests) (s : Stored)
    (hs : s = (Stored.initial sourceScope target).run sha256 commands) :
    ensureControlStateConsistent sha256 s.state = .ok () ∧
    (∀ later, (∀ command ∈ later, command.Admitted requests) → FenceKept s (s.run sha256 later)) ∧
    (∀ command, (s.step sha256 command).state.active ≠ s.state.active →
      ∃ p, Activates s command (s.step sha256 command) p) ∧
    (∀ id command later command', command.Admitted requests → (∀ command ∈ later, command.Admitted requests) →
      BecomesActive sha256 s command id → ¬ BecomesActive sha256 ((s.step sha256 command).run sha256 later) command' id) ∧
    (∀ id later, (∀ command ∈ later, command.Admitted requests) → s.phase id = some .superseded →
      (s.run sha256 later).phase id = some .superseded) ∧
    (∀ command e, s.evaluate sha256 command = .error e → s.step sha256 command = s) ∧
    (∀ admitted r reading, requests admitted → s.operations admitted.payload.control.operationId = some r →
      r.requestDigest = admitted.requestDigest →
        evaluatePrepare sha256 s.state admitted (some r) reading = .ok ⟨s.state, r, .replayed r.phase⟩) := by
  have hfence : ∀ s command, Inv sha256 requests s → FenceKept s (s.step sha256 command) :=
    fun s command h => (h.step_command command).fenceKept
  have hsettled : ∀ s command, Inv sha256 requests s → Settled s (s.step sha256 command) :=
    fun s command h => h.settled (h.step_command command)
  have h : Inv sha256 requests s := by
    rw [hs]
    exact (Inv.run FenceKept.refl FenceKept.trans hfence (Inv.initial sha256 requests sourceScope target) hadmitted).1
  refine ⟨(ensureControlStateConsistent_ok _ _ _).2 h.consistent, fun later hlater => ?_, fun command => ?_,
    fun id command later command' hcommand hlater => ?_, fun id later hlater => ?_, fun command e he => ?_,
    fun admitted r reading hreq hr hdigest => h.replay hrequests hreq hr hdigest reading⟩
  · exact (Inv.run FenceKept.refl FenceKept.trans hfence h hlater).2
  · exact h.activates (h.step_command command)
  · rintro ⟨_, hactive⟩ ⟨hnot, _⟩
    have hnext := h.step hcommand (h.step_command command)
    exact hnot ((Inv.run Settled.refl Settled.trans hsettled hnext hlater).2.phase hactive (by decide))
  · exact fun hphase => (Inv.run Settled.refl Settled.trans hsettled h hlater).2.phase hphase (by decide)
  · unfold Stored.step
    rw [he]

/-! A first tenure with its operation activated, and a second one that takes over for a second operation. -/

namespace Sample

def hash (bytes : Bytes) : Digest32 := .ofNat (bytes.foldl (fun h b => h * 31 + b.toNat) 7)

def digestOf (x : Except DigestBuildError Digest32) : Digest32 := match x with
  | .ok d => d
  | .error _ => 0

/-- What the first request says, or the second one. -/
def either {α : Type} (second : Bool) (one two : α) : α := if second then two else one

def proof (second : Bool) : WriterTenureProof where
  authority := .ofNat 1
  authorityKey := .ofNat 2
  algorithm := 1
  algorithmVersion := 1
  sourceScope := .ofNat 3
  writer := .ofNat (either second 4 14)
  epoch := either second 1 2
  supersedesThroughEpoch := either second 0 1
  nonce := [1]
  signature := [1]
  epoch_ne_zero := by cases second <;> decide
  supersedes_lt := by cases second <;> decide

def header (second : Bool) : RuntimeSliceHeader :=
  ⟨.ofNat 5, ⟨.ofNat 3, .ofNat 6, either second 1 2, .ofNat 7⟩, .ofNat 8⟩

def slice (second : Bool) : RuntimeSliceCommitment :=
  ⟨header second, digestOf (runtimeSliceCommitment hash (header second))⟩

def control (second : Bool) : RuntimeApplyControl :=
  ⟨proof second, either second .none (.exact (slice false).targetSliceDigest), .ofNat (either second 9 13)⟩

def payload (second : Bool) : RuntimeApplyControlCommitment where
  slice := slice second
  control := control second
  commitmentDigest := match controlCommitmentDigest hash (slice second) (control second) with
    | .ok d => d
    | .error _ => 0

def admitted (second : Bool) : AdmittedApply where
  payload := payload second
  tenure := ⟨.ofNat 3, .ofNat (either second 4 14), either second 1 2, either second 0 1,
    digestOf ((proof second).envelopeDigest hash), .ofNat (either second 10 20)⟩
  requestDigest := .ofNat (either second 11 15)
  deadline := ⟨.ofNat 12, 1, 100⟩
  exactReplay := false

def Submitted (a : AdmittedApply) : Prop := ∃ second, a = admitted second

theorem committed : Committed Submitted := by
  rintro _ _ ⟨one, rfl⟩ ⟨two, rfl⟩ hdigest
  cases one <;> cases two
  · rfl
  · exact absurd hdigest (by decide)
  · exact absurd hdigest (by decide)
  · rfl

def reading : ClockReading := ⟨.ofNat 12, 1, 50⟩

def commands : List Command :=
  [.writerFence (admitted false) reading, .prepare (admitted false) reading,
    .activate (.ofNat 9) ⟨.ofNat 9, .ofNat 11⟩ reading, .writerFence (admitted true) reading,
    .prepare (admitted true) reading, .prepare (admitted false) reading]

end Sample

/-- The second request is prepared over the slice of the first, which is replayed as it stands. -/
theorem apply_control_safety_taken_over :
    let s := (Stored.initial (.ofNat 3) (.ofNat 5)).run Sample.hash Sample.commands
    s.phase (.ofNat 9) = some .active ∧ s.phase (.ofNat 13) = some .prepared ∧
    s.state.writerFence.map (·.epoch) = some 2 ∧ ensureControlStateConsistent Sample.hash s.state = .ok () ∧
    ∀ later, (∀ command ∈ later, command.Admitted Sample.Submitted) → FenceKept s (s.run Sample.hash later) := by
  have hadmitted : ∀ command ∈ Sample.commands, command.Admitted Sample.Submitted := by
    intro command hcommand
    simp only [Sample.commands, List.mem_cons, List.not_mem_nil, or_false] at hcommand
    rcases hcommand with rfl | rfl | rfl | rfl | rfl | rfl
    · exact ⟨false, rfl⟩
    · exact ⟨false, rfl⟩
    · trivial
    · exact ⟨true, rfl⟩
    · exact ⟨true, rfl⟩
    · exact ⟨false, rfl⟩
  intro s
  have hsafe := apply_control_safety Sample.committed (.ofNat 3) (.ofNat 5) Sample.commands hadmitted s rfl
  exact ⟨by decide +kernel, by decide +kernel, by decide +kernel, hsafe.1, hsafe.2.1⟩

end ApplyState
end ParaEgox
