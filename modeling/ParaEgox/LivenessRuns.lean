import Mathlib.Logic.Relation
import ParaEgox.Liveness

/-!
# LivenessRuns — every order of frames and timer checks

Each call has an effect, or an error and none.  From the effects: the deadlines that are armed can always be evaluated, a
frame that is not new leaves the state alone, and the phases only go forward.
-/
namespace ParaEgox
namespace Liveness

open Check Stateful
open Recovery (ProcessGenerationIdentity)

/-! ## Calls -/

inductive Call
  | startupAck (identity : ProcessGenerationIdentity) (workerFrameSequence : U64)
  | heartbeat (identity : ProcessGenerationIdentity) (workerFrameSequence heartbeatSequence : U64)
  | probe (identity : ProcessGenerationIdentity) (probe : U64)
  | response (identity : ProcessGenerationIdentity) (workerSequence probe : U64)
  | exited (identity : ProcessGenerationIdentity)
  | quarantined (identity : ProcessGenerationIdentity)
  | evaluate

inductive Answer
  | frame (disposition : LivenessFrameDisposition)
  | done
  | verdict (failure : Option LivenessFailure)

def Call.run (observedAt : ClockReading) : Call → Observer Answer
  | .startupAck identity w => do
    let d ← ProcessLivenessState.observeStartupAck identity w observedAt
    pure (.frame d)
  | .heartbeat identity w h => do
    let d ← ProcessLivenessState.observeHeartbeat identity w h observedAt
    pure (.frame d)
  | .probe identity p => do
    ProcessLivenessState.beginControlProbe identity p observedAt
    pure .done
  | .response identity w p => do
    let d ← ProcessLivenessState.observeControlResponse identity w p observedAt
    pure (.frame d)
  | .exited identity => do
    ProcessLivenessState.markExited identity observedAt
    pure .done
  | .quarantined identity => do
    ProcessLivenessState.markQuarantined identity observedAt
    pure .done
  | .evaluate => do
    let failure ← ProcessLivenessState.evaluate observedAt
    pure (.verdict failure)

structure Follows (last r : ClockReading) : Prop where
  domain : last.domain = r.domain
  generation : last.generation = r.generation
  now : last.now ≤ r.now

theorem Follows.trans {a b c : ClockReading} (h : Follows a b) (h' : Follows b c) : Follows a c :=
  ⟨h.domain.trans h'.domain, h.generation.trans h'.generation, h.now.trans h'.now⟩

inductive Effect (s : ProcessLivenessState) (r : ClockReading) : Call → Answer → ProcessLivenessState → Prop
  | repeated (c : Call) : Effect s r c (.frame .duplicate) s
  | started {w : U64} : Follows s.lastObservedAt r → s.phase = .bootstrapping → s.lastWorkerSequence < w →
      r.now < s.startedAt.now + s.budgets.start → r.now + s.budgets.heartbeatTimeout ≤ u64Max →
      Effect s r (.startupAck s.identity w) (.frame .advanced)
        { s with phase := .live, lastWorkerSequence := w, lastHeartbeatAt := some r, lastObservedAt := r }
  | beat {w h : U64} {heartbeatAt : ClockReading} : Follows s.lastObservedAt r → s.phase = .live →
      s.lastHeartbeatAt = some heartbeatAt → r.now < heartbeatAt.now + s.budgets.heartbeatTimeout →
      s.lastWorkerSequence < w → s.lastHeartbeatSequence < h → r.now + s.budgets.heartbeatTimeout ≤ u64Max →
      Effect s r (.heartbeat s.identity w h) (.frame .advanced)
        { s with lastWorkerSequence := w, lastHeartbeatSequence := h, lastHeartbeatAt := some r, lastObservedAt := r }
  | probed {p : U64} : Follows s.lastObservedAt r → s.phase = .live → s.outstandingProbe = none →
      r.now + s.budgets.controlResponse ≤ u64Max →
      Effect s r (.probe s.identity p) .done
        { s with outstandingProbe := some ⟨p, r⟩, lastProbeId := p, lastObservedAt := r }
  | answered {w : U64} {outstanding : OutstandingProbe} :
      Follows s.lastObservedAt r → s.phase = .live → s.outstandingProbe = some outstanding →
      r.now < outstanding.sentAt.now + s.budgets.controlResponse → s.lastWorkerSequence < w →
      Effect s r (.response s.identity w outstanding.id) (.frame .advanced)
        { s with
          lastWorkerSequence := w, outstandingProbe := none, lastControlResponse := some ⟨outstanding.id, w⟩
          lastObservedAt := r }
  | exited : Follows s.lastObservedAt r → Effect s r (.exited s.identity) .done
      { s with phase := .exited, outstandingProbe := none, lastObservedAt := r }
  | quarantined : Follows s.lastObservedAt r → Effect s r (.quarantined s.identity) .done
      { s with phase := .quarantined, outstandingProbe := none, lastObservedAt := r }
  | evaluated {failure : Option LivenessFailure} : Follows s.lastObservedAt r → s.failureAt r = .ok failure →
      Effect s r .evaluate (.verdict failure)
        { s with phase := if failure.isSome then .unresponsive else s.phase, lastObservedAt := r }

theorem compareSequence_advanced {incoming current : U64} (h : compareSequence incoming current = .ok .advanced) :
    current < incoming := by
  unfold compareSequence at h
  split at h
  · cases h
  · rename_i hnew
    split at h
    · cases h
    · rename_i hne
      exact lt_of_le_of_ne (Nat.not_lt.1 (not_or.1 hnew).2) fun heq => hne heq.symm

variable {a : Answer} {c : Call} {u : Unit} {s' : ProcessLivenessState} {last : ClockReading}
  {failures : List LivenessFailure}

theorem ensureBefore_ok {r : ClockReading} {instant : U64} (h : ensureBefore r instant = .ok u) :
    r.now < instant := by
  unfold ensureBefore reached at h
  rw [rejectIf_ok, decide_eq_true_eq] at h
  exact Nat.not_le.1 h

theorem deadline_ok {r : ClockReading} {budget d : U64} (h : deadline r budget = .ok d) :
    r.now + budget ≤ u64Max ∧ d = r.now + budget := by
  obtain ⟨hle, heq⟩ := addU64_ok.1 h
  exact ⟨hle, heq.symm⟩

theorem validateClock_ok {previous current : ClockReading} (h : validateClock previous current = .ok u) :
    Follows previous current := by
  simp only [validateClock, bind_ok, rejectIf_ok, exists_unit, not_or, ne_eq, not_not, Nat.not_lt] at h
  exact ⟨h.1.1, h.1.2, h.2⟩

theorem validateIdentityAndTime_ok {s : ProcessLivenessState} {identity : ProcessGenerationIdentity} {r : ClockReading}
    (h : s.validateIdentityAndTime identity r = .ok u) : identity = s.identity ∧ Follows s.lastObservedAt r := by
  simp only [ProcessLivenessState.validateIdentityAndTime, bind_ok, rejectIf_ok, exists_unit, ne_eq, not_not] at h
  exact ⟨h.1, validateClock_ok h.2⟩

theorem duplicateOrTerminal_ok {s : ProcessLivenessState} {w : U64} {d : LivenessFrameDisposition}
    (h : s.duplicateOrTerminal w = .ok d) : d = .duplicate := by
  unfold ProcessLivenessState.duplicateOrTerminal at h
  split at h
  · cases h
    rfl
  · cases h

variable {s : ProcessLivenessState} {r : ClockReading}

abbrev Leaving (s : ProcessLivenessState) (r : ClockReading) (c : Call) {α : Type} (x : Observer α) (answer : α → Answer) :
    Prop :=
  Leaves x s (fun a s' => Effect s r c (answer a) s') fun _ s' => s' = s

section Steps

variable {α β : Type} {f : α → Observer β} {R : β → ProcessLivenessState → Prop}

theorem leaves_step {x : Except LivenessError α} (h : ∀ a, x = .ok a → Leaves (f a) s R fun _ s' => s' = s) :
    Leaves (lift x >>= f) s R fun _ s' => s' = s := leaves_lift h fun _ _ => rfl

theorem leaves_step_end {x : Except LivenessError α} {Q : α → ProcessLivenessState → Prop} (h : ∀ a, x = .ok a → Q a s) :
    Leaves (lift x) s Q fun _ s' => s' = s := leaves_lift_end h fun _ _ => rfl

theorem leaves_timed {identity : ProcessGenerationIdentity} {f : ProcessLivenessState → Unit → Observer β}
    (h : identity = s.identity → Follows s.lastObservedAt r → Leaves (f s ()) s R fun _ s' => s' = s) :
    Leaves (self >>= fun s => lift (s.validateIdentityAndTime identity r) >>= f s) s R fun _ s' => s' = s := by
  refine leaves_self (leaves_step fun _ hvalid => ?_)
  obtain ⟨heq, hfollows⟩ := validateIdentityAndTime_ok hvalid
  exact h heq hfollows

end Steps

theorem observeStartupAck_leaves (identity : ProcessGenerationIdentity) (w : U64) :
    Leaving s r (.startupAck identity w) (ProcessLivenessState.observeStartupAck identity w r) .frame := by
  unfold ProcessLivenessState.observeStartupAck
  refine leaves_timed fun heq hfollows => ?_
  subst heq
  by_cases hphase : s.phase = .bootstrapping
  · rw [if_neg (not_not.2 hphase)]
    refine leaves_step fun d hd => ?_
    cases d with
    | duplicate => exact leaves_pure (.repeated _)
    | advanced =>
      refine leaves_step fun startBy hstart => leaves_step fun _ hbefore => ?_
      refine leaves_step (fun _ htimeout => leaves_update (leaves_pure ?_))
      obtain ⟨_, rfl⟩ := deadline_ok hstart
      exact .started hfollows hphase (compareSequence_advanced hd) (ensureBefore_ok hbefore) (deadline_ok htimeout).1
  · rw [if_pos hphase]
    refine leaves_step_end fun d hd => ?_
    obtain rfl := duplicateOrTerminal_ok hd
    exact .repeated _

theorem observeHeartbeat_leaves (identity : ProcessGenerationIdentity) (w h : U64) :
    Leaving s r (.heartbeat identity w h) (ProcessLivenessState.observeHeartbeat identity w h r) .frame := by
  unfold ProcessLivenessState.observeHeartbeat
  refine leaves_timed fun heq hfollows => ?_
  subst heq
  by_cases hphase : s.phase = .live
  · rw [if_neg (not_not.2 hphase)]
    refine leaves_step fun heartbeatAt hat => ?_
    refine leaves_step fun heartbeatBy hby => leaves_step fun _ hbefore => ?_
    obtain ⟨_, rfl⟩ := deadline_ok hby
    refine leaves_step fun d hd => ?_
    cases d with
    | duplicate =>
      by_cases hsame : h = s.lastHeartbeatSequence ∧ h ≠ 0
      · rw [if_pos hsame]
        exact leaves_pure (.repeated _)
      · rw [if_neg hsame]
        exact leaves_step_end fun _ hok => by cases hok
    | advanced =>
      refine leaves_step (fun _ hnew => leaves_step (fun _ htimeout => leaves_update (leaves_pure ?_)))
      rw [rejectIf_ok] at hnew
      exact .beat hfollows hphase (okOr_ok.1 hat) (ensureBefore_ok hbefore) (compareSequence_advanced hd)
        (Nat.not_le.1 (not_or.1 hnew).2) (deadline_ok htimeout).1
  · rw [if_pos hphase]
    refine leaves_step_end fun d hd => ?_
    obtain rfl := duplicateOrTerminal_ok hd
    exact .repeated _

theorem beginControlProbe_leaves (identity : ProcessGenerationIdentity) (p : U64) :
    Leaving s r (.probe identity p) (ProcessLivenessState.beginControlProbe identity p r) fun _ => .done := by
  unfold ProcessLivenessState.beginControlProbe
  refine leaves_timed fun heq hfollows => ?_
  subst heq
  refine leaves_step fun _ hphase => leaves_step fun _ hnone => ?_
  iterate 4 refine leaves_step fun _ _ => ?_
  refine leaves_step fun _ hresponse => ?_
  rw [rejectIf_ok] at hphase hnone
  exact Effect.probed hfollows (not_not.1 hphase) (Option.not_isSome_iff_eq_none.1 hnone) (deadline_ok hresponse).1

theorem observeControlResponse_leaves (identity : ProcessGenerationIdentity) (w p : U64) :
    Leaving s r (.response identity w p) (ProcessLivenessState.observeControlResponse identity w p r) .frame := by
  unfold ProcessLivenessState.observeControlResponse
  refine leaves_timed fun heq hfollows => ?_
  subst heq
  by_cases hsame : s.lastControlResponse = some ⟨p, w⟩
  · rw [if_pos hsame]
    exact leaves_pure (.repeated _)
  · rw [if_neg hsame]
    refine leaves_step fun _ hphase => leaves_step fun outstanding hout => ?_
    refine leaves_step fun _ hid => leaves_step fun answerBy hby => ?_
    refine leaves_step fun _ hbefore => leaves_step fun _ hnew => ?_
    rw [rejectIf_ok] at hphase hid hnew
    obtain rfl := not_not.1 hid
    obtain ⟨_, rfl⟩ := deadline_ok hby
    refine leaves_update (leaves_pure ?_)
    exact .answered hfollows (not_not.1 hphase) (okOr_ok.1 hout) (ensureBefore_ok hbefore)
      (Nat.not_le.1 (not_or.1 hnew).2)

theorem evaluate_leaves : Leaving s r .evaluate (ProcessLivenessState.evaluate r) .verdict := by
  unfold ProcessLivenessState.evaluate
  refine leaves_self (leaves_step fun _ hclock => leaves_step fun failure hfailure => ?_)
  exact leaves_update (leaves_pure (.evaluated (validateClock_ok hclock) hfailure))

theorem mark_leaves {phase : LivenessPhase} (identity : ProcessGenerationIdentity)
    (h : identity = s.identity → Follows s.lastObservedAt r →
      Effect s r c .done { s with phase, outstandingProbe := none, lastObservedAt := r }) :
    Leaving s r c (ProcessLivenessState.mark phase identity r) fun _ => .done := by
  unfold ProcessLivenessState.mark
  exact leaves_timed h

theorem Call.run_leaves (c : Call) : Leaves (c.run r) s (Effect s r c) fun _ s' => s' = s := by
  cases c with
  | startupAck identity w => exact leaves_bind (observeStartupAck_leaves identity w) fun _ _ h => leaves_pure h
  | heartbeat identity w h => exact leaves_bind (observeHeartbeat_leaves identity w h) fun _ _ h => leaves_pure h
  | probe identity p => exact leaves_bind (beginControlProbe_leaves identity p) fun _ _ h => leaves_pure h
  | response identity w p => exact leaves_bind (observeControlResponse_leaves identity w p) fun _ _ h => leaves_pure h
  | exited identity =>
    refine leaves_bind (mark_leaves (c := .exited identity) identity fun heq hfollows => ?_) fun _ _ h => leaves_pure h
    rw [heq]
    exact .exited hfollows
  | quarantined identity =>
    refine leaves_bind (mark_leaves (c := .quarantined identity) identity fun heq hfollows => ?_) fun _ _ h => leaves_pure h
    rw [heq]
    exact .quarantined hfollows
  | evaluate => exact leaves_bind evaluate_leaves fun _ _ h => leaves_pure h

theorem Call.run_cases (c : Call) : (∃ e, c.run r s = (.error e, s)) ∨ ∃ a s', c.run r s = (.ok a, s') ∧ Effect s r c a s' := by
  have hleaves := Call.run_leaves (s := s) (r := r) c
  unfold Leaves at hleaves
  cases hrun : c.run r s with
  | mk result s' =>
    rw [hrun] at hleaves
    cases result with
    | error e =>
      have heq : s' = s := hleaves
      exact .inl ⟨e, by rw [heq]⟩
    | ok a => exact .inr ⟨a, s', rfl, hleaves⟩

/-! ## Deadlines -/

/-- The deadlines that are running, each with the failure it stands for, the probe before the heartbeat. -/
def ProcessLivenessState.armed (s : ProcessLivenessState) : List (LivenessFailure × U64) :=
  match s.phase with
  | .bootstrapping => [(.startupTimedOut, s.startedAt.now + s.budgets.start)]
  | .live =>
    (s.outstandingProbe.map fun probe => (.controlResponseMissed probe.id, probe.sentAt.now + s.budgets.controlResponse)).toList
      ++ (s.lastHeartbeatAt.map fun at_ =>
        (.heartbeatMissed s.lastHeartbeatSequence, at_.now + s.budgets.heartbeatTimeout)).toList
  | .unresponsive | .exited | .quarantined => []

/-- The earliest deadline, the first one of equal ones, once the reading has reached it. -/
def firstExpired (armed : List (LivenessFailure × U64)) (r : ClockReading) : Option LivenessFailure :=
  (armed.argmin Prod.snd).bind fun d => if d.2 ≤ r.now then some d.1 else none

/-- **The invariant of the deadlines**: each was checked for overflow when it was armed. -/
structure Armed (s : ProcessLivenessState) : Prop where
  startup : s.startedAt.now + s.budgets.start ≤ u64Max
  heartbeat : s.phase = .live → ∃ heartbeatAt, s.lastHeartbeatAt = some heartbeatAt
    ∧ heartbeatAt.now + s.budgets.heartbeatTimeout ≤ u64Max
  probe : ∀ outstanding, s.outstandingProbe = some outstanding →
    outstanding.sentAt.now + s.budgets.controlResponse ≤ u64Max

theorem Effect.armed (h : Effect s r c a s') (hs : Armed s) : Armed s' := by
  cases h with
  | repeated => exact hs
  | started _ _ _ _ htimeout => exact ⟨hs.startup, fun _ => ⟨r, rfl, htimeout⟩, hs.probe⟩
  | beat _ _ _ _ _ _ htimeout => exact ⟨hs.startup, fun _ => ⟨r, rfl, htimeout⟩, hs.probe⟩
  | probed _ hphase _ hresponse =>
    refine ⟨hs.startup, fun _ => hs.heartbeat hphase, fun outstanding h => ?_⟩
    cases h
    exact hresponse
  | answered _ hphase => exact ⟨hs.startup, fun _ => hs.heartbeat hphase, nofun⟩
  | exited => exact ⟨hs.startup, nofun, nofun⟩
  | quarantined => exact ⟨hs.startup, nofun, nofun⟩
  | @evaluated failure _ _ =>
    refine ⟨hs.startup, fun h => hs.heartbeat ?_, hs.probe⟩
    dsimp only at h
    split at h
    · cases h
    · exact h

theorem deadline_run {reading : ClockReading} {budget : U64} (h : reading.now + budget ≤ u64Max) :
    deadline reading budget = .ok (reading.now + budget) := addU64_ok.2 ⟨h, rfl⟩

theorem Armed.failureAt (h : Armed s) (r : ClockReading) : s.failureAt r = .ok (firstExpired s.armed r) := by
  unfold ProcessLivenessState.failureAt ProcessLivenessState.armed firstExpired
  cases hphase : s.phase with
  | bootstrapping =>
    dsimp only
    rw [deadline_run h.startup, List.argmin_singleton]
    change Except.ok _ = Except.ok _
    unfold reached
    simp only [decide_eq_true_eq]
    rfl
  | live =>
    obtain ⟨heartbeatAt, hat, hroom⟩ := h.heartbeat hphase
    dsimp only
    unfold ProcessLivenessState.liveFailure
    rw [hat]
    change (deadline heartbeatAt s.budgets.heartbeatTimeout >>= _) = _
    rw [deadline_run hroom]
    cases hprobe : s.outstandingProbe with
    | none =>
      change Except.ok _ = Except.ok _
      unfold reached
      simp only [decide_eq_true_eq]
      rfl
    | some probe =>
      change (deadline probe.sentAt s.budgets.controlResponse >>= _) = _
      rw [deadline_run (h.probe probe hprobe)]
      change Except.ok _ = Except.ok _
      refine congrArg Except.ok ?_
      unfold reached
      simp only [decide_eq_true_eq, Option.map_some, Option.toList_some, List.cons_append, List.nil_append,
        List.argmin_cons]
      generalize probe.sentAt.now + s.budgets.controlResponse = dp
      generalize heartbeatAt.now + s.budgets.heartbeatTimeout = dh
      change (if dp ≤ r.now ∧ dp ≤ dh then _ else _) = Option.bind (if dh < dp then _ else _) _
      by_cases hlt : dh < dp
      · rw [if_pos hlt, if_neg fun h => absurd h.2 (Nat.not_le.2 hlt)]
        rfl
      · rw [if_neg hlt]
        have hle : dp ≤ dh := Nat.not_lt.1 hlt
        by_cases hdp : dp ≤ r.now
        · rw [if_pos ⟨hdp, hle⟩]
          exact (if_pos hdp).symm
        · rw [if_neg fun h => hdp h.1, if_neg fun h => hdp (hle.trans h)]
          exact (if_neg hdp).symm
  | unresponsive | exited | quarantined => rfl

/-! ## Frames that are not new -/

/-- A fact of another generation, a frame at or after its deadline, or a sequence that was already passed. -/
def Outdated (s : ProcessLivenessState) (r : ClockReading) : Call → Prop
  | .startupAck identity w =>
    identity ≠ s.identity ∨ s.startedAt.now + s.budgets.start ≤ r.now ∨ w ≤ s.lastWorkerSequence
  | .heartbeat identity w h => identity ≠ s.identity
    ∨ (∃ heartbeatAt, s.lastHeartbeatAt = some heartbeatAt ∧ heartbeatAt.now + s.budgets.heartbeatTimeout ≤ r.now)
    ∨ w ≤ s.lastWorkerSequence ∨ h ≤ s.lastHeartbeatSequence
  | .response identity w p => identity ≠ s.identity
    ∨ (∀ outstanding, s.outstandingProbe = some outstanding →
        outstanding.id ≠ p ∨ outstanding.sentAt.now + s.budgets.controlResponse ≤ r.now)
    ∨ w ≤ s.lastWorkerSequence
  | .probe identity _ | .exited identity | .quarantined identity => identity ≠ s.identity
  | .evaluate => False

theorem Outdated.unchanged (h : Outdated s r c) : (c.run r s).2 = s := by
  obtain ⟨e, hrun⟩ | ⟨a, s', hrun, heffect⟩ := Call.run_cases (s := s) (r := r) c
  · rw [hrun]
  · rw [hrun]
    cases heffect with
    | repeated => rfl
    | started _ _ hw hbefore _ =>
      rcases h with h | h | h
      · exact absurd rfl h
      · exact absurd hbefore (Nat.not_lt.2 h)
      · exact absurd hw (Nat.not_lt.2 h)
    | beat _ _ hat hbefore hw hh _ =>
      rcases h with h | ⟨heartbeatAt, hat', h⟩ | h | h
      · exact absurd rfl h
      · cases hat.symm.trans hat'
        exact absurd hbefore (Nat.not_lt.2 h)
      · exact absurd hw (Nat.not_lt.2 h)
      · exact absurd hh (Nat.not_lt.2 h)
    | answered _ _ hout hbefore hw =>
      rcases h with h | h | h
      · exact absurd rfl h
      · rcases h _ hout with h | h
        · exact absurd rfl h
        · exact absurd hbefore (Nat.not_lt.2 h)
      · exact absurd hw (Nat.not_lt.2 h)
    | probed => exact absurd rfl h
    | exited => exact absurd rfl h
    | quarantined => exact absurd rfl h
    | evaluated => exact h.elim

/-! ## Phases -/

def LivenessPhase.stage : LivenessPhase → Nat
  | .bootstrapping => 0
  | .live => 1
  | .unresponsive | .exited | .quarantined => 2

theorem LivenessPhase.stage_le (phase : LivenessPhase) : phase.stage ≤ 2 := by
  cases phase <;> decide

theorem Effect.stage (h : Effect s r c a s') : s.phase.stage ≤ s'.phase.stage := by
  cases h with
  | started _ hphase =>
    rw [hphase]
    exact Nat.zero_le _
  | exited => exact s.phase.stage_le
  | quarantined => exact s.phase.stage_le
  | evaluated =>
    dsimp only
    split
    · exact s.phase.stage_le
    · exact Nat.le_refl _
  | repeated | beat | probed | answered => exact Nat.le_refl _

def Moved (s s' : ProcessLivenessState) : Prop := ∃ (c : Call) (r : ClockReading), (c.run r s).2 = s'

def Later : ProcessLivenessState → ProcessLivenessState → Prop := Relation.ReflTransGen Moved

theorem Later.stage {s : ProcessLivenessState} (h : Later s s') : s.phase.stage ≤ s'.phase.stage := by
  induction h with
  | refl => exact Nat.le_refl _
  | @tail t t' _ hmoved ih =>
    obtain ⟨c, r, rfl⟩ := hmoved
    obtain ⟨e, hrun⟩ | ⟨a, t', hrun, heffect⟩ := Call.run_cases (s := t) (r := r) c
    · rw [hrun]
      exact ih
    · rw [hrun]
      exact ih.trans heffect.stage

theorem Later.left {s₁ s₂ : ProcessLivenessState} (hlive : s.phase = .live) (h₁ : Later s s₁) (hleft : s₁.phase ≠ .live)
    (h₂ : Later s₁ s₂) : s₂.phase ≠ .live := by
  have hfirst := h₁.stage
  have hsecond := h₂.stage
  rw [hlive] at hfirst
  intro hagain
  rw [hagain] at hsecond
  cases hphase : s₁.phase with
  | bootstrapping =>
    rw [hphase] at hfirst
    exact absurd hfirst (by decide)
  | live => exact hleft hphase
  | unresponsive | exited | quarantined =>
    rw [hphase] at hsecond
    exact absurd hsecond (by decide)

/-! ## Runs -/

def reports : Except LivenessError Answer → List LivenessFailure
  | .ok (.verdict (some failure)) => [failure]
  | _ => []

inductive Run : ProcessLivenessState → ClockReading → List LivenessFailure → Prop
  | started {identity : ProcessGenerationIdentity} {budgets : ProcessLivenessBudgets} {r : ClockReading}
      {s : ProcessLivenessState} : ProcessLivenessState.tryNew identity budgets r = .ok s → Run s r []
  | called {s : ProcessLivenessState} {last : ClockReading} {failures : List LivenessFailure} (c : Call)
      {r : ClockReading} : Run s last failures → Follows last r →
      Run (c.run r s).2 r (reports (c.run r s).1 ++ failures)

theorem Effect.observed (h : Effect s r c a s') : s' = s ∨ s'.lastObservedAt = r ∧ Follows s.lastObservedAt r
      ∧ (s'.lastHeartbeatAt = s.lastHeartbeatAt ∨ s'.lastHeartbeatAt = some r) := by
  cases h with
  | repeated => exact .inl rfl
  | started hfollows | beat hfollows => exact .inr ⟨rfl, hfollows, .inr rfl⟩
  | probed hfollows | answered hfollows | exited hfollows | quarantined hfollows | evaluated hfollows =>
    exact .inr ⟨rfl, hfollows, .inl rfl⟩

/-- **The invariant of the runs.** -/
structure Watched (s : ProcessLivenessState) (last : ClockReading) (failures : List LivenessFailure) : Prop where
  armed : Armed s
  clock : Follows s.lastObservedAt last
  heartbeat : ∀ heartbeatAt, s.lastHeartbeatAt = some heartbeatAt → Follows heartbeatAt s.lastObservedAt
  once : failures = [] ∨ failures.length = 1 ∧ s.phase.stage = 2

theorem Effect.reports (h : Effect s r c a s') :
    reports (.ok a) = [] ∨ (reports (.ok a)).length = 1 ∧ s.phase.stage < 2 ∧ s'.phase.stage = 2 := by
  cases h with
  | @evaluated failure _ hfailure =>
    cases failure with
    | none => exact .inl rfl
    | some f =>
      refine .inr ⟨rfl, ?_, rfl⟩
      unfold ProcessLivenessState.failureAt at hfailure
      cases hphase : s.phase with
      | bootstrapping | live => decide
      | unresponsive | exited | quarantined =>
        rw [hphase] at hfailure
        cases hfailure
  | repeated | started | beat | probed | answered | exited | quarantined => exact .inl rfl

theorem Run.watched (h : Run s last failures) : Watched s last failures := by
  induction h with
  | started hnew =>
    simp only [ProcessLivenessState.tryNew, bind_ok, pure_ok] at hnew
    obtain ⟨_, hstart, rfl⟩ := hnew
    exact ⟨⟨(deadline_ok hstart).1, by rintro ⟨⟩, by rintro _ ⟨⟩⟩, ⟨rfl, rfl, Nat.le_refl _⟩, by rintro _ ⟨⟩, .inl rfl⟩
  | @called s last failures c r _ hfollows ih =>
    obtain ⟨e, hrun⟩ | ⟨a, s', hrun, heffect⟩ := Call.run_cases (s := s) (r := r) c
    · rw [hrun]
      exact ⟨ih.armed, ih.clock.trans hfollows, ih.heartbeat, ih.once⟩
    · rw [hrun]
      refine ⟨heffect.armed ih.armed, ?_, fun heartbeatAt hat => ?_, ?_⟩
      · rcases heffect.observed with rfl | ⟨heq, _, _⟩
        · exact ih.clock.trans hfollows
        · rw [heq]
          exact ⟨rfl, rfl, Nat.le_refl _⟩
      · rcases heffect.observed with rfl | ⟨heq, hnext, hold | hnew⟩
        · exact ih.heartbeat heartbeatAt hat
        · rw [hold] at hat
          rw [heq]
          exact (ih.heartbeat heartbeatAt hat).trans hnext
        · rw [hnew] at hat
          cases hat
          rw [heq]
          exact ⟨rfl, rfl, Nat.le_refl _⟩
      · dsimp only
        have hstage := heffect.stage
        have htop := s'.phase.stage_le
        rcases heffect.reports with hnone | ⟨hone, hbefore, hafter⟩
        · rw [hnone, List.nil_append]
          exact ih.once.imp_right fun honce => ⟨honce.1, by have := honce.2; omega⟩
        · rcases ih.once with rfl | ⟨_, htwo⟩
          · rw [List.append_nil]
            exact .inr ⟨hone, hafter⟩
          · omega

/-- **A timer check of a run answers**, with the earliest deadline that was reached. -/
theorem Watched.evaluate (h : Watched s last failures)
    (hfollows : Follows last r) : ProcessLivenessState.evaluate r s = (.ok (firstExpired s.armed r), { s with
      phase := if (firstExpired s.armed r).isSome then .unresponsive else s.phase, lastObservedAt := r }) := by
  obtain ⟨hdomain, hgeneration, hnow⟩ := h.clock.trans hfollows
  have hclock : validateClock s.lastObservedAt r = .ok () := by
    simp only [validateClock, bind_ok, rejectIf_ok, exists_unit]
    exact ⟨not_or.2 ⟨not_not.2 hdomain, not_not.2 hgeneration⟩, Nat.not_lt.2 hnow⟩
  change follow _ (lift (validateClock s.lastObservedAt r) s) = _
  rw [hclock]
  change follow _ (lift (s.failureAt r) s) = _
  rw [h.armed.failureAt r]
  rfl

/-- **Liveness detection is exact**, whatever the order of frames and timer checks: at most one failure is reported; a timer
check answers with the earliest deadline that was reached, the probe before the heartbeat, or with none; an accepted call
moves the deadlines to its own reading and nothing else does; a call that fails and a frame that is not new change nothing;
and a state that left life stays out of it. -/
theorem liveness_exact {last : ClockReading} {failures : List LivenessFailure} (h : Run s last failures) :
    failures.length ≤ 1
      ∧ (∀ r, Follows last r → ∃ s', ProcessLivenessState.evaluate r s = (.ok (firstExpired s.armed r), s'))
      ∧ (∀ (c : Call) (r : ClockReading) (a : Answer), (c.run r s).1 = .ok a → Effect s r c a (c.run r s).2)
      ∧ (∀ (c : Call) (r : ClockReading) (e : LivenessError), (c.run r s).1 = .error e → (c.run r s).2 = s)
      ∧ (∀ (c : Call) (r : ClockReading), Outdated s r c → (c.run r s).2 = s)
      ∧ ∀ s₁ s₂, s.phase = .live → Later s s₁ → s₁.phase ≠ .live → Later s₁ s₂ → s₂.phase ≠ .live := by
  have hwatched := h.watched
  refine ⟨?_, fun r hfollows => ⟨_, hwatched.evaluate hfollows⟩, fun c r a hok => ?_, fun c r e herror => ?_,
    fun c r houtdated => houtdated.unchanged, fun s₁ s₂ hlive h₁ hleft h₂ => Later.left hlive h₁ hleft h₂⟩
  · rcases hwatched.once with rfl | ⟨hone, _⟩
    · exact Nat.zero_le _
    · exact hone.le
  · obtain ⟨e', hrun⟩ | ⟨a', s', hrun, heffect⟩ := Call.run_cases (s := s) (r := r) c
    · rw [hrun] at hok
      cases hok
    · rw [hrun] at hok ⊢
      cases hok
      exact heffect
  · obtain ⟨e', hrun⟩ | ⟨a, s', hrun, _⟩ := Call.run_cases (s := s) (r := r) c
    · rw [hrun]
    · rw [hrun] at herror
      cases herror

/-! A generation that came to life at its fourth tick and then fell silent. -/

def sampleIdentity : ProcessGenerationIdentity := ⟨.ofNat 1, 2, 3, .ofNat 4, .ofNat 7, 5⟩

def sampleReading (now : U64) : ClockReading := ⟨.ofNat 8, 1, now⟩

def sampleStarted : ProcessLivenessState :=
  ⟨sampleIdentity, ⟨10, 2, 6, 3, by decide⟩, .bootstrapping, sampleReading 0, sampleReading 0, 0, 0, none, none, none, 0⟩

def sampleLive : ProcessLivenessState := ((Call.startupAck sampleIdentity 2).run (sampleReading 4) sampleStarted).2

theorem liveness_exact_silent : sampleLive.phase = .live
    ∧ ∃ s', ProcessLivenessState.evaluate (sampleReading 10) sampleLive = (.ok (some (.heartbeatMissed 0)), s') := by
  have hnew : ProcessLivenessState.tryNew sampleIdentity ⟨10, 2, 6, 3, by decide⟩ (sampleReading 0) = .ok sampleStarted := rfl
  have hrun : Run sampleLive (sampleReading 4) [] :=
    (Run.started hnew).called (.startupAck sampleIdentity 2) ⟨rfl, rfl, by decide⟩
  exact ⟨by decide, (liveness_exact hrun).2.1 (sampleReading 10) ⟨rfl, rfl, by decide⟩⟩

end Liveness
end ParaEgox
