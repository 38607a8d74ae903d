import ParaEgox.RecoveryStep

/-!
# RecoveryRuns — the recovery reducer over whole runs

A run is a sequence of accepted calls; a refused one leaves the state where it was.  What a run recorded is enough to say
when a fresh domain may be started, that a tainted generation is never replaced, and that no action is issued twice.
-/
namespace ParaEgox
namespace Recovery

open Check

inductive Call
  | observe (fact : RuntimeFailureFact)
  | complete (id : U64) (outcome : RecoveryActionOutcome) (observedAt : ClockReading)
  | poll (observedAt : ClockReading)
  | roll (identity : ProcessGenerationIdentity) (observedAt : ClockReading)

def call (sha256 : Sha256) (s : RecoveryState) : Call → Res RecoveryTransition
  | .observe fact => observeFact sha256 s fact
  | .complete id outcome observedAt => completeAction s id outcome observedAt
  | .poll observedAt => poll s observedAt
  | .roll identity observedAt => do
    let next ← rollGeneration s identity observedAt
    pure ⟨next, .noAction⟩

structure Event where
  before : RecoveryState
  made : Call
  decision : RecoveryDecision
  after : RecoveryState

def Event.rolls (e : Event) : Prop := ∃ identity observedAt, e.made = .roll identity observedAt

def Event.executes (e : Event) : Option U64 := match e.decision with
  | .execute env => some env.id
  | _ => none

inductive Traces (sha256 : Sha256) (s₀ : RecoveryState) : List Event → RecoveryState → Prop
  | start : Traces sha256 s₀ [] s₀
  | step {past : List Event} {s : RecoveryState} {c : Call} {t : RecoveryTransition} :
    Traces sha256 s₀ past s → call sha256 s c = .ok t →
      Traces sha256 s₀ (past ++ [⟨s, c, t.decision, t.state⟩]) t.state

def drive (sha256 : Sha256) : RecoveryState → List Call → List Event × RecoveryState
  | s, [] => ([], s)
  | s, c :: calls => match call sha256 s c with
    | .ok t => (⟨s, c, t.decision, t.state⟩ :: (drive sha256 t.state calls).1, (drive sha256 t.state calls).2)
    | .error _ => drive sha256 s calls

variable {sha256 : Sha256} {s : RecoveryState} {c : Call} {t : RecoveryTransition} {id : U64}
  {observedAt : ClockReading} {past : List Event}

theorem Traces.drive {s₀ : RecoveryState} : ∀ (calls : List Call) {past : List Event}
    {s : RecoveryState}, Traces sha256 s₀ past s →
      Traces sha256 s₀ (past ++ (drive sha256 s calls).1) (drive sha256 s calls).2
  | [], past, s, h => by rwa [Recovery.drive, List.append_nil]
  | c :: calls, past, s, h => by
    rw [Recovery.drive]
    split
    · rename_i t hc
      have hrest := Traces.drive calls (.step h hc)
      rwa [List.append_assoc] at hrest
    · exact Traces.drive calls h

/-! ## One call -/

/-- **Every call keeps the invariant; only a roll, which an untainted generation alone can make, forgets evidence.** -/
theorem call_cases (hs : Sound s) (h : call sha256 s c = .ok t) :
    (Advances s t ∧ ∀ identity observedAt, c ≠ .roll identity observedAt) ∨
    ∃ identity observedAt, c = .roll identity observedAt ∧ rollGeneration s identity observedAt = .ok t.state
      ∧ t.decision = .noAction := by
  cases c with
  | observe f => exact .inl ⟨(observeFact_observes hs h).2.advances, fun _ _ hc => by cases hc⟩
  | complete id outcome observedAt => exact .inl ⟨(completeAction_advances hs h).1, fun _ _ hc => by cases hc⟩
  | poll observedAt => exact .inl ⟨(poll_advances hs h).1, fun _ _ hc => by cases hc⟩
  | roll identity observedAt =>
    simp only [call, bind_ok, pure_ok] at h
    obtain ⟨next, hnext, rfl⟩ := h
    exact .inr ⟨identity, observedAt, rfl, hnext, rfl⟩

theorem call_sound (hs : Sound s) (h : call sha256 s c = .ok t) : Sound t.state := by
  rcases call_cases hs h with ⟨ha, _⟩ | ⟨_, _, _, hroll, _⟩
  · exact ha.sound
  · exact rollGeneration_sound hroll

theorem call_tainted (hs : Sound s) (h : call sha256 s c = .ok t) (ht : Tainted s) :
    Tainted t.state ∧ t.state.identity = s.identity ∧ ∀ identity observedAt, c ≠ .roll identity observedAt := by
  rcases call_cases hs h with ⟨ha, hc⟩ | ⟨_, _, _, hroll, _⟩
  · exact ⟨ha.tainted ht, ha.identity, hc⟩
  · exact absurd ht (rollGeneration_ok hroll).2.1

def Spent (s : RecoveryState) (id : U64) : Prop :=
  id ≤ s.nextActionId ∧ ∀ pending, s.pendingAction = some pending → id < pending.id

theorem Advances.spent (h : Advances s t) (hid : Spent s id) : Spent t.state id := by
  by_cases hd : ∃ env, t.decision = .execute env
  · obtain ⟨env, hd⟩ := hd
    obtain ⟨henv, hp⟩ := h.issued env hd
    have hnext := (h.sound.pending env hp).2
    have hlt : id < env.id := Nat.lt_of_le_of_lt hid.1 (henv ▸ Nat.lt_succ_self _)
    refine ⟨hnext ▸ Nat.le_of_lt hlt, fun pending he => ?_⟩
    rw [hp] at he
    cases he
    exact hlt
  · obtain ⟨hnext, hp⟩ := h.rested fun env he => hd ⟨env, he⟩
    refine ⟨hnext ▸ hid.1, fun pending he => ?_⟩
    rcases hp with hp | hp
    · exact hid.2 pending (hp ▸ he)
    · rw [hp] at he
      cases he

theorem call_spent (hs : Sound s) (h : call sha256 s c = .ok t) (hid : Spent s id) : Spent t.state id := by
  rcases call_cases hs h with ⟨ha, _⟩ | ⟨_, _, _, hroll, _⟩
  · exact ha.spent hid
  · obtain ⟨_, _, _, hp, _, hnext, _⟩ := rollGeneration_ok hroll
    refine ⟨hnext ▸ hid.1, fun pending he => ?_⟩
    rw [hp] at he
    cases he

variable {outcome : RecoveryActionOutcome} {e : Event}

theorem completeAction_spent (hs : Sound s) (hlast : ∀ c, s.lastCompletedAction = some c → Spent s c.id)
    (h : completeAction s id outcome observedAt = .ok t) :
    Spent t.state id ∧ t.state.lastCompletedAction = some ⟨id, outcome⟩ := by
  rcases completeAction_cases h with ⟨hsame, rfl⟩ | ⟨pending, hp, rfl, hends⟩
  · exact ⟨hlast _ hsame, hsame⟩
  · have hid := (hs.pending pending hp).2
    refine ⟨?_, hends.keeps.completed⟩
    by_cases hd : ∃ env, t.decision = .execute env
    · obtain ⟨env, hd⟩ := hd
      obtain ⟨_, henv, hpending⟩ := hends.issued env hd
      have hnext := (hends.sound.pending env hpending).2
      have hlt : pending.id < env.id := by
        rw [henv, hid]
        exact Nat.lt_succ_self _
      refine ⟨hnext ▸ Nat.le_of_lt hlt, fun other he => ?_⟩
      rw [hpending] at he
      cases he
      exact hlt
    · obtain ⟨hnext, hnone⟩ := hends.rested fun env he => hd ⟨env, he⟩
      refine ⟨Nat.le_of_eq (hid.trans hnext.symm), fun other he => ?_⟩
      rw [hnone] at he
      cases he

/-! ## What a run recorded -/

def LostIn (past : List Event) (lineage : ProcessLossLineage) : Prop :=
  ∃ earlier e later fact o, past = earlier ++ e :: later ∧ (∀ x ∈ later, ¬ x.rolls) ∧ e.made = .observe fact
    ∧ fact.kind = .processExited o ∧ o.lineage = lineage ∧ e.before.lossLineage = none
    ∧ e.after.lossLineage = some lineage

/-- Since the last roll, a cleanup proof of this lineage was accepted after its loss. -/
def ProvenIn (past : List Event) (lineage : ProcessLossLineage) : Prop :=
  ∃ earlier e later fact proof, past = earlier ++ e :: later ∧ (∀ x ∈ later, ¬ x.rolls) ∧ e.made = .observe fact
    ∧ fact.kind = .cleanupCompleted proof ∧ proof.lineage = lineage ∧ e.after.cleanupProven = true
    ∧ LostIn earlier lineage

theorem LostIn.later {lineage : ProcessLossLineage} (h : LostIn past lineage)
    (he : ¬ e.rolls) : LostIn (past ++ [e]) lineage := by
  obtain ⟨earlier, x, later, fact, o, rfl, hlater, hrest⟩ := h
  exact ⟨earlier, x, later ++ [e], fact, o, by simp, List.forall_mem_append.2 ⟨hlater, List.forall_mem_singleton.2 he⟩, hrest⟩

theorem ProvenIn.later {lineage : ProcessLossLineage} (h : ProvenIn past lineage)
    (he : ¬ e.rolls) : ProvenIn (past ++ [e]) lineage := by
  obtain ⟨earlier, x, later, fact, proof, rfl, hlater, hrest⟩ := h
  exact ⟨earlier, x, later ++ [e], fact, proof, by simp, List.forall_mem_append.2 ⟨hlater, List.forall_mem_singleton.2 he⟩, hrest⟩

structure OnRecord (past : List Event) (s : RecoveryState) : Prop where
  lost : ∀ lineage, s.lossLineage = some lineage → LostIn past lineage ∧ lineage.identity = s.identity
  proven : s.cleanupProven = true → ∃ lineage, s.lossLineage = some lineage ∧ ProvenIn past lineage

theorem OnRecord.keep {s' : RecoveryState} (h : OnRecord past s) (he : ¬ e.rolls)
    (hi : s'.identity = s.identity) (hl : s'.lossLineage = s.lossLineage) (hp : s'.cleanupProven = s.cleanupProven) :
    OnRecord (past ++ [e]) s' where
  lost lineage hlineage := by
    obtain ⟨hin, hid⟩ := h.lost lineage (hl ▸ hlineage)
    exact ⟨hin.later he, hid.trans hi.symm⟩
  proven hproven := by
    obtain ⟨lineage, hlineage, hin⟩ := h.proven (hp ▸ hproven)
    exact ⟨lineage, hl ▸ hlineage, hin.later he⟩

theorem OnRecord.observe {f : RuntimeFailureFact}
    (h : OnRecord past s) (hid : f.identity = s.identity) (ho : Observes s f.kind t) :
    OnRecord (past ++ [⟨s, .observe f, t.decision, t.state⟩]) t.state := by
  have hno : ¬ Event.rolls ⟨s, .observe f, t.decision, t.state⟩ := by
    rintro ⟨_, _, hc⟩
    cases hc
  have hidentity := ho.advances.identity
  have hlost : ∀ lineage, t.state.lossLineage = some lineage →
      LostIn (past ++ [⟨s, .observe f, t.decision, t.state⟩]) lineage ∧ lineage.identity = t.state.identity := by
    intro lineage hlineage
    rcases ho.loss with hsame | ⟨hnone, o, hkind, hloss⟩
    · obtain ⟨hin, hli⟩ := h.lost lineage (hsame ▸ hlineage)
      exact ⟨hin.later hno, hli.trans hidentity.symm⟩
    · obtain rfl : o.lineage = lineage := Option.some.inj (hloss.symm.trans hlineage)
      have hnames := f.names
      rw [hkind] at hnames
      refine ⟨⟨past, _, [], f, o, rfl, ?_, rfl, hkind, rfl, hnone, hloss⟩, ?_⟩
      · intro x hx
        cases hx
      · exact hnames.trans (hid.trans hidentity.symm)
  refine ⟨hlost, fun hproven => ?_⟩
  rcases ho.proof with hsame | ⟨_, p, hkind, hlineage⟩
  · obtain ⟨lineage, hlineage, hin⟩ := h.proven (hsame ▸ hproven)
    refine ⟨lineage, ?_, hin.later hno⟩
    rcases ho.loss with hl | ⟨hnone, _⟩
    · exact hl.trans hlineage
    · rw [hnone] at hlineage
      cases hlineage
  · refine ⟨p.lineage, ?_, past, _, [], f, p, rfl, ?_, rfl, hkind, rfl, hproven, (h.lost _ hlineage).1⟩
    · rcases ho.loss with hl | ⟨hnone, _⟩
      · exact hl.trans hlineage
      · rw [hnone] at hlineage
        cases hlineage
    · intro x hx
      cases hx

structure RunInv (past : List Event) (s : RecoveryState) : Prop where
  sound : Sound s
  record : OnRecord past s
  ids : (past.filterMap Event.executes).Pairwise (· < ·) ∧ ∀ id ∈ past.filterMap Event.executes, id ≤ s.nextActionId
  last : ∀ c, s.lastCompletedAction = some c → Spent s c.id
  spent : ∀ e ∈ past, ∀ id outcome observedAt, e.made = .complete id outcome observedAt → Spent s id

theorem executes_eq : e.executes = some id ↔ ∃ env, e.decision = .execute env ∧ env.id = id := by
  unfold Event.executes
  cases e.decision <;> simp

theorem RunInv.ids_step (h : RunInv past s) (hc : call sha256 s c = .ok t) :
    (List.filterMap Event.executes (past ++ [⟨s, c, t.decision, t.state⟩])).Pairwise (· < ·) ∧
      ∀ id ∈ List.filterMap Event.executes (past ++ [⟨s, c, t.decision, t.state⟩]), id ≤ t.state.nextActionId := by
  obtain ⟨hpairwise, hle⟩ := h.ids
  rw [List.filterMap_append]
  cases hx : Event.executes ⟨s, c, t.decision, t.state⟩ with
  | none =>
    rw [List.filterMap_cons_none hx, List.filterMap_nil, List.append_nil]
    refine ⟨hpairwise, fun id hid => ?_⟩
    have hrest : ∀ env, t.decision ≠ .execute env := by
      intro env he
      rw [executes_eq.2 ⟨env, he, rfl⟩] at hx
      cases hx
    have hnext : t.state.nextActionId = s.nextActionId := by
      rcases call_cases h.sound hc with ⟨ha, _⟩ | ⟨_, _, _, hroll, _⟩
      · exact (ha.rested hrest).1
      · exact (rollGeneration_ok hroll).2.2.2.2.2.1
    rw [hnext]
    exact hle id hid
  | some id =>
    rw [List.filterMap_cons_some hx, List.filterMap_nil]
    obtain ⟨env, hd, rfl⟩ := executes_eq.1 hx
    rcases call_cases h.sound hc with ⟨ha, _⟩ | ⟨_, _, _, _, hnone⟩
    · obtain ⟨henv, hp⟩ := ha.issued env hd
      have hnext := (ha.sound.pending env hp).2
      have hlt : ∀ id ∈ past.filterMap Event.executes, id < env.id := by
        intro id hid
        rw [henv]
        exact Nat.lt_succ_of_le (hle id hid)
      refine ⟨List.pairwise_append.2 ⟨hpairwise, List.pairwise_singleton _ _, ?_⟩, ?_⟩
      · intro id hid other hother
        rw [List.mem_singleton.1 hother]
        exact hlt id hid
      · intro id hid
        rw [← hnext]
        rcases List.mem_append.1 hid with hid | hid
        · exact Nat.le_of_lt (hlt id hid)
        · rw [List.mem_singleton.1 hid]
    · rw [show t.decision = _ from hd] at hnone
      cases hnone

theorem RunInv.record_step
    (h : RunInv past s) (hc : call sha256 s c = .ok t) : OnRecord (past ++ [⟨s, c, t.decision, t.state⟩]) t.state := by
  cases c with
  | observe f =>
    obtain ⟨hid, ho⟩ := observeFact_observes h.sound hc
    exact h.record.observe hid ho
  | complete id outcome observedAt =>
    obtain ⟨ha, hl, hp⟩ := completeAction_advances h.sound hc
    exact h.record.keep (fun ⟨_, _, hroll⟩ => by cases hroll) ha.identity hl hp
  | poll observedAt =>
    obtain ⟨ha, hl, hp, _⟩ := poll_advances h.sound hc
    exact h.record.keep (fun ⟨_, _, hroll⟩ => by cases hroll) ha.identity hl hp
  | roll identity observedAt =>
    simp only [call, bind_ok, pure_ok] at hc
    obtain ⟨next, hnext, rfl⟩ := hc
    obtain ⟨_, _, _, _, _, _, hlost, hproven, _⟩ := rollGeneration_ok hnext
    refine ⟨fun lineage hl => ?_, fun hp => ?_⟩
    · rw [show next.lossLineage = none from hlost] at hl
      cases hl
    · rw [show next.cleanupProven = false from hproven] at hp
      cases hp

theorem RunInv.last_step
    (h : RunInv past s) (hc : call sha256 s c = .ok t) : ∀ d, t.state.lastCompletedAction = some d → Spent t.state d.id := by
  intro d hd
  have hsame : t.state.lastCompletedAction = s.lastCompletedAction → Spent t.state d.id := fun heq =>
    call_spent h.sound hc (h.last d (heq ▸ hd))
  cases c with
  | observe f => exact hsame (observeFact_observes h.sound hc).2.completed
  | complete id outcome observedAt =>
    obtain ⟨hspent, hlast⟩ := completeAction_spent h.sound h.last hc
    obtain rfl : (⟨id, outcome⟩ : CompletedAction) = d := Option.some.inj (hlast.symm.trans hd)
    exact hspent
  | poll observedAt => exact hsame (poll_advances h.sound hc).2.2.2.1
  | roll identity observedAt =>
    simp only [call, bind_ok, pure_ok] at hc
    obtain ⟨next, hnext, rfl⟩ := hc
    exact hsame (rollGeneration_ok hnext).2.2.2.2.2.2.2.2

theorem RunInv.step
    (h : RunInv past s) (hc : call sha256 s c = .ok t) : RunInv (past ++ [⟨s, c, t.decision, t.state⟩]) t.state := by
  refine ⟨call_sound h.sound hc, h.record_step hc, h.ids_step hc, h.last_step hc, ?_⟩
  intro e he id outcome observedAt hmade
  rcases List.mem_append.1 he with he | he
  · exact call_spent h.sound hc (h.spent e he id outcome observedAt hmade)
  · obtain rfl := List.mem_singleton.1 he
    obtain rfl : c = _ := hmade
    exact (completeAction_spent h.sound h.last hc).1

theorem Traces.inv {identity : ProcessGenerationIdentity} {lifecycle : ProcessLifecycleBudgets}
    {restart : ProcessRestartPolicy}
    (h : Traces sha256 (.tryNew identity lifecycle restart observedAt) past s) : RunInv past s := by
  induction h with
  | start =>
    refine ⟨tryNew_sound .., ⟨fun _ h => (by cases h), fun h => (by cases h)⟩, ⟨.nil, fun _ h => (by cases h)⟩,
      fun _ h => (by cases h), fun _ h => (by cases h)⟩
  | step _ hc ih => exact ih.step hc

theorem Traces.split {s₀ : RecoveryState}
    (h : Traces sha256 s₀ past s) : ∀ {before : List Event} {e : Event} {after : List Event},
      past = before ++ e :: after → Traces sha256 s₀ before e.before
        ∧ ∃ t, call sha256 e.before e.made = .ok t ∧ t.decision = e.decision ∧ t.state = e.after := by
  induction h with
  | start =>
    intro before e after hpast
    cases before <;> cases hpast
  | step hpast hc ih =>
    intro before e after heq
    rcases List.eq_nil_or_concat after with rfl | ⟨after', last, rfl⟩
    · obtain ⟨rfl, hlast⟩ := List.append_inj' heq rfl
      cases hlast
      exact ⟨hpast, _, hc, rfl, rfl⟩
    · rw [List.concat_eq_append, ← List.cons_append, ← List.append_assoc] at heq
      obtain ⟨rfl, _⟩ := List.append_inj' heq rfl
      exact ih rfl

/-- **Once something is held against a generation it stays so**, in every later state of the run. -/
theorem Traces.tainted {identity : ProcessGenerationIdentity} {lifecycle : ProcessLifecycleBudgets}
    {restart : ProcessRestartPolicy}
    (h : Traces sha256 (.tryNew identity lifecycle restart observedAt) past s) :
    ∀ {before : List Event} {e : Event} {after : List Event}, past = before ++ e :: after → Tainted e.after →
      Tainted s ∧ s.identity = e.after.identity ∧ ∀ x ∈ after, ¬ x.rolls ∧ Tainted x.after := by
  induction h with
  | start =>
    intro before e after hpast
    cases before <;> cases hpast
  | @step past s c t hpast hc ih =>
    intro before e after heq ht
    rcases List.eq_nil_or_concat after with rfl | ⟨after', last, rfl⟩
    · obtain ⟨rfl, hlast⟩ := List.append_inj' heq rfl
      cases hlast
      exact ⟨ht, rfl, fun _ hx => by cases hx⟩
    · rw [List.concat_eq_append, ← List.cons_append, ← List.append_assoc] at heq
      obtain ⟨rfl, hlast⟩ := List.append_inj' heq rfl
      obtain ⟨hs, hid, hafter⟩ := ih rfl ht
      obtain ⟨htaint, hid', hroll⟩ := call_tainted hpast.inv.sound hc hs
      refine ⟨htaint, hid'.trans hid, fun x hx => ?_⟩
      rw [List.concat_eq_append] at hx
      rcases List.mem_append.1 hx with hx | hx
      · exact hafter x hx
      · obtain rfl := List.mem_singleton.1 hx
        cases hlast
        exact ⟨fun ⟨i, a, hmade⟩ => hroll i a hmade, htaint⟩

/-! ## Safety -/

theorem RunInv.tainted_not_recovered (h : RunInv past s) (ht : Tainted s)
    (epoch : U64) : s.phase ≠ .recovered epoch := by
  intro hp
  exact (h.sound.cleared (by rw [hp]; rfl)).untainted ht

/-- **A call that asks for an action leaves that one pending, and had none pending or completed the one that was.** -/
theorem call_issues
    {env : RecoveryActionEnvelope} (hs : Sound s) (h : call sha256 s c = .ok t) (hd : t.decision = .execute env) :
    t.state.pendingAction = some env ∧ (s.pendingAction = none ∨ ∃ pending outcome observedAt,
      s.pendingAction = some pending ∧ c = .complete pending.id outcome observedAt) := by
  cases c with
  | observe f =>
    have ho := (observeFact_observes hs h).2
    exact ⟨(ho.advances.issued env hd).2, .inl (ho.idle env hd)⟩
  | complete id outcome observedAt =>
    refine ⟨((completeAction_advances hs h).1.issued env hd).2, ?_⟩
    rcases completeAction_cases h with ⟨_, rfl⟩ | ⟨pending, hp, rfl, _⟩
    · exact absurd hd (unchanged_rests s env)
    · exact .inr ⟨pending, outcome, observedAt, hp, rfl⟩
  | poll observedAt =>
    obtain ⟨ha, _, _, _, hidle⟩ := poll_advances hs h
    exact ⟨(ha.issued env hd).2, .inl (hidle env hd)⟩
  | roll identity observedAt =>
    simp only [call, bind_ok, pure_ok] at h
    obtain ⟨next, _, rfl⟩ := h
    cases hd

/-- **Repeating a completion changes nothing**: the id is spent, so only the last one is answered at all. -/
theorem RunInv.complete_again (h : RunInv past s) (he : e ∈ past)
    {id : U64} {first again : ClockReading} {t : RecoveryTransition}
    (hmade : e.made = .complete id outcome first) (ht : completeAction s id outcome again = .ok t) :
    t = .unchanged s := by
  rcases completeAction_cases ht with ⟨_, rfl⟩ | ⟨pending, hp, hid, _⟩
  · rfl
  · have hlt := (h.spent e he id outcome first hmade).2 pending hp
    rw [hid] at hlt
    exact absurd hlt (Nat.lt_irrefl id)

theorem completeAction_last
    (hlast : s.lastCompletedAction = some ⟨id, outcome⟩) (hclock : validateClock s.lastObservedAt observedAt = .ok ()) :
    completeAction s id outcome observedAt = .ok (.unchanged s) := by
  refine ok_bind hclock ?_
  rw [hlast]
  simp only [if_true]
  rfl

/-- **Recovery is safe over whole runs.**  A fresh domain is asked for only after the loss of the generation was observed
and a cleanup proof of that loss accepted, with nothing held against the generation; a generation something is held
against is never recovered and never rolled; an action is asked for at most once, under ever larger ids, and repeating a
completion changes nothing; and no phase waits for an action that is not pending. -/
theorem recovery_safe_over_runs (sha256 : Sha256) (identity : ProcessGenerationIdentity)
    (lifecycle : ProcessLifecycleBudgets) (restart : ProcessRestartPolicy) (observedAt : ClockReading)
    (calls : List Call) :
    let past := (drive sha256 (.tryNew identity lifecycle restart observedAt) calls).1
    let s := (drive sha256 (.tryNew identity lifecycle restart observedAt) calls).2
    (∀ before e after id epoch, past = before ++ e :: after → e.decision = .execute ⟨id, .startFreshDomain epoch⟩ →
      e.before.externalEffectUncertain = false ∧ e.before.quarantineReason = none ∧
      ∃ lineage, lineage.identity = e.before.identity ∧ ProvenIn before lineage) ∧
    (∀ before e after, past = before ++ e :: after →
      e.after.externalEffectUncertain = true ∨ e.after.quarantineReason ≠ none →
      (∀ epoch, e.after.phase ≠ .recovered epoch) ∧
      (∀ x ∈ after, ¬ x.rolls ∧ ∀ epoch, x.after.phase ≠ .recovered epoch) ∧
      ∀ identity' observedAt', ∃ error, rollGeneration s identity' observedAt' = .error error) ∧
    ((past.filterMap Event.executes).Pairwise (· < ·) ∧
      (∀ e ∈ past, ∀ env, e.decision = .execute env → e.after.pendingAction = some env ∧
        (e.before.pendingAction = none ∨ ∃ pending outcome observedAt', e.before.pendingAction = some pending
          ∧ e.made = .complete pending.id outcome observedAt')) ∧
      (∀ e ∈ past, ∀ id outcome first, e.made = .complete id outcome first → ∀ again t,
        completeAction s id outcome again = .ok t → t = .unchanged s) ∧
      ∀ id outcome again, s.lastCompletedAction = some ⟨id, outcome⟩ →
        validateClock s.lastObservedAt again = .ok () → completeAction s id outcome again = .ok (.unchanged s)) ∧
    (s.pendingAction = none → s.phase.acts = false) := by
  intro past s
  have h : Traces sha256 (.tryNew identity lifecycle restart observedAt) past s := Traces.drive calls .start
  refine ⟨?_, ?_, ⟨h.inv.ids.1, ?_, ?_, fun id outcome again => completeAction_last⟩, h.inv.sound.rests⟩
  · intro before e after id epoch hpast hd
    obtain ⟨hbefore, t, hc, hdecision, _⟩ := h.split hpast
    have hinv := hbefore.inv
    rw [← hdecision] at hd
    rcases call_cases hinv.sound hc with ⟨ha, _⟩ | ⟨_, _, _, _, hnone⟩
    · have hclear := hinv.sound.cleared (ha.fresh id epoch hd)
      have huntainted := hclear.untainted
      obtain ⟨lineage, hlineage, hproven⟩ := hinv.record.proven hclear.proven
      refine ⟨?_, ?_, lineage, (hinv.record.lost lineage hlineage).2, hproven⟩
      · exact Bool.of_not_eq_true fun hu => huntainted (.inl hu)
      · exact not_not.1 fun hr => huntainted (.inr hr)
    · rw [hd] at hnone
      cases hnone
  · intro before e after hpast ht
    obtain ⟨hs, _, hafter⟩ := h.tainted hpast ht
    obtain ⟨hbefore, t, hc, _, hstate⟩ := h.split hpast
    refine ⟨?_, fun x hx => ⟨(hafter x hx).1, ?_⟩, fun identity' observedAt' => ?_⟩
    · rw [← hstate] at ht ⊢
      exact (hbefore.inv.step hc).tainted_not_recovered ht
    · obtain ⟨pre, post, rfl⟩ := List.append_of_mem hx
      have hpast' : past = (before ++ e :: pre) ++ x :: post := by rw [hpast]; simp
      obtain ⟨hx', t', hc', _, hstate'⟩ := h.split hpast'
      have htx := (hafter x hx).2
      rw [← hstate'] at htx ⊢
      exact (hx'.inv.step hc').tainted_not_recovered htx
    · cases hroll : rollGeneration s identity' observedAt' with
      | error error => exact ⟨error, rfl⟩
      | ok s' => exact absurd hs (rollGeneration_ok hroll).2.1
  · intro e he env hd
    obtain ⟨before, after, hpast⟩ := List.append_of_mem he
    obtain ⟨hbefore, t, hc, hdecision, hstate⟩ := h.split hpast
    rw [← hstate]
    exact call_issues hbefore.inv.sound hc (hdecision.trans hd)
  · intro e he id outcome first hmade again t ht
    exact h.inv.complete_again he hmade ht

/-! ## A run to a fresh domain -/

def sampleIdentity : ProcessGenerationIdentity := ⟨.ofNat 1, 1, 1, .ofNat 2, .ofNat 3, 1⟩
def sampleReading (now : U64) : ClockReading := ⟨.ofNat 4, 1, now⟩
/-- The loss of the domain's generation `epoch` after `now`, up to the poll that may start the next one. -/
def sampleLife (epoch action now : Nat) : List Call :=
  let identity := { sampleIdentity with domainEpoch := epoch }
  let lineage : ProcessLossLineage := ⟨identity, 1, 0, 0, 0, 0, 0, false⟩
  [.observe ⟨identity, 1, sampleReading (now + 1), .processExited ⟨lineage, false, []⟩, Nat.one_ne_zero, rfl⟩,
    .complete action .succeeded (sampleReading (now + 2)), .complete (action + 1) .succeeded (sampleReading (now + 3)),
    .observe ⟨identity, 2, sampleReading (now + 4), .cleanupCompleted ⟨lineage, ⟨true, 0, 0, 0, 0, 0, 0⟩⟩, Nat.succ_ne_zero 1,
      rfl⟩,
    .poll (sampleReading (now + 20))]

example : (drive (fun _ => 0) (.tryNew sampleIdentity ⟨10, 10, 10, 10⟩ ⟨3, 1000, 5, 50, 0⟩ (sampleReading 0))
    (sampleLife 1 1 0)).1.filterMap Event.executes = [1, 2, 3] := by
  decide +kernel

end Recovery
end ParaEgox
