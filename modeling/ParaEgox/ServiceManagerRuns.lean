import ParaEgox.ServiceManagerStep
import Mathlib.Data.List.TakeWhile

/-!
# ServiceManagerRuns — one owned process, and restarts within the budget

Between two calls of the manager its fields agree with its state, the newest child is the one it owns and every other child is
settled.  The ledger holds the attempts that are still in the window, and every spawn call but the first has its attempt in it
or in what the ledger dropped, so a call has fewer than the maximum behind it.
-/
namespace ParaEgox
namespace ServiceManager

open Check Program

variable {m : RuntimeHostServiceManager} {w : World} {policy : RuntimeHostServiceManagerPolicy} {range : InstantRange}
  {bad : ServiceManagerError → RuntimeHostServiceManager → World → Prop}

/-! ## The ledger -/

/-- The instant a failure counts from: an exit of the host from the reading before the wait that showed it, any other failure
from its record. -/
def DetectionLog.since (d : DetectionLog) : Int := if d.failure = .hostExited then d.waited else d.instant

variable {d : DetectionLog} {t : Int} {failure : ServiceManagerFailure}

theorem DetectionLog.since_le (hwaited : d.waited ≤ t) (hinstant : d.instant ≤ t) : d.since ≤ t := by
  unfold since
  split
  · exact hwaited
  · exact hinstant

/-- Every spawn call but the first of the run. -/
def World.replacements (w : World) : List SpawnLog := w.spawns.tail

def replacementsIn (policy : RuntimeHostServiceManagerPolicy) (w : World) (start : Int) : List SpawnLog :=
  w.replacements.filter fun s => start ≤ s.instant ∧ s.instant ≤ start + policy.restart.window

def Due (policy : RuntimeHostServiceManagerPolicy) (detected : Option DetectionLog) (instant : Int) : Prop :=
  ∃ d, detected = some d ∧ d.since + policy.restart.initialBackoff ≤ instant

/-- **The invariant of generations, spawn calls and the pending restart.** -/
structure Ledger (policy : RuntimeHostServiceManagerPolicy) (m : RuntimeHostServiceManager) (w : World) : Prop where
  governs : m.policy = policy
  generations : w.children.Pairwise fun newer older => older.generation < newer.generation
  below : ∀ c ∈ w.children, c.generation ≤ m.generation
  spent : ∃ old, (w.replacements.map (·.instant)).Sublist (old ++ m.restartAttempts) ∧
    ∀ t ∈ old, t + policy.restart.window < w.clock
  budget : ∀ start, (replacementsIn policy w start).length ≤ policy.restart.maximumRestarts
  backoff : ∀ s ∈ w.replacements, Due policy s.detected s.instant
  pending : ∀ p, m.pendingRestart = some p → Due policy w.detected p.due
  waited : w.waited ≤ w.clock

theorem Ledger.later (h : Ledger policy m w) (ht : w.clock ≤ t) (entries : List ServiceManagerEvidence) :
    Ledger policy { m with evidence := entries } { w with clock := t } := by
  obtain ⟨old, hsplit, hold⟩ := h.spent
  exact ⟨h.governs, h.generations, h.below, ⟨old, hsplit, fun x hx => lt_of_lt_of_le (hold x hx) ht⟩, h.budget, h.backoff,
    h.pending, le_trans h.waited ht⟩

theorem Ledger.stamped (h : Ledger policy m w) (hpending : m.pendingRestart = none) (kind : ServiceManagerEvidenceKind)
    (ht : w.clock ≤ t) (entries : List ServiceManagerEvidence) :
    Ledger policy { m with evidence := entries } (w.stamped kind t) := by
  obtain ⟨hgoverns, hgenerations, hbelow, hspent, hbudget, hbackoff, -, hwaited⟩ := h.later ht entries
  refine ⟨hgoverns, hgenerations, hbelow, hspent, hbudget, hbackoff, ?_, hwaited⟩
  intro p hp
  change m.pendingRestart = some p at hp
  rw [hpending] at hp
  cases hp

theorem Ledger.tended (h : Ledger policy m w) {c c' : ChildLog} {cs : List ChildLog} {w' : World} (ht : Tended w c cs w' c')
    (entries : List ServiceManagerEvidence) : Ledger policy { m with evidence := entries } w' := by
  obtain ⟨hpolicy, hgenerations, hbelow, ⟨old, hsplit, hold⟩, hbudget, hbackoff, hpending, hwaited⟩ := h
  have hreplacements : w'.replacements = w.replacements := congrArg List.tail ht.spawns
  rw [ht.before] at hgenerations hbelow
  refine ⟨hpolicy, ?_, ?_, ⟨old, ?_, fun x hx => lt_of_lt_of_le (hold x hx) ht.clock⟩, ?_, ?_, ?_, ht.waited hwaited⟩
  · rw [ht.after]
    obtain ⟨hhead, htail⟩ := List.pairwise_cons.1 hgenerations
    exact List.pairwise_cons.2 ⟨fun x hx => ht.generation.symm ▸ hhead x hx, htail⟩
  · rw [ht.after]
    intro x hx
    rcases List.mem_cons.1 hx with rfl | hx
    · exact ht.generation.symm ▸ hbelow c List.mem_cons_self
    · exact hbelow x (List.mem_cons_of_mem _ hx)
  · rw [hreplacements]
    exact hsplit
  · unfold replacementsIn
    rw [hreplacements]
    exact hbudget
  · rw [hreplacements]
    exact hbackoff
  · rw [ht.detected]
    exact hpending

variable {m' : RuntimeHostServiceManager} {pid : UInt32} {generation : UInt64} {w' : World} {now : Int}
  {active : ManagedRuntimeHost}

theorem Ledger.of_fields (h : Ledger policy m w) (hpolicy : m'.policy = m.policy)
    (hgeneration : m'.generation = m.generation) (hattempts : m'.restartAttempts = m.restartAttempts)
    (hpending : m'.pendingRestart = m.pendingRestart ∨ m'.pendingRestart = none) : Ledger policy m' w := by
  refine ⟨hpolicy.trans h.governs, h.generations, hgeneration ▸ h.below, hattempts ▸ h.spent, h.budget, h.backoff, ?_, h.waited⟩
  intro p hp
  rcases hpending with hsame | hnone
  · exact h.pending p (hsame ▸ hp)
  · rw [hnone] at hp
    cases hp

/-! ## Ownership -/

def Clear (w : World) : Prop := ∀ c ∈ w.children, Settled c

def Owns (w : World) (pid : UInt32) (generation : UInt64) : Prop :=
  ∃ c cs, w.children = c :: cs ∧ c.pid = pid ∧ c.generation = generation ∧ ∀ x ∈ cs, Settled x

def Holds (m : RuntimeHostServiceManager) (w : World) : Prop :=
  match m.active, m.failedSpawnCleanup with
  | some active, none => Owns w active.pid active.generation
  | none, some owner => Owns w owner.pid owner.generation
  | none, none => Clear w
  | some _, some _ => False

structure Coherent (m : RuntimeHostServiceManager) : Prop where
  active : (m.state = .bootstrapping ∨ m.state = .running) ↔ m.active.isSome ∧ m.state ≠ .quarantined
  pending : m.state = .restartBackoff ↔ m.pendingRestart.isSome
  failed : m.failedSpawnCleanup.isSome → m.state = .quarantined

/-- **The invariant of a manager in its world.** -/
structure Good (policy : RuntimeHostServiceManagerPolicy) (m : RuntimeHostServiceManager) (w : World) : Prop where
  ledger : Ledger policy m w
  holds : Holds m w
  coherent : Coherent m

structure Idle (policy : RuntimeHostServiceManagerPolicy) (m : RuntimeHostServiceManager) (w : World) : Prop where
  ledger : Ledger policy m w
  active : m.active = none
  failed : m.failedSpawnCleanup = none
  clear : Clear w

theorem Idle.later (h : Idle policy m w) (ht : w.clock ≤ t) (entries : List ServiceManagerEvidence) :
    Idle policy { m with evidence := entries } { w with clock := t } :=
  ⟨h.ledger.later ht entries, h.active, h.failed, h.clear⟩

theorem Idle.stamped (h : Idle policy m w) (hpending : m.pendingRestart = none) (kind : ServiceManagerEvidenceKind)
    (ht : w.clock ≤ t) (entries : List ServiceManagerEvidence) :
    Idle policy { m with evidence := entries } (w.stamped kind t) :=
  ⟨h.ledger.stamped hpending kind ht entries, h.active, h.failed, h.clear⟩

theorem Idle.good {m : RuntimeHostServiceManager} (h : Idle policy m w) (hstate : m.state ≠ .bootstrapping ∧ m.state ≠ .running)
    (hpending : m.state = .restartBackoff ↔ m.pendingRestart.isSome) : Good policy m w := by
  refine ⟨h.ledger, ?_, ⟨?_, hpending, ?_⟩⟩
  · unfold Holds
    rw [h.active, h.failed]
    exact h.clear
  · rw [h.active]
    simp [hstate.1, hstate.2]
  · rw [h.failed]
    simp

/-! ## Attempts -/

theorem durationSince_gt {later earlier : Int} {d : Nat} (h : d < durationSince later earlier) : earlier + d < later := by
  unfold durationSince at h
  omega

theorem Ledger.pruned (h : Ledger policy m w) {now : Int} (hnow : now ≤ w.clock) :
    Ledger policy { m with restartAttempts := m.restartAttempts.dropWhile fun attempt =>
      m.policy.restart.window < durationSince now attempt } w := by
  obtain ⟨old, hsplit, hold⟩ := h.spent
  refine ⟨h.governs, h.generations, h.below, ⟨old ++ m.restartAttempts.takeWhile fun attempt =>
    m.policy.restart.window < durationSince now attempt, ?_, ?_⟩, h.budget, h.backoff, h.pending, h.waited⟩
  · rw [List.append_assoc, List.takeWhile_append_dropWhile]
    exact hsplit
  · intro t ht
    rcases List.mem_append.1 ht with ht | ht
    · exact hold t ht
    · have hout := List.mem_takeWhile_imp ht
      rw [h.governs] at hout
      exact lt_of_lt_of_le (durationSince_gt (of_decide_eq_true hout)) hnow

theorem Ledger.committed (h : Ledger policy m w) {now : Int} :
    Ledger policy { m with restartAttempts := m.restartAttempts ++ [now] } w := by
  obtain ⟨old, hsplit, hold⟩ := h.spent
  refine ⟨h.governs, h.generations, h.below, ⟨old, ?_, hold⟩, h.budget, h.backoff, h.pending, h.waited⟩
  rw [← List.append_assoc]
  exact hsplit.trans (List.sublist_append_left _ _)

theorem replacements_called (w : World) :
    w.called.replacements.Sublist (w.replacements ++ [{ instant := w.clock, detected := w.detected }]) := by
  unfold World.called World.replacements
  cases w.spawns with
  | nil => exact List.nil_sublist _
  | cons s rest => exact List.Sublist.refl _

/-- **A spawn call within the budget keeps the budget**: what is behind the kept attempts is out of every window it is in. -/
theorem Ledger.called (h : Ledger policy m w) (hroom : m.restartAttempts.length < policy.restart.maximumRestarts)
    (hdue : Due policy w.detected w.clock) :
    Ledger policy { m with restartAttempts := m.restartAttempts ++ [w.clock] } w.called := by
  obtain ⟨old, hsplit, hold⟩ := h.spent
  have hsub := replacements_called w
  refine ⟨h.governs, h.generations, h.below, ⟨old, ?_, hold⟩, ?_, ?_, h.pending, h.waited⟩
  · rw [← List.append_assoc]
    refine (hsub.map _).trans ?_
    rw [List.map_append]
    exact hsplit.append (List.Sublist.refl _)
  · intro start
    refine (hsub.filter _).length_le.trans ?_
    rw [List.filter_append, List.length_append]
    by_cases hin : start ≤ w.clock ∧ w.clock ≤ start + policy.restart.window
    · have hkept : (replacementsIn policy w start).length ≤ m.restartAttempts.length := by
        have hcount : (replacementsIn policy w start).length = ((w.replacements.map (·.instant)).filter fun t =>
            decide (start ≤ t ∧ t ≤ start + policy.restart.window)).length := by
          rw [replacementsIn, List.filter_map, List.length_map]
          rfl
        have hnone : old.filter (fun t => decide (start ≤ t ∧ t ≤ start + policy.restart.window)) = [] := by
          refine List.filter_eq_nil_iff.2 fun t ht hwindow => ?_
          have hout := hold t ht
          have hbetween := of_decide_eq_true hwindow
          omega
        rw [hcount]
        refine (hsplit.filter _).length_le.trans ?_
        rw [List.filter_append, hnone, List.nil_append]
        exact List.length_filter_le _ _
      have hone : (([{ instant := w.clock, detected := w.detected }] : List SpawnLog).filter fun s =>
          decide (start ≤ s.instant ∧ s.instant ≤ start + policy.restart.window)).length ≤ 1 := List.length_filter_le _ _
      unfold replacementsIn at hkept
      omega
    · have hone : ([{ instant := w.clock, detected := w.detected }] : List SpawnLog).filter (fun s =>
          decide (start ≤ s.instant ∧ s.instant ≤ start + policy.restart.window)) = [] := by
        refine List.filter_eq_nil_iff.2 fun s hs hwindow => hin ?_
        rw [List.mem_singleton.1 hs] at hwindow
        exact of_decide_eq_true hwindow
      rw [hone]
      exact h.budget start
  · intro s hs
    rcases List.mem_append.1 (hsub.subset hs) with hs | hs
    · exact h.backoff s hs
    · rw [List.mem_singleton.1 hs]
      exact hdue

theorem initialBackoff_le_restartDelay (hpolicy : policy.Admitted) (attempt : Nat) (generation : UInt64) :
    policy.restart.initialBackoff ≤ restartDelay policy.restart attempt generation := by
  have hrestart := hpolicy.restart
  simp only [HostRestartPolicy.tryNew, bind_ok, rejectIf_ok, exists_unit, not_or, Nat.not_lt] at hrestart
  obtain ⟨⟨-, -, -, -, -, hmaximum, hmax, -⟩, -⟩ := hrestart
  have hmultiplier : policy.restart.initialBackoff ≤ policy.restart.initialBackoff * 2 ^ min (attempt - 1) 31 :=
    Nat.le_mul_of_pos_right _ (Nat.two_pow_pos _)
  have hduration : policy.restart.initialBackoff ≤ maxDuration :=
    le_trans (le_trans hmaximum hmax) (by decide)
  have hbase : policy.restart.initialBackoff ≤
      min (min maxDuration (policy.restart.initialBackoff * 2 ^ min (attempt - 1) 31)) policy.restart.maximumBackoff :=
    le_min (le_min hduration hmultiplier) hmaximum
  unfold restartDelay
  dsimp only
  split
  · exact hbase
  · exact le_min hduration (le_trans hbase (Nat.le_add_right _ _))

/-! ## Contracts of the transitions -/

theorem spec_quarantine (h : Idle policy m w) :
    Spec (quarantine failure) m w (fun _ m' w' => Good policy m' w') bad := by
  unfold quarantine
  rw [Spec, Job.meets_bind, Job.meets_update]
  refine spec_record fun entries t ht => ?_
  have hidle : Idle policy { m with pendingRestart := none, state := .quarantined } w :=
    ⟨h.ledger.of_fields rfl rfl rfl (.inr rfl), h.active, h.failed, h.clear⟩
  exact (hidle.later ht entries).good (by simp) (by simp)

theorem spec_scheduleAfter (h : Idle policy m w) {now : Int} {attempt delay : Nat}
    (hdelay : policy.restart.initialBackoff ≤ delay) (hdetected : w.detected = some d)
    (hsince : d.since ≤ now) : Spec (scheduleAfter range failure now attempt delay) m w
      (fun _ m' w' => Good policy m' w') bad := by
  unfold scheduleAfter
  split
  · exact spec_quarantine h
  · rename_i due hdue
    rw [Spec, Job.meets_bind, Job.meets_update]
    refine spec_record fun entries t ht => ?_
    obtain ⟨hp, hg, hb, hs, hbudget, hbackoff, -, hwaited⟩ := (h.later (t := t) ht entries).ledger
    refine Idle.good ⟨⟨hp, hg, hb, hs, hbudget, hbackoff, ?_, hwaited⟩, h.active, h.failed, h.clear⟩ (by simp) (by simp)
    rintro p hsome
    obtain rfl := Option.some.inj hsome
    simp only [InstantRange.checkedAdd, Option.ite_none_right_eq_some, Option.some.injEq] at hdue
    obtain ⟨-, rfl⟩ := hdue
    exact ⟨d, hdetected, show d.since + _ ≤ now + delay by omega⟩

/-- **A restart that is scheduled is due no earlier than the first backoff after the instant its failure counts from.** -/
theorem spec_scheduleRestart (hpolicy : policy.Admitted) (h : Idle policy m w) {now : Int}
    (hnow : now ≤ w.clock) (hdetected : w.detected = some d) (hsince : d.since ≤ now) :
    Spec (scheduleRestart range failure now) m w (fun _ m' w' => Good policy m' w') bad := by
  unfold scheduleRestart pruneRestartAttempts
  rw [Spec, Job.meets_bind, Job.meets_update, Job.meets_bind, Job.meets_self]
  have hidle : Idle policy { m with restartAttempts := m.restartAttempts.dropWhile fun attempt =>
      m.policy.restart.window < durationSince now attempt } w :=
    ⟨h.ledger.pruned hnow, h.active, h.failed, h.clear⟩
  split
  · exact spec_quarantine hidle
  · refine spec_scheduleAfter hidle ?_ hdetected hsince
    rw [h.ledger.governs]
    exact initialBackoff_le_restartDelay hpolicy _ _

theorem spec_commitRestartAttempt (h : Idle policy m w)
    (hdue : Due policy w.detected w.clock) (hpending : m.pendingRestart = none) :
    Spec (commitRestartAttempt failure w.clock) m w
      (fun committed m' w' => if committed then Idle policy m' w' ∧ m'.pendingRestart = none ∧ Ledger policy m' w'.called
        else Good policy m' w') bad := by
  unfold commitRestartAttempt pruneRestartAttempts
  rw [Spec, Job.meets_bind, Job.meets_update, Job.meets_bind, Job.meets_self]
  have hidle : Idle policy { m with restartAttempts := m.restartAttempts.dropWhile fun attempt =>
      m.policy.restart.window < durationSince w.clock attempt } w :=
    ⟨h.ledger.pruned (le_refl _), h.active, h.failed, h.clear⟩
  split
  · rw [Job.meets_bind]
    exact (spec_quarantine hidle).mono (fun _ _ _ hq => hq) fun _ _ _ hq => hq
  · rename_i hroom
    rw [Job.meets_bind, Job.meets_update]
    rw [h.ledger.governs, not_le] at hroom
    have hcalled := hidle.ledger.called (by rw [h.ledger.governs]; exact hroom) hdue
    exact ⟨⟨hidle.ledger.committed, h.active, h.failed, h.clear⟩, hpending, hcalled⟩

/-! ## Spawning -/

structure Starting (policy : RuntimeHostServiceManagerPolicy) (pid : UInt32) (generation : UInt64)
    (m : RuntimeHostServiceManager) (w : World) : Prop where
  ledger : Ledger policy m w
  active : m.active = none
  failed : m.failedSpawnCleanup = none
  pending : m.pendingRestart = none
  owns : Owns w pid generation

theorem Starting.later (h : Starting policy pid generation m w)
    (ht : w.clock ≤ t) (entries : List ServiceManagerEvidence) :
    Starting policy pid generation { m with evidence := entries } { w with clock := t } :=
  ⟨h.ledger.later ht entries, h.active, h.failed, h.pending, h.owns⟩

theorem Starting.stamped (h : Starting policy pid generation m w) (kind : ServiceManagerEvidenceKind)
    (ht : w.clock ≤ t) (entries : List ServiceManagerEvidence) :
    Starting policy pid generation { m with evidence := entries } (w.stamped kind t) :=
  ⟨h.ledger.stamped h.pending kind ht entries, h.active, h.failed, h.pending, h.owns⟩

theorem Starting.tended {c c' : ChildLog} {cs : List ChildLog}
    (h : Starting policy pid generation m w) (hcs : ∀ x ∈ cs, Settled x) (hpid : c.pid = pid)
    (hgeneration : c.generation = generation) (ht : Tended w c cs w' c') (entries : List ServiceManagerEvidence) :
    Starting policy pid generation { m with evidence := entries } w' :=
  ⟨h.ledger.tended ht entries, h.active, h.failed, h.pending,
    ⟨c', cs, ht.after, ht.pid.trans hpid, ht.generation.trans hgeneration, hcs⟩⟩

theorem Starting.reaped {c c' : ChildLog} {cs : List ChildLog}
    (h : Starting policy pid generation m w) (hcs : ∀ x ∈ cs, Settled x) (hpid : c.pid = pid)
    (hgeneration : c.generation = generation) (ht : Tended w c cs w' c') (hsettled : Settled c')
    (entries : List ServiceManagerEvidence) : Idle policy { m with evidence := entries } w' := by
  refine ⟨(h.tended hcs hpid hgeneration ht entries).ledger, h.active, h.failed, fun x hx => ?_⟩
  rw [ht.after] at hx
  rcases List.mem_cons.1 hx with rfl | hx
  · exact hsettled
  · exact hcs x hx

abbrev Spawning (policy : RuntimeHostServiceManagerPolicy) (j : SM Unit) (m : RuntimeHostServiceManager) (w : World) : Prop :=
  Spec j m w (fun _ m' w' => Good policy m' w') fun _ m' w' => Idle policy m' w' ∧ m'.pendingRestart = none

theorem spec_rejectSpawnedChild {owner : FailedSpawnCleanupOwner} {setupError : ServiceManagerError}
    (h : Starting policy owner.pid owner.generation m w) :
    Spawning policy (rejectSpawnedChild range owner setupError) m w := by
  unfold rejectSpawnedChild
  rw [Spawning, Spec, Job.meets_bind]
  refine spec_recordFor fun entries t ht => ?_
  have hlater := h.stamped (.failureDetected .spawnSetupFailed) ht entries
  obtain ⟨c, cs, hc, hpid, hgeneration, hcs⟩ := hlater.owns
  rw [Job.meets_bind, Job.meets_result]
  refine (tends_killAndReapFailedSpawn (P := fun _ => True) rfl _ _ c cs hc hpid trivial).mono ?_ ?_
  · rintro _ m₁ w₁ ⟨⟨entries', rfl⟩, c', htended, hsettled⟩
    exact ⟨hlater.reaped hcs hpid hgeneration htended hsettled entries', h.pending⟩
  · rintro e m₁ w₁ ⟨⟨entries', rfl⟩, c', htended, -⟩
    have hstarting := hlater.tended hcs hpid hgeneration htended entries'
    unfold finishRejectedSpawn
    rw [Job.meets_bind, Job.meets_update, Job.meets_bind]
    refine spec_recordFor fun entries₂ t₂ ht₂ => ?_
    rw [Job.meets_bind]
    refine spec_recordFor fun entries₃ t₃ ht₃ => ?_
    have hfinal := (hstarting.stamped (.failureDetected .spawnCleanupFailed) ht₂ entries₂).later (t := t₃) ht₃ entries₃
    refine ⟨hfinal.ledger.of_fields rfl rfl rfl (.inr rfl), ?_, ⟨?_, ?_, ?_⟩⟩
    · unfold Holds
      simp only [h.active]
      exact hfinal.owns
    · simp
    · simp
    · simp

theorem spec_installHost (h : Starting policy pid generation m w) :
    Spawning policy (installHost range generation pid now) m w := by
  unfold installHost
  rw [Spawning, Spec, Job.meets_bind, Job.meets_self, Job.meets_bind]
  refine (quiet_sendControlProbe m w).mono ?_ fun _ _ _ hfalse => hfalse.elim
  rintro ⟨sent, active⟩ m₁ w₁ ⟨⟨entries, rfl⟩, ⟨t, ht, rfl⟩, hsame⟩
  have hlater := h.later ht entries
  have hpid : active.pid = pid := hsame.1
  have hgeneration : active.generation = generation := hsame.2
  cases sent with
  | none =>
    refine spec_rejectSpawnedChild ?_
    change Starting policy active.pid active.generation _ _
    rw [hpid, hgeneration]
    exact hlater
  | some nonce =>
    change Job.Meets react _ (Job.update _ >>= _) _ _ _ _
    rw [Job.meets_bind, Job.meets_update, Job.meets_bind]
    refine spec_recordFor fun entries₂ t₂ ht₂ => ?_
    have hfinal := hlater.later (t := t₂) ht₂ entries₂
    refine ⟨hfinal.ledger.of_fields rfl rfl rfl (.inl rfl), ?_, ⟨?_, ?_, ?_⟩⟩
    · unfold Holds
      simp only [h.failed, hpid, hgeneration]
      exact hfinal.owns
    · simp
    · simp [h.pending]
    · simp [h.failed]

theorem spec_setNonblocking {good : Unit → RuntimeHostServiceManager → World → Prop}
    (hgood : good () m w) (hbad : ∀ e, bad e m w) : Spec (setNonblocking pid) m w good bad := by
  unfold setNonblocking
  rw [Spec, Job.meets_bind]
  refine ⟨trivial, ?_⟩
  rintro (e | _) w₁ rfl
  · exact hbad _
  · change Job.Meets react _ (Job.lift _ _ >>= _) _ _ _ _
    rw [Job.meets_bind, Job.meets_lift]
    refine ⟨fun _ _ => ?_, fun e he => by cases he⟩
    rw [Job.meets_bind]
    refine ⟨trivial, ?_⟩
    rintro (e | _) w₂ rfl
    · exact hbad _
    · exact hgood

theorem spec_installChild {child : SpawnedChild}
    (h : Starting policy child.pid generation m w) : Spawning policy (installChild range generation child now) m w := by
  unfold installChild
  dsimp only
  split
  · exact spec_rejectSpawnedChild h
  · rw [Spawning, Spec, Job.meets_bind, Job.meets_result]
    exact spec_setNonblocking (spec_installHost h) fun e => spec_rejectSpawnedChild h

/-- **A child is spawned over settled children, under a generation none of them had.** -/
theorem spec_spawnNext (h : Idle policy m w) (hpending : m.pendingRestart = none) (hcalled : Ledger policy m w.called)
    {now : Int} : Spawning policy (spawnNext range now) m w := by
  have hidle : Idle policy m w ∧ m.pendingRestart = none := ⟨h, hpending⟩
  unfold spawnNext
  rw [Spawning, Spec, Job.meets_bind, Job.meets_self, Job.meets_bind, Job.meets_rejectIf]
  refine ⟨fun _ => ?_, fun _ => hidle⟩
  rw [Job.meets_bind, Job.meets_need]
  refine ⟨fun generation hgeneration => ?_, fun _ => hidle⟩
  rw [Job.meets_bind, Job.meets_rejectIf]
  refine ⟨fun _ => ?_, fun _ => hidle⟩
  rw [Job.meets_bind, Job.meets_lift]
  refine ⟨fun heartbeat _ => ?_, fun _ _ => hidle⟩
  rw [Job.meets_bind, Job.meets_lift]
  refine ⟨fun handshake _ => ?_, fun _ _ => hidle⟩
  rw [Job.meets_bind, Job.meets_call]
  refine ⟨trivial, ?_⟩
  rintro (e | child) w₁ rfl
  · exact ⟨⟨hcalled, h.active, h.failed, h.clear⟩, hpending⟩
  · rw [Job.meets_bind, Job.meets_lift]
    refine ⟨fun spawned hspawned => ?_, fun _ he => by cases he⟩
    obtain rfl := Except.ok.inj hspawned
    rw [Job.meets_bind, Job.meets_update, Job.meets_bind]
    refine spec_recordFor fun entries t ht => spec_installChild ?_
    have hnext : generation.toNat = m.generation.toNat + 1 := succU64_eq_some.1 hgeneration
    have hbelow : ∀ c ∈ w.children, c.generation < generation := by
      intro c hc
      have hle := UInt64.le_iff_toNat_le.1 (h.ledger.below c hc)
      rw [UInt64.lt_iff_toNat_lt]
      omega
    refine ⟨?_, h.active, h.failed, hpending, ⟨_, w.children, rfl, rfl, rfl, h.clear⟩⟩
    obtain ⟨hgoverns, hgenerations, -, hspent, hbudget, hbackoff, hpend, hwaited⟩ := hcalled.later ht entries
    refine ⟨hgoverns, ?_, ?_, hspent, hbudget, hbackoff, hpend, hwaited⟩
    · exact List.pairwise_cons.2 ⟨fun c hc => hbelow c hc, hgenerations⟩
    · intro c hc
      rcases List.mem_cons.1 hc with rfl | hc
      · exact UInt64.le_refl _
      · exact UInt64.le_of_lt (hbelow c hc)

/-! ## Polls -/

/-- An inconsistent state is one of a leader that was not reaped and whose group is gone. -/
def LeaderLost (e : ServiceManagerError) (w : World) : Prop :=
  e = .stateInconsistent → ∃ c cs, w.children = c :: cs ∧ c.reaped = false ∧ c.gone = true

abbrev Polling {α : Type} (policy : RuntimeHostServiceManagerPolicy) (j : SM α) (m : RuntimeHostServiceManager)
    (w : World) : Prop :=
  Spec j m w (fun _ m' w' => Good policy m' w') fun e m' w' => Good policy m' w' ∧ LeaderLost e w'

theorem Good.starting (h : Good policy m w) (hactive : m.active = some active)
    (hpending : m.pendingRestart = none) : Starting policy active.pid active.generation { m with active := none } w := by
  have hholds := h.holds
  unfold Holds at hholds
  rw [hactive] at hholds
  cases hfailed : m.failedSpawnCleanup with
  | some owner =>
    rw [hfailed] at hholds
    exact hholds.elim
  | none =>
    rw [hfailed] at hholds
    exact ⟨h.ledger.of_fields rfl rfl rfl (.inl rfl), rfl, rfl, hpending, hholds⟩

theorem Starting.keep
    {state : RuntimeHostServiceManagerState} (h : Starting policy pid generation m w) (hpid : active.pid = pid)
    (hgeneration : active.generation = generation) (hstate : state = .bootstrapping ∨ state = .running ∨ state = .quarantined) :
    Good policy { m with active := some active, state := state } w := by
  refine ⟨h.ledger.of_fields rfl rfl rfl (.inl rfl), ?_, ⟨?_, ?_, ?_⟩⟩
  · unfold Holds
    simp only [h.failed, hpid, hgeneration]
    exact h.owns
  · rcases hstate with rfl | rfl | rfl <;> simp
  · rcases hstate with rfl | rfl | rfl <;> simp [h.pending]
  · simp [h.failed]

theorem spec_stopActive {good : Unit → RuntimeHostServiceManager → World → Prop}
    (h : Starting policy active.pid active.generation m w)
    (hkeep : ∀ e m' w', Good policy m' w' → m'.state = .quarantined → w'.spawns = w.spawns → LeaderLost e w' → bad e m' w')
    (hstop : ∀ entries w', Idle policy { m with evidence := entries } w' → w.clock ≤ w'.clock → w'.detected = w.detected →
      w'.spawns = w.spawns → good () { m with evidence := entries } w') :
    Spec (stopActive range active) m w good bad := by
  obtain ⟨c, cs, hc, hcpid, hcgeneration, hcs⟩ := h.owns
  unfold stopActive
  rw [Spec, Job.meets_bind, Job.meets_result]
  refine (tends_terminateAndReap (P := fun _ => True) rfl _ _ c cs hc hcpid trivial).mono ?_ ?_
  · rintro _ m₁ w₁ ⟨⟨entries, rfl⟩, c', htended, hsettled⟩
    exact hstop entries w₁ (h.reaped hcs hcpid hcgeneration htended hsettled entries) htended.clock htended.detected
      htended.spawns
  · rintro e m₁ w₁ ⟨⟨entries, rfl⟩, c', htended, hlost⟩
    have hstarting := h.tended hcs hcpid hcgeneration htended entries
    exact hkeep e _ w₁ (hstarting.keep rfl rfl (.inr (.inr rfl))) rfl htended.spawns fun he =>
      ⟨c', cs, htended.after, hlost he⟩

theorem spec_recover (hpolicy : policy.Admitted) {active : ManagedRuntimeHost}
    {since : Option Int} (h : Starting policy active.pid active.generation m w) (hsince : since.getD w.clock ≤ w.clock)
    (hdetected : w.detected = some d) (hd : d.since ≤ since.getD w.clock) :
    Polling policy (recover range active failure since) m w := by
  unfold recover
  rw [Polling, Spec, Job.meets_bind]
  refine spec_stopActive h (fun e m' w' hgood _ _ hlost => ⟨hgood, hlost⟩) fun entries w' hidle hclock hkept _ => ?_
  cases since with
  | some now => exact spec_scheduleRestart hpolicy hidle (le_trans hsince hclock) (hkept.trans hdetected) hd
  | none =>
    change Job.Meets react _ (readClock >>= _) _ _ _ _
    rw [Job.meets_bind]
    refine spec_readClock fun now hnow => ?_
    have hlater := hidle.later (t := now) hnow entries
    exact spec_scheduleRestart hpolicy hlater (le_refl _) (hkept.trans hdetected) (le_trans hd (le_trans hclock hnow))

theorem Starting.same {active' : ManagedRuntimeHost} (h : Starting policy active.pid active.generation m w)
    (hsame : SameChild active active') : Starting policy active'.pid active'.generation m w := by
  rw [hsame.1, hsame.2]
  exact h

theorem Starting.answered (h : Starting policy pid generation m w) (reaped : Bool) :
    Starting policy pid generation m (w.after (.tryWait pid) (.ok reaped)) := by
  obtain ⟨c, cs, hc, hpid, hgeneration, hcs⟩ := h.owns
  exact h.tended hcs hpid hgeneration (.answered hc hpid reaped) m.evidence

/-- **A poll of the child keeps the invariant**, whatever it sees. -/
theorem spec_pollActive (hpolicy : policy.Admitted) (h : Good policy m w)
    (hstate : m.state = .bootstrapping ∨ m.state = .running) : Polling policy (pollActive range) m w := by
  have hsome := h.coherent.active.1 hstate
  obtain ⟨active, hactive⟩ := Option.isSome_iff_exists.1 hsome.1
  have hpending : m.pendingRestart = none := by
    have hnot := mt h.coherent.pending.2 (by rcases hstate with hs | hs <;> simp [hs])
    simpa using hnot
  have hstarting := h.starting hactive hpending
  unfold pollActive
  rw [Polling, Spec, Job.meets_bind, Job.meets_self, hactive]
  change Job.Meets react _ (Job.update _ >>= _) _ _ _ _
  rw [Job.meets_bind, Job.meets_update, Job.meets_bind]
  refine spec_readClock fun now hnow => ?_
  have hread := hstarting.later (t := now) hnow m.evidence
  rw [Job.meets_bind, Job.meets_call]
  refine ⟨trivial, ?_⟩
  rintro (e | _ | _) w₁ rfl
  · -- the wait failed: the child goes back as it was
    have hkept : Good policy { m with active := some active, state := m.state } { w with clock := now } :=
      hread.keep rfl rfl (by rcases hstate with hs | hs <;> simp [hs])
    exact ⟨hkept, fun he => by cases he⟩
  · have hanswered := hread.answered false
    change Job.Meets react _ (observe active now >>= _) _ _ _ _
    rw [Job.meets_bind]
    refine (quiet_observe _ _).mono ?_ fun _ _ _ hfalse => hfalse.elim
    rintro ⟨failure, active'⟩ m₂ w₂ ⟨⟨entries, rfl⟩, ⟨t, ht, rfl⟩, hsame⟩
    have hlater := (hanswered.later (t := t) ht entries).same hsame
    cases failure with
    | some failure =>
      change Job.Meets react _ (recordFor _ _ _ >>= _) _ _ _ _
      rw [Job.meets_bind]
      refine spec_recordFor fun entries₂ t₂ ht₂ => ?_
      exact spec_recover hpolicy (hlater.stamped _ ht₂ entries₂) (le_refl _) rfl
        (DetectionLog.since_le (le_trans hlater.ledger.waited ht₂) (le_refl _))
    | none =>
      refine Starting.keep hlater rfl rfl ?_
      cases active'.isRunning <;> simp
  · have hanswered := hread.answered true
    change Job.Meets react _ (recordFor _ _ _ >>= _) _ _ _ _
    rw [Job.meets_bind]
    refine spec_recordFor fun entries₁ t₁ ht₁ => ?_
    rw [Job.meets_bind]
    refine spec_recordFor fun entries₂ t₂ ht₂ => ?_
    -- the exit counts from the reading of the poll
    have hstamped := (hanswered.later (t := t₁) ht₁ entries₁).stamped (.failureDetected .hostExited) ht₂ entries₂
    exact spec_recover hpolicy hstamped (show now ≤ t₂ from le_trans ht₁ ht₂) rfl (le_refl _)

theorem spec_attemptRestart (hpolicy : policy.Admitted) (h : Idle policy m w) (hpending : m.pendingRestart = none)
    (hcalled : Ledger policy m w.called) {now : Int} : Polling policy (attemptRestart range now) m w := by
  unfold attemptRestart
  rw [Polling, Spec, Job.meets_bind, Job.meets_result]
  refine (spec_spawnNext h hpending hcalled).mono (fun _ _ _ hgood => hgood) ?_
  rintro e m₁ w₁ ⟨hidle, hnone⟩
  change Job.Meets react _ (record _ _ >>= _) _ _ _ _
  rw [Job.meets_bind]
  refine spec_record fun entries t ht => ?_
  rw [Job.meets_bind]
  refine spec_readClock fun now₂ hnow₂ => ?_
  have hlater := (hidle.stamped hnone (.failureDetected .restartSpawnFailed) ht entries).later (t := now₂) hnow₂ entries
  exact spec_scheduleRestart hpolicy hlater (le_refl _) rfl hnow₂

theorem spec_pollBackoff (hpolicy : policy.Admitted) (h : Good policy m w) (hstate : m.state = .restartBackoff) :
    Polling policy (pollBackoff range) m w := by
  obtain ⟨pending, hpending⟩ := Option.isSome_iff_exists.1 (h.coherent.pending.1 hstate)
  have hactive : m.active = none := by
    have hnot := mt h.coherent.active.2 (by simp [hstate])
    simpa [hstate] using hnot
  have hfailed : m.failedSpawnCleanup = none := by
    have hnot := mt h.coherent.failed (by simp [hstate])
    simpa using hnot
  have hclear : Clear w := by
    have hholds := h.holds
    unfold Holds at hholds
    rw [hactive, hfailed] at hholds
    exact hholds
  have hidle : Idle policy m w := ⟨h.ledger, hactive, hfailed, hclear⟩
  unfold pollBackoff
  rw [Polling, Spec, Job.meets_bind]
  refine spec_readClock fun now hnow => ?_
  have hlater := hidle.later (t := now) hnow m.evidence
  rw [Job.meets_bind, Job.meets_self, hpending]
  dsimp only
  split
  · exact hlater.good (by simp [hstate]) (by simp [hstate, hpending])
  · rename_i hdue
    obtain ⟨d, hdetected, hbackoff⟩ := h.ledger.pending pending hpending
    rw [Job.meets_bind, Job.meets_update, Job.meets_bind]
    have htaken : Idle policy { m with pendingRestart := none } { w with clock := now } :=
      ⟨hlater.ledger.of_fields rfl rfl rfl (.inr rfl), hactive, hfailed, hclear⟩
    refine Job.Meets.mono (spec_commitRestartAttempt htaken ⟨d, hdetected, show d.since + _ ≤ now by omega⟩ rfl)
      (fun committed m₁ w₁ hc => ?_) fun _ _ _ hb => hb
    cases committed with
    | true => exact spec_attemptRestart hpolicy hc.1 hc.2.1 hc.2.2
    | false => exact hc

/-- **One poll keeps the invariant.** -/
theorem spec_poll (hpolicy : policy.Admitted) (h : Good policy m w) : Polling policy (poll range) m w := by
  unfold poll
  rw [Polling, Spec, Job.meets_bind, Job.meets_self, Job.meets_bind]
  cases hstate : m.state with
  | quarantined => exact h
  | stopped => exact h
  | restartBackoff => exact spec_pollBackoff hpolicy h hstate
  | bootstrapping => exact spec_pollActive hpolicy h (.inl hstate)
  | running => exact spec_pollActive hpolicy h (.inr hstate)

/-! ## Shutdown -/

def Retired (m : RuntimeHostServiceManager) : Prop := m.state = .quarantined ∨ m.state = .stopped

/-- The end of one part of the shutdown: nothing is owned any more, or the manager is quarantined with what it owns. -/
abbrev Stopping (policy : RuntimeHostServiceManagerPolicy) (j : SM Unit) (m : RuntimeHostServiceManager) (w : World) : Prop :=
  Spec j m w (fun _ m' w' => Idle policy m' w' ∧ m'.pendingRestart = none ∧ w'.spawns = w.spawns)
    fun _ m' w' => (Good policy m' w' ∧ Retired m') ∧ w'.spawns = w.spawns

theorem spec_shutdownActive (h : Starting policy active.pid active.generation { m with active := none } w) :
    Stopping policy (shutdownActive range (some active)) m w := by
  unfold shutdownActive
  rw [Stopping, Spec, Job.meets_bind, Job.meets_update, Job.meets_bind]
  refine spec_recordFor fun entries t ht => ?_
  have hlater := h.later (t := t) ht entries
  refine spec_stopActive hlater (fun e m' w' hgood hstate hspawns _ => ⟨⟨hgood, .inl hstate⟩, hspawns⟩) ?_
  exact fun entries' w' hidle _ _ hspawns => ⟨hidle, h.pending, hspawns⟩

theorem spec_shutdownFailedSpawn {owner : FailedSpawnCleanupOwner}
    (h : Starting policy owner.pid owner.generation { m with failedSpawnCleanup := none } w) :
    Stopping policy (shutdownFailedSpawn range (some owner)) m w := by
  unfold shutdownFailedSpawn
  rw [Stopping, Spec, Job.meets_bind, Job.meets_update, Job.meets_bind]
  refine spec_recordFor fun entries t ht => ?_
  have hlater := h.later (t := t) ht entries
  obtain ⟨c, cs, hc, hpid, hgeneration, hcs⟩ := hlater.owns
  rw [Job.meets_bind, Job.meets_result]
  refine (tends_killAndReapFailedSpawn (P := fun _ => True) rfl _ _ c cs hc hpid trivial).mono ?_ ?_
  · rintro _ m₁ w₁ ⟨⟨entries', rfl⟩, c', htended, hsettled⟩
    exact ⟨hlater.reaped hcs hpid hgeneration htended hsettled entries', h.pending, htended.spawns⟩
  · rintro e m₁ w₁ ⟨⟨entries', rfl⟩, c', htended, -⟩
    have hstarting := hlater.tended hcs hpid hgeneration htended entries'
    have hactive : m.active = none := h.active
    have hpending : m.pendingRestart = none := h.pending
    refine ⟨⟨⟨hstarting.ledger.of_fields rfl rfl rfl (.inl rfl), ?_, ⟨?_, ?_, ?_⟩⟩, .inl rfl⟩, htended.spawns⟩
    · unfold Holds
      simp only [hactive]
      exact hstarting.owns
    · simp
    · simp [hpending]
    · simp

/-- **A shutdown keeps the invariant and spawns nothing.** -/
theorem spec_shutdown (h : Good policy m w) :
    Spec (shutdown range) m w (fun _ m' w' => (Good policy m' w' ∧ Retired m') ∧ w'.spawns = w.spawns)
      fun _ m' w' => (Good policy m' w' ∧ Retired m') ∧ w'.spawns = w.spawns := by
  have hstop : ∀ (m' : RuntimeHostServiceManager) (w' : World), Idle policy m' w' → m'.pendingRestart = none →
      (Good policy { m' with state := .stopped } w' ∧ Retired { m' with state := .stopped }) := by
    intro m' w' hidle hpending
    have hstopped : Idle policy { m' with state := .stopped } w' :=
      ⟨hidle.ledger.of_fields rfl rfl rfl (.inl rfl), hidle.active, hidle.failed, hidle.clear⟩
    exact ⟨hstopped.good (by simp) (by simp [hpending]), .inr rfl⟩
  unfold shutdown
  rw [Spec, Job.meets_bind, Job.meets_self]
  split
  · rename_i hstopped
    exact ⟨⟨h, .inr hstopped⟩, rfl⟩
  · rw [Job.meets_bind, Job.meets_update]
    have hledger : Ledger policy { m with pendingRestart := none } w := h.ledger.of_fields rfl rfl rfl (.inr rfl)
    have hholds := h.holds
    unfold Holds at hholds
    suffices h : ∀ active failed, m.active = active → m.failedSpawnCleanup = failed → Spec (do
        shutdownFailedSpawn range failed
        shutdownActive range active
        Job.update fun self => { self with state := .stopped }) { m with pendingRestart := none } w _ _ from h _ _ rfl rfl
    intro active failed hactive hfailed
    rw [hactive, hfailed] at hholds
    rcases active with _ | active
    · rcases failed with _ | owner
      · have hidle : Idle policy { m with pendingRestart := none } w := ⟨hledger, hactive, hfailed, hholds⟩
        exact ⟨hstop _ w hidle rfl, rfl⟩
      · have hstarting : Starting policy owner.pid owner.generation
            { m with pendingRestart := none, failedSpawnCleanup := none } w :=
          ⟨hledger.of_fields rfl rfl rfl (.inl rfl), hactive, rfl, rfl, hholds⟩
        rw [Spec, Job.meets_bind]
        refine (spec_shutdownFailedSpawn hstarting).mono ?_ fun _ _ _ hbad => hbad
        rintro _ m₁ w₁ ⟨hidle, hpending, hspawns⟩
        exact ⟨hstop m₁ w₁ hidle hpending, hspawns⟩
    · rcases failed with _ | owner
      · have hstarting : Starting policy active.pid active.generation
            { m with pendingRestart := none, active := none } w :=
          ⟨hledger.of_fields rfl rfl rfl (.inl rfl), rfl, hfailed, rfl, hholds⟩
        change Job.Meets react _ (shutdownActive range (some active) >>= _) _ _ _ _
        rw [Job.meets_bind]
        refine (spec_shutdownActive hstarting).mono ?_ fun _ _ _ hbad => hbad
        rintro _ m₁ w₁ ⟨hidle, hpending, hspawns⟩
        exact ⟨hstop m₁ w₁ hidle hpending, hspawns⟩
      · exact hholds.elim

/-! ## Runs -/

inductive ManagerStep (range : InstantRange) : RuntimeHostServiceManager → World → RuntimeHostServiceManager → World → Prop
  | poll {m m' : RuntimeHostServiceManager} {w w' : World}
      {r : Except ServiceManagerError RuntimeHostServiceManagerSnapshot} (h : (poll range m).ends react w (r, m') w') :
      ManagerStep range m w m' w'
  | shutdown {m m' : RuntimeHostServiceManager} {w w' : World} {r : Except ServiceManagerError Unit}
      (h : (shutdown range m).ends react w (r, m') w') : ManagerStep range m w m' w'

inductive ManagerSteps (range : InstantRange) : RuntimeHostServiceManager → World → RuntimeHostServiceManager → World → Prop
  | refl (m : RuntimeHostServiceManager) (w : World) : ManagerSteps range m w m w
  | tail {m m₁ m₂ : RuntimeHostServiceManager} {w w₁ w₂ : World} (h : ManagerSteps range m w m₁ w₁)
      (hstep : ManagerStep range m₁ w₁ m₂ w₂) : ManagerSteps range m w m₂ w₂

def World.start (now : Int) : World := { clock := now, waited := now, children := [], detected := none, spawns := [] }

/-- The runs from a manager that was started: the first clock reading is its origin, and it spawned its first child. -/
def ManagerRun (range : InstantRange) (policy : RuntimeHostServiceManagerPolicy) (m : RuntimeHostServiceManager) (w : World) :
    Prop :=
  ∃ now m₀ w₀, (spawnNext range now (startingManager policy now)).ends react
    (.start now) (.ok (), m₀) w₀ ∧ ManagerSteps range m₀ w₀ m w

theorem ManagerStep.good (hpolicy : policy.Admitted) {m' : RuntimeHostServiceManager} {w' : World} (h : Good policy m w)
    (hstep : ManagerStep range m w m' w') : Good policy m' w' := by
  cases hstep with
  | poll hends =>
    rename_i r
    have hpost := (spec_poll hpolicy h).of_ends hends
    cases r with
    | ok a => exact hpost
    | error e => exact hpost.1
  | shutdown hends =>
    rename_i r
    have hpost := (spec_shutdown h).of_ends hends
    cases r with
    | ok a => exact hpost.1.1
    | error e => exact hpost.1.1

theorem good_start {m₀ : RuntimeHostServiceManager} {w₀ : World}
    (h : (spawnNext range now (startingManager policy now)).ends react (.start now) (.ok (), m₀) w₀) : Good policy m₀ w₀ := by
  have hledger : ∀ w : World, w.children = [] → w.replacements = [] → w.waited = w.clock →
      Ledger policy (startingManager policy now) w := by
    intro w hchildren hreplacements hwaited
    refine ⟨rfl, ?_, ?_, ⟨[], ?_, ?_⟩, ?_, ?_, ?_, le_of_eq hwaited⟩
    · simp [hchildren]
    · simp [hchildren]
    · simp [hreplacements]
    · simp
    · simp [replacementsIn, hreplacements]
    · simp [hreplacements]
    · simp [startingManager]
  have hidle : Idle policy (startingManager policy now) (.start now) :=
    ⟨hledger _ rfl rfl rfl, rfl, rfl, by simp [Clear, World.start]⟩
  exact (spec_spawnNext hidle rfl (hledger _ rfl rfl rfl)).of_ends h

/-- **Every run keeps the invariant.** -/
theorem ManagerRun.good (hpolicy : policy.Admitted) (h : ManagerRun range policy m w) : Good policy m w := by
  obtain ⟨now, m₀, w₀, hstart, hsteps⟩ := h
  have hgood := good_start hstart
  clear hstart
  induction hsteps with
  | refl => exact hgood
  | tail _ hstep ih => exact hstep.good hpolicy (ih hgood)

theorem poll_retired {r : Except ServiceManagerError RuntimeHostServiceManagerSnapshot} (hretired : Retired m)
    (h : (poll range m).ends react w (r, m') w') : m' = m ∧ w' = w := by
  have hquiet : Spec (poll range) m w (fun _ m' w' => m' = m ∧ w' = w) fun _ _ _ => False := by
    unfold poll
    rw [Spec, Job.meets_bind, Job.meets_self, Job.meets_bind]
    rcases hretired with hs | hs
    · rw [hs]
      exact ⟨rfl, rfl⟩
    · rw [hs]
      exact ⟨rfl, rfl⟩
  have hpost := hquiet.of_ends h
  cases r with
  | ok a => exact hpost
  | error e => exact hpost.elim

theorem ManagerSteps.retired (h : Good policy m w) (hretired : Retired m) (hsteps : ManagerSteps range m w m' w') :
    Good policy m' w' ∧ Retired m' ∧ w'.spawns = w.spawns := by
  induction hsteps with
  | refl => exact ⟨h, hretired, rfl⟩
  | tail _ hstep ih =>
    obtain ⟨hgood, hretired, hspawns⟩ := ih h
    cases hstep with
    | poll hends =>
      obtain ⟨rfl, rfl⟩ := poll_retired hretired hends
      exact ⟨hgood, hretired, hspawns⟩
    | shutdown hends =>
      rename_i r
      have hpost := (spec_shutdown hgood).of_ends hends
      cases r with
      | ok a => exact ⟨hpost.1.1, hpost.1.2, hpost.2.trans hspawns⟩
      | error e => exact ⟨hpost.1.1, hpost.1.2, hpost.2.trans hspawns⟩

/-- **The manager owns at most one process and never restarts past its budget.**  In every run from `try_start` with an admitted
policy, whatever the platform answers: the two owners are never both set; every child but the newest was reaped with its
group gone, and generations ascend; in every closed interval of the window there are at most the maximum of spawn calls after
the first, each no earlier than the first backoff after the instant its failure counts from; a quarantined or stopped manager
calls no spawn; the state agrees with the fields; and a poll fails with an inconsistent state only over a leader that was not
reaped and whose group is gone. -/
theorem service_manager_owns_one_process (hpolicy : policy.Admitted) (hrun : ManagerRun range policy m w) :
    ¬ (m.active.isSome ∧ m.failedSpawnCleanup.isSome) ∧
    (∀ c ∈ w.children.tail, c.reaped = true ∧ c.gone = true) ∧
    (w.children.Pairwise fun newer older => older.generation < newer.generation) ∧
    (∀ start, (replacementsIn policy w start).length ≤ policy.restart.maximumRestarts) ∧
    (∀ s ∈ w.replacements, ∃ d, s.detected = some d ∧ d.since + policy.restart.initialBackoff ≤ s.instant) ∧
    (m.state = .quarantined ∨ m.state = .stopped → ∀ m' w', ManagerSteps range m w m' w' → w'.spawns = w.spawns) ∧
    ((m.state = .bootstrapping ∨ m.state = .running) ↔ m.active.isSome ∧ m.state ≠ .quarantined) ∧
    (m.state = .restartBackoff ↔ m.pendingRestart.isSome) ∧
    ∀ m' w', (poll range m).ends react w (.error .stateInconsistent, m') w' →
      ∃ c cs, w'.children = c :: cs ∧ c.reaped = false ∧ c.gone = true := by
  have hgood := hrun.good hpolicy
  have hholds := hgood.holds
  unfold Holds at hholds
  have howned : ¬ (m.active.isSome ∧ m.failedSpawnCleanup.isSome) ∧ ∀ c ∈ w.children.tail, Settled c := by
    split at hholds
    · rename_i hactive hfailed
      obtain ⟨c, cs, hc, -, -, hcs⟩ := hholds
      rw [hfailed, hc]
      exact ⟨by simp, hcs⟩
    · rename_i hactive hfailed
      obtain ⟨c, cs, hc, -, -, hcs⟩ := hholds
      rw [hactive, hc]
      exact ⟨by simp, hcs⟩
    · rename_i hactive hfailed
      rw [hactive]
      exact ⟨by simp, fun c hc => hholds c (List.mem_of_mem_tail hc)⟩
    · exact hholds.elim
  refine ⟨howned.1, howned.2, hgood.ledger.generations, hgood.ledger.budget, hgood.ledger.backoff, ?_,
    hgood.coherent.active, hgood.coherent.pending, ?_⟩
  · intro hretired m' w' hsteps
    exact (hsteps.retired hgood hretired).2.2
  · intro m' w' hends
    have hpost := (spec_poll hpolicy hgood).of_ends hends
    exact hpost.2 rfl

/-! A manager under the reference policy, on a platform where a reading of the clock takes `tick` nanoseconds and the record
of an exit comes `lag` late.  The host has always exited when it is waited for, and the second spawn call is refused. -/

def referencePolicy : RuntimeHostServiceManagerPolicy :=
  { watchdog :=
      { heartbeatInterval := 100000000, heartbeatTimeout := 750000000, bootstrapTimeout := 5000000000,
        bootstrapProgressTimeout := 2000000000, controlProbeInterval := 250000000, controlResponseTimeout := 1000000000,
        handshakeTimeout := 2000000000 },
    termination := { termGrace := 2000000000, killGrace := 2000000000, pollInterval := 20000000 },
    restart :=
      { window := 30000000000, maximumRestarts := 3, initialBackoff := 100000000, maximumBackoff := 2000000000,
        maximumJitter := 50000000 },
    evidenceCapacity := 128 }

example : RuntimeHostServiceManagerPolicy.referenceDefaults = .ok referencePolicy := rfl

def monotonicRange : InstantRange := { earliest := 0, latest := 9223372036854775807000000000 }

theorem reference_policy_admitted : referencePolicy.Admitted := ⟨rfl, rfl, rfl, rfl⟩

def slowPlatform (tick lag : Nat) : (call : Call) → World → call.Answer × World
  | .now, w => (w.clock + tick, { w with clock := w.clock + tick })
  | .stamp kind, w =>
    let instant := w.clock + if kind = .failureDetected .hostExited then lag else 0
    (instant, w.stamped kind instant)
  | .sleep duration, w => ((), { w with clock := w.clock + duration })
  | .spawn generation heartbeat handshake, w =>
    let answer := if w.spawns.length = 1 then .error (.other 11) else .ok ⟨7, true, true⟩
    (answer, w.after (.spawn generation heartbeat handshake) answer)
  | .getFlags _, w => (.ok (), w)
  | .setNonblockingFlag _, w => (.ok (), w)
  | .writeAll .., w => (true, w)
  | .flush _, w => (true, w)
  | .read .., w => (.error .wouldBlock, w)
  | .tryWait pid, w => (.ok true, w.after (.tryWait pid) (.ok true))
  | .killpg group signal, w => (.error .esrch, w.after (.killpg group signal) (.error .esrch))
  | .kill _, w => ((), w)

theorem slowPlatform_reacts {tick lag : Nat} : ∀ (call : Call) (w : World),
    react call w (slowPlatform tick lag call w).1 (slowPlatform tick lag call w).2
  | .now, w => ⟨show w.clock ≤ w.clock + tick by omega, rfl⟩
  | .stamp kind, w => by
    refine ⟨?_, rfl⟩
    change w.clock ≤ w.clock + ((if kind = .failureDetected .hostExited then lag else 0 : Nat) : Int)
    omega
  | .sleep duration, w => ⟨w.clock + duration, le_refl _, rfl⟩
  | .spawn .., _ | .getFlags _, _ | .setNonblockingFlag _, _ | .writeAll .., _ | .flush _, _ | .read .., _ | .tryWait _, _
  | .killpg .., _ | .kill _, _ => rfl

def slowStart (tick lag : Nat) : RuntimeHostServiceManager × World :=
  match (spawnNext monotonicRange 0 (startingManager referencePolicy 0)).drive (slowPlatform tick lag) 16 (.start 0) with
  | (.done (_, m), w) => (m, w)
  | (.ask .., w) => (startingManager referencePolicy 0, w)

def slowPoll (tick lag : Nat) (s : RuntimeHostServiceManager × World) : RuntimeHostServiceManager × World :=
  match (poll monotonicRange s.1).drive (slowPlatform tick lag) 32 s.2 with
  | (.done (_, m), w) => (m, w)
  | (.ask .., _) => s

theorem slowPoll_steps {tick lag : Nat} (s : RuntimeHostServiceManager × World) (n : Nat) :
    ManagerSteps monotonicRange s.1 s.2 ((slowPoll tick lag)^[n] s).1 ((slowPoll tick lag)^[n] s).2 := by
  induction n with
  | zero => exact .refl _ _
  | succ n ih =>
    rw [Function.iterate_succ_apply']
    unfold slowPoll
    split
    · rename_i hdone
      exact ih.tail (.poll (Prog.ends_of_drive slowPlatform_reacts hdone))
    · exact ih

theorem slow_run (tick lag n : Nat) : ManagerRun monotonicRange referencePolicy ((slowPoll tick lag)^[n] (slowStart tick lag)).1
    ((slowPoll tick lag)^[n] (slowStart tick lag)).2 :=
  ⟨0, _, _, Prog.ends_of_drive slowPlatform_reacts (n := 16) rfl, slowPoll_steps _ _⟩

/-- The budget of three replacements is spent, one of them on a refused call, and the third exit quarantines the manager. -/
theorem service_manager_owns_one_process_spent : ∃ m w, ManagerRun monotonicRange referencePolicy m w ∧
    w.replacements.length = 3 ∧ w.children.length = 3 ∧ m.state = .quarantined ∧
    (∀ start, (replacementsIn referencePolicy w start).length ≤ 3) ∧
    (∀ s ∈ w.replacements, ∃ d, s.detected = some d ∧ d.since + 100000000 ≤ s.instant) ∧
    ∀ m' w', ManagerSteps monotonicRange m w m' w' → w'.spawns = w.spawns := by
  have hrun := slow_run 200000000 0 9
  obtain ⟨-, -, -, hbudget, hbackoff, hretired, -⟩ := service_manager_owns_one_process reference_policy_admitted hrun
  exact ⟨_, _, hrun, by decide +kernel, by decide +kernel, by decide +kernel, hbudget, hbackoff,
    hretired (.inl (by decide +kernel))⟩

/-- The record of an exit may come so late that the replacement does not wait for the first backoff after it. -/
theorem replacement_before_backoff_of_record : ¬ ∀ policy range m w, policy.Admitted → ManagerRun range policy m w →
    ∀ s ∈ w.replacements, ∃ d, s.detected = some d ∧ d.instant + policy.restart.initialBackoff ≤ s.instant := by
  intro h
  have hspawns : ((slowPoll 1000000 1000000000)^[2] (slowStart 1000000 1000000000)).2.replacements
      = [⟨1002000000, some ⟨.hostExited, 1001000000, 1000000⟩⟩] := by rfl
  have hwaits := h _ _ _ _ reference_policy_admitted (slow_run 1000000 1000000000 2)
  rw [hspawns] at hwaits
  obtain ⟨d, hd, hlate⟩ := hwaits _ (List.mem_singleton_self _)
  cases hd
  exact absurd hlate (by decide)

end ServiceManager
end ParaEgox
