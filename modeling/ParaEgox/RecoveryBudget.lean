import ParaEgox.Failures
import ParaEgox.RecoveryRuns
import Mathlib.Algebra.Order.Group.Nat
import Mathlib.Data.List.Basic

/-!
# RecoveryBudget — the restart budget over whole runs

The attempts a state holds are the fresh domains issued so far that are still in the window, through every prune and every
roll.  So the check before an attempt bounds the attempts in any window, and the delay, doubled, capped and jittered,
stays between the first backoff and the longest.
-/
namespace ParaEgox

/-! ## Counting in a window -/

section Window

variable {window limit now earlier : Nat} {instants : List Nat}

/-- The instants whose window has not passed at `now`. -/
def inWindow (window now : Nat) (instants : List Nat) : List Nat := instants.filter (now < · + window)

/-- How many of the instants lie in the window that ends at `now`. -/
def windowCount (window now : Nat) (instants : List Nat) : Nat :=
  instants.countP fun instant => now < instant + window ∧ instant ≤ now

theorem inWindow_inWindow (h : earlier ≤ now) :
    inWindow window now (inWindow window earlier instants) = inWindow window now instants := by
  unfold inWindow
  rw [List.filter_filter]
  refine List.filter_congr fun instant _ => ?_
  by_cases hi : now < instant + window
  · simp [hi, Nat.lt_of_le_of_lt h hi]
  · simp [hi]

theorem inWindow_snoc (h : 0 < window) :
    inWindow window now (instants ++ [now]) = inWindow window now instants ++ [now] := by
  unfold inWindow
  rw [List.filter_append, List.filter_cons_of_pos (by simpa using h), List.filter_nil]

/-- **An instant added while there is room keeps the count of every window.** -/
theorem windowCount_snoc (hcount : ∀ t, windowCount window t instants ≤ limit)
    (hroom : (inWindow window now instants).length < limit) (t : Nat) :
    windowCount window t (instants ++ [now]) ≤ limit := by
  unfold windowCount
  rw [List.countP_append, List.countP_singleton]
  split
  · rename_i hin
    obtain ⟨hopen, hpast⟩ : t < now + window ∧ now ≤ t := by simpa using hin
    have hle : windowCount window t instants ≤ (inWindow window now instants).length := by
      unfold windowCount inWindow
      rw [← List.countP_eq_length_filter]
      refine List.countP_mono_left fun instant _ h => ?_
      have h' : t < instant + window ∧ instant ≤ t := by simpa using h
      simpa using Nat.lt_of_le_of_lt hpast h'.1
    exact Nat.le_trans (Nat.add_le_add_right hle 1) hroom
  · exact hcount t

end Window

namespace Recovery

open Check

/-! ## The delay -/

def maxProcessRestartAttempts : Nat := 1024
def maxExecutionDurationNanos : U64 := 86400000000000

def ValidDuration (value : U64) : Prop := 0 < value ∧ value ≤ maxExecutionDurationNanos

instance {value : U64} : Decidable (ValidDuration value) :=
  inferInstanceAs (Decidable (0 < value ∧ value ≤ maxExecutionDurationNanos))

/-- What `ProcessRestartPolicy::try_new` accepts. -/
structure ProcessRestartPolicy.Admitted (policy : ProcessRestartPolicy) : Prop where
  attempts : policy.maxAttempts ≤ maxProcessRestartAttempts
  window : ValidDuration policy.restartWindow
  initial : ValidDuration policy.initialBackoff
  maximum : ValidDuration policy.maxBackoff
  ordered : policy.initialBackoff ≤ policy.maxBackoff
  covered : policy.maxBackoff ≤ policy.restartWindow
  jitter : policy.jitterBasisPoints ≤ 10000

def ProcessRestartPolicy.backoffAfter (policy : ProcessRestartPolicy) (attempts : Nat) : U64 :=
  (doubleBackoff policy.maxBackoff)^[attempts] policy.initialBackoff

theorem doubleBackoff_bounds {initial maximum base : U64} (hle : initial ≤ base) (hmax : base ≤ maximum) :
    initial ≤ doubleBackoff maximum base ∧ doubleBackoff maximum base ≤ maximum := by
  refine ⟨?_, Nat.min_le_right _ _⟩
  unfold doubleBackoff
  refine Nat.le_min.2 ⟨?_, Nat.le_trans hle hmax⟩
  split
  · exact Nat.le_trans hle (Nat.le_mul_of_pos_right base (by decide))
  · exact Nat.le_trans hle hmax

variable {policy : ProcessRestartPolicy} {sha256 : Sha256} {d s : RecoveryState} {phase : RecoveryPhase}
  {action : RecoveryAction} {reason : QuarantineReason} {observedAt : ClockReading} {t : RecoveryTransition}
  {outcome : RecoveryActionOutcome} {c : Call} {past : List Event}

theorem backoffAfter_bounds (h : policy.initialBackoff ≤ policy.maxBackoff) (n : Nat) :
    policy.initialBackoff ≤ policy.backoffAfter n ∧ policy.backoffAfter n ≤ policy.maxBackoff := by
  induction n with
  | zero => exact ⟨Nat.le_refl _, h⟩
  | succ n ih =>
    unfold ProcessRestartPolicy.backoffAfter at ih ⊢
    rw [Function.iterate_succ_apply']
    exact doubleBackoff_bounds ih.1 ih.2

theorem jitter_le {cap value : U64} (h : jitter sha256 s cap = .ok value) : value ≤ cap := by
  unfold jitter at h
  split at h
  · obtain rfl := pure_ok.1 h
    exact Nat.zero_le _
  · simp only [deterministicJitter, bind_ok, addU64_ok, pure_ok] at h
    obtain ⟨_, _, _, _, _, ⟨_, rfl⟩, rfl⟩ := h
    exact Nat.le_of_lt_succ (Nat.mod_lt _ (Nat.succ_pos _))

/-- **The delay lies between the first backoff and the longest**, whatever is hashed for its jitter. -/
theorem restartDelay_bounds {delay : U64}
    (hpolicy : s.restart.initialBackoff ≤ s.restart.maxBackoff) (h : restartDelay sha256 s = .ok delay) :
    s.restart.initialBackoff ≤ delay ∧ delay ≤ s.restart.maxBackoff := by
  simp only [restartDelay, bind_ok, rejectIf_ok, exists_unit, addU64_ok] at h
  obtain ⟨_, value, hvalue, _, rfl⟩ := h
  obtain ⟨hle, hmax⟩ := backoffAfter_bounds hpolicy s.attempts.length
  have hroom := Nat.le_trans (jitter_le hvalue) (Nat.min_le_right _ _)
  refine ⟨Nat.le_trans hle (Nat.le_add_right _ _), ?_⟩
  calc s.restart.backoffAfter s.attempts.length + value
      ≤ s.restart.backoffAfter s.attempts.length + (s.restart.maxBackoff - s.restart.backoffAfter s.attempts.length) :=
        Nat.add_le_add_left hroom _
    _ = s.restart.maxBackoff := Nat.add_sub_cancel' hmax

/-- **No word of the delay overflows**: the product is taken in 128 bits and its quotient fits 64. -/
theorem backoffAfter_product (h : policy.Admitted) (n : Nat) :
    policy.backoffAfter n * policy.jitterBasisPoints ≤ u128Max ∧
      policy.backoffAfter n * policy.jitterBasisPoints / 10000 ≤ u64Max := by
  have hbase : policy.backoffAfter n ≤ maxExecutionDurationNanos :=
    Nat.le_trans (backoffAfter_bounds h.ordered n).2 h.maximum.2
  have hproduct := Nat.mul_le_mul hbase h.jitter
  refine ⟨Nat.le_trans hproduct (by decide), ?_⟩
  exact Nat.le_trans (Nat.div_le_div_right hproduct) (by decide)

/-! ## How the arithmetic fails -/

def overflows : List RecoveryError := [.deadlineOverflow, .counterOverflow]

theorem addU64_fails {errors : List RecoveryError} {a b : U64} {error : RecoveryError} (h : error ∈ errors) :
    FailsWith errors (addU64 a b error) :=
  (FailsWith.rejectIf fun _ => h).bind fun _ _ => .pure _

theorem issue_fails (hp : s.pendingAction = none) : FailsWith overflows (issue s phase action) := by
  refine (FailsWith.rejectIf fun h => absurd hp h).bind fun _ _ => ?_
  exact (addU64_fails (by decide)).bind fun _ _ => .pure _

theorem quarantine_fails (hp : s.pendingAction = none) : FailsWith overflows (quarantine s reason) := by
  intro error h
  simp only [quarantine, rememberQuarantineReason, okOr] at h
  change enterQuarantine _ _ = _ at h
  unfold enterQuarantine at h
  rw [if_neg (not_not.2 hp)] at h
  split at h
  · cases h
  · exact issue_fails (by exact hp) error h

theorem pruneAttempts_fails
    (hclock : validateClock s.lastObservedAt observedAt = .ok ()) : FailsWith overflows (pruneAttempts s observedAt) := by
  refine FailsWith.bind (fun error h => ?_) fun _ _ => ?_
  · rw [hclock] at h
    cases h
  · refine FailsWith.bind (.forEach fun _ => .rejectIf fun _ => ?_) fun _ _ => .pure _
    decide

theorem jitter_digest (sha256 : Sha256) (identity : ProcessGenerationIdentity) (attempt : U64) :
    ∃ digest, digest32 sha256 recoveryJitterDigestDomain (identity.fields ++ [bytesBE 8 attempt]) = .ok digest := by
  refine ⟨_, (digest32_ok ..).2 ⟨by decide, by decide, ?_, ?_, rfl⟩⟩
  · simp [ProcessGenerationIdentity.fields]
  · intro field hfield
    simp only [ProcessGenerationIdentity.fields, List.cons_append, List.nil_append, List.mem_cons, List.not_mem_nil,
      or_false] at hfield
    rcases hfield with rfl | rfl | rfl | rfl | rfl | rfl | rfl <;>
      simp [bytesBE_length, Ref16.asBytes_length, Digest32.asBytes_length]

theorem restartDelay_fails (sha256 : Sha256) (s : RecoveryState) : FailsWith overflows (restartDelay sha256 s) := by
  refine (FailsWith.rejectIf fun _ => (by decide)).bind fun _ _ => ?_
  refine FailsWith.bind ?_ fun _ _ => addU64_fails (by decide)
  unfold jitter
  split
  · exact .pure _
  · refine (addU64_fails (by decide)).bind fun attempt _ => ?_
    obtain ⟨digest, hdigest⟩ := jitter_digest sha256 s.identity attempt
    refine FailsWith.bind (fun error h => ?_) fun _ _ => (addU64_fails (by decide)).bind fun _ _ => .pure _
    rw [hdigest] at h
    cases h

theorem scheduleWithinWindow_fails
    (hclock : validateClock s.lastObservedAt observedAt = .ok ()) (hp : s.pendingAction = none) :
    FailsWith overflows (scheduleWithinWindow sha256 s observedAt) := by
  refine (pruneAttempts_fails hclock).bind fun s' hs' => ?_
  obtain ⟨attempts, rfl⟩ := pruneAttempts_ok hs'
  split
  · exact quarantine_fails (by exact hp)
  · refine (restartDelay_fails sha256 _).bind fun _ _ => ?_
    exact (addU64_fails (by decide)).bind fun _ _ => .pure _

theorem attemptRestart_fails
    (hclock : validateClock s.lastObservedAt observedAt = .ok ()) (hp : s.pendingAction = none) :
    FailsWith overflows (do attemptRestart (← pruneAttempts s observedAt) observedAt) := by
  refine (pruneAttempts_fails hclock).bind fun s' hs' => ?_
  obtain ⟨attempts, rfl⟩ := pruneAttempts_ok hs'
  unfold attemptRestart
  split
  · exact quarantine_fails (by exact hp)
  · split
    · exact quarantine_fails (by exact hp)
    · exact (addU64_fails (by decide)).bind fun _ _ => issue_fails (by exact hp)

/-! ## What a call does to the budget -/

def RecoveryPhase.instant : RecoveryPhase → Option U64
  | .waitingCooperative deadline | .waitingTerminate deadline | .waitingKill deadline | .awaitingProcessLoss deadline
  | .awaitingCleanup deadline => some deadline
  | .backoff restartAt => some restartAt
  | _ => none

structure Words (s : RecoveryState) : Prop where
  action : s.nextActionId ≤ u64Max
  attempt : s.attemptSequence ≤ u64Max
  instant : ∀ instant, s.phase.instant = some instant → instant ≤ u64Max

def RecoveryAction.isRestart : RecoveryAction → Bool
  | .startFreshDomain _ => true
  | _ => false

def RecoveryDecision.restarts : RecoveryDecision → Bool
  | .execute env => env.action.isRestart
  | _ => false

structure Calm (d : RecoveryState) (t : RecoveryTransition) : Prop where
  restart : t.state.restart = d.restart
  attempts : t.state.attempts = d.attempts
  seen : t.state.lastObservedAt = d.lastObservedAt
  backoff : ∀ restartAt, t.state.phase = .backoff restartAt → d.phase = .backoff restartAt
  asks : t.decision.restarts = false
  words : Words d → Words t.state

structure SameBudget (d d' : RecoveryState) : Prop where
  restart : d'.restart = d.restart
  attempts : d'.attempts = d.attempts
  seen : d'.lastObservedAt = d.lastObservedAt
  phase : d'.phase = d.phase
  action : d'.nextActionId = d.nextActionId
  sequence : d'.attemptSequence = d.attemptSequence

theorem SameBudget.words {d' : RecoveryState} (h : SameBudget d d') (hd : Words d) : Words d' where
  action := h.action ▸ hd.action
  attempt := h.sequence ▸ hd.attempt
  instant := h.phase ▸ hd.instant

theorem Calm.of_same {d' : RecoveryState} (h : Calm d' t) (hd : SameBudget d d') : Calm d t where
  restart := h.restart.trans hd.restart
  attempts := h.attempts.trans hd.attempts
  seen := h.seen.trans hd.seen
  backoff restartAt hb := hd.phase ▸ h.backoff restartAt hb
  asks := h.asks
  words hw := h.words (hd.words hw)

theorem unchanged_restarts (s : RecoveryState) : (RecoveryTransition.unchanged s).decision.restarts = false := by
  unfold RecoveryTransition.unchanged
  cases s.pendingAction <;> rfl

theorem unchanged_calm (s : RecoveryState) : Calm s (.unchanged s) :=
  ⟨rfl, rfl, rfl, fun _ => id, unchanged_restarts s, id⟩

theorem rest_calm (d : RecoveryState) {phase : RecoveryPhase} (hphase : phase.instant = none) :
    Calm d (.unchanged { d with phase }) := by
  refine ⟨rfl, rfl, rfl, fun restartAt hb => ?_, unchanged_restarts _, fun hw => ⟨hw.action, hw.attempt, ?_⟩⟩
  · rw [show phase = .backoff restartAt from hb] at hphase
    cases hphase
  · intro instant hi
    rw [show phase.instant = some instant from hi] at hphase
    cases hphase

theorem issue_calm
    (h : issue d phase action = .ok t) (hphase : phase.instant = none) (haction : action.isRestart = false) :
    Calm d t := by
  have hnext : d.nextActionId + 1 ≤ u64Max := by
    simp only [issue, bind_ok, addU64_ok] at h
    obtain ⟨_, _, _, ⟨hnext, _⟩, _⟩ := h
    exact hnext
  obtain ⟨_, rfl⟩ := issue_ok h
  refine ⟨rfl, rfl, rfl, fun restartAt hb => ?_, haction, fun hw => ⟨hnext, hw.attempt, ?_⟩⟩
  · rw [show phase = .backoff restartAt from hb] at hphase
    cases hphase
  · intro instant hi
    rw [show phase.instant = some instant from hi] at hphase
    cases hphase

theorem quarantine_calm (h : quarantine d reason = .ok t) : Calm d t := by
  simp only [quarantine, bind_ok] at h
  obtain ⟨reason', _, h⟩ := h
  have hd : SameBudget d (rememberQuarantineReason d reason) := ⟨rfl, rfl, rfl, rfl, rfl, rfl⟩
  refine Calm.of_same ?_ hd
  unfold enterQuarantine at h
  split at h
  · obtain rfl := pure_ok.1 h
    exact unchanged_calm _
  · split at h
    · obtain rfl := pure_ok.1 h
      exact rest_calm _ rfl
    · exact issue_calm h rfl rfl

theorem beginCleanup_calm (h : beginCleanup d = .ok t) : Calm d t := by
  simp only [beginCleanup, bind_ok, exists_unit] at h
  obtain ⟨_, _, _, h⟩ := h
  exact issue_calm h rfl rfl

theorem beginFailure_calm (h : beginFailure d = .ok t) : Calm d t := by
  have hd : SameBudget d { d with restartAfterCleanup := true } := ⟨rfl, rfl, rfl, rfl, rfl, rfl⟩
  refine Calm.of_same ?_ hd
  simp only [beginFailure] at h
  split at h
  · exact issue_calm h rfl rfl
  · obtain rfl := pure_ok.1 h
    exact unchanged_calm _

theorem beginOwnerInvariantFailure_calm (h : beginOwnerInvariantFailure d = .ok t) : Calm d t := by
  have hd : SameBudget d (rememberQuarantineReason d .ownerInvariantViolation) := ⟨rfl, rfl, rfl, rfl, rfl, rfl⟩
  refine Calm.of_same ?_ hd
  simp only [beginOwnerInvariantFailure] at h
  split at h
  all_goals first | exact quarantine_calm h | exact beginFailure_calm h

theorem escalate_calm
    (h : escalate d phase action = .ok t) (hphase : phase.instant = none) (haction : action.isRestart = false) :
    Calm d t := by
  unfold escalate at h
  split at h
  · exact beginCleanup_calm h
  · exact issue_calm h hphase haction

theorem quarantineRemembered_calm (h : quarantineRemembered d = .ok t) : Calm d t := by
  simp only [quarantineRemembered, bind_ok] at h
  obtain ⟨_, _, h⟩ := h
  exact quarantine_calm h

theorem restQuarantined_calm (h : restQuarantined d = .ok t) : Calm d t := by
  simp only [restQuarantined, bind_ok, pure_ok] at h
  obtain ⟨reason, _, rfl⟩ := h
  exact rest_calm d rfl

theorem waitWith_calm {budget : U64} {phase : U64 → RecoveryPhase} (h : waitWith d observedAt budget phase = .ok t)
    (hphase : ∀ deadline, (phase deadline).instant = some deadline)
    (hbackoff : ∀ deadline restartAt, phase deadline ≠ .backoff restartAt) : Calm d t := by
  simp only [waitWith, addBudget, bind_ok, addU64_ok, pure_ok] at h
  obtain ⟨deadline, ⟨hle, rfl⟩, rfl⟩ := h
  refine ⟨rfl, rfl, rfl, fun restartAt hb => absurd hb (hbackoff _ _), rfl, fun hw => ⟨hw.action, hw.attempt, ?_⟩⟩
  intro instant hi
  obtain rfl := Option.some.inj ((hphase _).symm.trans hi)
  exact hle

/-! ## Completions -/

theorem rememberUncertainty_same (d : RecoveryState) : SameBudget d (rememberUncertainty d) := by
  unfold rememberUncertainty
  split <;> exact ⟨rfl, rfl, rfl, rfl, rfl, rfl⟩

theorem Calm.of_remembered (h : Calm (rememberUncertainty (rememberQuarantineReason d reason)) t) : Calm d t := by
  have hd : SameBudget d (rememberQuarantineReason d reason) := ⟨rfl, rfl, rfl, rfl, rfl, rfl⟩
  exact (h.of_same (rememberUncertainty_same _)).of_same hd

theorem completeFailed_calm (h : completeFailed d action = .ok t) : Calm d t := by
  cases action with
  | requestCooperativeStop | sendTerminate => exact (escalate_calm h rfl rfl).of_remembered
  | sendKill =>
    simp only [completeFailed] at h
    split at h
    · exact (beginCleanup_calm h).of_remembered
    · exact (quarantineRemembered_calm h).of_remembered
  | enterQuarantine reason => exact (restQuarantined_calm h).of_remembered
  | fenceAndStopAdmission | collectCleanup | startFreshDomain _ => exact (quarantineRemembered_calm h).of_remembered

theorem completeStop_calm {budget : U64}
    {phase : U64 → RecoveryPhase} (h : completeStop d outcome observedAt budget phase = .ok t)
    (hphase : ∀ deadline, (phase deadline).instant = some deadline)
    (hbackoff : ∀ deadline restartAt, phase deadline ≠ .backoff restartAt) : Calm d t := by
  unfold completeStop at h
  split at h
  · exact beginCleanup_calm h
  · split at h
    · have hwait : waitWith d observedAt d.lifecycle.cleanup .awaitingProcessLoss = .ok t := h
      exact waitWith_calm hwait (fun _ => rfl) fun _ _ => nofun
    · exact waitWith_calm h hphase hbackoff

theorem completeStartFresh_calm {nextEpoch : U64} (h : completeStartFresh d nextEpoch = .ok t) : Calm d t := by
  simp only [completeStartFresh, bind_ok, exists_unit] at h
  obtain ⟨_, _, _, h⟩ := h
  unfold becomeRecovered at h
  split at h
  · exact quarantine_calm h
  · split at h
    · exact quarantine_calm h
    · obtain rfl := pure_ok.1 h
      exact rest_calm d rfl

theorem completeEnterQuarantine_calm (h : completeEnterQuarantine d reason = .ok t) : Calm d t := by
  have hd : SameBudget (rememberUncertainty (rememberQuarantineReason d reason))
      { rememberUncertainty (rememberQuarantineReason d reason) with quarantineEntered := true } :=
    ⟨rfl, rfl, rfl, rfl, rfl, rfl⟩
  simp only [completeEnterQuarantine] at h
  split at h
  · exact ((beginCleanup_calm h).of_same hd).of_remembered
  · exact ((restQuarantined_calm h).of_same hd).of_remembered

theorem completeDone_calm (h : completeDone d outcome observedAt action = .ok t) : Calm d t := by
  cases action with
  | fenceAndStopAdmission => exact escalate_calm h rfl rfl
  | requestCooperativeStop | sendTerminate | sendKill => exact completeStop_calm h (fun _ => rfl) fun _ _ => (by rintro ⟨⟩)
  | collectCleanup =>
    simp only [completeDone, completeCollect, bind_ok] at h
    obtain ⟨_, _, h⟩ := h
    exact waitWith_calm h (fun _ => rfl) fun _ _ => (by rintro ⟨⟩)
  | startFreshDomain nextEpoch => exact completeStartFresh_calm h
  | enterQuarantine reason => exact completeEnterQuarantine_calm h

/-! ## Facts -/

theorem observeProcessExited_calm {o : ProcessLossObservation} (h : observeProcessExited d o = .ok t) : Calm d t := by
  simp only [observeProcessExited, bind_ok, exists_unit] at h
  obtain ⟨_, _, h⟩ := h
  have hd : SameBudget d (withLoss d o) := ⟨rfl, rfl, rfl, rfl, rfl, rfl⟩
  refine Calm.of_same ?_ hd
  unfold afterLoss at h
  split at h
  · have hd' : SameBudget (withLoss d o) { withLoss d o with restartAfterCleanup := !o.expected } :=
      ⟨rfl, rfl, rfl, rfl, rfl, rfl⟩
    exact (issue_calm h rfl rfl).of_same hd'
  · split at h
    · exact beginCleanup_calm h
    · obtain rfl := pure_ok.1 h
      exact unchanged_calm _

theorem observeInvocation_calm {i : ProcessInvocationFailure} (h : observeInvocation d i = .ok t) : Calm d t := by
  unfold observeInvocation at h
  split at h
  · have hd : SameBudget d { d with externalEffectUncertain := true } := ⟨rfl, rfl, rfl, rfl, rfl, rfl⟩
    refine Calm.of_same ?_ hd
    simp only [observeExternalUncertain] at h
    split at h
    all_goals first | exact quarantine_calm h | exact beginFailure_calm h
  · exact beginFailure_calm h

theorem observeCleanupIncomplete_calm (h : observeCleanupIncomplete d = .ok t) : Calm d t := by
  unfold observeCleanupIncomplete at h
  split at h
  · exact quarantine_calm h
  · split at h
    · obtain rfl := pure_ok.1 h
      exact unchanged_calm d
    · cases h
  · cases h

/-! ## The ledger pruned -/

theorem pruneAttempts_inWindow (h : pruneAttempts d observedAt = .ok s) :
    s = { d with attempts := inWindow d.restart.restartWindow observedAt.now d.attempts } := by
  simp only [pruneAttempts, bind_ok, pure_ok, exists_unit, forEach_ok, rejectIf_ok, Nat.not_lt] at h
  obtain ⟨_, hfit, rfl⟩ := h
  unfold inWindow
  congr 1
  refine List.filter_congr fun attempt ha => ?_
  rw [Nat.min_eq_left (hfit attempt ha)]

/-- A tail that may have pruned the ledger, and enters a backoff only past the first delay. -/
structure Pruned (d : RecoveryState) (observedAt : ClockReading) (t : RecoveryTransition) : Prop where
  restart : t.state.restart = d.restart
  attempts : t.state.attempts = d.attempts ∨
    t.state.attempts = inWindow d.restart.restartWindow observedAt.now d.attempts
  seen : t.state.lastObservedAt = d.lastObservedAt
  backoff : ∀ restartAt, t.state.phase = .backoff restartAt → d.phase = .backoff restartAt ∨
    observedAt.now + d.restart.initialBackoff ≤ restartAt
  asks : t.decision.restarts = false
  words : Words d → Words t.state

theorem Calm.pruned (h : Calm d t) (observedAt : ClockReading) : Pruned d observedAt t :=
  ⟨h.restart, .inl h.attempts, h.seen, fun restartAt hb => .inl (h.backoff restartAt hb), h.asks, h.words⟩

theorem Calm.of_pruned (h : Calm { d with attempts := inWindow d.restart.restartWindow observedAt.now d.attempts } t) :
    Pruned d observedAt t :=
  ⟨h.restart, .inr h.attempts, h.seen, fun restartAt hb => .inl (h.backoff restartAt hb), h.asks,
    fun hw => h.words ⟨hw.action, hw.attempt, hw.instant⟩⟩

theorem scheduleRestart_pruned (hpolicy : d.restart.initialBackoff ≤ d.restart.maxBackoff) (h : scheduleRestart sha256
      { d with attempts := inWindow d.restart.restartWindow observedAt.now d.attempts } observedAt = .ok t) :
    Pruned d observedAt t := by
  simp only [scheduleRestart, addBudget, bind_ok, addU64_ok, pure_ok] at h
  obtain ⟨delay, hdelay, _, ⟨hle, rfl⟩, rfl⟩ := h
  have hfirst := (restartDelay_bounds (by exact hpolicy) hdelay).1
  refine ⟨rfl, .inr rfl, rfl, fun restartAt hb => .inr ?_, rfl, fun hw => ⟨hw.action, hw.attempt, fun i hi => ?_⟩⟩
  · obtain rfl : observedAt.now + delay = restartAt := RecoveryPhase.backoff.inj hb
    exact Nat.add_le_add_left hfirst _
  · obtain rfl : observedAt.now + delay = i := Option.some.inj hi
    exact hle

/-- **A proven cleanup prunes the ledger and enters a backoff past the first delay.** -/
theorem scheduleAfterCleanup_pruned (hpolicy : d.restart.initialBackoff ≤ d.restart.maxBackoff)
    (h : scheduleAfterCleanup sha256 d observedAt = .ok t) : Pruned d observedAt t := by
  simp only [scheduleAfterCleanup, bind_ok, exists_unit] at h
  obtain ⟨_, _, _, h⟩ := h
  unfold scheduleClean at h
  split at h
  · exact (quarantine_calm h).pruned observedAt
  · split at h
    · exact (quarantine_calm h).pruned observedAt
    · split at h
      · simp only [scheduleWithinWindow, bind_ok] at h
        obtain ⟨s, hs, h⟩ := h
        obtain rfl := pruneAttempts_inWindow hs
        split at h
        · exact (quarantine_calm h).of_pruned
        · exact scheduleRestart_pruned hpolicy h
      · obtain rfl := pure_ok.1 h
        exact (rest_calm d rfl).pruned observedAt

theorem observeCleanupCompleted_pruned {p : ProcessCleanupProof} (hpolicy : d.restart.initialBackoff ≤ d.restart.maxBackoff)
    (h : observeCleanupCompleted sha256 d p observedAt = .ok t) : Pruned d observedAt t := by
  simp only [observeCleanupCompleted, bind_ok, exists_unit] at h
  obtain ⟨_, _, _, _, _, deadline, _, h⟩ := h
  have hd : SameBudget d (withProof d p) := ⟨rfl, rfl, rfl, rfl, rfl, rfl⟩
  unfold afterProof at h
  split at h
  · exact ((quarantine_calm h).of_same hd).pruned observedAt
  · split at h
    · obtain rfl := pure_ok.1 h
      exact ((unchanged_calm _).of_same hd).pruned observedAt
    · have hp := scheduleAfterCleanup_pruned (by exact hpolicy) h
      exact ⟨hp.restart, hp.attempts, hp.seen, hp.backoff, hp.asks, fun hw => hp.words (hd.words hw)⟩

/-! ## One call -/

def Call.reading : Call → ClockReading
  | .observe fact => fact.observedAt
  | .complete _ _ observedAt | .poll observedAt | .roll _ observedAt => observedAt

/-- The cleanup proof of a call was accepted while it was awaited, and the restart is not due before the first delay. -/
def Schedules (s : RecoveryState) (c : Call) (restartAt : U64) : Prop :=
  ∃ fact proof, c = .observe fact ∧ fact.kind = .cleanupCompleted proof ∧
    fact.observedAt.now + s.restart.initialBackoff ≤ restartAt

/-- The call left a backoff that is over, with room in the window, and put its own reading on the ledger. -/
structure Restarts (s : RecoveryState) (c : Call) (t : RecoveryTransition) : Prop where
  due : ∃ restartAt, s.phase = .backoff restartAt ∧ restartAt ≤ c.reading.now
  room : (inWindow s.restart.restartWindow c.reading.now s.attempts).length < s.restart.maxAttempts
  attempts : t.state.attempts = inWindow s.restart.restartWindow c.reading.now s.attempts ++ [c.reading.now]
  seen : t.state.lastObservedAt = c.reading

structure Turn (s : RecoveryState) (c : Call) (t : RecoveryTransition) : Prop where
  restart : t.state.restart = s.restart
  seen : s.lastObservedAt.now ≤ t.state.lastObservedAt.now
  words : Words s → Words t.state
  ledger : t.decision.restarts = false ∧ (t.state.attempts = s.attempts ∨
    t.state.attempts = inWindow s.restart.restartWindow t.state.lastObservedAt.now s.attempts) ∨
    t.decision.restarts = true ∧ Restarts s c t
  backoff : ∀ restartAt, t.state.phase = .backoff restartAt →
    (s.phase = .backoff restartAt ∧ ∀ identity observedAt, c ≠ .roll identity observedAt) ∨ Schedules s c restartAt

theorem validateClock_le {previous current : ClockReading} (h : validateClock previous current = .ok ()) :
    previous.now ≤ current.now := by
  simp only [validateClock, bind_ok, rejectIf_ok, exists_unit, Nat.not_lt] at h
  exact h.2

theorem Words.stamped (h : Words s) (hphase : d.phase = s.phase)
    (haction : d.nextActionId = s.nextActionId) (hsequence : d.attemptSequence = s.attemptSequence) : Words d where
  action := haction ▸ h.action
  attempt := hsequence ▸ h.attempt
  instant := hphase ▸ h.instant

theorem turn_answer {decision : RecoveryDecision} (hasks : decision.restarts = false)
    (hroll : ∀ identity observedAt, c ≠ .roll identity observedAt) : Turn s c ⟨s, decision⟩ :=
  ⟨rfl, Nat.le_refl _, id, .inl ⟨hasks, .inl rfl⟩, fun _ hb => .inl ⟨hb, hroll⟩⟩

theorem observeFact_turn {f : RuntimeFailureFact}
    (hpolicy : s.restart.initialBackoff ≤ s.restart.maxBackoff) (h : observeFact sha256 s f = .ok t) :
    Turn s (.observe f) t := by
  simp only [observeFact, bind_ok, exists_unit] at h
  obtain ⟨_, hclock, fingerprint, _, _, h⟩ := h
  have hle := validateClock_le hclock
  split at h
  · unfold repeatFact at h
    split at h
    · obtain rfl := pure_ok.1 h
      exact turn_answer (unchanged_restarts s) nofun
    · cases h
  · simp only [consumeFact] at h
    generalize hnext : ({ s with lastFactSequence := f.sequence, lastFactFingerprint := some fingerprint,
                                 lastObservedAt := f.observedAt } : RecoveryState) = next at h
    have hpruned : ∀ t, Pruned next f.observedAt t →
        (∀ restartAt, t.state.phase = .backoff restartAt → next.phase = .backoff restartAt ∨
          Schedules s (.observe f) restartAt) → Turn s (.observe f) t := by
      subst hnext
      intro t hp hbackoff
      have hseen : t.state.lastObservedAt = f.observedAt := hp.seen
      refine ⟨hp.restart, hseen ▸ hle, fun hw => hp.words (hw.stamped rfl rfl rfl), .inl ⟨hp.asks, ?_⟩, ?_⟩
      · rw [hseen]
        exact hp.attempts
      · intro restartAt hb
        exact (hbackoff restartAt hb).imp_left fun h => ⟨h, nofun⟩
    have hcalm : ∀ t, Calm next t → Turn s (.observe f) t := fun t hc =>
      hpruned t (hc.pruned _) fun restartAt hb => .inl (hc.backoff restartAt hb)
    split at h
    · obtain rfl := pure_ok.1 h
      exact hcalm _ (unchanged_calm next)
    · cases hkind : f.kind with
      | processExited o => rw [hkind] at h; exact hcalm t (observeProcessExited_calm h)
      | heartbeatMissed _ | controlProbeMissed _ | protocolViolation _ | resourceLimitExceeded _ | launchFailed
      | shutdownFailed => rw [hkind] at h; exact hcalm t (beginFailure_calm h)
      | ownerInvariantViolation _ => rw [hkind] at h; exact hcalm t (beginOwnerInvariantFailure_calm h)
      | wedgeDetected i | invocationUncertain i => rw [hkind] at h; exact hcalm t (observeInvocation_calm h)
      | cleanupIncomplete _ => rw [hkind] at h; exact hcalm t (observeCleanupIncomplete_calm h)
      | cleanupCompleted p =>
        rw [hkind] at h
        have hrestart : next.restart = s.restart := hnext ▸ rfl
        have hp := observeCleanupCompleted_pruned (hrestart ▸ hpolicy) h
        refine hpruned t hp fun restartAt hb => (hp.backoff restartAt hb).imp_right fun hle => ?_
        exact ⟨f, p, rfl, hkind, hrestart ▸ hle⟩

theorem completeAction_turn {id : U64} (h : completeAction s id outcome observedAt = .ok t) :
    Turn s (.complete id outcome observedAt) t := by
  simp only [completeAction, bind_ok, exists_unit] at h
  obtain ⟨hclock, h⟩ := h
  have hle := validateClock_le hclock
  have hpending : ∀ t, completePending s id outcome observedAt = .ok t → Turn s (.complete id outcome observedAt) t := by
    intro t h
    simp only [completePending, bind_ok, exists_unit] at h
    obtain ⟨pending, _, _, _, h⟩ := h
    have hcalm : Calm { s with pendingAction := none, lastCompletedAction := some ⟨id, outcome⟩,
                               lastObservedAt := observedAt } t := by
      split at h
      · exact completeFailed_calm h
      · exact completeDone_calm h
    have hseen : t.state.lastObservedAt = observedAt := hcalm.seen
    refine ⟨hcalm.restart, hseen ▸ hle, fun hw => hcalm.words (hw.stamped rfl rfl rfl),
      .inl ⟨hcalm.asks, .inl hcalm.attempts⟩, fun restartAt hb => .inl ⟨hcalm.backoff restartAt hb, by rintro _ _ ⟨⟩⟩⟩
  split at h
  · split at h
    · split at h
      · obtain rfl := pure_ok.1 h
        exact turn_answer (unchanged_restarts s) (by rintro _ _ ⟨⟩)
      · cases h
    · exact hpending t h
  · exact hpending t h

theorem leaveBackoff_turn {restartAt : U64}
    (hle : s.lastObservedAt.now ≤ observedAt.now) (hphase : s.phase = .backoff restartAt)
    (hdue : restartAt ≤ observedAt.now) (h : leaveBackoff { s with lastObservedAt := observedAt } observedAt = .ok t) :
    Turn s (.poll observedAt) t := by
  simp only [leaveBackoff, bind_ok, exists_unit] at h
  obtain ⟨_, _, _, s', hs', h⟩ := h
  obtain rfl := pruneAttempts_inWindow hs'
  have hcalm : ∀ reason,
      quarantine { s with lastObservedAt := observedAt,
                          attempts := inWindow s.restart.restartWindow observedAt.now s.attempts } reason = .ok t →
        Turn s (.poll observedAt) t := by
    intro reason h
    have hc := quarantine_calm h
    have hseen : t.state.lastObservedAt = observedAt := hc.seen
    refine ⟨hc.restart, hseen ▸ hle, fun hw => hc.words (hw.stamped rfl rfl rfl), .inl ⟨hc.asks, .inr ?_⟩, ?_⟩
    · rw [hseen]
      exact hc.attempts
    · exact fun restartAt hb => .inl ⟨hc.backoff restartAt hb, nofun⟩
  unfold attemptRestart at h
  split at h
  · exact hcalm _ h
  · rename_i hroom
    split at h
    · exact hcalm _ h
    · simp only [startFresh, bind_ok, addU64_ok] at h
      obtain ⟨_, ⟨hsequence, rfl⟩, h⟩ := h
      have hnext : s.nextActionId + 1 ≤ u64Max := by
        simp only [issue, bind_ok, addU64_ok] at h
        obtain ⟨_, _, _, ⟨hnext, _⟩, _⟩ := h
        exact hnext
      obtain ⟨_, rfl⟩ := issue_ok h
      refine ⟨rfl, hle, fun _ => ⟨hnext, hsequence, fun _ hi => by cases hi⟩, .inr ⟨rfl, ?_⟩, fun _ hb => by cases hb⟩
      exact ⟨⟨restartAt, hphase, hdue⟩, Nat.lt_of_not_le hroom, rfl, rfl⟩

theorem poll_turn (h : poll s observedAt = .ok t) : Turn s (.poll observedAt) t := by
  simp only [poll, bind_ok, exists_unit] at h
  obtain ⟨hclock, h⟩ := h
  have hle := validateClock_le hclock
  split at h
  · obtain rfl := pure_ok.1 h
    exact turn_answer rfl (by rintro _ _ ⟨⟩)
  · have hcalm : Calm { s with lastObservedAt := observedAt } t → Turn s (.poll observedAt) t := by
      intro hc
      have hseen : t.state.lastObservedAt = observedAt := hc.seen
      exact ⟨hc.restart, hseen ▸ hle, fun hw => hc.words (hw.stamped rfl rfl rfl), .inl ⟨hc.asks, .inl hc.attempts⟩,
        fun restartAt hb => .inl ⟨hc.backoff restartAt hb, by rintro _ _ ⟨⟩⟩⟩
    have hwait : ∀ {deadline atEnd}, (atEnd = .ok t → Calm { s with lastObservedAt := observedAt } t) →
        atDeadline { s with lastObservedAt := observedAt } observedAt deadline atEnd = .ok t →
          Turn s (.poll observedAt) t := by
      intro deadline atEnd hend h
      unfold atDeadline at h
      split at h
      · exact hcalm (hend h)
      · obtain rfl := pure_ok.1 h
        exact hcalm ⟨rfl, rfl, rfl, fun _ => id, rfl, id⟩
    unfold pollPhase at h
    split at h
    · exact hwait (fun h => issue_calm h rfl rfl) h
    · exact hwait (fun h => issue_calm h rfl rfl) h
    · exact hwait quarantine_calm h
    · exact hwait quarantine_calm h
    · exact hwait quarantine_calm h
    · rename_i restartAt hphase
      unfold atDeadline at h
      split at h
      · rename_i hdue
        exact leaveBackoff_turn hle hphase hdue h
      · obtain rfl := pure_ok.1 h
        exact hcalm ⟨rfl, rfl, rfl, fun _ => id, rfl, id⟩
    · split at h
      · exact hcalm (beginCleanup_calm h)
      · obtain rfl := pure_ok.1 h
        exact hcalm (unchanged_calm _)
    iterate 3
      · obtain rfl := pure_ok.1 h
        exact hcalm (unchanged_calm _)
    all_goals cases h

theorem rollGeneration_turn {s' : RecoveryState} {identity : ProcessGenerationIdentity}
    (h : rollGeneration s identity observedAt = .ok s') : Turn s (.roll identity observedAt) ⟨s', .noAction⟩ := by
  simp only [rollGeneration, bind_ok, exists_unit, pure_ok] at h
  obtain ⟨hclock, _, _, _, _, _, rfl⟩ := h
  refine ⟨rfl, validateClock_le hclock, fun hw => ⟨hw.action, hw.attempt, fun _ hi => by cases hi⟩,
    .inl ⟨rfl, .inl rfl⟩, fun _ hb => by cases hb⟩

theorem call_turn
    (hpolicy : s.restart.initialBackoff ≤ s.restart.maxBackoff) (h : call sha256 s c = .ok t) : Turn s c t := by
  cases c with
  | observe f => exact observeFact_turn hpolicy h
  | complete id outcome observedAt => exact completeAction_turn h
  | poll observedAt => exact poll_turn h
  | roll identity observedAt =>
    simp only [call, bind_ok, pure_ok] at h
    obtain ⟨next, hnext, rfl⟩ := h
    exact rollGeneration_turn hnext

/-! ## The ledger of a run -/

def Event.restartedAt (e : Event) : Option U64 := if e.decision.restarts then some e.made.reading.now else none

/-- Since the last roll, a cleanup proof was accepted that led to this backoff, no shorter than the first one. -/
def ScheduledIn (past : List Event) (initialBackoff restartAt : U64) : Prop :=
  ∃ earlier e later fact proof, past = earlier ++ e :: later ∧ (∀ x ∈ later, ¬ x.rolls) ∧ e.made = .observe fact
    ∧ fact.kind = .cleanupCompleted proof ∧ e.after.phase = .backoff restartAt
    ∧ fact.observedAt.now + initialBackoff ≤ restartAt

theorem ScheduledIn.later {initialBackoff restartAt : U64} (h : ScheduledIn past initialBackoff restartAt)
    {e : Event} (he : ¬ e.rolls) : ScheduledIn (past ++ [e]) initialBackoff restartAt := by
  obtain ⟨earlier, x, later, fact, proof, rfl, hlater, hrest⟩ := h
  exact ⟨earlier, x, later ++ [e], fact, proof, by simp, List.forall_mem_append.2 ⟨hlater, List.forall_mem_singleton.2 he⟩, hrest⟩

/-- **What the ledger says after every run**: it holds the restarts still in the window, and no window holds more than
the policy allows. -/
structure Ledger (policy : ProcessRestartPolicy) (past : List Event) (s : RecoveryState) : Prop where
  restart : s.restart = policy
  words : Words s
  kept : ∃ earlier ≤ s.lastObservedAt.now,
    s.attempts = inWindow policy.restartWindow earlier (past.filterMap Event.restartedAt)
  counted : ∀ t, windowCount policy.restartWindow t (past.filterMap Event.restartedAt) ≤ policy.maxAttempts
  scheduled : ∀ restartAt, s.phase = .backoff restartAt → ScheduledIn past policy.initialBackoff restartAt

theorem restartedAt_of_restarts {e : Event} (h : e.decision.restarts = true) : e.restartedAt = some e.made.reading.now :=
  if_pos h

theorem restartedAt_of_rests {e : Event} (h : e.decision.restarts = false) : e.restartedAt = none := by
  unfold Event.restartedAt
  rw [h]
  rfl

theorem Ledger.kept_step (hwindow : 0 < policy.restartWindow) (h : Ledger policy past s) (hturn : Turn s c t) :
    (∃ earlier ≤ t.state.lastObservedAt.now, t.state.attempts = inWindow policy.restartWindow earlier
        (List.filterMap Event.restartedAt (past ++ [⟨s, c, t.decision, t.state⟩]))) ∧
      ∀ now, windowCount policy.restartWindow now
        (List.filterMap Event.restartedAt (past ++ [⟨s, c, t.decision, t.state⟩])) ≤ policy.maxAttempts := by
  obtain ⟨earlier, hle, hattempts⟩ := h.kept
  have hseen := Nat.le_trans hle hturn.seen
  rw [List.filterMap_append]
  rcases hturn.ledger with ⟨hrests, hsame⟩ | ⟨hrestarts, hr⟩
  · rw [List.filterMap_cons_none (restartedAt_of_rests hrests), List.filterMap_nil, List.append_nil]
    refine ⟨?_, h.counted⟩
    rcases hsame with hsame | hpruned
    · exact ⟨earlier, hseen, hsame.trans hattempts⟩
    · refine ⟨_, Nat.le_refl _, hpruned.trans ?_⟩
      rw [h.restart, hattempts]
      exact inWindow_inWindow hseen
  · rw [List.filterMap_cons_some (restartedAt_of_restarts hrestarts), List.filterMap_nil]
    have hnow : earlier ≤ c.reading.now := hr.seen ▸ hseen
    have hprune : inWindow policy.restartWindow c.reading.now s.attempts
        = inWindow policy.restartWindow c.reading.now (past.filterMap Event.restartedAt) := by
      rw [hattempts]
      exact inWindow_inWindow hnow
    have hroom := hr.room
    rw [h.restart, hprune] at hroom
    refine ⟨⟨c.reading.now, Nat.le_of_eq (congrArg _ hr.seen.symm), ?_⟩, windowCount_snoc h.counted hroom⟩
    rw [hr.attempts, h.restart, hprune]
    exact (inWindow_snoc hwindow).symm

theorem Ledger.step (hpolicy : policy.Admitted) (h : Ledger policy past s) (hc : call sha256 s c = .ok t) :
    Ledger policy (past ++ [⟨s, c, t.decision, t.state⟩]) t.state := by
  have hturn := call_turn (h.restart ▸ hpolicy.ordered) hc
  obtain ⟨hkept, hcounted⟩ := h.kept_step hpolicy.window.1 hturn
  refine ⟨hturn.restart.trans h.restart, hturn.words h.words, hkept, hcounted, fun restartAt hb => ?_⟩
  rcases hturn.backoff restartAt hb with ⟨hbefore, hroll⟩ | ⟨fact, proof, hmade, hkind, hle⟩
  · exact (h.scheduled restartAt hbefore).later fun ⟨identity, observedAt, hmade⟩ => hroll identity observedAt hmade
  · exact ⟨past, _, [], fact, proof, rfl, fun _ hx => (by cases hx), hmade, hkind, hb, h.restart ▸ hle⟩

theorem Traces.ledger {identity : ProcessGenerationIdentity} {lifecycle : ProcessLifecycleBudgets}
    {restart : ProcessRestartPolicy}
    (hpolicy : restart.Admitted) (h : Traces sha256 (.tryNew identity lifecycle restart observedAt) past s) :
    Ledger restart past s := by
  induction h with
  | start =>
    refine ⟨rfl, ⟨Nat.zero_le _, Nat.zero_le _, fun _ hi => by cases hi⟩, ⟨0, Nat.zero_le _, rfl⟩,
      fun t => Nat.zero_le _, fun _ hb => by cases hb⟩
  | step _ hc ih => exact ih.step hpolicy hc

/-- **The restart budget holds across generations.**  In every window at most as many fresh domains are issued as the
policy allows; each is issued no earlier than the accepted cleanup of its generation and the first backoff; the delay
lies between the first backoff and the longest whatever is hashed; and nothing overflows but by a refusal, which changes
nothing. -/
theorem restart_budget (sha256 : Sha256) (identity : ProcessGenerationIdentity) (lifecycle : ProcessLifecycleBudgets)
    (restart : ProcessRestartPolicy) (observedAt : ClockReading) (calls : List Call) (hpolicy : restart.Admitted) :
    let past := (drive sha256 (.tryNew identity lifecycle restart observedAt) calls).1
    let s := (drive sha256 (.tryNew identity lifecycle restart observedAt) calls).2
    (∀ t, windowCount restart.restartWindow t (past.filterMap Event.restartedAt) ≤ restart.maxAttempts) ∧
    (∀ before e after id epoch, past = before ++ e :: after → e.decision = .execute ⟨id, .startFreshDomain epoch⟩ →
      ∃ restartAt ≤ e.made.reading.now, ScheduledIn before restart.initialBackoff restartAt) ∧
    (∀ (d : RecoveryState) (delay : U64), d.restart.initialBackoff ≤ d.restart.maxBackoff →
      restartDelay sha256 d = .ok delay → d.restart.initialBackoff ≤ delay ∧ delay ≤ d.restart.maxBackoff) ∧
    (Words s ∧
      (∀ attempts, restart.backoffAfter attempts * restart.jitterBasisPoints ≤ u128Max ∧
        restart.backoffAfter attempts * restart.jitterBasisPoints / 10000 ≤ u64Max) ∧
      (∀ d reading, validateClock d.lastObservedAt reading = .ok () → d.pendingAction = none →
        FailsWith overflows (scheduleWithinWindow sha256 d reading) ∧
        FailsWith overflows (do attemptRestart (← pruneAttempts d reading) reading)) ∧
      ∀ c error, call sha256 s c = .error error → drive sha256 s [c] = ([], s)) := by
  intro past s
  have h : Traces sha256 (.tryNew identity lifecycle restart observedAt) past s := Traces.drive calls .start
  have hledger := h.ledger hpolicy
  refine ⟨hledger.counted, ?_, fun d delay => restartDelay_bounds, hledger.words, backoffAfter_product hpolicy, ?_, ?_⟩
  · intro before e after id epoch hpast hd
    obtain ⟨hbefore, t, hc, hdecision, _⟩ := h.split hpast
    have hl := hbefore.ledger hpolicy
    have hturn := call_turn (hl.restart ▸ hpolicy.ordered) hc
    rcases hturn.ledger with ⟨hrests, _⟩ | ⟨_, hr⟩
    · rw [hdecision, hd] at hrests
      cases hrests
    · obtain ⟨restartAt, hphase, hdue⟩ := hr.due
      exact ⟨restartAt, hdue, hl.scheduled restartAt hphase⟩
  · exact fun d reading hclock hp => ⟨scheduleWithinWindow_fails hclock hp, attemptRestart_fails hclock hp⟩
  · intro c error hc
    rw [drive, hc]
    rfl

def sampleRoll (epoch action now : Nat) : List Call :=
  [.complete action .succeeded (sampleReading now), .roll { sampleIdentity with domainEpoch := epoch } (sampleReading now)]

/-- Three generations are lost, and the policy allows two fresh domains in its window. -/
def exhaustedCalls : List Call :=
  sampleLife 1 1 0 ++ sampleRoll 2 3 21 ++ sampleLife 2 4 21 ++ sampleRoll 3 6 42 ++ sampleLife 3 7 42

theorem restart_budget_exhausted :
    let policy : ProcessRestartPolicy := ⟨2, 1000, 5, 50, 0⟩
    let driven := drive (fun _ => 0) (.tryNew sampleIdentity ⟨10, 10, 10, 10⟩ policy (sampleReading 0)) exhaustedCalls
    driven.1.filterMap Event.restartedAt = [20, 41] ∧
      driven.2.quarantineReason = some .restartAttemptsExhausted ∧
      ∀ t, windowCount 1000 t (driven.1.filterMap Event.restartedAt) ≤ 2 := by
  intro policy driven
  have hpolicy : policy.Admitted := ⟨by decide, by decide, by decide, by decide, by decide, by decide, by decide⟩
  have hbudget := restart_budget (fun _ => 0) sampleIdentity ⟨10, 10, 10, 10⟩ policy (sampleReading 0) exhaustedCalls hpolicy
  exact ⟨by decide +kernel, by decide +kernel, hbudget.1⟩

end Recovery
end ParaEgox
