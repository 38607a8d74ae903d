import ParaEgox.Recovery

/-!
# RecoveryStep — what one call of the recovery reducer can do

A pending action is the last one issued and belongs to the phase; a phase that waits for an action has one pending; a
generation that is about to be replaced has its loss observed, its cleanup proven and nothing held against it.  Every call
keeps this, never clears what is held against the generation, and asks for an action only under a new id.
-/
namespace ParaEgox
namespace Recovery

open Check

/-! ## The invariant -/

def RecoveryPhase.acts : RecoveryPhase → Bool
  | .fencing | .cooperativeStopping | .terminating | .killing | .cleaning | .startingFresh _ => true
  | _ => false

def RecoveryPhase.restarts : RecoveryPhase → Bool
  | .backoff _ | .recovered _ => true
  | _ => false

def Matches : RecoveryPhase → RecoveryAction → Prop
  | .fencing, .fenceAndStopAdmission => True
  | .cooperativeStopping, .requestCooperativeStop => True
  | .terminating, .sendTerminate => True
  | .killing, .sendKill => True
  | .cleaning, .collectCleanup => True
  | .startingFresh epoch, .startFreshDomain epoch' => epoch = epoch'
  | .quarantined _, .enterQuarantine _ => True
  | _, _ => False

variable {phase : RecoveryPhase} {action : RecoveryAction} {d s s' : RecoveryState} {t : RecoveryTransition}
  {reason : QuarantineReason} {observedAt : ClockReading} {sha256 : Sha256} {kind : RuntimeFailureFactKind}
  {outcome : RecoveryActionOutcome}

theorem Matches.not_restarts (h : Matches phase action) : phase.restarts = false := by
  cases phase <;> cases action <;> first | rfl | exact absurd h id

def Tainted (s : RecoveryState) : Prop := s.externalEffectUncertain = true ∨ s.quarantineReason ≠ none

structure Cleared (s : RecoveryState) : Prop where
  lost : s.lossLineage ≠ none
  proven : s.cleanupProven = true
  untainted : ¬ Tainted s

structure Sound (s : RecoveryState) : Prop where
  pending : ∀ env, s.pendingAction = some env → Matches s.phase env.action ∧ env.id = s.nextActionId
  rests : s.pendingAction = none → s.phase.acts = false
  cleared : s.phase.restarts = true → Cleared s

structure Keeps (d s : RecoveryState) : Prop where
  identity : s.identity = d.identity
  loss : s.lossLineage = d.lossLineage
  proven : s.cleanupProven = d.cleanupProven
  uncertain : s.externalEffectUncertain = d.externalEffectUncertain
  reason : d.quarantineReason ≠ none → s.quarantineReason ≠ none
  completed : s.lastCompletedAction = d.lastCompletedAction

theorem Keeps.refl (d : RecoveryState) : Keeps d d := ⟨rfl, rfl, rfl, rfl, id, rfl⟩

theorem Keeps.trans (h : Keeps d s) (h' : Keeps s s') : Keeps d s' where
  identity := h'.identity.trans h.identity
  loss := h'.loss.trans h.loss
  proven := h'.proven.trans h.proven
  uncertain := h'.uncertain.trans h.uncertain
  reason hd := h'.reason (h.reason hd)
  completed := h'.completed.trans h.completed

theorem Keeps.tainted (h : Keeps d s) : Tainted d → Tainted s
  | .inl hu => .inl (h.uncertain.trans hu)
  | .inr hr => .inr (h.reason hr)

/-- **How a call ends from its draft**: the draft's evidence is kept, and either one action is issued under the next id or
nothing is asked for and the ids stay. -/
structure Ends (d : RecoveryState) (t : RecoveryTransition) : Prop where
  sound : Sound t.state
  keeps : Keeps d t.state
  issued : ∀ env, t.decision = .execute env →
    d.pendingAction = none ∧ env.id = d.nextActionId + 1 ∧ t.state.pendingAction = some env
  rested : (∀ env, t.decision ≠ .execute env) →
    t.state.nextActionId = d.nextActionId ∧ t.state.pendingAction = d.pendingAction
  fresh : ∀ id epoch, t.decision = .execute ⟨id, .startFreshDomain epoch⟩ → d.phase.restarts = true

theorem Ends.of_keeps {d' : RecoveryState} (h : Ends d' t) (hk : Keeps d d')
    (hp : d'.pendingAction = d.pendingAction) (hn : d'.nextActionId = d.nextActionId) (hphase : d'.phase = d.phase) :
    Ends d t where
  sound := h.sound
  keeps := hk.trans h.keeps
  issued env he := by
    obtain ⟨h1, h2, h3⟩ := h.issued env he
    exact ⟨hp ▸ h1, hn ▸ h2, h3⟩
  rested he := by
    obtain ⟨h1, h2⟩ := h.rested he
    exact ⟨h1.trans hn, h2.trans hp⟩
  fresh id epoch he := hphase ▸ h.fresh id epoch he

/-! ## The tails -/

theorem unchanged_rests (s : RecoveryState) (env : RecoveryActionEnvelope) :
    (RecoveryTransition.unchanged s).decision ≠ .execute env := by
  unfold RecoveryTransition.unchanged
  cases s.pendingAction <;> simp

theorem unchanged_ends (hs : Sound s) (hk : Keeps d s) (hp : s.pendingAction = d.pendingAction)
    (hn : s.nextActionId = d.nextActionId) : Ends d (.unchanged s) where
  sound := hs
  keeps := hk
  issued env he := absurd he (unchanged_rests s env)
  rested _ := ⟨hn, hp⟩
  fresh _ _ he := absurd he (unchanged_rests s _)

theorem Sound.enter (hp : d.pendingAction = none) (ha : phase.acts = false)
    (hc : phase.restarts = true → Cleared d) : Sound { d with phase } where
  pending env he := by rw [hp] at he; cases he
  rests _ := ha
  cleared h := ⟨(hc h).lost, (hc h).proven, (hc h).untainted⟩

theorem rest_ends (hp : d.pendingAction = none) (ha : phase.acts = false)
    (hc : phase.restarts = true → Cleared d) : Ends d (.unchanged { d with phase }) :=
  unchanged_ends (.enter hp ha hc) ⟨rfl, rfl, rfl, rfl, id, rfl⟩ rfl rfl

theorem waiting_ends (deadline : U64) (hs : Sound s) (hk : Keeps d s)
    (hp : s.pendingAction = d.pendingAction) (hn : s.nextActionId = d.nextActionId) : Ends d (.waiting s deadline) where
  sound := hs
  keeps := hk
  issued _ he := by cases he
  rested _ := ⟨hn, hp⟩
  fresh _ _ he := by cases he

theorem issue_ok (h : issue d phase action = .ok t) : d.pendingAction = none ∧ t =
      ⟨{ d with nextActionId := d.nextActionId + 1, phase, pendingAction := some ⟨d.nextActionId + 1, action⟩ },
        .execute ⟨d.nextActionId + 1, action⟩⟩ := by
  simp only [issue, bind_ok, rejectIf_ok, exists_unit, addU64_ok, pure_ok, ne_eq, not_not] at h
  obtain ⟨hp, _, ⟨_, rfl⟩, rfl⟩ := h
  exact ⟨hp, rfl⟩

theorem issue_ends (h : issue d phase action = .ok t) (hm : Matches phase action)
    (hf : ∀ epoch, action = .startFreshDomain epoch → d.phase.restarts = true) : Ends d t := by
  obtain ⟨hp, rfl⟩ := issue_ok h
  refine ⟨⟨?_, ?_, ?_⟩, ⟨rfl, rfl, rfl, rfl, id, rfl⟩, ?_, ?_, ?_⟩
  · rintro env henv
    cases henv
    exact ⟨hm, rfl⟩
  · intro he
    cases he
  · intro hr
    rw [hm.not_restarts] at hr
    cases hr
  · rintro env henv
    cases henv
    exact ⟨hp, rfl, rfl⟩
  · intro he
    exact absurd rfl (he _)
  · rintro id epoch he
    cases he
    exact hf epoch rfl

theorem issue_ends_of
    (h : issue d phase action = .ok t) (hm : Matches phase action) (hr : ∀ epoch, action ≠ .startFreshDomain epoch) :
    Ends d t :=
  issue_ends h hm fun epoch he => absurd he (hr epoch)

theorem rememberQuarantineReason_keeps (d : RecoveryState) (reason : QuarantineReason) :
    Keeps d (rememberQuarantineReason d reason) :=
  ⟨rfl, rfl, rfl, rfl, fun _ => Option.some_ne_none _, rfl⟩

/-- **Quarantine keeps an action that is pending and otherwise leaves the phase.** -/
theorem quarantine_ends (h : quarantine d reason = .ok t)
    (hd : ∀ env, d.pendingAction = some env → Matches d.phase env.action ∧ env.id = d.nextActionId) : Ends d t := by
  simp only [quarantine, bind_ok, okOr_ok] at h
  obtain ⟨r, _, h⟩ := h
  have hk := rememberQuarantineReason_keeps d reason
  unfold enterQuarantine at h
  split at h
  · rename_i hp
    obtain rfl := pure_ok.1 h
    refine unchanged_ends ⟨hd, fun he => absurd he hp, fun hr => ?_⟩ hk rfl rfl
    obtain ⟨env, henv⟩ := Option.ne_none_iff_exists'.1 hp
    have hno := (hd env henv).1.not_restarts
    rw [show (rememberQuarantineReason d reason).phase = d.phase from rfl, hno] at hr
    cases hr
  · rename_i hp
    have hp := not_not.1 hp
    split at h
    · obtain rfl := pure_ok.1 h
      have hends : Ends (rememberQuarantineReason d reason)
          (.unchanged { rememberQuarantineReason d reason with phase := .quarantined r }) :=
        rest_ends hp rfl fun hr => by cases hr
      exact hends.of_keeps hk rfl rfl rfl
    · have hends := issue_ends_of h trivial fun epoch he => by cases he
      exact hends.of_keeps hk rfl rfl rfl

theorem beginCleanup_ends (h : beginCleanup d = .ok t) : Ends d t := by
  simp only [beginCleanup, bind_ok, rejectIf_ok, exists_unit] at h
  obtain ⟨_, _, _, h⟩ := h
  exact issue_ends_of h trivial fun epoch he => by cases he

theorem beginFailure_ends (hd : Sound d) (h : beginFailure d = .ok t) : Ends d t := by
  simp only [beginFailure] at h
  have hk : Keeps d { d with restartAfterCleanup := true } := ⟨rfl, rfl, rfl, rfl, id, rfl⟩
  split at h
  · exact (issue_ends_of h trivial fun epoch he => by cases he).of_keeps hk rfl rfl rfl
  · obtain rfl := pure_ok.1 h
    have hs : Sound { d with restartAfterCleanup := true } :=
      ⟨hd.pending, hd.rests, fun hr => ⟨(hd.cleared hr).lost, (hd.cleared hr).proven, (hd.cleared hr).untainted⟩⟩
    exact unchanged_ends hs hk rfl rfl

theorem beginOwnerInvariantFailure_ends (hd : Sound d) (h : beginOwnerInvariantFailure d = .ok t) : Ends d t := by
  have hk := rememberQuarantineReason_keeps d .ownerInvariantViolation
  have hquarantine : ∀ t, quarantine (rememberQuarantineReason d .ownerInvariantViolation) .ownerInvariantViolation = .ok t →
      Ends d t := fun t ht => (quarantine_ends ht hd.pending).of_keeps hk rfl rfl rfl
  have hfailure : d.phase.restarts = false →
      ∀ t, beginFailure (rememberQuarantineReason d .ownerInvariantViolation) = .ok t → Ends d t := by
    intro hr t ht
    have hs : Sound (rememberQuarantineReason d .ownerInvariantViolation) :=
      ⟨hd.pending, hd.rests, fun hr' => absurd (hr.symm.trans hr') (by decide)⟩
    exact (beginFailure_ends hs ht).of_keeps hk rfl rfl rfl
  unfold beginOwnerInvariantFailure at h
  have hphase : (rememberQuarantineReason d .ownerInvariantViolation).phase = d.phase := rfl
  simp only [hphase] at h
  cases hp : d.phase <;> rw [hp] at h hfailure <;> first | exact hquarantine t h | exact hfailure rfl t h

theorem pruneAttempts_ok (h : pruneAttempts d observedAt = .ok s) : ∃ attempts, s = { d with attempts } := by
  simp only [pruneAttempts, bind_ok, pure_ok, exists_unit] at h
  exact ⟨_, h.2.2.symm⟩

/-- **A proven cleanup leads to a backoff only for a generation nothing is held against.** -/
theorem scheduleAfterCleanup_ends (hp : d.pendingAction = none) (h : scheduleAfterCleanup sha256 d observedAt = .ok t) :
    Ends d t := by
  have hnone : ∀ env, d.pendingAction = some env → Matches d.phase env.action ∧ env.id = d.nextActionId := by
    intro env he
    rw [hp] at he
    cases he
  simp only [scheduleAfterCleanup, ensureLossSettled, bind_ok, okOr_ok, rejectIf_ok, exists_unit, pure_ok] at h
  obtain ⟨lineage, ⟨_, hlost, _, rfl⟩, hproven, h⟩ := h
  unfold scheduleClean at h
  split at h
  · exact quarantine_ends h hnone
  · rename_i huncertain
    split at h
    · exact quarantine_ends h hnone
    · rename_i hreason
      split at h
      · simp only [scheduleWithinWindow, bind_ok] at h
        obtain ⟨s, hs, h⟩ := h
        obtain ⟨attempts, rfl⟩ := pruneAttempts_ok hs
        have hk : Keeps d { d with attempts } := ⟨rfl, rfl, rfl, rfl, id, rfl⟩
        split at h
        · exact (quarantine_ends h hnone).of_keeps hk rfl rfl rfl
        · simp only [scheduleRestart, bind_ok, pure_ok] at h
          obtain ⟨_, _, restartAt, _, rfl⟩ := h
          have hsound : Sound { d with attempts, phase := .backoff restartAt } := by
            refine .enter (d := { d with attempts }) hp rfl fun _ => ⟨?_, ?_, ?_⟩
            · exact fun h => by rw [show d.lossLineage = none from h] at hlost; cases hlost
            · exact Bool.of_not_eq_false hproven
            · rintro (hu | hr)
              · exact huncertain hu
              · exact hr hreason
          exact waiting_ends restartAt hsound ⟨rfl, rfl, rfl, rfl, id, rfl⟩ rfl rfl
      · obtain rfl := pure_ok.1 h
        exact rest_ends hp rfl fun hr => by cases hr

/-! ## Facts -/

/-- The draft of a fact: what was pending and issued stays, and nothing held against the generation is dropped. -/
structure Drafts (s d : RecoveryState) : Prop where
  identity : d.identity = s.identity
  phase : d.phase = s.phase
  pending : d.pendingAction = s.pendingAction
  issued : d.nextActionId = s.nextActionId
  completed : d.lastCompletedAction = s.lastCompletedAction
  tainted : Tainted s → Tainted d

structure Advances (s : RecoveryState) (t : RecoveryTransition) : Prop where
  sound : Sound t.state
  identity : t.state.identity = s.identity
  issued : ∀ env, t.decision = .execute env → env.id = s.nextActionId + 1 ∧ t.state.pendingAction = some env
  rested : (∀ env, t.decision ≠ .execute env) → t.state.nextActionId = s.nextActionId
    ∧ (t.state.pendingAction = s.pendingAction ∨ t.state.pendingAction = none)
  fresh : ∀ id epoch, t.decision = .execute ⟨id, .startFreshDomain epoch⟩ → s.phase.restarts = true
  tainted : Tainted s → Tainted t.state

theorem Drafts.idle (hd : Drafts s d) (h : Ends d t) : ∀ env, t.decision = .execute env → s.pendingAction = none :=
  fun env he => hd.pending ▸ (h.issued env he).1

theorem Drafts.advances (hd : Drafts s d) (h : Ends d t) : Advances s t where
  sound := h.sound
  identity := h.keeps.identity.trans hd.identity
  issued env he := by
    obtain ⟨_, hid, hp⟩ := h.issued env he
    exact ⟨hd.issued ▸ hid, hp⟩
  rested he := by
    obtain ⟨hid, hp⟩ := h.rested he
    exact ⟨hid.trans hd.issued, .inl (hp.trans hd.pending)⟩
  fresh id epoch he := hd.phase ▸ h.fresh id epoch he
  tainted ht := h.keeps.tainted (hd.tainted ht)

/-- How a fact bears on the loss of the generation: it is the loss that was not known before, or it changes nothing. -/
def LossStep (s s' : RecoveryState) (kind : RuntimeFailureFactKind) : Prop :=
  s'.lossLineage = s.lossLineage ∨
    s.lossLineage = none ∧ ∃ o, kind = .processExited o ∧ s'.lossLineage = some o.lineage

/-- How a fact bears on the cleanup: it is a proof of the lineage that was lost, or it changes nothing. -/
def ProofStep (s s' : RecoveryState) (kind : RuntimeFailureFactKind) : Prop :=
  s'.cleanupProven = s.cleanupProven ∨
    s'.cleanupProven = true ∧ ∃ p, kind = .cleanupCompleted p ∧ s.lossLineage = some p.lineage

structure Observes (s : RecoveryState) (kind : RuntimeFailureFactKind) (t : RecoveryTransition) : Prop where
  advances : Advances s t
  idle : ∀ env, t.decision = .execute env → s.pendingAction = none
  completed : t.state.lastCompletedAction = s.lastCompletedAction
  loss : LossStep s t.state kind
  proof : ProofStep s t.state kind

theorem Drafts.observes (hd : Drafts s d)
    (h : Ends d t) (hl : d.lossLineage = s.lossLineage) (hp : d.cleanupProven = s.cleanupProven) : Observes s kind t where
  advances := hd.advances h
  idle := hd.idle h
  completed := h.keeps.completed.trans hd.completed
  loss := .inl (h.keeps.loss.trans hl)
  proof := .inl (h.keeps.proven.trans hp)

theorem Drafts.refl (s : RecoveryState) : Drafts s s := ⟨rfl, rfl, rfl, rfl, rfl, id⟩

theorem observeProcessExited_observes {o : ProcessLossObservation}
    (hs : Sound s) (h : observeProcessExited s o = .ok t) : Observes s (.processExited o) t := by
  simp only [observeProcessExited, bind_ok, rejectIf_ok, exists_unit, ne_eq, not_not] at h
  obtain ⟨hlost, _, h⟩ := h
  have hd : Drafts s (withLoss s o) := by
    refine ⟨rfl, rfl, rfl, rfl, rfl, ?_⟩
    rintro (hu | hr)
    · exact .inl (by simp [withLoss, hu])
    · exact .inr hr
  have hrestarts : s.phase.restarts = false := by
    by_contra hr
    exact (hs.cleared (Bool.of_not_eq_false hr)).lost hlost
  have hends : Ends (withLoss s o) t := by
    unfold afterLoss at h
    split at h
    · have hk : Keeps (withLoss s o) { withLoss s o with restartAfterCleanup := !o.expected } :=
        ⟨rfl, rfl, rfl, rfl, id, rfl⟩
      exact (issue_ends_of h trivial fun epoch he => by cases he).of_keeps hk rfl rfl rfl
    · split at h
      · exact beginCleanup_ends h
      · obtain rfl := pure_ok.1 h
        refine unchanged_ends ⟨hs.pending, hs.rests, fun hr => ?_⟩ (Keeps.refl _) rfl rfl
        rw [show (withLoss s o).phase = s.phase from rfl, hrestarts] at hr
        cases hr
  exact ⟨hd.advances hends, hd.idle hends, hends.keeps.completed, .inr ⟨hlost, o, rfl, hends.keeps.loss⟩, .inl hends.keeps.proven⟩

theorem observeInvocation_observes {i : ProcessInvocationFailure} (hs : Sound s)
    (h : observeInvocation s i = .ok t) : Observes s kind t := by
  unfold observeInvocation at h
  split at h
  · have hd : Drafts s { s with externalEffectUncertain := true } := ⟨rfl, rfl, rfl, rfl, rfl, fun _ => .inl rfl⟩
    refine hd.observes ?_ rfl rfl
    have hquarantine : ∀ t, quarantine { s with externalEffectUncertain := true } .externalEffectUncertain = .ok t →
        Ends { s with externalEffectUncertain := true } t := fun t ht => quarantine_ends ht hs.pending
    have hfailure : s.phase.restarts = false →
        ∀ t, beginFailure { s with externalEffectUncertain := true } = .ok t →
          Ends { s with externalEffectUncertain := true } t := by
      intro hr t ht
      exact beginFailure_ends ⟨hs.pending, hs.rests, fun hr' => absurd (hr.symm.trans hr') (by decide)⟩ ht
    simp only [observeExternalUncertain] at h
    split at h
    · exact hquarantine t h
    · exact hquarantine t h
    · exact hquarantine t h
    · rename_i hbackoff hrecovered _
      refine hfailure ?_ t h
      cases hp : s.phase with
      | backoff at' => exact absurd hp (hbackoff at')
      | recovered epoch => exact absurd hp (hrecovered epoch)
      | _ => rfl
  · exact (Drafts.refl s).observes (beginFailure_ends hs h) rfl rfl

theorem cleanupDeadline_ok {deadline : Option U64} (h : cleanupDeadline s = .ok deadline) :
    s.phase.restarts = false := by
  unfold cleanupDeadline at h
  split at h
  · rename_i hp
    rw [hp]
    rfl
  · rename_i hp
    rw [hp]
    rfl
  · cases h

theorem observeCleanupCompleted_observes {p : ProcessCleanupProof} (hs : Sound s)
    (h : observeCleanupCompleted sha256 s p observedAt = .ok t) : Observes s (.cleanupCompleted p) t := by
  simp only [observeCleanupCompleted, bind_ok, rejectIf_ok, exists_unit, okOr_ok, ne_eq, not_not] at h
  obtain ⟨_, lineage, hlost, _, rfl, deadline, hdeadline, h⟩ := h
  have hrestarts := cleanupDeadline_ok hdeadline
  have hd : Drafts s (withProof s p) := by
    refine ⟨rfl, rfl, rfl, rfl, rfl, ?_⟩
    rintro (hu | hr)
    · exact .inl (by simp [withProof, hu])
    · exact .inr hr
  have hends : Ends (withProof s p) t := by
    unfold afterProof at h
    split at h
    · exact quarantine_ends h hs.pending
    · split at h
      · obtain rfl := pure_ok.1 h
        refine unchanged_ends ⟨hs.pending, hs.rests, fun hr => ?_⟩ (Keeps.refl _) rfl rfl
        rw [show (withProof s p).phase = s.phase from rfl, hrestarts] at hr
        cases hr
      · rename_i hp
        exact scheduleAfterCleanup_ends (not_not.1 hp) h
  exact ⟨hd.advances hends, hd.idle hends, hends.keeps.completed, .inl hends.keeps.loss,
    .inr ⟨hends.keeps.proven, p, rfl, hlost⟩⟩

theorem observeCleanupIncomplete_ends (hs : Sound s) (h : observeCleanupIncomplete s = .ok t) : Ends s t := by
  unfold observeCleanupIncomplete at h
  split at h
  · exact quarantine_ends h hs.pending
  · split at h
    · obtain rfl := pure_ok.1 h
      exact unchanged_ends hs (Keeps.refl s) rfl rfl
    · cases h
  · cases h

theorem observeKind_observes (hs : Sound s)
    (h : observeKind sha256 s observedAt kind = .ok t) : Observes s kind t := by
  have hrefl := Drafts.refl s
  cases kind with
  | processExited o => exact observeProcessExited_observes hs h
  | heartbeatMissed _ | controlProbeMissed _ | protocolViolation _ | resourceLimitExceeded _ | launchFailed
  | shutdownFailed => exact hrefl.observes (beginFailure_ends hs h) rfl rfl
  | ownerInvariantViolation _ => exact hrefl.observes (beginOwnerInvariantFailure_ends hs h) rfl rfl
  | wedgeDetected i | invocationUncertain i => exact observeInvocation_observes hs h
  | cleanupCompleted p => exact observeCleanupCompleted_observes hs h
  | cleanupIncomplete _ => exact hrefl.observes (observeCleanupIncomplete_ends hs h) rfl rfl

theorem Sound.stamped (hs : Sound s) (sequence : U64) (fingerprint : Option Digest32)
    (observedAt : ClockReading) : Sound { s with lastFactSequence := sequence, lastFactFingerprint := fingerprint,
                                                 lastObservedAt := observedAt } :=
  ⟨hs.pending, hs.rests, fun hr => ⟨(hs.cleared hr).lost, (hs.cleared hr).proven, (hs.cleared hr).untainted⟩⟩

theorem observeFact_observes {f : RuntimeFailureFact}
    (hs : Sound s) (h : observeFact sha256 s f = .ok t) : f.identity = s.identity ∧ Observes s f.kind t := by
  simp only [observeFact, bind_ok, rejectIf_ok, exists_unit, ne_eq, not_not] at h
  obtain ⟨hidentity, _, fingerprint, _, _, h⟩ := h
  refine ⟨hidentity, ?_⟩
  split at h
  · unfold repeatFact at h
    split at h
    · obtain rfl := pure_ok.1 h
      exact (Drafts.refl s).observes (unchanged_ends hs (Keeps.refl s) rfl rfl) rfl rfl
    · cases h
  · have hnext := hs.stamped f.sequence (some fingerprint) f.observedAt
    have hobserves : Observes { s with lastFactSequence := f.sequence, lastFactFingerprint := some fingerprint,
                                       lastObservedAt := f.observedAt } f.kind t := by
      simp only [consumeFact] at h
      split at h
      · obtain rfl := pure_ok.1 h
        exact (Drafts.refl _).observes (unchanged_ends hnext (Keeps.refl _) rfl rfl) rfl rfl
      · exact observeKind_observes hnext h
    obtain ⟨ha, hi, hc, hl, hp⟩ := hobserves
    exact ⟨⟨ha.sound, ha.identity, ha.issued, ha.rested, ha.fresh, ha.tainted⟩, hi, hc, hl, hp⟩

/-! ## Actions -/

theorem rememberUncertainty_keeps (d : RecoveryState) : Keeps d (rememberUncertainty d) := by
  unfold rememberUncertainty
  split
  · exact rememberQuarantineReason_keeps d _
  · exact Keeps.refl d

theorem rememberUncertainty_fields (d : RecoveryState) : (rememberUncertainty d).pendingAction = d.pendingAction
    ∧ (rememberUncertainty d).nextActionId = d.nextActionId ∧ (rememberUncertainty d).phase = d.phase := by
  unfold rememberUncertainty
  split <;> exact ⟨rfl, rfl, rfl⟩

theorem Ends.of_remembered (h : Ends (rememberUncertainty (rememberQuarantineReason d reason)) t) : Ends d t := by
  obtain ⟨hp, hn, hphase⟩ := rememberUncertainty_fields (rememberQuarantineReason d reason)
  exact h.of_keeps ((rememberQuarantineReason_keeps d reason).trans (rememberUncertainty_keeps _)) hp hn hphase

theorem escalate_ends
    (h : escalate d phase action = .ok t) (hm : Matches phase action) (hr : ∀ epoch, action ≠ .startFreshDomain epoch) :
    Ends d t := by
  unfold escalate at h
  split at h
  · exact beginCleanup_ends h
  · exact issue_ends_of h hm hr

theorem none_pending (hp : d.pendingAction = none) :
    ∀ env, d.pendingAction = some env → Matches d.phase env.action ∧ env.id = d.nextActionId := by
  intro env he
  rw [hp] at he
  cases he

theorem quarantineRemembered_ends (hp : d.pendingAction = none) (h : quarantineRemembered d = .ok t) : Ends d t := by
  simp only [quarantineRemembered, bind_ok] at h
  obtain ⟨reason, _, h⟩ := h
  exact quarantine_ends h (none_pending hp)

theorem restQuarantined_ends (hp : d.pendingAction = none) (h : restQuarantined d = .ok t) : Ends d t := by
  simp only [restQuarantined, bind_ok, pure_ok] at h
  obtain ⟨reason, _, rfl⟩ := h
  exact rest_ends hp rfl fun hr => by cases hr

theorem completeFailed_ends (hp : d.pendingAction = none) (h : completeFailed d action = .ok t) : Ends d t := by
  have hpending : ∀ reason, (rememberUncertainty (rememberQuarantineReason d reason)).pendingAction = none :=
    fun reason => (rememberUncertainty_fields _).1.trans hp
  cases action with
  | requestCooperativeStop | sendTerminate => exact (escalate_ends h trivial fun epoch he => by cases he).of_remembered
  | sendKill =>
    simp only [completeFailed] at h
    split at h
    · exact (beginCleanup_ends h).of_remembered
    · exact (quarantineRemembered_ends (hpending _) h).of_remembered
  | enterQuarantine reason => exact (restQuarantined_ends (hpending _) h).of_remembered
  | fenceAndStopAdmission | collectCleanup | startFreshDomain _ =>
    exact (quarantineRemembered_ends (hpending _) h).of_remembered

theorem waitWith_ends {budget : U64} {phase : U64 → RecoveryPhase} (hp : d.pendingAction = none)
    (ha : ∀ deadline, (phase deadline).acts = false) (hr : ∀ deadline, (phase deadline).restarts = false)
    (h : waitWith d observedAt budget phase = .ok t) : Ends d t := by
  simp only [waitWith, bind_ok, pure_ok] at h
  obtain ⟨deadline, _, rfl⟩ := h
  have hs : Sound { d with phase := phase deadline } :=
    .enter hp (ha deadline) fun hr' => absurd ((hr deadline).symm.trans hr') (by decide)
  exact waiting_ends deadline hs ⟨rfl, rfl, rfl, rfl, id, rfl⟩ rfl rfl

theorem completeStop_ends {budget : U64} {phase : U64 → RecoveryPhase} (hp : d.pendingAction = none)
    (ha : ∀ deadline, (phase deadline).acts = false) (hr : ∀ deadline, (phase deadline).restarts = false)
    (h : completeStop d outcome observedAt budget phase = .ok t) : Ends d t := by
  unfold completeStop at h
  split at h
  · exact beginCleanup_ends h
  · split at h
    · have hwait : waitWith d observedAt d.lifecycle.cleanup .awaitingProcessLoss = .ok t := h
      exact waitWith_ends hp (fun _ => rfl) (fun _ => rfl) hwait
    · exact waitWith_ends hp ha hr h

theorem completeStartFresh_ends {nextEpoch : U64}
    (hp : d.pendingAction = none) (h : completeStartFresh d nextEpoch = .ok t) : Ends d t := by
  simp only [completeStartFresh, ensureLossSettled, bind_ok, okOr_ok, rejectIf_ok, exists_unit, pure_ok] at h
  obtain ⟨lineage, ⟨_, hlost, _, rfl⟩, hproven, h⟩ := h
  unfold becomeRecovered at h
  split at h
  · exact quarantine_ends h (none_pending hp)
  · rename_i huncertain
    split at h
    · exact quarantine_ends h (none_pending hp)
    · rename_i hreason
      obtain rfl := pure_ok.1 h
      refine rest_ends hp rfl fun _ => ⟨?_, Bool.of_not_eq_false hproven, ?_⟩
      · rw [hlost]
        exact Option.some_ne_none _
      · rintro (hu | hr)
        · exact huncertain hu
        · exact hr hreason

theorem completeEnterQuarantine_ends
    (hp : d.pendingAction = none) (h : completeEnterQuarantine d reason = .ok t) : Ends d t := by
  have hpending := (rememberUncertainty_fields (rememberQuarantineReason d reason)).1.trans hp
  have hk : Keeps (rememberUncertainty (rememberQuarantineReason d reason))
      { rememberUncertainty (rememberQuarantineReason d reason) with quarantineEntered := true } :=
    ⟨rfl, rfl, rfl, rfl, id, rfl⟩
  simp only [completeEnterQuarantine] at h
  split at h
  · exact ((beginCleanup_ends h).of_keeps hk rfl rfl rfl).of_remembered
  · have hends := restQuarantined_ends (by exact hpending) h
    exact (hends.of_keeps hk rfl rfl rfl).of_remembered

theorem completeDone_ends (hp : d.pendingAction = none)
    (h : completeDone d outcome observedAt action = .ok t) : Ends d t := by
  cases action with
  | fenceAndStopAdmission => exact escalate_ends h trivial fun epoch he => by cases he
  | requestCooperativeStop | sendTerminate | sendKill => exact completeStop_ends hp (fun _ => rfl) (fun _ => rfl) h
  | collectCleanup =>
    simp only [completeDone, completeCollect, bind_ok] at h
    obtain ⟨_, _, h⟩ := h
    exact waitWith_ends hp (fun _ => rfl) (fun _ => rfl) h
  | startFreshDomain nextEpoch => exact completeStartFresh_ends hp h
  | enterQuarantine reason => exact completeEnterQuarantine_ends hp h

/-- **A completion either repeats the last one and changes nothing, or ends the pending action it names.** -/
theorem completeAction_cases {id : U64} (h : completeAction s id outcome observedAt = .ok t) :
    (s.lastCompletedAction = some ⟨id, outcome⟩ ∧ t = .unchanged s) ∨
    ∃ pending, s.pendingAction = some pending ∧ pending.id = id ∧
      Ends { s with pendingAction := none, lastCompletedAction := some ⟨id, outcome⟩, lastObservedAt := observedAt } t := by
  have hpending : ∀ {t}, completePending s id outcome observedAt = .ok t → ∃ pending, s.pendingAction = some pending
      ∧ pending.id = id ∧ Ends { s with pendingAction := none, lastCompletedAction := some ⟨id, outcome⟩,
                                        lastObservedAt := observedAt } t := by
    intro t h
    simp only [completePending, bind_ok, okOr_ok, rejectIf_ok, exists_unit, ne_eq, not_not] at h
    obtain ⟨pending, hp, hid, _, h⟩ := h
    refine ⟨pending, hp, hid, ?_⟩
    split at h
    · exact completeFailed_ends rfl h
    · exact completeDone_ends rfl h
  simp only [completeAction, bind_ok, exists_unit] at h
  obtain ⟨_, h⟩ := h
  split at h
  · rename_i completed hlast
    split at h
    · rename_i hid
      split at h
      · rename_i houtcome
        obtain rfl := pure_ok.1 h
        left
        rw [hlast]
        exact ⟨by cases completed; simp_all, rfl⟩
      · cases h
    · exact .inr (hpending h)
  · exact .inr (hpending h)

theorem completeAction_advances {id : U64} (hs : Sound s)
    (h : completeAction s id outcome observedAt = .ok t) : Advances s t
      ∧ t.state.lossLineage = s.lossLineage ∧ t.state.cleanupProven = s.cleanupProven := by
  rcases completeAction_cases h with ⟨_, rfl⟩ | ⟨pending, hp, _, hends⟩
  · exact ⟨(Drafts.refl s).advances (unchanged_ends hs (Keeps.refl s) rfl rfl), rfl, rfl⟩
  · refine ⟨⟨hends.sound, hends.keeps.identity, ?_, ?_, hends.fresh, ?_⟩, hends.keeps.loss, hends.keeps.proven⟩
    · intro env he
      exact (hends.issued env he).2
    · intro he
      obtain ⟨hid, hnone⟩ := hends.rested he
      exact ⟨hid, .inr hnone⟩
    · intro ht
      exact hends.keeps.tainted ht

/-! ## Deadlines and generations -/

theorem leaveBackoff_ends
    (hp : s.pendingAction = none) (hr : s.phase.restarts = true) (h : leaveBackoff s observedAt = .ok t) :
    Ends s t := by
  simp only [leaveBackoff, bind_ok, rejectIf_ok, exists_unit] at h
  obtain ⟨_, _, _, s', hs', h⟩ := h
  obtain ⟨attempts, rfl⟩ := pruneAttempts_ok hs'
  have hk : Keeps s { s with attempts } := ⟨rfl, rfl, rfl, rfl, id, rfl⟩
  unfold attemptRestart at h
  split at h
  · exact (quarantine_ends h (none_pending hp)).of_keeps hk rfl rfl rfl
  · split at h
    · exact (quarantine_ends h (none_pending hp)).of_keeps hk rfl rfl rfl
    · simp only [startFresh, bind_ok] at h
      obtain ⟨sequence, _, h⟩ := h
      have hk' : Keeps s { s with attempts := attempts ++ [observedAt.now], attemptSequence := sequence } :=
        ⟨rfl, rfl, rfl, rfl, id, rfl⟩
      exact (issue_ends h rfl fun _ _ => hr).of_keeps hk' rfl rfl rfl

theorem atDeadline_ends {deadline : U64} {atEnd : Res RecoveryTransition} (hs : Sound s) (hend : atEnd = .ok t → Ends s t)
    (h : atDeadline s observedAt deadline atEnd = .ok t) : Ends s t := by
  unfold atDeadline at h
  split at h
  · exact hend h
  · obtain rfl := pure_ok.1 h
    exact waiting_ends deadline hs (Keeps.refl s) rfl rfl

theorem pollPhase_ends (hs : Sound s)
    (hp : s.pendingAction = none) (h : pollPhase s observedAt = .ok t) : Ends s t := by
  have hrest : (pure (RecoveryTransition.unchanged s) : Res RecoveryTransition) = .ok t → Ends s t := by
    intro h
    obtain rfl := pure_ok.1 h
    exact unchanged_ends hs (Keeps.refl s) rfl rfl
  unfold pollPhase at h
  split at h
  · refine atDeadline_ends hs ?_ h
    exact fun h => issue_ends_of h trivial fun epoch he => by cases he
  · refine atDeadline_ends hs ?_ h
    exact fun h => issue_ends_of h trivial fun epoch he => by cases he
  · exact atDeadline_ends hs (fun h => quarantine_ends h hs.pending) h
  · exact atDeadline_ends hs (fun h => quarantine_ends h hs.pending) h
  · exact atDeadline_ends hs (fun h => quarantine_ends h hs.pending) h
  · rename_i restartAt hphase
    have hrestarts : s.phase.restarts = true := by rw [hphase]; rfl
    exact atDeadline_ends hs (leaveBackoff_ends hp hrestarts) h
  · split at h
    · exact beginCleanup_ends h
    · exact hrest h
  all_goals first | exact hrest h | cases h

theorem poll_advances (hs : Sound s)
    (h : poll s observedAt = .ok t) : Advances s t ∧ t.state.lossLineage = s.lossLineage
      ∧ t.state.cleanupProven = s.cleanupProven ∧ t.state.lastCompletedAction = s.lastCompletedAction
      ∧ ∀ env, t.decision = .execute env → s.pendingAction = none := by
  simp only [poll, bind_ok, exists_unit] at h
  obtain ⟨_, h⟩ := h
  split at h
  · rename_i pending hp
    obtain rfl := pure_ok.1 h
    exact ⟨⟨hs, rfl, fun _ he => (by cases he), fun _ => ⟨rfl, .inl rfl⟩, fun _ _ he => (by cases he), id⟩,
      rfl, rfl, rfl, fun _ he => (by cases he)⟩
  · rename_i hp
    have hends := pollPhase_ends (hs.stamped s.lastFactSequence s.lastFactFingerprint observedAt) hp h
    have hd : Drafts s { s with lastObservedAt := observedAt } := ⟨rfl, rfl, rfl, rfl, rfl, id⟩
    exact ⟨hd.advances hends, hends.keeps.loss, hends.keeps.proven, hends.keeps.completed, hd.idle hends⟩

/-- **A generation is rolled only when it is recovered and nothing is held against it**, into one that starts healthy with
the ids and the last completion of the old one. -/
theorem rollGeneration_ok {identity : ProcessGenerationIdentity} (h : rollGeneration s identity observedAt = .ok s') :
    s.pendingAction = none ∧ ¬ Tainted s ∧ (∃ epoch, s.phase = .recovered epoch) ∧ s'.pendingAction = none
      ∧ s'.phase = .healthy ∧ s'.nextActionId = s.nextActionId ∧ s'.lossLineage = none ∧ s'.cleanupProven = false
      ∧ s'.lastCompletedAction = s.lastCompletedAction := by
  simp only [rollGeneration, bind_ok, okOr_ok, rejectIf_ok, exists_unit, pure_ok, ne_eq, not_not, not_or] at h
  obtain ⟨_, epoch, hphase, hp, ⟨hu, hr, _⟩, _, rfl⟩ := h
  refine ⟨hp, ?_, ⟨epoch, ?_⟩, hp, rfl, rfl, rfl, rfl, rfl⟩
  · rintro (h | h)
    · exact hu h
    · exact h hr
  · unfold recoveredEpoch at hphase
    split at hphase
    · cases hphase
      assumption
    · cases hphase

theorem rollGeneration_sound {identity : ProcessGenerationIdentity}
    (h : rollGeneration s identity observedAt = .ok s') : Sound s' := by
  obtain ⟨_, _, _, hp, hphase, _, _, _, _⟩ := rollGeneration_ok h
  refine ⟨none_pending hp, fun _ => ?_, fun hr => ?_⟩
  · rw [hphase]
    rfl
  · rw [hphase] at hr
    cases hr

theorem tryNew_sound (identity : ProcessGenerationIdentity) (lifecycle : ProcessLifecycleBudgets)
    (restart : ProcessRestartPolicy) (observedAt : ClockReading) :
    Sound (RecoveryState.tryNew identity lifecycle restart observedAt) :=
  ⟨none_pending rfl, fun _ => rfl, fun hr => by cases hr⟩

end Recovery
end ParaEgox
