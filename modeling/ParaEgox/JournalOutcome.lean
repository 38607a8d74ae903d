import Mathlib.Data.List.Pairwise
import ParaEgox.JournalOperation

/-!
# JournalOutcome — latched facts survive to the terminal

Once the latch of an action records a fact, every later latch of the action and its terminal record carry it, through
progress, takeover, restart and every terminal path.
-/
namespace ParaEgox
namespace Journal

open Check RuntimeJournalState

/-! ## Facts of a latch -/

structure RawActionOutcomeLatch.Keeps (old new : RawActionOutcomeLatch) : Prop where
  callback : new.callback = old.callback
  reason : ∀ d, old.callbackReasonDigest = some d → new.callbackReasonDigest = some d
  deadline : old.deadline ≠ .notObserved → new.deadline = old.deadline ∧
    new.observedClockGeneration = old.observedClockGeneration ∧ new.observedAtNanos = old.observedAtNanos
  hostInterrupted : old.hostInterrupted = true → new.hostInterrupted = true
  takeover : old.higherTenureTakeover = true → new.higherTenureTakeover = true
  cleanup : old.cleanup ≠ .notObserved → new.cleanup = old.cleanup
  cleanupEvidence : ∀ d, old.cleanupEvidenceDigest = some d → new.cleanupEvidenceDigest = some d

/-- A terminal reports exactly the latched facts; only cleanup may have been observed since, as exact zero. -/
structure RawActionOutcomeLatch.ReportedBy (latched reported : RawActionOutcomeLatch) : Prop where
  callback : reported.callback = latched.callback
  reason : reported.callbackReasonDigest = latched.callbackReasonDigest
  deadline : reported.deadline = latched.deadline
  observedClockGeneration : reported.observedClockGeneration = latched.observedClockGeneration
  observedAtNanos : reported.observedAtNanos = latched.observedAtNanos
  hostInterrupted : reported.hostInterrupted = latched.hostInterrupted
  takeover : reported.higherTenureTakeover = latched.higherTenureTakeover
  cleanup : reported.cleanup = latched.cleanup ∨ (latched.cleanup = .notObserved ∧ reported.cleanup = .exactZero)
  cleanupEvidence : ∀ d, latched.cleanupEvidenceDigest = some d → reported.cleanupEvidenceDigest = some d

namespace RawActionOutcomeLatch

theorem Keeps.refl (raw : RawActionOutcomeLatch) : raw.Keeps raw :=
  ⟨rfl, fun _ h => h, fun _ => ⟨rfl, rfl, rfl⟩, id, id, fun _ => rfl, fun _ h => h⟩

theorem Keeps.trans {a b c : RawActionOutcomeLatch} (hab : a.Keeps b) (hbc : b.Keeps c) : a.Keeps c where
  callback := hbc.callback.trans hab.callback
  reason d h := hbc.reason d (hab.reason d h)
  deadline h := by
    obtain ⟨h1, h2, h3⟩ := hab.deadline h
    obtain ⟨h4, h5, h6⟩ := hbc.deadline (by rwa [h1])
    exact ⟨h4.trans h1, h5.trans h2, h6.trans h3⟩
  hostInterrupted h := hbc.hostInterrupted (hab.hostInterrupted h)
  takeover h := hbc.takeover (hab.takeover h)
  cleanup h := by
    have h1 := hab.cleanup h
    exact (hbc.cleanup (by rwa [h1])).trans h1
  cleanupEvidence d h := hbc.cleanupEvidence d (hab.cleanupEvidence d h)

theorem ReportedBy.keeps {latched reported : RawActionOutcomeLatch} (h : latched.ReportedBy reported) :
    latched.Keeps reported where
  callback := h.callback
  reason d hd := by rw [h.reason, hd]
  deadline _ := ⟨h.deadline, h.observedClockGeneration, h.observedAtNanos⟩
  hostInterrupted hi := by rw [h.hostInterrupted, hi]
  takeover ht := by rw [h.takeover, ht]
  cleanup hc := h.cleanup.resolve_right fun hn => hc hn.1
  cleanupEvidence := h.cleanupEvidence

theorem optionFactPreserved_some {new old : Option Digest32} (h : optionFactPreserved new old = true) :
    ∀ d, old = some d → new = some d := by
  intro d hd
  rw [hd] at h
  simpa [optionFactPreserved] using h

theorem CleanupOutcome.code_injective : Function.Injective CleanupOutcome.code := by
  intro a b h
  cases a <;> cases b <;> simp_all [CleanupOutcome.code]

theorem keeps_of_preserves {new old : RawActionOutcomeLatch} (h : new.preserves old = true) : old.Keeps new := by
  simp only [preserves, Bool.and_eq_true, decide_eq_true_eq, Bool.or_eq_true, Bool.not_eq_true'] at h
  obtain ⟨⟨⟨⟨⟨⟨hcallback, hreason⟩, hdeadline⟩, hhost⟩, htenure⟩, hcleanup⟩, hevidence⟩ := h
  refine ⟨hcallback, optionFactPreserved_some hreason, fun hd => ?_, fun hi => ?_, fun ht => ?_, fun hc => ?_,
    optionFactPreserved_some hevidence⟩
  · obtain ⟨⟨h1, h2⟩, h3⟩ := hdeadline.resolve_left hd
    exact ⟨h1, h2, h3⟩
  · exact hhost.resolve_left (by rw [hi]; exact Bool.noConfusion)
  · exact htenure.resolve_left (by rw [ht]; exact Bool.noConfusion)
  · simp only [factPreserved, Bool.or_eq_true, decide_eq_true_eq] at hcleanup
    refine CleanupOutcome.code_injective (hcleanup.resolve_left fun h1 => hc ?_)
    exact CleanupOutcome.code_injective h1

theorem keeps_interrupted (raw : RawActionOutcomeLatch) : raw.Keeps (interruptedRaw (some raw)) :=
  ⟨rfl, fun _ h => h, fun _ => ⟨rfl, rfl, rfl⟩, fun _ => rfl, id, fun _ => rfl, fun _ h => h⟩

theorem keeps_takeover (raw : RawActionOutcomeLatch) : raw.Keeps (takeoverRaw (some raw)) :=
  ⟨rfl, fun _ h => h, fun _ => ⟨rfl, rfl, rfl⟩, id, fun _ => rfl, fun _ => rfl, fun _ h => h⟩

theorem reportedBy_of_carried {selected raw : RawActionOutcomeLatch} (h : rawCarried selected raw = true) :
    raw.ReportedBy selected := by
  simp only [rawCarried, Bool.and_eq_true, decide_eq_true_eq, Bool.or_eq_true] at h
  obtain ⟨⟨⟨⟨⟨⟨⟨⟨hpre, h1⟩, h2⟩, h3⟩, h4⟩, h5⟩, h6⟩, h7⟩, h8⟩ := h
  exact ⟨h1, h2, h3, h4, h5, h6, h7, h8, (keeps_of_preserves hpre).cleanupEvidence⟩

end RawActionOutcomeLatch

variable {raw : RawActionOutcomeLatch} {s : RuntimeJournalState} {action : JournalActionRef}
  {selection : TerminalOutcomeSelection} {c : Contracts} {sequence : U64}

theorem keeps_of_latchPreserved {new : Option RawActionOutcomeLatch}
    (h : latchPreserved new (some raw) = true) : ∃ raw', new = some raw' ∧ raw.Keeps raw' := by
  cases new with
  | none => cases h
  | some raw' => exact ⟨raw', rfl, RawActionOutcomeLatch.keeps_of_preserves h⟩

/-! ## The record of an action -/

/-- The action is under way with this latch: the prepared operation's or the recovery's. -/
inductive Underway (s : RuntimeJournalState) (action : JournalActionRef) (latch : Option RawActionOutcomeLatch) : Prop
  | prepared (p : PreparedOperation) (hp : s.prepared = some p) (ha : p.action = some action)
      (hl : p.rawOutcome = latch)
  | recovery (r : RecoveryAction) (hr : s.recoveryAction = some r) (ha : r.action = action) (hl : r.rawOutcome = latch)

inductive Reported (s : RuntimeJournalState) (action : JournalActionRef) (selection : TerminalOutcomeSelection) : Prop
  | operation (t : TerminalOperationRecord) (ht : t ∈ s.terminalOperations) (ha : t.action = some action)
      (hs : t.selection = selection)
  | recovery (t : RecoveryTerminalRecord) (ht : t ∈ s.recoveryTerminals) (ha : t.recovery.action = action)
      (hs : t.selection = selection)

variable {latch : Option RawActionOutcomeLatch} {action' : JournalActionRef} {t : RecoveryTerminalRecord}

theorem Underway.mem_allActions (h : Underway s action latch) :
    action ∈ (s.prepared.bind (·.action)).toList ++ (s.recoveryAction.map (·.action)).toList := by
  cases h with
  | prepared p hp ha _ => simp [hp, ha]
  | recovery r hr ha _ => simp [hr, ha]

theorem Reported.mem_allActions (h : Reported s action selection) :
    action ∈ s.terminalOperations.filterMap (·.action) ++ s.recoveryTerminals.map (·.recovery.action) := by
  cases h with
  | operation t ht ha _ => exact List.mem_append_left _ (List.mem_filterMap.2 ⟨t, ht, ha⟩)
  | recovery t ht ha _ => exact List.mem_append_right _ (List.mem_map.2 ⟨t, ht, ha⟩)

theorem Underway.not_reported (hs : s.ActionsOk c)
    {action : JournalActionRef} {selection : TerminalOutcomeSelection}
    (h : Underway s action latch) (h' : Reported s action' selection) : action'.actionId ≠ action.actionId := by
  have hnodup := hs.distinct
  rw [allActions, List.append_assoc, List.map_append] at hnodup
  have hdisjoint := (List.nodup_append'.1 hnodup).2.2
  intro hid
  exact hdisjoint (List.mem_map.2 ⟨action', h'.mem_allActions, rfl⟩)
    (List.mem_map.2 ⟨action, h.mem_allActions, hid.symm⟩)

theorem Underway.unique (hs : s.ActionsOk c) {action : JournalActionRef} {latch' : Option RawActionOutcomeLatch}
    (h : Underway s action latch) (h' : Underway s action' latch') : action' = action ∧ latch' = latch := by
  cases h with
  | prepared p hp ha hl =>
    cases h' with
    | prepared p' hp' ha' hl' =>
      rw [hp] at hp'
      cases hp'
      rw [ha] at ha'
      exact ⟨(Option.some.inj ha').symm, hl'.symm.trans hl⟩
    | recovery r' hr' _ _ =>
      rcases hs.single with hnone | hnone
      · rw [hp, Option.bind_some, ha] at hnone
        cases hnone
      · rw [hr'] at hnone
        cases hnone
  | recovery r hr ha hl =>
    cases h' with
    | prepared p' hp' ha' _ =>
      rcases hs.single with hnone | hnone
      · rw [hp', Option.bind_some, ha'] at hnone
        cases hnone
      · rw [hr] at hnone
        cases hnone
    | recovery r' hr' ha' hl' =>
      rw [hr] at hr'
      cases hr'
      exact ⟨ha'.symm.trans ha, hl'.symm.trans hl⟩

theorem eq_of_nodup_filterMap {α β γ : Type} {f : α → Option β} {g : β → γ} {l : List α}
    (h : ((l.filterMap f).map g).Nodup) {x y : α} (hx : x ∈ l) (hy : y ∈ l) {a b : β} (ha : f x = some a)
    (hb : f y = some b) (hab : g a = g b) : x = y := by
  by_contra hne
  rw [List.Nodup, List.pairwise_map, List.pairwise_filterMap] at h
  have hsymm : Std.Symm fun x y : α => ∀ a, f x = some a → ∀ b, f y = some b → g a ≠ g b :=
    ⟨fun x y hxy a ha b hb heq => hxy b hb a ha heq.symm⟩
  exact h.forall hx hy hne a ha b hb hab

theorem Reported.unique (hs : s.ActionsOk c)
    {action : JournalActionRef} {selection selection' : TerminalOutcomeSelection}
    (h : Reported s action selection) (h' : Reported s action' selection') (hid : action'.actionId = action.actionId) :
    action' = action ∧ selection' = selection := by
  have hnodup := hs.distinct
  rw [allActions, List.append_assoc, List.map_append] at hnodup
  have hreported := (List.nodup_append'.1 hnodup).1
  rw [List.map_append] at hreported
  obtain ⟨hops, hrecs, hdisjoint⟩ := List.nodup_append'.1 hreported
  cases h with
  | operation t ht ha hsel =>
    cases h' with
    | operation t' ht' ha' hsel' =>
      have heq := eq_of_nodup_filterMap hops ht' ht ha' ha hid
      subst heq
      rw [ha] at ha'
      exact ⟨(Option.some.inj ha').symm, hsel'.symm.trans hsel⟩
    | recovery t' ht' ha' _ =>
      refine absurd ?_ (hdisjoint (List.mem_map.2 ⟨action, List.mem_filterMap.2 ⟨t, ht, ha⟩, rfl⟩))
      exact List.mem_map.2 ⟨action', List.mem_map.2 ⟨t', ht', ha'⟩, hid⟩
  | recovery t ht ha hsel =>
    cases h' with
    | operation t' ht' ha' _ =>
      refine absurd ?_ (hdisjoint (List.mem_map.2 ⟨action', List.mem_filterMap.2 ⟨t', ht', ha'⟩, rfl⟩))
      exact List.mem_map.2 ⟨action, List.mem_map.2 ⟨t, ht, ha⟩, hid.symm⟩
    | recovery t' ht' ha' hsel' =>
      rw [List.map_map] at hrecs
      have heq := List.inj_on_of_nodup_map hrecs ht' ht (by simpa [ha, ha'] using hid)
      subst heq
      exact ⟨ha'.symm.trans ha, hsel'.symm.trans hsel⟩

/-! ## One step -/

/-- The outcome record of an action after a latch `raw`: still latched, or reported, with its facts kept. -/
def Survives (raw : RawActionOutcomeLatch) (action : JournalActionRef) (s : RuntimeJournalState) : Prop :=
  (∃ raw', Underway s action (some raw') ∧ raw.Keeps raw') ∨
    ∃ selection, Reported s action selection ∧ raw.Keeps selection.raw

theorem Reported.step {sha256 : Sha256} {s' : RuntimeJournalState} (h : Transition sha256 s s')
    (hr : Reported s action selection) : Reported s' action selection := by
  cases hr with
  | operation t ht ha hs => exact .operation t (h.terminalOperations t ht) ha hs
  | recovery t ht ha hs => exact .recovery t (h.recoveryTerminals t ht) ha hs

theorem reportedBy_of_successor {t : TerminalOperationRecord} {p : PreparedOperation}
    (h : terminalRawIsValidSuccessor t p = true) (hraw : p.rawOutcome = some raw) : raw.ReportedBy t.selection.raw := by
  simp only [terminalRawIsValidSuccessor, Bool.and_eq_true, decide_eq_true_eq] at h
  have hlineage := h.2
  rw [terminalRawLineageIsValid, h.1, hraw] at hlineage
  simp only [Bool.and_eq_true] at hlineage
  exact RawActionOutcomeLatch.reportedBy_of_carried hlineage.2

theorem reportedBy_of_recovery
    (h : recoveryTerminalRawLineageIsValid t = true) (hraw : t.recovery.rawOutcome = some raw) :
    raw.ReportedBy t.selection.raw := by
  simp only [recoveryTerminalRawLineageIsValid, hraw, Bool.and_eq_true] at h
  exact RawActionOutcomeLatch.reportedBy_of_carried h.1.2

theorem recoveryTerminal_valid
    (h : s.validateRecoveryTerminals c sequence = .ok ()) (ht : t ∈ s.recoveryTerminals) :
    t.validate c.sha256 s.host s.terminalOperations sequence = .ok () := by
  simp only [validateRecoveryTerminals, bind_ok, exists_unit] at h
  obtain ⟨_, chain, hscan, _⟩ := h
  obtain ⟨m, m', hstep⟩ := scan_ok_mem hscan t ht
  simp only [recoveryTerminalStep, bind_ok, exists_unit] at hstep
  exact hstep.1

theorem recoveryTerminal_lineage
    (h : s.validateRecoveryTerminals c sequence = .ok ()) (ht : t ∈ s.recoveryTerminals) :
    recoveryTerminalRawLineageIsValid t = true := by
  have hvalid := recoveryTerminal_valid h ht
  simp only [RecoveryTerminalRecord.validate, bind_ok, exists_unit, rejectIf_ok, not_not] at hvalid
  exact hvalid.2.2.2.2.2.1

theorem appends_action {terminals previous : List TerminalOperationRecord} {p : PreparedOperation}
    {t : TerminalOperationRecord} (h : Appends terminals previous p t) : t.action = p.action := by
  have hmatch := h.matches
  simp only [terminalMatchesPrepared, Bool.and_eq_true, decide_eq_true_eq] at hmatch
  exact hmatch.2

/-- **The step lemma**: a latch survives one accepted step. -/
theorem Survives.step {s' : RuntimeJournalState} {sequence' : U64} (h : Transition c.sha256 s s') (hs : s.ActionsOk c)
    (hs' : s'.Valid c sequence') (hsurvives : Survives raw action s) : Survives raw action s' := by
  rcases hsurvives with ⟨raw', hunder, hkeeps⟩ | ⟨selection, hreported, hkeeps⟩
  · cases hunder with
    | prepared p hp ha hl =>
      rcases h.preparedNext hp with ⟨next⟩ | ⟨p', restart, next⟩ | ⟨next⟩ | ⟨p', progress, next⟩ |
        ⟨p', _, _, oldPhase⟩ | ⟨t, appends, hraw⟩
      · exact .inl ⟨raw', .prepared p next ha hl, hkeeps⟩
      · rcases startupInvalidatedPreparedOp_eq restart with ⟨_, _, hnone, _⟩ | ⟨_, _, _, _, _, rfl⟩
        · rw [hl] at hnone
          cases hnone
        · refine .inl ⟨interruptedRaw (some raw'), .prepared _ next ha (by rw [hl]), hkeeps.trans ?_⟩
          exact RawActionOutcomeLatch.keeps_interrupted raw'
      · rcases tenureSuccessorPreparedOp_eq p with ⟨hphase, heq⟩ | ⟨_, heq⟩
        · rw [heq] at next
          exact .inl ⟨raw', .prepared _ next ha hl, hkeeps⟩
        · rw [heq] at next
          refine .inl ⟨takeoverRaw (some raw'), .prepared _ next ha (by rw [hl]), hkeeps.trans ?_⟩
          exact RawActionOutcomeLatch.keeps_takeover raw'
      · have hlatch := progress.latch
        rw [hl] at hlatch
        obtain ⟨raw'', hraw'', hk⟩ := keeps_of_latchPreserved hlatch
        rcases progress.moved with ⟨_, hact, _⟩ | ⟨hfirst, _⟩
        · exact .inl ⟨raw'', .prepared p' next (hact.trans ha) hraw'', hkeeps.trans hk⟩
        · simp [isFirstActionIntent, ha] at hfirst
      · have hpresent := (hs.prepared p hp).present
        rw [oldPhase, ha] at hpresent
        cases hpresent
      · refine .inr ⟨t.selection, .operation t appends.mem ((appends_action appends).trans ha) rfl, ?_⟩
        exact hkeeps.trans (reportedBy_of_successor hraw hl).keeps
    | recovery r hr ha hl =>
      rcases h.recoveryNext hr with ⟨next⟩ | ⟨r', restart, next⟩ | ⟨next⟩ | ⟨r', progress, next⟩ | ⟨t, appends, _⟩
      · exact .inl ⟨raw', .recovery r next ha hl, hkeeps⟩
      · rcases startupInvalidatedRecoveryAction_eq restart with ⟨_, hnone, _⟩ | ⟨_, rfl⟩
        · rw [hl] at hnone
          cases hnone
        · refine .inl ⟨interruptedRaw (some raw'), .recovery _ next ha (by rw [hl]), hkeeps.trans ?_⟩
          exact RawActionOutcomeLatch.keeps_interrupted raw'
      · rcases tenureSuccessorRecoveryAction_eq r with ⟨_, heq⟩ | ⟨_, heq⟩
        · rw [heq] at next
          exact .inl ⟨raw', .recovery r next ha hl, hkeeps⟩
        · rw [heq] at next
          refine .inl ⟨takeoverRaw (some raw'), .recovery _ next ha (by rw [hl]), hkeeps.trans ?_⟩
          exact RawActionOutcomeLatch.keeps_takeover raw'
      · obtain ⟨hact, hlatch⟩ := progress.facts
        rw [hl] at hlatch
        obtain ⟨raw'', hraw'', hk⟩ := keeps_of_latchPreserved hlatch
        exact .inl ⟨raw'', .recovery r' next (hact.trans ha) hraw'', hkeeps.trans hk⟩
      · have hmem : t ∈ s'.recoveryTerminals := by rw [appends.eq]; simp
        have hlineage := recoveryTerminal_lineage hs'.recoveryTerminals hmem
        refine .inr ⟨t.selection, .recovery t hmem (by rw [appends.recovery, ha]) rfl, hkeeps.trans ?_⟩
        exact (reportedBy_of_recovery hlineage (by rw [appends.recovery, hl])).keeps
  · exact .inr ⟨selection, hreported.step h, hkeeps⟩

/-! ## The lifecycle effect -/

/-- **A selection that claims nothing started names a callback that was not invoked.** -/
theorem callback_of_provenNotStarted {kind : DesiredHeadKind}
    {phase : PreparedPhase} {generation deadline : U64} (h : selection.validate kind phase generation deadline = .ok ())
    (hproven : selection.lifecycleEffect = .provenNotStarted) : selection.raw.callback = .notInvoked := by
  simp only [TerminalOutcomeSelection.validate, TerminalOutcomeSelection.trySelect, bind_ok, exists_unit, pure_ok] at h
  obtain ⟨selected, ⟨_, _, _, _, _, primary, hselect, _⟩, _⟩ := h
  rw [hproven, selectPrimary] at hselect
  split at hselect
  · simp only [selectBeforeEffects, bind_ok, rejectIf_ok, exists_unit, not_or, not_not] at hselect
    exact hselect.1.2.1
  · simp only [selectAfterEffects, bind_ok, exists_unit, pure_ok] at hselect
    obtain ⟨outcome, _, hcheck, _⟩ := hselect
    unfold lifecycleCheck at hcheck
    split at hcheck
    · simp at hcheck
    · simp only [rejectIf_ok, not_or, not_not, ne_eq] at hcheck
      exact hcheck.1

theorem Reported.started (hs : s.Valid c sequence)
    {action : JournalActionRef} {selection : TerminalOutcomeSelection} (h : Reported s action selection)
    (hcallback : selection.raw.callback ≠ .notInvoked) : selection.lifecycleEffect = .mayHaveStarted := by
  have hproven : selection.lifecycleEffect ≠ .provenNotStarted := by
    intro hproven
    refine hcallback ?_
    cases h with
    | operation t ht _ hsel =>
      have hvalid := hs.terminals t ht
      simp only [validateTerminal, bind_ok, exists_unit] at hvalid
      obtain ⟨_, _, _, _, _, _, _, _, _, _, _, _, _, _, _, _, _, hselection, _⟩ := hvalid
      rw [hsel] at hselection
      exact callback_of_provenNotStarted hselection hproven
    | recovery t ht _ hsel =>
      have hvalid := recoveryTerminal_valid hs.recoveryTerminals ht
      simp only [RecoveryTerminalRecord.validate, bind_ok, exists_unit] at hvalid
      have hselection := hvalid.2.2.2.2.1
      rw [hsel] at hselection
      exact callback_of_provenNotStarted hselection hproven
  cases heffect : selection.lifecycleEffect with
  | provenNotStarted => exact absurd heffect hproven
  | mayHaveStarted => rfl

/-! ## Chains -/

namespace RuntimeJournalSnapshot

variable {c : Contracts} {a b : RuntimeJournalSnapshot} {raw : RawActionOutcomeLatch}
  {action : JournalActionRef}

theorem Chain.survives (ha : a.Built c) (h : Chain c a b) (hopen : Underway a.state action (some raw)) :
    Survives raw action b.state := by
  induction h with
  | refl => exact .inl ⟨raw, hopen, .refl raw⟩
  | tail hchain hstep ih =>
    exact ih.step hstep.transition (Chain.built ha hchain).valid.actions hstep.built.valid

theorem Step.reportedBy (ha : a.Built c) (h : Step c a b) {selection : TerminalOutcomeSelection}
    (hunder : Underway a.state action (some raw)) (hreported : Reported b.state action selection) :
    raw.ReportedBy selection.raw := by
  have hb := h.built.valid
  cases hunder with
  | prepared p hp hact hl =>
    rcases h.transition.preparedNext hp with ⟨next⟩ | ⟨p', restart, next⟩ | ⟨next⟩ | ⟨p', progress, next⟩ |
      ⟨p', _, _, oldPhase⟩ | ⟨t, appends, hraw⟩
    case completed =>
      have hrep : Reported b.state action t.selection :=
        .operation t appends.mem ((appends_action appends).trans hact) rfl
      obtain ⟨_, rfl⟩ := hrep.unique hb.actions hreported rfl
      exact reportedBy_of_successor hraw hl
    case retired =>
      have hpresent := (ha.valid.actions.prepared p hp).present
      rw [oldPhase, hact] at hpresent
      cases hpresent
    case kept => exact absurd rfl ((Underway.prepared p next hact rfl).not_reported hb.actions hreported)
    case restarted =>
      have hact' := (startupInvalidated_identity restart).2.trans hact
      exact absurd rfl ((Underway.prepared p' next hact' rfl).not_reported hb.actions hreported)
    case taken =>
      have hact' := (tenureSuccessor_identity p).2.trans hact
      exact absurd rfl ((Underway.prepared _ next hact' rfl).not_reported hb.actions hreported)
    case progressed =>
      rcases progress.moved with ⟨_, hact', _⟩ | ⟨hfirst, _⟩
      · exact absurd rfl ((Underway.prepared p' next (hact'.trans hact) rfl).not_reported hb.actions hreported)
      · simp [isFirstActionIntent, hact] at hfirst
  | recovery r hr hact hl =>
    rcases h.transition.recoveryNext hr with ⟨next⟩ | ⟨r', restart, next⟩ | ⟨next⟩ | ⟨r', progress, next⟩ |
      ⟨t, appends, _⟩
    case completed =>
      have hmem : t ∈ b.state.recoveryTerminals := by rw [appends.eq]; simp
      have hrep : Reported b.state action t.selection := .recovery t hmem (by rw [appends.recovery, hact]) rfl
      obtain ⟨_, rfl⟩ := hrep.unique hb.actions hreported rfl
      exact reportedBy_of_recovery (recoveryTerminal_lineage hb.recoveryTerminals hmem) (by rw [appends.recovery, hl])
    case kept => exact absurd rfl ((Underway.recovery r next hact rfl).not_reported hb.actions hreported)
    case restarted =>
      have hact' : r'.action = action := by
        rcases startupInvalidatedRecoveryAction_eq restart with ⟨_, _, rfl⟩ | ⟨_, rfl⟩ <;> exact hact
      exact absurd rfl ((Underway.recovery r' next hact' rfl).not_reported hb.actions hreported)
    case taken =>
      have hact' : (tenureSuccessorRecoveryAction r).action = action := by
        rcases tenureSuccessorRecoveryAction_eq r with ⟨_, heq⟩ | ⟨_, heq⟩ <;> rw [heq] <;> exact hact
      exact absurd rfl ((Underway.recovery _ next hact' rfl).not_reported hb.actions hreported)
    case progressed =>
      exact absurd rfl ((Underway.recovery r' next (progress.facts.1.trans hact) rfl).not_reported hb.actions hreported)

/-- **Latched outcome facts survive**: when an action under way has a latch, every later snapshot either still has the
action under way with a latch that keeps its facts, or reports it with these facts; whatever latch or report it has
there is that one.  A callback that was latched as invoked is never reported as not invoked or proven not started, and
the step that writes the report copies the last latch exactly, up to a cleanup observed as exact zero. -/
theorem latched_facts_survive {first : RuntimeJournalSnapshot} (hfirst : Initial c first)
    (ha : Chain c first a) (hb : Chain c a b) (hopen : Underway a.state action (some raw)) :
    Survives raw action b.state ∧
    (∀ action' latch, Underway b.state action' latch → action'.actionId = action.actionId →
      action' = action ∧ ∃ raw', latch = some raw' ∧ raw.Keeps raw') ∧
    (∀ action' selection, Reported b.state action' selection → action'.actionId = action.actionId →
      action' = action ∧ raw.Keeps selection.raw ∧
        (raw.callback ≠ .notInvoked →
          selection.raw.callback ≠ .notInvoked ∧ selection.lifecycleEffect = .mayHaveStarted)) ∧
    (∀ next, Step c b next → ∀ raw' selection, Underway b.state action (some raw') →
      Reported next.state action selection → raw'.ReportedBy selection.raw) := by
  have hbuilt := Chain.built hfirst.built ha
  have hbuilt' := Chain.built hbuilt hb
  have hsurvives := Chain.survives hbuilt hb hopen
  refine ⟨hsurvives, fun action' latch hunder hid => ?_, fun action' selection hreported hid => ?_,
    fun next hstep raw' selection hunder hreported => hstep.reportedBy hbuilt' hunder hreported⟩
  · rcases hsurvives with ⟨raw', hunder', hkeeps⟩ | ⟨selection, hreported, _⟩
    · obtain ⟨rfl, rfl⟩ := hunder'.unique hbuilt'.valid.actions hunder
      exact ⟨rfl, raw', rfl, hkeeps⟩
    · exact absurd hid.symm (hunder.not_reported hbuilt'.valid.actions hreported)
  · rcases hsurvives with ⟨raw', hunder, _⟩ | ⟨selection', hreported', hkeeps⟩
    · exact absurd hid (hunder.not_reported hbuilt'.valid.actions hreported)
    · obtain ⟨rfl, rfl⟩ := hreported'.unique hbuilt'.valid.actions hreported hid
      refine ⟨rfl, hkeeps, fun hinvoked => ?_⟩
      have hcallback : selection.raw.callback ≠ .notInvoked := by rwa [hkeeps.callback]
      exact ⟨hcallback, hreported.started hbuilt'.valid hcallback⟩

theorem latched_facts_survive_interrupted : ∃ run action raw, Sample.interruptedRun = .ok run ∧
    Underway run.cut.state action (some raw) ∧ Survives raw action run.last.state := by
  obtain ⟨run, hrun, hfirst, hmid, hcut, hlast, _, _, p, action, raw, hp, haction, hraw⟩ := Sample.interruptedRun_ok
  have hopen : Underway run.cut.state action (some raw) := .prepared p hp haction hraw
  have h := latched_facts_survive hfirst ((runBuilders_chain hmid).tail (Builder.call_step hcut))
    (.single (Builder.call_step hlast)) hopen
  exact ⟨run, action, raw, hrun, hopen, h.1⟩

end RuntimeJournalSnapshot

end Journal
end ParaEgox
