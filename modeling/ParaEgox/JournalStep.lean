import ParaEgox.JournalSnapshot

/-!
# JournalStep — what one transaction can do

`Transition` says once, for each of the fourteen transactions, which state may follow a given one: the fields it moves,
under which guards.  `validateSuccessor_iff` ties it to the validators; the results about chains read `Transition` only.
-/
namespace ParaEgox
namespace Journal

open Check

def restarted (s : RuntimeJournalState) (prepared : Option PreparedOperation) (recovery : Option RecoveryAction)
    (eligibility : StartupRecoveryEligibility) (invalidation : Digest32) (failure : Option Digest32)
    (census : Digest32) : RuntimeJournalState :=
  { s with
    lastTransaction := .startupInvalidation
    host := { s.host with
      runtimeHostEpochHighWater := s.host.runtimeHostEpochHighWater + 1
      clockGenerationHighWater := s.host.clockGenerationHighWater + 1 }
    prepared := prepared
    recoveryAction := recovery
    liveMaterialization := .startupInvalidated s.activeHead s.host.runtimeHostEpochHighWater
      s.host.clockGenerationHighWater eligibility invalidation failure census }

def closed (s : RuntimeJournalState) (transaction : RuntimeJournalTransaction) (active : Option ActiveDesiredHead)
    (live : LiveMaterialization) (resources : List OwnedResourceRecord) (terminals : List TerminalOperationRecord) :
    RuntimeJournalState :=
  { s with
    lastTransaction := transaction
    prepared := none
    activeDesired := active
    liveMaterialization := live
    ownedResources := resources
    terminalOperations := terminals }

/-- The terminal list grew by the record `t` of the prepared operation `p`. -/
structure Appends (terminals previous : List TerminalOperationRecord) (p : PreparedOperation)
    (t : TerminalOperationRecord) : Prop where
  length : terminals.length = previous.length + 1
  preserved : Keyed.recordsPreserved TerminalOperationRecord.key terminals previous = true
  found : terminals.find? (terminalMatchesPrepared p) = some t

/-- The recovery-terminal list grew by the record `t` of the recovery `r`. -/
structure AppendsRecovery (terminals previous : List RecoveryTerminalRecord) (r : RecoveryAction)
    (t : RecoveryTerminalRecord) : Prop where
  eq : terminals = previous ++ [t]
  recovery : t.recovery = r

def TerminalOutcome.startClosed : TerminalOutcome → Bool
  | startFailedBeforeHeadCommitExactZero
  | startTimedOutBeforeHeadCommitExactZero
  | abortedBeforeHeadCommitExactZero
  | supersededAfterIntentExactZero => true
  | _ => false

def TerminalOutcome.noEffects : TerminalOutcome → Bool
  | startTimedOutBeforeIntentNoEffects
  | stopTimedOutBeforeHeadCommitNoEffects
  | abortedBeforeIntentNoEffects => true
  | _ => false

def PreparedPhase.startOpen : PreparedPhase → Bool
  | firstActionIntent | supersededReconcileRequired | startupReconcileRequired => true
  | _ => false

/-- What a prepared operation may become in one `PreparedProgress`. -/
structure Progress (s : RuntimeJournalState) (current old : PreparedOperation) : Prop where
  identity : preparedIdentityEqual current old = true
  latch : latchPreserved current.rawOutcome old.rawOutcome = true
  owner : sameOwnerEventFacts current.rawOutcome old.rawOutcome = true
  moved : (current.phase = old.phase ∧ current.action = old.action ∧ current.retiring = old.retiring) ∨
    (s.isFirstActionIntent current old = true ∧ (old.retiring.isSome → current.retiring = old.retiring))

/-- What a recovery action may become in one `RecoveryProgress`. -/
structure RecoveryProgress (current old : RecoveryAction) : Prop where
  accepted : validateRecoveryLatchSuccessor current old = .ok ()
  owner : sameOwnerEventFacts current.rawOutcome old.rawOutcome = true
  id : current.action.actionId = old.action.actionId
  fresh : current.phase ≠ old.phase → current.rawOutcome = none

open RuntimeJournalState in
/-- **One transaction of the journal**: the state that follows, and what the transaction requires. -/
inductive Transition (sha256 : Sha256) (s : RuntimeJournalState) : RuntimeJournalState → Prop
  | startupInvalidation (prepared recovery eligibility invalidation failure census)
      (epoch : s.host.runtimeHostEpochHighWater + 1 ≤ u64Max)
      (generation : s.host.clockGenerationHighWater + 1 ≤ u64Max)
      (hprepared : startupInvalidatedPrepared s.prepared = .ok prepared)
      (hrecovery : startupInvalidatedRecovery s.recoveryAction = .ok recovery)
      (heligibility : startupEligibility sha256 s = .ok (eligibility, failure))
      (hcensus : computeResourceCensusDigest sha256 s.ownedResources = .ok census)
      (hinvalidation : startupInvalidationEvidenceDigest sha256 s
        (restarted s prepared recovery eligibility invalidation failure census) = .ok invalidation)
      (fresh : ∀ r ∈ s.ownedResources, r.runtimeHostEpoch ≠ s.host.runtimeHostEpochHighWater + 1)
      (freshAction : ∀ a,
        (restarted s prepared recovery eligibility invalidation failure census).currentAction = some a →
          a.runtimeHostEpoch ≠ s.host.runtimeHostEpochHighWater + 1) :
      Transition sha256 s (restarted s prepared recovery eligibility invalidation failure census)
  | tenureOnly (nonces fence)
      (length : nonces.length = s.host.tenureNonces.length + 1)
      (preserved : Keyed.recordsPreserved ReplayLedgerRecord.identity nonces s.host.tenureNonces = true)
      (above : ∀ old, s.writerFence = some old → fence.sourceScope = old.sourceScope ∧ old.epoch < fence.epoch)
      (fresh : ∀ record ∈ s.host.tenureNonces, record.identity ≠ fence.tenureNonceIdentity)
      (recorded : ∃ record ∈ nonces,
        record.identity = fence.tenureNonceIdentity ∧ record.valueDigest = fence.proofEnvelopeDigest) :
      Transition sha256 s { s with
        lastTransaction := .tenureOnly
        host := { s.host with tenureNonces := nonces }
        writerFence := some fence
        prepared := tenureSuccessorPrepared s.prepared
        recoveryAction := tenureSuccessorRecovery s.recoveryAction }
  | fullAdmission (requestNonces temporalLineages prepared highWater)
      (idle : s.prepared = none) (noAction : s.currentAction = none)
      (phase : prepared.phase = .preparedNoEffects) (action : prepared.action = none)
      (retiring : prepared.retiring = none) (raw : prepared.rawOutcome = none)
      (nonceLength : requestNonces.length = s.host.requestNonces.length + 1)
      (temporalLength : temporalLineages.length = s.host.temporalLineages.length + 1)
      (noncePreserved : Keyed.recordsPreserved ReplayLedgerRecord.identity requestNonces s.host.requestNonces = true)
      (temporalPreserved : Keyed.recordsPreserved TemporalLineageRecord.constraintId temporalLineages
        s.host.temporalLineages = true)
      (scope : highWater.sourceScope = prepared.sourceScope) (revision : highWater.revision = prepared.sourceRevision)
      (above : ∀ old, s.sourceRevisionHighWater = some old → old.revision < highWater.revision)
      (cas : expectedActiveMatches prepared.expectedActive s.activeDesired = true)
      (shape : fullAdmissionShapeIsAllowed prepared.incomingKind s = true) :
      Transition sha256 s { s with
        lastTransaction := .fullAdmission
        host := { s.host with requestNonces := requestNonces, temporalLineages := temporalLineages }
        sourceRevisionHighWater := some highWater
        prepared := some prepared
        liveMaterialization := fullAdmissionLiveMaterialization s }
  | preparedProgress (current old) (hold : s.prepared = some old) (progress : Progress s current old) :
      Transition sha256 s { s with lastTransaction := .preparedProgress, prepared := some current }
  | resourceProgress (resources live)
      (successor : validateResourceSuccessor resources s.ownedResources = .ok ())
      (sameLive : liveIdentityPreservedExceptCensus live s.liveMaterialization = true)
      (fresh : ∀ r ∈ resources, Keyed.find OwnedResourceRecord.key r.key s.ownedResources = none →
        (r.phase = .reserved ∨ r.phase = .owned) ∧ r.actionId = s.currentAction.map (·.actionId)) :
      Transition sha256 s { s with
        lastTransaction := .resourceProgress, ownedResources := resources, liveMaterialization := live }
  | startPublished (prepared action terminal active live resources terminals)
      (hprepared : s.prepared = some prepared) (haction : prepared.action = some action)
      (appends : Appends terminals s.terminalOperations prepared terminal)
      (census : computeResourceCensusDigest sha256 resources = .ok terminal.resourceCensusDigest)
      (kind : prepared.incomingKind = .oneSourceLoop) (phase : prepared.phase = .firstActionIntent)
      (actionKind : action.kind = .startOneSourceLoop)
      (raw : terminalRawIsValidSuccessor terminal prepared = true)
      (primary : terminal.selection.primary = .oneSourceLoopActive)
      (activeKind : active.kind = .oneSourceLoop) (head : headOf prepared active = true)
      (manifest : active.manifestDigest = prepared.manifestDigest)
      (committing : active.committingResultDigest = some terminal.resultDigest)
      (disposition : terminal.headDisposition = .committedIncoming)
      (ready : live.isLiveReady = true)
      (published : resourcesPublishLiveGeneration resources s.ownedResources action = true) :
      Transition sha256 s (closed s .normalStartTerminal (some active) live resources terminals)
  | startClosed (prepared action terminal live resources terminals)
      (hprepared : s.prepared = some prepared) (haction : prepared.action = some action)
      (appends : Appends terminals s.terminalOperations prepared terminal)
      (census : computeResourceCensusDigest sha256 resources = .ok terminal.resourceCensusDigest)
      (kind : prepared.incomingKind = .oneSourceLoop) (phase : prepared.phase.startOpen = true)
      (actionKind : action.kind = .startOneSourceLoop)
      (raw : terminalRawIsValidSuccessor terminal prepared = true)
      (primary : terminal.selection.primary.startClosed = true)
      (disposition : terminal.headDisposition = preservedHeadDisposition s)
      (allTerminal : ∀ r ∈ resources, r.phase.isTerminal = true)
      (zero : resourcesReachExactZero resources s.ownedResources (some action) = true)
      (hlive : exactZeroLive (closed s .normalStartTerminal s.activeDesired live resources terminals)
        terminal.resourceCensusDigest = true) :
      Transition sha256 s (closed s .normalStartTerminal s.activeDesired live resources terminals)
  | emptyHeadRetire (old current oldActive active epoch generation census action retiring live resources readyHead)
      (hold : s.prepared = some old) (hactive : s.activeDesired = some oldActive)
      (hlive : s.liveMaterialization = .liveReady readyHead epoch generation census)
      (haction : current.action = some action) (hretiring : current.retiring = some retiring)
      (kind : old.incomingKind = .emptyDeactivate) (oldPhase : old.phase = .preparedNoEffects)
      (phase : current.phase = .headCommittedRetiringOld) (identity : preparedIdentityEqual current old = true)
      (actionKind : action.kind = .drainToEmpty) (actionEpoch : action.runtimeHostEpoch = epoch)
      (actionGeneration : action.resourceGeneration = generation) (oldKind : oldActive.kind = .oneSourceLoop)
      (retires : retiringMatches retiring oldActive action epoch generation census = true)
      (activeKind : active.kind = .emptyDeactivate) (head : headOf current active = true)
      (uncommitted : active.committingResultDigest = none) (raw : current.rawOutcome = none)
      (draining : live.isDraining = true)
      (retired : resourcesBeginRetire resources s.ownedResources action = true) :
      Transition sha256 s { s with
        lastTransaction := .emptyHeadRetire, prepared := some current, activeDesired := some active,
        liveMaterialization := live, ownedResources := resources }
  | exactZeroTerminal (prepared active terminal live resources terminals resourceAction)
      (hprepared : s.prepared = some prepared)
      (appends : Appends terminals s.terminalOperations prepared terminal)
      (census : computeResourceCensusDigest sha256 resources = .ok terminal.resourceCensusDigest)
      (kind : prepared.incomingKind = .emptyDeactivate)
      (activeKind : active.kind = .emptyDeactivate) (head : headOf prepared active = true)
      (hlive : live.isExactZero = true) (allTerminal : ∀ r ∈ resources, r.phase.isTerminal = true)
      (disposition : terminal.headDisposition = .committedIncoming)
      (committing : active.committingResultDigest = some terminal.resultDigest)
      (raw : terminalRawIsValidSuccessor terminal prepared = true)
      (hresource : s.exactZeroResourceAction prepared = .ok resourceAction)
      (drained : prepared.phase ≠ .preparedNoEffects → resourceAction ≠ none)
      (commits : terminalHeadCommitsIncoming terminal.selection.primary .emptyDeactivate = true)
      (fast : resourceAction = none → terminal.selection.primary = .emptyDeactivateExactZero)
      (zero : resourcesReachExactZero resources s.ownedResources resourceAction = true) :
      Transition sha256 s (closed s .exactZeroTerminal (some active) live resources terminals)
  | recoveryPlan (recovery live)
      (eligible : s.liveMaterialization.isEligible = true) (noAction : s.currentAction = none)
      (allTerminal : ∀ r ∈ s.ownedResources, r.phase.isTerminal = true)
      (phase : recovery.phase = .recoveryPlannedNoEffects)
      (epoch : recovery.action.runtimeHostEpoch = s.host.runtimeHostEpochHighWater)
      (generation : recovery.action.clockGeneration = s.host.clockGenerationHighWater)
      (recovering : live.isRecovering = true) :
      Transition sha256 s { s with
        lastTransaction := .recoveryPlan, liveMaterialization := live, recoveryAction := some recovery }
  | recoveryProgress (current old) (hold : s.recoveryAction = some old) (progress : RecoveryProgress current old)
      (recovering : s.liveMaterialization.isRecovering = true) :
      Transition sha256 s { s with lastTransaction := .recoveryProgress, recoveryAction := some current }
  | recoveryPublished (old terminal live resources terminals)
      (hold : s.recoveryAction = some old)
      (appends : AppendsRecovery terminals s.recoveryTerminals old terminal)
      (census : computeResourceCensusDigest sha256 resources = .ok terminal.resourceCensusDigest)
      (predecessor : s.recoveryPublishPredecessor old = true) (ready : live.isLiveReady = true)
      (phase : old.phase = .startCallIntent) (primary : terminal.selection.primary = .oneSourceLoopActive)
      (noFailure : terminal.failureLatchDigest = none)
      (published : resourcesPublishLiveGeneration resources s.ownedResources old.action = true) :
      Transition sha256 s { s with
        lastTransaction := .recoveryPublish, liveMaterialization := live, recoveryAction := none,
        recoveryTerminals := terminals, ownedResources := resources }
  | recoveryFailed (old terminal head failure liveCensus resources terminals)
      (hold : s.recoveryAction = some old)
      (appends : AppendsRecovery terminals s.recoveryTerminals old terminal)
      (census : computeResourceCensusDigest sha256 resources = .ok terminal.resourceCensusDigest)
      (predecessor : s.recoveryPublishPredecessor old = true)
      (latched : terminal.failureLatchDigest = some failure)
      (notActive : terminal.selection.primary ≠ .oneSourceLoopActive)
      (notAborted : terminal.selection.primary ≠ .abortedBeforeIntentNoEffects)
      (allTerminal : ∀ r ∈ resources, r.phase.isTerminal = true)
      (zero : resourcesReachExactZero resources s.ownedResources (some old.action) = true) :
      Transition sha256 s { s with
        lastTransaction := .recoveryPublish,
        liveMaterialization := .recoveryFailedNotReady head old.action.actionId failure liveCensus,
        recoveryAction := none, recoveryTerminals := terminals, ownedResources := resources }
  | recoveryAbortNoEffects (old terminal terminals)
      (hold : s.recoveryAction = some old)
      (appends : AppendsRecovery terminals s.recoveryTerminals old terminal)
      (phase : old.phase = .startupInvalidatedNoEffects) (raw : old.rawOutcome = none)
      (eligible : s.liveMaterialization.isEligible = true)
      (allTerminal : ∀ r ∈ s.ownedResources, r.phase.isTerminal = true)
      (primary : terminal.selection.primary = .abortedBeforeIntentNoEffects)
      (noFailure : terminal.failureLatchDigest = none)
      (census : computeResourceCensusDigest sha256 s.ownedResources = .ok terminal.resourceCensusDigest) :
      Transition sha256 s { s with
        lastTransaction := .recoveryAbortNoEffects, recoveryAction := none, recoveryTerminals := terminals }
  | operationTerminalNoEffects (prepared terminal terminals)
      (hprepared : s.prepared = some prepared)
      (appends : Appends terminals s.terminalOperations prepared terminal)
      (phase : prepared.phase.beforeEffects = true) (action : prepared.action = none)
      (census : computeResourceCensusDigest sha256 s.ownedResources = .ok terminal.resourceCensusDigest)
      (primary : terminal.selection.primary.noEffects = true)
      (startKind : terminal.selection.primary = .startTimedOutBeforeIntentNoEffects →
        prepared.incomingKind = .oneSourceLoop)
      (stopKind : terminal.selection.primary = .stopTimedOutBeforeHeadCommitNoEffects →
        prepared.incomingKind = .emptyDeactivate)
      (aborted : prepared.phase ≠ .preparedNoEffects → terminal.selection.primary = .abortedBeforeIntentNoEffects)
      (disposition : terminal.headDisposition = preservedHeadDisposition s)
      (raw : terminalRawIsValidSuccessor terminal prepared = true) :
      Transition sha256 s
        (closed s .operationTerminalNoEffects s.activeDesired s.liveMaterialization s.ownedResources terminals)
  | quarantine (live) (free : s.liveMaterialization.isQuarantined = false) (quarantined : live.isQuarantined = true) :
      Transition sha256 s { s with lastTransaction := .quarantine, liveMaterialization := live }

/-! ## From the validators to `Transition` -/

section
open RuntimeJournalState
variable {sha256 : Sha256} {s s' : RuntimeJournalState}

theorem appendedTerminalForPrepared_eq {p : PreparedOperation} {t : TerminalOperationRecord} :
    appendedTerminalForPrepared s' s p = some t ↔ Appends s'.terminalOperations s.terminalOperations p t := by
  unfold appendedTerminalForPrepared
  split
  · rename_i hbad
    refine ⟨fun h => (nomatch h), fun h => ?_⟩
    rcases hbad with hlen | hpres
    · exact absurd h.length hlen
    · exact absurd h.preserved hpres
  · rename_i hok
    rw [not_or, not_not, not_not] at hok
    exact ⟨fun h => ⟨hok.1, hok.2, h⟩, fun h => h.found⟩

theorem appendedRecoveryTerminal_eq {r : RecoveryAction} {t : RecoveryTerminalRecord} :
    appendedRecoveryTerminal s' s r = some t ↔ AppendsRecovery s'.recoveryTerminals s.recoveryTerminals r t := by
  unfold appendedRecoveryTerminal
  split
  · rename_i hbad
    refine ⟨fun h => (nomatch h), fun h => ?_⟩
    rcases hbad with hlen | hpre
    · exact absurd (by rw [h.eq, List.length_append, List.length_singleton]) hlen
    · exact absurd (List.isPrefixOf_iff_prefix.2 ⟨[t], h.eq.symm⟩) hpre
  · rename_i hok
    rw [not_or, not_not, not_not] at hok
    obtain ⟨hlen, hpre⟩ := hok
    obtain ⟨rest, hrest⟩ := List.isPrefixOf_iff_prefix.1 hpre
    rw [← hrest, List.length_append] at hlen
    obtain ⟨x, hx⟩ := List.length_eq_one_iff.1 (by omega : rest.length = 1)
    rw [← hrest, hx, List.getLast?_append, List.getLast?_singleton, Option.some_or, Option.filter_eq_some_iff]
    simp only [Option.some.injEq, decide_eq_true_eq]
    refine ⟨fun ⟨hxt, hr⟩ => ⟨by rw [hxt], hr⟩, fun h => ⟨?_, h.recovery⟩⟩
    simpa using List.append_cancel_left h.eq

theorem startupInvalidation_transition (ht : s'.lastTransaction = .startupInvalidation)
    (h : s'.validateStartupInvalidationSuccessor sha256 s = .ok ()) : Transition sha256 s s' := by
  simp only [validateStartupInvalidationSuccessor, bind_ok, refuse_ok, exists_unit, ne_eq, not_or, not_not] at h
  obtain ⟨⟨⟨hle, hepoch⟩, hge, hgeneration⟩, prepared, hprepared, recovery, hrecovery, heq, hlive⟩ := h
  unfold validateStartupInvalidationLive at hlive
  split at hlive
  · rename_i head epoch generation eligibility invalidation failure census hl
    simp only [bind_ok, refuse_ok, exists_unit, ne_eq, not_or, not_not] at hlive
    obtain ⟨⟨rfl, rfl, rfl⟩, _, hcensus, rfl, _, hinv, rfl, ⟨_, _⟩, helig, rfl, rfl, hfresh, hfreshAction⟩ := hlive
    rw [ht, hepoch, hgeneration, hl] at heq
    have hs' : s' = restarted s prepared recovery eligibility invalidation failure census := heq
    rw [hs'] at hinv hfresh hfreshAction
    have step : Transition sha256 s _ := .startupInvalidation prepared recovery eligibility invalidation failure census hle hge
      hprepared hrecovery helig hcensus hinv (fun r hr he => hfresh ⟨r, hr, he⟩)
      (fun a ha he => hfreshAction (by rw [ha]; exact decide_eq_true he))
    rwa [← hs'] at step
  · cases hlive

theorem tenureOnly_transition (ht : s'.lastTransaction = .tenureOnly)
    (h : s'.validateTenureOnlySuccessor s = .ok ()) : Transition sha256 s s' := by
  simp only [validateTenureOnlySuccessor, bind_ok, refuse_ok, demand_ok, exists_unit, ne_eq, not_or, not_not] at h
  obtain ⟨_, ⟨heq, hlen, hpres⟩, fence, hfence, ⟨habove, hfresh, hrec⟩, hprep, hrecov⟩ := h
  rw [ht, hfence, ← hprep, ← hrecov] at heq
  have step : Transition sha256 s _ := .tenureOnly s'.host.tenureNonces fence hlen hpres
    (fun old hold => by simpa [hold] using habove) (fun r hr he => hfresh ⟨r, hr, he⟩) hrec
  rwa [← heq] at step

theorem fullAdmission_transition (ht : s'.lastTransaction = .fullAdmission)
    (h : s'.validateFullAdmissionSuccessor s = .ok ()) : Transition sha256 s s' := by
  simp only [validateFullAdmissionSuccessor, bind_ok, refuse_ok, demand_ok, exists_unit, ne_eq, not_or, not_not,
    Option.isSome_iff_ne_none] at h
  obtain ⟨_, ⟨hidle, hno⟩, prepared, hprepared, ⟨hphase, haction, hretiring, hraw, hnl, htl, hnp, htp⟩, highWater, hhigh,
    ⟨hscope, hrev, habove, hcas, hshape⟩, heq⟩ := h
  rw [ht, hhigh, hprepared] at heq
  have step : Transition sha256 s _ := .fullAdmission s'.host.requestNonces s'.host.temporalLineages prepared
    highWater hidle hno hphase haction hretiring hraw hnl htl hnp htp hscope hrev
    (fun old hold => by simpa [hold] using habove) hcas hshape
  rwa [← heq] at step

theorem preparedProgress_transition (ht : s'.lastTransaction = .preparedProgress)
    (h : s'.validatePreparedProgressSuccessor s = .ok ()) : Transition sha256 s s' := by
  simp only [validatePreparedProgressSuccessor, requireSameHostGeneration, validatePreparedLatchSuccessor, bind_ok,
    refuse_ok, demand_ok, exists_unit, ne_eq, not_or, not_not] at h
  obtain ⟨⟨hepoch, _⟩, current, hcurrent, old, hold, hlatch, ⟨howner, hop, hhead⟩, hmoved, heq⟩ := h
  rw [if_neg (by simpa using hop), rejectIf_ok] at hlatch
  simp only [not_or, not_not] at hlatch
  obtain ⟨hid, _, _, hret, hlp⟩ := hlatch
  rw [ht, hcurrent] at heq
  have hprogress : Progress s current old := by
    refine ⟨hid, hlp, howner, ?_⟩
    unfold progressMoved at hmoved
    split at hmoved
    · rename_i hphase
      rw [refuse_ok, not_or, not_not, not_not] at hmoved
      exact .inl ⟨hphase, hmoved⟩
    · rw [refuse_ok, not_not] at hmoved
      refine .inr ⟨?_, fun hs => by simpa [hs] using hret⟩
      rw [← hmoved, isFirstActionIntent, isFirstActionIntent, hepoch]
  have step : Transition sha256 s _ := .preparedProgress current old hold hprogress
  rwa [← heq] at step

theorem resourceProgress_transition (ht : s'.lastTransaction = .resourceProgress)
    (h : s'.validateResourceProgressSuccessor s = .ok ()) : Transition sha256 s s' := by
  simp only [validateResourceProgressSuccessor, bind_ok, refuse_ok, exists_unit, ne_eq, not_or, not_not,
    forEach_ok] at h
  obtain ⟨_, hsucc, hlive, hfresh, heq⟩ := h
  rw [ht] at heq
  have hprep : s'.prepared = s.prepared := by rw [heq]
  have hrecov : s'.recoveryAction = s.recoveryAction := by rw [heq]
  have hcurrent : s'.currentAction = s.currentAction := by rw [currentAction, currentAction, hprep, hrecov]
  have step : Transition sha256 s _ := .resourceProgress s'.ownedResources s'.liveMaterialization hsucc hlive
    (fun r hr hnew => by
      have hr' := hfresh r hr
      rw [hnew, hcurrent] at hr'
      simpa [not_or, or_iff_not_imp_left] using hr')
  rwa [← heq] at step

theorem normalStartTerminal_transition (ht : s'.lastTransaction = .normalStartTerminal)
    (h : s'.validateNormalStartTerminalSuccessor sha256 s = .ok ()) : Transition sha256 s s' := by
  simp only [validateNormalStartTerminalSuccessor, bind_ok, refuse_ok, demand_ok, exists_unit, ne_eq, not_or,
    not_not, appendedTerminalForPrepared_eq] at h
  obtain ⟨_, prepared, hprepared, action, haction, terminal, happ, census, hcensus,
    ⟨hkind, hphase, hak, hnone, rfl, hraw⟩, hout, heq⟩ := h
  unfold validateStartOutcome at hout
  split at hout
  · rename_i hprimary
    simp only [validateStartPublished, bind_ok, refuse_ok, demand_ok, ne_eq, not_or, not_not] at hout
    obtain ⟨active, hactive, hfirst, hkind', hhead, hman, hcommit, hdisp, hready, hpub⟩ := hout
    rw [ht, hactive] at heq
    have step : Transition sha256 s _ := .startPublished prepared action terminal active s'.liveMaterialization
      s'.ownedResources s'.terminalOperations hprepared haction happ hcensus hkind hfirst hak hraw hprimary hkind' hhead
      hman hcommit hdisp hready hpub
    rwa [closed, ← heq] at step
  all_goals first | cases hout | skip
  all_goals
    rename_i hprimary
    simp only [validateStartClosed, bind_ok, refuse_ok, exists_unit, ne_eq, not_or, not_not, not_exists, not_and] at hout
    obtain ⟨⟨hactive, hdisp, hterm, hzero⟩, hlive⟩ := hout
    rw [ht, hactive] at heq
    have hs' : s' = closed s .normalStartTerminal s.activeDesired s'.liveMaterialization s'.ownedResources
        s'.terminalOperations := heq
    have step : Transition sha256 s _ := .startClosed prepared action terminal s'.liveMaterialization
      s'.ownedResources s'.terminalOperations hprepared haction happ hcensus hkind
      (by revert hphase; cases prepared.phase <;> simp [PreparedPhase.startOpen]) hak hraw (by rw [hprimary]; rfl) hdisp
      (fun r hr => by simpa using hterm r hr) hzero (by rwa [← hs'])
    rwa [← hs'] at step

theorem emptyHeadRetire_transition (ht : s'.lastTransaction = .emptyHeadRetire)
    (h : s'.validateEmptyHeadRetireSuccessor s = .ok ()) : Transition sha256 s s' := by
  simp only [validateEmptyHeadRetireSuccessor, bind_ok, refuse_ok, demand_ok, exists_unit, ne_eq, not_not] at h
  obtain ⟨_, old, hold, current, hcurrent, oldActive, holdActive, active, hactive, hretire, heq⟩ := h
  unfold validateHeadFirstRetire at hretire
  split at hretire
  · rename_i readyHead epoch generation census hl
    simp only [bind_ok, refuse_ok, demand_ok, ne_eq, not_or, not_not, Option.isSome_iff_ne_none] at hretire
    obtain ⟨action, haction, retiring, hretiring, hkind, holdPhase, hphase, hid, hak, hae, hag, hok, hmatch, hnk, hhead,
      hnone, hraw, hdrain, hres⟩ := hretire
    rw [ht, hcurrent, hactive] at heq
    have step : Transition sha256 s _ := .emptyHeadRetire old current oldActive active epoch generation census action
      retiring s'.liveMaterialization s'.ownedResources readyHead hold holdActive hl haction hretiring hkind holdPhase
      hphase hid hak hae hag hok hmatch hnk hhead hnone hraw hdrain hres
    rwa [← heq] at step
  · cases hretire

theorem exactZeroTerminal_transition (ht : s'.lastTransaction = .exactZeroTerminal)
    (h : s'.validateExactZeroTerminalSuccessor sha256 s = .ok ()) : Transition sha256 s s' := by
  simp only [validateExactZeroTerminalSuccessor, bind_ok, refuse_ok, demand_ok, exists_unit, ne_eq, not_or, not_not,
    appendedTerminalForPrepared_eq, not_exists, not_and, Option.isNone_iff_eq_none] at h
  obtain ⟨_, prepared, hprepared, active, hactive, terminal, happ, census, hcensus,
    ⟨hkind, _, hak, hhead, hlive, hterm, hdisp, rfl, hcommit, hraw⟩, resourceAction, hresource, hdrained,
    ⟨hcommits, hfast⟩, hzero, heq⟩ := h
  rw [ht, hactive] at heq
  rw [hak] at hcommits
  have step : Transition sha256 s _ := .exactZeroTerminal prepared active terminal s'.liveMaterialization
    s'.ownedResources s'.terminalOperations resourceAction hprepared happ hcensus hkind hak hhead hlive
    (fun r hr => by simpa using hterm r hr) hdisp hcommit hraw hresource hdrained hcommits hfast hzero
  rwa [closed, ← heq] at step

theorem recoveryPlan_transition (ht : s'.lastTransaction = .recoveryPlan)
    (h : s'.validateRecoveryPlanSuccessor s = .ok ()) : Transition sha256 s s' := by
  simp only [validateRecoveryPlanSuccessor, requireSameHostGeneration, bind_ok, refuse_ok, demand_ok, exists_unit, ne_eq,
    not_or, not_not, not_exists, not_and, Option.isSome_iff_ne_none] at h
  obtain ⟨⟨he, hg⟩, helig, recovery, hrecovery, ⟨hno, hterm, hphase, hepoch, hgen, hlive⟩, heq⟩ := h
  rw [ht, hrecovery] at heq
  have step : Transition sha256 s _ := .recoveryPlan recovery s'.liveMaterialization helig hno
    (fun r hr => by simpa using hterm r hr) hphase (hepoch.trans he) (hgen.trans hg) hlive
  rwa [← heq] at step

theorem recoveryProgress_transition (ht : s'.lastTransaction = .recoveryProgress)
    (h : s'.validateRecoveryProgressSuccessor s = .ok ()) : Transition sha256 s s' := by
  simp only [validateRecoveryProgressSuccessor, bind_ok, refuse_ok, demand_ok, exists_unit, ne_eq, not_or, not_not,
    not_and, Option.isSome_iff_ne_none] at h
  obtain ⟨_, current, hcurrent, old, hold, hlatch, ⟨howner, hid, hfresh, hrec, _⟩, heq⟩ := h
  rw [ht, hcurrent] at heq
  have hl : s'.liveMaterialization = s.liveMaterialization := by rw [heq]
  rw [hl] at hrec
  have step : Transition sha256 s _ := .recoveryProgress current old hold ⟨hlatch, howner, hid, hfresh⟩ hrec
  rwa [← heq] at step

theorem recoveryPublish_transition (ht : s'.lastTransaction = .recoveryPublish)
    (h : s'.validateRecoveryPublishSuccessor sha256 s = .ok ()) : Transition sha256 s s' := by
  simp only [validateRecoveryPublishSuccessor, bind_ok, refuse_ok, demand_ok, exists_unit, ne_eq, not_or, not_not,
    appendedRecoveryTerminal_eq] at h
  obtain ⟨_, old, hold, terminal, happ, census, hcensus, ⟨hpre, _, rfl⟩, hout, heq⟩ := h
  rw [ht] at heq
  unfold validateRecoveryOutcome at hout
  split at hout
  · rename_i head epoch generation liveCensus hl
    simp only [refuse_ok, ne_eq, not_or, not_not, Option.isSome_iff_ne_none] at hout
    obtain ⟨hphase, hprimary, hnone, hpub⟩ := hout
    have step : Transition sha256 s _ := .recoveryPublished old terminal s'.liveMaterialization s'.ownedResources
      s'.recoveryTerminals hold happ hcensus hpre (by rw [hl]; rfl) hphase hprimary hnone hpub
    rwa [← heq] at step
  · rename_i head actionId failure liveCensus hl
    simp only [refuse_ok, ne_eq, not_or, not_not, not_exists, not_and] at hout
    obtain ⟨rfl, hlatched, hna, hnab, hterm, hzero⟩ := hout
    rw [hl] at heq
    have step : Transition sha256 s _ := .recoveryFailed old terminal head failure liveCensus s'.ownedResources
      s'.recoveryTerminals hold happ hcensus hpre hlatched hna hnab (fun r hr => by simpa using hterm r hr) hzero
    rwa [← heq] at step
  · cases hout

theorem recoveryAbort_transition (ht : s'.lastTransaction = .recoveryAbortNoEffects)
    (h : s'.validateRecoveryAbortNoEffectsSuccessor sha256 s = .ok ()) : Transition sha256 s s' := by
  simp only [validateRecoveryAbortNoEffectsSuccessor, bind_ok, refuse_ok, demand_ok, exists_unit, ne_eq, not_or,
    not_not, appendedRecoveryTerminal_eq, not_exists, not_and, Option.isSome_iff_ne_none] at h
  obtain ⟨_, old, hold, terminal, happ, ⟨hphase, hraw, helig, _, _, hres, hterm, hprimary, hnone⟩, census, hcensus, rfl,
    heq⟩ := h
  rw [ht] at heq
  rw [hres] at hterm hcensus
  have step : Transition sha256 s _ := .recoveryAbortNoEffects old terminal s'.recoveryTerminals hold happ hphase
    hraw helig (fun r hr => by simpa using hterm r hr) hprimary hnone hcensus
  rwa [← heq] at step

theorem operationTerminalNoEffects_transition (ht : s'.lastTransaction = .operationTerminalNoEffects)
    (h : s'.validateOperationTerminalNoEffectsSuccessor sha256 s = .ok ()) : Transition sha256 s s' := by
  simp only [validateOperationTerminalNoEffectsSuccessor, bind_ok, refuse_ok, demand_ok, exists_unit, ne_eq, not_or,
    not_not, appendedTerminalForPrepared_eq, not_and, Option.isSome_iff_ne_none] at h
  obtain ⟨_, prepared, hprepared, terminal, happ, ⟨hphase, haction, _⟩, census, hcensus,
    ⟨rfl, hprimary, hstart, hstop, habort, hdisp, hraw⟩, heq⟩ := h
  rw [ht] at heq
  have hres : s'.ownedResources = s.ownedResources := by rw [heq]
  rw [hres] at hcensus
  have step : Transition sha256 s _ := .operationTerminalNoEffects prepared terminal s'.terminalOperations hprepared
    happ hphase haction hcensus
    (by revert hprimary; cases terminal.selection.primary <;> simp [TerminalOutcome.noEffects]) hstart hstop habort hdisp hraw
  rwa [closed, ← heq] at step

theorem quarantine_transition (ht : s'.lastTransaction = .quarantine)
    (h : s'.validateQuarantineSuccessor s = .ok ()) : Transition sha256 s s' := by
  simp only [validateQuarantineSuccessor, bind_ok, refuse_ok, exists_unit, ne_eq, not_or, not_not] at h
  obtain ⟨_, ⟨hfree, hq⟩, heq⟩ := h
  rw [ht] at heq
  have step : Transition sha256 s _ := .quarantine s'.liveMaterialization (by simpa using hfree) hq
  rwa [← heq] at step

theorem transition_of_validateSuccessor (h : s'.validateSuccessor sha256 s = .ok ()) : Transition sha256 s s' := by
  simp only [validateSuccessor, bind_ok, exists_unit] at h
  obtain ⟨_, h⟩ := h
  cases ht : s'.lastTransaction <;> rw [ht] at h
  case initialized => cases h
  case startupInvalidation => exact startupInvalidation_transition ht h
  case tenureOnly => exact tenureOnly_transition ht h
  case fullAdmission => exact fullAdmission_transition ht h
  case preparedProgress => exact preparedProgress_transition ht h
  case resourceProgress => exact resourceProgress_transition ht h
  case normalStartTerminal => exact normalStartTerminal_transition ht h
  case emptyHeadRetire => exact emptyHeadRetire_transition ht h
  case exactZeroTerminal => exact exactZeroTerminal_transition ht h
  case recoveryPlan => exact recoveryPlan_transition ht h
  case recoveryProgress => exact recoveryProgress_transition ht h
  case recoveryPublish => exact recoveryPublish_transition ht h
  case operationTerminalNoEffects => exact operationTerminalNoEffects_transition ht h
  case quarantine => exact quarantine_transition ht h
  case recoveryAbortNoEffects => exact recoveryAbort_transition ht h

end

end Journal
end ParaEgox
