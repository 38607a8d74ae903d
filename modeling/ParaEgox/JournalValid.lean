import ParaEgox.JournalStep

/-!
# JournalValid — what an accepted state satisfies

`Valid` is the conjunction the state validator decides; one lemma for each loop of the validator says what it accepts.
Every later proof reads these and not the validator.
-/
namespace ParaEgox
namespace Journal

open Check

/-! ## The ledgers -/

theorem notBelow_eq_false {κ : Type} [LinearOrder κ] (previous : Option κ) (key : κ) :
    ¬ notBelow previous key = true ↔ ∀ p, previous = some p → p < key := by
  cases previous with
  | none => simp [notBelow]
  | some p => simp [notBelow]

theorem replayStep_order : Keyed.IsOrderStep ReplayLedgerRecord.identity replayStep
    (fun r => r.identity ≠ 0 ∧ r.valueDigest ≠ 0) := by
  intro s x s'
  simp only [replayStep, bind_ok, ensureNonzeroDigest_ok, rejectIf_ok, exists_unit, pure_ok, notBelow_eq_false]
  constructor
  · rintro ⟨h1, h2, h3, rfl⟩
    exact ⟨h3, ⟨h1, h2⟩, rfl⟩
  · rintro ⟨h3, ⟨h1, h2⟩, rfl⟩
    exact ⟨h1, h2, h3, rfl⟩

/-- **A nonce ledger is accepted exactly when it fits and its nonzero identities strictly increase.** -/
theorem validateReplayRecords_ok (records : List ReplayLedgerRecord) (maximum : Nat) :
    validateReplayRecords records maximum = .ok () ↔ records.length ≤ maximum ∧
      Keyed.Ascending ReplayLedgerRecord.identity records ∧ ∀ r ∈ records, r.identity ≠ 0 ∧ r.valueDigest ≠ 0 := by
  have order := Keyed.scan_order_ok ReplayLedgerRecord.identity replayStep_order records none
  simp only [validateReplayRecords, bind_ok, rejectIf_ok, exists_unit, pure_ok, not_lt, and_true, order]
  simp

structure TemporalOk (generation : U64) (r : TemporalLineageRecord) : Prop where
  constraint : r.constraintId ≠ 0
  scope : r.sourceScope ≠ 0
  target : r.targetFingerprint ≠ 0
  original : r.originalBudgetNanos ≠ 0
  remaining : r.remainingBudgetNanos ≠ 0
  budget : r.remainingBudgetNanos ≤ r.originalBudgetNanos
  generation_ne : r.clockGeneration ≠ 0
  generation_le : r.clockGeneration ≤ generation
  deadline : r.deadlineNanos ≠ 0
  lineage : r.lineageDigest ≠ 0

theorem TemporalOk.mono {g g' : U64} {r : TemporalLineageRecord} (h : TemporalOk g r) (hg : g ≤ g') :
    TemporalOk g' r :=
  { h with generation_le := h.generation_le.trans hg }

theorem temporalStep_order (generation : U64) : Keyed.IsOrderStep TemporalLineageRecord.constraintId
    (temporalStep generation) (TemporalOk generation) := by
  intro s x s'
  simp only [temporalStep, bind_ok, ensureNonzeroDigest_ok, ensureNonzeroRef_ok, rejectIf_ok, exists_unit, pure_ok,
    notBelow_eq_false, not_or, not_lt]
  constructor
  · rintro ⟨h1, h2, h3, ⟨h4, h5, h6, h7, h8, h9⟩, h10, h11, rfl⟩
    exact ⟨h11, ⟨h1, h2, h3, h4, h5, h6, h7, h8, h9, h10⟩, rfl⟩
  · rintro ⟨h11, ⟨h1, h2, h3, h4, h5, h6, h7, h8, h9, h10⟩, rfl⟩
    exact ⟨h1, h2, h3, ⟨h4, h5, h6, h7, h8, h9⟩, h10, h11, rfl⟩

theorem validateTemporalRecords_ok (records : List TemporalLineageRecord) (generation : U64) :
    validateTemporalRecords records generation = .ok () ↔ records.length ≤ maxRuntimeTemporalLineages ∧
      Keyed.Ascending TemporalLineageRecord.constraintId records ∧ ∀ r ∈ records, TemporalOk generation r := by
  have order := Keyed.scan_order_ok TemporalLineageRecord.constraintId (temporalStep_order generation) records none
  simp only [validateTemporalRecords, bind_ok, rejectIf_ok, exists_unit, pure_ok, not_lt, and_true, order]
  simp

namespace RuntimeJournalState

structure ResourceOk (s : RuntimeJournalState) (r : OwnedResourceRecord) : Prop where
  logical : r.logicalRef ≠ 0
  generation : r.generation ≠ 0
  epoch_ne : r.runtimeHostEpoch ≠ 0
  epoch_le : r.runtimeHostEpoch ≤ s.host.runtimeHostEpochHighWater
  evidence : validateResourceEvidence r = .ok ()
  owner : s.resourceOwnerCheck r = .ok ()

theorem resourceStep_order (s : RuntimeJournalState) : Keyed.IsOrderStep OwnedResourceRecord.key s.resourceStep
    s.ResourceOk := by
  intro p r p'
  simp only [resourceStep, bind_ok, ensureNonzeroRef_ok, rejectIf_ok, exists_unit, pure_ok, notBelow_eq_false, not_or,
    not_lt]
  constructor
  · rintro ⟨h1, ⟨h2, h3, h4⟩, h5, h6, h7, rfl⟩
    exact ⟨h5, ⟨h1, h2, h3, h4, h6, h7⟩, rfl⟩
  · rintro ⟨h5, ⟨h1, h2, h3, h4, h6, h7⟩, rfl⟩
    exact ⟨h1, ⟨h2, h3, h4⟩, h5, h6, h7, rfl⟩

/-- **The resource ledger**: ordered by kind, reference and generation, every record with its evidence and owner. -/
theorem validateResources_ok (s : RuntimeJournalState) :
    s.validateResources = .ok () ↔ s.ownedResources.length ≤ maxRuntimeOwnedResources ∧
      Keyed.Ascending OwnedResourceRecord.key s.ownedResources ∧ (∀ r ∈ s.ownedResources, s.ResourceOk r) ∧
        s.validateReferenceProfileCensus = .ok () := by
  have order := Keyed.scan_order_ok OwnedResourceRecord.key s.resourceStep_order s.ownedResources none
  simp only [validateResources, bind_ok, rejectIf_ok, exists_unit, not_lt]
  rw [exists_and_right, order]
  simp [and_assoc]

theorem terminalStep_order (c : Contracts) (s : RuntimeJournalState) (sequence : U64) :
    Keyed.IsOrderStep TerminalOperationRecord.key (s.terminalStep c sequence)
      (fun t => s.validateTerminal c sequence t = .ok ()) := by
  intro p t p'
  simp only [terminalStep, bind_ok, rejectIf_ok, exists_unit, pure_ok, notBelow_eq_false]
  constructor
  · rintro ⟨h1, h2, rfl⟩
    exact ⟨h1, h2, rfl⟩
  · rintro ⟨h1, h2, rfl⟩
    exact ⟨h1, h2, rfl⟩

/-- **The terminal ledger**: ordered by scope and operation, every record complete. -/
theorem validateTerminals_ok (c : Contracts) (s : RuntimeJournalState) (sequence : U64) :
    s.validateTerminals c sequence = .ok () ↔ s.terminalOperations.length ≤ maxRuntimeTerminalOperations ∧
      Keyed.Ascending TerminalOperationRecord.key s.terminalOperations ∧
        ∀ t ∈ s.terminalOperations, s.validateTerminal c sequence t = .ok () := by
  have order := Keyed.scan_order_ok TerminalOperationRecord.key (terminalStep_order c s sequence)
    s.terminalOperations none
  simp only [validateTerminals, bind_ok, rejectIf_ok, exists_unit, pure_ok, not_lt, and_true, order]
  simp

/-! ## The one source scope -/

def Agrees (common : Ref16) (scope : Option Ref16) : Prop := ∀ x, scope = some x → x = common

/-- A step of the scope loop succeeds towards `common` exactly when `P`. -/
def Observes (common : Ref16) (f : Option Ref16 → Res (Option Ref16)) (P : Prop) : Prop :=
  ∀ scope, (∃ r, f scope = .ok r ∧ Agrees common r) ↔ Agrees common scope ∧ P

theorem observes_scope (common candidate : Ref16) :
    Observes common (observeScope · candidate) (candidate = common ∧ candidate ≠ 0) := by
  intro scope
  cases scope with
  | none =>
    simp only [observeScope, bind_ok, ensureNonzeroRef_ok, exists_unit, pure_ok, Agrees]
    constructor
    · rintro ⟨r, ⟨hne, rfl⟩, hr⟩
      exact ⟨fun _ hx => (by cases hx), hr _ rfl, hne⟩
    · rintro ⟨_, rfl, hne⟩
      exact ⟨some candidate, ⟨hne, rfl⟩, fun x hx => (Option.some.inj hx).symm⟩
  | some current =>
    simp only [observeScope, bind_ok, ensureNonzeroRef_ok, exists_unit, Agrees]
    constructor
    · rintro ⟨r, ⟨hne, hr⟩, hagree⟩
      split at hr
      · rename_i heq
        cases hr
        exact ⟨hagree, heq ▸ hagree _ rfl, hne⟩
      · cases hr
    · rintro ⟨hagree, rfl, hne⟩
      have hcur : current = candidate := hagree _ rfl
      exact ⟨some current, ⟨hne, by rw [if_pos hcur]; rfl⟩, hagree⟩

variable {common : Ref16}

theorem Observes.bind {f g : Option Ref16 → Res (Option Ref16)} {P Q : Prop}
    (hf : Observes common f P) (hg : Observes common g Q) :
    Observes common (fun scope => f scope >>= g) (P ∧ Q) := by
  intro scope
  simp only [bind_ok]
  constructor
  · rintro ⟨r, ⟨m, hm, hr⟩, hagree⟩
    obtain ⟨hm', hQ⟩ := (hg m).1 ⟨r, hr, hagree⟩
    obtain ⟨hs, hP⟩ := (hf scope).1 ⟨m, hm, hm'⟩
    exact ⟨hs, hP, hQ⟩
  · rintro ⟨hs, hP, hQ⟩
    obtain ⟨m, hm, hm'⟩ := (hf scope).2 ⟨hs, hP⟩
    obtain ⟨r, hr, hagree⟩ := (hg m).2 ⟨hm', hQ⟩
    exact ⟨r, ⟨m, hm, hr⟩, hagree⟩

theorem Observes.guarded {f : Option Ref16 → Res (Option Ref16)} {P Q : Prop} {check : Res Unit}
    (hcheck : check = .ok () ↔ P) (hf : Observes common f Q) :
    Observes common (fun scope => check >>= fun _ => f scope) (P ∧ Q) := by
  intro scope
  simp only [bind_ok, exists_unit, hcheck, and_assoc, exists_and_left]
  rw [hf scope]
  exact and_left_comm

theorem observes_scan {α : Type} {step : Option Ref16 → α → Res (Option Ref16)} {P : α → Prop}
    (hstep : ∀ x, Observes common (step · x) (P x)) :
    ∀ xs : List α, Observes common (scan step · xs) (∀ x ∈ xs, P x)
  | [] => by
    intro scope
    simp [scan]
  | x :: xs => by
    intro scope
    have h := ((hstep x).bind (observes_scan hstep xs)) scope
    simpa [scan] using h

/-- The fence names the common scope and a recorded tenure nonce; without a fence there is none. -/
def FenceOk (s : RuntimeJournalState) (common : Ref16) : Prop :=
  match s.writerFence with
  | some fence => (fence.epoch ≠ 0 ∧ fence.writer ≠ 0 ∧ fence.principal ≠ 0 ∧ fence.proofEnvelopeDigest ≠ 0 ∧
      fence.tenureNonceIdentity ≠ 0 ∧ ∃ record ∈ s.host.tenureNonces,
        record.identity = fence.tenureNonceIdentity ∧ record.valueDigest = fence.proofEnvelopeDigest) ∧
      fence.sourceScope = common ∧ fence.sourceScope ≠ 0
  | none => s.host.tenureNonces = []

theorem observes_fence (s : RuntimeJournalState) (common : Ref16) :
    Observes common s.observeFence (s.FenceOk common) := by
  intro scope
  unfold observeFence FenceOk
  cases s.writerFence with
  | none =>
    simp only [bind_ok, rejectIf_ok, exists_unit, pure_ok, ne_eq, not_not]
    constructor
    · rintro ⟨_, ⟨h, rfl⟩, hagree⟩
      exact ⟨hagree, h⟩
    · rintro ⟨hagree, h⟩
      exact ⟨scope, ⟨h, rfl⟩, hagree⟩
  | some fence =>
    have h := observes_scope common fence.sourceScope scope
    simp only [bind_ok, rejectIf_ok, ensureNonzeroRef_ok, ensureNonzeroDigest_ok, exists_unit, not_not, and_assoc,
      exists_and_left] at h ⊢
    rw [h]
    tauto

def HighWaterOk (s : RuntimeJournalState) (common : Ref16) : Prop :=
  ∀ highWater, s.sourceRevisionHighWater = some highWater →
    highWater.revision ≠ 0 ∧ highWater.sourceScope = common ∧ highWater.sourceScope ≠ 0

theorem observes_highWater (s : RuntimeJournalState) (common : Ref16) :
    Observes common s.observeHighWater (s.HighWaterOk common) := by
  intro scope
  unfold observeHighWater HighWaterOk
  cases s.sourceRevisionHighWater with
  | none => simp
  | some highWater =>
    have h := observes_scope common highWater.sourceScope scope
    simp only [bind_ok, rejectIf_ok, exists_unit, and_assoc, exists_and_left] at h ⊢
    rw [h]
    simp
    tauto

def runsNow (phase : PreparedPhase) : Prop :=
  phase = .preparedNoEffects ∨ phase = .firstActionIntent ∨ phase = .headCommittedRetiringOld

structure PreparedOk (c : Contracts) (s : RuntimeJournalState) (payloadVersion : Nat) (common : Ref16)
    (p : PreparedOperation) : Prop where
  operation : p.operationId ≠ 0
  scope : p.sourceScope = common
  scope_ne : p.sourceScope ≠ 0
  revision : ∃ highWater, s.sourceRevisionHighWater = some highWater ∧ p.sourceRevision ≠ 0 ∧
    p.sourceRevision = highWater.revision
  fence : s.writerFence ≠ none
  valid : p.validate c.sha256 s.host.singletonManifest.digest s.host.requestNonces s.host.temporalLineages
    (decide (payloadVersion = runtimeJournalPayloadVersion)) = .ok ()
  current : runsNow p.phase → p.installedClockGeneration = s.host.clockGenerationHighWater

theorem observes_prepared (c : Contracts) (s : RuntimeJournalState) (payloadVersion : Nat) (common : Ref16) :
    Observes common (s.observePrepared c payloadVersion)
      (∀ p, s.prepared = some p → s.PreparedOk c payloadVersion common p) := by
  intro scope
  unfold observePrepared
  cases hp : s.prepared with
  | none => simp
  | some p =>
    have h := observes_scope common p.sourceScope scope
    simp only [bind_ok, rejectIf_ok, ensureNonzeroRef_ok, okOr_ok, exists_unit, pure_ok, Option.some.injEq,
      Option.isNone_iff_eq_none, not_or, not_and, not_not, ne_eq, forall_eq'] at h ⊢
    constructor
    · rintro ⟨r, ⟨hop, m, hm, hw, hhw, ⟨hz, hrev⟩, hfence, hvalid, hcur, rfl⟩, hagree⟩
      obtain ⟨hs, hcommon, hne⟩ := h.1 ⟨m, hm, hagree⟩
      exact ⟨hs, ⟨hop, hcommon, hne, ⟨hw, hhw, hz, hrev⟩, hfence, hvalid, hcur⟩⟩
    · rintro ⟨hs, hop, hcommon, hne, ⟨hw, hhw, hz, hrev⟩, hfence, hvalid, hcur⟩
      obtain ⟨m, hm, hagree⟩ := h.2 ⟨hs, hcommon, hne⟩
      exact ⟨m, ⟨hop, m, hm, hw, hhw, ⟨hz, hrev⟩, hfence, hvalid, hcur, rfl⟩, hagree⟩

structure ActiveOk (c : Contracts) (s : RuntimeJournalState) (common : Ref16) (a : ActiveDesiredHead) : Prop where
  operation : a.operationId ≠ 0
  scope : a.sourceScope = common
  scope_ne : a.sourceScope ≠ 0
  revision : ∃ highWater, s.sourceRevisionHighWater = some highWater ∧ a.sourceRevision ≠ 0 ∧
    a.sourceRevision ≤ highWater.revision
  fence : s.writerFence ≠ none
  valid : a.validate c.sha256 s.host.singletonManifest.digest = .ok ()

theorem observes_active (c : Contracts) (s : RuntimeJournalState) (common : Ref16) :
    Observes common (s.observeActive c) (∀ a, s.activeDesired = some a → s.ActiveOk c common a) := by
  intro scope
  unfold observeActive
  cases hp : s.activeDesired with
  | none => simp
  | some a =>
    have h := observes_scope common a.sourceScope scope
    simp only [bind_ok, rejectIf_ok, ensureNonzeroRef_ok, okOr_ok, exists_unit, pure_ok, Option.some.injEq,
      Option.isNone_iff_eq_none, not_or, not_lt, ne_eq, forall_eq'] at h ⊢
    constructor
    · rintro ⟨r, ⟨hop, m, hm, hw, hhw, ⟨hz, hrev⟩, hfence, hvalid, rfl⟩, hagree⟩
      obtain ⟨hs, hcommon, hne⟩ := h.1 ⟨m, hm, hagree⟩
      exact ⟨hs, ⟨hop, hcommon, hne, ⟨hw, hhw, hz, hrev⟩, hfence, hvalid⟩⟩
    · rintro ⟨hs, hop, hcommon, hne, ⟨hw, hhw, hz, hrev⟩, hfence, hvalid⟩
      obtain ⟨m, hm, hagree⟩ := h.2 ⟨hs, hcommon, hne⟩
      exact ⟨m, ⟨hop, m, hm, hw, hhw, ⟨hz, hrev⟩, hfence, hvalid, rfl⟩, hagree⟩

structure RecoveryScopeOk (s : RuntimeJournalState) (common : Ref16) (r : RecoveryAction) : Prop where
  scope : r.sourceScope = common
  scope_ne : r.sourceScope ≠ 0
  revision : ∃ highWater, s.sourceRevisionHighWater = some highWater ∧ r.sourceScope = highWater.sourceScope ∧
    r.sourceRevision ≤ highWater.revision

theorem observes_recovery (s : RuntimeJournalState) (common : Ref16) :
    Observes common s.observeRecovery (∀ r, s.recoveryAction = some r → s.RecoveryScopeOk common r) := by
  intro scope
  unfold observeRecovery
  cases hp : s.recoveryAction with
  | none => simp
  | some r =>
    have h := observes_scope common r.sourceScope scope
    simp only [bind_ok, rejectIf_ok, okOr_ok, exists_unit, pure_ok, Option.some.injEq, not_or, not_lt, not_not, ne_eq,
      forall_eq'] at h ⊢
    constructor
    · rintro ⟨_, ⟨m, hm, hw, hhw, ⟨hz, hrev⟩, rfl⟩, hagree⟩
      obtain ⟨hs, hcommon, hne⟩ := h.1 ⟨m, hm, hagree⟩
      exact ⟨hs, ⟨hcommon, hne, ⟨hw, hhw, hz, hrev⟩⟩⟩
    · rintro ⟨hs, hcommon, hne, ⟨hw, hhw, hz, hrev⟩⟩
      obtain ⟨m, hm, hagree⟩ := h.2 ⟨hs, hcommon, hne⟩
      exact ⟨m, ⟨m, hm, hw, hhw, ⟨hz, hrev⟩, rfl⟩, hagree⟩

theorem observes_temporal (common : Ref16) (t : TemporalLineageRecord) :
    Observes common (observeTemporal · t) (t.constraintId ≠ 0 ∧ t.sourceScope = common ∧ t.sourceScope ≠ 0) :=
  Observes.guarded (ensureNonzeroRef_ok _ _) (observes_scope common t.sourceScope)

theorem observes_terminal (common : Ref16) (t : TerminalOperationRecord) :
    Observes common (observeTerminal · t)
      (t.operationId ≠ 0 ∧ t.temporalConstraintId ≠ 0 ∧ t.sourceScope = common ∧ t.sourceScope ≠ 0) :=
  Observes.guarded (ensureNonzeroRef_ok _ _) (Observes.guarded (ensureNonzeroRef_ok _ _)
    (observes_scope common t.sourceScope))

/-- **The scope loop**: one source scope runs through every scoped record. -/
structure ScopeOk (c : Contracts) (s : RuntimeJournalState) (payloadVersion : Nat) (common : Ref16) : Prop where
  fence : s.FenceOk common
  highWater : s.HighWaterOk common
  temporals : ∀ t ∈ s.host.temporalLineages, t.constraintId ≠ 0 ∧ t.sourceScope = common ∧ t.sourceScope ≠ 0
  prepared : ∀ p, s.prepared = some p → s.PreparedOk c payloadVersion common p
  active : ∀ a, s.activeDesired = some a → s.ActiveOk c common a
  terminals : ∀ t ∈ s.terminalOperations,
    t.operationId ≠ 0 ∧ t.temporalConstraintId ≠ 0 ∧ t.sourceScope = common ∧ t.sourceScope ≠ 0
  recoveryTerminals : ∀ t ∈ s.recoveryTerminals, t.recovery.sourceScope = common ∧ t.recovery.sourceScope ≠ 0
  recovery : ∀ r, s.recoveryAction = some r → s.RecoveryScopeOk common r

theorem validateScopeAndHighWater_ok (c : Contracts) (s : RuntimeJournalState) (payloadVersion : Nat) :
    s.validateScopeAndHighWater c payloadVersion = .ok () ↔ (∃ common, s.ScopeOk c payloadVersion common) ∧
      (s.terminalOperations ≠ [] → s.sourceRevisionHighWater ≠ none ∧ s.writerFence ≠ none) ∧
        s.validateAdmissionCrossReferences = .ok () := by
  have hrecovered (common : Ref16) :
      Observes common (scan (fun scope t => observeScope scope t.recovery.sourceScope) · s.recoveryTerminals) _ :=
    observes_scan (fun t : RecoveryTerminalRecord => observes_scope common t.recovery.sourceScope) s.recoveryTerminals
  have loop (common : Ref16) := ((((((((s.observes_fence common).bind (s.observes_highWater common)).bind
    (observes_scan (observes_temporal common) s.host.temporalLineages)).bind
    (s.observes_prepared c payloadVersion common)).bind (s.observes_active c common)).bind
    (observes_scan (observes_terminal common) s.terminalOperations)).bind (hrecovered common)).bind
    (s.observes_recovery common)) none
  simp only [bind_ok] at loop
  simp only [validateScopeAndHighWater, bind_ok, rejectIf_ok, exists_unit, not_and_or, not_or,
    Option.isNone_iff_eq_none, not_not, ne_eq]
  constructor
  · rintro ⟨s1, h1, s2, h2, s3, h3, s4, h4, s5, h5, s6, h6, s7, h7, s8, h8, hneed, hadmission⟩
    -- the scope the loop ends with is the one every record names
    obtain ⟨_, ⟨⟨⟨⟨⟨⟨fence, highWater⟩, temporals⟩, prepared⟩, active⟩, terminals⟩, recovered⟩, recovery⟩ :=
      (loop (s8.getD 0)).1 ⟨s8, ⟨s7, ⟨s6, ⟨s5, ⟨s4, ⟨s3, ⟨s2, ⟨s1, h1, h2⟩, h3⟩, h4⟩, h5⟩, h6⟩, h7⟩, h8⟩,
        fun x hx => by rw [hx]; rfl⟩
    exact ⟨⟨s8.getD 0, fence, highWater, temporals, prepared, active, terminals, recovered, recovery⟩,
      fun hne => hneed.resolve_left hne, hadmission⟩
  · rintro ⟨⟨common, fence, highWater, temporals, prepared, active, terminals, recovered, recovery⟩, hneed, hadmission⟩
    obtain ⟨s8, ⟨s7, ⟨s6, ⟨s5, ⟨s4, ⟨s3, ⟨s2, ⟨s1, h1, h2⟩, h3⟩, h4⟩, h5⟩, h6⟩, h7⟩, h8⟩, _⟩ :=
      (loop common).2 ⟨fun _ hx => (by cases hx),
        ⟨⟨⟨⟨⟨⟨fence, highWater⟩, temporals⟩, prepared⟩, active⟩, terminals⟩, recovered⟩, recovery⟩
    refine ⟨s1, h1, s2, h2, s3, h3, s4, h4, s5, h5, s6, h6, s7, h7, s8, h8, ?_, hadmission⟩
    by_cases hne : s.terminalOperations = []
    · exact .inl hne
    · exact .inr (hneed hne)

/-! ## Admissions -/

/-- **The admission ledgers**: every nonce and every temporal lineage belongs to exactly one operation, prepared or
complete, every terminal owns its two records and is not the prepared operation, and the high water is the largest
revision. -/
structure AdmissionOk (s : RuntimeJournalState) : Prop where
  nonces : ∀ nonce ∈ s.host.requestNonces,
    (s.preparedOwnsNonce nonce).toNat + s.terminalOperations.countP (terminalOwnsNonce nonce) = 1
  temporals : ∀ temporal ∈ s.host.temporalLineages,
    (s.preparedOwnsTemporal temporal).toNat + s.terminalOperations.countP (terminalOwnsTemporal temporal) = 1
  terminalNonce : ∀ t ∈ s.terminalOperations, ∃ record ∈ s.host.requestNonces, terminalOwnsNonce record t = true
  terminalTemporal : ∀ t ∈ s.terminalOperations,
    ∃ record ∈ s.host.temporalLineages, terminalOwnsTemporal record t = true
  distinct : ∀ t ∈ s.terminalOperations, ∀ p, s.prepared = some p →
    ¬ (p.sourceScope = t.sourceScope ∧ p.operationId = t.operationId)
  highWater : ∀ highWater, s.sourceRevisionHighWater = some highWater → s.observedMaximum = highWater.revision

theorem validateAdmissionCrossReferences_ok (s : RuntimeJournalState) :
    s.validateAdmissionCrossReferences = .ok () ↔ s.AdmissionOk := by
  simp only [validateAdmissionCrossReferences, bind_ok, forEach_ok, whenSome_ok, rejectIf_ok, exists_unit, not_or,
    not_not, ne_eq]
  constructor
  · rintro ⟨h1, h2, h3, h4⟩
    refine ⟨h1, h2, fun t ht => (h3 t ht).1.1, fun t ht => (h3 t ht).1.2, fun t ht p hp => ?_, h4⟩
    have h := (h3 t ht).2
    rw [hp] at h
    simpa using h
  · rintro ⟨h1, h2, h3, h4, h5, h6⟩
    refine ⟨h1, h2, fun t ht => ⟨⟨h3 t ht, h4 t ht⟩, ?_⟩, h6⟩
    cases hp : s.prepared with
    | none => simp
    | some p => simpa using h5 t ht p hp

/-! ## The host -/

structure PinnedOk (host : HostClockAdmissionState) : Prop where
  clockDomain : host.clockDomain ≠ 0
  buildDescriptor : host.buildDescriptor.validateBound maxPinnedOpaqueArtifactBytes = .ok ()
  singletonManifest : host.singletonManifest.validateBound maxPinnedOpaqueArtifactBytes = .ok ()
  identity : host.storePinnedBuildIdentity.validate = .ok ()
  instance_ne : host.compiledBuildInstanceId ≠ 0
  compatibility : host.compiledCompatibilityDigest ≠ 0
  descriptor : host.buildDescriptor.digest = host.storePinnedBuildIdentity.buildDescriptorDigest
  instance_eq : host.compiledBuildInstanceId = host.storePinnedBuildIdentity.buildInstanceId
  compatibility_eq :
    host.compiledCompatibilityDigest = host.storePinnedBuildIdentity.compiledReferenceCompatibilityDigest
  admission : host.admissionPolicyFingerprint ≠ 0
  channel : host.channelPolicyFingerprint ≠ 0
  controller : host.controllerKeyFingerprint ≠ 0

/-- What the host check asks: pinned facts, ledgers, and an empty journal before the first start. -/
structure HostOk (s : RuntimeJournalState) : Prop where
  pinned : PinnedOk s.host
  unstarted : s.host.runtimeHostEpochHighWater = 0 ↔ s.host.clockGenerationHighWater = 0
  tenureNonces : validateReplayRecords s.host.tenureNonces maxRuntimeTenureNonces = .ok ()
  requestNonces : validateReplayRecords s.host.requestNonces maxRuntimeRequestNonces = .ok ()
  temporalLineages : validateTemporalRecords s.host.temporalLineages s.host.clockGenerationHighWater = .ok ()
  empty : s.host.runtimeHostEpochHighWater = 0 → s.writerFence = none ∧ s.sourceRevisionHighWater = none ∧
    s.prepared = none ∧ s.activeDesired = none ∧ s.liveMaterialization = .none ∧ s.recoveryAction = none ∧
      s.recoveryTerminals = [] ∧ s.ownedResources = [] ∧ s.terminalOperations = [] ∧ s.host.tenureNonces = [] ∧
        s.host.requestNonces = [] ∧ s.host.temporalLineages = []

theorem validateHost_ok (s : RuntimeJournalState) : s.validateHost = .ok () ↔ s.HostOk := by
  simp only [validateHost, bind_ok, rejectIf_ok, ensureNonzeroRef_ok, ensureNonzeroDigest_ok, exists_unit, not_or,
    not_and, not_not, ne_eq, decide_eq_decide, Option.isSome_iff_ne_none]
  constructor
  · rintro ⟨h1, h2, h3, h4, h5, h6, ⟨h7, h8, h9⟩, h10, h11, h12, h13, h14, h15, h16, h17⟩
    exact ⟨⟨h1, h2, h3, h4, h5, h6, h7, h8, h9, h10, h11, h12⟩, h13, h14, h15, h16, h17⟩
  · rintro ⟨⟨h1, h2, h3, h4, h5, h6, h7, h8, h9, h10, h11, h12⟩, h13, h14, h15, h16, h17⟩
    exact ⟨h1, h2, h3, h4, h5, h6, ⟨h7, h8, h9⟩, h10, h11, h12, h13, h14, h15, h16, h17⟩

/-! ## Actions -/

structure PreparedActionOk (s : RuntimeJournalState) (p : PreparedOperation) : Prop where
  present : p.phase.requiresAction = p.action.isSome
  kind : ∀ a, p.action = some a → phaseKindIsValid p.phase a.kind = true
  valid : ∀ a, p.action = some a → validateAction a s.host = .ok ()
  generation : ∀ a, p.action = some a → a.clockGeneration = p.installedClockGeneration
  interrupted : ∀ a, p.action = some a → p.rawOutcome.any (·.hostInterrupted) = true →
    a.runtimeHostEpoch < s.host.runtimeHostEpochHighWater ∧ a.clockGeneration < s.host.clockGenerationHighWater
  current : ∀ a, p.action = some a → p.rawOutcome.any (·.hostInterrupted) = false →
    a.runtimeHostEpoch = s.host.runtimeHostEpochHighWater ∧ a.clockGeneration = s.host.clockGenerationHighWater

theorem phaseKind_not_reassembly {phase : PreparedPhase} {kind : JournalActionKind}
    (h : phaseKindIsValid phase kind = true) : kind ≠ .restartReassembly := by
  rintro rfl
  cases phase <;> simp [phaseKindIsValid] at h

theorem validatePreparedAction_ok (s : RuntimeJournalState) (p : PreparedOperation) :
    s.validatePreparedAction p = .ok () ↔ s.PreparedActionOk p := by
  simp only [validatePreparedAction, bind_ok, rejectIf_ok, whenSome_ok, exists_unit, not_or, not_and, not_le, not_not,
    ne_eq, Bool.not_eq_true, Bool.not_eq_false]
  constructor
  · rintro ⟨hpresent, h⟩
    refine ⟨hpresent, fun a ha => (h a ha).2.1, fun a ha => (h a ha).2.2.1, fun a ha => (h a ha).2.2.2.1,
      fun a ha hi => (h a ha).2.2.2.2.1 hi, fun a ha hi => (h a ha).2.2.2.2.2 hi⟩
  · rintro ⟨hpresent, hkind, hvalid, hgen, hint, hcur⟩
    exact ⟨hpresent, fun a ha => ⟨phaseKind_not_reassembly (hkind a ha), hkind a ha, hvalid a ha, hgen a ha,
      hint a ha, hcur a ha⟩⟩

structure ActionsOk (c : Contracts) (s : RuntimeJournalState) : Prop where
  prepared : ∀ p, s.prepared = some p → s.PreparedActionOk p
  recovery : ∀ r, s.recoveryAction = some r → r.validate c.sha256 s.host s.activeDesired = .ok ()
  single : s.prepared.bind (·.action) = none ∨ s.recoveryAction = none
  distinct : (s.allActions.map (·.actionId)).Nodup

theorem validateActions_ok (c : Contracts) (s : RuntimeJournalState) :
    s.validateActions c = .ok () ↔ s.ActionsOk c := by
  simp only [validateActions, bind_ok, rejectIf_ok, whenSome_ok, exists_unit, validatePreparedAction_ok, not_not,
    not_and_or, Option.isSome_iff_ne_none, ne_eq]
  constructor
  · rintro ⟨h1, h2, h3, h4⟩
    exact ⟨h1, h2, h3, h4⟩
  · rintro ⟨h1, h2, h3, h4⟩
    exact ⟨h1, h2, h3, h4⟩

/-! ## The whole validator -/

structure Valid (c : Contracts) (s : RuntimeJournalState) (sequence : U64) : Prop where
  sequence_ne : sequence ≠ 0
  initialized : sequence = 1 ↔ s.lastTransaction = .initialized
  unstarted : sequence = 1 ↔ s.host.runtimeHostEpochHighWater = 0 ∧ s.host.clockGenerationHighWater = 0
  host : s.HostOk
  scope : ∃ common, s.ScopeOk c runtimeJournalPayloadVersion common
  terminalsNeed : s.terminalOperations ≠ [] → s.sourceRevisionHighWater ≠ none ∧ s.writerFence ≠ none
  admission : s.AdmissionOk
  actions : s.ActionsOk c
  generations : s.validateProducerGenerations = .ok ()
  resourceCount : s.ownedResources.length ≤ maxRuntimeOwnedResources
  resourceOrder : Keyed.Ascending OwnedResourceRecord.key s.ownedResources
  resources : ∀ r ∈ s.ownedResources, s.ResourceOk r
  census : s.validateReferenceProfileCensus = .ok ()
  terminalCount : s.terminalOperations.length ≤ maxRuntimeTerminalOperations
  terminalOrder : Keyed.Ascending TerminalOperationRecord.key s.terminalOperations
  terminals : ∀ t ∈ s.terminalOperations, s.validateTerminal c sequence t = .ok ()
  recoveryTerminals : s.validateRecoveryTerminals c sequence = .ok ()
  chronology : s.validateGlobalCompletionChronology = .ok ()
  live : s.validateLiveCrossReferences c = .ok ()
  heads : s.validateTerminalHeadChain = .ok ()

theorem validate_ok (c : Contracts) (s : RuntimeJournalState) (sequence : U64) :
    s.validate c sequence = .ok () ↔ s.Valid c sequence := by
  simp only [validate, validateForPayloadVersion, bind_ok, rejectIf_ok, exists_unit, not_or, not_not, ne_eq,
    decide_eq_decide, validateHost_ok, validateScopeAndHighWater_ok, validateAdmissionCrossReferences_ok,
    validateActions_ok, validateResources_ok, validateTerminals_ok]
  constructor
  · rintro ⟨h1, ⟨h2, h3⟩, h4, ⟨h5, h6, h7⟩, h8, h9, ⟨h10, h11, h12, h13⟩, ⟨h14, h15, h16⟩, h17, h18, h19, h20⟩
    exact ⟨h1, h2, h3, h4, h5, h6, h7, h8, h9, h10, h11, h12, h13, h14, h15, h16, h17, h18, h19, h20⟩
  · rintro ⟨h1, h2, h3, h4, h5, h6, h7, h8, h9, h10, h11, h12, h13, h14, h15, h16, h17, h18, h19, h20⟩
    exact ⟨h1, ⟨h2, h3⟩, h4, ⟨h5, h6, h7⟩, h8, h9, ⟨h10, h11, h12, h13⟩, ⟨h14, h15, h16⟩, h17, h18, h19, h20⟩

end RuntimeJournalState

namespace RuntimeJournalSnapshot

open RuntimeJournalState

structure Established (c : Contracts) (s : RuntimeJournalSnapshot) : Prop where
  envelope : validateEnvelopeIdentity s.storeInstanceId s.ownerTargetFingerprint s.sequence = .ok ()
  valid : s.state.Valid c s.sequence
  owner : s.state.validateOwnerTargetBinding s.ownerTargetFingerprint = .ok ()
  request : validatePreparedRequestBusinessInvariants c s.state s.storeInstanceId .invalidStateInvariant = .ok ()
  receipts : validateTerminalReceipts c s.storeInstanceId s.state = .ok ()

variable {c : Contracts} {s : RuntimeJournalSnapshot}

theorem Built.established (h : s.Built c) : s.Established c := by
  simp only [Built, tryNew, bind_ok, exists_unit, validate_ok] at h
  obtain ⟨h1, h2, h3, h4, h5, _⟩ := h
  exact ⟨h1, h2, h3, h4, h5⟩

theorem Built.valid (h : s.Built c) : s.state.Valid c s.sequence :=
  h.established.valid

theorem tryNew_built {store owner sequence state} {s : RuntimeJournalSnapshot}
    (h : tryNew c store owner sequence state = .ok s) :
    s.Built c ∧ s.storeInstanceId = store ∧ s.ownerTargetFingerprint = owner ∧ s.sequence = sequence ∧
      s.state = state := by
  have h' := h
  simp only [tryNew, bind_ok, exists_unit, pure_ok] at h'
  obtain ⟨_, _, _, _, _, _, _, _, _, rfl⟩ := h'
  exact ⟨h, rfl, rfl, rfl, rfl⟩

theorem Initial.built (h : Initial c s) : s.Built c := by
  obtain ⟨_, _, _, h⟩ := h
  exact (tryNew_built h).1

theorem Chain.built {a b : RuntimeJournalSnapshot} (ha : a.Built c) (h : Chain c a b) : b.Built c := by
  cases h with
  | refl => exact ha
  | tail _ hstep => exact hstep.built

theorem Reachable.built (h : Reachable c s) : s.Built c := by
  obtain ⟨_, hfirst, hchain⟩ := h
  exact Chain.built hfirst.built hchain

/-- **An accepted step**: the same store and owner, the next sequence number and one transaction of the state. -/
structure StepFacts (c : Contracts) (previous next : RuntimeJournalSnapshot) : Prop where
  store : next.storeInstanceId = previous.storeInstanceId
  owner : next.ownerTargetFingerprint = previous.ownerTargetFingerprint
  sequence : next.sequence = previous.sequence + 1
  bound : previous.sequence + 1 ≤ u64Max
  accepted : next.state.validateSuccessor c.sha256 previous.state = .ok ()
  metadata : next.state.validateNewTerminalMetadata c previous.state next.sequence next.storeInstanceId = .ok ()

theorem validateSuccessorOf_ok (c : Contracts) (next previous : RuntimeJournalSnapshot) :
    next.validateSuccessorOf c previous = .ok () ↔ StepFacts c previous next := by
  simp only [validateSuccessorOf, bind_ok, rejectIf_ok, checkedAdd_ok, exists_unit, not_or, not_not, ne_eq]
  constructor
  · rintro ⟨⟨h1, h2⟩, _, ⟨h3, rfl⟩, h4, h5, h6⟩
    exact ⟨h1, h2, h4, h3, h5, h6⟩
  · rintro ⟨h1, h2, h4, h3, h5, h6⟩
    exact ⟨⟨h1, h2⟩, _, ⟨h3, rfl⟩, h4, h5, h6⟩

theorem Step.facts {previous next : RuntimeJournalSnapshot} (h : Step c previous next) : StepFacts c previous next :=
  (validateSuccessorOf_ok c next previous).1 h.accepted

theorem Step.transition {previous next : RuntimeJournalSnapshot} (h : Step c previous next) :
    Transition c.sha256 previous.state next.state :=
  transition_of_validateSuccessor h.facts.accepted

end RuntimeJournalSnapshot
end Journal
end ParaEgox
