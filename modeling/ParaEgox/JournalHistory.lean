import ParaEgox.JournalSample

/-!
# JournalHistory — the journal only grows

Along every chain of accepted successors the pinned facts stay, the high waters only rise, no ledger loses a record and
every resource keeps its identity evidence while its phase moves forward.
-/
namespace ParaEgox
namespace Journal

open Check

/-! ## Resources -/

inductive ResourcePhase.Moves : ResourcePhase → ResourcePhase → Prop
  | materialize : Moves .reserved .owned
  | retire : Moves .owned .cleanupPending
  | clean : Moves .cleanupPending .terminal
  | crash : Moves .reserved .reservedAtCrashExactZero

def EvidenceKept (old new : Option OpaqueCanonicalValue) : Prop := ∀ v, old = some v → new = some v

theorem EvidenceKept.refl (v : Option OpaqueCanonicalValue) : EvidenceKept v v := fun _ h => h

theorem EvidenceKept.trans {a b c : Option OpaqueCanonicalValue} (hab : EvidenceKept a b) (hbc : EvidenceKept b c) :
    EvidenceKept a c :=
  fun v h => hbc v (hab v h)

/-- The same resource at a later time: its identity, its recorded evidence and a phase reached by `Moves`. -/
structure OwnedResourceRecord.Continues (old new : OwnedResourceRecord) : Prop where
  kind : new.kind = old.kind
  logicalRef : new.logicalRef = old.logicalRef
  generation : new.generation = old.generation
  runtimeHostEpoch : new.runtimeHostEpoch = old.runtimeHostEpoch
  osIdentity : EvidenceKept old.osIdentity new.osIdentity
  workspaceIdentity : EvidenceKept old.workspaceIdentity new.workspaceIdentity
  containmentIdentity : EvidenceKept old.containmentIdentity new.containmentIdentity
  tombstoneEvidence : EvidenceKept old.tombstoneEvidence new.tombstoneEvidence
  phase : Relation.ReflTransGen ResourcePhase.Moves old.phase new.phase

namespace OwnedResourceRecord

theorem Continues.refl (r : OwnedResourceRecord) : r.Continues r :=
  ⟨rfl, rfl, rfl, rfl, .refl _, .refl _, .refl _, .refl _, .refl⟩

theorem Continues.trans {a b c : OwnedResourceRecord} (hab : a.Continues b) (hbc : b.Continues c) : a.Continues c where
  kind := hbc.kind.trans hab.kind
  logicalRef := hbc.logicalRef.trans hab.logicalRef
  generation := hbc.generation.trans hab.generation
  runtimeHostEpoch := hbc.runtimeHostEpoch.trans hab.runtimeHostEpoch
  osIdentity := hab.osIdentity.trans hbc.osIdentity
  workspaceIdentity := hab.workspaceIdentity.trans hbc.workspaceIdentity
  containmentIdentity := hab.containmentIdentity.trans hbc.containmentIdentity
  tombstoneEvidence := hab.tombstoneEvidence.trans hbc.tombstoneEvidence
  phase := hab.phase.trans hbc.phase

theorem continues_of_move {old : OwnedResourceRecord} {phase : ResourcePhase} {actionId : Option Ref16}
    (hphase : Relation.ReflTransGen ResourcePhase.Moves old.phase phase) :
    old.Continues { old with phase := phase, actionId := actionId } :=
  ⟨rfl, rfl, rfl, rfl, .refl _, .refl _, .refl _, .refl _, hphase⟩

end OwnedResourceRecord

theorem evidenceKept_of_check {old new : Option OpaqueCanonicalValue} (h : (old.isSome && new ≠ old) = false) :
    EvidenceKept old new := by
  intro v hv
  rw [hv] at h
  simpa using h

theorem osIdentity_of_evidence {r : OwnedResourceRecord} (h : validateResourceEvidence r = .ok ()) :
    (r.phase = .terminal → r.osIdentity ≠ none) ∧ (r.phase = .reservedAtCrashExactZero → r.osIdentity = none) ∧
      (r.phase.isTerminal = false → r.tombstoneEvidence = none) := by
  simp only [validateResourceEvidence, bind_ok, exists_unit] at h
  obtain ⟨_, h⟩ := h
  unfold phaseEvidenceCheck at h
  split at h <;> rename_i hphase <;>
    simp only [rejectIf_ok, not_or, Option.isSome_iff_ne_none, Option.isNone_iff_eq_none, not_not, ne_eq] at h <;>
    simp [hphase, h, ResourcePhase.isTerminal]

/-- The numeric phase test of a resource step allows one move, once the evidence rules exclude the step from a cleaned
resource to a crashed reservation. -/
theorem phase_move_of_code {old new : ResourcePhase} (hle : old.code ≤ new.code) (hlt : new.code ≤ old.code + 1)
    (hbad : ¬ (old = .terminal ∧ new = .reservedAtCrashExactZero)) : Relation.ReflTransGen ResourcePhase.Moves old new := by
  cases old <;> cases new <;> simp [ResourcePhase.code] at hle hlt
  case reserved.reserved => exact .refl
  case reserved.owned => exact .single .materialize
  case owned.owned => exact .refl
  case owned.cleanupPending => exact .single .retire
  case cleanupPending.cleanupPending => exact .refl
  case cleanupPending.terminal => exact .single .clean
  case terminal.terminal => exact .refl
  case terminal.reservedAtCrashExactZero => exact absurd ⟨rfl, rfl⟩ hbad
  case reservedAtCrashExactZero.reservedAtCrashExactZero => exact .refl

theorem continues_of_mayBecome {old new : OwnedResourceRecord} (h : resourceMayBecome old new = true)
    (hold : validateResourceEvidence old = .ok ()) (hnew : validateResourceEvidence new = .ok ()) :
    old.Continues new := by
  unfold resourceMayBecome at h
  split at h
  · rename_i hcrash
    simp only [Bool.and_eq_true, decide_eq_true_eq] at h
    have hnone : old.tombstoneEvidence = none := (osIdentity_of_evidence hold).2.2 (by rw [hcrash.1]; rfl)
    have hphase : Relation.ReflTransGen ResourcePhase.Moves old.phase new.phase := by
      rw [hcrash.1, hcrash.2]
      exact .single .crash
    rw [h.2]
    refine ⟨rfl, rfl, rfl, rfl, .refl _, .refl _, .refl _, fun v hv => ?_, by rwa [h.2] at hphase⟩
    rw [hnone] at hv
    cases hv
  · simp only [Bool.not_eq_true', Bool.or_eq_false_iff, decide_eq_false_iff_not, ne_eq, not_not, not_lt,
      gt_iff_lt] at h
    obtain ⟨⟨⟨⟨⟨⟨⟨⟨⟨⟨⟨hkind, hlogical⟩, hgen⟩, hepoch⟩, hle⟩, hlt⟩, _⟩, hos⟩, hws⟩, hct⟩, htomb⟩, _⟩ := h
    have hos' := evidenceKept_of_check (by simpa using hos)
    refine ⟨hkind, hlogical, hgen, hepoch, hos', evidenceKept_of_check (by simpa using hws),
      evidenceKept_of_check (by simpa using hct), evidenceKept_of_check (by simpa using htomb),
      phase_move_of_code hle hlt ?_⟩
    rintro ⟨hterminal, hcrashed⟩
    -- a cleaned resource carries an OS identity, a crashed reservation has none
    obtain ⟨v, hv⟩ := Option.ne_none_iff_exists'.1 ((osIdentity_of_evidence hold).1 hterminal)
    have hv' := hos' v hv
    rw [(osIdentity_of_evidence hnew).2.1 hcrashed] at hv'
    cases hv'

def ResourcesContinue (old new : List OwnedResourceRecord) : Prop := ∀ r ∈ old, ∃ r' ∈ new, r.Continues r'

theorem ResourcesContinue.refl (rs : List OwnedResourceRecord) : ResourcesContinue rs rs :=
  fun r hr => ⟨r, hr, .refl r⟩

theorem ResourcesContinue.trans {a b c : List OwnedResourceRecord} (hab : ResourcesContinue a b)
    (hbc : ResourcesContinue b c) : ResourcesContinue a c := by
  intro r hr
  obtain ⟨r', hr', h⟩ := hab r hr
  obtain ⟨r'', hr'', h'⟩ := hbc r' hr'
  exact ⟨r'', hr'', h.trans h'⟩

variable {new old : List OwnedResourceRecord} {sha256 : Sha256} {s s' : RuntimeJournalState}

theorem resourcesContinue_of_successor
    (h : validateResourceSuccessor new old = .ok ()) (hold : ∀ r ∈ old, validateResourceEvidence r = .ok ())
    (hnew : ∀ r ∈ new, validateResourceEvidence r = .ok ()) : ResourcesContinue old new := by
  intro r hr
  have hr' := forEach_ok.1 h r hr
  split at hr'
  · cases hr'
  · rename_i r' hfind
    rw [rejectIf_ok, not_not] at hr'
    have hmem := (Keyed.find_mem _ hfind).1
    exact ⟨r', hmem, continues_of_mayBecome hr' (hold r hr) (hnew r' hmem)⟩

theorem resourcesContinue_of_become
    {expected : OwnedResourceRecord → OwnedResourceRecord → Option OwnedResourceRecord}
    (h : resourcesBecome new old expected = true)
    (hexp : ∀ r ∈ old, ∀ r', expected r r' = some r' → r.Continues r') : ResourcesContinue old new := by
  intro r hr
  simp only [resourcesBecome, Bool.and_eq_true, List.all_eq_true] at h
  have hr' := h.2 r hr
  split at hr'
  · cases hr'
  · rename_i r' hfind
    have hmem := (Keyed.find_mem _ hfind).1
    split at hr'
    · exact ⟨r', hmem, by rw [of_decide_eq_true hr']; exact .refl r⟩
    · exact ⟨r', hmem, hexp r hr r' (of_decide_eq_true hr')⟩

theorem resourcesContinue_of_publish {action : JournalActionRef}
    (h : resourcesPublishLiveGeneration new old action = true) : ResourcesContinue old new := by
  simp only [resourcesPublishLiveGeneration, Bool.and_eq_true] at h
  refine resourcesContinue_of_become h.1.1 fun r _ r' hr => ?_
  split at hr
  · cases hr
    exact OwnedResourceRecord.continues_of_move .refl
  · cases hr

theorem resourcesContinue_of_retire {action : JournalActionRef}
    (h : resourcesBeginRetire new old action = true) : ResourcesContinue old new := by
  simp only [resourcesBeginRetire, Bool.and_eq_true] at h
  refine resourcesContinue_of_become h.1.1 fun r _ r' hr => ?_
  split at hr
  · rename_i howned
    cases hr
    exact OwnedResourceRecord.continues_of_move (by rw [howned.1]; exact .single .retire)
  · cases hr

theorem resourcesContinue_of_exactZero {action : Option JournalActionRef}
    (h : resourcesReachExactZero new old action = true) (hold : ∀ r ∈ old, validateResourceEvidence r = .ok ()) :
    ResourcesContinue old new := by
  refine resourcesContinue_of_become h fun r hr r' hr' => ?_
  simp only [Option.bind_eq_bind, Option.bind_eq_some_iff] at hr'
  obtain ⟨a, _, phase, hphase, hr'⟩ := hr'
  split at hr'
  · have hr' := (Option.some.inj hr').symm
    have hmove : ResourcePhase.Moves r.phase phase ∧ r.phase.isTerminal = false := by
      revert hphase
      cases r.phase <;> simp [tombstonedPhase, ResourcePhase.isTerminal]
      · rintro rfl; exact .crash
      · rintro rfl; exact .clean
    have hnone := (osIdentity_of_evidence (hold r hr)).2.2 hmove.2
    rw [hr']
    refine ⟨rfl, rfl, rfl, rfl, .refl _, .refl _, .refl _, fun v hv => ?_, .single hmove.1⟩
    rw [hnone] at hv
    cases hv
  · cases hr'

/-! ## One transaction -/

/-- The pinned facts of a host: everything but the two generations and the admission ledgers. -/
def HostClockAdmissionState.pinned (h : HostClockAdmissionState) : HostClockAdmissionState :=
  { h with
    runtimeHostEpochHighWater := 0
    clockGenerationHighWater := 0
    tenureNonces := []
    requestNonces := []
    temporalLineages := [] }

structure Advances (s s' : RuntimeJournalState) : Prop where
  restart : s'.lastTransaction = .startupInvalidation →
    s'.host.runtimeHostEpochHighWater = s.host.runtimeHostEpochHighWater + 1 ∧
      s'.host.clockGenerationHighWater = s.host.clockGenerationHighWater + 1
  noRestart : s'.lastTransaction ≠ .startupInvalidation →
    s'.host.runtimeHostEpochHighWater = s.host.runtimeHostEpochHighWater ∧
      s'.host.clockGenerationHighWater = s.host.clockGenerationHighWater
  tenure : s'.lastTransaction = .tenureOnly → ∃ fence, s'.writerFence = some fence ∧
    ∀ old, s.writerFence = some old → old.epoch < fence.epoch
  noTenure : s'.lastTransaction ≠ .tenureOnly → s'.writerFence = s.writerFence
  admission : s'.lastTransaction = .fullAdmission → ∃ highWater, s'.sourceRevisionHighWater = some highWater ∧
    ∀ old, s.sourceRevisionHighWater = some old → old.revision < highWater.revision
  noAdmission : s'.lastTransaction ≠ .fullAdmission → s'.sourceRevisionHighWater = s.sourceRevisionHighWater

theorem Transition.advances (h : Transition sha256 s s') : Advances s s' := by
  cases h with
  | startupInvalidation =>
    exact ⟨fun _ => ⟨rfl, rfl⟩, fun hne => absurd rfl hne, fun h => (nomatch h), fun _ => rfl, fun h => (nomatch h),
      fun _ => rfl⟩
  | tenureOnly nonces fence _ _ above _ _ =>
    exact ⟨fun h => (nomatch h), fun _ => ⟨rfl, rfl⟩, fun _ => ⟨fence, rfl, fun old hold => (above old hold).2⟩,
      fun hne => absurd rfl hne, fun h => (nomatch h), fun _ => rfl⟩
  | fullAdmission _ _ _ highWater _ _ _ _ _ _ _ _ _ _ _ _ above _ _ =>
    exact ⟨fun h => (nomatch h), fun _ => ⟨rfl, rfl⟩, fun h => (nomatch h), fun _ => rfl,
      fun _ => ⟨highWater, rfl, above⟩, fun hne => absurd rfl hne⟩
  | _ =>
    exact ⟨fun h => (nomatch h), fun _ => ⟨rfl, rfl⟩, fun h => (nomatch h), fun _ => rfl, fun h => (nomatch h),
      fun _ => rfl⟩

structure Extends (s s' : RuntimeJournalState) : Prop where
  pinned : s'.host.pinned = s.host.pinned
  epoch : s.host.runtimeHostEpochHighWater ≤ s'.host.runtimeHostEpochHighWater
  generation : s.host.clockGenerationHighWater ≤ s'.host.clockGenerationHighWater
  fence : ∀ old, s.writerFence = some old → ∃ fence, s'.writerFence = some fence ∧ old.epoch ≤ fence.epoch
  highWater : ∀ old, s.sourceRevisionHighWater = some old →
    ∃ highWater, s'.sourceRevisionHighWater = some highWater ∧ old.revision ≤ highWater.revision
  tenureNonces : ∀ record ∈ s.host.tenureNonces, record ∈ s'.host.tenureNonces
  requestNonces : ∀ record ∈ s.host.requestNonces, record ∈ s'.host.requestNonces
  temporalLineages : ∀ record ∈ s.host.temporalLineages, record ∈ s'.host.temporalLineages
  terminalOperations : ∀ t ∈ s.terminalOperations, t ∈ s'.terminalOperations
  recoveryTerminals : ∀ t ∈ s.recoveryTerminals, t ∈ s'.recoveryTerminals
  resources : ResourcesContinue s.ownedResources s'.ownedResources

theorem Extends.refl (s : RuntimeJournalState) : Extends s s :=
  ⟨rfl, le_rfl, le_rfl, fun old h => ⟨old, h, le_rfl⟩, fun old h => ⟨old, h, le_rfl⟩, fun _ h => h, fun _ h => h,
    fun _ h => h, fun _ h => h, fun _ h => h, .refl _⟩

theorem Extends.trans {a b c : RuntimeJournalState} (hab : Extends a b) (hbc : Extends b c) : Extends a c where
  pinned := hbc.pinned.trans hab.pinned
  epoch := hab.epoch.trans hbc.epoch
  generation := hab.generation.trans hbc.generation
  fence old h := by
    obtain ⟨f, hf, hle⟩ := hab.fence old h
    obtain ⟨f', hf', hle'⟩ := hbc.fence f hf
    exact ⟨f', hf', hle.trans hle'⟩
  highWater old h := by
    obtain ⟨w, hw, hle⟩ := hab.highWater old h
    obtain ⟨w', hw', hle'⟩ := hbc.highWater w hw
    exact ⟨w', hw', hle.trans hle'⟩
  tenureNonces record h := hbc.tenureNonces record (hab.tenureNonces record h)
  requestNonces record h := hbc.requestNonces record (hab.requestNonces record h)
  temporalLineages record h := hbc.temporalLineages record (hab.temporalLineages record h)
  terminalOperations t h := hbc.terminalOperations t (hab.terminalOperations t h)
  recoveryTerminals t h := hbc.recoveryTerminals t (hab.recoveryTerminals t h)
  resources := hab.resources.trans hbc.resources

theorem Transition.pinned (h : Transition sha256 s s') : s'.host.pinned = s.host.pinned := by
  cases h <;> rfl

theorem Transition.tenureNonces (h : Transition sha256 s s') :
    ∀ record ∈ s.host.tenureNonces, record ∈ s'.host.tenureNonces := by
  cases h with
  | tenureOnly nonces fence _ preserved _ _ _ => exact Keyed.recordsPreserved_mem _ preserved
  | _ => exact fun _ h => h

theorem Transition.requestNonces (h : Transition sha256 s s') :
    ∀ record ∈ s.host.requestNonces, record ∈ s'.host.requestNonces := by
  cases h with
  | fullAdmission _ _ _ _ _ _ _ _ _ _ _ _ noncePreserved _ _ _ _ _ _ =>
    exact Keyed.recordsPreserved_mem _ noncePreserved
  | _ => exact fun _ h => h

theorem Transition.temporalLineages (h : Transition sha256 s s') :
    ∀ record ∈ s.host.temporalLineages, record ∈ s'.host.temporalLineages := by
  cases h with
  | fullAdmission _ _ _ _ _ _ _ _ _ _ _ _ _ temporalPreserved _ _ _ _ _ =>
    exact Keyed.recordsPreserved_mem _ temporalPreserved
  | _ => exact fun _ h => h

theorem Transition.terminalOperations (h : Transition sha256 s s') :
    ∀ t ∈ s.terminalOperations, t ∈ s'.terminalOperations := by
  cases h with
  | startPublished _ _ _ _ _ _ _ _ _ appends => exact Keyed.recordsPreserved_mem _ appends.preserved
  | startClosed _ _ _ _ _ _ _ _ appends => exact Keyed.recordsPreserved_mem _ appends.preserved
  | exactZeroTerminal _ _ _ _ _ _ _ _ appends => exact Keyed.recordsPreserved_mem _ appends.preserved
  | operationTerminalNoEffects _ _ _ _ appends => exact Keyed.recordsPreserved_mem _ appends.preserved
  | _ => exact fun _ h => h

theorem AppendsRecovery.mem {terminals previous : List RecoveryTerminalRecord} {r : RecoveryAction}
    {t : RecoveryTerminalRecord} (h : AppendsRecovery terminals previous r t) : ∀ x ∈ previous, x ∈ terminals := by
  intro x hx
  rw [h.eq]
  exact List.mem_append_left _ hx

theorem Transition.recoveryTerminals (h : Transition sha256 s s') :
    ∀ t ∈ s.recoveryTerminals, t ∈ s'.recoveryTerminals := by
  cases h with
  | recoveryPublished _ _ _ _ _ _ appends => exact appends.mem
  | recoveryFailed _ _ _ _ _ _ _ _ appends => exact appends.mem
  | recoveryAbortNoEffects _ _ _ _ appends => exact appends.mem
  | _ => exact fun _ h => h

theorem Transition.resources (h : Transition sha256 s s')
    (hs : ∀ r ∈ s.ownedResources, validateResourceEvidence r = .ok ())
    (hs' : ∀ r ∈ s'.ownedResources, validateResourceEvidence r = .ok ()) :
    ResourcesContinue s.ownedResources s'.ownedResources := by
  cases h with
  | resourceProgress _ _ successor => exact resourcesContinue_of_successor successor hs hs'
  | startPublished => exact resourcesContinue_of_publish ‹_›
  | startClosed _ _ _ _ _ _ _ _ _ _ _ _ _ _ _ _ _ zero => exact resourcesContinue_of_exactZero zero hs
  | emptyHeadRetire => exact resourcesContinue_of_retire ‹_›
  | exactZeroTerminal => exact resourcesContinue_of_exactZero ‹_› hs
  | recoveryPublished => exact resourcesContinue_of_publish ‹_›
  | recoveryFailed => exact resourcesContinue_of_exactZero ‹_› hs
  | _ => exact .refl _

theorem Advances.le (h : Advances s s') : s.host.runtimeHostEpochHighWater ≤ s'.host.runtimeHostEpochHighWater ∧
      s.host.clockGenerationHighWater ≤ s'.host.clockGenerationHighWater := by
  by_cases hr : s'.lastTransaction = .startupInvalidation
  · obtain ⟨he, hg⟩ := h.restart hr
    rw [he, hg]
    exact ⟨Nat.le_succ _, Nat.le_succ _⟩
  · obtain ⟨he, hg⟩ := h.noRestart hr
    rw [he, hg]
    exact ⟨le_rfl, le_rfl⟩

theorem Advances.fence_le (h : Advances s s') : ∀ old, s.writerFence = some old →
    ∃ fence, s'.writerFence = some fence ∧ old.epoch ≤ fence.epoch := by
  intro old hold
  by_cases ht : s'.lastTransaction = .tenureOnly
  · obtain ⟨fence, hfence, habove⟩ := h.tenure ht
    exact ⟨fence, hfence, (habove old hold).le⟩
  · exact ⟨old, by rw [h.noTenure ht, hold], le_rfl⟩

theorem Advances.highWater_le (h : Advances s s') : ∀ old, s.sourceRevisionHighWater = some old →
      ∃ highWater, s'.sourceRevisionHighWater = some highWater ∧ old.revision ≤ highWater.revision := by
  intro old hold
  by_cases ha : s'.lastTransaction = .fullAdmission
  · obtain ⟨highWater, hhigh, habove⟩ := h.admission ha
    exact ⟨highWater, hhigh, (habove old hold).le⟩
  · exact ⟨old, by rw [h.noAdmission ha, hold], le_rfl⟩

namespace RuntimeJournalSnapshot

theorem Step.extends {c : Contracts} {a b : RuntimeJournalSnapshot} (ha : a.Built c) (h : Step c a b) :
    Extends a.state b.state where
  pinned := h.transition.pinned
  epoch := h.transition.advances.le.1
  generation := h.transition.advances.le.2
  fence := h.transition.advances.fence_le
  highWater := h.transition.advances.highWater_le
  tenureNonces := h.transition.tenureNonces
  requestNonces := h.transition.requestNonces
  temporalLineages := h.transition.temporalLineages
  terminalOperations := h.transition.terminalOperations
  recoveryTerminals := h.transition.recoveryTerminals
  resources := h.transition.resources (fun r hr => (ha.valid.resources r hr).evidence)
    (fun r hr => (h.built.valid.resources r hr).evidence)

theorem Chain.extends {c : Contracts} {a b : RuntimeJournalSnapshot} (ha : a.Built c) (h : Chain c a b) :
    b.storeInstanceId = a.storeInstanceId ∧ b.ownerTargetFingerprint = a.ownerTargetFingerprint ∧
      Extends a.state b.state := by
  induction h with
  | refl => exact ⟨rfl, rfl, .refl _⟩
  | tail hchain hstep ih =>
    obtain ⟨hstore, howner, hext⟩ := ih
    have hext' := hstep.extends (Chain.built ha hchain)
    exact ⟨hstep.facts.store.trans hstore, hstep.facts.owner.trans howner, hext.trans hext'⟩

/-- **The journal is append-only and monotone**: from any snapshot of a chain that starts at `try_initialize` to any
later one the store, the owner target and the pinned facts are equal and the history is kept, and each further accepted
step moves the generations, the fence and the high water only in their own transactions. -/
theorem history_append_only {c : Contracts} {first a b : RuntimeJournalSnapshot} (hfirst : Initial c first)
    (ha : Chain c first a) (hb : Chain c a b) :
    (b.storeInstanceId = a.storeInstanceId ∧ b.ownerTargetFingerprint = a.ownerTargetFingerprint ∧
      Extends a.state b.state) ∧ ∀ next, Step c b next → Advances b.state next.state :=
  ⟨Chain.extends (Chain.built hfirst.built ha) hb, fun _ hstep => hstep.transition.advances⟩

theorem history_append_only_interrupted : ∃ run, Sample.interruptedRun = .ok run ∧
    run.last.storeInstanceId = run.mid.storeInstanceId ∧ Extends run.mid.state run.last.state := by
  obtain ⟨run, hrun, hfirst, hmid, hcut, hlast, _⟩ := Sample.interruptedRun_ok
  have h := history_append_only hfirst (runBuilders_chain hmid)
    (.head (Builder.call_step hcut) (.single (Builder.call_step hlast)))
  exact ⟨run, hrun, h.1.1, h.1.2.2⟩

end RuntimeJournalSnapshot

end Journal
end ParaEgox
