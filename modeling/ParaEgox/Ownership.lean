import ParaEgox.Keyed
import ParaEgox.Recovery
import Mathlib.Data.Prod.Lex

/-!
# Ownership — observations of a process domain, and the loss of its generation

A registry builds an observation from what its owner saw, in any order.  The loss of a fenced generation classifies the
invocations that had crossed into it; its cleanup is proved against a later observation of the same generation.
-/
namespace ParaEgox
namespace Ownership

open Check
open Recovery (ProcessGenerationIdentity SideEffectClass ProcessInvocationLoss ProcessLossLineage ProcessLossObservation
  ProcessCleanupCensus ProcessCleanupProof)

def maxTargetAssignments : Nat := 256
def maxObservedInvocations : Nat := maxTargetAssignments * 64

inductive RuntimeOwnershipError
  | domainCapacityExceeded
  | instanceCapacityExceeded
  | invocationCapacityExceeded
  | processTreeCapacityExceeded
  | retainedByteCapacityExceeded
  | duplicateDomain
  | duplicateInstance
  | duplicateInvocation
  | hostIdentityMismatch
  | admissionFenceIdentityMismatch
  | lossSnapshotNotFenced
  | cleanupLineageMismatch
  | cleanupOwnershipNotSettled
  | cleanupInvocationMismatch
  | counterOverflow
  | cleanupNotExactZero

inductive ProcessOwnershipLifecycle
  | starting
  | live
  | closing
  | quarantined

/-- Admission is closed: `Closing | Quarantined`. -/
def ProcessOwnershipLifecycle.fenced : ProcessOwnershipLifecycle → Bool
  | .closing | .quarantined => true
  | .starting | .live => false

inductive ProcessInvocationOwnershipStage
  | admitted
  | handoffStarted
  | started
  | cancellationRequested
  | terminalDelivered
  | uncertain
  deriving DecidableEq

def ProcessInvocationOwnershipStage.crossedHandoff : ProcessInvocationOwnershipStage → Bool
  | .admitted | .terminalDelivered => false
  | .handoffStarted | .started | .cancellationRequested | .uncertain => true

def ProcessInvocationOwnershipStage.requiresLossClassification (stage : ProcessInvocationOwnershipStage) : Bool :=
  stage.crossedHandoff

structure ProcessInvocationOwnership where
  invocation : U64
  stage : ProcessInvocationOwnershipStage
  sideEffect : SideEffectClass
  ipcCreditHeld : Bool
  retainedBytes : U64

/-- Two neighbours of a sorted list have one key: `windows(2)`. -/
def hasRepeat {α κ : Type} [DecidableEq κ] (key : α → κ) (xs : List α) : Prop := ∃ p ∈ xs.zip xs.tail, key p.1 = key p.2

instance {α κ : Type} [DecidableEq κ] (key : α → κ) (xs : List α) : Decidable (hasRepeat key xs) :=
  inferInstanceAs (Decidable (∃ p ∈ xs.zip xs.tail, key p.1 = key p.2))

theorem ascending_of_not_hasRepeat {α κ : Type} [LinearOrder κ] {key : α → κ} {xs : List α}
    (h : ¬ hasRepeat key (Keyed.sortBy key xs)) : Keyed.Ascending key (Keyed.sortBy key xs) :=
  Keyed.ascending_of_sorted key (Keyed.sortBy_pairwise key xs) fun p hp heq => h ⟨p, hp, heq⟩

/-- `sort_by_key` and the check for repeats after it. -/
def sortDistinct {α κ : Type} [LinearOrder κ] (key : α → κ) (repeated : RuntimeOwnershipError) (xs : List α) :
    Except RuntimeOwnershipError { ys : List α // Keyed.Ascending key ys } :=
  if h : hasRepeat key (Keyed.sortBy key xs) then .error repeated
  else .ok ⟨Keyed.sortBy key xs, ascending_of_not_hasRepeat h⟩

structure ProcessInstanceOwnership where
  «instance» : Ref16
  generation : U64
  invocations : List ProcessInvocationOwnership
  ascending : Keyed.Ascending ProcessInvocationOwnership.invocation invocations

def ProcessInstanceOwnership.tryNew (ref : Ref16) (generation : U64) (invocations : List ProcessInvocationOwnership) :
    Except RuntimeOwnershipError ProcessInstanceOwnership := do
  rejectIf (maxObservedInvocations < invocations.length) .invocationCapacityExceeded
  let sorted ← sortDistinct ProcessInvocationOwnership.invocation .duplicateInvocation invocations
  pure ⟨ref, generation, sorted.1, sorted.2⟩

structure ProcessOwnershipLimits where
  maxOutstanding : Nat
  maxIpcCreditItems : Nat
  maxRetainedBytes : U64
  maxProcessTreeMembers : Nat

structure OwnershipCounts where
  outstanding : Nat := 0
  heldIpcCredits : Nat := 0
  retainedBytes : U64 := 0

def OwnershipCounts.creditsWith (counts : OwnershipCounts) (invocation : ProcessInvocationOwnership) :
    Except RuntimeOwnershipError Nat :=
  if invocation.ipcCreditHeld then toU32 (counts.heldIpcCredits + 1) .counterOverflow else .ok counts.heldIpcCredits

def OwnershipCounts.add (counts : OwnershipCounts) (invocation : ProcessInvocationOwnership) :
    Except RuntimeOwnershipError OwnershipCounts := do
  let outstanding ← toU32 (counts.outstanding + 1) .counterOverflow
  let heldIpcCredits ← counts.creditsWith invocation
  let retainedBytes ← addU64 counts.retainedBytes invocation.retainedBytes .counterOverflow
  pure { outstanding, heldIpcCredits, retainedBytes }

def countInvocations (instances : List ProcessInstanceOwnership) : Except RuntimeOwnershipError OwnershipCounts :=
  scan OwnershipCounts.add {} (instances.flatMap (·.invocations))

/-- An observation of one generation: its instances strictly ascending, and what they add up to. -/
structure ProcessDomainOwnership where
  identity : ProcessGenerationIdentity
  lifecycle : ProcessOwnershipLifecycle
  processTreeMembers : Nat
  instances : List ProcessInstanceOwnership
  counts : OwnershipCounts
  ascending : Keyed.Ascending ProcessInstanceOwnership.instance instances
  counted : countInvocations instances = .ok counts

/-- `try_new` once the instances are in order. -/
def ProcessDomainOwnership.ofSorted (identity : ProcessGenerationIdentity) (lifecycle : ProcessOwnershipLifecycle)
    (processTreeMembers : Nat) (limits : ProcessOwnershipLimits) (instances : List ProcessInstanceOwnership)
    (ascending : Keyed.Ascending ProcessInstanceOwnership.instance instances) :
    Except RuntimeOwnershipError ProcessDomainOwnership :=
  match hcounts : countInvocations instances with
  | .error e => .error e
  | .ok counts => do
    rejectIf (limits.maxOutstanding < counts.outstanding ∨ limits.maxIpcCreditItems < counts.heldIpcCredits)
      .invocationCapacityExceeded
    rejectIf (limits.maxRetainedBytes < counts.retainedBytes) .retainedByteCapacityExceeded
    pure { identity, lifecycle, processTreeMembers, instances, counts, ascending, counted := hcounts }

def ProcessDomainOwnership.tryNew (identity : ProcessGenerationIdentity) (lifecycle : ProcessOwnershipLifecycle)
    (processTreeMembers : Nat) (limits : ProcessOwnershipLimits) (instances : List ProcessInstanceOwnership) :
    Except RuntimeOwnershipError ProcessDomainOwnership := do
  rejectIf (instances = [] ∨ maxTargetAssignments < instances.length) .instanceCapacityExceeded
  rejectIf (limits.maxProcessTreeMembers < processTreeMembers) .processTreeCapacityExceeded
  let sorted ← sortDistinct ProcessInstanceOwnership.instance .duplicateInstance instances
  ProcessDomainOwnership.ofSorted identity lifecycle processTreeMembers limits sorted.1 sorted.2

/-! ## Loss and cleanup -/

structure ProcessAdmissionGate where
  identity : ProcessGenerationIdentity

structure ProcessAdmissionFence where
  identity : ProcessGenerationIdentity

def ProcessAdmissionGate.fence (gate : ProcessAdmissionGate) : ProcessAdmissionFence := ⟨gate.identity⟩

structure ProcessCleanupAuthority where
  lineage : ProcessLossLineage
  uncertainInvocations : List ProcessInvocationLoss

structure ProcessLossBundle where
  observation : ProcessLossObservation
  cleanupAuthority : ProcessCleanupAuthority

structure ProcessCleanupReadyAuthority where
  lineage : ProcessLossLineage

abbrev Entry := ProcessInstanceOwnership × ProcessInvocationOwnership

def ProcessDomainOwnership.entries (o : ProcessDomainOwnership) : List Entry :=
  o.instances.flatMap fun i => i.invocations.map (i, ·)

def lossOf (entry : Entry) : ProcessInvocationLoss where
  «instance» := entry.1.instance
  generation := entry.1.generation
  invocation := entry.2.invocation
  sideEffect := entry.2.sideEffect

def ProcessAdmissionFence.observeProcessLoss (fence : ProcessAdmissionFence) (expected : Bool)
    (ownership : ProcessDomainOwnership) : Except RuntimeOwnershipError ProcessLossBundle := do
  rejectIf (ownership.identity ≠ fence.identity) .admissionFenceIdentityMismatch
  rejectIf (ownership.lifecycle.fenced = false) .lossSnapshotNotFenced
  let uncertainInvocations := (ownership.entries.filter (·.2.stage.requiresLossClassification)).map lossOf
  let crossedHandoffs ← toU32 uncertainInvocations.length .counterOverflow
  let lineage : ProcessLossLineage :=
    { identity := fence.identity
      snapshotProcessTreeMembers := ownership.processTreeMembers
      snapshotOutstanding := ownership.counts.outstanding
      snapshotHeldIpcCredits := ownership.counts.heldIpcCredits
      snapshotRetainedBytes := ownership.counts.retainedBytes
      crossedHandoffs
      classifiedHandoffs := crossedHandoffs
      externalEffectUncertain := uncertainInvocations.any (·.sideEffect ≠ .effectFree) }
  pure
    { observation := { lineage, expected, uncertainInvocations }
      cleanupAuthority := { lineage, uncertainInvocations } }

/-- Nothing of the invocation is live any more: its record of uncertainty alone remains. -/
def ProcessInvocationOwnership.Settled (v : ProcessInvocationOwnership) : Prop :=
  v.stage = .uncertain ∧ v.ipcCreditHeld = false ∧ v.retainedBytes = 0

instance : DecidablePred ProcessInvocationOwnership.Settled := fun v =>
  inferInstanceAs (Decidable (v.stage = .uncertain ∧ v.ipcCreditHeld = false ∧ v.retainedBytes = 0))

def settle (entry : Entry) : Except RuntimeOwnershipError ProcessInvocationLoss := do
  rejectIf (¬ entry.2.Settled) .cleanupOwnershipNotSettled
  pure (lossOf entry)

def ProcessCleanupAuthority.validateReconcile (authority : ProcessCleanupAuthority) (ownership : ProcessDomainOwnership) :
    Except RuntimeOwnershipError Unit := do
  rejectIf (ownership.identity ≠ authority.lineage.identity) .cleanupLineageMismatch
  rejectIf (ownership.lifecycle.fenced = false ∨ ownership.processTreeMembers ≠ 0) .cleanupOwnershipNotSettled
  let settled ← collect settle ownership.entries
  rejectIf (settled ≠ authority.uncertainInvocations) .cleanupInvocationMismatch

def ProcessCleanupAuthority.reconcile (authority : ProcessCleanupAuthority) (ownership : ProcessDomainOwnership) :
    Except RuntimeOwnershipError ProcessCleanupReadyAuthority := do
  authority.validateReconcile ownership
  pure ⟨authority.lineage⟩

def isExactZero (census : ProcessCleanupCensus) : Bool :=
  census.leaderReaped && census.liveProcessTreeMembers == 0 && census.openIpcHandles == 0
    && census.outstandingIpcCredits == 0 && census.retainedBytes == 0 && census.workspaceEntries == 0
    && census.registeredResources == 0

def ProcessCleanupReadyAuthority.tryProve (ready : ProcessCleanupReadyAuthority) (census : ProcessCleanupCensus) :
    Except RuntimeOwnershipError ProcessCleanupProof := do
  rejectIf (isExactZero census = false) .cleanupNotExactZero
  pure { lineage := ready.lineage, census }

/-! ## The order an observation was built in -/

theorem hasRepeat_map {α κ : Type} [DecidableEq κ] (key : α → κ) (xs : List α) :
    hasRepeat id (xs.map key) ↔ hasRepeat key xs := by
  have hzip : (xs.map key).zip (xs.map key).tail = (xs.zip xs.tail).map (Prod.map key key) := by
    rw [← List.map_tail, List.zip_map]
  have hmem : ∀ p, p ∈ (xs.map key).zip (xs.map key).tail ↔ ∃ q ∈ xs.zip xs.tail, (key q.1, key q.2) = p := by
    intro p
    rw [hzip, List.mem_map]
    rfl
  constructor
  · rintro ⟨p, hp, heq⟩
    obtain ⟨q, hq, rfl⟩ := (hmem p).1 hp
    exact ⟨q, hq, heq⟩
  · rintro ⟨q, hq, heq⟩
    exact ⟨_, (hmem _).2 ⟨q, hq, rfl⟩, heq⟩

theorem hasRepeat_of_perm {α κ : Type} [LinearOrder κ] (key : α → κ) {xs ys : List α} (hp : xs.Perm ys) :
    hasRepeat key (Keyed.sortBy key xs) ↔ hasRepeat key (Keyed.sortBy key ys) := by
  rw [← hasRepeat_map, Keyed.map_sortBy_of_perm key hp, hasRepeat_map]

theorem sortDistinct_of_perm {α κ : Type} [LinearOrder κ] (key : α → κ) (repeated : RuntimeOwnershipError) {xs ys : List α}
    (hp : xs.Perm ys) : sortDistinct key repeated xs = sortDistinct key repeated ys := by
  have hiff := hasRepeat_of_perm key hp
  unfold sortDistinct
  by_cases h : hasRepeat key (Keyed.sortBy key xs)
  · rw [dif_pos h, dif_pos (hiff.1 h)]
  · have h' : ¬ hasRepeat key (Keyed.sortBy key ys) := fun hy => h (hiff.2 hy)
    have hsorted : Keyed.sortBy key xs = Keyed.sortBy key ys := by
      refine (ascending_of_not_hasRepeat h).ext key (ascending_of_not_hasRepeat h') fun a => ?_
      rw [Keyed.mem_sortBy, Keyed.mem_sortBy, hp.mem_iff]
    rw [dif_neg h, dif_neg h']
    exact congrArg Except.ok (Subtype.ext hsorted)

theorem ProcessInstanceOwnership.tryNew_of_perm (ref : Ref16) (generation : U64)
    {xs ys : List ProcessInvocationOwnership} (hp : xs.Perm ys) :
    ProcessInstanceOwnership.tryNew ref generation xs = ProcessInstanceOwnership.tryNew ref generation ys := by
  unfold ProcessInstanceOwnership.tryNew
  rw [hp.length_eq, sortDistinct_of_perm _ _ hp]

theorem ProcessDomainOwnership.tryNew_of_perm (identity : ProcessGenerationIdentity) (lifecycle : ProcessOwnershipLifecycle)
    (members : Nat) (limits : ProcessOwnershipLimits) {xs ys : List ProcessInstanceOwnership} (hp : xs.Perm ys) :
    ProcessDomainOwnership.tryNew identity lifecycle members limits xs =
      ProcessDomainOwnership.tryNew identity lifecycle members limits ys := by
  have hempty : xs = [] ↔ ys = [] := ⟨fun h => List.nil_perm.1 (h ▸ hp), fun h => List.perm_nil.1 (h ▸ hp)⟩
  unfold ProcessDomainOwnership.tryNew
  rw [hp.length_eq, sortDistinct_of_perm _ _ hp]
  simp only [hempty]

/-! ## The invocations of an observation -/

variable {o o' : ProcessDomainOwnership}

def Entry.key (entry : Entry) : Ref16 ×ₗ U64 := toLex (entry.1.instance, entry.2.invocation)

def lossKey (loss : ProcessInvocationLoss) : Ref16 ×ₗ U64 := toLex (loss.instance, loss.invocation)

theorem ascending_entries (o : ProcessDomainOwnership) : Keyed.Ascending Entry.key o.entries := by
  refine List.pairwise_flatMap.2 ⟨fun i _ => ?_, ?_⟩
  · -- within one instance the invocations ascend
    refine List.pairwise_map.2 (i.ascending.imp fun hlt => ?_)
    exact Prod.Lex.toLex_lt_toLex.2 (.inr ⟨rfl, hlt⟩)
  · refine o.ascending.imp fun hlt => ?_
    rintro _ hx _ hy
    obtain ⟨v, -, rfl⟩ := List.mem_map.1 hx
    obtain ⟨w, -, rfl⟩ := List.mem_map.1 hy
    exact Prod.Lex.toLex_lt_toLex.2 (.inl hlt)

theorem ascending_losses {entries : List Entry} (h : entries.Sublist o.entries) :
    Keyed.Ascending lossKey (entries.map lossOf) :=
  List.pairwise_map.2 ((ascending_entries o).sublist h)

theorem mem_entries {entry : Entry} : entry ∈ o.entries ↔ entry.1 ∈ o.instances ∧ entry.2 ∈ entry.1.invocations := by
  unfold ProcessDomainOwnership.entries
  simp only [List.mem_flatMap, List.mem_map]
  constructor
  · rintro ⟨i, hi, v, hv, rfl⟩
    exact ⟨hi, hv⟩
  · rintro ⟨hi, hv⟩
    exact ⟨entry.1, hi, entry.2, hv, rfl⟩

theorem OwnershipCounts.add_outstanding {counts counts' : OwnershipCounts} {v : ProcessInvocationOwnership}
    (h : counts.add v = .ok counts') : counts'.outstanding = counts.outstanding + 1 ∧ counts'.outstanding ≤ u32Max := by
  unfold OwnershipCounts.add at h
  simp only [bind_ok, toU32_ok, pure_ok] at h
  obtain ⟨n, ⟨hmax, rfl⟩, held, -, bytes, -, rfl⟩ := h
  exact ⟨rfl, hmax⟩

theorem scan_add_outstanding : ∀ {xs : List ProcessInvocationOwnership} {counts counts' : OwnershipCounts},
    scan OwnershipCounts.add counts xs = .ok counts' → counts.outstanding ≤ u32Max →
      counts'.outstanding = counts.outstanding + xs.length ∧ counts'.outstanding ≤ u32Max
  | [], _, _, h, hmax => by
    cases h
    exact ⟨rfl, hmax⟩
  | v :: xs, counts, counts', h, _ => by
    obtain ⟨mid, hadd, hrest⟩ := (scan_ok_cons _ _ _ _ _).1 h
    obtain ⟨hone, hmid⟩ := OwnershipCounts.add_outstanding hadd
    obtain ⟨hall, hmax⟩ := scan_add_outstanding hrest hmid
    refine ⟨?_, hmax⟩
    rw [hall, hone, List.length_cons]
    omega

theorem entries_length_le (o : ProcessDomainOwnership) : o.entries.length ≤ u32Max := by
  obtain ⟨hall, hmax⟩ := scan_add_outstanding o.counted (Nat.zero_le _)
  have hentries : (o.instances.flatMap (·.invocations)).length = o.entries.length := by
    simp [ProcessDomainOwnership.entries, List.length_flatMap]
  rw [← hentries]
  have hzero : ({} : OwnershipCounts).outstanding = 0 := rfl
  omega

variable {identity : ProcessGenerationIdentity} {lifecycle : ProcessOwnershipLifecycle} {members : Nat}
  {limits : ProcessOwnershipLimits} {instances : List ProcessInstanceOwnership}

theorem ProcessDomainOwnership.ofSorted_ok {ascending : Keyed.Ascending ProcessInstanceOwnership.instance instances}
    (h : ProcessDomainOwnership.ofSorted identity lifecycle members limits instances ascending = .ok o) :
    o.identity = identity ∧ o.instances = instances := by
  unfold ProcessDomainOwnership.ofSorted at h
  split at h
  · cases h
  · simp only [bind_ok, rejectIf_ok, exists_unit, pure_ok] at h
    obtain ⟨-, -, rfl⟩ := h
    exact ⟨rfl, rfl⟩

theorem ProcessDomainOwnership.tryNew_ok
    (h : ProcessDomainOwnership.tryNew identity lifecycle members limits instances = .ok o) :
    o.identity = identity ∧ ∀ i, i ∈ o.instances ↔ i ∈ instances := by
  unfold ProcessDomainOwnership.tryNew at h
  simp only [bind_ok, rejectIf_ok, exists_unit] at h
  obtain ⟨-, -, sorted, hsorted, hdomain⟩ := h
  unfold sortDistinct at hsorted
  split at hsorted
  · cases hsorted
  · cases hsorted
    obtain ⟨hidentity, hinstances⟩ := ProcessDomainOwnership.ofSorted_ok hdomain
    exact ⟨hidentity, fun i => hinstances ▸ Keyed.mem_sortBy _⟩

/-! ## What a loss classifies, and what its cleanup accepts -/

/-- The losses that are classified when the generation of `o` is lost. -/
def classified (o : ProcessDomainOwnership) : List ProcessInvocationLoss :=
  (o.entries.filter (·.2.stage.requiresLossClassification)).map lossOf

theorem mem_classified {loss : ProcessInvocationLoss} : loss ∈ classified o ↔
    ∃ i ∈ o.instances, ∃ v ∈ i.invocations, v.stage.requiresLossClassification = true ∧ loss = lossOf (i, v) := by
  simp only [classified, List.mem_map, List.mem_filter, mem_entries]
  constructor
  · rintro ⟨⟨i, v⟩, ⟨⟨hi, hv⟩, hstage⟩, rfl⟩
    exact ⟨i, hi, v, hv, hstage, rfl⟩
  · rintro ⟨i, hi, v, hv, hstage, rfl⟩
    exact ⟨(i, v), ⟨⟨hi, hv⟩, hstage⟩, rfl⟩

theorem ascending_classified (o : ProcessDomainOwnership) : Keyed.Ascending lossKey (classified o) :=
  ascending_losses (List.filter_sublist)

/-- **A fenced generation's loss classifies what had crossed**; counting it never overflows. -/
theorem observeProcessLoss_ok (expected : Bool) (hfenced : o.lifecycle.fenced = true) :
    ∃ lineage : ProcessLossLineage,
      ProcessAdmissionFence.observeProcessLoss ⟨o.identity⟩ expected o =
        .ok ⟨⟨lineage, expected, classified o⟩, ⟨lineage, classified o⟩⟩ ∧
      lineage.identity = o.identity ∧
      lineage.externalEffectUncertain = (classified o).any (·.sideEffect ≠ .effectFree) := by
  have hlength : (classified o).length ≤ u32Max := by
    refine le_trans ?_ (entries_length_le o)
    rw [classified, List.length_map]
    exact List.length_filter_le _ _
  have hcount : toU32 (classified o).length RuntimeOwnershipError.counterOverflow = .ok (classified o).length :=
    toU32_ok.2 ⟨hlength, rfl⟩
  unfold ProcessAdmissionFence.observeProcessLoss
  rw [rejectIf_neg (by simp), rejectIf_neg (by simp [hfenced])]
  dsimp only [bind, Except.bind]
  rw [classified] at hcount
  rw [hcount]
  exact ⟨_, rfl, rfl, rfl⟩

def AllSettled (o : ProcessDomainOwnership) : Prop := ∀ i ∈ o.instances, ∀ v ∈ i.invocations, v.Settled

theorem collect_settle_ok {losses : List ProcessInvocationLoss} :
    collect settle o.entries = .ok losses ↔ AllSettled o ∧ losses = o.entries.map lossOf := by
  have hsettle : ∀ {entry : Entry}, entry.2.Settled → settle entry = .ok (lossOf entry) := fun h => by
    unfold settle
    rw [rejectIf_neg (not_not.2 h)]
    rfl
  have hcollect : AllSettled o → collect settle o.entries = .ok (o.entries.map lossOf) := fun h =>
    collect_map fun entry hentry => hsettle (h _ (mem_entries.1 hentry).1 _ (mem_entries.1 hentry).2)
  constructor
  · intro h
    have hall : AllSettled o := by
      intro i hi v hv
      obtain ⟨loss, hloss⟩ := collect_ok_mem h (i, v) (mem_entries.2 ⟨hi, hv⟩)
      unfold settle at hloss
      simp only [bind_ok, rejectIf_ok, exists_unit, not_not] at hloss
      exact hloss.1
    refine ⟨hall, ?_⟩
    rw [hcollect hall] at h
    exact (Except.ok.inj h).symm
  · rintro ⟨hall, rfl⟩
    exact hcollect hall

/-- **A cleanup accepts an observation exactly when it is settled and lists the losses.** -/
theorem validateReconcile_ok {authority : ProcessCleanupAuthority} :
    authority.validateReconcile o' = .ok () ↔
      o'.identity = authority.lineage.identity ∧ o'.lifecycle.fenced = true ∧ o'.processTreeMembers = 0 ∧
        AllSettled o' ∧ o'.entries.map lossOf = authority.uncertainInvocations := by
  unfold ProcessCleanupAuthority.validateReconcile
  simp only [bind_ok, rejectIf_ok, exists_unit, collect_settle_ok, not_or, not_not, Bool.not_eq_false]
  constructor
  · rintro ⟨hidentity, ⟨hfenced, hmembers⟩, losses, ⟨hsettled, rfl⟩, hlosses⟩
    exact ⟨hidentity, hfenced, hmembers, hsettled, hlosses⟩
  · rintro ⟨hidentity, hfenced, hmembers, hsettled, hlosses⟩
    exact ⟨hidentity, ⟨hfenced, hmembers⟩, _, ⟨hsettled, rfl⟩, hlosses⟩

theorem losses_eq_iff {o o' : ProcessDomainOwnership} : o'.entries.map lossOf = classified o ↔
    ∀ loss, (∃ i ∈ o'.instances, ∃ v ∈ i.invocations, loss = lossOf (i, v)) ↔ loss ∈ classified o := by
  have hmem : ∀ loss, loss ∈ o'.entries.map lossOf ↔ ∃ i ∈ o'.instances, ∃ v ∈ i.invocations, loss = lossOf (i, v) := by
    intro loss
    simp only [List.mem_map, mem_entries]
    constructor
    · rintro ⟨⟨i, v⟩, ⟨hi, hv⟩, rfl⟩
      exact ⟨i, hi, v, hv, rfl⟩
    · rintro ⟨i, hi, v, hv, rfl⟩
      exact ⟨(i, v), ⟨hi, hv⟩, rfl⟩
  constructor
  · intro heq loss
    rw [← hmem, heq]
  · intro hsame
    refine (ascending_losses (List.Sublist.refl _)).ext lossKey (ascending_classified o) fun loss => ?_
    rw [hmem, hsame]

/-- A proof comes from an authority whose cleanup was accepted, and carries its lineage and the census it was shown. -/
theorem proof_of_reconcile {authority : ProcessCleanupAuthority} {ready : ProcessCleanupReadyAuthority}
    {census : ProcessCleanupCensus} {proof : ProcessCleanupProof} (hready : authority.reconcile o' = .ok ready)
    (hproof : ready.tryProve census = .ok proof) :
    authority.validateReconcile o' = .ok () ∧ isExactZero proof.census = true ∧ proof.lineage = authority.lineage := by
  unfold ProcessCleanupAuthority.reconcile at hready
  simp only [bind_ok, exists_unit, pure_ok] at hready
  obtain ⟨hvalid, rfl⟩ := hready
  unfold ProcessCleanupReadyAuthority.tryProve at hproof
  simp only [bind_ok, rejectIf_ok, exists_unit, pure_ok, Bool.not_eq_false] at hproof
  obtain ⟨hzero, rfl⟩ := hproof
  exact ⟨hvalid, hzero, rfl⟩

/-- **The loss of a generation classifies every crossed handoff once, and its cleanup accounts for each.**  The
classification of an observation built in any order lists, under distinct keys, the invocations whose stage asks for it;
a later observation of the generation is accepted when nothing is live in it and its invocations are as a set the
classified ones; and a proof of the cleanup carries a census of zero and the uncertainty seen at the loss. -/
theorem process_loss_classified
    {o : ProcessDomainOwnership} (hbuilt : ProcessDomainOwnership.tryNew identity lifecycle members limits instances = .ok o)
    (expected : Bool) (hfenced : o.lifecycle.fenced = true) :
    (∀ instances', instances.Perm instances' →
        ProcessDomainOwnership.tryNew identity lifecycle members limits instances' = .ok o) ∧
      (∀ ref generation invocations invocations', List.Perm invocations invocations' →
        ProcessInstanceOwnership.tryNew ref generation invocations =
          ProcessInstanceOwnership.tryNew ref generation invocations') ∧
      ∃ bundle : ProcessLossBundle,
        (ProcessAdmissionGate.mk identity).fence.observeProcessLoss expected o = .ok bundle ∧
        (bundle.observation.uncertainInvocations.map lossKey).Nodup ∧
        (∀ loss, loss ∈ bundle.observation.uncertainInvocations ↔ ∃ i ∈ instances, ∃ v ∈ i.invocations,
          v.stage.requiresLossClassification = true ∧ loss = lossOf (i, v)) ∧
        (bundle.observation.lineage.externalEffectUncertain = true ↔
          ∃ loss ∈ bundle.observation.uncertainInvocations, loss.sideEffect ≠ .effectFree) ∧
        (∀ o' : ProcessDomainOwnership, o'.identity = identity →
          (bundle.cleanupAuthority.validateReconcile o' = .ok () ↔
            o'.lifecycle.fenced = true ∧ o'.processTreeMembers = 0 ∧ AllSettled o' ∧
              ∀ loss, (∃ i ∈ o'.instances, ∃ v ∈ i.invocations, loss = lossOf (i, v)) ↔
                loss ∈ bundle.observation.uncertainInvocations)) ∧
        ∀ o' ready census proof, bundle.cleanupAuthority.reconcile o' = .ok ready → ready.tryProve census = .ok proof →
          bundle.cleanupAuthority.validateReconcile o' = .ok () ∧ isExactZero proof.census = true ∧
            proof.lineage.externalEffectUncertain = bundle.observation.lineage.externalEffectUncertain := by
  obtain ⟨rfl, hinstances⟩ := ProcessDomainOwnership.tryNew_ok hbuilt
  obtain ⟨lineage, hobserved, hidentity, huncertain⟩ := observeProcessLoss_ok expected hfenced
  refine ⟨fun instances' hp => ?_, fun ref generation _ _ hp => ?_, _, hobserved, ?_, fun loss => ?_, ?_, ?_, ?_⟩
  · rw [← ProcessDomainOwnership.tryNew_of_perm _ _ _ _ hp]
    exact hbuilt
  · exact ProcessInstanceOwnership.tryNew_of_perm ref generation hp
  · exact ((Keyed.ascending_iff_map lossKey).1 (ascending_classified o)).imp ne_of_lt
  · rw [mem_classified]
    exact exists_congr fun i => and_congr_left fun _ => hinstances i
  · show lineage.externalEffectUncertain = true ↔ _
    rw [huncertain, List.any_eq_true]
    simp only [decide_eq_true_eq]
  · intro o' hsame
    rw [validateReconcile_ok, ← losses_eq_iff]
    exact and_iff_right (hsame.trans hidentity.symm)
  · intro o' ready census proof hready hproof
    obtain ⟨hvalid, hzero, hlineage⟩ := proof_of_reconcile hready hproof
    exact ⟨hvalid, hzero, congrArg _ hlineage⟩

def lostIdentity : ProcessGenerationIdentity := ⟨.ofNat 1, 1, 1, .ofNat 1, .ofNat 1, 1⟩

structure LostRun where
  instances : List ProcessInstanceOwnership
  lost : ProcessDomainOwnership
  bundle : ProcessLossBundle
  later : ProcessDomainOwnership
  ready : ProcessCleanupReadyAuthority
  proof : ProcessCleanupProof

/-- Two instances are lost with two invocations started and one only admitted; later what had crossed is uncertain and
released, in an observation built the other way round. -/
def lostRun : Except RuntimeOwnershipError LostRun := do
  let one ← ProcessInstanceOwnership.tryNew (.ofNat 7) 1
    [⟨2, .started, .external, true, 64⟩, ⟨1, .admitted, .effectFree, true, 64⟩]
  let two ← ProcessInstanceOwnership.tryNew (.ofNat 8) 1 [⟨3, .started, .effectFree, true, 64⟩]
  let lost ← ProcessDomainOwnership.tryNew lostIdentity .closing 1 ⟨4, 4, 256, 1⟩ [two, one]
  let bundle ← (ProcessAdmissionGate.mk lostIdentity).fence.observeProcessLoss true lost
  let settledOne ← ProcessInstanceOwnership.tryNew (.ofNat 7) 1 [⟨2, .uncertain, .external, false, 0⟩]
  let settledTwo ← ProcessInstanceOwnership.tryNew (.ofNat 8) 1 [⟨3, .uncertain, .effectFree, false, 0⟩]
  let later ← ProcessDomainOwnership.tryNew lostIdentity .closing 0 ⟨4, 4, 256, 1⟩ [settledOne, settledTwo]
  let ready ← bundle.cleanupAuthority.reconcile later
  let proof ← ready.tryProve ⟨true, 0, 0, 0, 0, 0, 0⟩
  rejectIf (lost.lifecycle.fenced = false ∨ bundle.observation.uncertainInvocations.length ≠ 2
    ∨ proof.lineage.externalEffectUncertain = false) .cleanupNotExactZero
  pure ⟨[two, one], lost, bundle, later, ready, proof⟩

theorem process_loss_classified_lost : ∃ run, lostRun = .ok run ∧
    run.bundle.observation.uncertainInvocations.length = 2 ∧
    (run.bundle.observation.uncertainInvocations.map lossKey).Nodup ∧
    (∃ loss ∈ run.bundle.observation.uncertainInvocations, loss.sideEffect ≠ .effectFree) ∧
    AllSettled run.later ∧ isExactZero run.proof.census = true := by
  have hok : lostRun.isOk = true := by decide +kernel
  cases hrun : lostRun with
  | error e => rw [hrun] at hok; cases hok
  | ok run =>
    simp only [lostRun, bind_ok, rejectIf_ok, exists_unit, pure_ok, not_or, not_not, ne_eq, Bool.not_eq_false] at hrun
    obtain ⟨one, _, two, _, lost, hlost, bundle, hbundle, _, _, _, _, later, hlater, ready, hready, proof, hproof,
      ⟨hfenced, htwo, huncertain⟩, rfl⟩ := hrun
    obtain ⟨-, -, bundle', hobserved, hnodup, -, hflag, hreconcile, hproved⟩ := process_loss_classified hlost true hfenced
    cases Except.ok.inj (hbundle.symm.trans hobserved)
    obtain ⟨hvalid, hzero, hsame⟩ := hproved later ready _ proof hready hproof
    have hidentity : later.identity = lostIdentity := by rw [(ProcessDomainOwnership.tryNew_ok hlater).1]
    exact ⟨_, rfl, htwo, hnodup, hflag.1 (hsame.symm.trans huncertain), ((hreconcile later hidentity).1 hvalid).2.2.1, hzero⟩

end Ownership
end ParaEgox
