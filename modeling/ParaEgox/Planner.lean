import ParaEgox.Checked
import ParaEgox.Keyed
import ParaEgox.ReferenceControl
import ParaEgox.ServiceGraph

/-!
# Planner — the stable allocation a Controller keeps beside its plan

The records of a snapshot are ordered by key.  Every change of it is a delta of records, each one of a fresh allocation, a
tombstone or a reactivation, under the next generation.  A snapshot that a delta produced is accepted as the successor of the
one it was applied to.
-/
namespace ParaEgox
namespace Controller

open Check

inductive PlannerError
  | serviceDependency (e : ServiceGraph.ServiceDependencyError)
  | unsupportedServiceDependency
  | missingManifestProjection
  | manifestTargetMismatch
  | manifestFixtureMismatch
  | invalidManifestDigest
  | configMismatch
  | allocationTargetMismatch
  | previousAllocationMismatch
  | invalidAllocationSnapshot
  | allocationCapacityExceeded
  | allocationExhausted
  | unsupportedDeckShape
  | unsupportedLink
  | unsupportedRequirement
  | unsupportedPerUseConfig
  | unsupportedPort
  | unsupportedRefinement
  | unsupportedGeneralCard
  | loopToLoopRejected
  | explicitEmptyRequiredBeforeLoop
  | explicitEmptyRequiredBeforeOmit
  | emptyBootstrapRejected
  | previousTargetNotTerminal
  | previousTargetBusy
  | previousTargetIneligible
  | invalidLifecycleBudget
  | invalidPersistedPlanContent
  | canonicalLengthOverflow
  | digest (e : DigestBuildError)
  deriving DecidableEq

inductive AllocationState
  | active
  | tombstone
  deriving DecidableEq

structure StableAllocationRecord where
  key : Ref16
  ordinal : UInt64
  cardInstance : Ref16
  loopDomain : Ref16
  state : AllocationState
  deriving DecidableEq

structure StableAllocationSnapshot where
  target : Ref16
  generation : UInt64
  highWater : UInt64
  records : List StableAllocationRecord
  deriving DecidableEq

structure StableAllocationDelta where
  baseGeneration : UInt64
  nextGeneration : UInt64
  resultingHighWater : UInt64
  records : List StableAllocationRecord

def maxStableAllocationRecords : Nat := 4096

def instanceAllocationDomain : Bytes :=
  Text.bytes (s := "paraegox.deployment.stable-instance-allocation.sha256.v1") ⟨_, by conv => rhs; simp [ascii]⟩
def domainAllocationDomain : Bytes :=
  Text.bytes (s := "paraegox.deployment.stable-domain-allocation.sha256.v1") ⟨_, by conv => rhs; simp [ascii]⟩

def deriveId (sha256 : Sha256) (domain : Bytes) (target key : Ref16) (ordinal : UInt64) : Except PlannerError Ref16 := do
  let digest ← wrapErr .digest (digest32 sha256 domain [target.asBytes, key.asBytes, bytesBE 8 ordinal.toNat])
  pure (leadingRef digest)

def StableAllocationRecord.tryFromPersisted (sha256 : Sha256) (target key : Ref16) (ordinal : UInt64)
    (cardInstance loopDomain : Ref16) (state : AllocationState) : Except PlannerError StableAllocationRecord := do
  rejectIf (ordinal = 0) .invalidAllocationSnapshot
  let expectedInstance ← deriveId sha256 instanceAllocationDomain target key ordinal
  rejectIf (expectedInstance ≠ cardInstance) .invalidAllocationSnapshot
  let expectedDomain ← deriveId sha256 domainAllocationDomain target key ordinal
  rejectIf (expectedDomain ≠ loopDomain) .invalidAllocationSnapshot
  pure { key, ordinal, cardInstance, loopDomain, state }

def counterHistoryIsInvalid (generation highWater : UInt64) (records : List StableAllocationRecord) : Bool :=
  match (records.map (·.ordinal)).max? with
  | none => generation ≠ 0 ∨ highWater ≠ 0
  | some maximum => generation = 0 ∨ generation < highWater ∨ highWater ≠ maximum

def checkDerivedIds (sha256 : Sha256) (target : Ref16) (record : StableAllocationRecord) : Except PlannerError Unit := do
  let expectedInstance ← deriveId sha256 instanceAllocationDomain target record.key record.ordinal
  let expectedDomain ← deriveId sha256 domainAllocationDomain target record.key record.ordinal
  rejectIf (record.cardInstance ≠ expectedInstance ∨ record.loopDomain ≠ expectedDomain) .invalidAllocationSnapshot

/-- What a step of `apply_delta` carries: the records so far, the last ordinal given out and the last changed key. -/
structure DeltaScan where
  records : List StableAllocationRecord
  nextOrdinal : UInt64
  previousKey : Option Ref16

namespace StableAllocationSnapshot

def tryNew (sha256 : Sha256) (target : Ref16) (generation highWater : UInt64) (records : List StableAllocationRecord) :
    Except PlannerError StableAllocationSnapshot := do
  rejectIf (target = 0) .invalidAllocationSnapshot
  rejectIf (maxStableAllocationRecords < records.length) .allocationCapacityExceeded
  let records := Keyed.sortBy StableAllocationRecord.key records
  rejectIf ((records.zip records.tail).any (fun pair => pair.1.key = pair.2.key)
    ∨ records.any (fun record => record.ordinal = 0 ∨ highWater < record.ordinal)
    ∨ ¬ (records.map (·.ordinal)).Nodup ∨ ¬ (records.map (·.cardInstance)).Nodup ∨ ¬ (records.map (·.loopDomain)).Nodup
    ∨ counterHistoryIsInvalid generation highWater records) .invalidAllocationSnapshot
  forEach records (checkDerivedIds sha256 target)
  pure { target, generation, highWater, records }

/-- `records.insert(key, record)` on the map of records. -/
def put (record : StableAllocationRecord) (records : List StableAllocationRecord) : List StableAllocationRecord :=
  match Keyed.find StableAllocationRecord.key record.key records with
  | none => Keyed.insert StableAllocationRecord.key record records
  | some _ => Keyed.replace StableAllocationRecord.key record records

def ordinalAfter (previous : Option StableAllocationRecord) (change : StableAllocationRecord) (nextOrdinal : UInt64) :
    Except PlannerError UInt64 :=
  match previous with
  | none => do
    let nextOrdinal ← okOr (succU64 nextOrdinal) .allocationExhausted
    rejectIf (change.state ≠ .active ∨ change.ordinal ≠ nextOrdinal) .invalidAllocationSnapshot
    pure nextOrdinal
  | some previous =>
    if previous.ordinal = change.ordinal ∧ previous.cardInstance = change.cardInstance
        ∧ previous.loopDomain = change.loopDomain then do
      rejectIf (previous.state ≠ .active ∨ change.state ≠ .tombstone) .invalidAllocationSnapshot
      pure nextOrdinal
    else do
      let nextOrdinal ← okOr (succU64 nextOrdinal) .allocationExhausted
      rejectIf (previous.state ≠ .tombstone ∨ change.state ≠ .active ∨ change.ordinal ≠ nextOrdinal)
        .invalidAllocationSnapshot
      pure nextOrdinal

/-- One change of `apply_delta`.  The set of changed keys it keeps beside the last one adds nothing: the keys ascend. -/
def deltaStep (sha256 : Sha256) (target : Ref16) (s : DeltaScan) (change : StableAllocationRecord) :
    Except PlannerError DeltaScan := do
  whenSome s.previousKey fun key => rejectIf (change.key ≤ key) .invalidAllocationSnapshot
  let validated ← StableAllocationRecord.tryFromPersisted sha256 target change.key change.ordinal change.cardInstance
    change.loopDomain change.state
  let nextOrdinal ← ordinalAfter (Keyed.find StableAllocationRecord.key change.key s.records) validated s.nextOrdinal
  pure { records := put validated s.records, nextOrdinal, previousKey := some change.key }

def expectedGeneration (self : StableAllocationSnapshot) (delta : StableAllocationDelta) : Except PlannerError UInt64 :=
  if delta.records = [] then .ok self.generation else okOr (succU64 self.generation) .allocationExhausted

def applyDelta (sha256 : Sha256) (self : StableAllocationSnapshot) (delta : StableAllocationDelta) :
    Except PlannerError StableAllocationSnapshot := do
  rejectIf (delta.baseGeneration ≠ self.generation ∨ delta.resultingHighWater < self.highWater)
    .previousAllocationMismatch
  let s ← scan (deltaStep sha256 self.target) ⟨self.records, self.highWater, none⟩ delta.records
  rejectIf (s.nextOrdinal ≠ delta.resultingHighWater) .invalidAllocationSnapshot
  let generation ← self.expectedGeneration delta
  rejectIf (delta.nextGeneration ≠ generation) .previousAllocationMismatch
  tryNew sha256 self.target delta.nextGeneration delta.resultingHighWater s.records

def changes (self previous : StableAllocationSnapshot) : List StableAllocationRecord :=
  self.records.filter fun record =>
    decide (Keyed.find StableAllocationRecord.key record.key previous.records ≠ some record)

def validateSuccessorOf (sha256 : Sha256) (self previous : StableAllocationSnapshot) : Except PlannerError Unit := do
  rejectIf (self.target ≠ previous.target ∨ self.highWater < previous.highWater) .previousAllocationMismatch
  rejectIf (previous.records.any fun record =>
    (Keyed.find StableAllocationRecord.key record.key self.records).isNone) .previousAllocationMismatch
  let rebuilt ← previous.applyDelta sha256 ⟨previous.generation, self.generation, self.highWater, self.changes previous⟩
  rejectIf (rebuilt ≠ self) .previousAllocationMismatch

/-! ## A delta makes a successor -/

abbrev Ordered (records : List StableAllocationRecord) : Prop := Keyed.Ascending StableAllocationRecord.key records

/-- The snapshot is one `try_new` returns. -/
def Sealed (sha256 : Sha256) (s : StableAllocationSnapshot) : Prop :=
  tryNew sha256 s.target s.generation s.highWater s.records = .ok s

variable {sha256 : Sha256} {target : Ref16} {next s self : StableAllocationSnapshot} {delta : StableAllocationDelta}

theorem tryNew_ok {generation highWater : UInt64} {records : List StableAllocationRecord}
    (h : tryNew sha256 target generation highWater records = .ok s) :
    target ≠ 0 ∧ records.length ≤ maxStableAllocationRecords ∧
      s = ⟨target, generation, highWater, Keyed.sortBy StableAllocationRecord.key records⟩ ∧ Ordered s.records ∧
      s.Sealed sha256 := by
  simp only [tryNew, bind_ok, rejectIf_ok, exists_unit, pure_ok, not_or] at h
  obtain ⟨htarget, hlen, ⟨hdistinct, hrest⟩, hids, rfl⟩ := h
  have hordered : Ordered (Keyed.sortBy StableAllocationRecord.key records) := by
    refine Keyed.ascending_of_sorted _ (Keyed.sortBy_pairwise _ records) fun p hp heq => hdistinct ?_
    exact List.any_eq_true.2 ⟨p, hp, decide_eq_true heq⟩
  have hlength : (Keyed.sortBy StableAllocationRecord.key records).length = records.length :=
    (Keyed.sortBy_perm _ records).length_eq
  refine ⟨htarget, not_lt.1 hlen, rfl, hordered, ?_⟩
  simp only [Sealed, tryNew, bind_ok, rejectIf_ok, exists_unit, pure_ok, not_or, hordered.sortBy_eq, hlength]
  exact ⟨htarget, hlen, ⟨hdistinct, hrest⟩, hids, trivial⟩

theorem Sealed.ordered (h : s.Sealed sha256) : Ordered s.records :=
  (tryNew_ok h).2.2.2.1

theorem mem_put {r x : StableAllocationRecord} {rs : List StableAllocationRecord} :
    x ∈ put r rs ↔ x = r ∨ x ∈ rs ∧ x.key ≠ r.key := by
  unfold put
  cases hf : Keyed.find StableAllocationRecord.key r.key rs with
  | none =>
    have hfresh := (Keyed.find_none _).1 hf
    rw [Keyed.mem_insert]
    exact or_congr_right ⟨fun hx => ⟨hx, hfresh x hx⟩, fun hx => hx.1⟩
  | some y =>
    have hy := Keyed.find_mem _ hf
    rw [Keyed.mem_replace]
    exact or_congr_left ⟨fun hx => hx.1, fun hx => ⟨hx, y, hy⟩⟩

theorem ordered_put {r : StableAllocationRecord} {rs : List StableAllocationRecord} (h : Ordered rs) :
    Ordered (put r rs) := by
  unfold put
  cases hf : Keyed.find StableAllocationRecord.key r.key rs with
  | none => exact h.insert _ ((Keyed.find_none _).1 hf)
  | some y => exact h.replace _

theorem ordinalAfter_changes {previous : Option StableAllocationRecord} {change : StableAllocationRecord}
    {nextOrdinal after : UInt64} (h : ordinalAfter previous change nextOrdinal = .ok after) : previous ≠ some change := by
  rintro rfl
  simp only [ordinalAfter, and_self, if_true, bind_ok, rejectIf_ok, exists_unit, pure_ok, not_or, not_not] at h
  obtain ⟨⟨hactive, htombstone⟩, -⟩ := h
  rw [hactive] at htombstone
  cases htombstone

theorem deltaStep_ok {s t : DeltaScan} {change : StableAllocationRecord}
    (h : deltaStep sha256 target s change = .ok t) :
    (∀ key, s.previousKey = some key → key < change.key) ∧
      Keyed.find StableAllocationRecord.key change.key s.records ≠ some change ∧ t.records = put change s.records ∧
      t.previousKey = some change.key := by
  simp only [deltaStep, StableAllocationRecord.tryFromPersisted, bind_ok, whenSome_ok, rejectIf_ok, exists_unit, pure_ok,
    not_le] at h
  obtain ⟨horder, _, ⟨-, _, -, -, _, -, -, rfl⟩, _, hordinal, rfl⟩ := h
  exact ⟨horder, ordinalAfter_changes hordinal, rfl, rfl⟩

/-- **What a run of changes leaves**: the changes, and the records under the keys they did not touch. -/
theorem scan_deltaStep : ∀ {cs : List StableAllocationRecord} {s t : DeltaScan},
    Ordered s.records → scan (deltaStep sha256 target) s cs = .ok t →
      Ordered t.records ∧ Ordered cs ∧ (∀ c ∈ cs, ∀ key, s.previousKey = some key → key < c.key) ∧
        (∀ c ∈ cs, Keyed.find StableAllocationRecord.key c.key s.records ≠ some c) ∧
        ∀ x, x ∈ t.records ↔ x ∈ cs ∨ x ∈ s.records ∧ ∀ c ∈ cs, x.key ≠ c.key
  | [], s, t, hs, h => by
    obtain rfl := Except.ok.inj h
    exact ⟨hs, List.Pairwise.nil, by simp, by simp, by simp⟩
  | c :: cs, s, t, hs, h => by
    obtain ⟨m, hm, ht⟩ := (scan_ok_cons ..).1 h
    obtain ⟨hkey, hnew, hrecords, hprevious⟩ := deltaStep_ok hm
    have hmid : Ordered m.records := hrecords ▸ ordered_put hs
    obtain ⟨hordered, hcs, hlt, hfind, hmem⟩ := scan_deltaStep hmid ht
    have hlt : ∀ d ∈ cs, c.key < d.key := fun d hd => hlt d hd c.key hprevious
    refine ⟨hordered, List.pairwise_cons.2 ⟨hlt, hcs⟩, ?_, ?_, ?_⟩
    · intro d hd key hk
      rcases List.mem_cons.1 hd with rfl | hd
      · exact hkey key hk
      · exact lt_trans (hkey key hk) (hlt d hd)
    · intro d hd
      rcases List.mem_cons.1 hd with rfl | hd
      · exact hnew
      · -- the keys ascend, so what `d` replaces is not what `c` put there
        intro hold
        refine hfind d hd ((hmid.find_iff _ _ _).2 ⟨?_, rfl⟩)
        rw [hrecords, mem_put]
        exact .inr ⟨(Keyed.find_mem _ hold).1, (ne_of_lt (hlt d hd)).symm⟩
    · intro x
      rw [hmem, hrecords, mem_put, List.mem_cons, List.forall_mem_cons]
      constructor
      · rintro (hx | ⟨rfl | ⟨hx, hne⟩, hrest⟩)
        · exact .inl (.inr hx)
        · exact .inl (.inl rfl)
        · exact .inr ⟨hx, hne, hrest⟩
      · rintro ((rfl | hx) | ⟨hx, hne, hrest⟩)
        · exact .inr ⟨.inl rfl, fun d hd => ne_of_lt (hlt d hd)⟩
        · exact .inl hx
        · exact .inr ⟨.inr ⟨hx, hne⟩, hrest⟩

theorem applyDelta_ok (h : self.applyDelta sha256 delta = .ok next) :
    delta.baseGeneration = self.generation ∧ self.highWater ≤ delta.resultingHighWater ∧
      next.target = self.target ∧ next.generation = delta.nextGeneration ∧ next.highWater = delta.resultingHighWater ∧
      next.Sealed sha256 ∧ ∃ s, scan (deltaStep sha256 self.target) ⟨self.records, self.highWater, none⟩ delta.records =
        .ok s ∧ next.records = Keyed.sortBy StableAllocationRecord.key s.records := by
  simp only [applyDelta, bind_ok, rejectIf_ok, exists_unit, not_or, not_not, UInt64.not_lt] at h
  obtain ⟨⟨hbase, hwater⟩, s, hscan, -, _, -, -, hnew⟩ := h
  obtain ⟨-, -, rfl, -, hsealed⟩ := tryNew_ok hnew
  exact ⟨hbase, hwater, rfl, rfl, rfl, hsealed, s, hscan, rfl⟩

/-- **The snapshot a delta produced differs from the one it was applied to in exactly the records of the delta.** -/
theorem changes_applyDelta
    (hself : Ordered self.records) (h : self.applyDelta sha256 delta = .ok next) : next.changes self = delta.records := by
  obtain ⟨-, -, -, -, -, -, s, hscan, hrecords⟩ := applyDelta_ok h
  obtain ⟨hordered, hdelta, -, hfind, hmem⟩ := scan_deltaStep hself hscan
  rw [hordered.sortBy_eq] at hrecords
  have hfilter : Ordered (next.changes self) := by
    rw [changes, hrecords]
    exact hordered.filter _
  refine hfilter.ext _ hdelta fun x => ?_
  rw [changes, List.mem_filter, decide_eq_true_eq, hrecords, hmem]
  constructor
  · rintro ⟨hx | ⟨hx, -⟩, hne⟩
    · exact hx
    · exact absurd ((hself.find_iff _ _ _).2 ⟨hx, rfl⟩) hne
  · exact fun hx => ⟨.inl hx, hfind x hx⟩

theorem validateSuccessorOf_applyDelta (hself : Ordered self.records) (h : self.applyDelta sha256 delta = .ok next) :
    next.validateSuccessorOf sha256 self = .ok () := by
  obtain ⟨hbase, hwater, htarget, hgeneration, hhigh, -, s, hscan, hrecords⟩ := applyDelta_ok h
  obtain ⟨hordered, -, -, -, hmem⟩ := scan_deltaStep hself hscan
  rw [hordered.sortBy_eq] at hrecords
  have hkept : ¬ self.records.any (fun record =>
      (Keyed.find StableAllocationRecord.key record.key next.records).isNone) := by
    intro hany
    obtain ⟨x, hx, hnone⟩ := List.any_eq_true.1 hany
    have hnone := (Keyed.find_none _).1 (Option.isNone_iff_eq_none.1 hnone)
    by_cases hchanged : ∀ c ∈ delta.records, x.key ≠ c.key
    · exact hnone x (hrecords ▸ (hmem x).2 (.inr ⟨hx, hchanged⟩)) rfl
    · push Not at hchanged
      obtain ⟨c, hc, hkey⟩ := hchanged
      exact hnone c (hrecords ▸ (hmem c).2 (.inl hc)) hkey.symm
  have hdelta : (⟨self.generation, next.generation, next.highWater, next.changes self⟩ : StableAllocationDelta) = delta := by
    rw [changes_applyDelta hself h, ← hbase, hgeneration, hhigh]
  have hback : ¬ (next.target ≠ self.target ∨ next.highWater < self.highWater) := by
    rw [htarget, hhigh]
    rintro (hne | hlt)
    · exact hne rfl
    · exact absurd hwater (UInt64.not_le.2 hlt)
  unfold validateSuccessorOf
  refine ok_check hback <| ok_check hkept <| ok_bind (a := next) ?_ <|
    rejectIf_neg (not_not.2 rfl)
  rw [hdelta]
  exact h

theorem Sealed.applyDelta_nil (h : s.Sealed sha256) :
    s.applyDelta sha256 ⟨s.generation, s.generation, s.highWater, []⟩ = .ok s := by
  have hbase : ¬ (s.generation ≠ s.generation ∨ s.highWater < s.highWater) := by
    rintro (hne | hlt)
    · exact hne rfl
    · exact UInt64.lt_irrefl _ hlt
  exact ok_check hbase <| ok_bind rfl <| ok_check (not_not.2 rfl) <| ok_bind rfl <|
    ok_check (not_not.2 rfl) h

end StableAllocationSnapshot

end Controller
end ParaEgox
