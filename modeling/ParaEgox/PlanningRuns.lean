import ParaEgox.Planning

/-!
# PlanningRuns — no allocation is given out twice

A run plans on the current snapshot and applies the delta of every candidate.  Only the last record of a key is kept, so the
allocations a run gave out are kept beside the snapshot: their ordinals ascend to the high water, and every record is one of
them.  The identities are digests, so that two of them differ is assumed of the allocations the run gives out.
-/
namespace ParaEgox
namespace Controller

open Check

namespace StableAllocationSnapshot

/-! ## Sealed snapshots -/

/-- What `try_new` demands of records in order. -/
structure Valid (sha256 : Sha256) (s : StableAllocationSnapshot) : Prop where
  target : s.target ≠ 0
  length : s.records.length ≤ maxStableAllocationRecords
  ordered : Ordered s.records
  ordinal : ∀ r ∈ s.records, r.ordinal ≠ 0 ∧ r.ordinal ≤ s.highWater
  ordinals : (s.records.map (·.ordinal)).Nodup
  instances : (s.records.map (·.cardInstance)).Nodup
  domains : (s.records.map (·.loopDomain)).Nodup
  history : counterHistoryIsInvalid s.generation s.highWater s.records = false
  ids : ∀ r ∈ s.records, checkDerivedIds sha256 s.target r = .ok ()

variable {rs : List StableAllocationRecord} {sha256 : Sha256} {s : StableAllocationSnapshot}
  {r : StableAllocationRecord}

theorem Ordered.distinct (h : Ordered rs) : ¬ (rs.zip rs.tail).any (fun pair => pair.1.key = pair.2.key) := by
  induction rs with
  | nil => simp
  | cons r rs ih =>
    obtain ⟨hr, hrs⟩ := List.pairwise_cons.1 h
    cases rs with
    | nil => simp
    | cons x xs =>
      rw [List.tail_cons, List.zip_cons_cons, List.any_cons, Bool.or_eq_true]
      rintro (heq | hany)
      · exact ne_of_lt (hr x List.mem_cons_self) (of_decide_eq_true heq)
      · exact ih hrs hany

theorem sealed_iff : s.Sealed sha256 ↔ s.Valid sha256 := by
  constructor
  · intro h
    have hordered := h.ordered
    simp only [Sealed, tryNew, bind_ok, rejectIf_ok, exists_unit, pure_ok, not_or, forEach_ok, hordered.sortBy_eq, not_not,
      not_lt, Bool.not_eq_true] at h
    obtain ⟨htarget, hlength, ⟨-, hordinal, h1, h2, h3, hhistory⟩, hids, -⟩ := h
    refine ⟨htarget, hlength, hordered, fun r hr => ?_, h1, h2, h3, hhistory, hids⟩
    have hr := List.any_eq_false.1 hordinal r hr
    simpa [not_or] using hr
  · rintro ⟨htarget, hlength, hordered, hordinal, h1, h2, h3, hhistory, hids⟩
    have hrange : ¬ s.records.any (fun record => record.ordinal = 0 ∨ s.highWater < record.ordinal) := by
      intro hany
      obtain ⟨r, hr, hbad⟩ := List.any_eq_true.1 hany
      rcases of_decide_eq_true hbad with hzero | hlt
      · exact (hordinal r hr).1 hzero
      · exact UInt64.not_le.2 hlt (hordinal r hr).2
    simp only [Sealed, tryNew, bind_ok, rejectIf_ok, exists_unit, pure_ok, not_or, forEach_ok, hordered.sortBy_eq, not_not,
      not_lt]
    exact ⟨htarget, hlength, ⟨hordered.distinct, hrange, h1, h2, h3, by simp [hhistory]⟩, hids, trivial⟩

theorem max?_eq_some {xs : List UInt64} {m : UInt64} : xs.max? = some m ↔ m ∈ xs ∧ ∀ b ∈ xs, b ≤ m := by
  have hmax : ∀ a b : UInt64, max a b = if a ≤ b then b else a := fun _ _ => rfl
  have : Std.LawfulOrderMax UInt64 := by
    refine .of_max_le_iff (fun a b c => ?_) fun a b => ?_
    · rw [hmax]
      split <;> simp only [UInt64.le_iff_toNat_le] at * <;> omega
    · rw [hmax]
      split <;> simp
  exact List.max?_eq_some_iff

theorem history_of_mem {generation highWater : UInt64} {records : List StableAllocationRecord}
    (hle : ∀ r ∈ records, r.ordinal ≤ highWater) (hgeneration : generation ≠ 0) (hwater : highWater ≤ generation)
    (hmax : ∃ r ∈ records, r.ordinal = highWater) : counterHistoryIsInvalid generation highWater records = false := by
  have hmaximum : (records.map (·.ordinal)).max? = some highWater := by
    rw [max?_eq_some]
    refine ⟨?_, fun b hb => ?_⟩
    · obtain ⟨r, hr, h⟩ := hmax
      exact List.mem_map.2 ⟨r, hr, h⟩
    · obtain ⟨r, hr, rfl⟩ := List.mem_map.1 hb
      exact hle r hr
  unfold counterHistoryIsInvalid
  rw [hmaximum]
  simpa [hgeneration] using hwater

theorem Valid.counters (h : s.Valid sha256) : (s.records = [] → s.generation = 0 ∧ s.highWater = 0) ∧
      (s.records ≠ [] → s.generation ≠ 0 ∧ ∃ r ∈ s.records, r.ordinal = s.highWater) ∧ s.highWater ≤ s.generation := by
  have hhistory := h.history
  unfold counterHistoryIsInvalid at hhistory
  cases hm : (s.records.map (·.ordinal)).max? with
  | none =>
    have hnil : s.records = [] := by simpa [List.max?_eq_none_iff] using hm
    simp only [hm, ne_eq, decide_eq_false_iff_not, not_or, not_not] at hhistory
    obtain ⟨hgeneration, hwater⟩ := hhistory
    refine ⟨fun _ => ⟨hgeneration, hwater⟩, fun hne => absurd hnil hne, ?_⟩
    rw [hgeneration, hwater]
    exact UInt64.le_refl 0
  | some m =>
    simp only [hm, ne_eq, decide_eq_false_iff_not, not_or, not_not, UInt64.not_lt] at hhistory
    obtain ⟨hgeneration, hle, rfl⟩ := hhistory
    obtain ⟨hmem, -⟩ := max?_eq_some.1 hm
    obtain ⟨r, hr, hro⟩ := List.mem_map.1 hmem
    exact ⟨fun hnil => absurd hnil (List.ne_nil_of_mem hr), fun _ => ⟨hgeneration, r, hr, hro⟩, hle⟩

/-! ## One changed record -/

theorem put_perm (h : Ordered rs) : (put r rs).Perm (r :: rs.filter fun x => x.key ≠ r.key) := by
  have hne : ∀ {xs : List StableAllocationRecord}, Ordered xs → xs.Nodup := fun hx =>
    hx.imp fun hlt heq => absurd (congrArg StableAllocationRecord.key heq) (ne_of_lt hlt)
  refine (List.perm_ext_iff_of_nodup (hne (ordered_put h)) ?_).2 fun x => ?_
  · refine List.nodup_cons.2 ⟨?_, (hne h).filter _⟩
    simp
  · rw [mem_put, List.mem_cons, List.mem_filter, decide_eq_true_eq]

theorem nodup_put {α : Type} {f : StableAllocationRecord → α} (h : Ordered rs) (hnodup : (rs.map f).Nodup)
    (hfresh : ∀ x ∈ rs, x.key ≠ r.key → f x ≠ f r) : ((put r rs).map f).Nodup := by
  refine ((put_perm h).map f).nodup_iff.2 ?_
  rw [List.map_cons, List.nodup_cons]
  refine ⟨?_, hnodup.sublist (List.filter_sublist.map f)⟩
  rintro hmem
  obtain ⟨x, hx, heq⟩ := List.mem_map.1 hmem
  obtain ⟨hx, hkey⟩ := List.mem_filter.1 hx
  exact hfresh x hx (of_decide_eq_true hkey) heq

theorem length_put_le (h : Ordered rs) : (put r rs).length ≤ rs.length + 1 := by
  rw [(put_perm h).length_eq, List.length_cons]
  exact Nat.succ_le_succ (List.length_filter_le _ _)

theorem length_put_of_mem {x : StableAllocationRecord} (h : Ordered rs) (hx : x ∈ rs)
    (hkey : x.key = r.key) : (put r rs).length ≤ rs.length := by
  rw [(put_perm h).length_eq, List.length_cons]
  refine Nat.succ_le_of_lt ((List.length_filter_lt_length_iff_exists).2 ⟨x, hx, ?_⟩)
  simp [hkey]

def Derived (sha256 : Sha256) (target : Ref16) (r : StableAllocationRecord) : Prop :=
  deriveId sha256 instanceAllocationDomain target r.key r.ordinal = .ok r.cardInstance ∧
    deriveId sha256 domainAllocationDomain target r.key r.ordinal = .ok r.loopDomain

theorem checkDerivedIds_iff {target : Ref16} :
    checkDerivedIds sha256 target r = .ok () ↔ Derived sha256 target r := by
  simp only [checkDerivedIds, bind_ok, rejectIf_ok, not_or, not_not, Derived]
  constructor
  · rintro ⟨i, hi, d, hd, rfl, rfl⟩
    exact ⟨hi, hd⟩
  · rintro ⟨hi, hd⟩
    exact ⟨_, hi, _, hd, rfl, rfl⟩

/-- **A delta of one record is applied** where the record is derived, its ordinal follows and what it leaves is valid. -/
theorem applyDelta_single
    {delta : StableAllocationDelta} {highWater : UInt64} (hbase : delta.baseGeneration = s.generation)
    (hwater : delta.resultingHighWater = highWater) (hrecords : delta.records = [r])
    (hderived : Derived sha256 s.target r) (hzero : r.ordinal ≠ 0)
    (hordinal : ordinalAfter (Keyed.find StableAllocationRecord.key r.key s.records) r s.highWater = .ok highWater)
    (hgeneration : delta.nextGeneration.toNat = s.generation.toNat + 1) (hle : s.highWater ≤ highWater)
    (hnext : (⟨s.target, delta.nextGeneration, highWater, put r s.records⟩ : StableAllocationSnapshot).Valid sha256) :
    s.applyDelta sha256 delta = .ok ⟨s.target, delta.nextGeneration, highWater, put r s.records⟩ := by
  obtain ⟨base, generation, water, records⟩ := delta
  obtain rfl : base = s.generation := hbase
  obtain rfl : water = highWater := hwater
  obtain rfl : records = [r] := hrecords
  have hpersisted : StableAllocationRecord.tryFromPersisted sha256 s.target r.key r.ordinal r.cardInstance r.loopDomain
      r.state = .ok r :=
    ok_check hzero <| ok_bind hderived.1 <| ok_check (not_not.2 rfl) <|
      ok_bind hderived.2 <| ok_check (not_not.2 rfl) rfl
  have hstep : deltaStep sha256 s.target ⟨s.records, s.highWater, none⟩ r =
      .ok ⟨put r s.records, water, some r.key⟩ :=
    ok_bind rfl <| ok_bind hpersisted <| ok_bind hordinal rfl
  have hscan : scan (deltaStep sha256 s.target) ⟨s.records, s.highWater, none⟩ [r] =
      .ok ⟨put r s.records, water, some r.key⟩ := ok_bind hstep rfl
  have hback : ¬ (s.generation ≠ s.generation ∨ water < s.highWater) := by
    rintro (hne | hlt)
    · exact hne rfl
    · exact UInt64.not_le.2 hlt hle
  have hsucc : succU64 s.generation = some generation := succU64_eq_some.2 hgeneration
  have hexpected : s.expectedGeneration ⟨s.generation, generation, water, [r]⟩ = .ok generation :=
    okOr_ok.2 hsucc
  exact ok_check hback <| ok_bind hscan <| ok_check (not_not.2 rfl) <|
    ok_bind hexpected <| ok_check (not_not.2 rfl) (sealed_iff.2 hnext)

end StableAllocationSnapshot

/-! ## What a plan asks for -/

open StableAllocationSnapshot

/-- A loop is planned where nothing is active: its delta is the one fresh allocation of its subject. -/
structure PlansLoop (sha256 : Sha256) (input : PlannerInput) (cand : DeploymentPlanCandidate)
    (r : StableAllocationRecord) : Prop where
  shape : cand.content.shape = .oneSourceLoop
  subject : cand.content.stableAllocationSubject = some (r.key, r.cardInstance, r.loopDomain)
  idle : input.allocation.active = []
  state : r.state = .active
  ordinal : r.ordinal.toNat = input.allocation.highWater.toNat + 1
  derived : Derived sha256 input.target r
  base : cand.allocationDelta.baseGeneration = input.allocation.generation
  generation : cand.allocationDelta.nextGeneration.toNat = input.allocation.generation.toNat + 1
  live : cand.allocationDelta.nextGeneration.toNat < u64Max
  highWater : cand.allocationDelta.resultingHighWater = r.ordinal
  records : cand.allocationDelta.records = [r]
  room : Keyed.find StableAllocationRecord.key r.key input.allocation.records = none →
    input.allocation.records.length ≠ maxStableAllocationRecords

/-- An empty target is planned over at most one active record: its delta is the tombstone of that one. -/
structure PlansEmpty (input : PlannerInput) (cand : DeploymentPlanCandidate) : Prop where
  shape : cand.content.shape = .emptyTarget
  single : input.allocation.active.length ≤ 1
  base : cand.allocationDelta.baseGeneration = input.allocation.generation
  generation : if input.allocation.active = [] then cand.allocationDelta.nextGeneration = input.allocation.generation
    else cand.allocationDelta.nextGeneration.toNat = input.allocation.generation.toNat + 1
  highWater : cand.allocationDelta.resultingHighWater = input.allocation.highWater
  records : cand.allocationDelta.records = input.allocation.active.map (·.tombstoned)

theorem advanceGeneration_ok {base next : UInt64} {changed : Bool} (h : advanceGeneration base changed = .ok next) :
    if changed then next.toNat = base.toNat + 1 else next = base := by
  unfold advanceGeneration at h
  cases changed with
  | true => exact succU64_eq_some.1 (okOr_ok.1 h)
  | false => exact (Except.ok.inj h).symm

theorem advanceLiveGeneration_ok {base next : UInt64} (h : advanceLiveGeneration base true = .ok next) :
    next.toNat = base.toNat + 1 ∧ next.toNat < u64Max := by
  simp only [advanceLiveGeneration, bind_ok, rejectIf_ok, exists_unit, pure_ok, true_and] at h
  obtain ⟨-, n, hn, hmax, rfl⟩ := h
  refine ⟨advanceGeneration_ok hn, lt_of_le_of_ne (Nat.le_sub_one_of_lt n.toNat_lt) fun heq => hmax ?_⟩
  rw [← heq, UInt64.ofNat_toNat]

variable {sha256 : Sha256} {target : Ref16} {a : Allotment} {input : PlannerInput} {cand : DeploymentPlanCandidate}
  {s : StableAllocationSnapshot} {r : StableAllocationRecord}

theorem allocateFresh_ok {key : Ref16} {snapshot : StableAllocationSnapshot} {a : Allocation}
    (h : allocateFresh sha256 target key snapshot [] = .ok a) :
    a.record.key = key ∧ a.record.state = .active ∧ a.record.ordinal.toNat = snapshot.highWater.toNat + 1 ∧
      Derived sha256 target a.record ∧ a.delta.baseGeneration = snapshot.generation ∧
      a.delta.nextGeneration.toNat = snapshot.generation.toNat + 1 ∧ a.delta.nextGeneration.toNat < u64Max ∧
      a.delta.resultingHighWater = a.record.ordinal ∧ a.delta.records = [a.record] := by
  simp only [allocateFresh, bind_ok, okOr_ok, pure_ok] at h
  obtain ⟨ordinal, hordinal, i, hi, d, hd, generation, hgeneration, rfl⟩ := h
  obtain ⟨hnext, hlive⟩ := advanceLiveGeneration_ok hgeneration
  exact ⟨rfl, rfl, succU64_eq_some.1 hordinal, ⟨hi, hd⟩, rfl, hnext, hlive, rfl, rfl⟩

theorem allocateActive_idle {key : Ref16} {snapshot : StableAllocationSnapshot} {a : Allocation}
    (hidle : snapshot.active = []) (h : allocateActive sha256 target key snapshot = .ok a) :
    allocateFresh sha256 target key snapshot [] = .ok a ∧
      (Keyed.find StableAllocationRecord.key key snapshot.records = none →
        snapshot.records.length ≠ maxStableAllocationRecords) := by
  unfold allocateActive at h
  rw [hidle] at h
  cases hf : Keyed.find StableAllocationRecord.key key snapshot.records with
  | none =>
    simp only [hf, bind_ok, rejectIf_ok, exists_unit] at h
    exact ⟨h.2, fun _ => h.1⟩
  | some r =>
    have hnot : r.state ≠ .active := by
      intro hactive
      have hmem : r ∈ snapshot.active := List.mem_filter.2 ⟨(Keyed.find_mem _ hf).1, decide_eq_true hactive⟩
      rw [hidle] at hmem
      cases hmem
    simp only [hf, if_neg hnot] at h
    exact ⟨h, fun hnone => by cases hnone⟩

theorem planLoop_ok {manifest : VerifiedRuntimeManifestIngressV1} {deckLock : Deck.DeckLock}
    {lifecycle : ValidatedReferenceLifecycleBudgets} {configDigest : Digest32} (hidle : input.allocation.active = [])
    (h : planLoop sha256 input manifest deckLock lifecycle configDigest = .ok cand) : ∃ r, PlansLoop sha256 input cand r := by
  simp only [planLoop, candidate, buildLoopContent, bind_ok, rejectIf_ok, exists_unit, mapErr_ok, pure_ok] at h
  obtain ⟨-, card, -, -, a, ha, _, ⟨_, -, -, -, -, rfl⟩, _, -, rfl⟩ := h
  obtain ⟨hfresh, hroom⟩ := allocateActive_idle hidle ha
  obtain ⟨hkey, hstate, hordinal, hderived, hbase, hgeneration, hlive, hwater, hrecords⟩ := allocateFresh_ok hfresh
  refine ⟨a.record, rfl, ?_, hidle, hstate, hordinal, hderived, hbase, hgeneration, hlive, hwater, hrecords, ?_⟩
  · rw [hkey]
  · rw [hkey]
    exact hroom

theorem planEmpty_ok {manifest : VerifiedRuntimeManifestIngressV1} (hsingle : input.allocation.active.length ≤ 1)
    (h : planEmpty sha256 input manifest = .ok cand) : PlansEmpty input cand := by
  simp only [planEmpty, candidate, buildEmptyContent, bind_ok, rejectIf_ok, exists_unit, pure_ok] at h
  obtain ⟨generation, hgeneration, _, ⟨-, -, rfl⟩, _, -, rfl⟩ := h
  refine ⟨rfl, hsingle, rfl, ?_, rfl, rfl⟩
  have hnext := advanceGeneration_ok hgeneration
  by_cases hnil : input.allocation.active = []
  · simpa [hnil] using hnext
  · simpa [hnil] using hnext

/-- **What a plan can be**: the planner counted the active records before it came to the desired shape. -/
theorem plan_candidate (h : plan sha256 input = .ok (.candidate cand)) :
    input.allocation.target = input.target ∧ ((∃ r, PlansLoop sha256 input cand r) ∨ PlansEmpty input cand) := by
  simp only [plan, validatePreviousAllocation, bind_ok, wrapErr_ok, rejectIf_ok, okOr_ok, exists_unit, not_not] at h
  obtain ⟨_, -, -, htransition, htarget, ⟨expected, hexpected, hcount⟩, hdesired⟩ := h
  refine ⟨htarget, ?_⟩
  unfold planDesired at hdesired
  split at hdesired
  · cases hdesired
  · rename_i deckLock lifecycle configDigest hd
    obtain ⟨manifest, -, hrest⟩ := bind_ok.1 hdesired
    obtain ⟨cand', hplan, heq⟩ := bind_ok.1 hrest
    obtain rfl : cand' = cand := by simpa [pure_ok] using heq
    have hidle : input.allocation.active = [] := by
      rw [hd] at htransition
      refine List.length_eq_zero_iff.1 ?_
      rw [hcount]
      cases hprevious : input.previous <;> rw [hprevious] at htransition hexpected <;>
        simp_all [validateTransition, expectedActiveCount]
    exact .inl (planLoop_ok hidle hplan)
  · obtain ⟨manifest, -, hrest⟩ := bind_ok.1 hdesired
    obtain ⟨cand', hplan, heq⟩ := bind_ok.1 hrest
    obtain rfl : cand' = cand := by simpa [pure_ok] using heq
    have hsingle : input.allocation.active.length ≤ 1 := by
      rw [hcount]
      cases hprevious : input.previous <;> rw [hprevious] at hexpected <;> simp_all [expectedActiveCount] <;> omega
    exact .inr (planEmpty_ok hsingle hplan)

/-! ## Runs -/

def StableAllocationDelta.allocations (delta : StableAllocationDelta) : List StableAllocationRecord :=
  delta.records.filter fun record => record.state = .active

/-- A snapshot, what the run before it gave out, and the subject of the latest loop content of that run. -/
structure Allotment where
  snapshot : StableAllocationSnapshot
  issued : List StableAllocationRecord
  loopSubject : Option (Ref16 × Ref16 × Ref16)

def Allotment.after (a : Allotment) (cand : DeploymentPlanCandidate) (next : StableAllocationSnapshot) : Allotment :=
  { snapshot := next, issued := a.issued ++ cand.allocationDelta.allocations,
    loopSubject := if cand.content.shape = .oneSourceLoop then cand.content.stableAllocationSubject else a.loopSubject }

/-- The runs from the empty snapshot of a target.  An omitted target and a rejected plan change nothing. -/
inductive AllotmentRun (sha256 : Sha256) (target : Ref16) : Allotment → Prop
  | empty {s : StableAllocationSnapshot} (h : StableAllocationSnapshot.tryNew sha256 target 0 0 [] = .ok s) :
      AllotmentRun sha256 target ⟨s, [], none⟩
  | planned {a : Allotment} {input : PlannerInput} {cand : DeploymentPlanCandidate} {next : StableAllocationSnapshot}
      (hrun : AllotmentRun sha256 target a) (hinput : input.allocation = a.snapshot)
      (hplan : plan sha256 input = .ok (.candidate cand))
      (happly : a.snapshot.applyDelta sha256 cand.allocationDelta = .ok next) : AllotmentRun sha256 target (a.after cand next)

def CollisionFree (sha256 : Sha256) (target : Ref16) (issued : List StableAllocationRecord) : Prop :=
  ∀ x ∈ issued, ∀ y ∈ issued, ∀ domain ∈ [instanceAllocationDomain, domainAllocationDomain], ∀ id,
    deriveId sha256 domain target x.key x.ordinal = .ok id → deriveId sha256 domain target y.key y.ordinal = .ok id →
      x.key = y.key ∧ x.ordinal = y.ordinal

theorem CollisionFree.of_append {xs ys : List StableAllocationRecord}
    (h : CollisionFree sha256 target (xs ++ ys)) : CollisionFree sha256 target xs :=
  fun x hx y hy => h x (List.mem_append_left _ hx) y (List.mem_append_left _ hy)

/-- **The invariant of a run.** -/
structure Allotted (sha256 : Sha256) (target : Ref16) (a : Allotment) : Prop where
  valid : a.snapshot.Valid sha256
  aimed : a.snapshot.target = target
  ascending : a.issued.Pairwise fun x y => x.ordinal.toNat < y.ordinal.toNat
  bounded : ∀ i ∈ a.issued, i.ordinal.toNat ≤ a.snapshot.highWater.toNat
  derived : ∀ i ∈ a.issued, Derived sha256 target i
  known : ∀ r ∈ a.snapshot.records, ∃ i ∈ a.issued, i.key = r.key ∧ i.ordinal = r.ordinal
  kept : ∀ i ∈ a.issued, ∃ r ∈ a.snapshot.records, r.key = i.key
  single : a.snapshot.active.length ≤ 1
  subject : ∀ r ∈ a.snapshot.active, a.loopSubject = some (r.key, r.cardInstance, r.loopDomain)

theorem StableAllocationSnapshot.Valid.derived (h : s.Valid sha256) {r : StableAllocationRecord}
    (hr : r ∈ s.records) : Derived sha256 s.target r := checkDerivedIds_iff.1 (h.ids r hr)

theorem Allotted.valid_fresh {generation : UInt64} (h : Allotted sha256 target a) (hderived : Derived sha256 target r)
    (hordinal : r.ordinal.toNat = a.snapshot.highWater.toNat + 1)
    (hgeneration : generation.toNat = a.snapshot.generation.toNat + 1)
    (hroom : Keyed.find StableAllocationRecord.key r.key a.snapshot.records = none →
      a.snapshot.records.length ≠ maxStableAllocationRecords)
    (hfree : CollisionFree sha256 target (a.issued ++ [r])) :
    (⟨a.snapshot.target, generation, r.ordinal, put r a.snapshot.records⟩ : StableAllocationSnapshot).Valid sha256 := by
  have hordered := h.valid.ordered
  have hcounter := h.valid.counters.2.2
  rw [UInt64.le_iff_toNat_le] at hcounter
  have hzero : r.ordinal ≠ 0 := by
    intro heq
    rw [heq] at hordinal
    simp at hordinal
  have hmem : ∀ x ∈ put r a.snapshot.records, x = r ∨ x ∈ a.snapshot.records ∧ x.key ≠ r.key := fun x => mem_put.1
  have hbound : ∀ x ∈ put r a.snapshot.records, x.ordinal ≤ r.ordinal := by
    intro x hx
    rw [UInt64.le_iff_toNat_le]
    rcases hmem x hx with rfl | ⟨hx, -⟩
    · exact le_refl _
    · have hle := UInt64.le_iff_toNat_le.1 (h.valid.ordinal x hx).2
      omega
  -- a record under another key derives other identities than this one
  have hother : ∀ x ∈ a.snapshot.records, x.key ≠ r.key → ∀ domain ∈ [instanceAllocationDomain, domainAllocationDomain],
      ∀ id, deriveId sha256 domain target x.key x.ordinal = .ok id →
        deriveId sha256 domain target r.key r.ordinal ≠ .ok id := by
    intro x hx hkey domain hdomain id hxid hrid
    obtain ⟨i, hi, hik, hio⟩ := h.known x hx
    rw [← hik, ← hio] at hxid
    have hsame := hfree i (List.mem_append_left _ hi) r (List.mem_append_right _ List.mem_cons_self) domain hdomain id
      hxid hrid
    exact hkey (hik ▸ hsame.1)
  have hxderived : ∀ x ∈ a.snapshot.records, Derived sha256 target x := fun x hx => h.aimed ▸ h.valid.derived hx
  refine ⟨h.valid.target, ?_, ordered_put hordered, ?_, ?_, ?_, ?_, ?_, ?_⟩
  · cases hf : Keyed.find StableAllocationRecord.key r.key a.snapshot.records with
    | none =>
      have hlt := lt_of_le_of_ne h.valid.length (hroom hf)
      exact le_trans (length_put_le hordered) hlt
    | some x => exact le_trans (length_put_of_mem hordered (Keyed.find_mem _ hf).1 (Keyed.find_mem _ hf).2) h.valid.length
  · intro x hx
    refine ⟨?_, hbound x hx⟩
    rcases hmem x hx with rfl | ⟨hx, -⟩
    · exact hzero
    · exact (h.valid.ordinal x hx).1
  · refine nodup_put hordered h.valid.ordinals fun x hx _ heq => ?_
    have hle := UInt64.le_iff_toNat_le.1 (h.valid.ordinal x hx).2
    rw [heq] at hle
    omega
  · refine nodup_put hordered h.valid.instances fun x hx hkey heq => ?_
    exact hother x hx hkey _ List.mem_cons_self _ (hxderived x hx).1 (heq ▸ hderived.1)
  · refine nodup_put hordered h.valid.domains fun x hx hkey heq => ?_
    exact hother x hx hkey _ (by simp) _ (hxderived x hx).2 (heq ▸ hderived.2)
  · have hnonzero : generation ≠ 0 := by
      intro heq
      rw [heq] at hgeneration
      simp at hgeneration
    have hle : r.ordinal ≤ generation := by
      rw [UInt64.le_iff_toNat_le]
      omega
    exact history_of_mem hbound hnonzero hle ⟨r, mem_put.2 (.inl rfl), rfl⟩
  · intro x hx
    rw [checkDerivedIds_iff]
    rcases hmem x hx with rfl | ⟨hx, -⟩
    · exact h.aimed ▸ hderived
    · exact h.valid.derived hx

theorem StableAllocationSnapshot.Valid.tombstoned {generation : UInt64} (h : s.Valid sha256) (hr : r ∈ s.records)
    (hgeneration : generation.toNat = s.generation.toNat + 1) :
    (⟨s.target, generation, s.highWater, put r.tombstoned s.records⟩ : StableAllocationSnapshot).Valid sha256 := by
  have hmem : ∀ x ∈ put r.tombstoned s.records, x = r.tombstoned ∨ x ∈ s.records := fun x hx =>
    (mem_put.1 hx).imp id And.left
  have hinj := h.ordered.inj
  -- an identity of the tombstone is one of the record it replaces
  have hother : ∀ {α : Type} (f : StableAllocationRecord → α), (s.records.map f).Nodup → f r.tombstoned = f r →
      ∀ x ∈ s.records, x.key ≠ r.tombstoned.key → f x ≠ f r.tombstoned := by
    intro α f hnodup hf x hx hkey heq
    rw [hf] at heq
    obtain rfl : x = r := List.inj_on_of_nodup_map hnodup hx hr heq
    exact hkey rfl
  have hordinal : ∀ x ∈ put r.tombstoned s.records, x.ordinal ≠ 0 ∧ x.ordinal ≤ s.highWater := by
    intro x hx
    rcases hmem x hx with rfl | hx
    · exact h.ordinal r hr
    · exact h.ordinal x hx
  refine ⟨h.target, le_trans (length_put_of_mem h.ordered hr rfl) h.length, ordered_put h.ordered, hordinal,
    nodup_put h.ordered h.ordinals (hother _ h.ordinals rfl), nodup_put h.ordered h.instances (hother _ h.instances rfl),
    nodup_put h.ordered h.domains (hother _ h.domains rfl), ?_, ?_⟩
  · obtain ⟨-, hcounters, hle⟩ := h.counters
    obtain ⟨-, top, htop, hmax⟩ := hcounters (List.ne_nil_of_mem hr)
    rw [UInt64.le_iff_toNat_le] at hle
    have hnonzero : generation ≠ 0 := by
      intro heq
      rw [heq] at hgeneration
      simp at hgeneration
    have hwater : s.highWater ≤ generation := by
      rw [UInt64.le_iff_toNat_le]
      omega
    refine history_of_mem (fun x hx => (hordinal x hx).2) hnonzero hwater ?_
    by_cases hkey : top.key = r.key
    · obtain rfl := hinj top htop r hr hkey
      exact ⟨top.tombstoned, mem_put.2 (.inl rfl), hmax⟩
    · exact ⟨top, mem_put.2 (.inr ⟨htop, hkey⟩), hmax⟩
  · intro x hx
    rw [checkDerivedIds_iff]
    rcases hmem x hx with rfl | hx
    · have hderived : Derived sha256 s.target r := h.derived hr
      exact hderived
    · exact h.derived hx

theorem active_put (hs : Ordered s.records) (generation highWater : UInt64) :
    (⟨s.target, generation, highWater, put r s.records⟩ : StableAllocationSnapshot).active.Perm
      ((if r.state = .active then [r] else []) ++ s.active.filter fun x => x.key ≠ r.key) := by
  have hperm := (put_perm (r := r) hs).filter fun record => decide (record.state = .active)
  refine hperm.trans (List.Perm.of_eq ?_)
  rw [List.filter_cons, StableAllocationSnapshot.active, List.filter_filter, List.filter_filter]
  by_cases hactive : r.state = .active
  · simp [hactive, Bool.and_comm]
  · simp [hactive, Bool.and_comm]

theorem Allotted.plansLoop (h : Allotted sha256 target a)
    (hinput : input.allocation = a.snapshot) (htarget : input.allocation.target = input.target)
    (hplan : PlansLoop sha256 input cand r)
    (hfree : CollisionFree sha256 target (a.issued ++ cand.allocationDelta.allocations)) :
    ∃ next, a.snapshot.applyDelta sha256 cand.allocationDelta = .ok next ∧ Allotted sha256 target (a.after cand next) := by
  obtain ⟨hshape, hsubject, hidle, hstate, hordinal, hderived, hbase, hgeneration, -, hwater, hrecords, hroom⟩ := hplan
  rw [← htarget, hinput, h.aimed] at hderived
  rw [hinput] at hidle hordinal hbase hgeneration hroom
  have hissued : cand.allocationDelta.allocations = [r] := by
    simp [StableAllocationDelta.allocations, hrecords, hstate]
  rw [hissued] at hfree
  have hvalid := h.valid_fresh hderived hordinal hgeneration hroom hfree
  have hzero : r.ordinal ≠ 0 := (hvalid.ordinal r (mem_put.2 (.inl rfl))).1
  have hsucc : succU64 a.snapshot.highWater = some r.ordinal := succU64_eq_some.2 hordinal
  have hafter : ordinalAfter (Keyed.find StableAllocationRecord.key r.key a.snapshot.records) r a.snapshot.highWater =
      .ok r.ordinal := by
    cases hf : Keyed.find StableAllocationRecord.key r.key a.snapshot.records with
    | none =>
      refine ok_bind (okOr_ok.2 hsucc) <| ok_check ?_ rfl
      simp [hstate]
    | some x =>
      obtain ⟨hx, -⟩ := Keyed.find_mem _ hf
      have hle := UInt64.le_iff_toNat_le.1 (h.valid.ordinal x hx).2
      have hnew : ¬ (x.ordinal = r.ordinal ∧ x.cardInstance = r.cardInstance ∧ x.loopDomain = r.loopDomain) := by
        rintro ⟨heq, -⟩
        rw [heq] at hle
        omega
      have htombstone : x.state = .tombstone := by
        cases hx' : x.state with
        | tombstone => rfl
        | active =>
          have hactive : x ∈ a.snapshot.active := List.mem_filter.2 ⟨hx, decide_eq_true hx'⟩
          rw [hidle] at hactive
          cases hactive
      simp only [ordinalAfter, if_neg hnew]
      refine ok_bind (okOr_ok.2 hsucc) <| ok_check ?_ rfl
      simp [hstate, htombstone]
  have hgrows : a.snapshot.highWater ≤ r.ordinal := by
    rw [UInt64.le_iff_toNat_le]
    omega
  refine ⟨_, applyDelta_single hbase hwater hrecords (h.aimed ▸ hderived) hzero hafter hgeneration hgrows hvalid, ?_⟩
  have hperm := active_put (r := r) h.valid.ordered cand.allocationDelta.nextGeneration r.ordinal
  rw [if_pos hstate, hidle, List.filter_nil, List.append_nil] at hperm
  refine ⟨hvalid, h.aimed, ?_, ?_, ?_, ?_, ?_, ?_, ?_⟩
  · rw [Allotment.after, hissued, List.pairwise_append]
    refine ⟨h.ascending, List.pairwise_singleton _ _, fun x hx y hy => ?_⟩
    rw [List.mem_singleton.1 hy]
    have hle := h.bounded x hx
    omega
  · intro i hi
    rw [Allotment.after, hissued] at hi
    change i.ordinal.toNat ≤ r.ordinal.toNat
    rcases List.mem_append.1 hi with hi | hi
    · have hle := h.bounded i hi
      omega
    · rw [List.mem_singleton.1 hi]
  · rw [Allotment.after, hissued]
    exact List.forall_mem_append.2 ⟨h.derived, List.forall_mem_singleton.2 hderived⟩
  · intro x hx
    rw [Allotment.after, hissued]
    rcases mem_put.1 hx with rfl | ⟨hx, -⟩
    · exact ⟨x, List.mem_append_right _ List.mem_cons_self, rfl, rfl⟩
    · obtain ⟨i, hi, hsame⟩ := h.known x hx
      exact ⟨i, List.mem_append_left _ hi, hsame⟩
  · intro i hi
    rw [Allotment.after, hissued] at hi
    by_cases hkey : i.key = r.key
    · exact ⟨r, mem_put.2 (.inl rfl), hkey.symm⟩
    · rcases List.mem_append.1 hi with hi | hi
      · obtain ⟨x, hx, hxk⟩ := h.kept i hi
        exact ⟨x, mem_put.2 (.inr ⟨hx, hxk ▸ hkey⟩), hxk⟩
      · exact absurd (congrArg StableAllocationRecord.key (List.mem_singleton.1 hi)) hkey
  · exact le_of_eq hperm.length_eq
  · intro x hx
    obtain rfl : x = r := List.mem_singleton.1 (hperm.mem_iff.1 hx)
    simp only [Allotment.after, if_pos hshape]
    exact hsubject

theorem Allotted.plansEmpty (h : Allotted sha256 target a) (hinput : input.allocation = a.snapshot)
    (hplan : PlansEmpty input cand) :
    ∃ next, a.snapshot.applyDelta sha256 cand.allocationDelta = .ok next ∧ Allotted sha256 target (a.after cand next) := by
  obtain ⟨hshape, hsingle, hbase, hgeneration, hwater, hrecords⟩ := hplan
  rw [hinput] at hsingle hbase hgeneration hwater hrecords
  have hissued : ∀ next, (a.after cand next).issued = a.issued := by
    intro next
    simp [Allotment.after, StableAllocationDelta.allocations, hrecords, List.filter_map, Function.comp_def,
      StableAllocationRecord.tombstoned]
  -- what is left to show when the records keep their keys and ordinals and nothing is active
  have hallotted : ∀ next : StableAllocationSnapshot, next.Valid sha256 → next.target = a.snapshot.target →
      next.highWater = a.snapshot.highWater → next.active = [] →
      (∀ x ∈ next.records, ∃ y ∈ a.snapshot.records, y.key = x.key ∧ y.ordinal = x.ordinal) →
      (∀ y ∈ a.snapshot.records, ∃ x ∈ next.records, x.key = y.key) → Allotted sha256 target (a.after cand next) := by
    intro next hvalid htarget hhigh hidle hfrom hto
    refine ⟨hvalid, htarget.trans h.aimed, ?_, ?_, ?_, ?_, ?_, ?_, ?_⟩
    · rw [hissued]
      exact h.ascending
    · intro i hi
      have hle := h.bounded i (hissued next ▸ hi)
      rw [← hhigh] at hle
      exact hle
    · exact fun i hi => h.derived i (hissued next ▸ hi)
    · intro x hx
      obtain ⟨y, hy, hk, ho⟩ := hfrom x hx
      obtain ⟨i, hi, hik, hio⟩ := h.known y hy
      exact ⟨i, (hissued next).symm ▸ hi, hik.trans hk, hio.trans ho⟩
    · intro i hi
      obtain ⟨y, hy, hyk⟩ := h.kept i (hissued next ▸ hi)
      obtain ⟨x, hx, hxk⟩ := hto y hy
      exact ⟨x, hx, hxk.trans hyk⟩
    · change next.active.length ≤ 1
      simp [hidle]
    · intro x hx
      change x ∈ next.active at hx
      rw [hidle] at hx
      cases hx
  match hactive : a.snapshot.active with
  | [] =>
    rw [hactive] at hrecords hgeneration
    have hdelta : cand.allocationDelta =
        ⟨a.snapshot.generation, a.snapshot.generation, a.snapshot.highWater, []⟩ := by
      rw [if_pos rfl] at hgeneration
      rcases hd : cand.allocationDelta with ⟨base, generation, water, records⟩
      rw [hd] at hbase hgeneration hwater hrecords
      obtain rfl : base = a.snapshot.generation := hbase
      obtain rfl : generation = a.snapshot.generation := hgeneration
      obtain rfl : water = a.snapshot.highWater := hwater
      obtain rfl : records = [] := hrecords
      rfl
    exact ⟨a.snapshot, hdelta ▸ (sealed_iff.2 h.valid).applyDelta_nil,
      hallotted _ h.valid rfl rfl hactive (fun x hx => ⟨x, hx, rfl, rfl⟩) fun y hy => ⟨y, hy, rfl⟩⟩
  | [r] =>
    rw [hactive] at hrecords hgeneration
    rw [if_neg (by simp)] at hgeneration
    have hr : r ∈ a.snapshot.records ∧ r.state = .active := by
      have hmem : r ∈ a.snapshot.active := hactive ▸ List.mem_cons_self
      obtain ⟨hr, hstate⟩ := List.mem_filter.1 hmem
      exact ⟨hr, of_decide_eq_true hstate⟩
    have hvalid := h.valid.tombstoned hr.1 hgeneration
    have hfind : Keyed.find StableAllocationRecord.key r.tombstoned.key a.snapshot.records = some r :=
      (h.valid.ordered.find_iff _ _ _).2 ⟨hr.1, rfl⟩
    have hafter : ordinalAfter (Keyed.find StableAllocationRecord.key r.tombstoned.key a.snapshot.records) r.tombstoned
        a.snapshot.highWater = .ok a.snapshot.highWater := by
      rw [hfind]
      refine (if_pos ⟨rfl, rfl, rfl⟩).trans (ok_check ?_ rfl)
      simp [hr.2, StableAllocationRecord.tombstoned]
    have hderived : Derived sha256 a.snapshot.target r := h.valid.derived hr.1
    refine ⟨_, applyDelta_single hbase hwater hrecords hderived (h.valid.ordinal r hr.1).1 hafter hgeneration
      (UInt64.le_refl _) hvalid, hallotted _ hvalid rfl rfl ?_ ?_ ?_⟩
    · have hperm := active_put (r := r.tombstoned) h.valid.ordered cand.allocationDelta.nextGeneration a.snapshot.highWater
      rw [hactive] at hperm
      simpa [StableAllocationRecord.tombstoned] using hperm
    · intro x hx
      rcases mem_put.1 hx with rfl | ⟨hx, -⟩
      · exact ⟨r, hr.1, rfl, rfl⟩
      · exact ⟨x, hx, rfl, rfl⟩
    · intro y hy
      by_cases hkey : y.key = r.key
      · exact ⟨r.tombstoned, mem_put.2 (.inl rfl), hkey.symm⟩
      · exact ⟨y, mem_put.2 (.inr ⟨hy, hkey⟩), rfl⟩
  | x :: y :: rest =>
    rw [hactive] at hsingle
    simp at hsingle

/-- **One plan**: its delta is applied, and the invariant holds after it. -/
theorem Allotted.planned (h : Allotted sha256 target a) (hinput : input.allocation = a.snapshot)
    (hplan : plan sha256 input = .ok (.candidate cand))
    (hfree : CollisionFree sha256 target (a.issued ++ cand.allocationDelta.allocations)) :
    ∃ next, a.snapshot.applyDelta sha256 cand.allocationDelta = .ok next ∧ Allotted sha256 target (a.after cand next) := by
  obtain ⟨htarget, ⟨r, hloop⟩ | hempty⟩ := plan_candidate hplan
  · exact h.plansLoop hinput htarget hloop hfree
  · exact h.plansEmpty hinput hempty

/-- **Every run keeps the invariant.** -/
theorem AllotmentRun.allotted (h : AllotmentRun sha256 target a)
    (hfree : CollisionFree sha256 target a.issued) : Allotted sha256 target a := by
  induction h with
  | @empty s h =>
    obtain ⟨-, -, hs, -, hsealed⟩ := tryNew_ok h
    have hrecords : s.records = [] := by
      rw [hs]
      rfl
    have htarget : s.target = target := by rw [hs]
    have hactive : s.active = [] := by rw [StableAllocationSnapshot.active, hrecords, List.filter_nil]
    refine ⟨sealed_iff.1 hsealed, htarget, List.Pairwise.nil, by simp, by simp, ?_, by simp, ?_, ?_⟩
    · simp [hrecords]
    · simp [hactive]
    · simp [hactive]
  | planned hrun hinput hplan happly ih =>
    obtain ⟨next, hnext, hallotted⟩ := (ih hfree.of_append).planned hinput hplan hfree
    obtain rfl := Except.ok.inj (hnext.symm.trans happly)
    exact hallotted

theorem Allotted.distinct (h : Allotted sha256 target a) (hfree : CollisionFree sha256 target a.issued) :
    (a.issued.map (·.ordinal)).Nodup ∧ (a.issued.map (·.cardInstance)).Nodup ∧ (a.issued.map (·.loopDomain)).Nodup := by
  have hne : a.issued.Pairwise fun x y => x.ordinal ≠ y.ordinal :=
    h.ascending.imp fun hlt heq => absurd (congrArg UInt64.toNat heq) (ne_of_lt hlt)
  have hids : a.issued.Pairwise fun x y => x.cardInstance ≠ y.cardInstance ∧ x.loopDomain ≠ y.loopDomain := by
    refine List.Pairwise.imp_of_mem (fun {x y} hx hy hxy => ?_) hne
    refine ⟨fun heq => hxy ?_, fun heq => hxy ?_⟩
    · exact (hfree x hx y hy _ List.mem_cons_self _ (heq ▸ (h.derived x hx).1) (h.derived y hy).1).2
    · exact (hfree x hx y hy _ (by simp) _ (heq ▸ (h.derived x hx).2) (h.derived y hy).2).2
  exact ⟨List.pairwise_map.2 hne, List.pairwise_map.2 (hids.imp And.left), List.pairwise_map.2 (hids.imp And.right)⟩

theorem Allotted.record_issued (h : Allotted sha256 target a)
    {r : StableAllocationRecord} (hr : r ∈ a.snapshot.records) : ∃ i ∈ a.issued, i.key = r.key ∧ i.ordinal = r.ordinal ∧
      i.cardInstance = r.cardInstance ∧ i.loopDomain = r.loopDomain := by
  obtain ⟨i, hi, hkey, hordinal⟩ := h.known r hr
  have hderived := h.valid.derived hr
  have hissued := h.derived i hi
  rw [Derived, h.aimed, ← hkey, ← hordinal] at hderived
  exact ⟨i, hi, hkey, hordinal, Except.ok.inj (hissued.1.symm.trans hderived.1),
    Except.ok.inj (hissued.2.symm.trans hderived.2)⟩

theorem plan_emptyTarget_not_exhausted (hdesired : input.desired = .emptyTarget)
    (hroom : input.allocation.generation.toNat < u64Max) : plan sha256 input ≠ .error (.error .allocationExhausted) := by
  have hsucc : ∃ next, succU64 input.allocation.generation = some next := by
    refine ⟨_, if_pos ?_⟩
    unfold u64Max at hroom
    omega
  have hadvance : ∀ changed, Avoids .allocationExhausted (advanceGeneration input.allocation.generation changed) := by
    intro changed
    obtain ⟨next, hnext⟩ := hsucc
    unfold advanceGeneration
    cases changed with
    | true => exact avoids_of_ok (okOr_ok.2 hnext)
    | false => exact avoids_of_ok rfl
  have hcontent : ∀ manifest, Avoids .allocationExhausted (buildEmptyContent input.target manifest) := fun manifest =>
    avoids_check (by decide) <| avoids_check (by decide) <|
      avoids_of_ok rfl
  have hcandidate : ∀ content delta diagnostics,
      Avoids .allocationExhausted (candidate sha256 content delta diagnostics) := fun content delta diagnostics =>
    avoids_bind (avoids_wrapErr fun e he => by cases he) fun _ _ => avoids_of_ok rfl
  have hmanifest : Avoids .allocationExhausted (plannedManifest input) :=
    avoids_bind (avoids_okOr _ (by decide)) fun _ _ => avoids_check (by decide) <|
      avoids_of_ok rfl
  have hplan : Avoids .allocationExhausted (planDesired sha256 input) := by
    unfold planDesired
    rw [hdesired]
    exact avoids_bind hmanifest fun _ _ => avoids_bind
      (avoids_bind (hadvance _) fun _ _ => avoids_bind (hcontent _) fun _ _ => hcandidate _ _ _) fun _ _ => avoids_of_ok rfl
  have htransition : Avoids .allocationExhausted (validateTransition input.previous input.desired) := by
    rw [hdesired]
    unfold validateTransition
    cases input.previous <;> (intro h; cases h)
  have hservice : ∀ e, PlannerFault.ofService e ≠ .error .allocationExhausted := by
    intro e h
    cases e <;> cases h
  refine avoids_bind (avoids_wrapErr fun e he => absurd he (hservice e)) fun _ _ =>
    avoids_check (by decide) <| avoids_bind (avoids_wrapErr fun e he => ?_) fun _ _ =>
    avoids_check (by decide) <|
    avoids_bind (avoids_bind (avoids_okOr _ (by decide)) fun _ _ => avoids_rejectIf _ (by decide)) fun _ _ =>
    avoids_wrapErr fun e he => ?_
  · obtain rfl := PlannerFault.error.inj he
    exact htransition
  · obtain rfl := PlannerFault.error.inj he
    exact hplan

theorem validateSuccessorOf_iff {p : StableAllocationSnapshot} (hp : p.Sealed sha256) :
    s.validateSuccessorOf sha256 p = .ok () ↔ ∃ delta, p.applyDelta sha256 delta = .ok s := by
  constructor
  · intro h
    simp only [validateSuccessorOf, bind_ok, rejectIf_ok, exists_unit, not_not] at h
    obtain ⟨-, -, rebuilt, hrebuilt, rfl⟩ := h
    exact ⟨_, hrebuilt⟩
  · rintro ⟨delta, h⟩
    exact validateSuccessorOf_applyDelta hp.ordered h

/-- **No identity is given out twice.**  In every run whose allocations derive different identities: every delta the planner
makes is applied and its result is a valid successor, the fresh allocations of it differ from all before in ordinal, instance
and domain, and after a loop the empty target is not exhausted; every key ever given out has a record, every record is one of
the allocations given out, and these are all different; at most one record is active, the subject of the latest loop content.
A sealed snapshot is a valid successor of another exactly if a delta leads to it. -/
theorem stable_allocation_never_reuses_an_identity (sha256 : Sha256) :
    (∀ target a, AllotmentRun sha256 target a → CollisionFree sha256 target a.issued →
      (∀ input cand, input.allocation = a.snapshot → plan sha256 input = .ok (.candidate cand) →
        CollisionFree sha256 target (a.issued ++ cand.allocationDelta.allocations) →
        ∃ next, a.snapshot.applyDelta sha256 cand.allocationDelta = .ok next ∧
          next.validateSuccessorOf sha256 a.snapshot = .ok () ∧
          (∀ new ∈ cand.allocationDelta.allocations, ∀ old ∈ a.issued, new.ordinal ≠ old.ordinal ∧
            new.cardInstance ≠ old.cardInstance ∧ new.loopDomain ≠ old.loopDomain) ∧
          (cand.content.shape = .oneSourceLoop → ∀ after : PlannerInput, after.allocation = next →
            after.desired = .emptyTarget → plan sha256 after ≠ .error (.error .allocationExhausted))) ∧
      (∀ i ∈ a.issued, ∃ r ∈ a.snapshot.records, r.key = i.key) ∧
      (∀ r ∈ a.snapshot.records, ∃ i ∈ a.issued, i.key = r.key ∧ i.ordinal = r.ordinal ∧
        i.cardInstance = r.cardInstance ∧ i.loopDomain = r.loopDomain) ∧
      (a.issued.map (·.ordinal)).Nodup ∧ (a.issued.map (·.cardInstance)).Nodup ∧ (a.issued.map (·.loopDomain)).Nodup ∧
      a.snapshot.active.length ≤ 1 ∧
      ∀ r ∈ a.snapshot.active, a.loopSubject = some (r.key, r.cardInstance, r.loopDomain)) ∧
    ∀ p s : StableAllocationSnapshot, p.Sealed sha256 → s.Sealed sha256 →
      (s.validateSuccessorOf sha256 p = .ok () ↔ ∃ delta, p.applyDelta sha256 delta = .ok s) := by
  refine ⟨fun target a hrun hfree => ?_, fun p s hp _ => validateSuccessorOf_iff hp⟩
  have hallotted := hrun.allotted hfree
  obtain ⟨hordinals, hinstances, hdomains⟩ := hallotted.distinct hfree
  refine ⟨fun input cand hinput hplan hnew => ?_, hallotted.kept, fun r hr => hallotted.record_issued hr, hordinals,
    hinstances, hdomains, hallotted.single, hallotted.subject⟩
  obtain ⟨next, hnext, hafter⟩ := hallotted.planned hinput hplan hnew
  refine ⟨next, hnext, validateSuccessorOf_applyDelta hallotted.valid.ordered hnext, ?_, ?_⟩
  · intro new hn old ho
    obtain ⟨h1, h2, h3⟩ := hafter.distinct hnew
    have hdiffer : ∀ {α : Type} (f : StableAllocationRecord → α),
        ((a.issued ++ cand.allocationDelta.allocations).map f).Nodup → f new ≠ f old := by
      intro α f hnodup heq
      rw [List.map_append, List.nodup_append] at hnodup
      exact hnodup.2.2 (f old) (List.mem_map_of_mem ho) (f new) (List.mem_map_of_mem hn) heq.symm
    exact ⟨hdiffer _ h1, hdiffer _ h2, hdiffer _ h3⟩
  · intro hshape after hallocation hdesired
    refine plan_emptyTarget_not_exhausted hdesired ?_
    obtain ⟨-, -, -, hgeneration, -⟩ := applyDelta_ok hnext
    rw [hallocation, hgeneration]
    obtain ⟨-, ⟨r, hloop⟩ | hempty⟩ := plan_candidate hplan
    · exact hloop.live
    · rw [hempty.shape] at hshape
      cases hshape

/-! A target that runs a loop, is emptied and runs the loop again, over a hash that mixes every byte into all bits. -/

def mixingHash : Sha256 := fun bytes =>
  .ofNat (bytes.foldl (fun acc byte => (acc + byte.toNat + 1) * (2 ^ 255 + 2 ^ 131 + 0x9e3779b97f4a7c15) % 2 ^ 256) 1)

def soleManifest : VerifiedRuntimeManifestIngressV1 :=
  { manifestCanonicalWire := [], projectionCanonicalWire := [], manifestDigest := .ofNat 1, target := .ofNat 1,
    profileFingerprint := .ofNat 2, canonicalEmptyConfigDigest := .ofNat 3, fixtureDefinition := .ofNat 4,
    fixtureImplementation := .ofNat 5, fixtureExport := .ofNat 6, fixtureDefinitionDigest := .ofNat 7,
    fixtureArtifactDigest := .ofNat 8 }

def soleLock : Deck.DeckLock :=
  { deckKey := .ofNat 9, topology := { cardKeys := [.ofNat 10], links := [], requirements := [] },
    resolvedClosure :=
      { cards := [{ key := .ofNat 10, definition := .ofNat 4, requestedVersion := ⟨1, 1⟩, definitionVersion := 1,
                    definitionDigest := .ofNat 7, implementation := .ofNat 5, artifactExport := .ofNat 6,
                    artifactDigest := .ofNat 8, role := .referenceSubject, refinement := none, config := .canonicalEmpty,
                    ports := [] }],
        deliveryProfiles := [], requirements := [] },
    canonicalWire := [], digest := .ofNat 11 }

def soleInput : PlannerInput :=
  { target := .ofNat 1, desired := .oneSourceLoop soleLock ⟨1, 2, 3⟩ (.ofNat 3), previous := .uninitializedNoneExactZero,
    manifest := some soleManifest, allocation := ⟨.ofNat 1, 0, 0, []⟩, serviceDependencies := [] }

def turn (a : Allotment) (previous : PreviousTargetEligibility) (desired : PlannerDesired) : Option Allotment :=
  match plan mixingHash { soleInput with previous, desired, allocation := a.snapshot } with
  | .ok (.candidate cand) => match a.snapshot.applyDelta mixingHash cand.allocationDelta with
    | .ok next => some (a.after cand next)
    | .error _ => none
  | _ => none

theorem turn_run {a b : Allotment} {previous : PreviousTargetEligibility} {desired : PlannerDesired}
    (hrun : AllotmentRun mixingHash (.ofNat 1) a) (h : turn a previous desired = some b) :
    AllotmentRun mixingHash (.ofNat 1) b := by
  unfold turn at h
  split at h
  · rename_i cand hplan
    split at h
    · rename_i next hnext
      cases h
      have hinput : ({ soleInput with previous, desired, allocation := a.snapshot } : PlannerInput).allocation = a.snapshot := rfl
      exact hrun.planned hinput hplan hnext
    · cases h
  · cases h

theorem CollisionFree.of_nodup {sha256 : Sha256} {target : Ref16} {issued : List StableAllocationRecord}
    (h : ∀ domain ∈ [instanceAllocationDomain, domainAllocationDomain],
      (issued.map fun r => deriveId sha256 domain target r.key r.ordinal).Nodup) : CollisionFree sha256 target issued := by
  intro x hx y hy domain hdomain id hidx hidy
  rw [List.inj_on_of_nodup_map (h domain hdomain) hx hy (hidx.trans hidy.symm)]
  exact ⟨rfl, rfl⟩

def turns (a : Allotment) : List (PreviousTargetEligibility × PlannerDesired) → Option Allotment
  | [] => some a
  | (previous, desired) :: rest => (turn a previous desired).bind fun b => turns b rest

theorem turns_run : ∀ {inputs : List (PreviousTargetEligibility × PlannerDesired)} {a b : Allotment},
    AllotmentRun mixingHash (.ofNat 1) a → turns a inputs = some b → AllotmentRun mixingHash (.ofNat 1) b
  | [], _, _, hrun, h => by cases h; exact hrun
  | _ :: _, _, _, hrun, h => by
    obtain ⟨_, hturn, hrest⟩ := Option.bind_eq_some_iff.1 h
    exact turns_run (turn_run hrun hturn) hrest

def freshAllotment : Allotment := ⟨⟨.ofNat 1, 0, 0, []⟩, [], none⟩

def loopTwice : List (PreviousTargetEligibility × PlannerDesired) :=
  [(.uninitializedNoneExactZero, soleInput.desired), (.oneSourceLoopLiveReady, .emptyTarget),
    (.emptyDeactivateTerminalExactZero, soleInput.desired)]

/-- The loop that follows the emptied one has an identity of its own, and only it is active. -/
theorem second_loop_is_allocated_afresh : ∃ a, AllotmentRun mixingHash (.ofNat 1) a ∧
    a.issued.map (·.ordinal) = [1, 2] ∧ (a.issued.map (·.cardInstance)).Nodup ∧ (a.issued.map (·.loopDomain)).Nodup ∧
    a.snapshot.active.length ≤ 1 ∧ ∀ r ∈ a.snapshot.active, a.loopSubject = some (r.key, r.cardInstance, r.loopDomain) := by
  have hordinals : (turns freshAllotment loopTwice).map (fun a => a.issued.map (·.ordinal)) = some [1, 2] := by decide +kernel
  have hapart : (turns freshAllotment loopTwice).all (fun a =>
      [instanceAllocationDomain, domainAllocationDomain].all fun domain =>
        decide (a.issued.map fun r => deriveId mixingHash domain (.ofNat 1) r.key r.ordinal).Nodup) = true := by decide +kernel
  cases hrun : turns freshAllotment loopTwice with
  | none => rw [hrun] at hordinals; cases hordinals
  | some a =>
    rw [hrun] at hordinals hapart
    have hreached := turns_run (.empty rfl) hrun
    have hfree : CollisionFree mixingHash (.ofNat 1) a.issued := by
      refine .of_nodup fun domain hdomain => of_decide_eq_true ?_
      exact List.all_eq_true.1 hapart domain hdomain
    obtain ⟨-, -, -, -, hinstances, hdomains, hsingle, hsubject⟩ :=
      (stable_allocation_never_reuses_an_identity mixingHash).1 (.ofNat 1) a hreached hfree
    exact ⟨a, hreached, Option.some.inj hordinals, hinstances, hdomains, hsingle, hsubject⟩

end Controller
end ParaEgox
