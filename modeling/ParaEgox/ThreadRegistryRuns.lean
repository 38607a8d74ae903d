import ParaEgox.ThreadRegistry

/-!
# ThreadRegistryRuns — the budget and the registry over any run

A domain stands on one reservation, which is with its owner until the owner has proved and in its proof from then on.  The
records of the budget are the reservations the domains stand on, before, between and after the phases of a shutdown.
-/
namespace ParaEgox
namespace Executor

open Check Stateful
open RuntimeThreadRegistry (Answer DrainFaults)

def OwnedThreadDomain.lease (o : OwnedThreadDomain) : Option ExecutorReservation :=
  match o.joinProof with
  | some proof => proof.reservation
  | none => o.owner.reservation

def recordOf (res : ExecutorReservation) : Nat × ReservationRecord :=
  (res.reservationId, ⟨res.managedWorkers, res.nativeThreads⟩)

def domainRecord (e : Ref16 × OwnedThreadDomain) : Option (Nat × ReservationRecord) := e.2.lease.map recordOf

structure Covers (marker : Nat) (owner : ThreadOwner) (res : ExecutorReservation) : Prop where
  marker : res.marker = marker
  active : res.active = true
  managed : res.managedWorkers = owner.config.workers
  native : res.nativeThreads = 0

structure Complete (owner : ThreadOwner) (proof : ThreadDomainJoinProof) : Prop where
  kind : proof.kind = .completeShutdown
  started : proof.startedWorkers = owner.config.workers
  joined : proof.joinedWorkers = owner.config.workers
  native : proof.nativeThreadsReleased = true

structure Backed (marker : Nat) (o : OwnedThreadDomain) : Prop where
  lease : ∃ res, o.lease = some res ∧ Covers marker o.owner res
  proof : ∀ proof, o.joinProof = some proof → Complete o.owner proof

def acceptedId (proof : ThreadDomainJoinProof) : Option Nat := proof.reservation.map (·.reservationId)

structure InStep (r : RuntimeThreadRegistry) : Prop where
  maximum : r.budget.maximumThreads = r.plan.maxTotalThreads
  framework : r.budget.frameworkThreads = r.plan.frameworkThreads
  sound : r.budget.Sound
  native : r.budget.nativeThreads = 0
  capacity : r.domains.length ≤ maxOwnedThreadDomains
  nodup : (Assoc.keys r.domains).Nodup
  backed : ∀ e ∈ r.domains, Backed r.budget.marker e.2
  records : r.budget.active.Perm (r.domains.filterMap domainRecord)
  ids : (r.accepted.filterMap acceptedId ++ Assoc.keys r.budget.active).Perm (List.range' 1 r.budget.nextReservationId)
  joined : ∀ proof ∈ r.accepted, proof.startedWorkers = proof.joinedWorkers

def Quiet (r : RuntimeThreadRegistry) : Prop := ∀ e ∈ r.domains, e.2.joinProof = none

variable {r : RuntimeThreadRegistry}

theorem InStep.nodup_active (h : InStep r) : (Assoc.keys r.budget.active).Nodup :=
  (List.nodup_append.1 (h.ids.nodup_iff.2 List.nodup_range')).2.1

theorem InStep.id_le (h : InStep r) : ∀ id ∈ Assoc.keys r.budget.active, id ≤ r.budget.nextReservationId := by
  intro id hid
  have hrange := h.ids.mem_iff.1 (List.mem_append_right _ hid)
  have := (List.mem_range'_1.1 hrange).2
  omega

theorem InStep.managed (h : InStep r) :
    r.budget.managedWorkers = (r.domains.map (·.2.owner.config.workers)).sum := by
  have hrecords : ∀ domains : List (Ref16 × OwnedThreadDomain), (∀ e ∈ domains, Backed r.budget.marker e.2) →
      ((domains.filterMap domainRecord).map (·.2.managedWorkers)).sum = (domains.map (·.2.owner.config.workers)).sum := by
    intro domains hbacked
    induction domains with
    | nil => rfl
    | cons e domains ih =>
      obtain ⟨res, hlease, hcovers⟩ := (hbacked e List.mem_cons_self).lease
      have hrecord : domainRecord e = some (recordOf res) := by rw [domainRecord, hlease]; rfl
      rw [List.filterMap_cons_some hrecord, List.map_cons, List.map_cons, List.sum_cons, List.sum_cons,
        ih fun x hx => hbacked x (List.mem_cons_of_mem _ hx)]
      exact congrArg (· + _) hcovers.managed
  rw [← h.sound.managed_eq, ← hrecords r.domains h.backed]
  exact (h.records.map _).sum_eq

/-! ## Building -/

theorem startWorkers_error {start : Nat → WorkerStart} : ∀ {remaining worker : Nat} {e : ThreadDomainBuildError}
    {started : Nat}, startWorkers start remaining worker = .error (e, started) → started ≤ worker + remaining
  | remaining + 1, worker, e, started, h => by
    unfold startWorkers at h
    split at h
    · have := startWorkers_error h
      omega
    all_goals
      simp only [Except.error.injEq, Prod.mk.injEq] at h
      omega

/-- **A build that fails proves that what it started was joined**; one that succeeds keeps its reservation. -/
theorem ThreadOwner.tryNew_cases (config : ThreadDomainConfig) (conditions : StartConditions) (res : ExecutorReservation) :
    (∃ e started, started ≤ res.managedWorkers ∧
        ThreadOwner.tryNew config conditions res = .error (constructionFailure e res started)) ∨
      (res.managedWorkers = config.workers ∧ res.nativeThreads = 0 ∧
        ThreadOwner.tryNew config conditions res = .ok ⟨config, some res⟩) := by
  unfold ThreadOwner.tryNew
  by_cases hworkers : res.managedWorkers = config.workers
  · rw [if_neg (not_not.2 hworkers)]
    by_cases hnative : res.nativeThreads = 0
    · rw [if_neg (not_not.2 hnative)]
      by_cases hdeadline : conditions.deadlineOverflows = true
      · rw [if_pos hdeadline]
        exact .inl ⟨_, 0, Nat.zero_le _, rfl⟩
      · rw [if_neg hdeadline]
        cases hstart : startWorkers conditions.start config.workers 0 with
        | error failure =>
          refine .inl ⟨failure.1, failure.2, ?_, rfl⟩
          have := startWorkers_error hstart
          omega
        | ok u => exact .inr ⟨hworkers, hnative, rfl⟩
    · rw [if_pos hnative]
      exact .inl ⟨_, 0, Nat.zero_le _, rfl⟩
  · rw [if_pos hworkers]
    exact .inl ⟨_, 0, Nat.zero_le _, rfl⟩

def unexpected : List ThreadRegistryError :=
  [.stateInconsistent, .budget .stateInconsistent, .budget .reservationMismatch, .budget .alreadyReleased,
    .budget .ownerMismatch, .budget .joinProofMismatch]

theorem refusal_expected {e : ExecutorBudgetError} (h : e ∈ ExecutorBudget.refusals) :
    ThreadRegistryError.budget e ∉ unexpected := by
  simp only [ExecutorBudget.refusals, List.mem_cons, List.not_mem_nil, or_false] at h
  rcases h with rfl | rfl | rfl | rfl <;> decide

def nextReservation (b : ExecutorBudget) (workers natives : Nat) : ExecutorReservation :=
  ⟨b.marker, b.nextReservationId + 1, workers, natives, true⟩

theorem InStep.next_new (h : InStep r) : r.budget.nextReservationId + 1 ∉ Assoc.keys r.budget.active := fun hmem =>
  absurd (h.id_le _ hmem) (Nat.not_le_of_lt (Nat.lt_succ_self _))

theorem InStep.get_reserved (h : InStep r) (workers natives : Nat) :
    Assoc.get (r.budget.nextReservationId + 1) (r.budget.reserved workers natives).active = some ⟨workers, natives⟩ := by
  show Assoc.get _ (r.budget.active ++ [(r.budget.nextReservationId + 1, ⟨workers, natives⟩)]) = _
  rw [Assoc.get_append, Assoc.get_eq_none.2 h.next_new, Option.none_or, Assoc.get_cons, if_pos rfl]

theorem InStep.nodup_reserved (h : InStep r) (workers natives : Nat) :
    (Assoc.keys (r.budget.reserved workers natives).active).Nodup := by
  show (Assoc.keys (r.budget.active ++ [(r.budget.nextReservationId + 1, ⟨workers, natives⟩)])).Nodup
  rw [Assoc.keys_append]
  exact h.nodup_active.append (List.nodup_singleton _) (List.disjoint_singleton.2 h.next_new)

theorem InStep.settled_reserved (h : InStep r) (workers natives : Nat) :
    (r.budget.reserved workers natives).settled (nextReservation r.budget workers natives) =
      { r.budget with nextReservationId := r.budget.nextReservationId + 1 } := by
  have hactive : Assoc.erase (r.budget.nextReservationId + 1)
      (r.budget.active ++ [(r.budget.nextReservationId + 1, ⟨workers, natives⟩)]) = r.budget.active := by
    rw [Assoc.erase_append, Assoc.erase_of_notMem h.next_new]
    simp [Assoc.erase]
  simp only [ExecutorBudget.settled, ExecutorBudget.reserved, nextReservation, hactive, Nat.add_sub_cancel]

theorem range'_succ (n : Nat) : List.range' 1 (n + 1) = List.range' 1 n ++ [n + 1] := by
  rw [List.range'_1_concat, Nat.add_comm 1 n]

/-- The registry after a build that failed: its proof is accepted, and the identity of its reservation is spent. -/
def rolledBack (r : RuntimeThreadRegistry) (proof : ThreadDomainJoinProof) : RuntimeThreadRegistry :=
  { r with
    budget := { r.budget with nextReservationId := r.budget.nextReservationId + 1 }
    accepted := r.accepted ++ [proof] }

variable {proof : ThreadDomainJoinProof} {domain : Ref16} {time : OwnedThreadDomain → Nat} {refs : List Ref16}

theorem InStep.rollBack (h : InStep r) (workers natives : Nat)
    (hres : proof.reservation = some (nextReservation r.budget workers natives))
    (hjoined : proof.startedWorkers = proof.joinedWorkers) :
    InStep (rolledBack r proof) :=
  { h with
    sound :=
      { framework_pos := h.sound.framework_pos
        managed_eq := h.sound.managed_eq
        native_eq := h.sound.native_eq
        total_le := h.sound.total_le
        maximum_le := h.sound.maximum_le }
    ids := by
      have hid : acceptedId proof = some (r.budget.nextReservationId + 1) := by rw [acceptedId, hres]; rfl
      show ((r.accepted ++ [proof]).filterMap acceptedId ++ Assoc.keys r.budget.active).Perm
        (List.range' 1 (r.budget.nextReservationId + 1))
      rw [List.filterMap_append, range'_succ, List.filterMap_cons_some hid, List.filterMap_nil, List.append_assoc]
      refine (List.Perm.append_left _ List.perm_append_comm).trans ?_
      rw [← List.append_assoc]
      exact h.ids.append_right _
    joined := by
      intro p hp
      rcases List.mem_append.1 hp with hp | hp
      · exact h.joined p hp
      · rw [List.mem_singleton.1 hp]
        exact hjoined }

theorem InStep.releaseReserved (h : InStep r) {workers : Nat} (hsound : (r.budget.reserved workers 0).Sound)
    (hp : (r.budget.reserved workers 0).Settles proof (nextReservation r.budget workers 0)) :
    releaseBudget proof { r with budget := r.budget.reserved workers 0 } = (.ok (), rolledBack r proof) := by
  obtain ⟨hrelease, -⟩ := hsound.release (h.nodup_reserved workers 0) hp
  rw [h.settled_reserved] at hrelease
  unfold releaseBudget
  rw [hrelease]
  rfl

theorem InStep.installed (h : InStep r) (drain : Nat) {config : ThreadDomainConfig} {workers : Nat}
    (hworkers : workers = config.workers) (hnew : domain ∉ Assoc.keys r.domains)
    (hroom : r.domains.length < maxOwnedThreadDomains)
    (hsound : (r.budget.reserved workers 0).Sound) :
    InStep { r with
      budget := r.budget.reserved workers 0
      domains := r.domains ++ [(domain, ⟨drain, ⟨config, some (nextReservation r.budget workers 0)⟩, none⟩)] } :=
  { maximum := h.maximum
    framework := h.framework
    sound := hsound
    native := h.native
    capacity := by
      rw [List.length_append]
      exact hroom
    nodup := by
      rw [Assoc.keys_append]
      exact h.nodup.append (List.nodup_singleton _) (List.disjoint_singleton.2 hnew)
    backed := by
      intro e he
      rcases List.mem_append.1 he with he | he
      · exact h.backed e he
      · rw [List.mem_singleton.1 he]
        exact ⟨⟨_, rfl, rfl, rfl, hworkers, rfl⟩, fun _ hp => by cases hp⟩
    records := by
      rw [List.filterMap_append]
      exact h.records.append_right _
    ids := by
      show (r.accepted.filterMap acceptedId ++ Assoc.keys (r.budget.active ++ [(r.budget.nextReservationId + 1, _)])).Perm
        (List.range' 1 (r.budget.nextReservationId + 1))
      rw [Assoc.keys_append, range'_succ, ← List.append_assoc]
      exact h.ids.append_right _
    joined := h.joined }

structure Restored (r r' : RuntimeThreadRegistry) : Prop where
  instep : InStep r'
  domains : r'.domains = r.domains
  budget : r'.budget = { r.budget with nextReservationId := r'.budget.nextReservationId }

theorem InStep.restored (h : InStep r) : Restored r r := ⟨h, rfl, rfl⟩

structure Installed (r r' : RuntimeThreadRegistry) (spec : ThreadDomainSpec) : Prop where
  instep : InStep r'
  domains : ∃ owner, r'.domains = r.domains ++ [(spec.domain, ⟨spec.drainBudget, owner, none⟩)]

/-- **Creating a domain installs it on its reservation, or restores the budget and the registry.** -/
theorem InStep.tryCreateOwner (h : InStep r) (spec : ThreadDomainSpec) (natives : Nat) (config : ThreadDomainConfig)
    (conditions : StartConditions) :
    Leaves (RuntimeThreadRegistry.tryCreateOwner spec natives (ThreadOwner.tryNew config conditions)) r
      (fun domain r' => domain = spec.domain ∧ Installed r r' spec) (fun e r' => e ∉ unexpected ∧ Restored r r') := by
  unfold RuntimeThreadRegistry.tryCreateOwner
  refine leaves_self (leaves_reject (fun hnew => ?_) fun _ => ⟨by decide, h.restored⟩)
  refine leaves_reject (fun hroom => ?_) fun _ => ⟨by decide, h.restored⟩
  refine leaves_reject (fun hnative => ?_) fun _ => ⟨by decide, h.restored⟩
  refine leaves_reject (fun _ => ?_) fun _ => ⟨by decide, h.restored⟩
  obtain rfl : natives = 0 := not_not.1 hnative
  have hreserve : Leaves (onBudget (ExecutorBudget.tryReserve spec.workerCount 0)) r
      (fun res r' => res = nextReservation r.budget spec.workerCount 0 ∧
        r' = { r with budget := r.budget.reserved spec.workerCount 0 } ∧ (r.budget.reserved spec.workerCount 0).Sound)
      (fun e r' => e ∉ unexpected ∧ Restored r r') := by
    unfold Leaves onBudget
    rcases h.sound.tryReserve h.id_le spec.workerCount 0 with ⟨e, he, hrun⟩ | ⟨hrun, -, hsound⟩
    · rw [hrun]
      exact ⟨refusal_expected he, h.restored⟩
    · rw [hrun]
      exact ⟨rfl, rfl, hsound⟩
  refine leaves_bind hreserve ?_
  rintro res _ ⟨rfl, rfl, hsound⟩
  rcases ThreadOwner.tryNew_cases config conditions (nextReservation r.budget spec.workerCount 0) with
    ⟨e, started, hstarted, hbuild⟩ | ⟨hworkers, -, hbuild⟩
  · rw [hbuild]
    have hsettles : (r.budget.reserved spec.workerCount 0).Settles
        (constructionFailure e (nextReservation r.budget spec.workerCount 0) started).2
        (nextReservation r.budget spec.workerCount 0) :=
      ⟨rfl, rfl, rfl, h.get_reserved spec.workerCount 0, rfl, hstarted, fun hkind => (by cases hkind), fun _ => rfl⟩
    have hrun := h.releaseReserved hsound hsettles
    have hrolled := h.rollBack spec.workerCount 0 hsettles.reservation hsettles.joined
    have hreleased : Leaves (releaseBudget (constructionFailure e (nextReservation r.budget spec.workerCount 0) started).2)
        { r with budget := r.budget.reserved spec.workerCount 0 }
        (fun _ r' => r' = rolledBack r (constructionFailure e (nextReservation r.budget spec.workerCount 0) started).2)
        (fun e r' => e ∉ unexpected ∧ Restored r r') := by
      unfold Leaves
      rw [hrun]
    refine leaves_bind hreleased ?_
    rintro _ _ rfl
    refine leaves_lift_end (fun _ hok => by cases hok) fun e' he' => ?_
    cases he'
    exact ⟨by cases e <;> decide, hrolled, rfl, rfl⟩
  · rw [hbuild]
    have hput := Assoc.put_of_notMem (v := (⟨spec.drainBudget, ⟨config, some (nextReservation r.budget spec.workerCount 0)⟩,
      none⟩ : OwnedThreadDomain)) hnew
    have hcovered : spec.workerCount = config.workers := hworkers
    have hinstalled := h.installed spec.drainBudget hcovered hnew (Nat.lt_of_not_le hroom) hsound
    rw [← hput] at hinstalled
    refine leaves_update (leaves_reject (fun _ => ?_) fun hmem => absurd hmem hnew)
    exact leaves_pure ⟨rfl, hinstalled, _, hput⟩

/-! ## Asking the owners -/

def answered (report : OwnerReport) (o : OwnedThreadDomain) : OwnedThreadDomain :=
  if o.joinProof.isSome then o
  else match o.owner.shutdownAndProve report with
    | (.ok proof, owner) => { o with owner, joinProof := some proof }
    | (.error _, owner) => { o with owner }

def answerOf (report : OwnerReport) (o : OwnedThreadDomain) : Option Answer :=
  if o.joinProof.isSome then none
  else match o.owner.shutdownAndProve report with
    | (.ok _, _) => some .proved
    | (.error e, _) => some (.refused e)

def callOf (time : OwnedThreadDomain → Nat) (domain : Ref16) (o : OwnedThreadDomain) : List (Ref16 × Nat) :=
  if o.joinProof.isSome then [] else [(domain, time o)]

theorem adjust_of_get {α : Type} {k : Ref16} {v : α} {xs : List (Ref16 × α)} (hnodup : (Assoc.keys xs).Nodup)
    (h : Assoc.get k xs = some v) (f : α → α) : Assoc.adjust k f xs = Assoc.adjust k (fun _ => f v) xs := by
  unfold Assoc.adjust
  refine List.map_congr_left fun e he => ?_
  by_cases hk : e.1 = k
  · have hget : Assoc.get e.1 xs = some e.2 := Assoc.get_of_mem hnodup he
    rw [hk, h] at hget
    rw [if_pos hk, if_pos hk, Option.some.inj hget]
  · rw [if_neg hk, if_neg hk]

theorem adjust_same {α : Type} {k : Ref16} {v : α} {xs : List (Ref16 × α)} (hnodup : (Assoc.keys xs).Nodup)
    (h : Assoc.get k xs = some v) : Assoc.adjust k (fun _ => v) xs = xs := by
  have hid : Assoc.adjust k (fun _ => v) xs = Assoc.adjust k id xs := (adjust_of_get hnodup h id).symm
  rw [hid]
  unfold Assoc.adjust
  simp

theorem askOwner_run (report : OwnerReport) {o : OwnedThreadDomain}
    (hnodup : (Assoc.keys r.domains).Nodup) (hget : Assoc.get domain r.domains = some o) :
    RuntimeThreadRegistry.askOwner time report domain r =
      (.ok (answerOf report o),
        { r with
          domains := Assoc.adjust domain (fun _ => answered report o) r.domains
          asked := r.asked ++ callOf time domain o }) := by
  have hask : RuntimeThreadRegistry.askOwner time report domain r =
      (if o.joinProof.isSome then pure none
        else do
          update fun r => { r with asked := r.asked ++ [(domain, time o)] }
          match o.owner.shutdownAndProve report with
          | (.ok proof, owner) => do
            update fun r =>
              { r with domains := Assoc.adjust domain (fun o => { o with owner, joinProof := some proof }) r.domains }
            pure (some .proved)
          | (.error e, owner) => do
            update fun r => { r with domains := Assoc.adjust domain (fun o => { o with owner }) r.domains }
            pure (some (.refused e)) : RegistryTurn (Option Answer)) r := by
    unfold RuntimeThreadRegistry.askOwner
    show follow _ (okOr (Assoc.get domain r.domains) _, r) = _
    rw [hget]
    rfl
  rw [hask]
  unfold answerOf answered callOf
  by_cases hproof : o.joinProof.isSome = true
  · simp only [if_pos hproof, List.append_nil, adjust_same hnodup hget]
    rfl
  · simp only [if_neg hproof]
    show follow _ (.ok (), _) = _
    cases hreport : o.owner.shutdownAndProve report with
    | mk result owner =>
      cases result with
      | ok proof =>
        show (_, _) = _
        rw [← adjust_of_get hnodup hget fun o => { o with owner, joinProof := some proof }]
      | error e =>
        show (_, _) = _
        rw [← adjust_of_get hnodup hget fun o => { o with owner }]

def answerAll (reports : Ref16 → OwnerReport) (asked : List Ref16) (domains : List (Ref16 × OwnedThreadDomain)) :
    List (Ref16 × OwnedThreadDomain) :=
  domains.map fun e => if e.1 ∈ asked then (e.1, answered (reports e.1) e.2) else e

def answersAll (reports : Ref16 → OwnerReport) (asked : List Ref16) (domains : List (Ref16 × OwnedThreadDomain)) :
    List (Option Answer) :=
  asked.map fun domain => (Assoc.get domain domains).bind (answerOf (reports domain))

def callsAll (time : OwnedThreadDomain → Nat) (asked : List Ref16) (domains : List (Ref16 × OwnedThreadDomain)) :
    List (Ref16 × Nat) :=
  asked.flatMap fun domain => ((Assoc.get domain domains).map (callOf time domain)).getD []

theorem answerAll_cons {reports : Ref16 → OwnerReport} {asked : List Ref16} {o : OwnedThreadDomain}
    {domains : List (Ref16 × OwnedThreadDomain)} (hnodup : (Assoc.keys domains).Nodup)
    (hget : Assoc.get domain domains = some o) (hnew : domain ∉ asked) :
    answerAll reports asked (Assoc.adjust domain (fun _ => answered (reports domain) o) domains) =
      answerAll reports (domain :: asked) domains := by
  unfold answerAll Assoc.adjust
  rw [List.map_map]
  refine List.map_congr_left fun e he => ?_
  show (if (if e.1 = domain then (e.1, answered (reports domain) o) else e).1 ∈ asked then _ else _) = _
  by_cases hk : e.1 = domain
  · have hsame : Assoc.get e.1 domains = some e.2 := Assoc.get_of_mem hnodup he
    rw [hk, hget] at hsame
    simp only [hk, if_true, hnew, if_false, List.mem_cons, true_or, Option.some.inj hsame]
  · have hmem : e.1 ∈ domain :: asked ↔ e.1 ∈ asked := by simp [hk]
    simp only [if_neg hk, hmem]

/-- **One loop asks each owner once**, and what it leaves does not depend on the order. -/
theorem askEach_run {reports : Ref16 → OwnerReport} : ∀ {asked : List Ref16}
    {r : RuntimeThreadRegistry}, (Assoc.keys r.domains).Nodup → asked.Nodup → (∀ d ∈ asked, d ∈ Assoc.keys r.domains) →
    RuntimeThreadRegistry.askEach time reports asked r =
      (.ok (answersAll reports asked r.domains),
        { r with
          domains := answerAll reports asked r.domains
          asked := r.asked ++ callsAll time asked r.domains })
  | [], r, _, _, _ => by
    show (_, _) = _
    simp [answersAll, answerAll, callsAll]
  | domain :: asked, r, hnodup, hasked, hkeys => by
    obtain ⟨hnew, hrest⟩ := List.nodup_cons.1 hasked
    obtain ⟨o, hget⟩ : ∃ o, Assoc.get domain r.domains = some o := by
      cases hget : Assoc.get domain r.domains with
      | none => exact absurd (hkeys domain List.mem_cons_self) (Assoc.get_eq_none.1 hget)
      | some o => exact ⟨o, rfl⟩
    have hothers : ∀ d ∈ asked, Assoc.get d (Assoc.adjust domain (fun _ => answered (reports domain) o) r.domains) =
        Assoc.get d r.domains := fun d hd =>
      Assoc.get_adjust_of_ne (fun heq : d = domain => hnew (heq ▸ hd))
    have ih := @askEach_run reports asked
      { r with
        domains := Assoc.adjust domain (fun _ => answered (reports domain) o) r.domains
        asked := r.asked ++ callOf time domain o } (by rw [Assoc.keys_adjust]; exact hnodup) hrest
      (fun d hd => by rw [Assoc.keys_adjust]; exact hkeys d (List.mem_cons_of_mem _ hd))
    have hanswers : answersAll reports asked (Assoc.adjust domain (fun _ => answered (reports domain) o) r.domains) =
        answersAll reports asked r.domains :=
      List.map_congr_left fun d hd => by rw [hothers d hd]
    have hcalls : callsAll time asked (Assoc.adjust domain (fun _ => answered (reports domain) o) r.domains) =
        callsAll time asked r.domains :=
      List.flatMap_congr fun d hd => by rw [hothers d hd]
    show follow _ (RuntimeThreadRegistry.askOwner time (reports domain) domain r) = _
    rw [askOwner_run (reports domain) hnodup hget]
    show follow _ (RuntimeThreadRegistry.askEach time reports asked _) = _
    rw [ih]
    dsimp only
    rw [hanswers, hcalls, answerAll_cons hnodup hget hnew]
    show (_, _) = _
    simp [answersAll, callsAll, hget]

def ThreadOwner.proves (owner : ThreadOwner) (report : OwnerReport) : Bool :=
  match (owner.shutdownAndProve report).1 with
  | .ok _ => true
  | .error _ => false

variable {marker : Nat} {o : OwnedThreadDomain}

theorem Backed.answered (h : Backed marker o) (report : OwnerReport) :
    Backed marker (answered report o) ∧ (Executor.answered report o).lease = o.lease ∧
      (Executor.answered report o).owner.config = o.owner.config := by
  unfold Executor.answered
  by_cases hproof : o.joinProof.isSome = true
  · rw [if_pos hproof]
    exact ⟨h, rfl, rfl⟩
  · rw [if_neg hproof]
    have hnone : o.joinProof = none := by simpa using hproof
    have hlease : o.lease = o.owner.reservation := by rw [OwnedThreadDomain.lease, hnone]
    obtain ⟨res, hres, hcovers⟩ := h.lease
    rw [hlease] at hres
    cases report with
    | failed => exact ⟨h, rfl, rfl⟩
    | incomplete => exact ⟨h, rfl, rfl⟩
    | complete =>
      simp only [ThreadOwner.shutdownAndProve, hres]
      refine ⟨⟨⟨res, rfl, hcovers.marker, hcovers.active, hcovers.managed, hcovers.native⟩, ?_⟩,
        by rw [hlease, hres]; rfl, trivial⟩
      intro proof hp
      obtain rfl := Option.some.inj hp
      exact ⟨rfl, rfl, rfl, rfl⟩

theorem answered_of_none (hnone : o.joinProof = none) (report : OwnerReport) :
    ((answered report o).joinProof.isSome = o.owner.proves report) ∧
      (o.owner.proves report = false → answered report o = o ∧ ∃ e, answerOf report o = some (.refused e)) := by
  have hproof : ¬ o.joinProof.isSome = true := by simp [hnone]
  unfold answered answerOf
  rw [if_neg hproof, if_neg hproof]
  unfold ThreadOwner.proves
  cases report with
  | failed =>
    refine ⟨?_, fun _ => ⟨rfl, _, rfl⟩⟩
    simp [ThreadOwner.shutdownAndProve, hnone]
  | incomplete =>
    refine ⟨?_, fun _ => ⟨rfl, _, rfl⟩⟩
    simp [ThreadOwner.shutdownAndProve, hnone]
  | complete =>
    cases hres : o.owner.reservation with
    | none =>
      simp only [ThreadOwner.shutdownAndProve, hres]
      exact ⟨by simp [hnone], fun _ => ⟨trivial, _, rfl⟩⟩
    | some res =>
      simp only [ThreadOwner.shutdownAndProve, hres]
      exact ⟨rfl, fun h => by cases h⟩

theorem keys_answerAll (reports : Ref16 → OwnerReport) (asked : List Ref16) (domains : List (Ref16 × OwnedThreadDomain)) :
    Assoc.keys (answerAll reports asked domains) = Assoc.keys domains := by
  unfold answerAll Assoc.keys
  rw [List.map_map]
  refine List.map_congr_left fun e _ => ?_
  show (if e.1 ∈ asked then _ else e).1 = e.1
  split
  · rfl
  · rfl

theorem InStep.answerAll (h : InStep r) (reports : Ref16 → OwnerReport) (asked : List Ref16) (calls : List (Ref16 × Nat)) :
    InStep { r with domains := answerAll reports asked r.domains, asked := calls } := by
  have hrecords : (Executor.answerAll reports asked r.domains).filterMap domainRecord = r.domains.filterMap domainRecord := by
    unfold Executor.answerAll
    rw [List.filterMap_map]
    refine List.filterMap_congr fun e he => ?_
    show domainRecord (if e.1 ∈ asked then _ else e) = domainRecord e
    split
    · unfold domainRecord
      rw [((h.backed e he).answered (reports e.1)).2.1]
    · rfl
  exact
    { maximum := h.maximum
      framework := h.framework
      sound := h.sound
      native := h.native
      capacity := by
        show (Executor.answerAll reports asked r.domains).length ≤ _
        unfold Executor.answerAll
        rw [List.length_map]
        exact h.capacity
      nodup := by
        show (Assoc.keys (Executor.answerAll reports asked r.domains)).Nodup
        rw [keys_answerAll]
        exact h.nodup
      backed := by
        intro x hx
        obtain ⟨e, he, rfl⟩ := List.mem_map.1 hx
        split
        · exact ((h.backed e he).answered (reports e.1)).1
        · exact h.backed e he
      records := by
        show r.budget.active.Perm ((Executor.answerAll reports asked r.domains).filterMap domainRecord)
        rw [hrecords]
        exact h.records
      ids := h.ids
      joined := h.joined }

/-! ## Settling the proofs -/

/-- **The proof of a domain is accepted, and the domain goes with its record.** -/
theorem InStep.settleDomain (h : InStep r)
    (hget : Assoc.get domain r.domains = some o) (hproof : o.joinProof = some proof)
    (hardError : Option ThreadRegistryError) : ∃ r', RuntimeThreadRegistry.settleDomain domain hardError r =
      (.ok hardError, r') ∧ InStep r' ∧ r'.domains = Assoc.erase domain r.domains ∧ r'.asked = r.asked ∧
        r'.plan = r.plan := by
  have hbacked : Backed r.budget.marker o := h.backed _ (Assoc.mem_of_get hget)
  have hcomplete := hbacked.proof proof hproof
  obtain ⟨res, hlease, hcovers⟩ := hbacked.lease
  have hres : proof.reservation = some res := by
    rw [OwnedThreadDomain.lease, hproof] at hlease
    exact hlease
  -- the records of the other domains are those of the budget without this one
  have hdomains := Assoc.perm_erase h.nodup hget
  have hrecord : domainRecord (domain, o) = some (recordOf res) := by
    show o.lease.map recordOf = _
    rw [hlease]
    rfl
  have hrecords : r.budget.active.Perm (recordOf res :: (Assoc.erase domain r.domains).filterMap domainRecord) := by
    have hfilter := hdomains.filterMap domainRecord
    rw [List.filterMap_cons_some hrecord] at hfilter
    exact h.records.trans hfilter
  have hrecorded : Assoc.get res.reservationId r.budget.active = some ⟨res.managedWorkers, res.nativeThreads⟩ :=
    Assoc.get_of_mem h.nodup_active (hrecords.mem_iff.2 List.mem_cons_self)
  have hactive := Assoc.perm_erase h.nodup_active hrecorded
  have hsettles : r.budget.Settles proof res :=
    { reservation := hres
      active := hcovers.active
      marker := hcovers.marker
      recorded := hrecorded
      joined := hcomplete.started.trans hcomplete.joined.symm
      started_le := le_of_eq (hcomplete.started.trans hcovers.managed.symm)
      complete := fun _ => hcomplete.started.trans hcovers.managed.symm
      native := fun _ => hcomplete.native }
  obtain ⟨hrelease, hsound⟩ := h.sound.release h.nodup_active hsettles
  refine ⟨{ r with
    budget := r.budget.settled res
    accepted := r.accepted ++ [proof]
    domains := Assoc.erase domain r.domains }, ?_, ?_, rfl, rfl, rfl⟩
  · unfold RuntimeThreadRegistry.settleDomain
    rw [hget]
    dsimp only
    rw [hproof]
    dsimp only
    rw [hrelease]
  · exact
      { maximum := h.maximum
        framework := h.framework
        sound := hsound
        native := by
          show r.budget.nativeThreads - res.nativeThreads = 0
          rw [h.native, Nat.zero_sub]
        capacity := le_trans (List.length_filter_le _ _) h.capacity
        nodup := h.nodup.sublist (Assoc.keys_erase_sublist _ _)
        backed := fun e he => h.backed e (List.mem_of_mem_filter he)
        records := (hactive.symm.trans hrecords).cons_inv
        ids := by
          have hid : acceptedId proof = some res.reservationId := by rw [acceptedId, hres]; rfl
          have hkeys : (Assoc.keys r.budget.active).Perm
              (res.reservationId :: Assoc.keys (Assoc.erase res.reservationId r.budget.active)) := hactive.map Prod.fst
          show ((r.accepted ++ [proof]).filterMap acceptedId ++
            Assoc.keys (Assoc.erase res.reservationId r.budget.active)).Perm (List.range' 1 r.budget.nextReservationId)
          rw [List.filterMap_append, List.filterMap_cons_some hid, List.filterMap_nil, List.append_assoc]
          exact (hkeys.symm.append_left _).trans h.ids
        joined := by
          intro p hp
          rcases List.mem_append.1 hp with hp | hp
          · exact h.joined p hp
          · rw [List.mem_singleton.1 hp]
            exact hsettles.joined }

def unsettled (refs : List Ref16) (domains : List (Ref16 × OwnedThreadDomain)) : List (Ref16 × OwnedThreadDomain) :=
  domains.filter fun e => !(decide (e.1 ∈ refs) && e.2.joinProof.isSome)

theorem InStep.settleAll : ∀ {refs : List Ref16} {r : RuntimeThreadRegistry}, InStep r → refs.Nodup →
    (∀ d ∈ refs, d ∈ Assoc.keys r.domains) → ∃ r', RuntimeThreadRegistry.settleAll refs none r = (.ok none, r') ∧
      InStep r' ∧ r'.domains = unsettled refs r.domains ∧ r'.asked = r.asked ∧ r'.plan = r.plan
  | [], r, h, _, _ => by
    refine ⟨r, rfl, h, ?_, rfl, rfl⟩
    simp [unsettled]
  | domain :: refs, r, h, hrefs, hkeys => by
    obtain ⟨hnew, hrest⟩ := List.nodup_cons.1 hrefs
    obtain ⟨o, hget⟩ : ∃ o, Assoc.get domain r.domains = some o := by
      cases hget : Assoc.get domain r.domains with
      | none => exact absurd (hkeys domain List.mem_cons_self) (Assoc.get_eq_none.1 hget)
      | some o => exact ⟨o, rfl⟩
    cases hproof : o.joinProof with
    | none =>
      have hstay : RuntimeThreadRegistry.settleDomain domain none r = (.ok none, r) := by
        unfold RuntimeThreadRegistry.settleDomain
        rw [hget]
        dsimp only
        rw [hproof]
      obtain ⟨r', hrun, hinstep, hdomains, hasked, hplan⟩ :=
        InStep.settleAll h hrest fun d hd => hkeys d (List.mem_cons_of_mem _ hd)
      refine ⟨r', ?_, hinstep, ?_, hasked, hplan⟩
      · show follow _ (RuntimeThreadRegistry.settleDomain domain none r) = _
        rw [hstay]
        exact hrun
      · rw [hdomains]
        refine List.filter_congr fun e he => ?_
        by_cases hk : e.1 = domain
        · have hsame : Assoc.get e.1 r.domains = some e.2 := Assoc.get_of_mem h.nodup he
          rw [hk, hget] at hsame
          rw [← Option.some.inj hsame, hproof]
          simp
        · simp [hk]
    | some proof =>
      obtain ⟨r₁, hsettle, hinstep₁, hdomains₁, hasked₁, hplan₁⟩ := h.settleDomain hget hproof none
      have hkeys₁ : ∀ d ∈ refs, d ∈ Assoc.keys r₁.domains := by
        intro d hd
        rw [hdomains₁]
        have hne : d ≠ domain := fun heq => hnew (heq ▸ hd)
        have hin := hkeys d (List.mem_cons_of_mem _ hd)
        by_contra hout
        exact (Assoc.get_eq_none.1 ((Assoc.get_erase_of_ne hne _).symm.trans (Assoc.get_eq_none.2 hout))) hin
      obtain ⟨r', hrun, hinstep, hdomains, hasked, hplan⟩ := InStep.settleAll hinstep₁ hrest hkeys₁
      refine ⟨r', ?_, hinstep, ?_, hasked.trans hasked₁, hplan.trans hplan₁⟩
      · show follow _ (RuntimeThreadRegistry.settleDomain domain none r) = _
        rw [hsettle]
        exact hrun
      · rw [hdomains, hdomains₁]
        unfold unsettled Assoc.erase
        rw [List.filter_filter]
        refine List.filter_congr fun e he => ?_
        by_cases hk : e.1 = domain
        · have hsame : Assoc.get e.1 r.domains = some e.2 := Assoc.get_of_mem h.nodup he
          rw [hk, hget] at hsame
          rw [← Option.some.inj hsame, hproof]
          simp [hk]
        · simp [hk]

/-! ## A whole shutdown -/

def provesIn (first second : Ref16 → OwnerReport) (e : Ref16 × OwnedThreadDomain) : Bool :=
  e.2.owner.proves (first e.1) || e.2.owner.proves (second e.1)

theorem answered_twice (hnone : o.joinProof = none) (first second : OwnerReport) :
    (answered second (answered first o)).joinProof.isSome = (o.owner.proves first || o.owner.proves second) ∧
      ((o.owner.proves first || o.owner.proves second) = false → answered second (answered first o) = o) := by
  obtain ⟨hfirst, hkept⟩ := answered_of_none hnone first
  cases hp : o.owner.proves first with
  | true =>
    rw [hp] at hfirst
    have hdone : answered second (answered first o) = answered first o := by
      rw [answered.eq_def second, if_pos hfirst]
    rw [hdone]
    exact ⟨hfirst, fun h => by cases h⟩
  | false =>
    rw [(hkept hp).1]
    obtain ⟨hsecond, hkept'⟩ := answered_of_none hnone second
    exact ⟨hsecond, fun h => (hkept' h).1⟩

theorem answerOf_answered (hnone : o.joinProof = none) {first second : OwnerReport}
    (h : (o.owner.proves first || o.owner.proves second) = true) (faults : DrainFaults) :
    faults.note (answerOf second (answered first o)) = faults := by
  obtain ⟨hfirst, hkept⟩ := answered_of_none hnone first
  cases hp : o.owner.proves first with
  | true =>
    rw [hp] at hfirst
    unfold answerOf
    rw [if_pos hfirst]
    rfl
  | false =>
    rw [(hkept hp).1]
    rw [hp, Bool.false_or] at h
    unfold answerOf
    rw [if_neg (by simp [hnone])]
    unfold ThreadOwner.proves at h
    cases hrun : o.owner.shutdownAndProve second with
    | mk result owner =>
      rw [hrun] at h
      cases result with
      | ok proof => rfl
      | error e => cases h

theorem filter_map_of_fixed {α : Type} {f : α → α} {p q : α → Bool} : ∀ {xs : List α},
    (∀ x ∈ xs, p (f x) = q x ∧ (q x = true → f x = x)) → (xs.map f).filter p = xs.filter q
  | [], _ => rfl
  | x :: xs, h => by
    obtain ⟨hp, hfix⟩ := h x List.mem_cons_self
    have ih := filter_map_of_fixed fun y hy => h y (List.mem_cons_of_mem _ hy)
    rw [List.map_cons]
    cases hq : q x with
    | true => rw [List.filter_cons_of_pos (hp.trans hq), List.filter_cons_of_pos hq, hfix hq, ih]
    | false =>
      rw [List.filter_cons_of_neg (by rw [hp, hq]; exact Bool.false_ne_true),
        List.filter_cons_of_neg (by rw [hq]; exact Bool.false_ne_true), ih]

/-- **What is left of the registry are the domains whose owner has not proved, as they were.** -/
theorem unsettled_answered (hq : Quiet r) (first second : Ref16 → OwnerReport)
    (hrefs : ∀ e ∈ r.domains, e.1 ∈ refs) :
    unsettled refs (answerAll second refs (answerAll first refs r.domains)) =
      r.domains.filter fun e => !provesIn first second e := by
  have hmap : answerAll second refs (answerAll first refs r.domains) =
      r.domains.map fun e => (e.1, answered (second e.1) (answered (first e.1) e.2)) := by
    unfold answerAll
    rw [List.map_map]
    refine List.map_congr_left fun e he => ?_
    have hin := hrefs e he
    simp only [Function.comp_apply, if_pos hin]
  rw [hmap]
  refine filter_map_of_fixed fun e he => ?_
  obtain ⟨hproved, hkept⟩ := answered_twice (hq e he) (first e.1) (second e.1)
  have hin := hrefs e he
  refine ⟨?_, fun h => ?_⟩
  · dsimp only
    rw [hproved, decide_eq_true hin, Bool.true_and]
    rfl
  · have hfixed := hkept (by simpa [provesIn] using h)
    exact Prod.ext rfl hfixed

theorem faults_of_proved (h : InStep r) (hq : Quiet r) {first second : Ref16 → OwnerReport}
    (hrefs : ∀ d ∈ refs, d ∈ Assoc.keys r.domains) (hall : ∀ e ∈ r.domains, provesIn first second e = true) :
    (answersAll second refs (answerAll first refs r.domains)).foldl DrainFaults.note {} = {} := by
  have hstays : ∀ answers : List (Option Answer), (∀ a ∈ answers, ∀ faults : DrainFaults, faults.note a = faults) →
      ∀ faults : DrainFaults, answers.foldl DrainFaults.note faults = faults := by
    intro answers
    induction answers with
    | nil => exact fun _ _ => rfl
    | cons a answers ih =>
      intro hnote faults
      rw [List.foldl_cons, hnote a List.mem_cons_self]
      exact ih (fun b hb => hnote b (List.mem_cons_of_mem _ hb)) faults
  refine hstays _ (fun a ha faults => ?_) {}
  obtain ⟨d, hd, rfl⟩ := List.mem_map.1 ha
  obtain ⟨e, he, rfl⟩ := List.mem_map.1 (hrefs d hd)
  have hmem : (e.1, answered (first e.1) e.2) ∈ answerAll first refs r.domains := by
    refine List.mem_map.2 ⟨e, he, ?_⟩
    rw [if_pos hd]
  have hget := Assoc.get_of_mem ((keys_answerAll first refs r.domains).symm ▸ h.nodup) hmem
  rw [hget]
  exact answerOf_answered (hq e he) (hall e he) faults

theorem mem_callsAll (h : InStep r) (hq : Quiet r)
    {e : Ref16 × OwnedThreadDomain} (he : e ∈ r.domains) (hin : e.1 ∈ refs) :
    (e.1, time e.2) ∈ callsAll time refs r.domains := by
  refine List.mem_flatMap.2 ⟨e.1, hin, ?_⟩
  rw [Assoc.get_of_mem h.nodup he]
  simp [callOf, hq e he]

theorem InStep.zero (h : InStep r) (hempty : r.domains = []) :
    r.budget.active = [] ∧ r.budget.managedWorkers = 0 ∧ r.budget.nativeThreads = 0 := by
  have hrecords := h.records
  have hmanaged := h.managed
  rw [hempty] at hrecords hmanaged
  exact ⟨List.perm_nil.1 hrecords, hmanaged, h.native⟩

theorem InStep.active_length (h : InStep r) : r.budget.active.length ≤ u32Max := by
  rw [h.records.length_eq]
  have hfilter := List.length_filterMap_le domainRecord r.domains
  have hcapacity := h.capacity
  have : maxOwnedThreadDomains ≤ u32Max := by decide
  omega

theorem InStep.shutdownResult (h : InStep r) (faults : DrainFaults) (hnone : r.domains = [] → faults = {}) :
    Leaves (RuntimeThreadRegistry.shutdownResult faults none) r (fun _ r' => r' = r ∧ r.domains = [])
      (fun e r' => r' = r ∧ e ∉ unexpected ∧ r.domains ≠ []) := by
  have hleft : ∀ {bad : Bool}, (r.domains = [] → bad = false) → bad = true → r.domains ≠ [] := fun hfree hbad hempty =>
    absurd (hfree hempty) (by simp [hbad])
  unfold RuntimeThreadRegistry.shutdownResult
  refine leaves_lift (fun _ _ => ?_) fun _ he => by cases he
  refine leaves_reject (fun _ => ?_) fun hfailed =>
    ⟨rfl, by decide, hleft (fun hempty => by rw [hnone hempty]) hfailed⟩
  refine leaves_self (leaves_reject (fun hdrained => ?_) fun hkept => ⟨rfl, by decide, ?_⟩)
  · have hempty : r.domains = [] := not_not.1 fun hne => hdrained (.inr hne)
    obtain ⟨hactive, hmanaged, hnative⟩ := h.zero hempty
    have hsnapshot := h.sound.snapshot h.active_length
    rw [hsnapshot]
    refine leaves_lift (fun snapshot hok => ?_) fun _ he => by cases he
    cases hok
    refine leaves_lift_end (fun _ _ => ⟨rfl, hempty⟩) fun e he => ?_
    rw [rejectIf_neg (by simp [hactive, hmanaged, hnative])] at he
    cases he
  · rcases hkept with hincomplete | hne
    · exact hleft (fun hempty => by rw [hnone hempty]) hincomplete
    · exact hne

structure Drained (first second : Ref16 → OwnerReport) (r r' : RuntimeThreadRegistry) : Prop where
  instep : InStep r'
  quiet : Quiet r'
  plan : r'.plan = r.plan
  domains : r'.domains = r.domains.filter fun e => !provesIn first second e
  asked : ∃ calls, r'.asked = r.asked ++ calls ∧ ∀ e ∈ r.domains, (e.1, 0) ∈ calls

/-- **A shutdown asks every owner and removes exactly the domains whose owner proves.** -/
theorem InStep.shutdown (h : InStep r) (hq : Quiet r) (first second : Ref16 → OwnerReport) :
    Leaves (RuntimeThreadRegistry.shutdown first second) r (fun _ r' => Drained first second r r' ∧ r'.domains = [])
      (fun e r' => Drained first second r r' ∧ e ∉ unexpected ∧ r'.domains ≠ []) := by
  have hperm : (Keyed.sortBy id (Assoc.keys r.domains)).Perm (Assoc.keys r.domains) := Keyed.sortBy_perm id _
  generalize hsorted : Keyed.sortBy id (Assoc.keys r.domains) = refs at hperm
  have hrefs : refs.Nodup := hperm.nodup_iff.2 h.nodup
  have hin : ∀ d ∈ refs, d ∈ Assoc.keys r.domains := fun d hd => hperm.mem_iff.1 hd
  have hall : ∀ e ∈ r.domains, e.1 ∈ refs := fun e he => hperm.mem_iff.2 (List.mem_map_of_mem he)
  -- the registry after each of the phases
  let r₁ : RuntimeThreadRegistry :=
    { r with
      domains := Executor.answerAll first refs r.domains
      asked := r.asked ++ callsAll (fun _ => 0) refs r.domains }
  let r₂ : RuntimeThreadRegistry :=
    { r₁ with
      domains := Executor.answerAll second refs r₁.domains
      asked := r₁.asked ++ callsAll OwnedThreadDomain.drainBudget refs r₁.domains }
  have h₁ : InStep r₁ := h.answerAll first refs _
  have h₂ : InStep r₂ := h₁.answerAll second refs _
  have hkeys₁ : Assoc.keys r₁.domains = Assoc.keys r.domains := keys_answerAll first refs r.domains
  have hkeys₂ : Assoc.keys r₂.domains = Assoc.keys r.domains := (keys_answerAll second refs r₁.domains).trans hkeys₁
  have hphase₁ : RuntimeThreadRegistry.askEach (fun _ => 0) first refs r = (.ok _, r₁) := askEach_run h.nodup hrefs hin
  have hphase₂ : RuntimeThreadRegistry.askEach OwnedThreadDomain.drainBudget second refs r₁ =
      (.ok (answersAll second refs r₁.domains), r₂) := askEach_run h₁.nodup hrefs fun d hd => hkeys₁ ▸ hin d hd
  obtain ⟨r₃, hsettled, h₃, hdomains, hasked, hplan⟩ := h₂.settleAll hrefs fun d hd => hkeys₂ ▸ hin d hd
  have hleft : r₃.domains = r.domains.filter fun e => !provesIn first second e :=
    hdomains.trans (unsettled_answered hq first second hall)
  have hdrained : Drained first second r r₃ :=
    { instep := h₃
      quiet := by
        intro e he
        rw [hleft] at he
        exact hq e (List.mem_of_mem_filter he)
      plan := hplan
      domains := hleft
      asked := ⟨_, hasked.trans (List.append_assoc _ _ _), fun e he =>
        List.mem_append_left _ (mem_callsAll h hq he (hall e he))⟩ }
  have hfaults : r₃.domains = [] → (answersAll second refs r₁.domains).foldl DrainFaults.note {} = {} := by
    intro hempty
    refine faults_of_proved h hq hin fun e he => ?_
    rw [hleft, List.filter_eq_nil_iff] at hempty
    simpa using hempty e he
  have hresult := (h₃.shutdownResult _ hfaults).mono (R := fun _ r' => Drained first second r r' ∧ r'.domains = [])
    (F := fun e r' => Drained first second r r' ∧ e ∉ unexpected ∧ r'.domains ≠ [])
    (fun _ _ hr' => hr'.1 ▸ ⟨hdrained, hr'.2⟩) (fun _ _ hr' => hr'.1 ▸ ⟨hdrained, hr'.2⟩)
  have hrun : RuntimeThreadRegistry.shutdown first second r =
      RuntimeThreadRegistry.shutdownResult ((answersAll second refs r₁.domains).foldl DrainFaults.note {}) none r₃ := by
    unfold RuntimeThreadRegistry.shutdown
    show follow _ (RuntimeThreadRegistry.askEach _ first (Keyed.sortBy id (Assoc.keys r.domains)) r) = _
    rw [hsorted, hphase₁]
    show follow _ (RuntimeThreadRegistry.askEach _ second _ r₁) = _
    rw [hphase₂]
    show follow _ (RuntimeThreadRegistry.settleAll _ none r₂) = _
    rw [hsettled]
    rfl
  unfold Leaves at hresult ⊢
  rw [hrun]
  exact hresult

/-! ## Any run -/

theorem InStep.tryCreate (h : InStep r) (spec : ThreadDomainSpec) (natives : Nat) (conditions : StartConditions) :
    Leaves (RuntimeThreadRegistry.tryCreate spec natives conditions) r
      (fun domain r' => domain = spec.domain ∧ Installed r r' spec) (fun e r' => e ∉ unexpected ∧ Restored r r') := by
  unfold RuntimeThreadRegistry.tryCreate
  refine leaves_lift (fun config _ => h.tryCreateOwner spec natives config conditions) fun e he => ⟨?_, h.restored⟩
  cases hconfig : ThreadDomainConfig.tryNew spec.workerCount spec.startBudget with
  | ok config =>
    rw [hconfig] at he
    cases he
  | error e' =>
    rw [hconfig] at he
    cases he
    cases e' <;> decide

theorem Restored.quiet {r' : RuntimeThreadRegistry} (h : Restored r r') (hq : Quiet r) : Quiet r' := fun e he =>
  hq e (h.domains ▸ he)

theorem Installed.quiet {r' : RuntimeThreadRegistry} {spec : ThreadDomainSpec} (h : Installed r r' spec) (hq : Quiet r) :
    Quiet r' := by
  obtain ⟨owner, hdomains⟩ := h.domains
  intro e he
  rw [hdomains] at he
  rcases List.mem_append.1 he with he | he
  · exact hq e he
  · rw [List.mem_singleton.1 he]

/-- The registries of all runs: created for a plan, and after any creations and shutdowns, whatever they returned. -/
inductive Reachable : RuntimeThreadRegistry → Prop
  | new {marker : Nat} {spec : ExecutorBudgetSpec} {r : RuntimeThreadRegistry}
      (h : RuntimeThreadRegistry.tryNew marker spec = .ok r) : Reachable r
  | createOwner {r : RuntimeThreadRegistry} (h : Reachable r) (spec : ThreadDomainSpec) (natives : Nat)
      (config : ThreadDomainConfig) (conditions : StartConditions) :
      Reachable (RuntimeThreadRegistry.tryCreateOwner spec natives (ThreadOwner.tryNew config conditions) r).2
  | create {r : RuntimeThreadRegistry} (h : Reachable r) (spec : ThreadDomainSpec) (natives : Nat)
      (conditions : StartConditions) : Reachable (RuntimeThreadRegistry.tryCreate spec natives conditions r).2
  | shutdown {r : RuntimeThreadRegistry} (h : Reachable r) (first second : Ref16 → OwnerReport) :
      Reachable (RuntimeThreadRegistry.shutdown first second r).2

theorem instep_new {marker : Nat} {spec : ExecutorBudgetSpec} (h : RuntimeThreadRegistry.tryNew marker spec = .ok r) :
    InStep r ∧ Quiet r := by
  unfold RuntimeThreadRegistry.tryNew ExecutorBudget.tryNew at h
  simp only [bind_ok, wrapErr_ok, rejectIf_ok, exists_unit, pure_ok] at h
  obtain ⟨_, ⟨-, rfl⟩, rfl⟩ := h
  refine ⟨?_, fun e he => by cases he⟩
  exact
    { maximum := rfl
      framework := rfl
      sound :=
        { framework_pos := spec.framework_pos
          managed_eq := rfl
          native_eq := rfl
          total_le := spec.framework_le
          maximum_le := le_trans spec.maxTotal_le (by decide) }
      native := rfl
      capacity := Nat.zero_le _
      nodup := List.nodup_nil
      backed := fun e he => by cases he
      records := List.Perm.refl _
      ids := List.Perm.refl _
      joined := fun p hp => by cases hp }

theorem Reachable.instep (h : Reachable r) : InStep r ∧ Quiet r := by
  induction h with
  | new h => exact instep_new h
  | createOwner _ spec natives config conditions ih =>
    have hstep := ih.1.tryCreateOwner spec natives config conditions
    exact leaves_state (fun r => InStep r ∧ Quiet r) hstep (fun _ _ hr' => ⟨hr'.2.instep, hr'.2.quiet ih.2⟩)
      fun _ _ hr' => ⟨hr'.2.instep, hr'.2.quiet ih.2⟩
  | create _ spec natives conditions ih =>
    have hstep := ih.1.tryCreate spec natives conditions
    exact leaves_state (fun r => InStep r ∧ Quiet r) hstep (fun _ _ hr' => ⟨hr'.2.instep, hr'.2.quiet ih.2⟩)
      fun _ _ hr' => ⟨hr'.2.instep, hr'.2.quiet ih.2⟩
  | shutdown _ first second ih =>
    have hstep := ih.1.shutdown ih.2 first second
    exact leaves_state (fun r => InStep r ∧ Quiet r) hstep (fun _ _ hr' => ⟨hr'.1.instep, hr'.1.quiet⟩)
      fun _ _ hr' => ⟨hr'.1.instep, hr'.1.quiet⟩

theorem InStep.reserved (h : InStep r) : ∃ s, r.budget.snapshot = .ok s ∧
    s.reservedThreads = r.plan.frameworkThreads + (r.domains.map (·.2.owner.config.workers)).sum ∧
    s.reservedThreads ≤ r.plan.maxTotalThreads := by
  refine ⟨_, h.sound.snapshot h.active_length, ?_, ?_⟩
  · show r.budget.frameworkThreads + r.budget.managedWorkers + r.budget.nativeThreads = _
    rw [h.framework, h.managed, h.native, Nat.add_zero]
  · show r.budget.frameworkThreads + r.budget.managedWorkers + r.budget.nativeThreads ≤ _
    rw [← h.maximum]
    exact h.sound.total_le

/-- **The thread budget and the registry stay in step over every run.**  What is reserved are the framework's threads and
the workers of the registered domains; each identity given out is either on record or was released, once, against a proof
whose workers all joined; a creation that fails leaves nothing but a spent identity; a shutdown asks every owner and keeps
exactly the domains whose owner has not proved, and returns without error exactly when none is left, with nothing reserved;
and no error says that the two have come apart. -/
theorem thread_budget_in_step (h : Reachable r) :
    (∃ s, r.budget.snapshot = .ok s ∧
        s.reservedThreads = r.plan.frameworkThreads + (r.domains.map (·.2.owner.config.workers)).sum ∧
        s.reservedThreads ≤ r.plan.maxTotalThreads) ∧
      ((r.accepted.filterMap acceptedId ++ Assoc.keys r.budget.active).Perm (List.range' 1 r.budget.nextReservationId) ∧
        ∀ proof ∈ r.accepted, proof.startedWorkers = proof.joinedWorkers) ∧
      (∀ spec natives config conditions e r',
        RuntimeThreadRegistry.tryCreateOwner spec natives (ThreadOwner.tryNew config conditions) r = (.error e, r') →
          e ∉ unexpected ∧ r'.domains = r.domains ∧
            r'.budget = { r.budget with nextReservationId := r'.budget.nextReservationId }) ∧
      (∀ spec natives conditions e r', RuntimeThreadRegistry.tryCreate spec natives conditions r = (.error e, r') →
        e ∉ unexpected ∧ r'.domains = r.domains ∧
          r'.budget = { r.budget with nextReservationId := r'.budget.nextReservationId }) ∧
      ∀ first second result r', RuntimeThreadRegistry.shutdown first second r = (result, r') →
        (∀ e, result = .error e → e ∉ unexpected) ∧
          (∃ calls, r'.asked = r.asked ++ calls ∧ ∀ x ∈ r.domains, x.1 ∈ calls.map Prod.fst) ∧
          r'.domains = r.domains.filter (fun x => !(x.2.owner.proves (first x.1) || x.2.owner.proves (second x.1))) ∧
          (result = .ok () ↔ r'.domains = []) ∧
          (result = .ok () → r'.budget.active = [] ∧ r'.budget.managedWorkers = 0 ∧ r'.budget.nativeThreads = 0) := by
  obtain ⟨hin, hq⟩ := h.instep
  refine ⟨hin.reserved, ⟨hin.ids, hin.joined⟩, ?_, ?_, ?_⟩
  · intro spec natives config conditions e r' hrun
    have hstep := hin.tryCreateOwner spec natives config conditions
    unfold Leaves at hstep
    rw [hrun] at hstep
    exact ⟨hstep.1, hstep.2.domains, hstep.2.budget⟩
  · intro spec natives conditions e r' hrun
    have hstep := hin.tryCreate spec natives conditions
    unfold Leaves at hstep
    rw [hrun] at hstep
    exact ⟨hstep.1, hstep.2.domains, hstep.2.budget⟩
  · intro first second result r' hrun
    have hstep := hin.shutdown hq first second
    unfold Leaves at hstep
    rw [hrun] at hstep
    have hcalls : ∀ {r' : RuntimeThreadRegistry}, Drained first second r r' →
        ∃ calls, r'.asked = r.asked ++ calls ∧ ∀ x ∈ r.domains, x.1 ∈ calls.map Prod.fst := by
      rintro r' ⟨-, -, -, -, calls, hasked, hmem⟩
      exact ⟨calls, hasked, fun x hx => List.mem_map.2 ⟨_, hmem x hx, rfl⟩⟩
    cases result with
    | ok u =>
      obtain ⟨hdrained, hempty⟩ := hstep
      exact ⟨fun e he => (by cases he), hcalls hdrained, hdrained.domains, by simp [hempty], fun _ =>
        hdrained.instep.zero hempty⟩
    | error e =>
      obtain ⟨hdrained, hexpected, hne⟩ := hstep
      refine ⟨fun e' he' => ?_, hcalls hdrained, hdrained.domains, by simp [hne], fun hok => (by cases hok)⟩
      cases he'
      exact hexpected

theorem thread_budget_in_step_retry :
    ∃ r : RuntimeThreadRegistry, Reachable r ∧ r.domains.map Prod.fst = [.ofNat 1, .ofNat 2] ∧
      ((RuntimeThreadRegistry.shutdown (fun _ => .incomplete) (fun d => if d = .ofNat 1 then .complete else .failed)
        r).2.domains.map Prod.fst = [.ofNat 2]) ∧
      ∃ s, r.budget.snapshot = .ok s ∧ s.reservedThreads ≤ 8 := by
  let spec : ExecutorBudgetSpec := ⟨8, 1, by decide, by decide, by decide⟩
  let ready : StartConditions := ⟨false, fun _ => .ready⟩
  have hnew : RuntimeThreadRegistry.tryNew 0 spec = .ok ⟨spec, ⟨0, 8, 1, 0, 0, 0, []⟩, [], [], []⟩ := rfl
  have hreachable := ((Reachable.new hnew).create ⟨.ofNat 1, 2, 5, 5⟩ 0 ready).create ⟨.ofNat 2, 3, 5, 5⟩ 0 ready
  obtain ⟨⟨s, hsnapshot, -, hle⟩, -⟩ := thread_budget_in_step hreachable
  exact ⟨_, hreachable, by decide +kernel, by decide +kernel, s, hsnapshot, hle⟩

end Executor
end ParaEgox
