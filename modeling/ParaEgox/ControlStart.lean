import ParaEgox.SerialServer
import ParaEgox.TargetExecutionCodec

/-!
# ControlStart — an accepted plan starts its control callbacks in time

What the validation of a plan bounds: the demand of a domain, and the wait of a control callback, which no schedule of a serial
server that keeps to the plan exceeds.
-/
namespace ParaEgox
namespace Plan

open Check
open SerialServer (Queues State Reachable)

/-! ## The numbers of a plan -/

def MailboxExecutionSpec.occupancy (x : MailboxExecutionSpec) : Nat :=
  x.dispatch.callbackBudgets.runBudget.toNat + x.dispatch.callbackBudgets.cleanupBudget.toNat

def MailboxExecutionSpec.demand (x : MailboxExecutionSpec) : Nat := x.dispatch.arrivals.toNat * x.occupancy

def demandOf (xs : List MailboxExecutionSpec) : Nat := (xs.map MailboxExecutionSpec.demand).sum

def TargetExecutionPlan.inDomain (execution : TargetExecutionPlan) (domain : LoopDomainSpec) : List MailboxExecutionSpec :=
  execution.mailboxes.filter fun x => x.domain = domain.domain

def controls (xs : List MailboxExecutionSpec) : List MailboxExecutionSpec :=
  xs.filter fun x => x.dispatch.dispatchClass = .control

def bindingOf (bindings : TargetAssignments) (x : MailboxExecutionSpec) : Option BindingAssignment :=
  bindings.assignments.find? fun b => b.bindingId = x.bindingId

def capacityOf (bindings : TargetAssignments) (x : MailboxExecutionSpec) : Nat :=
  ((bindingOf bindings x).map fun b => b.mailboxSpec.capacityItems.toNat).getD 0

def queueAgeOf (bindings : TargetAssignments) (x : MailboxExecutionSpec) : Nat :=
  ((bindingOf bindings x).map fun b => b.mailboxSpec.maxQueueAge.toNat).getD 0

def carryIn (carry : Nat) (xs : List MailboxExecutionSpec) : Nat :=
  xs.foldl (fun carry x => max carry (max x.occupancy x.requirements.maxNonpreemptiveRun.toNat)) carry

def arrivalHorizon (domain : LoopDomainSpec) (slo : Nat) : Nat :=
  (slo + (domain.capacity.capacityWindow.toNat - 1)) / domain.capacity.capacityWindow.toNat + 1

def peerWait (bindings : TargetAssignments) (horizon : Nat) (peer : MailboxExecutionSpec) : Nat :=
  (capacityOf bindings peer + horizon * peer.dispatch.arrivals.toNat) * peer.occupancy

def peersOf (xs : List MailboxExecutionSpec) (control : MailboxExecutionSpec) : List MailboxExecutionSpec :=
  xs.filter fun x => x.bindingId ≠ control.bindingId

def waitBound (bindings : TargetAssignments) (execution : TargetExecutionPlan) (domain : LoopDomainSpec)
    (control : MailboxExecutionSpec) : Nat :=
  carryIn 0 (execution.inDomain domain) + (capacityOf bindings control - 1) * control.occupancy +
    ((peersOf (execution.inDomain domain) control).map
      (peerWait bindings (arrivalHorizon domain (queueAgeOf bindings control)))).sum

def domainQueues (bindings : TargetAssignments) (execution : TargetExecutionPlan) (domain : LoopDomainSpec)
    (phase : MailboxExecutionSpec → Nat) : Queues MailboxExecutionSpec where
  members := (execution.inDomain domain).toFinset
  occupancy := MailboxExecutionSpec.occupancy
  capacity := capacityOf bindings
  arrivals x := x.dispatch.arrivals.toNat
  window := domain.capacity.capacityWindow.toNat
  phase := phase

/-! ## Bounds of the constructors -/

variable {sha256 : Sha256} {bindings : TargetAssignments} {execution : TargetExecutionPlan} {domain : LoopDomainSpec}
  {control x : MailboxExecutionSpec} {xs : List MailboxExecutionSpec} {ε : Type}

def maxOccupancy : Nat := 2 * maxExecutionDurationNanos.toNat

theorem occupancy_le (x : MailboxExecutionSpec) : x.occupancy ≤ maxOccupancy := by
  have hrun := UInt64.le_iff_toNat_le.1 x.dispatch.callbackBudgets.valid.1.2
  have hcleanup := UInt64.le_iff_toNat_le.1 x.dispatch.callbackBudgets.valid.2.2
  unfold MailboxExecutionSpec.occupancy maxOccupancy
  omega

theorem callbackOccupancy_eq (x : MailboxExecutionSpec) (e : ε) : callbackOccupancy x e = .ok x.occupancy := by
  have hroom : maxOccupancy ≤ u128Max := by decide
  exact addU128_ok.2 ⟨(occupancy_le x).trans hroom, rfl⟩

theorem nonpreemptive_le (x : MailboxExecutionSpec) : x.requirements.maxNonpreemptiveRun.toNat ≤ x.occupancy :=
  (UInt64.le_iff_toNat_le.1 x.runs).trans (Nat.le_add_right _ _)

theorem window_pos (domain : LoopDomainSpec) : 0 < domain.capacity.capacityWindow.toNat :=
  UInt64.lt_iff_toNat_lt.1 domain.capacity.window.1

theorem window_le (domain : LoopDomainSpec) : domain.capacity.capacityWindow.toNat ≤ maxExecutionDurationNanos.toNat :=
  UInt64.le_iff_toNat_le.1 domain.capacity.window.2

theorem capacityOf_lt (bindings : TargetAssignments) (x : MailboxExecutionSpec) : capacityOf bindings x < 2 ^ 32 := by
  unfold capacityOf
  cases bindingOf bindings x with
  | none => decide
  | some b => exact b.mailboxSpec.capacityItems.toNat_lt

theorem queueAgeOf_lt (bindings : TargetAssignments) (x : MailboxExecutionSpec) : queueAgeOf bindings x < 2 ^ 64 := by
  unfold queueAgeOf
  cases bindingOf bindings x with
  | none => decide
  | some b => exact b.mailboxSpec.maxQueueAge.toNat_lt

/-! ## The demand of a domain -/

theorem chargeExecution_ok {d d' : Nat × Nat} (h : chargeExecution domain d x = .ok d') :
    d' = (d.1 + x.demand, d.2 + demandOf (controls [x])) := by
  unfold controls
  by_cases hclass : x.dispatch.dispatchClass = .control
  · simp only [chargeExecution, callbackOccupancy_eq, hclass, if_true, bind_ok, exists_unit, mulU128, pure_ok, addU128_ok,
      Except.ok.injEq] at h
    obtain ⟨-, _, rfl, _, ⟨-, rfl⟩, _, ⟨-, rfl⟩, -, _, ⟨-, rfl⟩, rfl⟩ := h
    rw [List.filter_cons_of_pos (by simpa using hclass)]
    rfl
  · simp only [chargeExecution, callbackOccupancy_eq, hclass, if_false, bind_ok, exists_unit, mulU128, pure_ok, addU128_ok,
      Except.ok.injEq] at h
    obtain ⟨-, _, rfl, _, ⟨-, rfl⟩, _, ⟨-, rfl⟩, -, _, rfl, rfl⟩ := h
    rw [List.filter_cons_of_neg (by simpa using hclass)]
    rfl

theorem charged : ∀ {xs : List MailboxExecutionSpec} {d d' : Nat × Nat}, scan (chargeExecution domain) d xs = .ok d' →
    d' = (d.1 + demandOf xs, d.2 + demandOf (controls xs))
  | [], _, _, h => by
    cases h
    rfl
  | x :: xs, d, d', h => by
    obtain ⟨m, hm, hrest⟩ := (scan_ok_cons ..).1 h
    have hcontrols : controls (x :: xs) = controls [x] ++ controls xs := by
      unfold controls
      rw [← List.filter_append, List.singleton_append]
    rw [charged hrest, chargeExecution_ok hm, hcontrols]
    simp [demandOf, Nat.add_assoc]

theorem TargetExecutionPlan.Built.accepted (h : execution.Built sha256) :
    validateExecutionRecords execution.domains execution.mailboxes = .ok () := by
  obtain ⟨hds, hxs, hnew⟩ := h.again
  have hvalid := ((TargetExecutionPlan.tryNew_ok sha256).1 hnew).2.1
  rwa [hds.sortBy_eq, hxs.sortBy_eq] at hvalid

/-- **The demand of a domain is within its window, and that of its control callbacks within their budget.** -/
theorem demand_le (h : execution.Built sha256) (hdomain : domain ∈ execution.domains) :
    demandOf (execution.inDomain domain) ≤ domain.capacity.capacityWindow.toNat ∧
      demandOf (controls (execution.inDomain domain)) ≤ domain.capacity.controlReservedRunBudget.toNat := by
  have hvalid := h.accepted
  simp only [validateExecutionRecords, bind_ok, exists_unit, forEach_ok] at hvalid
  have hused := (hvalid.2.2 domain hdomain).2
  simp only [validateDomainUtilization, bind_ok, exists_unit, rejectIf_ok, not_lt] at hused
  obtain ⟨d, hd, htotal, hcontrol, -⟩ := hused
  rw [charged hd] at htotal hcontrol
  exact ⟨(Nat.le_add_left _ _).trans htotal, (Nat.le_add_left _ _).trans hcontrol⟩

/-! ## The check never overflows -/

theorem scan_carryIn (e : ε) : ∀ (xs : List MailboxExecutionSpec) (carry : Nat),
    scan (fun carry candidate => do
      let occupancy ← callbackOccupancy candidate e
      pure (max carry (max occupancy candidate.requirements.maxNonpreemptiveRun.toNat))) carry xs = .ok (carryIn carry xs)
  | [], _ => rfl
  | x :: xs, carry => by
    exact (scan_ok_cons ..).2 ⟨_, ok_bind (callbackOccupancy_eq x e) rfl, scan_carryIn e xs _⟩

theorem carryIn_le : ∀ (xs : List MailboxExecutionSpec) {carry : Nat}, carry ≤ maxOccupancy → carryIn carry xs ≤ maxOccupancy
  | [], _, h => h
  | x :: xs, _, h =>
    carryIn_le xs (max_le h (max_le (occupancy_le x) ((nonpreemptive_le x).trans (occupancy_le x))))

theorem le_carryIn : ∀ (xs : List MailboxExecutionSpec) (carry : Nat), carry ≤ carryIn carry xs ∧
    ∀ x ∈ xs, x.occupancy ≤ carryIn carry xs
  | [], _ => ⟨le_rfl, fun _ hx => by cases hx⟩
  | x :: xs, carry => by
    obtain ⟨hcarry, hall⟩ := le_carryIn xs (max carry (max x.occupancy x.requirements.maxNonpreemptiveRun.toNat))
    refine ⟨(le_max_left _ _).trans hcarry, fun y hy => ?_⟩
    rcases List.mem_cons.1 hy with rfl | hy
    · exact ((le_max_left _ _).trans (le_max_right _ _)).trans hcarry
    · exact hall y hy

theorem demand_le_of_mem (h : x ∈ xs) : x.demand ≤ demandOf xs :=
  List.single_le_sum (fun _ _ => Nat.zero_le _) _ (List.mem_map_of_mem h)

theorem checkedCeilDiv_eq (domain : LoopDomainSpec) {slo : Nat} (hslo : slo < 2 ^ 64) (e : ε) :
    checkedCeilDiv slo domain.capacity.capacityWindow.toNat e =
        .ok ((slo + (domain.capacity.capacityWindow.toNat - 1)) / domain.capacity.capacityWindow.toNat) ∧
      addU128 ((slo + (domain.capacity.capacityWindow.toNat - 1)) / domain.capacity.capacityWindow.toNat) 1 e =
        .ok (arrivalHorizon domain slo) := by
  have hpos := window_pos domain
  have hle := window_le domain
  have hmax : 2 ^ 64 + maxExecutionDurationNanos.toNat + 1 ≤ u128Max := by decide
  have hdiv := Nat.div_le_self (slo + (domain.capacity.capacityWindow.toNat - 1)) domain.capacity.capacityWindow.toNat
  refine ⟨ok_bind (ok_check (Nat.not_lt.2 hpos) rfl) <|
    ok_bind (addU128_ok.2 ⟨?_, rfl⟩) <| ok_check hpos.ne' rfl, addU128_ok.2 ⟨?_, rfl⟩⟩
  · omega
  · omega

theorem horizon_demand_le {slo : Nat} (hslo : slo < 2 ^ 64) (hdemand : x.demand ≤ domain.capacity.capacityWindow.toNat) :
    arrivalHorizon domain slo * x.demand ≤ 2 ^ 66 := by
  have hle := window_le domain
  have hmax : maxExecutionDurationNanos.toNat ≤ 2 ^ 64 := by decide
  have hdiv := Nat.div_mul_le_self (slo + (domain.capacity.capacityWindow.toNat - 1)) domain.capacity.capacityWindow.toNat
  calc arrivalHorizon domain slo * x.demand
      ≤ arrivalHorizon domain slo * domain.capacity.capacityWindow.toNat := Nat.mul_le_mul_left _ hdemand
    _ ≤ slo + (domain.capacity.capacityWindow.toNat - 1) + domain.capacity.capacityWindow.toNat := by
      unfold arrivalHorizon
      rw [Nat.succ_mul]
      exact Nat.add_le_add_right hdiv _
    _ ≤ 2 ^ 66 := by omega

theorem peerWait_le {slo : Nat} (hslo : slo < 2 ^ 64) (hdemand : x.demand ≤ domain.capacity.capacityWindow.toNat) :
    peerWait bindings (arrivalHorizon domain slo) x ≤ 2 ^ 81 := by
  have hcapacity : capacityOf bindings x * x.occupancy ≤ 2 ^ 32 * maxOccupancy :=
    Nat.mul_le_mul (capacityOf_lt bindings x).le (occupancy_le x)
  have hmax : 2 ^ 32 * maxOccupancy + 2 ^ 66 ≤ 2 ^ 81 := by decide
  have harrivals := horizon_demand_le hslo hdemand
  unfold MailboxExecutionSpec.demand at harrivals
  unfold peerWait
  rw [Nat.add_mul, Nat.mul_assoc]
  omega

theorem find_of_bound (h : (bindingOf bindings x).isSome) : ∃ b, bindings.assignments.find? (fun b => b.bindingId = x.bindingId) =
    some b ∧ b.mailboxSpec.capacityItems.toNat = capacityOf bindings x ∧
      b.mailboxSpec.maxQueueAge.toNat = queueAgeOf bindings x := by
  obtain ⟨b, hb⟩ := Option.isSome_iff_exists.1 h
  refine ⟨b, hb, ?_, ?_⟩
  · unfold capacityOf
    rw [hb]
    rfl
  · unfold queueAgeOf
    rw [hb]
    rfl

theorem peerDelay_eq {slo wait : Nat} (hslo : slo < 2 ^ 64) (hbound : (bindingOf bindings x).isSome)
    (hroom : wait + peerWait bindings (arrivalHorizon domain slo) x ≤ u128Max) :
    peerDelay bindings (arrivalHorizon domain slo) wait x = .ok (wait + peerWait bindings (arrivalHorizon domain slo) x) := by
  obtain ⟨b, hb, hcapacity, -⟩ := find_of_bound hbound
  have hle := window_le domain
  have harrivals : x.dispatch.arrivals.toNat ≤ 2 ^ 20 :=
    (UInt32.le_iff_toNat_le.1 x.dispatch.bounded.2).trans (by decide)
  have hhorizon : arrivalHorizon domain slo ≤ 2 ^ 66 := by
    have hdiv := Nat.div_le_self (slo + (domain.capacity.capacityWindow.toNat - 1)) domain.capacity.capacityWindow.toNat
    have hmax : maxExecutionDurationNanos.toNat ≤ 2 ^ 64 := by decide
    unfold arrivalHorizon
    omega
  have hproduct : arrivalHorizon domain slo * x.dispatch.arrivals.toNat ≤ 2 ^ 66 * 2 ^ 20 := Nat.mul_le_mul hhorizon harrivals
  have hitems := capacityOf_lt bindings x
  have hmax : 2 ^ 32 + 2 ^ 66 * 2 ^ 20 ≤ u128Max := by decide
  refine ok_bind (okOr_ok.2 hb) <| ok_bind (ok_check ?_ rfl) <|
    ok_bind (addU128_ok.2 ⟨?_, rfl⟩) <| ok_bind (callbackOccupancy_eq x _) <| ok_bind (ok_check ?_ rfl) ?_
  · omega
  · omega
  · rw [hcapacity]
    exact Nat.not_lt.2 ((Nat.le_add_left _ _).trans hroom)
  · rw [hcapacity]
    exact addU128_ok.2 ⟨hroom, rfl⟩

theorem scan_peerDelay {slo : Nat} (hslo : slo < 2 ^ 64) : ∀ {xs : List MailboxExecutionSpec} {wait : Nat},
    (∀ x ∈ xs, (bindingOf bindings x).isSome) →
    wait + (xs.map (peerWait bindings (arrivalHorizon domain slo))).sum ≤ u128Max →
    scan (peerDelay bindings (arrivalHorizon domain slo)) wait xs =
      .ok (wait + (xs.map (peerWait bindings (arrivalHorizon domain slo))).sum)
  | [], _, _, _ => rfl
  | x :: xs, wait, hall, hroom => by
    obtain ⟨hx, hxs⟩ := List.forall_mem_cons.1 hall
    rw [List.map_cons, List.sum_cons, ← Nat.add_assoc] at hroom ⊢
    have hhere : wait + peerWait bindings (arrivalHorizon domain slo) x ≤ u128Max := (Nat.le_add_right _ _).trans hroom
    exact (scan_ok_cons ..).2 ⟨_, peerDelay_eq hslo hx hhere, scan_peerDelay hslo hxs hroom⟩

theorem waits_le (bindings : TargetAssignments) (control : MailboxExecutionSpec)
    (hall : ∀ x ∈ xs, x.demand ≤ domain.capacity.capacityWindow.toNat) (hcount : xs.length ≤ maxMailboxExecutions)
    {slo : Nat} (hslo : slo < 2 ^ 64) :
    carryIn 0 xs + (capacityOf bindings control - 1) * control.occupancy +
      ((peersOf xs control).map (peerWait bindings (arrivalHorizon domain slo))).sum ≤ u128Max := by
  have hcarry := carryIn_le xs (Nat.zero_le maxOccupancy)
  have hown : (capacityOf bindings control - 1) * control.occupancy ≤ 2 ^ 32 * maxOccupancy :=
    Nat.mul_le_mul ((Nat.sub_le _ _).trans (capacityOf_lt bindings control).le) (occupancy_le control)
  have hsum : ((peersOf xs control).map (peerWait bindings (arrivalHorizon domain slo))).sum ≤ 256 * 2 ^ 81 := by
    refine le_trans (List.sum_le_card_nsmul _ (2 ^ 81) fun n hn => ?_) ?_
    · obtain ⟨x, hx, rfl⟩ := List.mem_map.1 hn
      exact peerWait_le hslo (hall x (List.mem_of_mem_filter hx))
    · rw [List.length_map]
      exact Nat.mul_le_mul_right _ ((List.length_filter_le _ _).trans hcount)
  have hmax : maxOccupancy + 2 ^ 32 * maxOccupancy + 256 * 2 ^ 81 ≤ u128Max := by decide
  omega

/-- **The check is its comparison**: over a built plan whose references resolve, no step before the last fails. -/
theorem controlStartSlo_eq (h : execution.Built sha256) (hdomain : domain ∈ execution.domains)
    (hcontrol : control ∈ execution.inDomain domain) (hbound : ∀ x ∈ execution.mailboxes, (bindingOf bindings x).isSome) :
    controlStartSlo bindings execution control =
      rejectIf (queueAgeOf bindings control ≤ waitBound bindings execution domain control) .controlStartSloExceeded := by
  obtain ⟨hmember, hsame⟩ := List.mem_filter.1 hcontrol
  have hfound : execution.domains.find? (fun d => d.domain = control.domain) = some domain := by
    rw [of_decide_eq_true hsame]
    exact (h.again.1.find_iff _ _ domain).2 ⟨hdomain, rfl⟩
  obtain ⟨b, hb, hcapacity, hage⟩ := find_of_bound (hbound control hmember)
  have hslo := queueAgeOf_lt bindings control
  have hall : ∀ x ∈ execution.inDomain domain, x.demand ≤ domain.capacity.capacityWindow.toNat := fun x hx =>
    (demand_le_of_mem hx).trans (demand_le h hdomain).1
  have hcount : (execution.inDomain domain).length ≤ maxMailboxExecutions :=
    (List.length_filter_le _ _).trans h.counts.mailboxes_le
  have hroom := waits_le bindings control hall hcount hslo
  have hitems : 1 ≤ capacityOf bindings control := by
    rw [← hcapacity, Nat.one_le_iff_ne_zero]
    exact fun hzero => b.mailboxSpec.items_ne (UInt32.toNat_inj.1 hzero)
  obtain ⟨hceil, hhorizon⟩ := checkedCeilDiv_eq domain hslo TargetPlanContractError.controlStartSloExceeded
  have hown : carryIn 0 (execution.inDomain domain) + (capacityOf bindings control - 1) * control.occupancy ≤ u128Max :=
    (Nat.le_add_right _ _).trans hroom
  have hpeers : ∀ x ∈ peersOf (execution.inDomain domain) control, (bindingOf bindings x).isSome := fun x hx =>
    hbound x (List.mem_of_mem_filter (List.mem_of_mem_filter hx))
  have hahead : subU128 (capacityOf bindings control) 1 TargetPlanContractError.controlStartSloExceeded =
      .ok (capacityOf bindings control - 1) := ok_check (Nat.not_lt.2 hitems) rfl
  have hdelay : mulU128 (capacityOf bindings control - 1) control.occupancy TargetPlanContractError.controlStartSloExceeded =
      .ok ((capacityOf bindings control - 1) * control.occupancy) :=
    ok_check (Nat.not_lt.2 ((Nat.le_add_left _ _).trans hown)) rfl
  have hwait : addU128 (carryIn 0 (execution.inDomain domain)) ((capacityOf bindings control - 1) * control.occupancy)
      TargetPlanContractError.controlStartSloExceeded = .ok _ := addU128_ok.2 ⟨hown, rfl⟩
  unfold controlStartSlo
  rw [bind_eq_of_ok (okOr_ok.2 hfound), bind_eq_of_ok (okOr_ok.2 hb)]
  dsimp only
  rw [hage, hcapacity, bind_eq_of_ok hceil, bind_eq_of_ok hhorizon, bind_eq_of_ok (scan_carryIn _ _ 0),
    bind_eq_of_ok (callbackOccupancy_eq control _), bind_eq_of_ok hahead, bind_eq_of_ok hdelay]
  exact (bind_eq_of_ok hwait).trans (bind_eq_of_ok (scan_peerDelay hslo hpeers hroom))

/-! ## The bound is the server's -/

theorem waitBound_eq (h : execution.Built sha256) (phase : MailboxExecutionSpec → Nat)
    (hcontrol : control ∈ execution.inDomain domain) :
    (domainQueues bindings execution domain phase).bound (carryIn 0 (execution.inDomain domain))
      (queueAgeOf bindings control) control = waitBound bindings execution domain control := by
  have hbindings := (validateExecutionRecords_ok h.accepted).distinctBindings
  have hnodup : (execution.inDomain domain).Nodup := (List.Nodup.of_map _ hbindings).sublist List.filter_sublist
  have hpeers : (execution.inDomain domain).toFinset.erase control = (peersOf (execution.inDomain domain) control).toFinset := by
    ext x
    rw [Finset.mem_erase, List.mem_toFinset, List.mem_toFinset, peersOf, List.mem_filter, decide_eq_true_eq, and_comm]
    refine and_congr_right fun hx => not_congr ⟨fun heq => congrArg _ heq, fun heq => ?_⟩
    exact List.inj_on_of_nodup_map hbindings (List.mem_of_mem_filter hx) (List.mem_of_mem_filter hcontrol) heq
  have hwork : (domainQueues bindings execution domain phase).work control (fun p => capacityOf bindings p +
      arrivalHorizon domain (queueAgeOf bindings control) * p.dispatch.arrivals.toNat) =
        ((peersOf (execution.inDomain domain) control).map
          (peerWait bindings (arrivalHorizon domain (queueAgeOf bindings control)))).sum := by
    have hdistinct : (peersOf (execution.inDomain domain) control).Nodup := hnodup.sublist List.filter_sublist
    rw [← List.sum_toFinset _ hdistinct, ← hpeers]
    exact Finset.sum_congr rfl fun p _ => Nat.mul_comm _ _
  unfold waitBound
  rw [← hwork]
  rfl

/-- **An accepted plan starts its control callbacks in time.**  In every run of a serial server that keeps to the plan, and
for every phase of its windows, an item of a control mailbox that is not displaced starts strictly before it is too old.  The
check computes its bound without overflow, so it fails exactly where the bound reaches the age; and each domain's demand is
within its window, that of its control mailboxes within their budget. -/
theorem control_start_sound (sha256 : Sha256) (bindings : TargetAssignments) (execution : TargetExecutionPlan)
    (hbuilt : execution.Built sha256) :
    (validateTargetPlanReferences bindings execution = .ok () →
      ∀ domain ∈ execution.domains, ∀ control ∈ controls (execution.inDomain domain), ∀ phase s,
        Reachable (domainQueues bindings execution domain phase) s → ∀ a ∈ s.admitted, a.queue = control →
          (∀ time, (a.item, time) ∈ s.started → time < a.time + queueAgeOf bindings control) ∧
            (a.item ∉ s.displaced → a.time + queueAgeOf bindings control ≤ s.now → ∃ time, (a.item, time) ∈ s.started)) ∧
      ((∀ x ∈ execution.mailboxes, (bindingOf bindings x).isSome) →
        ∀ domain ∈ execution.domains, ∀ control ∈ controls (execution.inDomain domain),
          controlStartSlo bindings execution control =
            rejectIf (queueAgeOf bindings control ≤ waitBound bindings execution domain control) .controlStartSloExceeded) ∧
        ∀ domain ∈ execution.domains, demandOf (execution.inDomain domain) ≤ domain.capacity.capacityWindow.toNat ∧
          demandOf (controls (execution.inDomain domain)) ≤ domain.capacity.controlReservedRunBudget.toNat := by
  refine ⟨fun haccepted domain hdomain control hcontrol phase s hs a ha hqueue => ?_,
    fun hbound domain hdomain control hcontrol => controlStartSlo_eq hbuilt hdomain (List.mem_of_mem_filter hcontrol) hbound,
    fun domain => demand_le hbuilt⟩
  have hmember := List.mem_of_mem_filter hcontrol
  simp only [validateTargetPlanReferences, bind_ok, exists_unit, forEach_ok, validateControlStartSlo] at haccepted
  obtain ⟨-, hreferences, -, hslo⟩ := haccepted
  have hbound : ∀ x ∈ execution.mailboxes, (bindingOf bindings x).isSome := by
    intro x hx
    have hreference := hreferences x hx
    simp only [validateBindingReference, bind_ok, okOr_ok] at hreference
    obtain ⟨b, hb, -⟩ := hreference
    exact Option.isSome_iff_exists.2 ⟨b, hb⟩
  have hcontrolled := hslo control
    (List.mem_filter.2 ⟨List.mem_of_mem_filter hmember, (List.mem_filter.1 hcontrol).2⟩)
  rw [controlStartSlo_eq hbuilt hdomain hmember hbound, rejectIf_ok, Nat.not_le,
    ← waitBound_eq hbuilt phase hmember] at hcontrolled
  exact hs.starts (fun x hx => (le_carryIn _ 0).2 x (List.mem_toFinset.1 hx)) (window_pos domain)
    (List.mem_toFinset.2 hmember) hcontrolled ha hqueue

/-- The peer is served first, and the control item that arrives at 7 starts when the peer ends, at 40. -/
def delayed : State MailboxExecutionSpec :=
  let busy := ((State.start 0).receive (sampleMailbox 12 .stream) 1).serve (sampleMailbox 12 .stream) 1 []
  let waiting := { busy with now := 7 }.receive (sampleMailbox 2 .control) 0
  { waiting with now := 40, running := none }.serve (sampleMailbox 2 .control) 0 []

/-- Two queues are accepted, and the run in which the control item waits for its peer starts it before 1007. -/
theorem control_start_sound_delayed :
    validateTargetPlanReferences sampleBindings sampleExecution = .ok () ∧
      Reachable (domainQueues sampleBindings sampleExecution sampleDomain fun _ => 0) delayed ∧
        (0, 40) ∈ delayed.started ∧ ∀ time, (0, time) ∈ delayed.started → time < 1007 := by
  have haccepted : validateTargetPlanReferences sampleBindings sampleExecution = .ok () := by decide +kernel
  have hreach : Reachable (domainQueues sampleBindings sampleExecution sampleDomain fun _ => 0) delayed := by
    refine ⟨0, .head (.receive (sampleMailbox 12 .stream) 1 (by decide +kernel) (by decide +kernel) (by decide +kernel)
      (by decide +kernel)) ?_⟩
    refine .head (.serve (sampleMailbox 12 .stream) 1 [] (by decide +kernel) rfl (by decide +kernel)) ?_
    refine .head (.run 7 (sampleMailbox 12 .stream) 0 rfl (by decide +kernel)) ?_
    refine .head (.receive (sampleMailbox 2 .control) 0 (by decide +kernel) (by decide +kernel) (by decide +kernel)
      (by decide +kernel)) ?_
    refine .head (.run 33 (sampleMailbox 12 .stream) 0 rfl (by decide +kernel)) ?_
    refine .head (.finish (sampleMailbox 12 .stream) 0 rfl) ?_
    exact .single (.serve (sampleMailbox 2 .control) 0 [] (by decide +kernel) rfl (by decide +kernel))
  have hsound := (control_start_sound (fun _ => 0) sampleBindings sampleExecution sampleExecution_built).1 haccepted
    sampleDomain (by decide +kernel) (sampleMailbox 2 .control) (by decide +kernel) _ _ hreach
    ⟨0, sampleMailbox 2 .control, 7⟩ (by decide +kernel) rfl
  exact ⟨haccepted, hreach, by decide +kernel, hsound.1⟩

end Plan
end ParaEgox
