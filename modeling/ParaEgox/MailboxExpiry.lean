import ParaEgox.MailboxRuns

/-!
# MailboxExpiry — what a reading of the clock takes out of the queue

A queued message has expired once the reading has reached the earliest of its three deadlines.  The scan for expired
items never fails on a mailbox's own clock; it names exactly the expired items, in queue order, with the reason of the
earliest deadline, and what it leaves is the rest of the queue in order.
-/
namespace ParaEgox
namespace Mailbox

open Check Indexed

/-! ## Deadlines -/

def QueuedMessage.expiry (item : QueuedMessage) : U64 :=
  min item.message.runDeadline.deadline (min item.message.freshUntil.deadline item.queueAgeDeadline.deadline)

def QueuedMessage.dueReason (item : QueuedMessage) : TerminalReason :=
  if item.message.runDeadline.deadline = item.expiry then .runDeadlineExpired
  else if item.message.freshUntil.deadline = item.expiry then .staleBeforeRun
  else .queueAgeExpired

def overdue (reading : ClockReading) (item : QueuedMessage) : Bool := decide (item.expiry ≤ reading.now)

def Compatible (m : Mailbox) (reading : ClockReading) : Prop :=
  reading.domain = m.clockDomain ∧ reading.generation = m.clockGeneration

def live (m : Mailbox) (reading : ClockReading) : List QueuedMessage := m.queue.filter fun item => !overdue reading item

def expiryRecords (m : Mailbox) (reading : ClockReading) : List TerminalRecord :=
  (m.queue.filter (overdue reading)).map fun item => terminalOf item item.dueReason

theorem earliestBound_eq (item : QueuedMessage) :
    (earliestBound item).1.deadline = item.expiry ∧ (earliestBound item).2 = item.dueReason := by
  unfold earliestBound QueuedMessage.dueReason QueuedMessage.expiry
  dsimp only
  by_cases hrun : item.message.runDeadline.deadline ≤ item.message.freshUntil.deadline
      ∧ item.message.runDeadline.deadline ≤ item.queueAgeDeadline.deadline
  · rw [if_pos hrun, Nat.min_eq_left (Nat.le_min.2 hrun), if_pos rfl]
    exact ⟨rfl, rfl⟩
  · rw [if_neg hrun]
    by_cases hfresh : item.message.freshUntil.deadline ≤ item.queueAgeDeadline.deadline
    · have hlt : item.message.freshUntil.deadline < item.message.runDeadline.deadline :=
        Nat.lt_of_not_le fun hle => hrun ⟨hle, Nat.le_trans hle hfresh⟩
      rw [if_pos hfresh, Nat.min_eq_left hfresh, Nat.min_eq_right (Nat.le_of_lt hlt), if_neg (Nat.ne_of_gt hlt),
        if_pos rfl]
      exact ⟨rfl, rfl⟩
    · have hage := Nat.lt_of_not_le hfresh
      have hlt : item.queueAgeDeadline.deadline < item.message.runDeadline.deadline :=
        Nat.lt_of_not_le fun hle => hrun ⟨Nat.le_trans hle (Nat.le_of_lt hage), hle⟩
      rw [if_neg hfresh, Nat.min_eq_right (Nat.le_of_lt hage), Nat.min_eq_right (Nat.le_of_lt hlt),
        if_neg (Nat.ne_of_gt hlt), if_neg (Nat.ne_of_gt hage)]
      exact ⟨rfl, rfl⟩

variable {m : Mailbox} {reading : ClockReading}

theorem OwnItem.earliest {item : QueuedMessage} (h : m.OwnItem item) : m.ownClock (earliestBound item).1 := by
  obtain ⟨hage, hfresh, hrun⟩ := h
  unfold earliestBound
  dsimp only
  split
  · exact hrun
  · split
    · exact hfresh
    · exact hage

theorem expirationReason_eq (hr : m.Compatible reading) {item : QueuedMessage} (hown : m.OwnItem item) :
    expirationReason item reading = .ok (if overdue reading item then some item.dueReason else none) := by
  obtain ⟨hdeadline, hreason⟩ := earliestBound_eq item
  obtain ⟨hdomain, hgeneration⟩ := hown.earliest
  unfold expirationReason overdue
  refine bind_ok.2 ⟨decide (item.expiry ≤ reading.now), wrapErr_ok.2 ?_, by rw [hreason]; rfl⟩
  exact (MonotonicDeadline.isExpiredAt_ok _ _ _).2
    ⟨hr.1.trans hdomain.symm, hr.2.trans hgeneration.symm, by rw [hdeadline]⟩

theorem lt_of_not_overdue {item : QueuedMessage} (h : overdue reading item = false) :
    reading.now < item.message.runDeadline.deadline ∧ reading.now < item.message.freshUntil.deadline
      ∧ reading.now < item.queueAgeDeadline.deadline := by
  have hlt : reading.now < item.expiry := Nat.lt_of_not_le (of_decide_eq_false h)
  exact ⟨Nat.lt_of_lt_of_le hlt (Nat.min_le_left _ _),
    Nat.lt_of_lt_of_le hlt (Nat.le_trans (Nat.min_le_right _ _) (Nat.min_le_left _ _)),
    Nat.lt_of_lt_of_le hlt (Nat.le_trans (Nat.min_le_right _ _) (Nat.min_le_right _ _))⟩

/-! ## The scan for expired items -/

/-- What the scan found behind `before`: each expired item with its reason, and no other. -/
structure Scanned (reading : ClockReading) (before queue : List QueuedMessage) (items : List (Nat × TerminalReason)) :
    Prop where
  each : List.Forall₂ (fun x item => (before ++ queue)[x.1]? = some item ∧ x.2 = item.dueReason) items
    (queue.filter (overdue reading))
  only : ∀ j item, queue[j]? = some item → (before.length + j ∈ indicesForExpiredItems items ↔ overdue reading item = true)

theorem expiredFrom_scanned (hr : m.Compatible reading) :
    ∀ (queue before : List QueuedMessage), (∀ item ∈ queue, m.OwnItem item) →
      ∃ items, expiredFrom reading before.length queue = .ok items ∧ Scanned reading before queue items
  | [], before, _ => ⟨[], rfl, .nil, fun j item hj => by simp at hj⟩
  | item :: queue, before, hown => by
    obtain ⟨later, hlater, heach, honly⟩ := expiredFrom_scanned hr queue (before ++ [item])
      fun x hx => hown x (List.mem_cons_of_mem _ hx)
    rw [List.append_assoc] at heach
    rw [List.length_append, List.length_singleton] at hlater honly
    have hreason := expirationReason_eq hr (hown item List.mem_cons_self)
    have hbounds := (expiredFrom_ok hlater).2
    have hpast : before.length ∉ indicesForExpiredItems later := fun hmem => by
      have := (hbounds _ hmem).1
      omega
    refine ⟨_, bind_ok.2 ⟨_, hreason, bind_ok.2 ⟨later, hlater, rfl⟩⟩, ?_⟩
    cases hover : overdue reading item with
    | true =>
      refine ⟨?_, fun j x hj => ?_⟩
      · rw [List.filter_cons_of_pos hover]
        exact .cons ⟨by simp, rfl⟩ heach
      · cases j with
        | zero =>
          cases hj
          exact ⟨fun _ => hover, fun _ => List.mem_cons_self⟩
        | succ j =>
          have hne : before.length + (j + 1) ≠ before.length := by omega
          rw [← honly j x hj, show before.length + 1 + j = before.length + (j + 1) by omega]
          exact ⟨fun hmem => (List.mem_cons.1 hmem).resolve_left hne, List.mem_cons_of_mem _⟩
    | false =>
      refine ⟨?_, fun j x hj => ?_⟩
      · rw [List.filter_cons_of_neg (by simp [hover])]
        exact heach
      · cases j with
        | zero =>
          cases hj
          exact ⟨fun hmem => absurd hmem hpast, fun h => by rw [hover] at h; cases h⟩
        | succ j =>
          rw [← honly j x hj, show before.length + 1 + j = before.length + (j + 1) by omega]
          rfl

/-- **The expired items of a mailbox at a reading**: the indices point at the expired messages and the other indices at
the live ones, and the records are those of the expired messages. -/
structure ExpiredAt (m : Mailbox) (reading : ClockReading) (items : List (Nat × TerminalReason)) : Prop where
  expired : Points m.queue (indicesForExpiredItems items) (m.queue.filter (overdue reading))
  live : Points m.queue (m.liveIndicesExcluding (indicesForExpiredItems items)) (m.live reading)
  records : m.recordsForExpiredItems items = m.expiryRecords reading

theorem Ok.expiredItems (h : Ok m) {reading : ClockReading} (hr : m.Compatible reading) :
    ∃ items, m.expiredItems reading = .ok items ∧ ExpiredAt m reading items := by
  obtain ⟨items, hitems, heach, honly⟩ := expiredFrom_scanned hr m.queue [] h.clock
  rw [List.nil_append] at heach
  refine ⟨items, hitems, ⟨(expiredFrom_ok hitems).1, ?_⟩, ?_, ?_⟩
  · exact List.forall₂_map_left_iff.2 (heach.imp fun _ _ hx => hx.1)
  · refine (points_range m.queue).filter fun i item hi => ?_
    have hiff := honly i item hi
    rw [List.length_nil, Nat.zero_add] at hiff
    cases hover : overdue reading item with
    | true => simp [hiff.2 hover]
    | false => simp [mt hiff.1 (by simp [hover])]
  · unfold recordsForExpiredItems expiryRecords
    clear hitems honly
    generalize m.queue.filter (overdue reading) = due at heach ⊢
    induction heach with
    | nil => rfl
    | cons hx _ ih => simp only [List.filterMap_cons, hx.1, hx.2, Option.map_some, ih, List.map_cons]

theorem ExpiredAt.drop {items : List (Nat × TerminalReason)}
    (h : ExpiredAt m reading items) : drop (indicesForExpiredItems items) m.queue = m.live reading :=
  h.live.drop fun i hi => by simp [mem_liveIndices, hi]

/-! ## The counters have room for every expiry -/

theorem TerminalCounters.get_le_sum (c : TerminalCounters) (reason : TerminalReason) : c.get reason ≤ c.values.sum := by
  cases reason <;> simp only [TerminalCounters.get, TerminalCounters.values, List.sum_cons, List.sum_nil] <;> omega

theorem TerminalCounters.checkedIncrementRecords_total : ∀ (records : List TerminalRecord) (c : TerminalCounters),
    c.values.sum + records.length ≤ u64Max → ∃ c', c.checkedIncrementRecords records = .ok c'
  | [], c, _ => ⟨c, rfl⟩
  | r :: records, c, h => by
    have hget := c.get_le_sum r.reason
    rw [List.length_cons] at h
    have hfirst : c.checkedIncrement r.reason = .ok (c.set (c.get r.reason + 1) r.reason) :=
      bind_ok.2 ⟨_, addU64_ok.2 ⟨by omega, rfl⟩, rfl⟩
    have hsum := TerminalCounters.checkedIncrement_sum hfirst
    obtain ⟨c', hlater⟩ := checkedIncrementRecords_total records (c.set (c.get r.reason + 1) r.reason) (by omega)
    exact ⟨c', (scan_ok_cons _ _ _ _ _).2 ⟨_, hfirst, hlater⟩⟩

theorem Ok.countExpired (h : Ok m) (reading : ClockReading) :
    ∃ terminals, m.terminals.checkedIncrementRecords (m.expiryRecords reading) = .ok terminals := by
  have hlen : (m.expiryRecords reading).length ≤ m.queue.length := by
    unfold expiryRecords
    rw [List.length_map]
    exact List.length_filter_le _ _
  have hadmitted := h.admitted
  have hoffers := h.offers
  have hle := h.offered_le
  exact TerminalCounters.checkedIncrementRecords_total _ _ (by omega)

theorem Ok.bytesForIndices_total (h : Ok m) (indices : List Nat) :
    ∃ bytes, m.bytesForIndices indices = .ok bytes ∧ bytes ≤ m.queuedBytes := by
  have hsum := h.charged_split indices
  have hqueued := h.queued_le
  have hlimit := m.limits.capacityBytes_le
  exact ⟨_, sumU64_ok.2 ⟨by omega, rfl⟩, by omega⟩

theorem Compatible.ensured (hr : m.Compatible reading) : m.ensureReading reading = .ok () := by
  simp only [ensureReading, bind_ok, rejectIf_ok, exists_unit, ne_eq, not_not]
  exact hr

/-! ## Expiry of the queue -/

theorem Ok.planExpiry (h : Ok m) {reading : ClockReading} (hr : m.Compatible reading) :
    ∃ plan, m.planExpiry reading = .ok plan ∧ plan.records = m.expiryRecords reading
      ∧ drop plan.expired m.queue = m.live reading := by
  obtain ⟨items, hitems, hexpired⟩ := h.expiredItems hr
  obtain ⟨terminals, hterminals⟩ := h.countExpired reading
  obtain ⟨bytes, hbytes, hle⟩ := h.bytesForIndices_total (indicesForExpiredItems items)
  rw [← hexpired.records] at hterminals
  refine ⟨⟨indicesForExpiredItems items, m.recordsForExpiredItems items, terminals, m.queuedBytes - bytes⟩, ?_,
    hexpired.records, hexpired.drop⟩
  simp only [Mailbox.planExpiry, bind_ok, subU64_ok, pure_ok]
  exact ⟨(), hr.ensured, items, hitems, terminals, hterminals, bytes, hbytes, _, ⟨hle, rfl⟩, rfl⟩

theorem Ok.closed_live (h : Ok m) (hclosed : m.lifecycle = .closed) (reading : ClockReading) :
    m.queue = [] ∧ m.live reading = [] ∧ m.expiryRecords reading = [] := by
  have hqueue := (h.closed hclosed).1
  refine ⟨hqueue, ?_, ?_⟩
  · unfold live
    rw [hqueue, List.filter_nil]
  · unfold expiryRecords
    rw [hqueue, List.filter_nil, List.map_nil]

/-- **An expiry never fails**: it removes exactly the expired messages, with one record each. -/
theorem Ok.expireQueued_exact (h : Ok m) {reading : ClockReading} (hr : m.Compatible reading) :
    (m.expireQueued reading).1 = .ok (m.expiryRecords reading) ∧ (m.expireQueued reading).2.queue = m.live reading := by
  unfold Mailbox.expireQueued
  rw [(validateState_ok m ()).2 h]
  dsimp only
  by_cases hclosed : m.lifecycle = .closed
  · obtain ⟨hqueue, hlive, hrecords⟩ := h.closed_live hclosed reading
    rw [if_pos hclosed, hlive, hrecords]
    exact ⟨rfl, hqueue⟩
  · obtain ⟨plan, hplan, hrecords, hdrop⟩ := h.planExpiry hr
    rw [if_neg hclosed, hplan]
    dsimp only
    rw [closeIfDrainedInternal_queue, relieved_queue, hdrop, hrecords]
    exact ⟨rfl, rfl⟩

end Mailbox
end ParaEgox
