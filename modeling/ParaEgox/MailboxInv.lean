import ParaEgox.Mailbox

/-!
# MailboxInv — the accounting invariant of the mailbox

`validateState` decides one joint invariant of identities, bytes and counters.  Every operation restores it from any
mailbox that satisfies it, which makes each later consistency check of the same call unreachable: an operation that fails
leaves the mailbox as it was.
-/
namespace ParaEgox
namespace Mailbox

open Check Indexed

def OwnItem (m : Mailbox) (item : QueuedMessage) : Prop :=
  m.ownClock item.queueAgeDeadline ∧ m.ownClock item.message.freshUntil ∧ m.ownClock item.message.runDeadline

/-- **The invariant**: limits, byte counters, identities, conservation of offers and of admitted messages, and a closed
mailbox is empty. -/
structure Ok (m : Mailbox) : Prop where
  offers : m.offers.admitted + m.offers.rejected + m.offers.closed + m.offers.expiredBeforeAdmission = m.offers.offered
  offered_le : m.offers.offered ≤ u64Max
  items : m.queue.length ≤ m.limits.capacityItems
  inflight : m.inflight.length ≤ m.limits.maxInflight
  queuedBytes : (m.queue.map (·.message.charged)).sum = m.queuedBytes
  inflightBytes : (m.inflight.map (·.payloadBytes)).sum = m.inflightBytes
  queued_le : m.queuedBytes ≤ m.limits.capacityBytes
  retained_le : m.queuedBytes + m.inflightBytes ≤ m.limits.maxRetainedBytes
  clock : ∀ item ∈ m.queue, m.OwnItem item
  ids : (m.queue.map (·.message.id) ++ m.inflight.map (·.messageId)).Nodup
  admitted : m.queue.length + m.inflight.length + m.terminals.values.sum = m.offers.admitted
  closed : m.lifecycle = .closed → m.queue = [] ∧ m.inflight = []

/-! ## `validateState` decides the invariant -/

theorem OfferCounters.validate_ok (c : OfferCounters) (u : Unit) :
    c.validate = .ok u ↔ c.admitted + c.rejected + c.closed + c.expiredBeforeAdmission = c.offered
      ∧ c.offered ≤ u64Max := by
  simp only [OfferCounters.validate, bind_ok, sumU64_ok, rejectIf_ok, ne_eq, not_not, List.sum_cons, List.sum_nil]
  constructor
  · rintro ⟨total, ⟨hle, rfl⟩, heq⟩
    exact ⟨by omega, by omega⟩
  · rintro ⟨heq, hle⟩
    exact ⟨_, ⟨by omega, rfl⟩, by omega⟩

theorem scan_insertActive_ok : ∀ (ids active r : List Ref16),
    scan insertActive active ids = .ok r ↔ (ids.Nodup ∧ ∀ id ∈ ids, id ∉ active) ∧ r = ids.reverse ++ active
  | [], active, r => by simp [scan, eq_comm]
  | id :: ids, active, r => by
    simp only [scan_ok_cons, insertActive, bind_ok, rejectIf_ok, exists_unit, pure_ok, scan_insertActive_ok ids,
      List.nodup_cons, List.mem_cons, forall_eq_or_imp, List.reverse_cons, List.append_assoc, List.singleton_append]
    constructor
    · rintro ⟨_, ⟨hid, rfl⟩, ⟨hnodup, hnot⟩, rfl⟩
      refine ⟨⟨⟨fun hmem => hnot id hmem List.mem_cons_self, hnodup⟩, hid, fun x hx hmem => ?_⟩, rfl⟩
      exact hnot x hx (List.mem_cons_of_mem _ hmem)
    · rintro ⟨⟨⟨hid, hnodup⟩, hactive, hnot⟩, rfl⟩
      refine ⟨_, ⟨hactive, rfl⟩, ⟨hnodup, fun x hx hmem => ?_⟩, rfl⟩
      rcases List.mem_cons.1 hmem with rfl | hmem
      · exact hid hx
      · exact hnot x hx hmem

theorem scan_activateQueued_ok (m : Mailbox) : ∀ (queue : List QueuedMessage) (active r : List Ref16),
    scan m.activateQueued active queue = .ok r ↔
      (∀ item ∈ queue, m.OwnItem item) ∧ scan insertActive active (queue.map (·.message.id)) = .ok r
  | [], active, r => by simp [scan]
  | item :: queue, active, r => by
    simp only [scan_ok_cons, activateQueued, bind_ok, rejectIf_ok, exists_unit, List.map_cons, List.forall_mem_cons,
      scan_activateQueued_ok m queue, not_or, not_not, OwnItem]
    constructor
    · rintro ⟨active', ⟨hown, hinsert⟩, hrest, hscan⟩
      exact ⟨⟨hown, hrest⟩, active', hinsert, hscan⟩
    · rintro ⟨⟨hown, hrest⟩, active', hinsert, hscan⟩
      exact ⟨active', ⟨hown, hinsert⟩, hrest, hscan⟩

theorem activeIds_ok (m : Mailbox) :
    (∃ active, scan m.activateQueued [] m.queue = .ok active
      ∧ ∃ r, scan insertActive active (m.inflight.map (·.messageId)) = .ok r) ↔
    (∀ item ∈ m.queue, m.OwnItem item) ∧ (m.queue.map (·.message.id) ++ m.inflight.map (·.messageId)).Nodup := by
  simp only [scan_activateQueued_ok, scan_insertActive_ok, List.nodup_append', List.append_nil]
  constructor
  · rintro ⟨_, ⟨hclock, ⟨hqueue, _⟩, rfl⟩, _, ⟨hinflight, hnot⟩, _⟩
    refine ⟨hclock, hqueue, hinflight, fun id hid hid' => hnot id hid' (List.mem_reverse.2 hid)⟩
  · rintro ⟨hclock, hqueue, hinflight, hdisjoint⟩
    refine ⟨_, ⟨hclock, ⟨hqueue, fun _ _ => List.not_mem_nil⟩, rfl⟩, _, ⟨hinflight, fun id hid hmem => ?_⟩, rfl⟩
    exact hdisjoint (List.mem_reverse.1 hmem) hid

/-- **The validator accepts exactly the invariant.** -/
theorem validateState_ok (m : Mailbox) (u : Unit) : m.validateState = .ok u ↔ Ok m := by
  have hci := m.limits.capacityItems_le
  have hmi := m.limits.maxInflight_le
  have hcb := m.limits.capacityBytes_le
  have hmr := m.limits.maxRetainedBytes_le
  have hu : u32Max + u32Max ≤ u64Max := by decide
  simp only [validateState, bind_ok, OfferCounters.validate_ok, toU32_ok, rejectIf_ok, sumU64_ok, addU64_ok, exists_unit,
    TerminalCounters.total, not_or, not_and, not_not, ne_eq, Nat.not_lt]
  constructor
  · rintro ⟨⟨hoffers, hoffered⟩, _, ⟨hq, rfl⟩, _, ⟨hi, rfl⟩, ⟨hitems, hinflight, hqueued⟩, _, ⟨hqs, rfl⟩, _, ⟨his, rfl⟩,
      ⟨hqb, hib⟩, _, ⟨hr, rfl⟩, hretained, active, hactive, r, hscan, _, ⟨hac, rfl⟩, _, ⟨ht, rfl⟩, _, ⟨hadm, rfl⟩,
      hadmitted, hclosed⟩
    obtain ⟨hclock, hids⟩ := (activeIds_ok m).1 ⟨active, hactive, r, hscan⟩
    refine ⟨hoffers, hoffered, hitems, hinflight, hqb, hib, hqueued, hretained, hclock, hids, hadmitted, fun hlife => ?_⟩
    have hzero := hclosed hlife
    exact ⟨List.length_eq_zero_iff.1 (by omega), List.length_eq_zero_iff.1 (by omega)⟩
  · intro h
    obtain ⟨active, hactive, r, hscan⟩ := (activeIds_ok m).2 ⟨h.clock, h.ids⟩
    have hadm := h.admitted
    have hoff := h.offers
    have hoffered := h.offered_le
    have hq := h.items
    have hi := h.inflight
    have hret := h.retained_le
    have hqb := h.queuedBytes
    have hib := h.inflightBytes
    refine ⟨⟨hoff, hoffered⟩, _, ⟨by omega, rfl⟩, _, ⟨by omega, rfl⟩, ⟨hq, hi, h.queued_le⟩, _, ⟨by omega, rfl⟩, _,
      ⟨by omega, rfl⟩, ⟨hqb, hib⟩, _, ⟨by omega, rfl⟩, hret, active, hactive, r, hscan, _, ⟨by omega, rfl⟩, _,
      ⟨by omega, rfl⟩, _, ⟨by omega, rfl⟩, hadm, fun hlife => ?_⟩
    obtain ⟨hqe, hie⟩ := h.closed hlife
    simp [hqe, hie]

/-! ## Counters -/

theorem TerminalCounters.checkedIncrement_sum {c c' : TerminalCounters} {reason : TerminalReason}
    (h : c.checkedIncrement reason = .ok c') : c'.values.sum = c.values.sum + 1 := by
  simp only [TerminalCounters.checkedIncrement, bind_ok, addU64_ok, pure_ok] at h
  obtain ⟨n, ⟨_, rfl⟩, rfl⟩ := h
  cases reason <;> simp only [TerminalCounters.set, TerminalCounters.get, TerminalCounters.values, List.sum_cons,
    List.sum_nil] <;> omega

theorem TerminalCounters.checkedIncrementRecords_sum : ∀ {records : List TerminalRecord} {c c' : TerminalCounters},
    c.checkedIncrementRecords records = .ok c' → c'.values.sum = c.values.sum + records.length
  | [], c, c', h => by
    cases h
    rfl
  | r :: records, c, c', h => by
    obtain ⟨mid, hmid, hrest⟩ := (scan_ok_cons _ _ _ _ _).1 h
    have hfirst := checkedIncrement_sum hmid
    have hlater := checkedIncrementRecords_sum hrest
    rw [List.length_cons]
    omega

def OfferCategory.admits : OfferCategory → Nat
  | admitted => 1
  | rejected | closed | expiredBeforeAdmission => 0

theorem OfferCounters.checkedTerminal_ok {c c' : OfferCounters} {category : OfferCategory}
    (h : c.checkedTerminal category = .ok c')
    (hc : c.admitted + c.rejected + c.closed + c.expiredBeforeAdmission = c.offered) :
    c'.admitted + c'.rejected + c'.closed + c'.expiredBeforeAdmission = c'.offered ∧ c'.offered ≤ u64Max
      ∧ c'.admitted = c.admitted + category.admits := by
  simp only [OfferCounters.checkedTerminal, bind_ok, addU64_ok] at h
  obtain ⟨offered, ⟨hle, rfl⟩, h⟩ := h
  cases category <;> simp only [OfferCounters.count, bind_ok, addU64_ok, pure_ok] at h <;>
    obtain ⟨n, ⟨_, rfl⟩, rfl⟩ := h <;> refine ⟨?_, hle, rfl⟩ <;> dsimp only <;> omega

/-! ## Expiry -/

variable {reading : ClockReading} {m : Mailbox} {expired live : List Nat} {message : ValidatedMessage}

theorem expiredFrom_ok : ∀ {queue : List QueuedMessage} {i : Nat}
    {items : List (Nat × TerminalReason)}, expiredFrom reading i queue = .ok items →
      (indicesForExpiredItems items).Pairwise (· < ·)
        ∧ ∀ j ∈ indicesForExpiredItems items, i ≤ j ∧ j < i + queue.length
  | [], i, items, h => by
    cases h
    exact ⟨.nil, fun j hj => by cases hj⟩
  | item :: queue, i, items, h => by
    simp only [expiredFrom, bind_ok, pure_ok] at h
    obtain ⟨reason, _, later, hlater, rfl⟩ := h
    obtain ⟨hpair, hbounds⟩ := expiredFrom_ok hlater
    cases reason with
    | none =>
      refine ⟨hpair, fun j hj => ?_⟩
      have := hbounds j hj
      rw [List.length_cons]
      omega
    | some r =>
      refine ⟨List.pairwise_cons.2 ⟨fun j hj => (hbounds j hj).1, hpair⟩, fun j hj => ?_⟩
      rw [List.length_cons]
      rcases List.mem_cons.1 hj with rfl | hj
      · exact ⟨Nat.le_refl _, by omega⟩
      · have := hbounds j hj
        omega

def Releases (item : QueuedMessage) (r : TerminalRecord) : Prop :=
  r.messageId = item.message.id ∧ r.releasedBytes = item.message.charged

theorem releases_expired (queue : List QueuedMessage) : ∀ (items : List (Nat × TerminalReason)),
    (∀ x ∈ items, x.1 < queue.length) →
      List.Forall₂ Releases ((indicesForExpiredItems items).filterMap (queue[·]?))
        (items.filterMap fun x => queue[x.1]?.map fun item => terminalOf item x.2)
  | [], _ => .nil
  | x :: items, h => by
    have hx := h x List.mem_cons_self
    have ih := releases_expired queue items fun y hy => h y (List.mem_cons_of_mem _ hy)
    simp only [indicesForExpiredItems, List.map_cons, List.filterMap_cons, List.getElem?_eq_getElem hx, Option.map_some]
    exact .cons ⟨rfl, rfl⟩ ih

/-- **An expiry names distinct indices of the queue and writes one record for each.** -/
theorem expiredItems_ok {items : List (Nat × TerminalReason)} (h : m.expiredItems reading = .ok items) :
    (indicesForExpiredItems items).Nodup ∧ (∀ i ∈ indicesForExpiredItems items, i < m.queue.length)
      ∧ List.Forall₂ Releases (pick (indicesForExpiredItems items) m.queue) (m.recordsForExpiredItems items) := by
  obtain ⟨hpair, hbounds⟩ := expiredFrom_ok h
  have hlt : ∀ i ∈ indicesForExpiredItems items, i < m.queue.length := fun i hi => by
    have := (hbounds i hi).2
    omega
  refine ⟨hpair.imp Nat.ne_of_lt, hlt, ?_⟩
  rw [pick_eq_filterMap hpair]
  exact releases_expired m.queue items fun x hx => hlt x.1 (List.mem_map_of_mem hx)

theorem releases_indices (items : List QueuedMessage) (reason : TerminalReason) :
    List.Forall₂ Releases items (items.map fun item => terminalOf item reason) := by
  induction items with
  | nil => exact .nil
  | cons item items ih => exact .cons ⟨rfl, rfl⟩ ih

/-! ## Changes that keep the invariant -/

theorem Ok.close (h : Ok m) : Ok m.closeIfDrainedInternal := by
  unfold closeIfDrainedInternal
  by_cases hdrained : m.lifecycle = .draining ∧ m.queue = [] ∧ m.inflight = []
  · rw [if_pos hdrained]
    exact { h with closed := fun _ => hdrained.2 }
  · rw [if_neg hdrained]
    exact h

variable {kept : List QueuedMessage} {displaced : List Nat}

theorem Ok.remove (h : Ok m) {removed : List QueuedMessage} (hperm : (removed ++ kept).Perm m.queue)
    {terminals : TerminalCounters} (hterminals : terminals.values.sum = m.terminals.values.sum + removed.length)
    {queuedBytes : Nat} (hbytes : (kept.map (·.message.charged)).sum = queuedBytes) :
    Ok { m with queue := kept, queuedBytes := queuedBytes, terminals := terminals } := by
  have hlen : removed.length + kept.length = m.queue.length := by
    rw [← List.length_append, hperm.length_eq]
  have hsum : (removed.map (·.message.charged)).sum + queuedBytes = m.queuedBytes := by
    rw [← hbytes, ← List.sum_append, ← List.map_append, (hperm.map _).sum_nat, h.queuedBytes]
  have hids : (kept.map (·.message.id) ++ m.inflight.map (·.messageId)).Nodup := by
    have hsub : (kept.map (·.message.id) ++ m.inflight.map (·.messageId)).Sublist
        ((removed ++ kept).map (·.message.id) ++ m.inflight.map (·.messageId)) := by
      rw [List.map_append, List.append_assoc]
      exact List.sublist_append_right _ _
    exact hsub.nodup (((hperm.map _).append_right _).nodup_iff.2 h.ids)
  have hitems := h.items
  have hqueued := h.queued_le
  have hretained := h.retained_le
  have hadmitted := h.admitted
  exact {
    offers := h.offers
    offered_le := h.offered_le
    items := by dsimp only; omega
    inflight := h.inflight
    queuedBytes := hbytes
    inflightBytes := h.inflightBytes
    queued_le := by dsimp only; omega
    retained_le := by dsimp only; omega
    clock := fun item hitem => h.clock item (hperm.subset (List.mem_append_right _ hitem))
    ids := hids
    admitted := by dsimp only; omega
    closed := fun hlife => by
      obtain ⟨hq, hi⟩ := h.closed hlife
      rw [hq, List.length_nil] at hlen
      have hzero : kept.length = 0 := by omega
      exact ⟨List.length_eq_zero_iff.1 hzero, hi⟩ }

theorem Ok.offer (h : Ok m) {offers : OfferCounters} {category : OfferCategory}
    (hoffers : m.offers.checkedTerminal category = .ok offers) (hcategory : category ≠ .admitted) :
    Ok { m with offers := offers } := by
  obtain ⟨hsum, hle, hadmitted⟩ := OfferCounters.checkedTerminal_ok hoffers h.offers
  have hzero : category.admits = 0 := by
    cases category
    · exact absurd rfl hcategory
    all_goals rfl
  exact { h with
    offers := hsum
    offered_le := hle
    admitted := by
      dsimp only
      rw [hadmitted, hzero]
      exact h.admitted }

theorem Ok.enqueue (h : Ok m) (hopen : m.lifecycle ≠ .closed) {offers : OfferCounters}
    (hoffers : m.offers.checkedTerminal .admitted = .ok offers) {item : QueuedMessage} (hown : m.OwnItem item)
    (hid : item.message.id ∉ m.queue.map (·.message.id) ++ m.inflight.map (·.messageId))
    (hitems : m.queue.length + 1 ≤ m.limits.capacityItems)
    (hqueued : m.queuedBytes + item.message.charged ≤ m.limits.capacityBytes)
    (hretained : m.queuedBytes + item.message.charged + m.inflightBytes ≤ m.limits.maxRetainedBytes) :
    Ok { m with
      queue := m.queue ++ [item], queuedBytes := m.queuedBytes + item.message.charged, offers := offers } := by
  obtain ⟨hsum, hle, hadmitted⟩ := OfferCounters.checkedTerminal_ok hoffers h.offers
  exact {
    offers := hsum
    offered_le := hle
    items := by simpa using hitems
    inflight := h.inflight
    queuedBytes := by simp [h.queuedBytes]
    inflightBytes := h.inflightBytes
    queued_le := hqueued
    retained_le := hretained
    clock := List.forall_mem_append.2 ⟨h.clock, List.forall_mem_singleton.2 hown⟩
    ids := by
      have hperm : ((m.queue ++ [item]).map (·.message.id) ++ m.inflight.map (·.messageId)).Perm
          (item.message.id :: (m.queue.map (·.message.id) ++ m.inflight.map (·.messageId))) := by
        rw [List.map_append, List.append_assoc]
        exact List.perm_middle
      exact hperm.nodup_iff.2 (List.nodup_cons.2 ⟨hid, h.ids⟩)
    admitted := by
      have hold := h.admitted
      simp only [List.length_append, List.length_singleton, hadmitted, OfferCategory.admits]
      omega
    closed := fun hlife => absurd hlife hopen }

/-! ## What an operation shows and what it moves -/

/-- What an operation shows: the message it admitted, the token it handed out, the terminal records it emitted. -/
structure Observation where
  admitted : Option ValidatedMessage
  started : Option InflightToken
  terminals : List TerminalRecord

structure Removal (m : Mailbox) (kept : List QueuedMessage) (expired displaced : List Nat)
    (records : List TerminalRecord) : Prop where
  kept : kept = drop (expired ++ displaced) m.queue
  disjoint : ∀ i ∈ expired, i ∉ displaced
  releases : List.Forall₂ Releases (pick expired m.queue ++ pick displaced m.queue) records

/-- **What one operation can move**: removals from the queue and one arrival, removals and the start of the head, or the
release of in-flight entries. -/
inductive Effect (m m' : Mailbox) (o : Observation) : Prop
  | offered (expired displaced : List Nat) (kept : List QueuedMessage) (deadline : MonotonicDeadline)
      (removal : Removal m kept expired displaced o.terminals)
      (queue : m'.queue = kept ++ o.admitted.toList.map (⟨·, deadline⟩)) (inflight : m'.inflight = m.inflight)
      (started : o.started = none)
  | started (expired : List Nat) (item : QueuedMessage) (generation : Nat)
      (removal : Removal m (item :: m'.queue) expired [] o.terminals)
      (inflight : m'.inflight = Keyed.insert InflightAccounting.messageId
        ⟨item.message.id, generation, item.message.charged⟩ m.inflight)
      (token : o.started = some ⟨m.reference, generation, item.message⟩) (admitted : o.admitted = none)
  | settled (entries : List InflightAccounting) (released : (entries ++ m'.inflight).Perm m.inflight)
      (releases : List.Forall₂ (fun a r => r.messageId = a.messageId ∧ r.releasedBytes = a.payloadBytes) entries
        o.terminals)
      (queue : m'.queue = m.queue) (started : o.started = none) (admitted : o.admitted = none)

@[simp] theorem closeIfDrainedInternal_queue (m : Mailbox) : m.closeIfDrainedInternal.queue = m.queue := by
  unfold closeIfDrainedInternal
  split <;> rfl

@[simp] theorem closeIfDrainedInternal_inflight (m : Mailbox) : m.closeIfDrainedInternal.inflight = m.inflight := by
  unfold closeIfDrainedInternal
  split <;> rfl

theorem Removal.perm {records : List TerminalRecord} (h : Removal m kept expired displaced records) :
    (pick expired m.queue ++ pick displaced m.queue ++ kept).Perm m.queue := by
  rw [h.kept]
  exact pick_pick_drop_perm h.disjoint m.queue

theorem Ok.removal (h : Ok m) {expired : List Nat}
    {records : List TerminalRecord} (hr : Removal m kept expired displaced records) {terminals : TerminalCounters}
    (hterminals : terminals.values.sum = m.terminals.values.sum + records.length) {queuedBytes : Nat}
    (hbytes : (kept.map (·.message.charged)).sum = queuedBytes) :
    Ok { m with queue := kept, queuedBytes := queuedBytes, terminals := terminals } :=
  h.remove hr.perm (by rw [hterminals, hr.releases.length_eq]) hbytes

theorem Ok.charged_split (h : Ok m) (indices : List Nat) : ((pick indices m.queue).map (·.message.charged)).sum
    + ((drop indices m.queue).map (·.message.charged)).sum = m.queuedBytes := by
  rw [← List.sum_append, ← List.map_append, ((pick_drop_perm indices m.queue).map _).sum_nat, h.queuedBytes]

theorem Ok.keptBytes (h : Ok m) (indices : List Nat) {removedBytes queuedBytes : Nat}
    (hremoved : m.bytesForIndices indices = .ok removedBytes) (hle : removedBytes ≤ m.queuedBytes)
    (hqueued : m.queuedBytes - removedBytes = queuedBytes) :
    ((drop indices m.queue).map (·.message.charged)).sum = queuedBytes := by
  simp only [bytesForIndices, sumU64_ok] at hremoved
  have hsum := h.charged_split indices
  omega

theorem Ok.bytesForIndices_le (h : Ok m) {indices : List Nat} {removedBytes : Nat}
    (hremoved : m.bytesForIndices indices = .ok removedBytes) : removedBytes ≤ m.queuedBytes := by
  simp only [bytesForIndices, sumU64_ok] at hremoved
  have hsum := h.charged_split indices
  omega

theorem removeQueueIndices_eq (m : Mailbox) (indices : List Nat) : m.removeQueueIndices indices = drop indices m.queue :=
  rotateOut_eq_drop indices m.queue

theorem removal_expired {items : List (Nat × TerminalReason)} (h : m.expiredItems reading = .ok items) :
    Removal m (drop (indicesForExpiredItems items) m.queue) (indicesForExpiredItems items) []
      (m.recordsForExpiredItems items) := by
  refine ⟨by rw [List.append_nil], fun _ _ => List.not_mem_nil, ?_⟩
  have hnil : pick [] m.queue = [] := by rw [pick_eq_filterMap .nil]; rfl
  rw [hnil, List.append_nil]
  exact (expiredItems_ok h).2.2

/-! ## Offers -/

def Fits (m : Mailbox) (expired displaced : List Nat) (incomingBytes : Nat) : Prop :=
  ∃ fit, m.fitAfterRemoving expired displaced incomingBytes = .ok fit ∧ fit.isFullFit = true

theorem dropOldest_ok {incomingBytes : Nat} : ∀ {live displaced d : List Nat},
    m.dropOldest expired incomingBytes displaced live = .ok d → displaced.Nodup →
      d.Nodup ∧ ∀ i ∈ d, i ∈ displaced ∨ i ∈ live
  | [], displaced, d, h, hnodup => by
    cases h
    exact ⟨hnodup, fun i hi => .inl hi⟩
  | i :: live, displaced, d, h, hnodup => by
    unfold dropOldest at h
    by_cases hi : i ∈ displaced
    · rw [if_pos hi] at h
      obtain ⟨hd, hsub⟩ := dropOldest_ok h hnodup
      exact ⟨hd, fun j hj => (hsub j hj).imp_right (List.mem_cons_of_mem _)⟩
    · rw [if_neg hi] at h
      have hperm := List.perm_insertionSort (· ≤ ·) (displaced ++ [i])
      have hnodup' : ((displaced ++ [i]).insertionSort (· ≤ ·)).Nodup := by
        rw [hperm.nodup_iff, (List.perm_append_singleton i displaced).nodup_iff]
        exact List.nodup_cons.2 ⟨hi, hnodup⟩
      have hmem : ∀ j ∈ (displaced ++ [i]).insertionSort (· ≤ ·), j ∈ displaced ∨ j ∈ i :: live := by
        intro j hj
        rcases List.mem_append.1 (hperm.subset hj) with hj | hj
        · exact .inl hj
        · exact .inr (List.mem_cons.2 (.inl (List.mem_singleton.1 hj)))
      obtain ⟨fit, _, h⟩ := bind_ok.1 h
      by_cases hfit : fit.isFullFit = true
      · rw [if_pos hfit] at h
        cases h
        exact ⟨hnodup', hmem⟩
      · rw [if_neg hfit] at h
        obtain ⟨hd, hsub⟩ := dropOldest_ok h hnodup'
        refine ⟨hd, fun j hj => ?_⟩
        rcases hsub j hj with hj | hj
        · exact hmem j hj
        · exact .inr (List.mem_cons_of_mem _ hj)

structure Decided (m : Mailbox) (message : ValidatedMessage) (expired live : List Nat) (d : OfferDecision) : Prop where
  nodup : d.displaced.Nodup
  live : ∀ i ∈ d.displaced, i ∈ live
  fits : d.planned = .accept → Fits m expired d.displaced message.charged

theorem firstDisplaced_ok (m : Mailbox) (message : ValidatedMessage) {live : List Nat} (hlive : live.Nodup) :
    (m.firstDisplaced message live).1.Nodup ∧ ∀ i ∈ (m.firstDisplaced message live).1, i ∈ live := by
  unfold firstDisplaced
  split
  · exact ⟨hlive, fun i hi => hi⟩
  · split
    · rename_i i hfind
      refine ⟨List.nodup_singleton i, fun j hj => ?_⟩
      rw [List.mem_singleton.1 hj]
      exact List.mem_reverse.1 (List.mem_of_find?_eq_some hfind)
    · exact ⟨List.nodup_nil, fun i hi => by cases hi⟩
  all_goals exact ⟨List.nodup_nil, fun i hi => by cases hi⟩

theorem finalFit_ok
    {reason : TerminalReason} {d : OfferDecision} (h : m.finalFit expired displaced reason message.charged = .ok d)
    (hnodup : displaced.Nodup) (hlive : ∀ i ∈ displaced, i ∈ live) : Decided m message expired live d := by
  simp only [finalFit, bind_ok, pure_ok] at h
  obtain ⟨fit, hfit, rfl⟩ := h
  by_cases hfull : fit.isFullFit = true
  · rw [if_pos hfull]
    exact ⟨hnodup, hlive, fun _ => ⟨fit, hfit, hfull⟩⟩
  · rw [if_neg hfull]
    exact ⟨List.nodup_nil, fun i hi => absurd hi List.not_mem_nil, fun haccept => by cases haccept⟩

theorem placeOffer_ok (hnodup : live.Nodup)
    {d : OfferDecision} (h : m.placeOffer message expired live = .ok d) : Decided m message expired live d := by
  obtain ⟨hfirst, hsub⟩ := firstDisplaced_ok m message hnodup
  simp only [placeOffer, bind_ok] at h
  obtain ⟨fit, hfit, h⟩ := h
  by_cases hfull : fit.isFullFit = true
  · rw [if_pos hfull] at h
    cases h
    exact ⟨hfirst, hsub, fun _ => ⟨fit, hfit, hfull⟩⟩
  · rw [if_neg hfull] at h
    unfold relieve at h
    split at h
    · cases h
      exact ⟨hfirst, hsub, fun haccept => by cases haccept⟩
    · cases h
      exact ⟨hfirst, hsub, fun haccept => by cases haccept⟩
    · obtain ⟨displaced, hdrop, h⟩ := bind_ok.1 h
      obtain ⟨hd, hmem⟩ := dropOldest_ok hdrop hfirst
      exact finalFit_ok h hd fun i hi => (hmem i hi).elim (hsub i) id
    · exact finalFit_ok h hfirst hsub
    · exact finalFit_ok h hfirst hsub

def Fresh (m : Mailbox) (live : List Nat) (id : Ref16) : Prop :=
  (∀ a ∈ m.inflight, a.messageId ≠ id) ∧ ∀ i ∈ live, ∀ item, m.queue[i]? = some item → item.message.id ≠ id

theorem decideOffer_ok {late : Bool}
    (hnodup : live.Nodup) {d : OfferDecision} (h : m.decideOffer message late expired live = .ok d) :
    Decided m message expired live d ∧ (d.planned = .accept → Fresh m live message.id) := by
  unfold decideOffer at h
  dsimp only at h
  split at h
  · rename_i hfirst
    refine ⟨placeOffer_ok hnodup h, fun _ => ?_⟩
    unfold firstDecision at hfirst
    split at hfirst
    · cases hfirst
    split at hfirst
    · cases hfirst
    split at hfirst
    · cases hfirst
    split at hfirst
    · cases hfirst
    rename_i hduplicate
    simp only [Bool.or_eq_true, List.any_eq_true, decide_eq_true_eq, not_or, not_exists, not_and,
      Option.any_eq_true_iff_get] at hduplicate
    refine ⟨fun a ha => hduplicate.1 a ha, fun i hi item hitem heq => ?_⟩
    have hany := hduplicate.2 i hi
    rw [hitem] at hany
    simp [heq] at hany
  · rename_i hne
    cases h
    exact ⟨⟨List.nodup_nil, fun i hi => absurd hi List.not_mem_nil, fun haccept => absurd haccept hne⟩,
      fun haccept => absurd haccept hne⟩

theorem liveIndices_nodup (m : Mailbox) (expired : List Nat) : (m.liveIndicesExcluding expired).Nodup :=
  List.nodup_range.filter _

theorem mem_liveIndices {i : Nat} : i ∈ m.liveIndicesExcluding expired ↔ i < m.queue.length ∧ i ∉ expired := by
  simp [liveIndicesExcluding]

/-- **Room after a removal**: a message that fits by the numbers fits among the kept messages. -/
theorem Ok.room (h : Ok m) {expired : List Nat} {incomingBytes : Nat}
    (hfits : Fits m expired displaced incomingBytes) (hnodup : (expired ++ displaced).Nodup)
    (hlt : ∀ i ∈ expired ++ displaced, i < m.queue.length) (hkept : kept = drop (expired ++ displaced) m.queue) :
    kept.length + 1 ≤ m.limits.capacityItems
      ∧ (kept.map (·.message.charged)).sum + incomingBytes ≤ m.limits.capacityBytes
      ∧ (kept.map (·.message.charged)).sum + incomingBytes + m.inflightBytes ≤ m.limits.maxRetainedBytes := by
  obtain ⟨fit, hfit, hfull⟩ := hfits
  simp only [fitAfterRemoving, bind_ok, subU64_ok, toU32_ok, addU64_ok, pure_ok] at hfit
  obtain ⟨removedBytes, hremoved, _, ⟨hitems, rfl⟩, _, ⟨_, rfl⟩, _, ⟨hle, rfl⟩, _, ⟨_, rfl⟩, _, ⟨_, rfl⟩, rfl⟩ := hfit
  have hbytes := h.keptBytes _ hremoved hle rfl
  rw [drop_sortDedup, ← hkept] at hbytes
  have hlen := length_drop (expired ++ displaced) m.queue
  rw [length_pick hnodup hlt, ← hkept] at hlen
  rw [length_sortDedup hnodup] at hfull
  simp only [CapacityFit.isFullFit, Bool.and_eq_true, decide_eq_true_eq] at hfull
  obtain ⟨⟨hroom, hqueued⟩, hretained⟩ := hfull
  rw [hbytes]
  refine ⟨?_, hqueued, hretained⟩
  omega

structure OfferPlanned (m : Mailbox) (message : ValidatedMessage) (plan : OfferCommit) (expired displaced : List Nat) :
    Prop where
  removal : Removal m (drop (expired ++ displaced) m.queue) expired displaced plan.records
  removed : plan.removed = sortDedup (expired ++ displaced)
  terminals : plan.terminals.values.sum = m.terminals.values.sum + plan.records.length
  offers : m.offers.checkedTerminal plan.planned.offerCategory = .ok plan.offers
  kept : plan.planned ≠ .accept →
    ((drop (expired ++ displaced) m.queue).map (·.message.charged)).sum = plan.queuedBytes
  charged : plan.planned = .accept →
    ((drop (expired ++ displaced) m.queue).map (·.message.charged)).sum + message.charged = plan.queuedBytes
  accepted : plan.planned = .accept → m.OwnItem ⟨message, plan.queueAgeDeadline⟩
    ∧ (∀ item ∈ drop (expired ++ displaced) m.queue, item.message.id ≠ message.id)
    ∧ (∀ a ∈ m.inflight, a.messageId ≠ message.id)
    ∧ (drop (expired ++ displaced) m.queue).length + 1 ≤ m.limits.capacityItems
    ∧ plan.queuedBytes ≤ m.limits.capacityBytes
    ∧ plan.queuedBytes + m.inflightBytes ≤ m.limits.maxRetainedBytes

theorem Ok.planOffer (h : Ok m) {message : ValidatedMessage} {reading : ClockReading} {plan : OfferCommit}
    (hplan : m.planOffer message reading = .ok plan) : ∃ expired displaced, OfferPlanned m message plan expired displaced := by
  simp only [Mailbox.planOffer, ensureReading, bind_ok, rejectIf_ok, exists_unit, wrapErr_ok, pure_ok, ne_eq, not_not,
    MonotonicDeadline.isExpiredAt_ok, ClockReading.tryDeadlineAfter, subU64_ok] at hplan
  obtain ⟨⟨hdomain, hgeneration⟩, _, ⟨hfd, hfg, _⟩, _, ⟨hrd, hrg, _⟩, _, ⟨_, rfl⟩, _, _, items, hitems, mid, hmid, decision,
    hdecision, terminals, hterminals, offers, hoffers, removedBytes, hremoved, kept, ⟨hle, rfl⟩, queuedBytes, hqueued,
    rfl⟩ := hplan
  obtain ⟨hnodup, hlt, hreleases⟩ := expiredItems_ok hitems
  obtain ⟨hdecided, hfresh⟩ := decideOffer_ok (liveIndices_nodup m _) hdecision
  have hlive : ∀ i ∈ decision.displaced, i < m.queue.length ∧ i ∉ indicesForExpiredItems items :=
    fun i hi => mem_liveIndices.1 (hdecided.live i hi)
  have hdisjoint : ∀ i ∈ indicesForExpiredItems items, i ∉ decision.displaced := fun i hi hi' => (hlive i hi').2 hi
  have hall : (indicesForExpiredItems items ++ decision.displaced).Nodup :=
    List.nodup_append'.2 ⟨hnodup, hdecided.nodup, fun i hi hi' => hdisjoint i hi hi'⟩
  have hrange : ∀ i ∈ indicesForExpiredItems items ++ decision.displaced, i < m.queue.length := by
    intro i hi
    rcases List.mem_append.1 hi with hi | hi
    · exact hlt i hi
    · exact (hlive i hi).1
  have hbytes := h.keptBytes _ hremoved hle rfl
  rw [drop_sortDedup] at hbytes
  refine ⟨indicesForExpiredItems items, decision.displaced, ?_⟩
  refine {
    removal := ⟨rfl, hdisjoint, List.rel_append hreleases (releases_indices _ _)⟩
    removed := rfl
    terminals := ?_
    offers := hoffers
    kept := fun hne => ?_
    charged := fun haccept => ?_
    accepted := fun haccept => ?_ }
  · have hfirst := TerminalCounters.checkedIncrementRecords_sum hmid
    have hsecond := TerminalCounters.checkedIncrementRecords_sum hterminals
    dsimp only
    rw [List.length_append]
    omega
  · have hsame : m.queuedBytes - removedBytes = queuedBytes := by
      unfold chargeIfAccepted at hqueued
      rw [if_neg hne] at hqueued
      exact Except.ok.inj hqueued
    rw [hbytes, hsame]
  · unfold chargeIfAccepted at hqueued
    rw [if_pos haccept, addU64_ok] at hqueued
    rw [hbytes]
    exact hqueued.2
  · unfold chargeIfAccepted at hqueued
    rw [if_pos haccept, addU64_ok, ← hbytes] at hqueued
    obtain ⟨hroom, hcap, hret⟩ := h.room (hdecided.fits haccept) hall hrange rfl
    obtain ⟨hinflight, hqueue⟩ := hfresh haccept
    rw [hqueued.2] at hcap hret
    refine ⟨⟨⟨hdomain, hgeneration⟩, ⟨hfd.symm.trans hdomain, hfg.symm.trans hgeneration⟩,
      ⟨hrd.symm.trans hdomain, hrg.symm.trans hgeneration⟩⟩, fun item hitem => ?_, hinflight, hroom, hcap, hret⟩
    obtain ⟨i, hi, hget⟩ := mem_drop hitem
    have hnot : i ∉ indicesForExpiredItems items := fun hmem => hi (List.mem_append_left _ hmem)
    have hin : i < m.queue.length := (List.getElem?_eq_some_iff.1 hget).1
    exact hqueue i (mem_liveIndices.2 ⟨hin, hnot⟩) item hget

end Mailbox
end ParaEgox
