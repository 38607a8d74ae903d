import ParaEgox.MailboxExpiry

/-!
# MailboxOverflow — what an offer displaces

A policy allows some ways to split the live queue into displaced and kept messages.  An offer that passes its checks is
admitted exactly if one of them leaves room, and then takes the one that displaces the fewest; otherwise it displaces
nothing.  An offer on the mailbox's clock whose sums stay within their machine widths never fails.
-/
namespace ParaEgox
namespace Mailbox

open Check Indexed

/-! ## The abstract decision -/

def Room (m : Mailbox) (message : ValidatedMessage) (kept : List QueuedMessage) : Prop :=
  kept.length + 1 ≤ m.limits.capacityItems
    ∧ (kept.map (·.message.charged)).sum + message.charged ≤ m.limits.capacityBytes
    ∧ (kept.map (·.message.charged)).sum + message.charged + m.inflightBytes ≤ m.limits.maxRetainedBytes

def sameKey (message : ValidatedMessage) (item : QueuedMessage) : Bool :=
  decide (item.message.coalesceKey = message.coalesceKey)

/-- **The displacements a policy allows**: how it may split the live queue for a message. -/
def Displaces (policy : OverflowPolicy) (message : ValidatedMessage) (live displaced kept : List QueuedMessage) : Prop :=
  match policy with
  | .rejectNew | .blockUntilDeadline => displaced = [] ∧ kept = live
  | .latest => displaced = live ∧ kept = []
  | .coalesceByKey => displaced = live.filter (sameKey message) ∧ kept = live.filter fun item => !sameKey message item
  | .dropOldest => displaced ++ kept = live

def displacedReason : OverflowPolicy → TerminalReason
  | .coalesceByKey => .coalesced
  | .latest | .rejectNew | .dropOldest | .blockUntilDeadline => .evicted

def Timely (m : Mailbox) (message : ValidatedMessage) (reading : ClockReading) : Prop :=
  reading.now < message.freshUntil.deadline ∧ reading.now < message.runDeadline.deadline ∧ 0 < m.limits.maxQueueAge

structure Passes (m : Mailbox) (message : ValidatedMessage) (reading : ClockReading) : Prop where
  schema : message.schema = m.schema
  messageClass : message.messageClass = m.messageClass
  queued : ∀ item ∈ m.live reading, item.message.id ≠ message.id
  flying : ∀ a ∈ m.inflight, a.messageId ≠ message.id
  charged : message.charged ≤ m.limits.capacityBytes ∧ message.charged ≤ m.limits.maxRetainedBytes
  key : m.limits.overflow = .coalesceByKey → message.coalesceKey ≠ none

def KeysDistinct (m : Mailbox) : Prop :=
  m.limits.overflow = .coalesceByKey → (m.queue.map (·.message.coalesceKey)).Nodup

/-! ## Cuts of the live queue -/

section
variable {m : Mailbox} {reading : ClockReading} {items : List (Nat × TerminalReason)}

/-- Displaced indices among the live ones, the messages they displace and the messages that stay. -/
structure Cut (m : Mailbox) (items : List (Nat × TerminalReason)) (indices : List Nat)
    (displaced kept : List QueuedMessage) : Prop where
  displaced : Points m.queue indices displaced
  live : ∀ i ∈ indices, i ∈ m.liveIndicesExcluding (indicesForExpiredItems items)
  kept : drop (indicesForExpiredItems items ++ indices) m.queue = kept

theorem ExpiredAt.cut_take (h : ExpiredAt m reading items) (n : Nat) :
    Cut m items ((m.liveIndicesExcluding (indicesForExpiredItems items)).take n) ((m.live reading).take n)
      ((m.live reading).drop n) := by
  refine ⟨h.live.take n, fun i hi => List.mem_of_mem_take hi, (h.live.skip n).drop fun i hi => ?_⟩
  have hmem : i ∈ m.liveIndicesExcluding (indicesForExpiredItems items) ↔ i ∉ indicesForExpiredItems items := by
    rw [mem_liveIndices]
    exact ⟨fun hi => hi.2, fun hnot => ⟨hi, hnot⟩⟩
  have hnodup := liveIndices_nodup m (indicesForExpiredItems items)
  rw [← List.take_append_drop n (m.liveIndicesExcluding (indicesForExpiredItems items))] at hmem hnodup
  have hdisjoint := (List.nodup_append'.1 hnodup).2.2
  rw [List.mem_append, not_or, ← hmem, List.mem_append]
  constructor
  · exact fun hi => ⟨.inr hi, fun hi' => hdisjoint hi' hi⟩
  · exact fun hi => hi.1.resolve_left hi.2

theorem ExpiredAt.cut_filter (h : ExpiredAt m reading items) {p : Nat → Bool} {f : QueuedMessage → Bool}
    (hpf : ∀ i item, m.queue[i]? = some item → p i = f item) :
    Cut m items ((m.liveIndicesExcluding (indicesForExpiredItems items)).filter p) ((m.live reading).filter f)
      ((m.live reading).filter fun item => !f item) := by
  refine ⟨h.live.filter hpf, fun i hi => List.mem_of_mem_filter hi, ?_⟩
  have hrest := h.live.filter (p := fun i => !p i) (f := fun item => !f item) fun i item hi => by rw [hpf i item hi]
  refine hrest.drop fun i hi => ?_
  rw [List.mem_append, List.mem_filter, List.mem_filter, mem_liveIndices, not_or]
  constructor
  · exact fun hi => ⟨hi.1.2, fun hi' => by simp [hi'.2] at hi⟩
  · refine fun hnot => ⟨⟨hi, hnot.1⟩, ?_⟩
    have hp : ¬ p i = true := fun hp => hnot.2 ⟨⟨hi, hnot.1⟩, hp⟩
    simp [hp]

variable {indices : List Nat} {displaced kept : List QueuedMessage}

theorem Cut.disjoint (c : Cut m items indices displaced kept) :
    ∀ i ∈ indicesForExpiredItems items, i ∉ indices :=
  fun i hi hi' => (mem_liveIndices.1 (c.live i hi')).2 hi

theorem Cut.nodup (he : ExpiredAt m reading items)
    (c : Cut m items indices displaced kept) : (indicesForExpiredItems items ++ indices).Nodup :=
  List.nodup_append'.2 ⟨he.expired.ascending.imp Nat.ne_of_lt, c.displaced.ascending.imp Nat.ne_of_lt,
    fun i hi hi' => c.disjoint i hi hi'⟩

theorem Cut.lt (he : ExpiredAt m reading items)
    (c : Cut m items indices displaced kept) : ∀ i ∈ indicesForExpiredItems items ++ indices, i < m.queue.length := by
  intro i hi
  rcases List.mem_append.1 hi with hi | hi
  · exact he.expired.lt i hi
  · exact (mem_liveIndices.1 (c.live i hi)).1

theorem Cut.fit (h : Ok m) (he : ExpiredAt m reading items)
    (c : Cut m items indices displaced kept) {message : ValidatedMessage} {fit : CapacityFit}
    (hfit : m.fitAfterRemoving (indicesForExpiredItems items) indices message.charged = .ok fit) :
    fit.isFullFit = true ↔ m.Room message kept := by
  have hnodup := c.nodup he
  have hlt := c.lt he
  simp only [fitAfterRemoving, bind_ok, subU64_ok, toU32_ok, addU64_ok, pure_ok] at hfit
  obtain ⟨removedBytes, hremoved, _, ⟨hitems, rfl⟩, _, ⟨_, rfl⟩, _, ⟨hle, rfl⟩, _, ⟨_, rfl⟩, _, ⟨_, rfl⟩, rfl⟩ := hfit
  have hbytes := h.keptBytes _ hremoved hle rfl
  rw [drop_sortDedup, c.kept] at hbytes
  have hlen := length_drop (indicesForExpiredItems items ++ indices) m.queue
  rw [length_pick hnodup hlt, c.kept] at hlen
  rw [length_sortDedup hnodup]
  simp only [CapacityFit.isFullFit, Bool.and_eq_true, decide_eq_true_eq, Room, hbytes, and_assoc]
  rw [show m.queue.length - (indicesForExpiredItems items ++ indices).length = kept.length by omega]

end

/-! ## The decision -/

section
variable {m : Mailbox} {reading : ClockReading} {items : List (Nat × TerminalReason)} {message : ValidatedMessage}
  {indices : List Nat} {displaced kept : List QueuedMessage}

def Tight (m : Mailbox) (expired displaced : List Nat) (incomingBytes : Nat) : Prop :=
  ∃ fit, m.fitAfterRemoving expired displaced incomingBytes = .ok fit ∧ ¬ fit.isFullFit = true

theorem Cut.room (h : Ok m) (he : ExpiredAt m reading items)
    (c : Cut m items indices displaced kept) (hfits : Fits m (indicesForExpiredItems items) indices message.charged) :
    m.Room message kept := by
  obtain ⟨fit, hfit, hfull⟩ := hfits
  exact (c.fit h he hfit).1 hfull

theorem Cut.full (h : Ok m) (he : ExpiredAt m reading items)
    (c : Cut m items indices displaced kept) (htight : Tight m (indicesForExpiredItems items) indices message.charged) :
    ¬ m.Room message kept := by
  obtain ⟨fit, hfit, hfull⟩ := htight
  exact fun hroom => hfull ((c.fit h he hfit).2 hroom)

variable {expired : List Nat} {incomingBytes : Nat} {d : OfferDecision}

theorem dropOldest_exact : ∀ {rest done d : List Nat},
    m.dropOldest expired incomingBytes done rest = .ok d → (done ++ rest).Pairwise (· < ·) →
      ∃ n, n ≤ rest.length ∧ d = done ++ rest.take n ∧ (∀ k, 0 < k → k < n → Tight m expired (done ++ rest.take k) incomingBytes)
        ∧ (0 < n ∧ Fits m expired d incomingBytes
          ∨ n = rest.length ∧ (0 < n → Tight m expired d incomingBytes))
  | [], done, d, h, _ => by
    cases h
    exact ⟨0, Nat.le_refl _, by simp, fun k hk hlt => by omega, .inr ⟨rfl, fun hlt => absurd hlt (Nat.lt_irrefl _)⟩⟩
  | i :: rest, done, d, h, hpair => by
    have hlt := (List.pairwise_append.1 hpair).2.2
    have hi : i ∉ done := fun hmem => Nat.lt_irrefl _ (hlt i hmem i List.mem_cons_self)
    rw [List.append_cons] at hpair
    have hsorted : (done ++ [i]).Pairwise (· ≤ ·) := (List.pairwise_append.1 hpair).1.imp Nat.le_of_lt
    unfold dropOldest at h
    rw [if_neg hi, hsorted.insertionSort_eq] at h
    obtain ⟨fit, hfit, h⟩ := bind_ok.1 h
    by_cases hfull : fit.isFullFit = true
    · rw [if_pos hfull] at h
      cases h
      exact ⟨1, by simp, by simp, fun k hk hlt => by omega, .inl ⟨Nat.one_pos, fit, hfit, hfull⟩⟩
    · rw [if_neg hfull] at h
      have hone : Tight m expired (done ++ [i]) incomingBytes := ⟨fit, hfit, hfull⟩
      have htake : ∀ k, done ++ (i :: rest).take (k + 1) = done ++ [i] ++ rest.take k := fun k => by simp
      obtain ⟨n, hn, rfl, htight, hend⟩ := dropOldest_exact h hpair
      refine ⟨n + 1, Nat.succ_le_succ hn, (htake n).symm, fun k hk hlt => ?_, ?_⟩
      · cases k with
        | zero => cases hk
        | succ k =>
          rw [htake]
          rcases Nat.eq_zero_or_pos k with rfl | hpos
          · rw [List.take_zero, List.append_nil]
            exact hone
          · exact htight k hpos (Nat.lt_of_succ_lt_succ hlt)
      · rcases hend with ⟨_, hfits⟩ | ⟨rfl, hend⟩
        · exact .inl ⟨Nat.succ_pos _, hfits⟩
        · refine .inr ⟨rfl, fun _ => ?_⟩
          cases rest with
          | nil =>
            rw [List.take_nil, List.append_nil]
            exact hone
          | cons j rest => exact hend (Nat.succ_pos _)

def PlannedOffer.Refuses (planned : PlannedOffer) : Prop :=
  planned = .wouldBlock ∨ planned = .rejected .capacityFull ∨ planned = .rejected .retainedCapacityFull

theorem CapacityFit.refuses (fit : CapacityFit) : (PlannedOffer.rejected fit.rejectionReason).Refuses := by
  unfold CapacityFit.rejectionReason
  split
  · exact .inr (.inl rfl)
  · exact .inr (.inr rfl)

inductive Judged (m : Mailbox) (message : ValidatedMessage) (reading : ClockReading)
    (items : List (Nat × TerminalReason)) (d : OfferDecision) : Prop
  | accepted (displaced kept : List QueuedMessage) (planned : d.planned = .accept)
      (cut : Cut m items d.displaced displaced kept)
      (allowed : Displaces m.limits.overflow message (m.live reading) displaced kept) (room : m.Room message kept)
      (fewest : ∀ displaced' kept', Displaces m.limits.overflow message (m.live reading) displaced' kept' →
        m.Room message kept' → displaced.length ≤ displaced'.length)
      (reason : displaced = [] ∨ d.reason = displacedReason m.limits.overflow)
  | refused (planned : d.planned.Refuses) (displaced : d.displaced = [])
      (full : ∀ displaced kept, Displaces m.limits.overflow message (m.live reading) displaced kept → ¬ m.Room message kept)

theorem coalesced_indices (message : ValidatedMessage) (hkeys : m.KeysDistinct)
    (hpolicy : m.limits.overflow = .coalesceByKey) {live : List Nat} (hlive : live.Nodup) {p : Nat → Bool}
    (hp : ∀ i, p i = m.queue[i]?.any (sameKey message)) :
    live.filter p = (live.reverse.find? p).toList := by
  refine filter_eq_find?_reverse hlive fun i j hi hj => ?_
  rw [hp, Option.any_eq_true] at hi hj
  obtain ⟨x, hx, hxkey⟩ := hi
  obtain ⟨y, hy, hykey⟩ := hj
  have hlt : i < (m.queue.map (·.message.coalesceKey)).length := by
    rw [List.length_map]
    exact (List.getElem?_eq_some_iff.1 hx).1
  refine (List.getElem?_inj hlt (hkeys hpolicy)).1 ?_
  rw [List.getElem?_map, List.getElem?_map, hx, hy, Option.map_some, Option.map_some, of_decide_eq_true hxkey,
    of_decide_eq_true hykey]

theorem firstDisplaced_coalesce (hpolicy : m.limits.overflow = .coalesceByKey) (live : List Nat) :
    m.firstDisplaced message live
      = match live.reverse.find? fun i => m.queue[i]?.any (sameKey message) with
        | some i => ([i], .coalesced)
        | none => ([], .evicted) := by
  unfold firstDisplaced
  rw [hpolicy]
  rfl

theorem firstDisplaced_latest (hpolicy : m.limits.overflow = .latest) (live : List Nat) :
    m.firstDisplaced message live = (live, .evicted) := by
  unfold firstDisplaced
  rw [hpolicy]

theorem firstDisplaced_still (hlatest : m.limits.overflow ≠ .latest) (hcoalesce : m.limits.overflow ≠ .coalesceByKey)
    (live : List Nat) : m.firstDisplaced message live = ([], .evicted) := by
  unfold firstDisplaced
  cases hoverflow : m.limits.overflow with
  | latest => exact absurd hoverflow hlatest
  | coalesceByKey => exact absurd hoverflow hcoalesce
  | rejectNew => rfl
  | dropOldest => rfl
  | blockUntilDeadline => rfl

theorem firstDisplaced_exact (message : ValidatedMessage) (hkeys : m.KeysDistinct) (he : ExpiredAt m reading items)
    (hpolicy : m.limits.overflow ≠ .dropOldest) :
    ∃ displaced kept,
      Cut m items (m.firstDisplaced message (m.liveIndicesExcluding (indicesForExpiredItems items))).1 displaced kept
        ∧ (∀ displaced' kept', Displaces m.limits.overflow message (m.live reading) displaced' kept' ↔
            displaced' = displaced ∧ kept' = kept)
        ∧ (displaced = [] ∨ (m.firstDisplaced message (m.liveIndicesExcluding (indicesForExpiredItems items))).2
            = displacedReason m.limits.overflow) := by
  have hnone := he.cut_take 0
  rw [List.take_zero, List.take_zero, List.drop_zero] at hnone
  cases hoverflow : m.limits.overflow with
  | dropOldest => exact absurd hoverflow hpolicy
  | rejectNew =>
    rw [firstDisplaced_still (by simp [hoverflow]) (by simp [hoverflow])]
    exact ⟨_, _, hnone, fun _ _ => Iff.rfl, .inl rfl⟩
  | blockUntilDeadline =>
    rw [firstDisplaced_still (by simp [hoverflow]) (by simp [hoverflow])]
    exact ⟨_, _, hnone, fun _ _ => Iff.rfl, .inl rfl⟩
  | latest =>
    have hall := he.cut_take m.queue.length
    have hlive : (m.live reading).length ≤ m.queue.length := List.length_filter_le _ _
    have hindices : (m.liveIndicesExcluding (indicesForExpiredItems items)).length ≤ m.queue.length := by
      rw [he.live.elements.length_eq]
      exact hlive
    rw [List.take_of_length_le hindices, List.take_of_length_le hlive, List.drop_eq_nil_of_le hlive] at hall
    rw [firstDisplaced_latest hoverflow]
    exact ⟨_, _, hall, fun _ _ => Iff.rfl, .inr rfl⟩
  | coalesceByKey =>
    have hfilter := coalesced_indices message hkeys hoverflow (liveIndices_nodup m (indicesForExpiredItems items))
      fun i => rfl
    have hcut := he.cut_filter (p := fun i => m.queue[i]?.any (sameKey message)) (f := sameKey message)
      fun i item hi => by rw [hi, Option.any_some]
    rw [hfilter] at hcut
    rw [firstDisplaced_coalesce hoverflow]
    refine ⟨_, _, ?_, fun _ _ => Iff.rfl, ?_⟩
    · cases hfind : (m.liveIndicesExcluding (indicesForExpiredItems items)).reverse.find?
          fun i => m.queue[i]?.any (sameKey message) <;> rw [hfind] at hcut <;> exact hcut
    · cases hfind : (m.liveIndicesExcluding (indicesForExpiredItems items)).reverse.find?
          fun i => m.queue[i]?.any (sameKey message) with
      | none =>
        rw [hfind] at hcut
        have hnil := hcut.displaced.elements.length_eq
        exact .inl (List.length_eq_zero_iff.1 hnil.symm)
      | some i => exact .inr rfl

theorem finalFit_exact {displaced : List Nat} {reason : TerminalReason}
    (h : m.finalFit expired displaced reason incomingBytes = .ok d) :
    Fits m expired displaced incomingBytes ∧ d = ⟨.accept, displaced, reason⟩
      ∨ Tight m expired displaced incomingBytes ∧ d.planned.Refuses ∧ d.displaced = [] := by
  simp only [finalFit, bind_ok, pure_ok] at h
  obtain ⟨fit, hfit, rfl⟩ := h
  by_cases hfull : fit.isFullFit = true
  · rw [if_pos hfull]
    exact .inl ⟨⟨fit, hfit, hfull⟩, rfl⟩
  · rw [if_neg hfull]
    exact .inr ⟨⟨fit, hfit, hfull⟩, fit.refuses, rfl⟩

theorem Tight.not_fits {displaced : List Nat} (h : Tight m expired displaced incomingBytes) :
    ¬ Fits m expired displaced incomingBytes := by
  obtain ⟨fit, hfit, hfull⟩ := h
  rintro ⟨fit', hfit', hfull'⟩
  cases hfit.symm.trans hfit'
  exact hfull hfull'

theorem relieve_refuses (hpolicy : m.limits.overflow ≠ .dropOldest) {live : List Nat} {fit : CapacityFit}
    (htight : Tight m expired (m.firstDisplaced message live).1 incomingBytes)
    (h : m.relieve expired live (m.firstDisplaced message live).1 (m.firstDisplaced message live).2 fit incomingBytes
      = .ok d) : d.planned.Refuses ∧ d.displaced = [] := by
  unfold relieve at h
  cases hoverflow : m.limits.overflow with
  | dropOldest => exact absurd hoverflow hpolicy
  | rejectNew =>
    rw [hoverflow, firstDisplaced_still (by simp [hoverflow]) (by simp [hoverflow])] at h
    cases h
    exact ⟨fit.refuses, rfl⟩
  | blockUntilDeadline =>
    rw [hoverflow, firstDisplaced_still (by simp [hoverflow]) (by simp [hoverflow])] at h
    cases h
    exact ⟨.inl rfl, rfl⟩
  | latest =>
    rw [hoverflow] at h
    exact ((finalFit_exact h).resolve_left fun hfits => htight.not_fits hfits.1).2
  | coalesceByKey =>
    rw [hoverflow] at h
    exact ((finalFit_exact h).resolve_left fun hfits => htight.not_fits hfits.1).2

theorem Judged.oldest (h : Ok m) (he : ExpiredAt m reading items) (hpolicy : m.limits.overflow = .dropOldest)
    (htight : Tight m (indicesForExpiredItems items) [] message.charged)
    (hd : (m.dropOldest (indicesForExpiredItems items) message.charged []
      (m.liveIndicesExcluding (indicesForExpiredItems items)) >>= fun displaced =>
        m.finalFit (indicesForExpiredItems items) displaced .evicted message.charged) = .ok d) :
    Judged m message reading items d := by
  obtain ⟨displaced, hdrop, hd⟩ := bind_ok.1 hd
  obtain ⟨n, hn, rfl, hshorter, hend⟩ := dropOldest_exact hdrop he.live.ascending
  simp only [List.nil_append] at hshorter hend hd
  have hlen := he.live.elements.length_eq
  have hnone : ∀ k, k < n → ¬ m.Room message ((m.live reading).drop k) := by
    intro k hk
    refine (he.cut_take k).full h he ?_
    rcases Nat.eq_zero_or_pos k with rfl | hpos
    · exact htight
    · exact hshorter k hpos hk
  have hsplit : ∀ displaced' kept', Displaces m.limits.overflow message (m.live reading) displaced' kept' →
      kept' = (m.live reading).drop displaced'.length ∧ displaced'.length ≤ (m.live reading).length := by
    intro displaced' kept' hallowed
    rw [hpolicy] at hallowed
    rw [← show displaced' ++ kept' = m.live reading from hallowed]
    simp
  rcases finalFit_exact hd with ⟨hfits, rfl⟩ | ⟨hfinal, hrefuses, hnil⟩
  · refine .accepted _ _ rfl (he.cut_take n) ?_ ((he.cut_take n).room h he hfits) ?_ (.inr ?_)
    · rw [hpolicy]
      exact List.take_append_drop n _
    · intro displaced' kept' hallowed hroom
      rw [(hsplit displaced' kept' hallowed).1] at hroom
      rw [List.length_take]
      exact Nat.le_trans (Nat.min_le_left _ _) (Nat.le_of_not_lt fun hlt => hnone _ hlt hroom)
    · rw [hpolicy]
      rfl
  · refine .refused hrefuses hnil fun displaced' kept' hallowed hroom => ?_
    obtain ⟨hkept, hle⟩ := hsplit displaced' kept' hallowed
    obtain ⟨rfl, _⟩ := hend.resolve_left fun hfits => hfinal.not_fits hfits.2
    rw [hkept] at hroom
    rcases Nat.lt_or_ge displaced'.length (m.liveIndicesExcluding (indicesForExpiredItems items)).length with hlt | hge
    · exact hnone _ hlt hroom
    · have heq : displaced'.length = (m.liveIndicesExcluding (indicesForExpiredItems items)).length := by omega
      rw [heq] at hroom
      exact (he.cut_take _).full h he hfinal hroom

/-- **The decision on a message that passed its checks takes the smallest allowed displacement that leaves room.** -/
theorem placeOffer_exact (h : Ok m) (hkeys : m.KeysDistinct) (he : ExpiredAt m reading items)
    (hd : m.placeOffer message (indicesForExpiredItems items) (m.liveIndicesExcluding (indicesForExpiredItems items))
      = .ok d) : Judged m message reading items d := by
  simp only [placeOffer, bind_ok] at hd
  obtain ⟨fit, hfit, hd⟩ := hd
  by_cases hpolicy : m.limits.overflow = .dropOldest
  · have hnone := he.cut_take 0
    rw [List.take_zero, List.take_zero, List.drop_zero] at hnone
    rw [firstDisplaced_still (by simp [hpolicy]) (by simp [hpolicy])] at hfit hd
    by_cases hfull : fit.isFullFit = true
    · rw [if_pos hfull] at hd
      cases hd
      refine .accepted [] (m.live reading) rfl hnone ?_ (hnone.room h he ⟨fit, hfit, hfull⟩) ?_ (.inl rfl)
      · rw [hpolicy]
        exact List.nil_append _
      · exact fun _ _ _ _ => Nat.zero_le _
    · rw [if_neg hfull, relieve, hpolicy] at hd
      exact .oldest h he hpolicy ⟨fit, hfit, hfull⟩ hd
  · obtain ⟨displaced, kept, hcut, hallowed, hreason⟩ := firstDisplaced_exact message hkeys he hpolicy
    by_cases hfull : fit.isFullFit = true
    · rw [if_pos hfull] at hd
      cases hd
      refine .accepted displaced kept rfl hcut ((hallowed _ _).2 ⟨rfl, rfl⟩) (hcut.room h he ⟨fit, hfit, hfull⟩) ?_ hreason
      intro displaced' kept' hother _
      rw [((hallowed _ _).1 hother).1]
    · rw [if_neg hfull] at hd
      obtain ⟨hrefuses, hnil⟩ := relieve_refuses hpolicy ⟨fit, hfit, hfull⟩ hd
      refine .refused hrefuses hnil fun displaced' kept' hother => ?_
      obtain ⟨rfl, rfl⟩ := (hallowed _ _).1 hother
      exact hcut.full h he ⟨fit, hfit, hfull⟩

end

/-! ## Checks before capacity -/

section
variable {m : Mailbox} {reading : ClockReading} {items : List (Nat × TerminalReason)} {message : ValidatedMessage}

theorem firstDecision_accept (late duplicate : Bool) : m.firstDecision message late duplicate = .accept ↔
    late = false ∧ message.schema = m.schema ∧ message.messageClass = m.messageClass ∧ duplicate = false
      ∧ (message.charged ≤ m.limits.capacityBytes ∧ message.charged ≤ m.limits.maxRetainedBytes)
      ∧ (m.limits.overflow = .coalesceByKey → message.coalesceKey ≠ none) := by
  unfold firstDecision
  cases late with
  | true => simp
  | false =>
    by_cases hschema : message.schema = m.schema
    · by_cases hclass : message.messageClass = m.messageClass
      · cases duplicate with
        | true => simp [hschema, hclass]
        | false =>
          by_cases hsize : m.limits.capacityBytes < message.charged ∨ m.limits.maxRetainedBytes < message.charged
          · have hbig : ¬ (message.charged ≤ m.limits.capacityBytes ∧ message.charged ≤ m.limits.maxRetainedBytes) := by
              omega
            simp [hschema, hclass, hsize, hbig]
          · have hfit : message.charged ≤ m.limits.capacityBytes ∧ message.charged ≤ m.limits.maxRetainedBytes := by
              omega
            by_cases hkey : m.limits.overflow = .coalesceByKey ∧ message.coalesceKey = none
            · simp [hschema, hclass, hsize, hkey]
            · simp only [hschema, hclass, hsize, hkey, hfit]
              simp only [not_and] at hkey
              simpa using hkey
      · simp [hschema, hclass]
    · simp [hschema]

theorem duplicate_iff (he : ExpiredAt m reading items) :
    (m.inflight.any (·.messageId = message.id)
      || (m.liveIndicesExcluding (indicesForExpiredItems items)).any
        fun i => m.queue[i]?.any fun item => item.message.id = message.id) = false
      ↔ (∀ a ∈ m.inflight, a.messageId ≠ message.id) ∧ ∀ item ∈ m.live reading, item.message.id ≠ message.id := by
  have hany := he.live.any (p := fun i => m.queue[i]?.any fun item => item.message.id = message.id)
    (f := fun item => decide (item.message.id = message.id)) fun i item hi => by rw [hi, Option.any_some]
  rw [hany, Bool.or_eq_false_iff, List.any_eq_false, List.any_eq_false]
  simp only [decide_eq_true_eq, ne_eq]

theorem decideOffer_exact (h : Ok m) (hkeys : m.KeysDistinct) (he : ExpiredAt m reading items) {late : Bool}
    {d : OfferDecision} (hd : m.decideOffer message late (indicesForExpiredItems items)
      (m.liveIndicesExcluding (indicesForExpiredItems items)) = .ok d) :
    (late = false ∧ Passes m message reading) ∧ Judged m message reading items d
      ∨ ¬ (late = false ∧ Passes m message reading) ∧ d.displaced = [] ∧ d.planned ≠ .accept
        ∧ (late = true → d.planned = .expiredBeforeAdmission) := by
  unfold decideOffer at hd
  dsimp only at hd
  generalize hfirst : m.firstDecision message late _ = planned at hd
  by_cases haccept : planned = .accept
  · subst haccept
    obtain ⟨hlate, hschema, hclass, hduplicate, hcharged, hkey⟩ := (firstDecision_accept _ _).1 hfirst
    obtain ⟨hflying, hqueued⟩ := (duplicate_iff he).1 hduplicate
    exact .inl ⟨⟨hlate, hschema, hclass, hqueued, hflying, hcharged, hkey⟩, placeOffer_exact h hkeys he hd⟩
  · have hplain : d = ⟨planned, [], .evicted⟩ := by
      cases planned with
      | accept => exact absurd rfl haccept
      | rejected reason => exact (Except.ok.inj hd).symm
      | expiredBeforeAdmission => exact (Except.ok.inj hd).symm
      | wouldBlock => exact (Except.ok.inj hd).symm
    subst hplain
    refine .inr ⟨?_, rfl, haccept, fun hlate => ?_⟩
    · rintro ⟨hlate, hpasses⟩
      refine haccept (hfirst.symm.trans ((firstDecision_accept _ _).2 ?_))
      exact ⟨hlate, hpasses.schema, hpasses.messageClass, (duplicate_iff he).2 ⟨hpasses.flying, hpasses.queued⟩,
        hpasses.charged, hpasses.key⟩
    · rw [← hfirst, hlate]
      rfl

end

/-! ## A whole offer -/

/-- **What an offer to an accepting mailbox comes to**: its decision, its records and the queue it leaves. -/
inductive Offered (m : Mailbox) (message : ValidatedMessage) (reading : ClockReading) (planned : PlannedOffer)
    (records : List TerminalRecord) (queue : List QueuedMessage) : Prop
  | accepted (displaced kept : List QueuedMessage) (timely : m.Timely message reading)
      (passes : m.Passes message reading) (decided : planned = .accept)
      (allowed : Displaces m.limits.overflow message (m.live reading) displaced kept) (room : m.Room message kept)
      (fewest : ∀ displaced' kept', Displaces m.limits.overflow message (m.live reading) displaced' kept' →
        m.Room message kept' → displaced.length ≤ displaced'.length)
      (records : records = m.expiryRecords reading
        ++ displaced.map fun item => terminalOf item (displacedReason m.limits.overflow))
      (queue : queue = kept ++ [⟨message, ⟨reading.domain, reading.generation, reading.now + m.limits.maxQueueAge⟩⟩])
  | refused (timely : m.Timely message reading) (passes : m.Passes message reading) (decided : planned.Refuses)
      (full : ∀ displaced kept, Displaces m.limits.overflow message (m.live reading) displaced kept → ¬ m.Room message kept)
      (records : records = m.expiryRecords reading) (queue : queue = m.live reading)
  | turned (blocked : ¬ (m.Timely message reading ∧ m.Passes message reading)) (decided : planned ≠ .accept)
      (late : ¬ m.Timely message reading → planned = .expiredBeforeAdmission)
      (records : records = m.expiryRecords reading) (queue : queue = m.live reading)

theorem PlannedOffer.Refuses.ne_accept {planned : PlannedOffer} (h : planned.Refuses) : planned ≠ .accept := by
  rcases h with rfl | rfl | rfl <;> exact fun he => by cases he

theorem Ok.planOffer_exact {m : Mailbox} (h : Ok m) (hkeys : m.KeysDistinct) {message : ValidatedMessage}
    {reading : ClockReading} (hr : m.Compatible reading) {plan : OfferCommit}
    (hplan : m.planOffer message reading = .ok plan) :
    Offered m message reading plan.planned plan.records (m.commitOffer message plan).queue := by
  obtain ⟨items, hitems, he⟩ := h.expiredItems hr
  simp only [Mailbox.planOffer, bind_ok, wrapErr_ok, pure_ok, MonotonicDeadline.isExpiredAt_ok,
    ClockReading.tryDeadlineAfter, rejectIf_ok, exists_unit] at hplan
  obtain ⟨_, freshness, ⟨_, _, rfl⟩, run, ⟨_, _, rfl⟩, _, ⟨_, rfl⟩, age, ⟨_, _, rfl⟩, items', hitems', terminals,
    hterminals, d, hd, _, _, offers, hoffers, bytes, hbytes, kept, hkept, queuedBytes, hqueued, rfl⟩ := hplan
  cases hitems.symm.trans hitems'
  have htimely : (decide (message.freshUntil.deadline ≤ reading.now) || decide (message.runDeadline.deadline ≤ reading.now)
      || decide (reading.now + m.limits.maxQueueAge ≤ reading.now)) = false ↔ m.Timely message reading := by
    simp only [Bool.or_eq_false_iff, decide_eq_false_iff_not, Nat.not_le, Timely, and_assoc]
    rw [Nat.lt_add_right_iff_pos]
  have hqueue : ∀ indices, m.removeQueueIndices (sortDedup (indicesForExpiredItems items ++ indices))
      = drop (indicesForExpiredItems items ++ indices) m.queue := fun indices => by
    rw [removeQueueIndices_eq, drop_sortDedup]
  have hstill : d.displaced = [] → m.recordsForIndices d.displaced d.reason = []
      ∧ m.removeQueueIndices (sortDedup (indicesForExpiredItems items ++ d.displaced)) = m.live reading := by
    intro hnil
    rw [hqueue, hnil, List.append_nil, he.drop]
    refine ⟨?_, rfl⟩
    rw [recordsForIndices, (points_nil m.queue).pick, List.map_nil]
  rcases decideOffer_exact h hkeys he hd with ⟨⟨hlate, hpasses⟩, hjudged⟩ | ⟨hblocked, hnil, hplanned, hlate⟩
  · cases hjudged with
    | accepted displaced kept hplanned hcut hallowed hroom hfewest hreason =>
      refine .accepted displaced kept (htimely.1 hlate) hpasses hplanned hallowed hroom hfewest ?_ ?_
      · rw [he.records, recordsForIndices, hcut.displaced.pick]
        rcases hreason with rfl | hreason
        · rfl
        · rw [hreason]
      · dsimp only [Mailbox.commitOffer]
        rw [enqueued, if_pos hplanned, hqueue, hcut.kept]
    | refused hplanned hnil hfull =>
      obtain ⟨hrecords, hkept⟩ := hstill hnil
      refine .refused (htimely.1 hlate) hpasses hplanned hfull ?_ ?_
      · rw [he.records, hrecords, List.append_nil]
      · dsimp only [Mailbox.commitOffer]
        rw [enqueued, if_neg hplanned.ne_accept, hkept]
  · obtain ⟨hrecords, hkept⟩ := hstill hnil
    refine .turned (fun hboth => hblocked ⟨htimely.2 hboth.1, hboth.2⟩) hplanned (fun hnot => hlate ?_) ?_ ?_
    · exact Bool.of_not_eq_false fun hfalse => hnot (htimely.1 hfalse)
    · rw [he.records, hrecords, List.append_nil]
    · dsimp only [Mailbox.commitOffer]
      rw [enqueued, if_neg hplanned, hkept]

theorem Ok.tryOffer_exact {m : Mailbox} (h : Ok m) (hkeys : m.KeysDistinct) (hopen : m.lifecycle = .accepting)
    (message : ValidatedMessage) (reading : ClockReading) :
    (∃ e, m.tryOffer message reading = (.error ⟨e, message⟩, m))
      ∨ ∃ planned report, (m.tryOffer message reading).1 = .ok report ∧ report.outcome = offerOutcome message planned
          ∧ Offered m message reading planned report.terminals (m.tryOffer message reading).2.queue := by
  unfold Mailbox.tryOffer
  rw [(validateState_ok m ()).2 h]
  dsimp only
  rw [if_neg (not_not.2 hopen)]
  unfold Mailbox.offerOpen
  cases hplan : m.planOffer message reading with
  | error e => exact .inl ⟨e, rfl⟩
  | ok plan =>
    have hr : m.Compatible reading := by
      obtain ⟨_, hensured, _⟩ := bind_ok.1 hplan
      simp only [ensureReading, bind_ok, rejectIf_ok, exists_unit, ne_eq, not_not] at hensured
      exact hensured
    exact .inr ⟨plan.planned, _, rfl, rfl, h.planOffer_exact hkeys hr hplan⟩

/-! ## Offers that no counter stops -/

/-- The message is on the mailbox's clock and no sum of the offer leaves its machine width. -/
structure Countable (m : Mailbox) (message : ValidatedMessage) (reading : ClockReading) : Prop where
  fresh : m.ownClock message.freshUntil
  run : m.ownClock message.runDeadline
  age : reading.now + m.limits.maxQueueAge ≤ u64Max
  offers : m.offers.offered < u64Max
  items : m.queue.length < u32Max
  bytes : m.queuedBytes + message.charged + m.inflightBytes ≤ u64Max

section
variable {m : Mailbox} {reading : ClockReading} {items : List (Nat × TerminalReason)} {message : ValidatedMessage}
  {indices : List Nat} {displaced kept : List QueuedMessage}

theorem Cut.fit_total (h : Ok m) (he : ExpiredAt m reading items)
    (c : Cut m items indices displaced kept) (hcount : Countable m message reading) :
    ∃ fit, m.fitAfterRemoving (indicesForExpiredItems items) indices message.charged = .ok fit := by
  obtain ⟨removed, hremoved, hle⟩ := h.bytesForIndices_total (sortDedup (indicesForExpiredItems items ++ indices))
  have hlen := length_drop (indicesForExpiredItems items ++ indices) m.queue
  rw [length_pick (c.nodup he) (c.lt he)] at hlen
  have hsorted := length_sortDedup (c.nodup he)
  have hitems := hcount.items
  have hbytes := hcount.bytes
  simp only [fitAfterRemoving, bind_ok, subU64_ok, toU32_ok, addU64_ok, pure_ok]
  exact ⟨_, removed, hremoved, _, ⟨by omega, rfl⟩, _, ⟨by omega, rfl⟩, _, ⟨hle, rfl⟩, _, ⟨by omega, rfl⟩, _,
    ⟨by omega, rfl⟩, rfl⟩

theorem finalFit_total {expired displaced : List Nat} {incomingBytes : Nat} (reason : TerminalReason)
    (hfit : ∃ fit, m.fitAfterRemoving expired displaced incomingBytes = .ok fit) :
    ∃ d, m.finalFit expired displaced reason incomingBytes = .ok d := by
  obtain ⟨fit, hfit⟩ := hfit
  exact ⟨_, bind_ok.2 ⟨fit, hfit, rfl⟩⟩

theorem dropOldest_total {expired : List Nat} {incomingBytes : Nat} : ∀ (rest done : List Nat),
    (done ++ rest).Pairwise (· < ·) →
      (∀ k, ∃ fit, m.fitAfterRemoving expired (done ++ rest.take k) incomingBytes = .ok fit) →
        ∃ d, m.dropOldest expired incomingBytes done rest = .ok d
  | [], done, _, _ => ⟨done, rfl⟩
  | i :: rest, done, hpair, hfit => by
    have hlt := (List.pairwise_append.1 hpair).2.2
    have hi : i ∉ done := fun hmem => Nat.lt_irrefl _ (hlt i hmem i List.mem_cons_self)
    have htake : ∀ k, done ++ (i :: rest).take (k + 1) = done ++ [i] ++ rest.take k := fun k => by simp
    rw [List.append_cons] at hpair
    have hsorted : (done ++ [i]).Pairwise (· ≤ ·) := (List.pairwise_append.1 hpair).1.imp Nat.le_of_lt
    obtain ⟨fit, hone⟩ := hfit 1
    rw [htake 0, List.take_zero, List.append_nil] at hone
    obtain ⟨d, hlater⟩ := dropOldest_total rest (done ++ [i]) hpair fun k => by
      rw [← htake k]
      exact hfit (k + 1)
    unfold dropOldest
    rw [if_neg hi, hsorted.insertionSort_eq]
    by_cases hfull : fit.isFullFit = true
    · exact ⟨_, bind_ok.2 ⟨fit, hone, if_pos hfull⟩⟩
    · exact ⟨d, bind_ok.2 ⟨fit, hone, (if_neg hfull).trans hlater⟩⟩

theorem placeOffer_total (h : Ok m) (hkeys : m.KeysDistinct) (he : ExpiredAt m reading items)
    (hcount : Countable m message reading) :
    ∃ d, m.placeOffer message (indicesForExpiredItems items) (m.liveIndicesExcluding (indicesForExpiredItems items))
      = .ok d := by
  have hoffer : ∀ (first : List Nat × TerminalReason) (fit : CapacityFit),
      m.firstDisplaced message (m.liveIndicesExcluding (indicesForExpiredItems items)) = first →
        m.fitAfterRemoving (indicesForExpiredItems items) first.1 message.charged = .ok fit →
          (∃ d, m.relieve (indicesForExpiredItems items) (m.liveIndicesExcluding (indicesForExpiredItems items)) first.1
            first.2 fit message.charged = .ok d) →
            ∃ d, m.placeOffer message (indicesForExpiredItems items)
              (m.liveIndicesExcluding (indicesForExpiredItems items)) = .ok d := by
    rintro first fit rfl hfit ⟨d, hd⟩
    unfold placeOffer
    by_cases hfull : fit.isFullFit = true
    · exact ⟨_, bind_ok.2 ⟨fit, hfit, if_pos hfull⟩⟩
    · exact ⟨d, bind_ok.2 ⟨fit, hfit, (if_neg hfull).trans hd⟩⟩
  by_cases hpolicy : m.limits.overflow = .dropOldest
  · have hfits : ∀ k, ∃ fit, m.fitAfterRemoving (indicesForExpiredItems items)
        ((m.liveIndicesExcluding (indicesForExpiredItems items)).take k) message.charged = .ok fit :=
      fun k => (he.cut_take k).fit_total h he hcount
    obtain ⟨fit, hfit⟩ := hfits 0
    rw [List.take_zero] at hfit
    refine hoffer ([], .evicted) fit (firstDisplaced_still (by simp [hpolicy]) (by simp [hpolicy]) _) hfit ?_
    obtain ⟨d, hdrop⟩ := dropOldest_total (m.liveIndicesExcluding (indicesForExpiredItems items)) []
      he.live.ascending hfits
    obtain ⟨n, _, rfl, _⟩ := dropOldest_exact hdrop he.live.ascending
    obtain ⟨d', hd'⟩ := finalFit_total .evicted (hfits n)
    unfold relieve
    rw [hpolicy]
    exact ⟨d', bind_ok.2 ⟨_, hdrop, hd'⟩⟩
  · obtain ⟨displaced, kept, hcut, _, _⟩ := firstDisplaced_exact message hkeys he hpolicy
    obtain ⟨fit, hfit⟩ := hcut.fit_total h he hcount
    refine hoffer _ fit rfl hfit ?_
    unfold relieve
    cases hoverflow : m.limits.overflow with
    | dropOldest => exact absurd hoverflow hpolicy
    | rejectNew => exact ⟨_, rfl⟩
    | blockUntilDeadline => exact ⟨_, rfl⟩
    | latest => exact finalFit_total _ ⟨fit, hfit⟩
    | coalesceByKey => exact finalFit_total _ ⟨fit, hfit⟩

theorem decideOffer_total (h : Ok m) (hkeys : m.KeysDistinct) (he : ExpiredAt m reading items)
    (hcount : Countable m message reading) (late : Bool) :
    ∃ d, m.decideOffer message late (indicesForExpiredItems items)
      (m.liveIndicesExcluding (indicesForExpiredItems items)) = .ok d := by
  unfold decideOffer
  dsimp only
  split
  · exact placeOffer_total h hkeys he hcount
  · exact ⟨_, rfl⟩

theorem OfferCounters.checkedTerminal_total {c : OfferCounters} (category : OfferCategory)
    (h : c.admitted + c.rejected + c.closed + c.expiredBeforeAdmission = c.offered) (hlt : c.offered < u64Max) :
    ∃ c', c.checkedTerminal category = .ok c' := by
  simp only [OfferCounters.checkedTerminal, bind_ok, addU64_ok]
  cases category <;> simp only [OfferCounters.count, bind_ok, addU64_ok, pure_ok] <;>
    exact ⟨_, _, ⟨by omega, rfl⟩, _, ⟨by omega, rfl⟩, rfl⟩

theorem Ok.planOffer_total (h : Ok m) (hkeys : m.KeysDistinct) (hr : m.Compatible reading)
    (hcount : Countable m message reading) : ∃ plan, m.planOffer message reading = .ok plan := by
  obtain ⟨items, hitems, he⟩ := h.expiredItems hr
  obtain ⟨terminals, hterminals⟩ := h.countExpired reading
  obtain ⟨d, hd⟩ := decideOffer_total h hkeys he hcount
    (decide (message.freshUntil.deadline ≤ reading.now) || decide (message.runDeadline.deadline ≤ reading.now)
      || decide (reading.now + m.limits.maxQueueAge ≤ reading.now))
  obtain ⟨hdecided, _⟩ := decideOffer_ok (liveIndices_nodup m _) hd
  have hdisjoint : ∀ i ∈ indicesForExpiredItems items, i ∉ d.displaced :=
    fun i hi hi' => (mem_liveIndices.1 (hdecided.live i hi')).2 hi
  have hsplit := (pick_pick_drop_perm hdisjoint m.queue).length_eq
  have hsum := TerminalCounters.checkedIncrementRecords_sum hterminals
  have hadmitted := h.admitted
  have hoffers := h.offers
  have hoffered := h.offered_le
  rw [he.expired.pick, List.length_append, List.length_append] at hsplit
  rw [expiryRecords, List.length_map] at hsum
  obtain ⟨terminals', hterminals'⟩ := TerminalCounters.checkedIncrementRecords_total
    (m.recordsForIndices d.displaced d.reason) terminals (by rw [recordsForIndices, List.length_map]; omega)
  obtain ⟨offers, hcounted⟩ := OfferCounters.checkedTerminal_total d.planned.offerCategory hoffers hcount.offers
  obtain ⟨removed, hremoved, hle⟩ := h.bytesForIndices_total (sortDedup (indicesForExpiredItems items ++ d.displaced))
  obtain ⟨queuedBytes, hqueued⟩ : ∃ n, chargeIfAccepted d.planned (m.queuedBytes - removed) message.charged = .ok n := by
    have hbytes := hcount.bytes
    unfold chargeIfAccepted
    split
    · exact ⟨_, addU64_ok.2 ⟨by omega, rfl⟩⟩
    · exact ⟨_, rfl⟩
  simp only [Mailbox.planOffer, bind_ok, wrapErr_ok, pure_ok, MonotonicDeadline.isExpiredAt_ok,
    ClockReading.tryDeadlineAfter, rejectIf_ok, exists_unit]
  rw [← he.records] at hterminals
  exact ⟨_, hr.ensured, _, ⟨hr.1.trans hcount.fresh.1.symm, hr.2.trans hcount.fresh.2.symm, rfl⟩, _,
    ⟨hr.1.trans hcount.run.1.symm, hr.2.trans hcount.run.2.symm, rfl⟩, _, ⟨Nat.not_lt.2 hcount.age, rfl⟩, _,
    ⟨rfl, rfl, rfl⟩, items, hitems, terminals, hterminals, d, hd, terminals', hterminals', offers, hcounted, removed,
    hremoved, _, subU64_ok.2 ⟨hle, rfl⟩, queuedBytes, hqueued, rfl⟩

end

end Mailbox
end ParaEgox
