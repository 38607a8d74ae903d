import ParaEgox.MailboxInv

/-!
# MailboxStep — one operation of the mailbox

From a mailbox that satisfies the invariant every operation either fails, with an error other than an inconsistency, and
then the mailbox is what it was and the caller has its message or token back; or it succeeds, restores the invariant and
moves messages in one of the three ways of `Effect`.  Runs are folds of operations.
-/
namespace ParaEgox
namespace Mailbox

open Check Indexed

/-! ## Operations and replies -/

/-- Every call of the mailbox, with its arguments. -/
inductive Operation
  | tryOffer (message : ValidatedMessage) (reading : ClockReading)
  | tryBeginInflight (reading : ClockReading)
  | finish (token : InflightToken) (reason : TerminalReason)
  | abandonAllInflightUncertain
  | cancelAllQueued
  | expireQueued (reading : ClockReading)
  | stopAccepting
  | closeIfDrained

inductive Reply
  | offered (result : Except OfferFailure OfferReport)
  | dispatched (result : Except MailboxError DispatchReport)
  | finished (result : Except FinishFailure TerminalRecord)
  | released (result : Except MailboxError (List TerminalRecord))
  | stopped (result : Except MailboxError Unit)
  | checked (result : Except MailboxError Bool)

def perform (m : Mailbox) : Operation → Reply × Mailbox
  | .tryOffer message reading => ((.offered (m.tryOffer message reading).1), (m.tryOffer message reading).2)
  | .tryBeginInflight reading => (.dispatched (m.tryBeginInflight reading).1, (m.tryBeginInflight reading).2)
  | .finish token reason => (.finished (m.finish token reason).1, (m.finish token reason).2)
  | .abandonAllInflightUncertain => (.released m.abandonAllInflightUncertain.1, m.abandonAllInflightUncertain.2)
  | .cancelAllQueued => (.released m.cancelAllQueued.1, m.cancelAllQueued.2)
  | .expireQueued reading => (.released (m.expireQueued reading).1, (m.expireQueued reading).2)
  | .stopAccepting => (.stopped m.stopAccepting.1, m.stopAccepting.2)
  | .closeIfDrained => (.checked m.closeIfDrained.1, m.closeIfDrained.2)

namespace Reply

def error : Reply → Option MailboxError
  | offered (.error failure) => some failure.error
  | finished (.error failure) => some failure.error
  | dispatched (.error e) | released (.error e) | stopped (.error e) | checked (.error e) => some e
  | offered (.ok _) | finished (.ok _) | dispatched (.ok _) | released (.ok _) | stopped (.ok _) | checked (.ok _) => none

def returned : Reply → Option ValidatedMessage
  | offered (.error failure) => some failure.message
  | offered (.ok ⟨.rejected _ message, _⟩) | offered (.ok ⟨.expiredBeforeAdmission message, _⟩)
  | offered (.ok ⟨.closed message, _⟩) | offered (.ok ⟨.wouldBlock message _, _⟩) => some message
  | _ => none

def token : Reply → Option InflightToken
  | finished (.error failure) => some failure.token
  | _ => none

end Reply

def Operation.message : Operation → Option ValidatedMessage
  | tryOffer message _ => some message
  | _ => none

def Operation.token : Operation → Option InflightToken
  | finish token _ => some token
  | _ => none

def observe (op : Operation) : Reply → Observation
  | .offered (.ok report) => ⟨if report.outcome = .admitted then op.message else none, none, report.terminals⟩
  | .dispatched (.ok ⟨.started token, expired⟩) => ⟨none, some token, expired⟩
  | .dispatched (.ok report) => ⟨none, none, report.expired⟩
  | .finished (.ok record) => ⟨none, none, [record]⟩
  | .released (.ok records) => ⟨none, none, records⟩
  | _ => ⟨none, none, []⟩

/-- **What a call leaves**: on an error nothing has changed and its argument comes back; otherwise the invariant
holds. -/
inductive Performed (m : Mailbox) (op : Operation) (reply : Reply) (m' : Mailbox) : Prop
  | failed (e : MailboxError) (error : reply.error = some e) (sound : e ≠ .stateInconsistent) (same : m' = m)
      (message : reply.returned = op.message) (token : reply.token = op.token)
  | succeeded (error : reply.error = none) (ok : Ok m') (effect : Effect m m' (observe op reply))
      (message : (observe op reply).admitted.or reply.returned = op.message)
      (exclusive : (observe op reply).admitted = none ∨ reply.returned = none)

/-! ## Errors the invariant excludes -/

theorem isExpiredAt_avoids (d : MonotonicDeadline) (reading : ClockReading) :
    Avoids .invalidClockGeneration (d.isExpiredAt reading) := by
  unfold MonotonicDeadline.isExpiredAt MonotonicDeadline.ensureCompatible
  refine avoids_bind (avoids_check (by decide) <| avoids_rejectIf _ (by decide)) ?_
  intro _ _
  exact avoids_of_ok rfl

theorem timeError_avoids {α : Type} {x : Except TimeError α} (h : Avoids .invalidClockGeneration x) :
    Avoids .stateInconsistent (wrapErr mailboxTimeError x) := by
  refine avoids_wrapErr fun e he => ?_
  cases e
  · exact h
  all_goals cases he

theorem ensureReading_avoids (m : Mailbox) (reading : ClockReading) :
    Avoids .stateInconsistent (m.ensureReading reading) :=
  avoids_check (by decide) <| avoids_rejectIf _ (by decide)

theorem expiredFrom_avoids (reading : ClockReading) : ∀ (i : Nat) (queue : List QueuedMessage),
    Avoids .stateInconsistent (expiredFrom reading i queue)
  | _, [] => avoids_of_ok rfl
  | i, item :: queue => by
    unfold expiredFrom expirationReason
    refine avoids_bind (avoids_bind (timeError_avoids (isExpiredAt_avoids _ _)) fun _ _ => avoids_of_ok rfl) ?_
    intro reason _
    exact avoids_bind (expiredFrom_avoids reading (i + 1) queue) fun _ _ => avoids_of_ok rfl

theorem checkedIncrement_avoids (c : TerminalCounters) (reason : TerminalReason) :
    Avoids .stateInconsistent (c.checkedIncrement reason) :=
  avoids_bind (avoids_addU64 _ _ (by decide)) fun _ _ => avoids_of_ok rfl

theorem checkedIncrementRecords_avoids (c : TerminalCounters) (records : List TerminalRecord) :
    Avoids .stateInconsistent (c.checkedIncrementRecords records) :=
  avoids_scan (fun c (r : TerminalRecord) => checkedIncrement_avoids c r.reason) _ _

theorem checkedTerminal_avoids (c : OfferCounters) (category : OfferCategory) :
    Avoids .stateInconsistent (c.checkedTerminal category) := by
  refine avoids_bind (avoids_addU64 _ _ (by decide)) fun offered _ => ?_
  cases category
  all_goals exact avoids_bind (avoids_addU64 _ _ (by decide)) fun _ _ => avoids_of_ok rfl

theorem bytesForIndices_avoids (m : Mailbox) (indices : List Nat) :
    Avoids .stateInconsistent (m.bytesForIndices indices) :=
  avoids_sumU64 _ (by decide)

theorem fitAfterRemoving_avoids (m : Mailbox) (expired displaced : List Nat) (incomingBytes : Nat) :
    Avoids .stateInconsistent (m.fitAfterRemoving expired displaced incomingBytes) := by
  refine avoids_bind (bytesForIndices_avoids m _) fun _ _ => ?_
  refine avoids_bind (avoids_subU64 _ _ (by decide)) fun _ _ => ?_
  refine avoids_bind (avoids_toU32 _ (by decide)) fun _ _ => ?_
  refine avoids_bind (avoids_subU64 _ _ (by decide)) fun _ _ => ?_
  refine avoids_bind (avoids_addU64 _ _ (by decide)) fun _ _ => ?_
  exact avoids_bind (avoids_addU64 _ _ (by decide)) fun _ _ => avoids_of_ok rfl

theorem dropOldest_avoids (m : Mailbox) (expired : List Nat) (incomingBytes : Nat) : ∀ (live displaced : List Nat),
    Avoids .stateInconsistent (m.dropOldest expired incomingBytes displaced live)
  | [], _ => avoids_of_ok rfl
  | i :: live, displaced => by
    unfold dropOldest
    by_cases hi : i ∈ displaced
    · rw [if_pos hi]
      exact dropOldest_avoids m expired incomingBytes live displaced
    · rw [if_neg hi]
      refine avoids_bind (fitAfterRemoving_avoids m _ _ _) fun fit _ => ?_
      by_cases hfit : fit.isFullFit = true
      · rw [if_pos hfit]
        exact avoids_of_ok rfl
      · rw [if_neg hfit]
        exact dropOldest_avoids m expired incomingBytes live _

theorem finalFit_avoids (m : Mailbox) (expired displaced : List Nat) (reason : TerminalReason) (incomingBytes : Nat) :
    Avoids .stateInconsistent (m.finalFit expired displaced reason incomingBytes) :=
  avoids_bind (fitAfterRemoving_avoids m _ _ _) fun _ _ => avoids_of_ok rfl

/-- Deciding an offer never finds the state inconsistent. -/
theorem decideOffer_avoids (m : Mailbox) (message : ValidatedMessage) (late : Bool) (expired live : List Nat) :
    Avoids .stateInconsistent (m.decideOffer message late expired live) := by
  unfold decideOffer
  dsimp only
  split
  · refine avoids_bind (fitAfterRemoving_avoids m _ _ _) fun fit _ => ?_
    by_cases hfit : fit.isFullFit = true
    · rw [if_pos hfit]
      exact avoids_of_ok rfl
    · rw [if_neg hfit]
      unfold relieve
      split
      · exact avoids_of_ok rfl
      · exact avoids_of_ok rfl
      · exact avoids_bind (dropOldest_avoids m _ _ _ _) fun _ _ => finalFit_avoids m _ _ _ _
      · exact finalFit_avoids m _ _ _ _
      · exact finalFit_avoids m _ _ _ _
  · exact avoids_of_ok rfl

variable {m : Mailbox}

theorem Ok.subBytes_avoids (h : Ok m) {indices : List Nat} {removedBytes : Nat}
    (hremoved : m.bytesForIndices indices = .ok removedBytes) :
    Avoids .stateInconsistent (subU64 m.queuedBytes removedBytes MailboxError.stateInconsistent) :=
  avoids_of_ok (subU64_ok.2 ⟨h.bytesForIndices_le hremoved, rfl⟩)

theorem Ok.planOffer_avoids (h : Ok m) (message : ValidatedMessage) (reading : ClockReading) :
    Avoids .stateInconsistent (m.planOffer message reading) := by
  refine avoids_bind (ensureReading_avoids m reading) fun _ _ => ?_
  refine avoids_bind (timeError_avoids (isExpiredAt_avoids _ _)) fun _ _ => ?_
  refine avoids_bind (timeError_avoids (isExpiredAt_avoids _ _)) fun _ _ => ?_
  refine avoids_bind (timeError_avoids ?_) fun deadline _ => ?_
  · exact avoids_check (by decide) <| avoids_of_ok rfl
  refine avoids_bind (timeError_avoids (isExpiredAt_avoids _ _)) fun _ _ => ?_
  refine avoids_bind (expiredFrom_avoids reading 0 m.queue) fun items _ => ?_
  refine avoids_bind (checkedIncrementRecords_avoids _ _) fun _ _ => ?_
  refine avoids_bind (decideOffer_avoids m _ _ _ _) fun decision _ => ?_
  refine avoids_bind (checkedIncrementRecords_avoids _ _) fun _ _ => ?_
  refine avoids_bind (checkedTerminal_avoids _ _) fun _ _ => ?_
  refine avoids_bind (bytesForIndices_avoids m _) fun removedBytes hremoved => ?_
  refine avoids_bind (h.subBytes_avoids hremoved) fun kept _ => ?_
  refine avoids_bind ?_ fun _ _ => avoids_of_ok rfl
  unfold chargeIfAccepted
  split
  · exact avoids_addU64 _ _ (by decide)
  · exact avoids_of_ok rfl

/-! ## Offers -/

theorem commitOffer_queue {message : ValidatedMessage} {plan : OfferCommit} {expired displaced : List Nat}
    (p : OfferPlanned m message plan expired displaced) :
    (m.commitOffer message plan).queue
      = enqueued plan.planned ⟨message, plan.queueAgeDeadline⟩ (drop (expired ++ displaced) m.queue) := by
  unfold commitOffer
  rw [removeQueueIndices_eq, p.removed, drop_sortDedup]

/-- **Committing an offer keeps the invariant** and removes what the plan named, each with its record. -/
theorem Ok.commitOffer (h : Ok m) (hopen : m.lifecycle = .accepting) {message : ValidatedMessage}
    {plan : OfferCommit} {expired displaced : List Nat} (p : OfferPlanned m message plan expired displaced) :
    Ok (m.commitOffer message plan) := by
  have hqueue := commitOffer_queue p
  have hbase := h.removal p.removal p.terminals rfl
  by_cases haccept : plan.planned = .accept
  · obtain ⟨hown, hids, hinflight, hitems, hqueued, hretained⟩ := p.accepted haccept
    have hoffers := p.offers
    rw [haccept] at hoffers
    have hcharged := p.charged haccept
    rw [← hcharged] at hqueued hretained
    have hid : message.id ∉ (drop (expired ++ displaced) m.queue).map (·.message.id) ++ m.inflight.map (·.messageId) := by
      intro hmem
      rcases List.mem_append.1 hmem with hmem | hmem
      · obtain ⟨item, hitem, heq⟩ := List.mem_map.1 hmem
        exact hids item hitem heq
      · obtain ⟨a, ha, heq⟩ := List.mem_map.1 hmem
        exact hinflight a ha heq
    have hnext := hbase.enqueue (by simp [hopen]) hoffers hown hid hitems hqueued hretained
    have heq : m.commitOffer message plan = { m with
        queue := drop (expired ++ displaced) m.queue ++ [⟨message, plan.queueAgeDeadline⟩]
        queuedBytes := ((drop (expired ++ displaced) m.queue).map (·.message.charged)).sum + message.charged
        offers := plan.offers
        terminals := plan.terminals } := by
      rw [hcharged, Mailbox.mk.injEq]
      refine ⟨rfl, rfl, rfl, rfl, rfl, rfl, rfl, ?_, rfl, rfl, rfl, rfl, rfl, rfl⟩
      rw [← hqueue.trans (if_pos haccept)]
    rw [heq]
    exact hnext
  · have hcategory : plan.planned.offerCategory ≠ .admitted := by
      intro hadmitted
      cases hplanned : plan.planned with
      | accept => exact haccept hplanned
      | rejected reason => rw [hplanned] at hadmitted; cases hadmitted
      | expiredBeforeAdmission => rw [hplanned] at hadmitted; cases hadmitted
      | wouldBlock => rw [hplanned] at hadmitted; cases hadmitted
    have hnext := hbase.offer p.offers hcategory
    have heq : m.commitOffer message plan = { m with
        queue := drop (expired ++ displaced) m.queue
        queuedBytes := ((drop (expired ++ displaced) m.queue).map (·.message.charged)).sum
        offers := plan.offers
        terminals := plan.terminals } := by
      rw [p.kept haccept, Mailbox.mk.injEq]
      refine ⟨rfl, rfl, rfl, rfl, rfl, rfl, rfl, ?_, rfl, rfl, rfl, rfl, rfl, rfl⟩
      rw [← hqueue.trans (if_neg haccept)]
    rw [heq]
    exact hnext

theorem offerOutcome_admitted (message : ValidatedMessage) (planned : PlannedOffer) :
    offerOutcome message planned = .admitted ↔ planned = .accept := by
  cases planned <;> simp [offerOutcome]

theorem Ok.offerOpen (h : Ok m) (hopen : m.lifecycle = .accepting) (message : ValidatedMessage)
    (reading : ClockReading) :
    Performed m (.tryOffer message reading) (.offered (m.offerOpen message reading).1)
      (m.offerOpen message reading).2 := by
  unfold Mailbox.offerOpen
  cases hplan : m.planOffer message reading with
  | error e =>
    exact .failed e rfl ((h.planOffer_avoids message reading).ne hplan) rfl rfl rfl
  | ok plan =>
    obtain ⟨expired, displaced, p⟩ := h.planOffer hplan
    refine .succeeded rfl (h.commitOffer hopen p) ?_ ?_ ?_
    · refine .offered expired displaced _ plan.queueAgeDeadline p.removal ?_ rfl rfl
      refine (commitOffer_queue p).trans ?_
      by_cases haccept : plan.planned = .accept
      · simp [enqueued, observe, haccept, offerOutcome, Operation.message]
      · simp [enqueued, observe, haccept, offerOutcome_admitted]
    · cases hplanned : plan.planned <;> simp [observe, offerOutcome, Reply.returned, Operation.message, hplanned]
    · cases hplanned : plan.planned <;> simp [observe, offerOutcome, Reply.returned, Operation.message, hplanned]

theorem effect_still {m' : Mailbox} {o : Observation} (hqueue : m'.queue = m.queue) (hinflight : m'.inflight = m.inflight)
    (ho : o = ⟨none, none, []⟩) : Effect m m' o := by
  subst ho
  refine .settled [] ?_ .nil hqueue rfl rfl
  rw [hinflight]
  exact .refl _

theorem Ok.offerClosed (h : Ok m) (message : ValidatedMessage) (reading : ClockReading) :
    Performed m (.tryOffer message reading) (.offered (m.offerClosed message).1) (m.offerClosed message).2 := by
  unfold Mailbox.offerClosed
  cases hoffers : m.offers.checkedTerminal .closed with
  | error e =>
    exact .failed e rfl ((checkedTerminal_avoids _ _).ne hoffers) rfl rfl rfl
  | ok offers => exact .succeeded rfl (h.offer hoffers (by decide)) (effect_still rfl rfl rfl) rfl (.inl rfl)

/-- **An offer keeps the invariant**, accepted or refused. -/
theorem Ok.tryOffer (h : Ok m) (message : ValidatedMessage) (reading : ClockReading) :
    Performed m (.tryOffer message reading) (m.perform (.tryOffer message reading)).1
      (m.perform (.tryOffer message reading)).2 := by
  have hvalid := (validateState_ok m ()).2 h
  dsimp only [perform]
  unfold Mailbox.tryOffer
  rw [hvalid]
  dsimp only
  by_cases hopen : m.lifecycle = .accepting
  · rw [if_neg (not_not.2 hopen)]
    exact h.offerOpen hopen message reading
  · rw [if_pos hopen]
    exact h.offerClosed message reading

/-! ## Dispatch -/

def headStarted (m : Mailbox) (item : QueuedMessage) (rest : List QueuedMessage) (generation : Nat) : Mailbox :=
  { m with
    queue := rest
    queuedBytes := m.queuedBytes - item.message.charged
    inflightBytes := m.inflightBytes + item.message.charged
    nextTokenGeneration := generation
    inflight := Keyed.insert InflightAccounting.messageId ⟨item.message.id, generation, item.message.charged⟩ m.inflight }

/-- **The checks made after the head was popped never fail**: the accounting invariant leaves them nothing to find. -/
theorem Ok.startHead_eq (h : Ok m) {item : QueuedMessage} {rest : List QueuedMessage}
    (hqueue : m.queue = item :: rest) (generation : Nat) (records : List TerminalRecord) :
    m.startHead generation records
      = (.ok ⟨.started ⟨m.reference, generation, item.message⟩, records⟩, m.headStarted item rest generation) := by
  have hbytes := h.queuedBytes
  rw [hqueue, List.map_cons, List.sum_cons] at hbytes
  have hretained := h.retained_le
  have hlimit := m.limits.maxRetainedBytes_le
  have hids := h.ids
  rw [hqueue, List.nodup_append'] at hids
  have hfresh : ¬ m.inflight.any (·.messageId = item.message.id) = true := by
    simp only [List.any_eq_true, decide_eq_true_eq, not_exists, not_and]
    intro a ha heq
    exact hids.2.2 (List.mem_map_of_mem List.mem_cons_self) (heq ▸ List.mem_map_of_mem ha)
  unfold startHead
  rw [hqueue]
  dsimp only
  rw [if_neg (by omega), if_neg (by omega), if_neg hfresh]
  rfl

theorem Ok.headStarted (h : Ok m) {item : QueuedMessage} {rest : List QueuedMessage}
    (hqueue : m.queue = item :: rest) (hpermit : m.inflight.length < m.limits.maxInflight) (generation : Nat) :
    Ok (m.headStarted item rest generation) := by
  have hperm := Keyed.insert_perm InflightAccounting.messageId ⟨item.message.id, generation, item.message.charged⟩ m.inflight
  have hbytes := h.queuedBytes
  rw [hqueue, List.map_cons, List.sum_cons] at hbytes
  have hitems := h.items
  have hadmitted := h.admitted
  rw [hqueue, List.length_cons] at hitems hadmitted
  have hqueued := h.queued_le
  have hretained := h.retained_le
  have hlen : (m.headStarted item rest generation).inflight.length = m.inflight.length + 1 := Keyed.length_insert _ _ _
  have hsum : ((m.headStarted item rest generation).inflight.map (·.payloadBytes)).sum
      = m.inflightBytes + item.message.charged := by
    rw [← h.inflightBytes]
    refine (hperm.map _).sum_nat.trans ?_
    rw [List.map_cons, List.sum_cons, Nat.add_comm]
  exact {
    offers := h.offers
    offered_le := h.offered_le
    items := by dsimp only [Mailbox.headStarted]; omega
    inflight := by rw [hlen]; exact hpermit
    queuedBytes := by dsimp only [Mailbox.headStarted]; omega
    inflightBytes := hsum
    queued_le := by dsimp only [Mailbox.headStarted]; omega
    retained_le := by dsimp only [Mailbox.headStarted]; omega
    clock := fun x hx => h.clock x (hqueue ▸ List.mem_cons_of_mem _ hx)
    ids := by
      have hids := h.ids
      rw [hqueue, List.map_cons] at hids
      refine (List.Perm.nodup_iff ?_).2 hids
      exact ((hperm.map _).append_left _).trans List.perm_middle
    admitted := by
      rw [hlen]
      dsimp only [Mailbox.headStarted]
      omega
    closed := fun hlife => by
      have hempty := (h.closed hlife).1
      rw [hqueue] at hempty
      cases hempty }

theorem Ok.planDispatch_avoids (h : Ok m) (reading : ClockReading) :
    Avoids .stateInconsistent (m.planDispatch reading) := by
  refine avoids_bind (ensureReading_avoids m reading) fun _ _ => ?_
  refine avoids_bind (expiredFrom_avoids reading 0 m.queue) fun items hitems => ?_
  refine avoids_bind (checkedIncrementRecords_avoids _ _) fun _ _ => ?_
  refine avoids_bind (bytesForIndices_avoids m _) fun removedBytes hremoved => ?_
  refine avoids_bind (h.subBytes_avoids hremoved) fun kept _ => ?_
  refine avoids_bind ?_ fun remaining _ => ?_
  · obtain ⟨hnodup, hlt, _⟩ := expiredItems_ok hitems
    have hlen := length_drop (indicesForExpiredItems items) m.queue
    rw [length_pick hnodup hlt] at hlen
    exact avoids_of_ok (subU64_ok.2 ⟨by omega, rfl⟩)
  refine avoids_bind ?_ fun inflightItems _ => ?_
  · have hinflight := h.inflight
    have hlimit := m.limits.maxInflight_le
    exact avoids_of_ok (toU32_ok.2 ⟨by omega, rfl⟩)
  refine avoids_bind ?_ fun _ _ => avoids_of_ok rfl
  unfold nextToken
  split
  · exact avoids_bind (avoids_addU64 _ _ (by decide)) fun _ _ => avoids_of_ok rfl
  · exact avoids_of_ok rfl

structure DispatchPlanned (m : Mailbox) (plan : DispatchPlan) : Prop where
  removal : Removal m (drop plan.expired m.queue) plan.expired [] plan.records
  terminals : plan.terminals.values.sum = m.terminals.values.sum + plan.records.length
  queuedBytes : ((drop plan.expired m.queue).map (·.message.charged)).sum = plan.queuedBytes
  remaining : plan.remainingItems = (drop plan.expired m.queue).length
  token : ∀ g, plan.tokenGeneration = some g → 0 < plan.remainingItems ∧ m.inflight.length < m.limits.maxInflight

theorem Ok.planDispatch (h : Ok m) {reading : ClockReading} {plan : DispatchPlan}
    (hplan : m.planDispatch reading = .ok plan) : DispatchPlanned m plan := by
  simp only [Mailbox.planDispatch, bind_ok, pure_ok, subU64_ok, toU32_ok] at hplan
  obtain ⟨_, _, items, hitems, terminals, hterminals, removedBytes, hremoved, _, ⟨hle, rfl⟩, _, ⟨_, rfl⟩, _, ⟨_, rfl⟩,
    token, htoken, rfl⟩ := hplan
  obtain ⟨hnodup, hlt, _⟩ := expiredItems_ok hitems
  refine ⟨removal_expired hitems, TerminalCounters.checkedIncrementRecords_sum hterminals,
    h.keptBytes _ hremoved hle rfl, ?_, fun g hg => ?_⟩
  · have hlen := length_drop (indicesForExpiredItems items) m.queue
    rw [length_pick hnodup hlt] at hlen
    dsimp only
    omega
  · unfold nextToken at htoken
    split at htoken
    · rename_i hpermit
      exact hpermit
    · cases htoken
      cases hg

theorem effect_relieved {m' : Mailbox} {expired : List Nat} {o : Observation}
    (hremoval : Removal m (drop expired m.queue) expired [] o.terminals) (hqueue : m'.queue = drop expired m.queue)
    (hinflight : m'.inflight = m.inflight) (hadmitted : o.admitted = none) (hstarted : o.started = none) :
    Effect m m' o := by
  refine .offered expired [] (drop expired m.queue) ⟨m.clockDomain, m.clockGeneration, 0⟩ hremoval ?_ hinflight hstarted
  rw [hqueue, hadmitted]
  simp

theorem relieved_queue (m : Mailbox) (expired : List Nat) (queuedBytes : Nat) (terminals : TerminalCounters) :
    (m.relieved expired queuedBytes terminals).queue = drop expired m.queue :=
  removeQueueIndices_eq m expired

theorem Ok.relieved (h : Ok m) {plan : DispatchPlan} (p : DispatchPlanned m plan) :
    Ok (m.relieved plan.expired plan.queuedBytes plan.terminals) := by
  unfold Mailbox.relieved
  rw [removeQueueIndices_eq]
  exact h.removal p.removal p.terminals p.queuedBytes

theorem observe_drained (m : Mailbox) (op : Operation) (records : List TerminalRecord) :
    observe op (.dispatched (.ok ⟨m.drainedOutcome, records⟩)) = ⟨none, none, records⟩ := by
  unfold drainedOutcome
  split <;> rfl

theorem Ok.commitDispatch (h : Ok m) (reading : ClockReading) {plan : DispatchPlan} (p : DispatchPlanned m plan) :
    Performed m (.tryBeginInflight reading) (.dispatched (m.commitDispatch plan).1) (m.commitDispatch plan).2 := by
  have hrelieved := h.relieved p
  have hqueue := relieved_queue m plan.expired plan.queuedBytes plan.terminals
  unfold Mailbox.commitDispatch
  dsimp only
  cases htoken : plan.tokenGeneration with
  | some generation =>
    obtain ⟨hpositive, hpermit⟩ := p.token generation htoken
    rw [p.remaining] at hpositive
    obtain ⟨item, rest, hhead⟩ := List.exists_cons_of_length_pos hpositive
    have hhead' := hqueue.trans hhead
    dsimp only
    rw [hrelieved.startHead_eq hhead']
    refine .succeeded rfl (hrelieved.headStarted hhead' hpermit generation) ?_ rfl (.inl rfl)
    refine .started plan.expired item generation ?_ rfl rfl rfl
    have hremoval := p.removal
    rw [hhead] at hremoval
    exact hremoval
  | none =>
    dsimp only
    by_cases hempty : plan.remainingItems = 0
    · rw [if_pos hempty]
      refine .succeeded rfl hrelieved.close ?_ ?_ ?_
      · rw [observe_drained]
        refine effect_relieved p.removal ?_ ?_ rfl rfl
        · rw [closeIfDrainedInternal_queue, hqueue]
        · rw [closeIfDrainedInternal_inflight]
          rfl
      · rw [observe_drained]
        rfl
      · rw [observe_drained]
        exact .inl rfl
    · rw [if_neg hempty]
      exact .succeeded rfl hrelieved (effect_relieved p.removal hqueue rfl rfl rfl) rfl (.inl rfl)

/-- **Beginning a dispatch keeps the invariant**: what expired is recorded and the oldest live message leaves. -/
theorem Ok.tryBeginInflight (h : Ok m) (reading : ClockReading) :
    Performed m (.tryBeginInflight reading) (m.perform (.tryBeginInflight reading)).1
      (m.perform (.tryBeginInflight reading)).2 := by
  have hvalid := (validateState_ok m ()).2 h
  dsimp only [perform]
  unfold Mailbox.tryBeginInflight
  rw [hvalid]
  dsimp only
  by_cases hclosed : m.lifecycle = .closed
  · rw [if_pos hclosed]
    exact .succeeded rfl h (effect_still rfl rfl rfl) rfl (.inl rfl)
  · rw [if_neg hclosed]
    cases hplan : m.planDispatch reading with
    | error e =>
      exact .failed e rfl ((h.planDispatch_avoids reading).ne hplan) rfl rfl rfl
    | ok plan => exact h.commitDispatch reading (h.planDispatch hplan)

/-! ## Terminals -/

/-- Entries may leave the inflight accounting with their bytes, each counted as a terminal. -/
theorem Ok.release (h : Ok m) {entries kept : List InflightAccounting}
    (hperm : (entries ++ kept).Perm m.inflight) {terminals : TerminalCounters}
    (hterminals : terminals.values.sum = m.terminals.values.sum + entries.length) {inflightBytes : Nat}
    (hbytes : (kept.map (·.payloadBytes)).sum = inflightBytes) :
    Ok { m with inflight := kept, inflightBytes := inflightBytes, terminals := terminals } := by
  have hlen : entries.length + kept.length = m.inflight.length := by
    rw [← List.length_append, hperm.length_eq]
  have hsum : (entries.map (·.payloadBytes)).sum + inflightBytes = m.inflightBytes := by
    rw [← hbytes, ← List.sum_append, ← List.map_append, (hperm.map _).sum_nat, h.inflightBytes]
  have hids : (m.queue.map (·.message.id) ++ kept.map (·.messageId)).Nodup := by
    have hall : (m.queue.map (·.message.id) ++ (entries ++ kept).map (·.messageId)).Nodup :=
      ((hperm.map _).append_left _).nodup_iff.2 h.ids
    refine List.Sublist.nodup (List.Sublist.append_left ?_ _) hall
    rw [List.map_append]
    exact List.sublist_append_right _ _
  have hinflight := h.inflight
  have hretained := h.retained_le
  have hadmitted := h.admitted
  exact { h with
    inflight := by dsimp only; omega
    inflightBytes := hbytes
    retained_le := by dsimp only; omega
    ids := hids
    admitted := by dsimp only; omega
    closed := fun hlife => by
      obtain ⟨hq, hi⟩ := h.closed hlife
      rw [hi, List.length_nil] at hlen
      have hzero : kept.length = 0 := by omega
      exact ⟨hq, List.length_eq_zero_iff.1 hzero⟩ }

theorem Ok.entry (h : Ok m) {id : Ref16} {a : InflightAccounting}
    (hfind : Keyed.find InflightAccounting.messageId id m.inflight = some a) :
    ([a] ++ m.inflight.filter fun b => decide (b.messageId ≠ id)).Perm m.inflight := by
  exact Keyed.find_perm _ (List.nodup_append'.1 h.ids).2.1 hfind

theorem Ok.entryBytes_le (h : Ok m) {id : Ref16} {a : InflightAccounting}
    (hfind : Keyed.find InflightAccounting.messageId id m.inflight = some a) :
    a.payloadBytes + ((m.inflight.filter fun b => decide (b.messageId ≠ id)).map (·.payloadBytes)).sum
      = m.inflightBytes := by
  rw [← h.inflightBytes, ← ((h.entry hfind).map _).sum_nat]
  simp

theorem Ok.planFinish_avoids (h : Ok m) (token : InflightToken) (reason : TerminalReason) :
    Avoids .stateInconsistent (m.planFinish token reason) := by
  refine avoids_check (by decide) ?_
  refine avoids_check (by decide) ?_
  refine avoids_bind (avoids_okOr _ (by decide)) fun a ha => ?_
  refine avoids_check (by decide) ?_
  refine avoids_bind (checkedIncrement_avoids _ _) fun _ _ => ?_
  refine avoids_bind ?_ fun _ _ => avoids_of_ok rfl
  have hbytes := h.entryBytes_le (okOr_ok.1 ha)
  exact avoids_of_ok (subU64_ok.2 ⟨by omega, rfl⟩)

/-- **A finish keeps the invariant** and ends exactly the entry of its token. -/
theorem Ok.finish (h : Ok m) (token : InflightToken) (reason : TerminalReason) :
    Performed m (.finish token reason) (m.perform (.finish token reason)).1 (m.perform (.finish token reason)).2 := by
  have hvalid := (validateState_ok m ()).2 h
  dsimp only [perform]
  unfold Mailbox.finish
  rw [hvalid]
  dsimp only
  cases hplan : m.planFinish token reason with
  | error e =>
    exact .failed e rfl ((h.planFinish_avoids token reason).ne hplan) rfl rfl rfl
  | ok plan =>
    simp only [planFinish, bind_ok, rejectIf_ok, exists_unit, okOr_ok, subU64_ok, pure_ok, not_or, ne_eq, not_not] at hplan
    obtain ⟨_, _, a, hfind, ⟨_, hbytes⟩, terminals, hterminals, _, ⟨_, rfl⟩, rfl⟩ := hplan
    have hentry := h.entry hfind
    have hsum := h.entryBytes_le hfind
    have hreleased : Ok (m.released token.message.id terminals (m.inflightBytes - a.payloadBytes)) :=
      h.release hentry (TerminalCounters.checkedIncrement_sum hterminals) (by omega)
    refine .succeeded rfl hreleased.close ?_ rfl (.inl rfl)
    refine .settled [a] ?_ (.cons ⟨?_, hbytes.symm⟩ .nil) ?_ rfl rfl
    · rw [closeIfDrainedInternal_inflight]
      exact hentry
    · exact (Keyed.find_mem _ hfind).2.symm
    · rw [closeIfDrainedInternal_queue]
      rfl

theorem releases_abandoned (entries : List InflightAccounting) :
    List.Forall₂ (fun a (r : TerminalRecord) => r.messageId = a.messageId ∧ r.releasedBytes = a.payloadBytes) entries
      (entries.map fun a => ⟨a.messageId, .uncertain, a.payloadBytes⟩) := by
  induction entries with
  | nil => exact .nil
  | cons a entries ih => exact .cons ⟨rfl, rfl⟩ ih

theorem Ok.abandonAllInflightUncertain (h : Ok m) :
    Performed m .abandonAllInflightUncertain (m.perform .abandonAllInflightUncertain).1
      (m.perform .abandonAllInflightUncertain).2 := by
  have hvalid := (validateState_ok m ()).2 h
  dsimp only [perform]
  unfold Mailbox.abandonAllInflightUncertain
  rw [hvalid]
  dsimp only
  by_cases hopen : m.lifecycle = .accepting
  · rw [if_pos hopen]
    exact .failed _ rfl (by decide) rfl rfl rfl
  · rw [if_neg hopen]
    cases hterminals : m.terminals.checkedIncrementRecords m.abandonedRecords with
    | error e =>
      exact .failed e rfl ((checkedIncrementRecords_avoids _ _).ne hterminals) rfl rfl rfl
    | ok terminals =>
      have hsum := TerminalCounters.checkedIncrementRecords_sum hterminals
      rw [abandonedRecords, List.length_map] at hsum
      have hperm : (m.inflight ++ []).Perm m.inflight := by rw [List.append_nil]
      refine .succeeded rfl (h.release hperm hsum rfl).close ?_ rfl (.inl rfl)
      refine .settled m.inflight ?_ (releases_abandoned m.inflight) ?_ rfl rfl
      · rw [closeIfDrainedInternal_inflight]
        exact hperm
      · rw [closeIfDrainedInternal_queue]

theorem Ok.cancelAllQueued (h : Ok m) :
    Performed m .cancelAllQueued (m.perform .cancelAllQueued).1 (m.perform .cancelAllQueued).2 := by
  have hvalid := (validateState_ok m ()).2 h
  dsimp only [perform]
  unfold Mailbox.cancelAllQueued
  rw [hvalid]
  dsimp only
  by_cases hopen : m.lifecycle = .accepting
  · rw [if_pos hopen]
    exact .failed _ rfl (by decide) rfl rfl rfl
  rw [if_neg hopen]
  by_cases hempty : m.queue = []
  · rw [if_pos hempty]
    exact .succeeded rfl h.close (effect_still (by simp) (by simp) rfl) rfl (.inl rfl)
  rw [if_neg hempty]
  cases hterminals : m.terminals.checkedIncrementRecords m.cancelledRecords with
  | error e =>
    exact .failed e rfl ((checkedIncrementRecords_avoids _ _).ne hterminals) rfl rfl rfl
  | ok terminals =>
    have hdrop : drop (List.range m.queue.length) m.queue = [] := by
      have hlen := length_drop (List.range m.queue.length) m.queue
      rw [pick_range] at hlen
      exact List.length_eq_zero_iff.1 (by omega)
    have hremoval : Removal m (drop (List.range m.queue.length) m.queue) (List.range m.queue.length) []
        m.cancelledRecords := by
      refine ⟨by rw [List.append_nil], fun _ _ => List.not_mem_nil, ?_⟩
      have hnil : pick [] m.queue = [] := by rw [pick_eq_filterMap .nil]; rfl
      rw [hnil, List.append_nil]
      exact releases_indices _ _
    have hok := h.removal hremoval (TerminalCounters.checkedIncrementRecords_sum hterminals) rfl
    rw [hdrop] at hok
    refine .succeeded rfl hok.close (effect_relieved hremoval ?_ ?_ rfl rfl) rfl (.inl rfl)
    · rw [closeIfDrainedInternal_queue, hdrop]
    · rw [closeIfDrainedInternal_inflight]

theorem Ok.planExpiry_avoids (h : Ok m) (reading : ClockReading) :
    Avoids .stateInconsistent (m.planExpiry reading) := by
  refine avoids_bind (ensureReading_avoids m reading) fun _ _ => ?_
  refine avoids_bind (expiredFrom_avoids reading 0 m.queue) fun items hitems => ?_
  refine avoids_bind (checkedIncrementRecords_avoids _ _) fun _ _ => ?_
  refine avoids_bind (bytesForIndices_avoids m _) fun removedBytes hremoved => ?_
  exact avoids_bind (h.subBytes_avoids hremoved) fun kept _ => avoids_of_ok rfl

theorem Ok.expireQueued (h : Ok m) (reading : ClockReading) :
    Performed m (.expireQueued reading) (m.perform (.expireQueued reading)).1 (m.perform (.expireQueued reading)).2 := by
  have hvalid := (validateState_ok m ()).2 h
  dsimp only [perform]
  unfold Mailbox.expireQueued
  rw [hvalid]
  dsimp only
  by_cases hclosed : m.lifecycle = .closed
  · rw [if_pos hclosed]
    exact .succeeded rfl h (effect_still rfl rfl rfl) rfl (.inl rfl)
  rw [if_neg hclosed]
  cases hplan : m.planExpiry reading with
  | error e =>
    exact .failed e rfl ((h.planExpiry_avoids reading).ne hplan) rfl rfl rfl
  | ok plan =>
    simp only [planExpiry, bind_ok, pure_ok, subU64_ok] at hplan
    obtain ⟨_, _, items, hitems, terminals, hterminals, removedBytes, hremoved, _, ⟨hle, rfl⟩, rfl⟩ := hplan
    have hok := h.removal (removal_expired hitems) (TerminalCounters.checkedIncrementRecords_sum hterminals)
      (h.keptBytes _ hremoved hle rfl)
    rw [← removeQueueIndices_eq] at hok
    refine .succeeded rfl hok.close (effect_relieved (removal_expired hitems) ?_ ?_ rfl rfl) rfl (.inl rfl)
    · rw [closeIfDrainedInternal_queue, relieved_queue]
    · rw [closeIfDrainedInternal_inflight]
      rfl

theorem Ok.stopAccepting (h : Ok m) :
    Performed m .stopAccepting (m.perform .stopAccepting).1 (m.perform .stopAccepting).2 := by
  have hvalid := (validateState_ok m ()).2 h
  dsimp only [perform]
  unfold Mailbox.stopAccepting
  rw [hvalid]
  dsimp only
  by_cases hopen : m.lifecycle = .accepting
  · rw [if_pos hopen]
    have hdraining : Ok { m with lifecycle := .draining } := { h with closed := fun hlife => by cases hlife }
    exact .succeeded rfl hdraining.close (effect_still (by simp) (by simp) rfl) rfl (.inl rfl)
  · rw [if_neg hopen]
    exact .succeeded rfl h.close (effect_still (by simp) (by simp) rfl) rfl (.inl rfl)

theorem Ok.closeIfDrained (h : Ok m) :
    Performed m .closeIfDrained (m.perform .closeIfDrained).1 (m.perform .closeIfDrained).2 := by
  have hvalid := (validateState_ok m ()).2 h
  dsimp only [perform]
  unfold Mailbox.closeIfDrained
  rw [hvalid]
  exact .succeeded rfl h.close (effect_still (by simp) (by simp) rfl) rfl (.inl rfl)

/-- **Every call keeps the invariant or changes nothing.** -/
theorem Ok.performed (h : Ok m) (op : Operation) : Performed m op (m.perform op).1 (m.perform op).2 := by
  cases op with
  | tryOffer message reading => exact h.tryOffer message reading
  | tryBeginInflight reading => exact h.tryBeginInflight reading
  | finish token reason => exact h.finish token reason
  | abandonAllInflightUncertain => exact h.abandonAllInflightUncertain
  | cancelAllQueued => exact h.cancelAllQueued
  | expireQueued reading => exact h.expireQueued reading
  | stopAccepting => exact h.stopAccepting
  | closeIfDrained => exact h.closeIfDrained

end Mailbox
end ParaEgox
