import ParaEgox.MailboxShape

/-!
# MailboxHead — expiry at the three entrances and the start of the head

An offer, a dispatch and an expiry at the same reading take exactly the same expired messages out of the queue.  A
dispatch then starts the first live message if a permit is free; head readiness announces it without moving anything.
-/
namespace ParaEgox
namespace Mailbox

open Check Indexed

/-! ## Dispatch -/

/-- **What a dispatch comes to**: the token counter is exhausted and nothing changes; or the first live message starts; or
no live message, or no permit, is there. -/
inductive Begun (m : Mailbox) (reading : ClockReading) (result : Except MailboxError DispatchReport) (m' : Mailbox) :
    Prop
  | exhausted (message : m.live reading ≠ []) (permit : m.inflight.length < m.limits.maxInflight)
      (counter : u64Max ≤ m.nextTokenGeneration) (failed : result = .error .counterOverflow) (same : m' = m)
  | started (item : QueuedMessage) (live : m.live reading = item :: m'.queue)
      (permit : m.inflight.length < m.limits.maxInflight) (counter : m.nextTokenGeneration < u64Max)
      (token : result = .ok ⟨.started ⟨m.reference, m.nextTokenGeneration + 1, item.message⟩, m.expiryRecords reading⟩)
  | idle (outcome : DispatchOutcome) (unstarted : ∀ token, outcome ≠ .started token)
      (blocked : m.live reading = [] ∨ m.limits.maxInflight ≤ m.inflight.length)
      (queue : m'.queue = m.live reading) (still : result = .ok ⟨outcome, m.expiryRecords reading⟩)

variable {m : Mailbox} {reading : ClockReading}

theorem Ok.planDispatch_eq (h : Ok m) (hr : m.Compatible reading) :
    ∃ expired terminals queuedBytes, drop expired m.queue = m.live reading
      ∧ m.planDispatch reading = (m.nextToken (m.live reading).length m.inflight.length).map fun token =>
          ⟨expired, m.expiryRecords reading, terminals, queuedBytes, (m.live reading).length, token⟩ := by
  obtain ⟨items, hitems, he⟩ := h.expiredItems hr
  obtain ⟨terminals, hterminals⟩ := h.countExpired reading
  obtain ⟨bytes, hbytes, hle⟩ := h.bytesForIndices_total (indicesForExpiredItems items)
  have hinflight := h.inflight
  have hlimit := m.limits.maxInflight_le
  have hlen := length_drop (indicesForExpiredItems items) m.queue
  rw [he.drop, he.expired.pick, ← he.expired.elements.length_eq] at hlen
  have hkept : subU64 m.queuedBytes bytes MailboxError.stateInconsistent = .ok (m.queuedBytes - bytes) :=
    subU64_ok.2 ⟨hle, rfl⟩
  have hremaining : subU64 m.queue.length (indicesForExpiredItems items).length MailboxError.stateInconsistent
      = .ok (m.live reading).length := subU64_ok.2 ⟨by omega, by omega⟩
  have hpermits : toU32 m.inflight.length MailboxError.stateInconsistent = .ok m.inflight.length :=
    toU32_ok.2 ⟨by omega, rfl⟩
  refine ⟨indicesForExpiredItems items, terminals, m.queuedBytes - bytes, he.drop, ?_⟩
  unfold Mailbox.planDispatch
  rw [hr.ensured]
  dsimp only [bind, Except.bind]
  rw [hitems]
  dsimp only
  rw [he.records, hterminals]
  dsimp only
  rw [hbytes]
  dsimp only
  rw [hkept]
  dsimp only
  rw [hremaining]
  dsimp only
  rw [hpermits]
  dsimp only
  cases m.nextToken (m.live reading).length m.inflight.length <;> rfl

theorem drainedOutcome_unstarted (m : Mailbox) (token : InflightToken) : m.drainedOutcome ≠ .started token := by
  unfold drainedOutcome
  split <;> exact fun h => by cases h

theorem Ok.tryBeginInflight_exact (h : Ok m) (hr : m.Compatible reading) :
    Begun m reading (m.tryBeginInflight reading).1 (m.tryBeginInflight reading).2 := by
  unfold Mailbox.tryBeginInflight
  rw [(validateState_ok m ()).2 h]
  dsimp only
  by_cases hclosed : m.lifecycle = .closed
  · obtain ⟨hqueue, hlive, hrecords⟩ := h.closed_live hclosed reading
    rw [if_pos hclosed]
    refine .idle .closed (fun token he => by cases he) (.inl hlive) ?_ ?_
    · rw [hlive, hqueue]
    · rw [hrecords]
  · rw [if_neg hclosed]
    obtain ⟨expired, terminals, queuedBytes, hdrop, hplan⟩ := h.planDispatch_eq hr
    by_cases hstarts : 0 < (m.live reading).length ∧ m.inflight.length < m.limits.maxInflight
    · by_cases hcounter : m.nextTokenGeneration + 1 ≤ u64Max
      · have htoken : m.nextToken (m.live reading).length m.inflight.length = .ok (some (m.nextTokenGeneration + 1)) := by
          unfold nextToken
          rw [if_pos hstarts]
          exact bind_ok.2 ⟨_, addU64_ok.2 ⟨hcounter, rfl⟩, rfl⟩
        rw [htoken] at hplan
        have p := h.planDispatch hplan
        have hrelieved := h.relieved p
        obtain ⟨item, rest, hhead⟩ := List.exists_cons_of_length_pos hstarts.1
        have hqueue := (relieved_queue m expired queuedBytes terminals).trans (hdrop.trans hhead)
        rw [hplan]
        unfold Mailbox.commitDispatch
        dsimp only [Except.map]
        rw [hrelieved.startHead_eq hqueue]
        exact .started item hhead hstarts.2 hcounter rfl
      · have htoken : m.nextToken (m.live reading).length m.inflight.length = .error .counterOverflow := by
          unfold nextToken addU64 rejectIf
          rw [if_pos hstarts, if_pos (by omega)]
          rfl
        rw [hplan, htoken]
        exact .exhausted (List.ne_nil_of_length_pos hstarts.1) hstarts.2 (by omega) rfl rfl
    · have htoken : m.nextToken (m.live reading).length m.inflight.length = .ok none := by
        unfold nextToken
        rw [if_neg hstarts]
      rw [hplan, htoken]
      unfold Mailbox.commitDispatch
      dsimp only [Except.map]
      by_cases hempty : (m.live reading).length = 0
      · rw [if_pos hempty]
        refine .idle _ (drainedOutcome_unstarted _) (.inl (List.length_eq_zero_iff.1 hempty)) ?_ rfl
        rw [closeIfDrainedInternal_queue, relieved_queue, hdrop]
      · rw [if_neg hempty]
        refine .idle .noPermit (fun token he => by cases he) (.inr (by omega)) ?_ rfl
        rw [relieved_queue, hdrop]

/-! ## Head readiness -/

inductive Seen (m : Mailbox) (reading : ClockReading) : MailboxHeadReadiness → Prop
  | closed (queue : m.queue = []) : Seen m reading .closed
  | empty (queue : m.queue = []) : Seen m reading .empty
  | expired (item : QueuedMessage) (rest : List QueuedMessage) (queue : m.queue = item :: rest)
      (late : overdue reading item = true) : Seen m reading (.expired (m.headHint item) item.dueReason)
  | noPermit (item : QueuedMessage) (rest : List QueuedMessage) (queue : m.queue = item :: rest)
      (fresh : overdue reading item = false) (permit : m.limits.maxInflight ≤ m.inflight.length) :
      Seen m reading (.noPermit (m.headHint item))
  | ready (item : QueuedMessage) (rest : List QueuedMessage) (queue : m.queue = item :: rest)
      (fresh : overdue reading item = false) (permit : m.inflight.length < m.limits.maxInflight) :
      Seen m reading (.ready (m.headHint item))

theorem Ok.headReadiness_exact (h : Ok m) (hr : m.Compatible reading) :
    ∃ readiness, m.headReadiness reading = .ok readiness ∧ Seen m reading readiness := by
  have hvalid := (validateState_ok m ()).2 h
  unfold headReadiness
  by_cases hclosed : m.lifecycle = .closed
  · exact ⟨.closed, bind_ok.2 ⟨(), hvalid, if_pos hclosed⟩, .closed (h.closed hclosed).1⟩
  · suffices hopen : ∃ readiness, m.openReadiness reading = .ok readiness ∧ Seen m reading readiness by
      obtain ⟨readiness, heq, hseen⟩ := hopen
      exact ⟨readiness, bind_ok.2 ⟨(), hvalid, (if_neg hclosed).trans heq⟩, hseen⟩
    unfold openReadiness
    cases hqueue : m.queue with
    | nil => exact ⟨.empty, bind_ok.2 ⟨(), hr.ensured, rfl⟩, .empty hqueue⟩
    | cons item rest =>
      have hreason := expirationReason_eq hr (h.clock item (hqueue ▸ List.mem_cons_self))
      cases hover : overdue reading item with
      | true =>
        rw [hover, if_pos rfl] at hreason
        exact ⟨_, bind_ok.2 ⟨(), hr.ensured, bind_ok.2 ⟨_, hreason, rfl⟩⟩, .expired item rest hqueue hover⟩
      | false =>
        rw [hover, if_neg Bool.false_ne_true] at hreason
        have hinflight := h.inflight
        have hlimit := m.limits.maxInflight_le
        have hpermits : toU32 m.inflight.length MailboxError.stateInconsistent = .ok m.inflight.length :=
          toU32_ok.2 ⟨by omega, rfl⟩
        refine ⟨_, bind_ok.2 ⟨(), hr.ensured, bind_ok.2 ⟨_, hreason, bind_ok.2
          ⟨_, hpermits, rfl⟩⟩⟩, ?_⟩
        by_cases hpermit : m.limits.maxInflight ≤ m.inflight.length
        · rw [if_pos hpermit]
          exact .noPermit item rest hqueue hover hpermit
        · rw [if_neg hpermit]
          exact .ready item rest hqueue hover (Nat.lt_of_not_le hpermit)

def HeadAgrees (m : Mailbox) (reading : ClockReading) : MailboxHeadReadiness → Prop
  | .ready hint => ∃ item rest, m.queue = item :: rest ∧ hint = m.headHint item
      ∧ (m.nextTokenGeneration < u64Max → ∃ token expired,
          (m.tryBeginInflight reading).1 = .ok ⟨.started token, expired⟩ ∧ token.message = item.message)
  | .expired hint _ | .noPermit hint => ∃ item rest, m.queue = item :: rest ∧ hint = m.headHint item
      ∧ ∀ token expired, (m.tryBeginInflight reading).1 = .ok ⟨.started token, expired⟩ →
          token.message.id ≠ item.message.id
  | .empty | .closed => ∀ token expired, (m.tryBeginInflight reading).1 ≠ .ok ⟨.started token, expired⟩

theorem Begun.of_started {m' : Mailbox} {result : Except MailboxError DispatchReport}
    (h : Begun m reading result m') {token : InflightToken} {expired : List TerminalRecord}
    (hresult : result = .ok ⟨.started token, expired⟩) :
    ∃ item, m.live reading = item :: m'.queue ∧ token.message = item.message
      ∧ m.inflight.length < m.limits.maxInflight := by
  cases h with
  | exhausted _ _ _ hfailed _ => cases hfailed.symm.trans hresult
  | started item hlive hpermit _ htoken =>
    cases htoken.symm.trans hresult
    exact ⟨item, hlive, rfl, hpermit⟩
  | idle outcome hunstarted _ _ hstill =>
    cases hstill.symm.trans hresult
    exact absurd rfl (hunstarted token)

theorem Seen.agrees (h : Ok m) (hr : m.Compatible reading)
    {readiness : MailboxHeadReadiness} (hseen : Seen m reading readiness) : HeadAgrees m reading readiness := by
  have hbegun := h.tryBeginInflight_exact hr
  have hempty : m.queue = [] → ∀ token expired, (m.tryBeginInflight reading).1 ≠ .ok ⟨.started token, expired⟩ := by
    intro hqueue token expired hstart
    obtain ⟨item, hlive, _⟩ := hbegun.of_started hstart
    rw [live, hqueue, List.filter_nil] at hlive
    cases hlive
  cases hseen with
  | closed hqueue => exact hempty hqueue
  | empty hqueue => exact hempty hqueue
  | expired item rest hqueue hlate =>
    refine ⟨item, rest, hqueue, rfl, fun token expired hstart heq => ?_⟩
    obtain ⟨first, hlive, hmessage, _⟩ := hbegun.of_started hstart
    have hmem : first ∈ rest := by
      have hfirst : first ∈ m.live reading := hlive ▸ List.mem_cons_self
      rw [live, hqueue, List.filter_cons_of_neg (by simp [hlate])] at hfirst
      exact List.mem_of_mem_filter hfirst
    have hids := (List.nodup_append'.1 h.ids).1
    rw [hqueue, List.map_cons] at hids
    rw [hmessage] at heq
    exact (List.nodup_cons.1 hids).1 (heq ▸ List.mem_map_of_mem hmem)
  | noPermit item rest hqueue hfresh hpermit =>
    refine ⟨item, rest, hqueue, rfl, fun token expired hstart => ?_⟩
    obtain ⟨_, _, _, hfree⟩ := hbegun.of_started hstart
    omega
  | ready item rest hqueue hfresh hpermit =>
    refine ⟨item, rest, hqueue, rfl, fun hcounter => ?_⟩
    have hlive : m.live reading = item :: rest.filter fun item => !overdue reading item := by
      rw [live, hqueue, List.filter_cons_of_pos (by simp [hfresh])]
    cases hbegun with
    | exhausted _ _ hexhausted _ _ => omega
    | started first hfirst _ _ htoken =>
      have hhead : item = first := (List.cons.inj (hlive.symm.trans hfirst)).1
      exact ⟨_, _, htoken, congrArg QueuedMessage.message hhead.symm⟩
    | idle _ _ hblocked _ _ =>
      rcases hblocked with hnone | hfull
      · rw [hlive] at hnone
        cases hnone
      · omega

/-! ## Expiry at every entrance -/

theorem Displaces.perm {policy : OverflowPolicy} {message : ValidatedMessage} {live displaced kept : List QueuedMessage}
    (h : Displaces policy message live displaced kept) : (displaced ++ kept).Perm live := by
  cases policy with
  | rejectNew => rw [h.1, h.2, List.nil_append]
  | blockUntilDeadline => rw [h.1, h.2, List.nil_append]
  | latest => rw [h.1, h.2, List.append_nil]
  | coalesceByKey =>
    rw [h.1, h.2]
    exact List.filter_append_perm _ _
  | dropOldest => exact .of_eq h

/-- The messages an offer leaves behind, and the records it writes after the expired ones. -/
structure Admission (m : Mailbox) (message : ValidatedMessage) (reading : ClockReading) (report : OfferReport)
    (m' : Mailbox) (displaced kept arrived : List QueuedMessage) : Prop where
  records : report.terminals = m.expiryRecords reading
    ++ displaced.map fun item => terminalOf item (displacedReason m.limits.overflow)
  split : (displaced ++ kept).Perm (m.live reading)
  order : kept.Sublist (m.live reading)
  queue : m'.queue = kept ++ arrived
  admitted : report.outcome = .admitted →
    arrived = [⟨message, ⟨reading.domain, reading.generation, reading.now + m.limits.maxQueueAge⟩⟩]
  unadmitted : report.outcome ≠ .admitted → arrived = []

theorem Offered.admission {m' : Mailbox} {message : ValidatedMessage} {planned : PlannedOffer}
    {report : OfferReport} (houtcome : report.outcome = offerOutcome message planned)
    (h : Offered m message reading planned report.terminals m'.queue) :
    ∃ displaced kept arrived, Admission m message reading report m' displaced kept arrived := by
  have hadmitted : report.outcome = .admitted ↔ planned = .accept := by rw [houtcome, offerOutcome_admitted]
  cases h with
  | accepted displaced kept _ _ hdecided hallowed _ _ hrecords hqueue =>
    exact ⟨displaced, kept, _, hrecords, hallowed.perm, hallowed.sublist, hqueue, fun _ => rfl,
      fun hne => absurd (hadmitted.2 hdecided) hne⟩
  | refused _ _ hdecided _ hrecords hqueue =>
    exact ⟨[], m.live reading, [], by rw [hrecords, List.map_nil, List.append_nil], .refl _, .refl _,
      by rw [hqueue, List.append_nil], fun heq => absurd (hadmitted.1 heq) hdecided.ne_accept, fun _ => rfl⟩
  | turned _ hdecided _ hrecords hqueue =>
    exact ⟨[], m.live reading, [], by rw [hrecords, List.map_nil, List.append_nil], .refl _, .refl _,
      by rw [hqueue, List.append_nil], fun heq => absurd (hadmitted.1 heq) hdecided, fun _ => rfl⟩

/-- **Expiry is exact.**  At a reading of its own clock an accepting mailbox's offer, a dispatch and an expiry take out
exactly the messages whose earliest deadline has come, in queue order and with its reason; what a dispatch starts has all
its deadlines ahead; and head readiness announces exactly what a dispatch at the same reading does.  Only two things stop
them, and then nothing is taken out: a sum of the offer that leaves its machine width, and a token counter at its end where
a dispatch would start a message. -/
theorem expiry_exact (h : Reached m) (hr : m.Compatible reading) : (∀ message, m.lifecycle = .accepting →
        (∃ e, m.tryOffer message reading = (.error ⟨e, message⟩, m) ∧ ¬ Countable m message reading)
          ∨ ∃ report m' displaced kept arrived, m.tryOffer message reading = (.ok report, m')
              ∧ Admission m message reading report m' displaced kept arrived)
      ∧ Begun m reading (m.tryBeginInflight reading).1 (m.tryBeginInflight reading).2
      ∧ (∀ token expired, (m.tryBeginInflight reading).1 = .ok ⟨.started token, expired⟩ →
          ∃ item ∈ m.queue, item.message = token.message ∧ reading.now < token.message.runDeadline.deadline
            ∧ reading.now < token.message.freshUntil.deadline ∧ reading.now < item.queueAgeDeadline.deadline)
      ∧ ((m.expireQueued reading).1 = .ok (m.expiryRecords reading) ∧ (m.expireQueued reading).2.queue = m.live reading)
      ∧ ∃ readiness, m.headReadiness reading = .ok readiness ∧ HeadAgrees m reading readiness := by
  obtain ⟨hok, hshaped⟩ := h.ok
  have hbegun := hok.tryBeginInflight_exact hr
  refine ⟨fun message hopen => ?_, hbegun, fun token expired hstart => ?_, hok.expireQueued_exact hr, ?_⟩
  · rcases hok.tryOffer_exact hshaped.keys hopen message reading with ⟨e, heq⟩ | ⟨planned, report, hreport, houtcome, hoffered⟩
    · exact .inl ⟨e, heq, hok.uncountable_of_error hshaped.keys hopen hr heq⟩
    · obtain ⟨displaced, kept, arrived, hadmission⟩ := hoffered.admission houtcome
      exact .inr ⟨report, _, displaced, kept, arrived, Prod.ext hreport rfl, hadmission⟩
  · obtain ⟨item, hlive, hmessage, _⟩ := hbegun.of_started hstart
    have hitem : item ∈ m.live reading := hlive ▸ List.mem_cons_self
    obtain ⟨hmem, hfresh⟩ := List.mem_filter.1 hitem
    obtain ⟨hrun, hfreshness, hage⟩ := lt_of_not_overdue (by simpa using hfresh)
    rw [hmessage]
    exact ⟨item, hmem, rfl, hrun, hfreshness, hage⟩
  · obtain ⟨readiness, heq, hseen⟩ := hok.headReadiness_exact hr
    exact ⟨readiness, heq, hseen.agrees hok hr⟩

theorem expiry_exact_queue_age :
    (sampleHeld.expireQueued (sampleReading 6)).1 = .ok [⟨.ofNat 10, .queueAgeExpired, 2⟩]
      ∧ ∃ readiness, sampleHeld.headReadiness (sampleReading 5) = .ok readiness
          ∧ HeadAgrees sampleHeld (sampleReading 5) readiness := by
  refine ⟨?_, (expiry_exact sampleHeld_reached ⟨by decide +kernel, by decide +kernel⟩).2.2.2.2⟩
  rw [(expiry_exact sampleHeld_reached ⟨by decide +kernel, by decide +kernel⟩).2.2.2.1.1]
  decide +kernel

end Mailbox
end ParaEgox
