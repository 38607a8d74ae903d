import ParaEgox.MailboxOverflow

/-!
# MailboxShape — what the overflow policies keep true along a run

No two messages of a coalescing mailbox share a key, and a latest-wins mailbox holds at most one message: an admission
displaces what would break this, and every other operation only takes messages out.  With it the decision of an offer is
exact on every mailbox that operations reach.
-/
namespace ParaEgox
namespace Mailbox

open Check Indexed

/-! ## The invariant of the policies -/

/-- **The shape of the queue**: distinct keys in a coalescing mailbox, at most one message in a latest-wins one. -/
structure Shaped (m : Mailbox) : Prop where
  keys : m.KeysDistinct
  single : m.limits.overflow = .latest → m.queue.length ≤ 1

variable {m m' : Mailbox} {message : ValidatedMessage}

theorem Shaped.of_sublist (h : Shaped m) (hlimits : m'.limits = m.limits)
    (hsub : m'.queue.Sublist m.queue) : Shaped m' := by
  refine ⟨fun hpolicy => ?_, fun hpolicy => ?_⟩
  · rw [hlimits] at hpolicy
    exact (hsub.map _).nodup (h.keys hpolicy)
  · rw [hlimits] at hpolicy
    exact Nat.le_trans hsub.length_le (h.single hpolicy)

theorem live_sublist (m : Mailbox) (reading : ClockReading) : (m.live reading).Sublist m.queue := List.filter_sublist

theorem Displaces.sublist {policy : OverflowPolicy}
    {live displaced kept : List QueuedMessage} (h : Displaces policy message live displaced kept) : kept.Sublist live := by
  cases policy with
  | rejectNew => exact h.2 ▸ List.Sublist.refl _
  | blockUntilDeadline => exact h.2 ▸ List.Sublist.refl _
  | latest => exact h.2 ▸ List.nil_sublist _
  | coalesceByKey => exact h.2 ▸ List.filter_sublist
  | dropOldest => exact (show displaced ++ kept = live from h) ▸ List.sublist_append_right _ _

theorem Shaped.admitted (h : Shaped m) (hlimits : m'.limits = m.limits)
    {reading : ClockReading} {displaced kept : List QueuedMessage} {deadline : MonotonicDeadline}
    (hallowed : Displaces m.limits.overflow message (m.live reading) displaced kept)
    (hqueue : m'.queue = kept ++ [⟨message, deadline⟩]) : Shaped m' := by
  have hsub : kept.Sublist m.queue := hallowed.sublist.trans (live_sublist m reading)
  refine ⟨fun hpolicy => ?_, fun hpolicy => ?_⟩
  · rw [hlimits] at hpolicy
    rw [hpolicy] at hallowed
    rw [hqueue, List.map_append, List.map_singleton, List.nodup_append']
    refine ⟨(hsub.map _).nodup (h.keys hpolicy), List.nodup_singleton _, ?_⟩
    intro key hkey hnew
    rw [List.mem_singleton] at hnew
    obtain ⟨item, hitem, heq⟩ := List.mem_map.1 hkey
    rw [hallowed.2] at hitem
    have hdistinct := List.of_mem_filter hitem
    simp only [sameKey, Bool.not_eq_true', decide_eq_false_iff_not] at hdistinct
    exact hdistinct (heq.trans hnew)
  · rw [hlimits] at hpolicy
    rw [hpolicy] at hallowed
    rw [hqueue, hallowed.2]
    simp

theorem closeIfDrainedInternal_limits (m : Mailbox) : m.closeIfDrainedInternal.limits = m.limits := by
  unfold closeIfDrainedInternal
  split <;> rfl

theorem startHead_limits (m : Mailbox) (generation : Nat) (records : List TerminalRecord) :
    (m.startHead generation records).2.limits = m.limits := by
  unfold startHead
  split
  · rfl
  · dsimp only
    split
    · rfl
    · split
      · rfl
      · split <;> rfl

theorem commitDispatch_limits (m : Mailbox) (plan : DispatchPlan) : (m.commitDispatch plan).2.limits = m.limits := by
  unfold Mailbox.commitDispatch
  dsimp only
  split
  · exact startHead_limits _ _ _
  · split
    · exact closeIfDrainedInternal_limits _
    · rfl

theorem perform_limits (m : Mailbox) (op : Operation) : (m.perform op).2.limits = m.limits := by
  cases op with
  | tryOffer message reading =>
    unfold perform Mailbox.tryOffer Mailbox.offerClosed Mailbox.offerOpen
    dsimp only
    split
    · rfl
    · split <;> split <;> rfl
  | tryBeginInflight reading =>
    unfold perform Mailbox.tryBeginInflight
    dsimp only
    split
    · rfl
    · split
      · rfl
      · split
        · rfl
        · exact commitDispatch_limits _ _
  | finish token reason =>
    unfold perform Mailbox.finish
    dsimp only
    split
    · rfl
    · split
      · rfl
      · exact closeIfDrainedInternal_limits _
  | abandonAllInflightUncertain =>
    unfold perform Mailbox.abandonAllInflightUncertain
    dsimp only
    split
    · rfl
    · split
      · rfl
      · split
        · rfl
        · exact closeIfDrainedInternal_limits _
  | cancelAllQueued =>
    unfold perform Mailbox.cancelAllQueued
    dsimp only
    split
    · rfl
    · split
      · rfl
      · split
        · exact closeIfDrainedInternal_limits _
        · split
          · rfl
          · exact closeIfDrainedInternal_limits _
  | expireQueued reading =>
    unfold perform Mailbox.expireQueued
    dsimp only
    split
    · rfl
    · split
      · rfl
      · split
        · rfl
        · exact closeIfDrainedInternal_limits _
  | stopAccepting =>
    unfold perform Mailbox.stopAccepting
    dsimp only
    split
    · rfl
    · rw [closeIfDrainedInternal_limits]
      split <;> rfl
  | closeIfDrained =>
    unfold perform Mailbox.closeIfDrained
    dsimp only
    split
    · rfl
    · exact closeIfDrainedInternal_limits _

theorem observe_unadmitted {op : Operation} (h : op.message = none) (reply : Reply) :
    (observe op reply).admitted = none := by
  unfold observe
  split
  · rw [h, ite_self]
  all_goals rfl

theorem Effect.sublist {o : Observation} (h : Effect m m' o) (hadmitted : o.admitted = none) :
    m'.queue.Sublist m.queue := by
  cases h with
  | offered expired displaced kept deadline hremoval hqueue hinflight hstarted =>
    rw [hqueue, hadmitted, hremoval.kept, Option.toList_none, List.map_nil, List.append_nil]
    exact drop_sublist _ _
  | started expired item generation hremoval hinflight htoken hnone =>
    have hkept := hremoval.kept
    have hsub := drop_sublist (expired ++ []) m.queue
    rw [← hkept] at hsub
    exact (List.sublist_cons_self _ _).trans hsub
  | settled entries hreleased hreleases hqueue hstarted hnone =>
    rw [hqueue]

theorem Shaped.step {r : Run} (h : Ok r.mailbox) (hs : Shaped r.mailbox) (op : Operation) : Shaped (r.step op).mailbox := by
  have hlimits := perform_limits r.mailbox op
  have hother : op.message = none → Shaped (r.step op).mailbox := fun hnone => by
    cases h.performed op with
    | failed e herror hsound hsame hmessage htoken =>
      rw [Run.step, hsame]
      exact hs
    | succeeded herror hok heffect hmessage hexclusive =>
      exact hs.of_sublist hlimits (heffect.sublist (observe_unadmitted hnone _))
  cases op with
  | tryOffer message reading =>
    by_cases hopen : r.mailbox.lifecycle = .accepting
    · rcases h.tryOffer_exact hs.keys hopen message reading with ⟨e, heq⟩ | ⟨planned, report, _, _, hoffered⟩
      · rw [Run.step, perform, heq]
        exact hs
      · cases hoffered with
        | accepted displaced kept _ _ _ hallowed _ _ _ hqueue => exact hs.admitted hlimits hallowed hqueue
        | refused _ _ _ _ _ hqueue => exact hs.of_sublist hlimits (hqueue ▸ live_sublist _ _)
        | turned _ _ _ _ hqueue => exact hs.of_sublist hlimits (hqueue ▸ live_sublist _ _)
    · refine hs.of_sublist hlimits ?_
      rw [Run.step, perform]
      unfold Mailbox.tryOffer Mailbox.offerClosed
      rw [(validateState_ok _ ()).2 h]
      dsimp only
      rw [if_pos hopen]
      split <;> exact List.Sublist.refl _
  | tryBeginInflight reading => exact hother rfl
  | finish token reason => exact hother rfl
  | abandonAllInflightUncertain => exact hother rfl
  | cancelAllQueued => exact hother rfl
  | expireQueued reading => exact hother rfl
  | stopAccepting => exact hother rfl
  | closeIfDrained => exact hother rfl

theorem Shaped.after : ∀ {r : Run} (_ : Ok r.mailbox) (_ : Shaped r.mailbox) (ops : List Operation),
    Shaped (r.after ops).mailbox
  | _, _, hs, [] => hs
  | _, h, hs, op :: ops => Shaped.after (h.step op) (hs.step h op) ops

def Reached (m : Mailbox) : Prop :=
  ∃ reference schema messageClass spec clockDomain clockGeneration fresh ops,
    tryNewWithClass reference schema messageClass spec clockDomain clockGeneration = .ok fresh
      ∧ m = ((Run.start fresh).after ops).mailbox

theorem Reached.ok (h : Reached m) : Ok m ∧ Shaped m := by
  obtain ⟨reference, schema, messageClass, spec, clockDomain, clockGeneration, fresh, ops, hnew, rfl⟩ := h
  obtain ⟨hok, hqueue, _⟩ := Ok.freshWithClass hnew
  have hshaped : Shaped fresh := by
    refine ⟨fun _ => ?_, fun _ => ?_⟩ <;> rw [hqueue]
    · exact List.nodup_nil
    · exact Nat.zero_le _
  exact ⟨Ok.after (r := Run.start fresh) hok ops, Shaped.after (r := Run.start fresh) hok hshaped ops⟩

/-! ## The overflow policies -/

theorem Shaped.coalesced_le_one (h : Shaped m) (hpolicy : m.limits.overflow = .coalesceByKey)
    (message : ValidatedMessage) (reading : ClockReading) : ((m.live reading).filter (sameKey message)).length ≤ 1 := by
  have hnodup : (((m.live reading).filter (sameKey message)).map (·.message.coalesceKey)).Nodup :=
    ((List.filter_sublist.trans (live_sublist m reading)).map _).nodup (h.keys hpolicy)
  have hconst : ∀ key ∈ ((m.live reading).filter (sameKey message)).map (·.message.coalesceKey),
      key = message.coalesceKey := by
    intro key hkey
    obtain ⟨item, hitem, rfl⟩ := List.mem_map.1 hkey
    have hsame := List.of_mem_filter hitem
    exact of_decide_eq_true hsame
  rw [List.eq_replicate_of_mem hconst, List.nodup_replicate, List.length_map] at hnodup
  exact hnodup

structure PolicyFollowed (m : Mailbox) (message : ValidatedMessage) (reading : ClockReading) (report : OfferReport)
    (m' : Mailbox) : Prop where
  admitted : report.outcome = .admitted → ∃ displaced kept,
    Displaces m.limits.overflow message (m.live reading) displaced kept ∧ m.Room message kept
      ∧ (∀ displaced' kept', Displaces m.limits.overflow message (m.live reading) displaced' kept' →
          m.Room message kept' → displaced.length ≤ displaced'.length)
      ∧ (m.limits.overflow = .coalesceByKey → displaced.length ≤ 1)
      ∧ report.terminals = m.expiryRecords reading
          ++ displaced.map (fun item => terminalOf item (displacedReason m.limits.overflow))
      ∧ m'.queue = kept ++ [⟨message, ⟨reading.domain, reading.generation, reading.now + m.limits.maxQueueAge⟩⟩]
  unadmitted : report.outcome ≠ .admitted → report.terminals = m.expiryRecords reading ∧ m'.queue = m.live reading
  refused : m.Timely message reading → m.Passes message reading → (report.outcome ≠ .admitted ↔
    ∀ displaced kept, Displaces m.limits.overflow message (m.live reading) displaced kept → ¬ m.Room message kept)
  refusal : m.Timely message reading → m.Passes message reading → report.outcome ≠ .admitted →
    ∃ planned : PlannedOffer, planned.Refuses ∧ report.outcome = offerOutcome message planned
  late : ¬ m.Timely message reading → report.outcome = .expiredBeforeAdmission message

theorem Offered.followed (hs : Shaped m) {reading : ClockReading}
    {planned : PlannedOffer} {report : OfferReport} (houtcome : report.outcome = offerOutcome message planned)
    (h : Offered m message reading planned report.terminals m'.queue) : PolicyFollowed m message reading report m' := by
  have hadmitted : report.outcome = .admitted ↔ planned = .accept := by rw [houtcome, offerOutcome_admitted]
  cases h with
  | accepted displaced kept htimely hpasses hdecided hallowed hroom hfewest hrecords hqueue =>
    have houtcome := hadmitted.2 hdecided
    refine ⟨fun _ => ⟨displaced, kept, hallowed, hroom, hfewest, fun hpolicy => ?_, hrecords, hqueue⟩,
      fun hne => absurd houtcome hne, fun _ _ => ⟨fun hne => absurd houtcome hne, fun hfull => ?_⟩,
      fun _ _ hne => absurd houtcome hne, fun hlate => absurd htimely hlate⟩
    · rw [hpolicy] at hallowed
      rw [hallowed.1]
      exact hs.coalesced_le_one hpolicy message reading
    · exact absurd hroom (hfull displaced kept hallowed)
  | refused htimely hpasses hdecided hfull hrecords hqueue =>
    have hne : report.outcome ≠ .admitted := fun heq => hdecided.ne_accept (hadmitted.1 heq)
    exact ⟨fun heq => absurd heq hne, fun _ => ⟨hrecords, hqueue⟩, fun _ _ => ⟨fun _ => hfull, fun _ => hne⟩,
      fun _ _ _ => ⟨planned, hdecided, houtcome⟩, fun hlate => absurd htimely hlate⟩
  | turned hblocked hdecided hlate hrecords hqueue =>
    have hne : report.outcome ≠ .admitted := fun heq => hdecided (hadmitted.1 heq)
    refine ⟨fun heq => absurd heq hne, fun _ => ⟨hrecords, hqueue⟩,
      fun htimely hpasses => absurd ⟨htimely, hpasses⟩ hblocked,
      fun htimely hpasses => absurd ⟨htimely, hpasses⟩ hblocked, fun hnot => ?_⟩
    rw [houtcome, hlate hnot]
    rfl

/-- An offer to an open mailbox fails only where a sum leaves its machine width. -/
theorem Ok.uncountable_of_error (h : Ok m) (hkeys : m.KeysDistinct) (hopen : m.lifecycle = .accepting)
    {reading : ClockReading} (hr : m.Compatible reading) {e : OfferFailure}
    (heq : m.tryOffer message reading = (.error e, m')) : ¬ Countable m message reading := by
  intro hcount
  obtain ⟨plan, hplan⟩ := h.planOffer_total hkeys hr hcount
  unfold Mailbox.tryOffer at heq
  rw [(validateState_ok m ()).2 h] at heq
  dsimp only at heq
  rw [if_neg (not_not.2 hopen), Mailbox.offerOpen, hplan] at heq
  cases heq

/-- **The overflow policies, exactly.**  In a reached mailbox the keys of a coalescing queue are distinct and a
latest-wins queue holds at most one message; and an offer to an accepting one either fails, which no sum within its
machine width allows, and changes nothing, or is admitted with the smallest displacement its policy allows, exactly when
one of those leaves room. -/
theorem overflow_exact (h : Reached m) : (m.limits.overflow = .coalesceByKey →
        m.queue.Pairwise fun x y => x.message.coalesceKey ≠ y.message.coalesceKey)
      ∧ (m.limits.overflow = .latest → m.queue.length ≤ 1)
      ∧ ∀ message reading, m.lifecycle = .accepting → m.Compatible reading →
          (∃ e, m.tryOffer message reading = (.error ⟨e, message⟩, m) ∧ ¬ Countable m message reading)
            ∨ ∃ report m', m.tryOffer message reading = (.ok report, m') ∧ PolicyFollowed m message reading report m' := by
  obtain ⟨hok, hshaped⟩ := h.ok
  refine ⟨fun hpolicy => List.pairwise_map.1 (hshaped.keys hpolicy), hshaped.single, fun message reading hopen hr => ?_⟩
  rcases hok.tryOffer_exact hshaped.keys hopen message reading with ⟨e, heq⟩ | ⟨planned, report, hreport, houtcome, hoffered⟩
  · exact .inl ⟨e, heq, hok.uncountable_of_error hshaped.keys hopen hr heq⟩
  · exact .inr ⟨report, _, Prod.ext hreport rfl, hoffered.followed hshaped houtcome⟩

def sampleHeld : Mailbox := ((Run.start sampleMailbox).after [.tryOffer (sampleMessage 10) (sampleReading 1)]).mailbox

theorem sampleHeld_reached : Reached sampleHeld :=
  ⟨.ofNat 1, sampleSchema, .signal, sampleSpec, .ofNat 3, 1, sampleMailbox, _, rfl, rfl⟩

theorem overflow_exact_dropped :
    (sampleHeld.tryOffer (sampleMessage 11) (sampleReading 2)).1 = .ok ⟨.admitted, [⟨.ofNat 10, .evicted, 2⟩]⟩
      ∧ ∃ displaced kept, displaced ++ kept = sampleHeld.live (sampleReading 2)
          ∧ [(⟨.ofNat 10, .evicted, 2⟩ : TerminalRecord)]
            = sampleHeld.expiryRecords (sampleReading 2) ++ displaced.map (fun item => terminalOf item .evicted) := by
  have hresult : (sampleHeld.tryOffer (sampleMessage 11) (sampleReading 2)).1
      = .ok ⟨.admitted, [⟨.ofNat 10, .evicted, 2⟩]⟩ := by decide +kernel
  have hexact := (overflow_exact sampleHeld_reached).2.2 (sampleMessage 11) (sampleReading 2) (by decide +kernel)
    ⟨by decide +kernel, by decide +kernel⟩
  refine ⟨hresult, ?_⟩
  rcases hexact with ⟨e, heq, _⟩ | ⟨report, m', heq, hfollowed⟩
  · rw [heq] at hresult
    cases hresult
  · rw [heq] at hresult
    cases hresult
    obtain ⟨displaced, kept, hallowed, _, _, _, hterminals, _⟩ := hfollowed.admitted rfl
    exact ⟨displaced, kept, hallowed, hterminals⟩

end Mailbox
end ParaEgox
