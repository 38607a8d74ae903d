import ParaEgox.MailboxStep

/-!
# MailboxRuns — whole runs of a mailbox

A run is a list of operations from a fresh mailbox, with the history its callers saw.  Every state of a run satisfies the
invariant; a failed operation leaves no trace; and every admission event is, at every moment, at one place: the queue, the
in-flight ledger, or one terminal record.
-/
namespace ParaEgox
namespace Mailbox

open Check Indexed

structure History where
  admitted : List ValidatedMessage
  started : List InflightToken
  terminals : List TerminalRecord

def History.add (h : History) (o : Observation) : History :=
  ⟨h.admitted ++ o.admitted.toList, h.started ++ o.started.toList, h.terminals ++ o.terminals⟩

structure Run where
  mailbox : Mailbox
  history : History

def Run.start (m : Mailbox) : Run := ⟨m, ⟨[], [], []⟩⟩

def Run.step (r : Run) (op : Operation) : Run :=
  ⟨(r.mailbox.perform op).2, r.history.add (observe op (r.mailbox.perform op).1)⟩

def Run.after (r : Run) (ops : List Operation) : Run := ops.foldl Run.step r

theorem Run.after_append (r : Run) (xs ys : List Operation) : r.after (xs ++ ys) = (r.after xs).after ys :=
  List.foldl_append

/-! ## A drop-oldest mailbox of one place -/

def sampleSpec : MailboxSpec where
  capacityItems := 1
  capacityBytes := 8
  maxQueueAge := 5
  maxInflight := 1
  maxRetainedBytes := 8
  overflow := .dropOldest
  capacityItems_le := one_le_u32Max
  capacityBytes_le := by decide
  maxInflight_le := one_le_u32Max
  maxRetainedBytes_le := by decide

def sampleSchema : SchemaRef := ⟨.ofNat 2, 1, .ofNat 9, Check.one32⟩

def sampleMailbox : Mailbox :=
  ⟨.ofNat 1, sampleSchema, .signal, .ofNat 3, 1, sampleSpec, .accepting, [], [], 0, 0, 0, .zero, .zero⟩

def sampleMessage (id : Nat) : ValidatedMessage :=
  ⟨.ofNat id, sampleSchema, .signal, none, ⟨.ofNat 3, 1, 20⟩, ⟨.ofNat 3, 1, 30⟩, ⟨[7, 9], by decide⟩⟩

def sampleReading (now : Nat) : ClockReading := ⟨.ofNat 3, 1, now⟩

def sampleOperations : List Operation :=
  [.tryOffer (sampleMessage 10) (sampleReading 1), .tryOffer (sampleMessage 11) (sampleReading 2),
    .tryBeginInflight (sampleReading 3)]

/-! ## The invariant along a run -/

variable {m : Mailbox} {r : Run} {p : Placement} {reference clockDomain : Ref16} {schema : SchemaRef} {spec : MailboxSpec}
  {clockGeneration : Nat} {interaction : InteractionKind} {expired : List Nat} {o : Observation} {m' : Mailbox}

theorem Ok.freshWithClass {messageClass : MessageClass}
    (h : tryNewWithClass reference schema messageClass spec clockDomain clockGeneration = .ok m) :
    Ok m ∧ m.queue = [] ∧ m.inflight = [] := by
  simp only [tryNewWithClass, bind_ok, rejectIf_ok, exists_unit, pure_ok] at h
  obtain ⟨_, _, rfl⟩ := h
  refine ⟨?_, rfl, rfl⟩
  refine ⟨rfl, Nat.zero_le _, Nat.zero_le _, Nat.zero_le _, rfl, rfl, Nat.zero_le _, Nat.zero_le _, ?_, ?_, rfl, ?_⟩
  · exact fun item hitem => absurd hitem List.not_mem_nil
  · exact List.nodup_nil
  · exact fun hlife => by cases hlife

theorem Ok.fresh (h : tryNew reference schema interaction spec clockDomain clockGeneration = .ok m) :
    Ok m ∧ m.queue = [] ∧ m.inflight = [] := Ok.freshWithClass h

theorem Ok.step (h : Ok r.mailbox) (op : Operation) : Ok (r.step op).mailbox := by
  cases h.performed op with
  | failed e herror hsound hsame hmessage htoken =>
    rw [Run.step, hsame]
    exact h
  | succeeded herror hok heffect hmessage hexclusive => exact hok

theorem Ok.after : ∀ {r : Run} (_ : Ok r.mailbox) (ops : List Operation), Ok (r.after ops).mailbox
  | _, h, [] => h
  | _, h, op :: ops => (h.step op).after ops

/-- **Every reached mailbox is valid, and no operation on it reports an inconsistency.** -/
theorem mailbox_state_valid {m : Mailbox}
    (hnew : tryNew reference schema interaction spec clockDomain clockGeneration = .ok m) (ops : List Operation) :
    ((Run.start m).after ops).mailbox.validateState = .ok ()
      ∧ Ok ((Run.start m).after ops).mailbox
      ∧ ∀ op, (((Run.start m).after ops).mailbox.perform op).1.error ≠ some .stateInconsistent := by
  have hok : Ok ((Run.start m).after ops).mailbox := Ok.after (r := Run.start m) (Ok.fresh hnew).1 ops
  refine ⟨(validateState_ok _ ()).2 hok, hok, fun op => ?_⟩
  cases hok.performed op with
  | failed e herror hsound hsame hmessage htoken =>
    rw [herror]
    exact fun he => hsound (Option.some.inj he)
  | succeeded herror hok' heffect hmessage hexclusive =>
    rw [herror]
    exact fun he => by cases he

theorem mailbox_state_valid_displaced :
    ((Run.start sampleMailbox).after sampleOperations).history.terminals = [⟨.ofNat 10, .evicted, 2⟩]
      ∧ ((Run.start sampleMailbox).after sampleOperations).mailbox.validateState = .ok () :=
  have hnew : tryNew (.ofNat 1) sampleSchema .signal sampleSpec (.ofNat 3) 1 = .ok sampleMailbox := rfl
  ⟨by decide +kernel, (mailbox_state_valid hnew sampleOperations).1⟩

/-- **A failed operation leaves the mailbox as it was** and hands back exactly the message or token it was given. -/
theorem mailbox_error_atomic {m : Mailbox}
    (hnew : tryNew reference schema interaction spec clockDomain clockGeneration = .ok m) (ops : List Operation)
    (op : Operation) (e : MailboxError)
    (herror : (((Run.start m).after ops).mailbox.perform op).1.error = some e) :
    (((Run.start m).after ops).mailbox.perform op).2 = ((Run.start m).after ops).mailbox
      ∧ (((Run.start m).after ops).mailbox.perform op).1.returned = op.message
      ∧ (((Run.start m).after ops).mailbox.perform op).1.token = op.token := by
  have hok : Ok ((Run.start m).after ops).mailbox := Ok.after (r := Run.start m) (Ok.fresh hnew).1 ops
  cases hok.performed op with
  | failed e' herror' hsound hsame hmessage htoken => exact ⟨hsame, hmessage, htoken⟩
  | succeeded hnone hok' heffect hmessage hexclusive =>
    rw [hnone] at herror
    cases herror

theorem mailbox_error_atomic_foreign_clock :
    (((Run.start sampleMailbox).after sampleOperations).mailbox.perform
      (.tryOffer (sampleMessage 12) ⟨.ofNat 4, 1, 4⟩)).1.error = some .clockDomainMismatch
      ∧ (((Run.start sampleMailbox).after sampleOperations).mailbox.perform
          (.tryOffer (sampleMessage 12) ⟨.ofNat 4, 1, 4⟩)).1.returned = some (sampleMessage 12) :=
  have hnew : tryNew (.ofNat 1) sampleSchema .signal sampleSpec (.ofNat 3) 1 = .ok sampleMailbox := rfl
  have herror : (((Run.start sampleMailbox).after sampleOperations).mailbox.perform
      (.tryOffer (sampleMessage 12) ⟨.ofNat 4, 1, 4⟩)).1.error = some .clockDomainMismatch := by decide +kernel
  ⟨herror, (mailbox_error_atomic hnew sampleOperations _ _ herror).2.1⟩

/-! ## Ownership -/

structure Placement where
  queued : List Nat
  flying : List Nat
  ended : List Nat
  started : List Nat

structure Placement.Extends (p p' : Placement) : Prop where
  ended : p.ended <+: p'.ended
  started : p.started <+: p'.started

def Carries (admitted : List ValidatedMessage) (event : Nat) (id : Ref16) (bytes : Nat) : Prop :=
  ∃ message, admitted[event]? = some message ∧ id = message.id ∧ bytes = message.charged

structure Placed (r : Run) (p : Placement) : Prop where
  once : (p.queued ++ p.flying ++ p.ended).Perm (List.range r.history.admitted.length)
  queue : List.Forall₂ (fun e item => r.history.admitted[e]? = some item.message) p.queued r.mailbox.queue
  inflight : ∃ entries, entries.Perm r.mailbox.inflight
    ∧ List.Forall₂ (fun e a => Carries r.history.admitted e a.messageId a.payloadBytes) p.flying entries
  terminals : List.Forall₂ (fun e t => Carries r.history.admitted e t.messageId t.releasedBytes) p.ended
    r.history.terminals
  tokens : List.Forall₂ (fun e t => r.history.admitted[e]? = some t.message) p.started r.history.started
  order : (p.started ++ p.queued).Pairwise (· < ·)
  dispatched : ∀ e ∈ p.flying, e ∈ p.started

theorem lookup_append {admitted : List ValidatedMessage} {e : Nat} {message : ValidatedMessage}
    (h : admitted[e]? = some message) (more : List ValidatedMessage) : (admitted ++ more)[e]? = some message := by
  rw [List.getElem?_append_left (List.getElem?_eq_some_iff.1 h).1, h]

theorem Carries.append {admitted : List ValidatedMessage} {e : Nat} {id : Ref16} {bytes : Nat}
    (h : Carries admitted e id bytes) (more : List ValidatedMessage) : Carries (admitted ++ more) e id bytes := by
  obtain ⟨message, hlookup, hid, hbytes⟩ := h
  exact ⟨message, lookup_append hlookup more, hid, hbytes⟩

theorem Placed.queued_lt (h : Placed r p) : ∀ e ∈ p.queued, e < r.history.admitted.length := by
  intro e he
  have hmem : e ∈ p.queued ++ p.flying ++ p.ended := List.mem_append_left _ (List.mem_append_left _ he)
  exact List.mem_range.1 (h.once.subset hmem)

theorem Placed.started_lt (h : Placed r p) : ∀ e ∈ p.started, e < r.history.admitted.length := by
  intro e he
  have hlookup : ∀ e ∈ p.started, ∃ t : InflightToken, r.history.admitted[e]? = some t.message := by
    have htokens := h.tokens
    generalize p.started = events at htokens
    generalize r.history.started = tokens at htokens
    induction htokens with
    | nil => exact fun e he => absurd he List.not_mem_nil
    | cons hx _ ih =>
      intro e he
      rcases List.mem_cons.1 he with rfl | he
      · exact ⟨_, hx⟩
      · exact ih e he
  obtain ⟨t, ht⟩ := hlookup e he
  exact (List.getElem?_eq_some_iff.1 ht).1

theorem Placed.removed (h : Placed r p) {kept : List QueuedMessage} {displaced : List Nat}
    {records : List TerminalRecord} (hr : Removal r.mailbox kept expired displaced records) :
    List.Forall₂ (fun e (t : TerminalRecord) => Carries r.history.admitted e t.messageId t.releasedBytes)
        (pick expired p.queued ++ pick displaced p.queued) records
      ∧ List.Forall₂ (fun e item => r.history.admitted[e]? = some item.message) (drop (expired ++ displaced) p.queued) kept := by
  refine ⟨?_, ?_⟩
  · refine forall₂_trans (fun e item t hlookup hreleases => ?_)
      (List.rel_append (forall₂_pickFrom _ h.queue 0) (forall₂_pickFrom _ h.queue 0)) hr.releases
    exact ⟨item.message, hlookup, hreleases.1, hreleases.2⟩
  · rw [hr.kept]
    exact forall₂_pickFrom _ h.queue 0

theorem Placed.perm_removed (h : Placed r p) {displaced : List Nat} (hdisjoint : ∀ i ∈ expired, i ∉ displaced) :
    (drop (expired ++ displaced) p.queued ++ p.flying ++ (p.ended ++ (pick expired p.queued ++ pick displaced p.queued))).Perm
      (List.range r.history.admitted.length) := by
  refine List.Perm.trans ?_ h.once
  rw [List.perm_iff_count]
  intro e
  have hsplit := (pick_pick_drop_perm hdisjoint p.queued).count_eq e
  simp only [List.count_append] at hsplit ⊢
  omega

theorem Placed.offered (h : Placed r p)
    {displaced : List Nat} {kept : List QueuedMessage} {deadline : MonotonicDeadline}
    (hr : Removal r.mailbox kept expired displaced o.terminals)
    (hqueue : m'.queue = kept ++ o.admitted.toList.map (⟨·, deadline⟩)) (hinflight : m'.inflight = r.mailbox.inflight)
    (hstarted : o.started = none) : ∃ p', Placed ⟨m', r.history.add o⟩ p' ∧ p.Extends p' := by
  obtain ⟨hrecords, hkept⟩ := h.removed hr
  have hperm := h.perm_removed hr.disjoint
  have hsublist : (p.started ++ drop (expired ++ displaced) p.queued).Sublist (p.started ++ p.queued) :=
    List.Sublist.append_left (drop_sublist _ _) _
  have horder := h.order.sublist hsublist
  obtain ⟨entries, hentries, hflying⟩ := h.inflight
  have hterminals := List.rel_append h.terminals hrecords
  cases hadmitted : o.admitted with
  | none =>
    rw [hadmitted, Option.toList_none, List.map_nil, List.append_nil] at hqueue
    have hhistory : (r.history.add o).admitted = r.history.admitted := by
      simp [History.add, hadmitted]
    refine ⟨⟨drop (expired ++ displaced) p.queued, p.flying, p.ended ++ (pick expired p.queued ++ pick displaced p.queued),
      p.started⟩, ?_, ⟨List.prefix_append _ _, List.prefix_refl _⟩⟩
    refine ⟨?_, ?_, ⟨entries, by rw [hinflight]; exact hentries, ?_⟩, ?_, ?_, horder, h.dispatched⟩ <;> rw [hhistory]
    · exact hperm
    · rw [hqueue]
      exact hkept
    · exact hflying
    · exact hterminals
    · simpa [History.add, hstarted] using h.tokens
  | some message =>
    rw [hadmitted, Option.toList_some, List.map_singleton] at hqueue
    have hhistory : (r.history.add o).admitted = r.history.admitted ++ [message] := by
      simp [History.add, hadmitted]
    refine ⟨⟨drop (expired ++ displaced) p.queued ++ [r.history.admitted.length], p.flying,
      p.ended ++ (pick expired p.queued ++ pick displaced p.queued), p.started⟩, ?_,
      ⟨List.prefix_append _ _, List.prefix_refl _⟩⟩
    refine ⟨?_, ?_, ⟨entries, by rw [hinflight]; exact hentries, ?_⟩, ?_, ?_, ?_, h.dispatched⟩
    · rw [hhistory, List.length_append, List.length_singleton, List.range_succ, List.perm_iff_count]
      intro e
      have hcount := hperm.count_eq e
      simp only [List.count_append] at hcount ⊢
      omega
    · rw [hhistory, hqueue]
      refine List.rel_append (hkept.imp fun e item hlookup => lookup_append hlookup _) (.cons ?_ .nil)
      simp
    · rw [hhistory]
      exact hflying.imp fun e a ha => ha.append _
    · rw [hhistory]
      exact hterminals.imp fun e t ht => ht.append _
    · rw [hhistory]
      simpa [History.add, hstarted] using h.tokens.imp fun e t ht => lookup_append ht _
    · rw [← List.append_assoc]
      refine List.pairwise_append.2 ⟨horder, List.pairwise_singleton _ _, fun e he n hn => ?_⟩
      rw [List.mem_singleton.1 hn]
      rcases List.mem_append.1 he with he | he
      · exact h.started_lt e he
      · exact h.queued_lt e ((drop_sublist _ _).subset he)

theorem Placed.headStarted (h : Placed r p) {item : QueuedMessage} {generation : Nat}
    (hr : Removal r.mailbox (item :: m'.queue) expired [] o.terminals)
    (hinflight : m'.inflight = Keyed.insert InflightAccounting.messageId
      ⟨item.message.id, generation, item.message.charged⟩ r.mailbox.inflight)
    (htoken : o.started = some ⟨r.mailbox.reference, generation, item.message⟩) (hadmitted : o.admitted = none) :
    ∃ p', Placed ⟨m', r.history.add o⟩ p' ∧ p.Extends p' := by
  obtain ⟨hrecords, hkept⟩ := h.removed hr
  have hperm := h.perm_removed hr.disjoint
  have hhistory : (r.history.add o).admitted = r.history.admitted := by
    simp [History.add, hadmitted]
  have hsublist : (p.started ++ drop (expired ++ []) p.queued).Sublist (p.started ++ p.queued) :=
    List.Sublist.append_left (drop_sublist _ _) _
  have horder := h.order.sublist hsublist
  generalize drop (expired ++ []) p.queued = events at hkept hperm horder
  generalize hqueue : item :: m'.queue = queue at hkept
  cases hkept with
  | nil => cases hqueue
  | @cons head _ rest _ hhead hrest =>
    cases hqueue
    obtain ⟨entries, hentries, hflying⟩ := h.inflight
    refine ⟨⟨rest, head :: p.flying, p.ended ++ (pick expired p.queued ++ pick [] p.queued), p.started ++ [head]⟩, ?_,
      ⟨List.prefix_append _ _, List.prefix_append _ _⟩⟩
    refine ⟨?_, ?_, ⟨⟨item.message.id, generation, item.message.charged⟩ :: entries, ?_, ?_⟩, ?_, ?_, ?_, ?_⟩
    · rw [hhistory]
      refine List.Perm.trans ?_ hperm
      rw [List.perm_iff_count]
      intro e
      simp only [List.count_append, List.count_cons]
      omega
    · rw [hhistory]
      exact hrest
    · rw [hinflight]
      exact (hentries.cons _).trans (Keyed.insert_perm _ _ _).symm
    · rw [hhistory]
      exact .cons ⟨item.message, hhead, rfl, rfl⟩ hflying
    · rw [hhistory]
      exact List.rel_append h.terminals hrecords
    · rw [hhistory]
      have htokens := List.rel_append h.tokens (.cons (a := head) (b := ⟨r.mailbox.reference, generation, item.message⟩)
        hhead .nil)
      simpa [History.add, htoken] using htokens
    · rw [List.append_assoc]
      exact horder
    · intro e he
      rcases List.mem_cons.1 he with rfl | he
      · exact List.mem_append_right _ (List.mem_singleton.2 rfl)
      · exact List.mem_append_left _ (h.dispatched e he)

theorem Placed.settled (h : Placed r p)
    {entries : List InflightAccounting} (hreleased : (entries ++ m'.inflight).Perm r.mailbox.inflight)
    (hreleases : List.Forall₂ (fun a r => r.messageId = a.messageId ∧ r.releasedBytes = a.payloadBytes) entries
      o.terminals)
    (hqueue : m'.queue = r.mailbox.queue) (hstarted : o.started = none) (hadmitted : o.admitted = none) :
    ∃ p', Placed ⟨m', r.history.add o⟩ p' ∧ p.Extends p' := by
  have hhistory : (r.history.add o).admitted = r.history.admitted := by
    simp [History.add, hadmitted]
  obtain ⟨all, hall, hflying⟩ := h.inflight
  -- the events are put in the order of the entries: first those that leave
  have hcomp : (Relation.Comp (List.Forall₂ fun e a => Carries r.history.admitted e a.messageId a.payloadBytes) List.Perm)
      p.flying (entries ++ m'.inflight) := ⟨all, hflying, hall.trans hreleased.symm⟩
  rw [List.forall₂_comp_perm_eq_perm_comp_forall₂] at hcomp
  obtain ⟨events, hevents, hsplit⟩ := hcomp
  have hleft := List.forall₂_take_append _ _ _ hsplit
  have hright := List.forall₂_drop_append _ _ _ hsplit
  rw [← List.take_append_drop entries.length events] at hevents
  generalize events.take entries.length = left at hleft hevents
  generalize events.drop entries.length = right at hright hevents
  refine ⟨⟨p.queued, right, p.ended ++ left, p.started⟩, ?_, ⟨List.prefix_append _ _, List.prefix_refl _⟩⟩
  refine ⟨?_, ?_, ⟨m'.inflight, .refl _, ?_⟩, ?_, ?_, h.order, fun e he => ?_⟩
  · rw [hhistory]
    refine List.Perm.trans ?_ h.once
    rw [List.perm_iff_count]
    intro e
    have hcount := hevents.count_eq e
    simp only [List.count_append] at hcount ⊢
    omega
  · rw [hhistory, hqueue]
    exact h.queue
  · rw [hhistory]
    exact hright
  · rw [hhistory]
    refine List.rel_append h.terminals (forall₂_trans (fun e a t hcarries hrelease => ?_) hleft hreleases)
    obtain ⟨message, hlookup, hid, hbytes⟩ := hcarries
    exact ⟨message, hlookup, hrelease.1.trans hid, hrelease.2.trans hbytes⟩
  · rw [hhistory]
    simpa [History.add, hstarted] using h.tokens
  · exact h.dispatched e (hevents.symm.subset (List.mem_append_right _ he))

theorem Placed.effect (h : Placed r p)
    (heffect : Effect r.mailbox m' o) : ∃ p', Placed ⟨m', r.history.add o⟩ p' ∧ p.Extends p' := by
  cases heffect with
  | offered expired displaced kept deadline hremoval hqueue hinflight hstarted =>
    exact h.offered hremoval hqueue hinflight hstarted
  | started expired item generation hremoval hinflight htoken hadmitted =>
    exact h.headStarted hremoval hinflight htoken hadmitted
  | settled entries hreleased hreleases hqueue hstarted hadmitted =>
    exact h.settled hreleased hreleases hqueue hstarted hadmitted

theorem observe_error {op : Operation} {reply : Reply} {e : MailboxError} (h : reply.error = some e) :
    observe op reply = ⟨none, none, []⟩ := by
  cases reply with
  | offered result => cases result <;> first | rfl | cases h
  | dispatched result => cases result <;> first | rfl | cases h
  | finished result => cases result <;> first | rfl | cases h
  | released result => cases result <;> first | rfl | cases h
  | stopped result => rfl
  | checked result => rfl

theorem Placed.step (h : Placed r p) (hok : Ok r.mailbox) (op : Operation) :
    ∃ p', Placed (r.step op) p' ∧ p.Extends p' := by
  cases hok.performed op with
  | failed e herror hsound hsame hmessage htoken =>
    have heffect : Effect r.mailbox (r.mailbox.perform op).2 (observe op (r.mailbox.perform op).1) := by
      rw [observe_error herror, hsame]
      exact effect_still rfl rfl rfl
    exact h.effect heffect
  | succeeded herror hok' heffect hmessage hexclusive => exact h.effect heffect

theorem Placed.queued_eq (h : Placed r p) :
    p.queued = (List.range r.history.admitted.length).filter fun e => decide (e ∉ p.started ∧ e ∉ p.ended) := by
  have hqueued : p.queued.Pairwise (· < ·) := (List.pairwise_append.1 h.order).2.1
  have hcross := (List.pairwise_append.1 h.order).2.2
  have hnodup := h.once.nodup_iff.2 List.nodup_range
  refine List.Perm.eq_of_pairwise (fun a b _ _ hab hba => absurd hab (Nat.lt_asymm hba)) hqueued
    (List.pairwise_lt_range.filter _) ?_
  refine (List.perm_ext_iff_of_nodup (hqueued.imp Nat.ne_of_lt) (List.nodup_range.filter _)).2 fun e => ?_
  simp only [List.mem_filter, List.mem_range, decide_eq_true_eq]
  constructor
  · intro he
    refine ⟨h.queued_lt e he, fun hs => absurd (hcross e hs e he) (Nat.lt_irrefl e), fun hend => ?_⟩
    rw [List.append_assoc, List.nodup_append'] at hnodup
    exact hnodup.2.2 he (List.mem_append_right _ hend)
  · rintro ⟨hlt, hs, hend⟩
    have hmem := h.once.symm.subset (List.mem_range.2 hlt)
    rcases List.mem_append.1 hmem with hmem | hmem
    · rcases List.mem_append.1 hmem with hmem | hmem
      · exact hmem
      · exact absurd (h.dispatched e hmem) hs
    · exact absurd hmem hend

theorem Placement.Extends.refl (p : Placement) : p.Extends p := ⟨List.prefix_refl _, List.prefix_refl _⟩

theorem placed_fresh (hqueue : m.queue = []) (hinflight : m.inflight = []) :
    Placed (Run.start m) ⟨[], [], [], []⟩ := by
  refine ⟨.refl _, ?_, ⟨[], ?_, .nil⟩, .nil, .nil, .nil, fun e he => absurd he List.not_mem_nil⟩
  · rw [Run.start, hqueue]
    exact .nil
  · rw [Run.start, hinflight]

theorem Placed.along (h : Placed r p) (hok : Ok r.mailbox) (ops : List Operation) :
    ∃ place : Nat → Placement, ∀ k, Placed (r.after (ops.take k)) (place k) ∧ (place k).Extends (place (k + 1)) := by
  have hstep : ∀ k (x : { q // Placed (r.after (ops.take k)) q }),
      ∃ y : { q // Placed (r.after (ops.take (k + 1))) q }, x.1.Extends y.1 := by
    intro k x
    rw [List.take_add_one, Run.after_append]
    cases ops[k]? with
    | none => exact ⟨⟨x.1, x.2⟩, .refl _⟩
    | some op =>
      obtain ⟨q, hq, hextends⟩ := x.2.step (hok.after (ops.take k)) op
      exact ⟨⟨q, hq⟩, hextends⟩
  choose next hnext using hstep
  exact ⟨fun k => (Nat.rec ⟨p, h⟩ next k : { q // Placed (r.after (ops.take k)) q }).1,
    fun k => ⟨(Nat.rec ⟨p, h⟩ next k : { q // Placed (r.after (ops.take k)) q }).2, hnext k _⟩⟩

/-- **Every admission event is at one place at every moment of a run.**  The placements of the prefixes agree on the
terminal records and tokens already given out; the queue holds, in order of admission, the events that neither started nor
ended; and a message that is not admitted goes back to its caller. -/
theorem mailbox_ownership_conserved {m : Mailbox}
    (hnew : tryNew reference schema interaction spec clockDomain clockGeneration = .ok m) (ops : List Operation) :
    (∃ place : Nat → Placement, ∀ k,
      Placed ((Run.start m).after (ops.take k)) (place k) ∧ (place k).Extends (place (k + 1))
        ∧ (place k).queued = (List.range ((Run.start m).after (ops.take k)).history.admitted.length).filter
            fun e => decide (e ∉ (place k).started ∧ e ∉ (place k).ended))
      ∧ ∀ op message, op.message = some message →
          let reply := (((Run.start m).after ops).mailbox.perform op).1
          (observe op reply).admitted = some message ∧ reply.returned = none
            ∨ (observe op reply).admitted = none ∧ reply.returned = some message := by
  obtain ⟨hfresh, hqueue, hinflight⟩ := Ok.fresh hnew
  refine ⟨?_, fun op message hmessage => ?_⟩
  · obtain ⟨place, hplace⟩ := (placed_fresh hqueue hinflight).along hfresh ops
    exact ⟨place, fun k => ⟨(hplace k).1, (hplace k).2, (hplace k).1.queued_eq⟩⟩
  · have hok : Ok ((Run.start m).after ops).mailbox := Ok.after (r := Run.start m) hfresh ops
    dsimp only
    cases hok.performed op with
    | failed e herror hsound hsame hreturned htoken =>
      rw [observe_error herror, hreturned, hmessage]
      exact .inr ⟨rfl, rfl⟩
    | succeeded herror hok' heffect hreturned hexclusive =>
      rw [hmessage] at hreturned
      cases hadmitted : (observe op (((Run.start m).after ops).mailbox.perform op).1).admitted with
      | none =>
        rw [hadmitted, Option.none_or] at hreturned
        exact .inr ⟨rfl, hreturned⟩
      | some message' =>
        rw [hadmitted, Option.some_or] at hreturned
        rw [hadmitted] at hexclusive
        exact .inl ⟨hreturned, hexclusive.resolve_left (by simp)⟩

theorem mailbox_ownership_conserved_displaced :
    ((Run.start sampleMailbox).after sampleOperations).history.admitted = [sampleMessage 10, sampleMessage 11]
      ∧ ∃ place : Nat → Placement, ∀ k, Placed ((Run.start sampleMailbox).after (sampleOperations.take k)) (place k) := by
  have hnew : tryNew (.ofNat 1) sampleSchema .signal sampleSpec (.ofNat 3) 1 = .ok sampleMailbox := rfl
  obtain ⟨⟨place, hplace⟩, _⟩ := mailbox_ownership_conserved hnew sampleOperations
  exact ⟨by decide +kernel, place, fun k => (hplace k).1⟩

end Mailbox
end ParaEgox
