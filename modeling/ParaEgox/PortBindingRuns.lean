import ParaEgox.PortBinding

/-!
# PortBindingRuns — a binding and its mailboxes over whole runs

A world is one binding with one mailbox under each reference.  A run is any sequence of binding calls, mailbox operations and
new mailboxes.  The route a message goes to is the active one, a route that stopped being active leaves its mailbox closed to
new messages, and a call that fails changes nothing.
-/
namespace ParaEgox

open Check Mailbox

/-! ## What a mailbox keeps -/

structure Mailbox.Follows (m m' : Mailbox) : Prop where
  reference : m'.reference = m.reference
  stays : m.lifecycle ≠ .accepting → m'.lifecycle ≠ .accepting

namespace Mailbox

theorem Follows.refl (m : Mailbox) : m.Follows m := ⟨rfl, id⟩

variable {m m' : Mailbox}

theorem Follows.trans {m'' : Mailbox} (h : m.Follows m') (h' : m'.Follows m'') : m.Follows m'' :=
  ⟨h'.reference.trans h.reference, fun hm => h'.stays (h.stays hm)⟩

theorem Follows.of_eq (href : m'.reference = m.reference) (hlife : m'.lifecycle = m.lifecycle) : m.Follows m' :=
  ⟨href, fun hm => by rw [hlife]; exact hm⟩

theorem follows_close (m : Mailbox) : m.Follows m.closeIfDrainedInternal := by
  unfold closeIfDrainedInternal
  split
  · exact ⟨rfl, fun _ => by simp⟩
  · exact .refl m

theorem follows_closed (href : m'.reference = m.reference) (hlife : m'.lifecycle = m.lifecycle) :
    m.Follows m'.closeIfDrainedInternal :=
  (Follows.of_eq href hlife).trans (follows_close m')

theorem follows_tryOffer (m : Mailbox) (message : ValidatedMessage) (reading : ClockReading) :
    m.Follows (m.tryOffer message reading).2 := by
  unfold tryOffer offerClosed offerOpen
  repeat' split
  all_goals exact .of_eq rfl rfl

theorem follows_startHead (m : Mailbox) (generation : Nat) (expired : List TerminalRecord) :
    m.Follows (m.startHead generation expired).2 := by
  unfold startHead
  dsimp only
  repeat' split
  all_goals exact .of_eq rfl rfl

theorem follows_tryBeginInflight (m : Mailbox) (reading : ClockReading) : m.Follows (m.tryBeginInflight reading).2 := by
  have hrelieved (expired queuedBytes terminals) : m.Follows (m.relieved expired queuedBytes terminals) :=
    .of_eq rfl rfl
  unfold tryBeginInflight commitDispatch
  dsimp only
  repeat' split
  · exact .refl m
  · exact .refl m
  · exact .refl m
  · exact (hrelieved ..).trans (follows_startHead ..)
  · exact (hrelieved ..).trans (follows_close _)
  · exact hrelieved ..

theorem follows_stopAccepting (m : Mailbox) : m.Follows m.stopAccepting.2 := by
  unfold stopAccepting
  split
  · exact .refl m
  · refine .trans ?_ (follows_close _)
    split
    · exact ⟨rfl, fun _ => by simp⟩
    · exact .refl m

/-- **No operation changes whose mailbox it is, and none opens a mailbox that stopped accepting.** -/
theorem follows_perform (m : Mailbox) (op : Operation) : m.Follows (m.perform op).2 := by
  cases op with
  | tryOffer message reading => exact follows_tryOffer m message reading
  | tryBeginInflight reading => exact follows_tryBeginInflight m reading
  | finish token reason =>
    dsimp only [perform]
    unfold finish
    repeat' split
    · exact .refl m
    · exact .refl m
    · exact follows_closed rfl rfl
  | abandonAllInflightUncertain =>
    dsimp only [perform]
    unfold abandonAllInflightUncertain
    repeat' split
    · exact .refl m
    · exact .refl m
    · exact .refl m
    · exact follows_closed rfl rfl
  | cancelAllQueued =>
    dsimp only [perform]
    unfold cancelAllQueued
    repeat' split
    · exact .refl m
    · exact .refl m
    · exact follows_close m
    · exact .refl m
    · exact follows_closed rfl rfl
  | expireQueued reading =>
    dsimp only [perform]
    unfold expireQueued
    repeat' split
    · exact .refl m
    · exact .refl m
    · exact .refl m
    · exact follows_closed rfl rfl
  | stopAccepting => exact follows_stopAccepting m
  | closeIfDrained =>
    dsimp only [perform]
    unfold closeIfDrained
    split
    · exact .refl m
    · exact follows_close m

theorem tryOffer_admitted {message : ValidatedMessage} {reading : ClockReading} {report : OfferReport}
    (h : (m.tryOffer message reading).1 = .ok report) (hadmitted : report.outcome = .admitted) :
    m.lifecycle = .accepting := by
  by_contra hclosed
  unfold tryOffer offerClosed at h
  rw [if_pos hclosed] at h
  split at h
  · cases h
  · split at h
    · cases h
      cases hadmitted
    · cases h

theorem stopAccepting_ok (h : m.stopAccepting.1 = .ok ()) : m.stopAccepting.2.lifecycle ≠ .accepting := by
  unfold stopAccepting at h ⊢
  split
  · rename_i e he
    rw [he] at h
    cases h
  · refine (follows_close _).stays ?_
    split
    · simp
    · assumption

theorem stopAccepting_error {e : MailboxError} (h : m.stopAccepting.1 = .error e) : m.stopAccepting.2 = m := by
  unfold stopAccepting at h ⊢
  split
  · rfl
  · rename_i u hu
    rw [hu] at h
    cases h

theorem tryOffer_error {message : ValidatedMessage} {reading : ClockReading} {failure : OfferFailure}
    (h : (m.tryOffer message reading).1 = .error failure) : (m.tryOffer message reading).2 = m := by
  have hcases : (m.tryOffer message reading).2 = m ∨ ∃ report, (m.tryOffer message reading).1 = .ok report := by
    unfold tryOffer offerClosed offerOpen
    repeat' split
    all_goals first | exact .inl rfl | exact .inr ⟨_, rfl⟩
  rcases hcases with hsame | ⟨report, hok⟩
  · exact hsame
  · rw [hok] at h
    cases h

end Mailbox
/-! ## Worlds and calls -/

structure BindingWorld where
  binding : PortBinding
  mailboxes : Ref16 → Option Mailbox

/-- A call names the mailboxes it passes.  An activation borrows its candidate and, mutably, the previous mailbox, which
are therefore two. -/
inductive BindingCall
  | create (reference : Ref16) (schema : SchemaRef) (interaction : InteractionKind) (spec : MailboxSpec)
      (clockDomain : Ref16) (clockGeneration : Nat)
  | operate (mailbox : Ref16) (op : Operation)
  | prepare (assignment : BindingAssignment) (mailbox : Ref16) (expectedActive : Option BindingEpoch)
  | activate (preparedEpoch : BindingEpoch) (candidate : Ref16) (previous : Option { r : Ref16 // r ≠ candidate })
  | rollback (preparedEpoch : BindingEpoch)
  | revoke (expectedActive : BindingEpoch) (mailbox : Ref16)
  | retireDraining (expectedDraining : BindingEpoch) (mailbox : Ref16)
  | offer (bindingId : Ref16) (bindingEpoch : BindingEpoch) (message : ValidatedMessage) (mailbox : Ref16)
      (reading : ClockReading)

inductive BindingReply
  | created (result : Except MailboxError Unit)
  | operated (reply : Reply)
  | prepared (result : Except PortBindingError BindingEpoch)
  | activated (result : Except PortBindingError BindingRoute)
  | rolledBack (result : Except PortBindingError Unit)
  | revoked (result : Except PortBindingError BindingEpoch)
  | retired (result : Except PortBindingError BindingRoute)
  | offered (result : Except BindingOfferFailure OfferReport)

def BindingReply.failed : BindingReply → Bool
  | created (.error _) | prepared (.error _) | activated (.error _) | rolledBack (.error _) | revoked (.error _)
  | retired (.error _) | offered (.error _) => true
  | operated reply => reply.error.isSome
  | created (.ok _) | prepared (.ok _) | activated (.ok _) | rolledBack (.ok _) | revoked (.ok _) | retired (.ok _)
  | offered (.ok _) => false

namespace BindingWorld

def start (bindingId : Ref16) : BindingWorld := ⟨.new bindingId, fun _ => none⟩

def put (w : BindingWorld) (r : Ref16) (m : Mailbox) : BindingWorld :=
  { w with mailboxes := Function.update w.mailboxes r (some m) }

def keep {ε α : Type} (w : BindingWorld) : Except ε (α × PortBinding) → Except ε α × BindingWorld
  | .ok (a, binding) => (.ok a, { w with binding := binding })
  | .error e => (.error e, w)

/-- The new mailbox of a `create`, under a reference that has none. -/
def createMailbox (w : BindingWorld) (r : Ref16) : Except MailboxError Mailbox → BindingReply × BindingWorld
  | .ok m => (.created (.ok ()), w.put r m)
  | .error e => (.created (.error e), w)

def activateWith (w : BindingWorld) (preparedEpoch : BindingEpoch) (candidate : Mailbox) :
    Option (Ref16 × Mailbox) → BindingReply × BindingWorld
  | none =>
    let out := w.binding.activate preparedEpoch candidate none
    (.activated out.1, { w with binding := out.2.1 })
  | some (r, previous) =>
    let out := w.binding.activate preparedEpoch candidate (some previous)
    (.activated out.1, { w with binding := out.2.1 }.put r (out.2.2.getD previous))

/-- The mailbox an activation borrows mutably, with its place; `none` when it names one that does not exist. -/
def lend (w : BindingWorld) : Option Ref16 → Option (Option (Ref16 × Mailbox))
  | none => some none
  | some r => (w.mailboxes r).map fun m => some (r, m)

/-- One call; `none` when it names a mailbox that does not exist, or creates one that does. -/
def call (w : BindingWorld) : BindingCall → Option (BindingReply × BindingWorld)
  | .create reference schema interaction spec clockDomain clockGeneration =>
    if (w.mailboxes reference).isSome then none
    else some (w.createMailbox reference (tryNew reference schema interaction spec clockDomain clockGeneration))
  | .operate r op => (w.mailboxes r).map fun m => (.operated (m.perform op).1, w.put r (m.perform op).2)
  | .prepare assignment r expectedActive => (w.mailboxes r).map fun m =>
    let out := w.keep (w.binding.prepare assignment m expectedActive)
    (.prepared out.1, out.2)
  | .activate preparedEpoch candidate previous => (w.mailboxes candidate).bind fun c =>
    (w.lend (previous.map (·.1))).map fun p => w.activateWith preparedEpoch c p
  | .rollback preparedEpoch =>
    let out := w.keep ((w.binding.rollback preparedEpoch).map fun binding => ((), binding))
    some (.rolledBack out.1, out.2)
  | .revoke expectedActive r => (w.mailboxes r).map fun m =>
    let out := w.binding.revoke expectedActive m
    (.revoked out.1, { w with binding := out.2.1 }.put r out.2.2)
  | .retireDraining expectedDraining r => (w.mailboxes r).map fun m =>
    let out := w.keep (w.binding.retireDraining expectedDraining m)
    (.retired out.1, out.2)
  | .offer bindingId bindingEpoch message r reading => (w.mailboxes r).map fun m =>
    let out := w.binding.offer bindingId bindingEpoch message m reading
    (.offered out.1, w.put r out.2)

variable {r : Ref16} {m : Mailbox} {reply : BindingReply}

theorem put_self (w : BindingWorld) (h : w.mailboxes r = some m) : w.put r m = w := by
  unfold put
  rw [← h, Function.update_eq_self]

@[simp] theorem put_same (w : BindingWorld) (r : Ref16) (m : Mailbox) : (w.put r m).mailboxes r = some m := by
  simp [put]

theorem put_other (w : BindingWorld) {r' : Ref16} (m : Mailbox) (h : r' ≠ r) :
    (w.put r m).mailboxes r' = w.mailboxes r' := by
  simp [put, h]

def Housed (w : BindingWorld) : Prop := ∀ r m, w.mailboxes r = some m → m.reference = r ∧ Ok m

/-- The mailboxes of a later world: valid, and each an earlier one followed or a new one. -/
structure Tended (w w' : BindingWorld) : Prop where
  housed : w'.Housed
  follows : ∀ r m, w.mailboxes r = some m → ∃ m', w'.mailboxes r = some m' ∧ m.Follows m'

variable {w w' : BindingWorld} {assignment : BindingAssignment} {epoch : BindingEpoch}

theorem Housed.tended_of_eq (h : w.Housed) (heq : w'.mailboxes = w.mailboxes) : Tended w w' := by
  refine ⟨fun r m hm => h r m (by rw [← heq]; exact hm), fun r m hm => ⟨m, by rw [heq]; exact hm, .refl m⟩⟩

theorem Housed.tended_put (h : w.Housed) {m' : Mailbox} (hm : w.mailboxes r = some m)
    (hok : Ok m') (hfollows : m.Follows m') (heq : w'.mailboxes = (w.put r m').mailboxes) : Tended w w' := by
  constructor
  · intro q x hx
    rw [heq] at hx
    by_cases hq : q = r
    · subst hq
      rw [put_same] at hx
      cases hx
      exact ⟨hfollows.reference.trans (h q m hm).1, hok⟩
    · rw [put_other w m' hq] at hx
      exact h q x hx
  · intro q x hx
    rw [heq]
    by_cases hq : q = r
    · subst hq
      rw [hm] at hx
      cases hx
      exact ⟨m', put_same .., hfollows⟩
    · exact ⟨x, by rw [put_other w m' hq]; exact hx, .refl x⟩

def Silent (w : BindingWorld) (route : BindingRoute) : Prop :=
  ∃ m, w.mailboxes route.assignment.mailbox = some m ∧ m.lifecycle ≠ .accepting

theorem Tended.silent (h : Tended w w') {route : BindingRoute} (hs : w.Silent route) : w'.Silent route := by
  obtain ⟨m, hm, hlife⟩ := hs
  obtain ⟨m', hm', hfollows⟩ := h.follows _ _ hm
  exact ⟨m', hm', hfollows.stays hlife⟩

/-! ## What one call does -/

def revokedEpoch : BindingReply → List Nat
  | .revoked (.ok epoch) => [epoch.value]
  | _ => []

inductive Moved (w : BindingWorld) (reply : BindingReply) (w' : BindingWorld) : Prop
  | kept (quiet : revokedEpoch reply = []) (tended : Tended w w') (binding : w'.binding = w.binding)
  | prepared (p : PreparedBindingRoute) (quiet : revokedEpoch reply = []) (tended : Tended w w')
      (draining : w.binding.draining = none) (epoch : p.route.epoch.value = w.binding.lastLiveEpoch + 1)
      (apart : ∀ a, w.binding.active = some a → a.assignment.mailbox ≠ p.route.assignment.mailbox)
      (binding : w'.binding = { w.binding with prepared := some p })
  | activated (p : PreparedBindingRoute) (quiet : revokedEpoch reply = []) (tended : Tended w w')
      (candidate : w.binding.prepared = some p) (draining : w.binding.draining = none)
      (stopped : ∀ a, w.binding.active = some a → w'.Silent a) (binding : w'.binding = w.binding.install p)
  | rolledBack (quiet : revokedEpoch reply = []) (tended : Tended w w')
      (binding : w'.binding = { w.binding with prepared := none })
  | revoked (a : BindingRoute) (epoch : BindingEpoch) (reply : reply = .revoked (.ok epoch)) (tended : Tended w w')
      (candidate : w.binding.prepared = none) (draining : w.binding.draining = none)
      (active : w.binding.active = some a) (next : epoch.value = w.binding.lastLiveEpoch + 1) (stopped : w'.Silent a)
      (binding : w'.binding =
        { w.binding with active := none, draining := some a, lastLiveEpoch := epoch.value })
  | retired (d : BindingRoute) (quiet : revokedEpoch reply = []) (tended : Tended w w')
      (draining : w.binding.draining = some d)
      (closed : ∃ m, w.mailboxes d.assignment.mailbox = some m ∧ m.lifecycle = .closed)
      (binding : w'.binding = { w.binding with draining := none })

theorem validateMailboxIdentity_reference
    (h : validateMailboxIdentity assignment m = .ok ()) : m.reference = assignment.mailbox := by
  simp only [validateMailboxIdentity, bind_ok, rejectIf_ok, exists_unit, not_not, ne_eq] at h
  exact h.1

theorem nextAfter_ok {last : Nat} (h : BindingEpoch.nextAfter last = .ok epoch) : epoch.value = last + 1 := by
  simp only [BindingEpoch.nextAfter, bind_ok, rejectIf_ok, exists_unit, pure_ok] at h
  rw [← h.2]

theorem Housed.slot (h : w.Housed) (hm : w.mailboxes r = some m)
    {assignment : BindingAssignment} (hid : validateMailboxIdentity assignment m = .ok ()) : r = assignment.mailbox :=
  (h r m hm).1.symm.trans (validateMailboxIdentity_reference hid)

theorem Housed.perform (h : w.Housed) (hm : w.mailboxes r = some m)
    (op : Operation) {w' : BindingWorld} (heq : w'.mailboxes = (w.put r (m.perform op).2).mailboxes) : Tended w w' :=
  have hok : Ok (m.perform op).2 := Ok.step (r := Run.start m) (h r m hm).2 op
  h.tended_put hm hok (follows_perform m op) heq

theorem moved_create (h : w.Housed) {reference : Ref16} {schema : SchemaRef}
    {interaction : InteractionKind} {spec : MailboxSpec} {clockDomain : Ref16} {clockGeneration : Nat}
    (hcall : w.call (.create reference schema interaction spec clockDomain clockGeneration) = some (reply, w')) :
    Moved w reply w' := by
  simp only [call] at hcall
  split at hcall
  · cases hcall
  rename_i hfree
  cases hnew : tryNew reference schema interaction spec clockDomain clockGeneration with
  | error e =>
    rw [hnew] at hcall
    cases hcall
    exact .kept rfl (h.tended_of_eq rfl) rfl
  | ok m =>
    rw [hnew] at hcall
    cases hcall
    have href : m.reference = reference := by
      simp only [tryNew, tryNewWithClass, bind_ok, rejectIf_ok, exists_unit, pure_ok] at hnew
      rw [← hnew.2.2]
    have hnone : w.mailboxes reference = none := by simpa using hfree
    refine .kept rfl ⟨fun r x hx => ?_, fun r x hx => ⟨x, ?_, .refl x⟩⟩ rfl
    · by_cases hr : r = reference
      · subst hr
        rw [put_same] at hx
        cases hx
        exact ⟨href, (Ok.fresh hnew).1⟩
      · rw [put_other w m hr] at hx
        exact h r x hx
    · by_cases hr : r = reference
      · subst hr
        rw [hnone] at hx
        cases hx
      · rw [put_other w m hr]
        exact hx

variable {expectedActive : Option BindingEpoch} {c : BindingCall}

theorem prepareCandidate_ok {b b' : PortBinding} {snapshot : MailboxSnapshot}
    (h : b.prepareCandidate assignment snapshot expectedActive = .ok (epoch, b')) :
    b.draining = none ∧ epoch.value = b.lastLiveEpoch + 1
      ∧ (∀ a, b.active = some a → a.assignment.mailbox ≠ assignment.mailbox)
      ∧ b' = { b with prepared := some ⟨⟨assignment, epoch⟩, expectedActive⟩ } := by
  simp only [PortBinding.prepareCandidate, bind_ok, whenSome_ok, rejectIf_ok, exists_unit, pure_ok, Prod.mk.injEq] at h
  obtain ⟨hactive, hdraining, _, _, hnext, rfl, rfl⟩ := h
  exact ⟨by simpa using hdraining, nextAfter_ok hnext, hactive, rfl⟩

theorem prepare_ok {b b' : PortBinding} (h : b.prepare assignment m expectedActive = .ok (epoch, b')) :
    b' = b ∨ b.draining = none ∧ epoch.value = b.lastLiveEpoch + 1
      ∧ (∀ a, b.active = some a → a.assignment.mailbox ≠ assignment.mailbox)
      ∧ b' = { b with prepared := some ⟨⟨assignment, epoch⟩, expectedActive⟩ } := by
  simp only [PortBinding.prepare, bind_ok, rejectIf_ok, exists_unit, wrapErr_ok] at h
  obtain ⟨_, _, _, _, _, snapshot, _, _, h⟩ := h
  split at h
  · split at h
    · cases h
      exact .inl rfl
    · exact .inr (prepareCandidate_ok h)
  · exact .inr (prepareCandidate_ok h)

theorem moved_prepare (h : w.Housed) {assignment : BindingAssignment}
    (hcall : w.call (.prepare assignment r expectedActive) = some (reply, w')) : Moved w reply w' := by
  obtain ⟨m, hm, hcall⟩ := Option.map_eq_some_iff.1 hcall
  cases hprepare : w.binding.prepare assignment m expectedActive with
  | error e =>
    rw [hprepare] at hcall
    cases hcall
    exact .kept rfl (h.tended_of_eq rfl) rfl
  | ok out =>
    rw [hprepare] at hcall
    cases hcall
    rcases prepare_ok hprepare with hsame | ⟨hdraining, hepoch, hapart, hb⟩
    · exact .kept rfl (h.tended_of_eq rfl) hsame
    · exact .prepared ⟨⟨assignment, out.1⟩, expectedActive⟩ rfl (h.tended_of_eq rfl) hdraining hepoch hapart hb

theorem stopRoute_cases (route : BindingRoute) (m : Mailbox) :
    (∃ e, PortBinding.stopRoute route m = (.error e, m)) ∨
      validateMailboxIdentity route.assignment m = .ok () ∧ m.stopAccepting.1 = .ok ()
        ∧ PortBinding.stopRoute route m = (.ok (), m.stopAccepting.2) := by
  unfold PortBinding.stopRoute
  cases hid : validateMailboxIdentity route.assignment m with
  | error e => exact .inl ⟨e, rfl⟩
  | ok u =>
    cases hstop : m.stopAccepting.1 with
    | error e => exact .inl ⟨.mailbox e, by rw [stopAccepting_error hstop]; rfl⟩
    | ok u => exact .inr ⟨rfl, rfl, rfl⟩

theorem stopPrevious_cases (active : Option BindingRoute) (previous : Option Mailbox) :
    (∃ e, PortBinding.stopPrevious active previous = (.error e, previous)) ∨
      (active = none ∧ previous = none ∧ PortBinding.stopPrevious active previous = (.ok (), none)) ∨
      ∃ a m, active = some a ∧ previous = some m ∧ validateMailboxIdentity a.assignment m = .ok ()
        ∧ m.stopAccepting.1 = .ok () ∧ PortBinding.stopPrevious active previous = (.ok (), some m.stopAccepting.2) := by
  cases active with
  | none =>
    cases previous with
    | none => exact .inr (.inl ⟨rfl, rfl, rfl⟩)
    | some m => exact .inl ⟨_, rfl⟩
  | some a =>
    cases previous with
    | none => exact .inl ⟨_, rfl⟩
    | some m =>
      rcases stopRoute_cases a m with ⟨e, he⟩ | ⟨hid, hstop, hok⟩
      · refine .inl ⟨e, ?_⟩
        simp only [PortBinding.stopPrevious, he]
      · refine .inr (.inr ⟨a, m, rfl, rfl, hid, hstop, ?_⟩)
        simp only [PortBinding.stopPrevious, hok]

/-- **An activation changes nothing or installs the prepared route** after the previous mailbox stopped accepting. -/
theorem activate_cases (b : PortBinding) (epoch : BindingEpoch) (candidate : Mailbox) (previous : Option Mailbox) :
    (∃ result, b.activate epoch candidate previous = (result, b, previous)) ∨
      ∃ p, b.prepared = some p ∧ b.draining = none
        ∧ (b.activate epoch candidate previous).1 = .ok p.route
        ∧ (b.activate epoch candidate previous).2.1 = b.install p
        ∧ ((b.active = none ∧ previous = none) ∨ ∃ a m, b.active = some a ∧ previous = some m
          ∧ validateMailboxIdentity a.assignment m = .ok () ∧ m.stopAccepting.1 = .ok ()
          ∧ (b.activate epoch candidate previous).2.2 = some m.stopAccepting.2) := by
  cases hp : b.prepared with
  | none => exact .inl ⟨_, by simp only [PortBinding.activate, hp]; rfl⟩
  | some p =>
    cases hcheck : b.checkCandidate p epoch candidate with
    | error e => exact .inl ⟨.error e, by simp only [PortBinding.activate, hp, hcheck]⟩
    | ok u =>
      have hchecked := hcheck
      simp only [PortBinding.checkCandidate, bind_ok, rejectIf_ok, exists_unit] at hchecked
      obtain ⟨_, _, hdraining, _⟩ := hchecked
      have hdraining : b.draining = none := by simpa using hdraining
      rcases stopPrevious_cases b.active previous with ⟨e, he⟩ | ⟨hactive, hnone, hok⟩ | ⟨a, m, ha, hm, hida, hstop, hok⟩
      · exact .inl ⟨.error e, by simp only [PortBinding.activate, hp, hcheck, he]⟩
      · refine .inr ⟨p, rfl, hdraining, ?_, ?_, .inl ⟨hactive, hnone⟩⟩
        · simp only [PortBinding.activate, hp, hcheck, hok]
        · simp only [PortBinding.activate, hp, hcheck, hok]
      · refine .inr ⟨p, rfl, hdraining, ?_, ?_, .inr ⟨a, m, ha, hm, hida, hstop, ?_⟩⟩
        · simp only [PortBinding.activate, hp, hcheck, hok]
        · simp only [PortBinding.activate, hp, hcheck, hok]
        · simp only [PortBinding.activate, hp, hcheck, hok]

theorem moved_activate (h : w.Housed) {preparedEpoch : BindingEpoch} {candidate : Ref16}
    {previous : Option { r : Ref16 // r ≠ candidate }}
    (hcall : w.call (.activate preparedEpoch candidate previous) = some (reply, w')) : Moved w reply w' := by
  simp only [call, Option.bind_eq_some_iff, Option.map_eq_some_iff] at hcall
  obtain ⟨c, hc, lent, hlent, hcall⟩ := hcall
  cases previous with
  | none =>
    cases hlent
    simp only [activateWith] at hcall
    cases hcall
    rcases activate_cases w.binding preparedEpoch c none with
      ⟨result, hsame⟩ | ⟨p, hp, hdraining, _, hinstall, hprevious⟩
    · exact .kept rfl (h.tended_of_eq rfl) (by rw [hsame])
    · rcases hprevious with ⟨hnone, _⟩ | ⟨_, _, _, hm, _⟩
      · refine .activated p rfl (h.tended_of_eq rfl) hp hdraining (fun a ha => ?_) hinstall
        rw [hnone] at ha
        cases ha
      · cases hm
  | some r =>
    simp only [Option.map_some, lend, Option.map_eq_some_iff] at hlent
    obtain ⟨previous, hprev, rfl⟩ := hlent
    simp only [activateWith] at hcall
    cases hcall
    rcases activate_cases w.binding preparedEpoch c (some previous) with
      ⟨result, hsame⟩ | ⟨p, hp, hdraining, _, hinstall, hprevious⟩
    · refine .kept rfl (h.tended_of_eq ?_) (by rw [hsame]; rfl)
      rw [hsame]
      exact congrArg mailboxes (put_self w hprev)
    · rcases hprevious with ⟨_, hnone⟩ | ⟨a, m, ha, hm, hida, hstop, hleft⟩
      · cases hnone
      · cases hm
        have hslot : r.1 = a.assignment.mailbox := h.slot hprev hida
        refine .activated p rfl (h.perform hprev .stopAccepting ?_) hp hdraining (fun x hx => ?_) ?_
        · rw [hleft]
          rfl
        · rw [ha] at hx
          cases hx
          refine ⟨previous.stopAccepting.2, ?_, stopAccepting_ok hstop⟩
          rw [← hslot, hleft]
          exact put_same ..
        · exact hinstall

theorem moved_revoke (h : w.Housed) {expectedActive : BindingEpoch}
    (hcall : w.call (.revoke expectedActive r) = some (reply, w')) : Moved w reply w' := by
  obtain ⟨m, hm, hcall⟩ := Option.map_eq_some_iff.1 hcall
  cases hcheck : w.binding.checkRevoke expectedActive m with
  | error e =>
    simp only [PortBinding.revoke, hcheck] at hcall
    cases hcall
    exact .kept rfl (h.tended_of_eq (congrArg mailboxes (put_self w hm))) rfl
  | ok out =>
    obtain ⟨a, epoch⟩ := out
    have hchecked := hcheck
    simp only [PortBinding.checkRevoke, bind_ok, rejectIf_ok, exists_unit, okOr_ok, pure_ok, Prod.mk.injEq] at hchecked
    obtain ⟨hprepared, hdraining, _, hactive, _, hid, _, hnext, rfl, rfl⟩ := hchecked
    cases hstop : m.stopAccepting.1 with
    | error e =>
      simp only [PortBinding.revoke, hcheck, hstop] at hcall
      cases hcall
      refine .kept rfl (h.tended_of_eq ?_) rfl
      rw [stopAccepting_error hstop]
      exact congrArg mailboxes (put_self w hm)
    | ok u =>
      simp only [PortBinding.revoke, hcheck, hstop] at hcall
      cases hcall
      refine .revoked _ _ rfl (h.perform hm .stopAccepting rfl) (by simpa using hprepared) (by simpa using hdraining)
        hactive (nextAfter_ok hnext) ⟨m.stopAccepting.2, ?_, stopAccepting_ok hstop⟩ rfl
      rw [← h.slot hm hid]
      exact put_same ..

theorem moved_retireDraining (h : w.Housed) {expectedDraining : BindingEpoch}
    (hcall : w.call (.retireDraining expectedDraining r) = some (reply, w')) :
    Moved w reply w' := by
  obtain ⟨m, hm, hcall⟩ := Option.map_eq_some_iff.1 hcall
  cases hretire : w.binding.retireDraining expectedDraining m with
  | error e =>
    rw [hretire] at hcall
    cases hcall
    exact .kept rfl (h.tended_of_eq rfl) rfl
  | ok out =>
    rw [hretire] at hcall
    cases hcall
    simp only [PortBinding.retireDraining, bind_ok, rejectIf_ok, exists_unit, okOr_ok, wrapErr_ok, pure_ok] at hretire
    obtain ⟨d, hd, _, hid, snapshot, hsnapshot, hclosed, rfl⟩ := hretire
    have hlife : snapshot.lifecycle = m.lifecycle := by
      simp only [Mailbox.snapshot, bind_ok, pure_ok] at hsnapshot
      obtain ⟨_, _, _, _, _, _, _, _, rfl⟩ := hsnapshot
      rfl
    refine .retired d rfl (h.tended_of_eq rfl) hd ⟨m, ?_, ?_⟩ rfl
    · rw [← h.slot hm hid]
      exact hm
    · rw [← hlife]
      exact not_not.1 hclosed

theorem moved_offer (h : w.Housed) {bindingId : Ref16} {bindingEpoch : BindingEpoch}
    {message : ValidatedMessage} {reading : ClockReading}
    (hcall : w.call (.offer bindingId bindingEpoch message r reading) = some (reply, w')) : Moved w reply w' := by
  obtain ⟨m, hm, hcall⟩ := Option.map_eq_some_iff.1 hcall
  cases hcheck : w.binding.checkOffer bindingId bindingEpoch m with
  | error e =>
    simp only [PortBinding.offer, hcheck] at hcall
    cases hcall
    exact .kept rfl (h.tended_of_eq (congrArg mailboxes (put_self w hm))) rfl
  | ok u =>
    simp only [PortBinding.offer, hcheck] at hcall
    cases hcall
    exact .kept rfl (h.perform hm (.tryOffer message reading) rfl) rfl

theorem Housed.moved (h : w.Housed) (hcall : w.call c = some (reply, w')) : Moved w reply w' := by
  cases c with
  | create reference schema interaction spec clockDomain clockGeneration => exact moved_create h hcall
  | operate r op =>
    obtain ⟨m, hm, hcall⟩ := Option.map_eq_some_iff.1 hcall
    cases hcall
    exact .kept rfl (h.perform hm op rfl) rfl
  | prepare assignment r expectedActive => exact moved_prepare h hcall
  | activate preparedEpoch candidate previous => exact moved_activate h hcall
  | rollback preparedEpoch =>
    simp only [call, Option.some.injEq] at hcall
    cases hrollback : w.binding.rollback preparedEpoch with
    | error e =>
      rw [hrollback] at hcall
      cases hcall
      exact .kept rfl (h.tended_of_eq rfl) rfl
    | ok b =>
      rw [hrollback] at hcall
      cases hcall
      simp only [PortBinding.rollback, bind_ok, rejectIf_ok, exists_unit, okOr_ok, pure_ok] at hrollback
      obtain ⟨p, _, _, rfl⟩ := hrollback
      exact .rolledBack rfl (h.tended_of_eq rfl) rfl
  | revoke expectedActive r => exact moved_revoke h hcall
  | retireDraining expectedDraining r => exact moved_retireDraining h hcall
  | offer bindingId bindingEpoch message r reading => exact moved_offer h hcall

/-! ## Calls that fail, and messages that are admitted -/

theorem keep_error {ε α : Type} (w : BindingWorld) (x : Except ε (α × PortBinding)) :
    (∃ a, (w.keep x).1 = .ok a) ∨ (w.keep x).2 = w := by
  cases x with
  | error e => exact .inr rfl
  | ok out => exact .inl ⟨out.1, rfl⟩

theorem Housed.failed (h : w.Housed)
    (hcall : w.call c = some (reply, w')) (hfailed : reply.failed = true) : w' = w := by
  cases c with
  | create reference schema interaction spec clockDomain clockGeneration =>
    simp only [call] at hcall
    split at hcall
    · cases hcall
    cases hnew : tryNew reference schema interaction spec clockDomain clockGeneration <;> rw [hnew] at hcall <;>
      cases hcall
    · rfl
    · cases hfailed
  | operate r op =>
    obtain ⟨m, hm, hcall⟩ := Option.map_eq_some_iff.1 hcall
    cases hcall
    cases (h r m hm).2.performed op with
    | failed e herror hsound hsame hmessage htoken =>
      rw [hsame]
      exact put_self w hm
    | succeeded herror hok heffect hmessage hexclusive =>
      rw [BindingReply.failed, herror] at hfailed
      cases hfailed
  | prepare assignment r expectedActive =>
    obtain ⟨m, hm, hcall⟩ := Option.map_eq_some_iff.1 hcall
    cases hcall
    rcases keep_error w (w.binding.prepare assignment m expectedActive) with ⟨a, ha⟩ | hsame
    · rw [ha] at hfailed
      cases hfailed
    · exact hsame
  | activate preparedEpoch candidate previous =>
    simp only [call, Option.bind_eq_some_iff, Option.map_eq_some_iff] at hcall
    obtain ⟨m, hm, lent, hlent, hcall⟩ := hcall
    cases lent with
    | none =>
      simp only [activateWith] at hcall
      cases hcall
      rcases activate_cases w.binding preparedEpoch m none with ⟨result, hsame⟩ | ⟨p, _, _, hok, _⟩
      · rw [hsame]
      · rw [hok] at hfailed
        cases hfailed
    | some place =>
      obtain ⟨r, x⟩ := place
      have hx : w.mailboxes r = some x := by
        cases previous with
        | none => cases hlent
        | some q =>
          simp only [Option.map_some, lend, Option.map_eq_some_iff] at hlent
          obtain ⟨y, hy, heq⟩ := hlent
          cases heq
          exact hy
      simp only [activateWith] at hcall
      cases hcall
      rcases activate_cases w.binding preparedEpoch m (some x) with ⟨result, hsame⟩ | ⟨p, _, _, hok, _⟩
      · rw [hsame]
        exact put_self w hx
      · rw [hok] at hfailed
        cases hfailed
  | rollback preparedEpoch =>
    simp only [call, Option.some.injEq] at hcall
    cases hcall
    rcases keep_error w ((w.binding.rollback preparedEpoch).map fun binding => ((), binding)) with ⟨a, ha⟩ | hsame
    · rw [ha] at hfailed
      cases hfailed
    · exact hsame
  | revoke expectedActive r =>
    obtain ⟨m, hm, hcall⟩ := Option.map_eq_some_iff.1 hcall
    cases hcall
    unfold PortBinding.revoke at hfailed ⊢
    cases hcheck : w.binding.checkRevoke expectedActive m with
    | error e => exact put_self w hm
    | ok out =>
      cases hstop : m.stopAccepting.1 with
      | error e =>
        simp only [stopAccepting_error hstop]
        exact put_self w hm
      | ok u =>
        simp only [hcheck, hstop] at hfailed
        cases hfailed
  | retireDraining expectedDraining r =>
    obtain ⟨m, hm, hcall⟩ := Option.map_eq_some_iff.1 hcall
    cases hcall
    rcases keep_error w (w.binding.retireDraining expectedDraining m) with ⟨a, ha⟩ | hsame
    · rw [ha] at hfailed
      cases hfailed
    · exact hsame
  | offer bindingId bindingEpoch message r reading =>
    obtain ⟨m, hm, hcall⟩ := Option.map_eq_some_iff.1 hcall
    cases hcall
    unfold PortBinding.offer at hfailed ⊢
    cases hcheck : w.binding.checkOffer bindingId bindingEpoch m with
    | error e => exact put_self w hm
    | ok u =>
      cases hoffer : (m.tryOffer message reading).1 with
      | error failure =>
        simp only [tryOffer_error hoffer]
        exact put_self w hm
      | ok report =>
        simp only [hcheck, hoffer] at hfailed
        cases hfailed

/-- The call is an offer through the binding, and its message was admitted to the mailbox under this reference. -/
def Admits (c : BindingCall) (reply : BindingReply) (epoch : BindingEpoch) (r : Ref16) : Prop :=
  ∃ bindingId message reading report, c = .offer bindingId epoch message r reading ∧ reply = .offered (.ok report)
    ∧ report.outcome = .admitted

/-- **A message is admitted only through the active route**: into its mailbox, which accepts, under its epoch. -/
theorem Housed.admits (h : w.Housed)
    (hcall : w.call c = some (reply, w')) {epoch : BindingEpoch} (hadmits : Admits c reply epoch r) :
    (∃ route, w.binding.active = some route ∧ route.epoch = epoch ∧ route.assignment.mailbox = r)
      ∧ ∃ m, w.mailboxes r = some m ∧ m.lifecycle = .accepting := by
  obtain ⟨bindingId, message, reading, report, rfl, rfl, hadmitted⟩ := hadmits
  simp only [call, Option.map_eq_some_iff, Prod.mk.injEq] at hcall
  obtain ⟨m, hm, hreply, rfl⟩ := hcall
  have hreply : (w.binding.offer bindingId epoch message m reading).1 = .ok report := by
    injection hreply
  unfold PortBinding.offer at hreply
  cases hcheck : w.binding.checkOffer bindingId epoch m with
  | error e =>
    rw [hcheck] at hreply
    cases hreply
  | ok u =>
    simp only [hcheck, wrapErr_ok] at hreply
    simp only [PortBinding.checkOffer, bind_ok, rejectIf_ok, exists_unit, okOr_ok, ne_eq, not_not] at hcheck
    obtain ⟨_, route, hroute, hepoch, hid⟩ := hcheck
    exact ⟨⟨route, hroute, hepoch, (h.slot hm hid).symm⟩, m, hm, tryOffer_admitted hreply hadmitted⟩

end BindingWorld

/-! ## Runs -/

/-- A world with the routes that became active and the live epochs of activations and revocations, in order. -/
structure BindingRun where
  world : BindingWorld
  routes : List BindingRoute
  liveEpochs : List Nat

namespace BindingRun

open BindingWorld

def start (bindingId : Ref16) : BindingRun := ⟨.start bindingId, [], []⟩

def becameActive (w w' : BindingWorld) : List BindingRoute :=
  match w'.binding.active with
  | some route => if w.binding.active = some route then [] else [route]
  | none => []

def record (run : BindingRun) (reply : BindingReply) (w' : BindingWorld) : BindingRun :=
  ⟨w', run.routes ++ becameActive run.world w',
    run.liveEpochs ++ ((becameActive run.world w').map (·.epoch.value) ++ revokedEpoch reply)⟩

def step (run : BindingRun) (c : BindingCall) : BindingRun :=
  match run.world.call c with
  | some (reply, w') => run.record reply w'
  | none => run

def after (run : BindingRun) (calls : List BindingCall) : BindingRun := calls.foldl step run

/-- **The invariant of every run.** -/
structure Inv (run : BindingRun) : Prop where
  housed : run.world.Housed
  active : ∀ a, run.world.binding.active = some a → a ∈ run.routes
  draining : ∀ d, run.world.binding.draining = some d → d ∈ run.routes
  prepared : ∀ p, run.world.binding.prepared = some p → run.world.binding.draining = none
    ∧ p.route.epoch.value = run.world.binding.lastLiveEpoch + 1
    ∧ ∀ a, run.world.binding.active = some a → a.assignment.mailbox ≠ p.route.assignment.mailbox
  apart : ∀ a d, run.world.binding.active = some a → run.world.binding.draining = some d →
    a.assignment.mailbox ≠ d.assignment.mailbox
  stopped : ∀ route ∈ run.routes, run.world.binding.active ≠ some route → run.world.Silent route
  epochs : run.liveEpochs.Pairwise (· < ·)
  last : ∀ e ∈ run.liveEpochs, e ≤ run.world.binding.lastLiveEpoch
  routes : (run.routes.map (·.epoch.value)).Sublist run.liveEpochs

variable {run : BindingRun}

theorem Inv.epoch_le (h : run.Inv) {route : BindingRoute} (hroute : route ∈ run.routes) :
    route.epoch.value ≤ run.world.binding.lastLiveEpoch :=
  h.last _ (h.routes.subset (List.mem_map_of_mem hroute))

variable {w' : BindingWorld} {reply : BindingReply}

theorem becameActive_same {w : BindingWorld} (h : w'.binding.active = w.binding.active) : becameActive w w' = [] := by
  unfold becameActive
  rw [h]
  split
  · rename_i route hroute
    rw [if_pos hroute]
  · rfl

theorem record_quiet (run : BindingRun) (hquiet : revokedEpoch reply = [])
    (hactive : w'.binding.active = run.world.binding.active) :
    run.record reply w' = ⟨w', run.routes, run.liveEpochs⟩ := by
  simp [record, hquiet, becameActive_same hactive]

theorem Inv.stopped_tended (h : run.Inv) (htended : Tended run.world w') :
    ∀ route ∈ run.routes, run.world.binding.active ≠ some route → w'.Silent route :=
  fun route hroute hactive => htended.silent (h.stopped route hroute hactive)

theorem pairwise_snoc {epochs : List Nat} {last e : Nat} (h : epochs.Pairwise (· < ·)) (hlast : ∀ x ∈ epochs, x ≤ last)
    (he : last < e) : (epochs ++ [e]).Pairwise (· < ·) := by
  refine List.pairwise_append.2 ⟨h, List.pairwise_singleton .., fun x hx y hy => ?_⟩
  rw [List.mem_singleton.1 hy]
  exact Nat.lt_of_le_of_lt (hlast x hx) he

variable {c : BindingCall}

/-- **The invariant is kept by every call.** -/
theorem Inv.record (h : run.Inv) (hcall : run.world.call c = some (reply, w')) : (run.record reply w').Inv := by
  cases h.housed.moved hcall with
  | kept hquiet htended hb =>
    rw [record_quiet run hquiet (by rw [hb])]
    have hstopped := h.stopped_tended htended
    rw [← hb] at hstopped
    exact ⟨htended.housed, hb ▸ h.active, hb ▸ h.draining, hb ▸ h.prepared, hb ▸ h.apart, hstopped, h.epochs, hb ▸ h.last,
      h.routes⟩
  | prepared p hquiet htended hdraining hepoch hapart hb =>
    rw [record_quiet run hquiet (by rw [hb])]
    refine ⟨htended.housed, ?_, ?_, ?_, ?_, ?_, h.epochs, ?_, h.routes⟩ <;> dsimp only <;> rw [hb]
    · exact h.active
    · exact h.draining
    · rintro _ ⟨⟩
      exact ⟨hdraining, hepoch, hapart⟩
    · exact h.apart
    · exact h.stopped_tended htended
    · exact h.last
  | rolledBack hquiet htended hb =>
    rw [record_quiet run hquiet (by rw [hb])]
    refine ⟨htended.housed, ?_, ?_, ?_, ?_, ?_, h.epochs, ?_, h.routes⟩ <;> dsimp only <;> rw [hb]
    · exact h.active
    · exact h.draining
    · rintro _ ⟨⟩
    · exact h.apart
    · exact h.stopped_tended htended
    · exact h.last
  | retired d hquiet htended hdraining hclosed hb =>
    rw [record_quiet run hquiet (by rw [hb])]
    refine ⟨htended.housed, ?_, ?_, ?_, ?_, ?_, h.epochs, ?_, h.routes⟩ <;> dsimp only <;> rw [hb]
    · exact h.active
    · rintro _ ⟨⟩
    · exact fun p hp => ⟨rfl, (h.prepared p hp).2⟩
    · rintro _ _ _ ⟨⟩
    · exact h.stopped_tended htended
    · exact h.last
  | revoked a epoch hreply htended hcandidate hdraining hactive hnext hstopped hb =>
    have hnone : becameActive run.world w' = [] := by
      unfold becameActive
      rw [hb]
    have hrecord : run.record reply w' = ⟨w', run.routes, run.liveEpochs ++ [epoch.value]⟩ := by
      simp [BindingRun.record, hnone, hreply, revokedEpoch]
    rw [hrecord]
    have hmem := h.active a hactive
    refine ⟨htended.housed, ?_, ?_, ?_, ?_, ?_, ?_, ?_, ?_⟩ <;> dsimp only <;> try rw [hb]
    · rintro _ ⟨⟩
    · rintro _ ⟨⟩
      exact hmem
    · rintro p hp
      rw [hcandidate] at hp
      cases hp
    · rintro _ _ ⟨⟩
    · intro route hroute _
      by_cases heq : route = a
      · rw [heq]
        exact hstopped
      · exact h.stopped_tended htended route hroute fun hr => heq (Option.some.inj (hr.symm.trans hactive))
    · exact pairwise_snoc h.epochs h.last (by omega)
    · intro e he
      dsimp only
      rcases List.mem_append.1 he with he | he
      · have := h.last e he
        omega
      · rw [List.mem_singleton.1 he]
    · exact h.routes.trans (List.sublist_append_left ..)
  | activated p hquiet htended hcandidate hdraining hstopped hb =>
    obtain ⟨_, hepoch, hapart⟩ := h.prepared p hcandidate
    have hfresh : run.world.binding.active ≠ some p.route := fun hactive => by
      have := h.epoch_le (h.active _ hactive)
      omega
    have hbecame : becameActive run.world w' = [p.route] := by
      unfold becameActive
      rw [hb]
      exact if_neg hfresh
    have hrecord : run.record reply w' = ⟨w', run.routes ++ [p.route], run.liveEpochs ++ [p.route.epoch.value]⟩ := by
      simp [BindingRun.record, hbecame, hquiet]
    rw [hrecord]
    refine ⟨htended.housed, ?_, ?_, ?_, ?_, ?_, ?_, ?_, ?_⟩ <;> dsimp only <;> try rw [hb]
    · rintro _ ⟨⟩
      exact List.mem_append_right _ (List.mem_singleton_self _)
    · exact fun d hd => List.mem_append_left _ (h.active d hd)
    · rintro _ ⟨⟩
    · rintro _ d ⟨⟩ hd
      exact (hapart d hd).symm
    · intro route hroute hne
      rcases List.mem_append.1 hroute with hroute | hroute
      · by_cases heq : run.world.binding.active = some route
        · exact hstopped route heq
        · exact h.stopped_tended htended route hroute heq
      · rw [List.mem_singleton.1 hroute] at hne
        exact absurd rfl hne
    · exact pairwise_snoc h.epochs h.last (by omega)
    · intro e he
      change e ≤ p.route.epoch.value
      rcases List.mem_append.1 he with he | he
      · have := h.last e he
        omega
      · rw [List.mem_singleton.1 he]
    · rw [List.map_append]
      exact h.routes.append (.refl _)

theorem Inv.step (h : run.Inv) (c : BindingCall) : (run.step c).Inv := by
  unfold BindingRun.step
  split
  · rename_i reply w' hcall
    exact h.record hcall
  · exact h

theorem Inv.after : ∀ {run : BindingRun} (_ : run.Inv) (calls : List BindingCall), (run.after calls).Inv
  | _, h, [] => h
  | _, h, c :: calls => (h.step c).after calls

theorem inv_start (bindingId : Ref16) : (start bindingId).Inv where
  housed := fun r m hm => by cases hm
  active := fun a ha => by cases ha
  draining := fun d hd => by cases hd
  prepared := fun p hp => by cases hp
  apart := fun a d ha => by cases ha
  stopped := fun route hroute => by cases hroute
  epochs := .nil
  last := fun e he => by cases he
  routes := .slnil

theorem Inv.retired (h : run.Inv)
    (hcall : run.world.call c = some (reply, w')) {d : BindingRoute} (hd : run.world.binding.draining = some d)
    (hgone : w'.binding.draining ≠ some d) :
    ∃ m, run.world.mailboxes d.assignment.mailbox = some m ∧ m.lifecycle = .closed ∧ m.queue = [] ∧ m.inflight = [] := by
  cases h.housed.moved hcall with
  | kept _ _ hb => exact absurd (hb ▸ hd) hgone
  | prepared _ _ _ _ _ _ hb => exact absurd (hb ▸ hd) hgone
  | activated _ _ _ _ hdraining =>
    rw [hdraining] at hd
    cases hd
  | rolledBack _ _ hb => exact absurd (hb ▸ hd) hgone
  | revoked _ _ _ _ _ hdraining =>
    rw [hdraining] at hd
    cases hd
  | retired d' _ _ hdraining hclosed =>
    rw [hdraining] at hd
    cases hd
    obtain ⟨m, hm, hlife⟩ := hclosed
    exact ⟨m, hm, hlife, (h.housed _ m hm).2.closed hlife⟩

theorem Inv.gone (h : run.Inv)
    (hcall : run.world.call c = some (reply, w')) {route : BindingRoute} (hroute : route ∈ run.routes)
    (hactive : run.world.binding.active ≠ some route) : w'.binding.active ≠ some route := by
  cases h.housed.moved hcall with
  | kept _ _ hb => exact hb ▸ hactive
  | prepared _ _ _ _ _ _ hb => exact hb ▸ hactive
  | rolledBack _ _ hb => exact hb ▸ hactive
  | retired _ _ _ _ _ hb => exact hb ▸ hactive
  | revoked _ _ _ _ _ _ _ _ _ hb =>
    rw [hb]
    exact fun heq => by cases heq
  | activated p _ _ hcandidate _ _ hb =>
    rw [hb]
    intro heq
    have hle := h.epoch_le hroute
    have hepoch := (h.prepared p hcandidate).2.1
    rw [show p.route = route from Option.some.inj heq] at hepoch
    omega

structure RoutesSafely (run : BindingRun) (c : BindingCall) (reply : BindingReply) (next : BindingWorld) : Prop where
  /-- A message goes to the mailbox of the active route whose epoch the caller presented. -/
  admitted : ∀ epoch r, Admits c reply epoch r →
    ∃ route, run.world.binding.active = some route ∧ route.epoch = epoch ∧ route.assignment.mailbox = r
  /-- An offer touches no other mailbox and not the binding. -/
  offered : ∀ bindingId epoch message r reading, c = .offer bindingId epoch message r reading →
    next.binding = run.world.binding ∧ ∀ other, other ≠ r → next.mailboxes other = run.world.mailboxes other
  /-- The mailbox of a route that stopped being active does not accept; the route is not active again and no message
  is admitted to its mailbox. -/
  stopped : ∀ route ∈ run.routes, run.world.binding.active ≠ some route →
    run.world.Silent route ∧ next.binding.active ≠ some route
      ∧ ∀ epoch, ¬ Admits c reply epoch route.assignment.mailbox
  epochs : run.liveEpochs.Pairwise (· < ·)
  distinct : run.routes.Pairwise fun a b => a.epoch ≠ b.epoch
  apart : ∀ a d, run.world.binding.active = some a → run.world.binding.draining = some d →
    a.assignment.mailbox ≠ d.assignment.mailbox
  /-- A draining route is given up only when its mailbox is closed and empty. -/
  retired : ∀ d, run.world.binding.draining = some d → next.binding.draining ≠ some d →
    ∃ m, run.world.mailboxes d.assignment.mailbox = some m ∧ m.lifecycle = .closed ∧ m.queue = [] ∧ m.inflight = []
  /-- A call that returns an error changes nothing. -/
  failed : reply.failed = true → next = run.world

/-- **A binding routes safely over whole runs**: after any calls, whatever the next call is. -/
theorem port_binding_routes_safely (bindingId : Ref16) (calls : List BindingCall) (c : BindingCall)
    (reply : BindingReply) (next : BindingWorld)
    (hcall : ((start bindingId).after calls).world.call c = some (reply, next)) :
    RoutesSafely ((start bindingId).after calls) c reply next := by
  have h : ((start bindingId).after calls).Inv := (inv_start bindingId).after calls
  refine ⟨?_, ?_, ?_, h.epochs, ?_, h.apart, fun d => h.retired hcall, h.housed.failed hcall⟩
  · exact fun epoch r hadmits => (h.housed.admits hcall hadmits).1
  · rintro id epoch message r reading rfl
    simp only [call, Option.map_eq_some_iff, Prod.mk.injEq] at hcall
    obtain ⟨m, hm, _, rfl⟩ := hcall
    exact ⟨rfl, fun other hother => put_other _ _ hother⟩
  · intro route hroute hactive
    have hsilent := h.stopped route hroute hactive
    refine ⟨hsilent, h.gone hcall hroute hactive, fun epoch hadmits => ?_⟩
    obtain ⟨m, hm, hlife⟩ := hsilent
    obtain ⟨m', hm', hopen⟩ := (h.housed.admits hcall hadmits).2
    rw [hm] at hm'
    cases hm'
    exact hlife hopen
  · have hpairs := List.pairwise_map.1 (h.epochs.sublist h.routes)
    exact hpairs.imp fun hlt heq => Nat.ne_of_lt hlt (congrArg BindingEpoch.value heq)

/-! ## A replaced route -/

def samplePort (direction : PortDirection) : PortSpec := ⟨direction, sampleSchema, .signal, .one⟩

def sampleAssignment (mailbox : Nat) : BindingAssignment :=
  ⟨.ofNat 5, .ofNat 6, .ofNat 7, samplePort .outgoing, .ofNat 8, .ofNat mailbox, samplePort .incoming, .ofNat mailbox,
    ⟨8, 5, .dropOldest⟩, sampleSpec⟩

/-- Two mailboxes; the first route is replaced by the second, drains empty and retires. -/
def sampleCalls : List BindingCall :=
  [.create (.ofNat 1) sampleSchema .signal sampleSpec (.ofNat 3) 1,
    .create (.ofNat 2) sampleSchema .signal sampleSpec (.ofNat 3) 1,
    .prepare (sampleAssignment 1) (.ofNat 1) none, .activate ⟨1, Nat.one_pos⟩ (.ofNat 1) none,
    .prepare (sampleAssignment 2) (.ofNat 2) (some ⟨1, Nat.one_pos⟩),
    .activate ⟨2, Nat.two_pos⟩ (.ofNat 2) (some ⟨.ofNat 1, by decide⟩)]

theorem port_binding_routes_safely_replaced :
    ((start (.ofNat 5)).after sampleCalls).liveEpochs = [1, 2]
      ∧ ∃ reply next, ((start (.ofNat 5)).after sampleCalls).world.call
          (.offer (.ofNat 5) ⟨2, by decide⟩ (sampleMessage 10) (.ofNat 2) (sampleReading 1)) = some (reply, next)
        ∧ Admits (.offer (.ofNat 5) ⟨2, by decide⟩ (sampleMessage 10) (.ofNat 2) (sampleReading 1)) reply
          ⟨2, by decide⟩ (.ofNat 2)
        ∧ RoutesSafely ((start (.ofNat 5)).after sampleCalls)
          (.offer (.ofNat 5) ⟨2, by decide⟩ (sampleMessage 10) (.ofNat 2) (sampleReading 1)) reply next := by
  refine ⟨by decide +kernel, _, _, rfl, ?_, port_binding_routes_safely _ _ _ _ _ rfl⟩
  exact ⟨_, _, _, ⟨.admitted, []⟩, rfl, congrArg BindingReply.offered (by decide +kernel), rfl⟩

end BindingRun
end ParaEgox
