import ParaEgox.ThreadDomainSlots
import Mathlib.Data.List.Nodup

/-!
# ThreadDomainOwner — the owner's steps

Submitting, fencing, taking a completion and shutting down keep `Good`.
-/
namespace ParaEgox.ThreadDomain

variable {T : Type} {d d' : Domain T}

/-! ## Updates -/

theorem goto_self (d : Domain T) (w : Nat) (p : Place T) :
    (d.goto w p).threads w = { d.threads w with place := p } := Function.update_self ..

theorem goto_of_ne (d : Domain T) {v w : Nat} (p : Place T) (h : v ≠ w) : (d.goto w p).threads v = d.threads v :=
  Function.update_of_ne h ..

theorem post_self (d : Domain T) (w : Nat) (c : Option WorkerCommand) :
    (d.post w c).threads w = { d.threads w with command := c } := Function.update_self ..

theorem post_of_ne (d : Domain T) {v w : Nat} (c : Option WorkerCommand) (h : v ≠ w) :
    (d.post w c).threads v = d.threads v := Function.update_of_ne h ..

theorem post_place (d : Domain T) (w : Nat) (c : Option WorkerCommand) :
    ((d.post w c).threads w).place = (d.threads w).place := by rw [post_self]

theorem post_command (d : Domain T) (w : Nat) (c : Option WorkerCommand) : ((d.post w c).threads w).command = c := by
  rw [post_self]

theorem goto_place (d : Domain T) (w : Nat) (p : Place T) : ((d.goto w p).threads w).place = p := by rw [goto_self]

theorem goto_command (d : Domain T) (w : Nat) (p : Place T) :
    ((d.goto w p).threads w).command = (d.threads w).command := by rw [goto_self]

variable {w : Nat} {p : WorkerPhase} {i : InvocationId} {r : InvocationRecord T}

theorem seat_set {s : DomainState T} {q : WorkerPhase} (h : s.workers[w]? = some q) :
    (s.setPhase w p).workers[w]? = some p := by
  obtain ⟨hlt, -⟩ := List.getElem?_eq_some_iff.1 h
  exact List.getElem?_set_self hlt

theorem phase_of_seat (h : d.seat w = some i) :
    ∃ p, d.state.workers[w]? = some p ∧ p.occupant = some i := Option.bind_eq_some_iff.1 h

theorem seat_of_phase (h : d.state.workers[w]? = some p) : d.seat w = p.occupant := by
  unfold Domain.seat
  rw [h]
  rfl

/-! ## Submitting -/

/-- The command channel of a resting worker has room. -/
theorem trySend_of_rested {c : WorkerCommand} (hrest : Rested d w) (hcommand : (d.threads w).command = none) :
    trySend d w c = .ok (d.post w (some c)) := by
  unfold trySend
  rw [hcommand]
  obtain hp | ⟨old, hp, -⟩ := hrest
  · rw [hp]
    rfl
  · rw [hp]
    rfl

theorem refused_good (h : Good d) {e : ThreadDomainError} (he : d.state.lifecycle.refuses = some e) :
    Good (d.log (.refused e)) := by
  refine h.log_plain ?_ rfl
  cases hl : d.state.lifecycle with
  | poisoned =>
    rw [hl] at he
    cases he
    exact h.chronicled.poisoned hl
  | accepting => rw [hl] at he; cases he
  | degraded => rw [hl] at he; cases he; trivial
  | closing => rw [hl] at he; cases he; trivial
  | closed => rw [hl] at he; cases he; trivial

/-- A worker and a fresh invocation bound to each other, before its task is built. -/
def reserved (d : Domain T) (w : Nat) (i : InvocationId) : Domain T :=
  { d with
    state := { d.state with
      active := Assoc.put i (.reserved w) d.state.active, controls := Function.update d.state.controls i .new }.setPhase w
        (.running i)
    nextInvocation := i
    call := .building w i }

theorem reserved_good (h : Good d) (hfree : d.call = .free) {w : Nat} {i : InvocationId}
    (hidle : d.state.workers[w]? = some .idle) (hi : i.toNat = d.nextInvocation.toNat + 1) : Good (reserved d w i) := by
  have hfresh : ∀ j : InvocationId, j.toNat ≤ d.nextInvocation.toNat → j ≠ i := by
    rintro j hj rfl
    omega
  have hnone : d.record i = none := by
    cases hr : d.record i with
    | none => rfl
    | some r => exact absurd rfl (hfresh i (h.seated.records i r hr).2.2)
  have hrecord : ∀ j, j ≠ i → (reserved d w i).record j = d.record j := fun j hj => Assoc.get_put_of_ne hj ..
  have hself : (reserved d w i).record i = some (.reserved w) := Assoc.get_put_self ..
  have hphase : (reserved d w i).state.workers[w]? = some (.running i) := seat_set hidle
  have hseat : (reserved d w i).seat w = some i := seat_of_phase hphase
  have hunrun : ∀ v, .ran v i ∉ d.events := by
    intro v hv
    exact hfresh i (h.chronicled.known _ hv i rfl) rfl
  obtain ⟨hcommand, hrest⟩ := h.seated.slots w _ hidle
  have hrest' : Rested (reserved d w i) w := by
    obtain hp | ⟨old, hp, hgone, hran⟩ := hrest
    · exact .inl hp
    · refine .inr ⟨old, hp, ?_, hran⟩
      rw [hrecord old (hfresh old (h.chronicled.known _ hran old rfl))]
      exact hgone
  have hl : Local w (some i) d (reserved d w i) := by
    refine ⟨rfl, List.length_set, fun _ _ => rfl, ?_, ?_, fun _ _ hr => hr, fun _ _ _ hr => hr⟩
    · intro v hv
      exact List.getElem?_set_ne (Ne.symm hv)
    · intro j hj
      exact hrecord j (fun heq => hj (by rw [heq]))
  have hcall : CallKept w d (reserved d w i) := by
    constructor
    · intro v j hv
      rw [hfree]
      constructor
      · intro heq
        cases heq
        exact absurd rfl hv
      · intro heq
        cases heq
    · intro v _
      rw [hfree]
      exact Iff.rfl
  constructor
  · refine hl.seated hcall h.seated ?_ ?_ (by change _ ≤ i.toNat; omega) ?_ ?_ ?_ ?_ ?_ ⟨List.nodup_nil, ?_⟩ trivial
    · rintro j r ⟨⟩ hr
      rw [hnone] at hr
      cases hr
    · rintro j u ⟨⟩ hran -
      exact absurd hran (hunrun u)
    · intro p hp
      rw [hphase] at hp
      cases hp
      exact ⟨_, hself, rfl, .held rfl hcommand hrest' hunrun rfl⟩
    · intro j hj
      unfold Domain.seat at hj
      rw [hidle] at hj
      cases hj
    · rintro j r ⟨⟩ hr
      rw [hself] at hr
      cases hr
      exact ⟨hseat, nofun, Nat.le_refl _⟩
    · exact Assoc.nodup_keys_put _ h.seated.nodup
    · rintro j ⟨⟩
      exact hseat
    · intro hw
      cases hw
  · have hreason : ∀ j, j ≠ i → (reserved d w i).state.reason j = d.state.reason j := by
      intro j hj
      exact congrArg InvocationControl.fenceReason (Function.update_of_ne hj ..)
    refine h.chronicled.quiet rfl (by change _ ≤ i.toNat; omega) ?_ ?_ ?_ (fun hp => .inl hp)
    · intro j hj hopen
      rw [hreason j (hfresh j hj)]
      exact hopen
    · intro j hj hgone
      rw [hrecord j (hfresh j hj)]
      exact hgone
    · intro j r hr
      by_cases hj : j = i
      · subst hj
        rw [hself] at hr
        cases hr
        exact .inl rfl
      · rw [hreason j hj]
        rw [hrecord j hj] at hr
        exact h.chronicled.marked j r hr

/-- **A reservation keeps the invariant**: it is refused, or it binds one idle worker to a fresh invocation. -/
theorem reserveInvocation_good (h : Good d) (hfree : d.call = .free) : Good (reserveInvocation d) := by
  unfold reserveInvocation
  simp only
  split
  · rename_i e he
    exact refused_good h he
  · split
    · exact h.log_plain trivial rfl
    · rename_i w hw
      split
      · exact h.log_plain trivial rfl
      · rename_i i hi
        split
        · exact h.log_plain trivial rfl
        · have hnext := succU64_eq_some.1 hi
          split
          · rename_i hsome
            obtain ⟨r, hr⟩ := Option.isSome_iff_exists.1 hsome
            have hle := (h.seated.records i r hr).2.2
            omega
          · obtain ⟨hlt, hidle, -⟩ := List.findIdx?_eq_some_iff_getElem.1 hw
            refine reserved_good h hfree ?_ hnext
            rw [List.getElem?_eq_getElem hlt, Option.some.injEq]
            simpa using hidle

theorem Seated.holding (h : Seated d) {w : Nat} {i : InvocationId} (hh : d.call.holding = some (w, i)) :
    ∃ r, d.record i = some r ∧ r.worker = w ∧ (d.threads w).command = none ∧ Rested d w ∧
      (∀ v, .ran v i ∉ d.events) ∧ r.outcome.isSome = false := by
  obtain ⟨r, hr, hw, hc⟩ := h.assigned (h.held w i hh)
  cases hc with
  | held _ hcommand hrest hran hout => exact ⟨r, hr, hw, hcommand, hrest, hran, hout⟩
  | queued hcall => exact absurd hh hcall
  | served hcall => exact absurd hh hcall

theorem Rested.of_place (hrest : Rested d w) (hplace : (d'.threads w).place = (d.threads w).place)
    (hrecord : ∀ old, d.record old = none → d'.record old = none)
    (hran : ∀ old, .ran w old ∈ d.events → .ran w old ∈ d'.events) : Rested d' w := by
  unfold Rested
  rw [hplace]
  obtain hp | ⟨old, hp, hgone, hr⟩ := hrest
  · exact .inl hp
  · exact .inr ⟨old, hp, hrecord old hgone, hran old hr⟩

/-- **A dispatch keeps the invariant**: its worker was resting, so the command goes through and wakes it. -/
theorem dispatch_good (h : Good d) {w : Nat} {i : InvocationId} (hcall : d.call = .building w i) : Good (dispatch d w i) := by
  have hh : d.call.holding = some (w, i) := by rw [hcall]; rfl
  obtain ⟨r, hr, hw, hcommand, hrest, hran, hout⟩ := h.seated.holding hh
  have hseat := h.seated.held w i hh
  unfold dispatch
  rw [trySend_of_rested hrest hcommand]
  constructor
  · refine Local.seated (d := d) (w := w) (i := none) ?_ ?_ h.seated ?_ ?_ (Nat.le_refl _) ?_ ?_ ?_ h.seated.nodup ?_
      ⟨List.nodup_nil, nofun⟩ trivial
    · exact ⟨rfl, rfl, fun v hv => post_of_ne d _ hv, fun _ _ => rfl, fun _ _ => rfl, fun _ _ hr => hr, fun _ _ _ hr => hr⟩
    · constructor
      · intro v j hv
        rw [hcall]
        constructor
        · intro heq
          cases heq
        · intro heq
          cases heq
          exact absurd rfl hv
      · intro v _
        rw [hcall]
        exact Iff.rfl
    · intro j s heq
      cases heq
    · intro j u heq
      cases heq
    · intro p hp
      obtain ⟨q, hq, hocc⟩ := phase_of_seat hseat
      cases hq.symm.trans hp
      rw [slotOk_of_occupant hocc]
      refine ⟨r, hr, hw, .queued nofun (post_command d w _) ?_ hran hout⟩
      exact hrest.of_place (post_place d w _) (fun _ hn => hn) (fun _ hr => hr)
    · intro j hj _
      exact hj
    · intro j s heq
      cases heq
    · intro j heq
      cases heq
  · exact h.chronicled.same rfl rfl rfl

/-- A task that panics while it is built leaves its worker to be rolled back. -/
theorem buildPanicked_good (h : Good d) {w : Nat} {i : InvocationId} (hcall : d.call = .building w i) :
    Good { d with call := .rollingBack w i false .callableBuildPanicked } := by
  constructor
  · exact h.seated.recall rfl rfl rfl rfl (fun _ => rfl) (fun _ => rfl) (by rw [hcall]; rfl) (by rw [hcall]; rfl)
      (fun _ _ => Iff.rfl) ⟨rfl, rfl⟩
  · exact h.chronicled.same rfl rfl rfl

/-! ## Giving a worker back -/

/-- The invocation is gone and its worker has phase `p`. -/
def freed (d : Domain T) (w : Nat) (i : InvocationId) (p : WorkerPhase) : Domain T :=
  { d with state := { d.state with active := Assoc.erase i d.state.active }.setPhase w p }

theorem freed_record_none (old : InvocationId) (h : d.record old = none) : (freed d w i p).record old = none := by
  by_cases heq : old = i
  · rw [heq]
    exact Assoc.get_erase_self ..
  · exact (Assoc.get_erase_of_ne heq _).trans h

theorem freed_local (d : Domain T) (w : Nat) (i : InvocationId) (p : WorkerPhase) : Local w (some i) d (freed d w i p) := by
  refine ⟨rfl, List.length_set, fun _ _ => rfl, ?_, ?_, fun _ _ hr => hr, fun _ _ _ hr => hr⟩
  · intro v hv
    exact List.getElem?_set_ne (Ne.symm hv)
  · intro j hj
    exact Assoc.get_erase_of_ne (fun heq => hj (by rw [heq])) _

theorem Chronicled.freed (h : Chronicled d) (w : Nat) (i : InvocationId) (p : WorkerPhase) :
    Chronicled (freed d w i p) := by
  refine h.quiet rfl (Nat.le_refl _) (fun _ _ ho => ho) (fun j _ hn => freed_record_none j hn) ?_ .inl
  intro j r hr
  by_cases hj : j = i
  · subst hj
    cases (Assoc.get_erase_self j _).symm.trans hr
  · exact h.marked j r ((Assoc.get_erase_of_ne hj _).symm.trans hr)

theorem nodup_erase (h : Seated d) (i : InvocationId) : (Assoc.keys (Assoc.erase i d.state.active)).Nodup :=
  List.Nodup.sublist (Assoc.keys_erase_sublist i _) h.nodup

/-- **Rolling back keeps the invariant**: the invocation never ran, so its record goes and its worker is idle or
poisoned. -/
theorem rollback_good (h : Good d) {w : Nat} {i : InvocationId} {poison : Bool} {e : ThreadDomainError}
    (hcall : d.call = .rollingBack w i poison e) :
    Good ({ rollbackReservation d w i poison with call := .free }.log (.refused e)) := by
  have hh : d.call.holding = some (w, i) := by rw [hcall]; rfl
  obtain ⟨r, hr, hw, hcommand, hrest, hran, hout⟩ := h.seated.holding hh
  have hseat := h.seated.held w i hh
  obtain ⟨q, hq, -⟩ := phase_of_seat hseat
  have hfits := h.seated.fits
  rw [hcall] at hfits
  obtain ⟨rfl, rfl⟩ := hfits
  have hnone : (Assoc.get i d.state.active).bind (·.outcome) = none := by
    have hr : Assoc.get i d.state.active = some r := hr
    rw [hr]
    change r.outcome = none
    exact Option.not_isSome_iff_eq_none.1 (by rw [hout]; exact Bool.false_ne_true)
  have heq : rollbackReservation d w i false = freed d w i .idle := by
    unfold rollbackReservation
    simp only [hnone]
    rfl
  rw [heq]
  refine Good.log_plain ⟨?_, ?_⟩ trivial rfl
  · refine Local.seated_freed (d := d) (i := i) (p := .idle) ?_ ?_ rfl h.seated hseat (Assoc.get_erase_self ..) (seat_set hq)
      ⟨hcommand, ?_⟩ (by rintro _ ⟨⟩) ⟨List.nodup_nil, by rintro ⟨⟩⟩ trivial (nodup_erase h.seated i)
    · have hl := freed_local d w i .idle
      exact ⟨hl.planned, hl.size, hl.threads, hl.phases, hl.records, hl.ran, hl.unrun⟩
    · constructor
      · intro v j hv
        rw [hcall]
        constructor
        · intro heq
          cases heq
        · intro heq
          cases heq
          exact absurd rfl hv
      · intro v _
        rw [hcall]
        exact Iff.rfl
    · exact hrest.of_place rfl freed_record_none (fun _ hr => hr)
  · exact (h.chronicled.freed w i .idle).quiet rfl (Nat.le_refl _) (fun _ _ ho => ho) (fun _ _ hn => hn)
      (h.chronicled.freed w i .idle).marked .inl

/-! ## Fencing -/

variable {reason : FenceReasonCode} {joined panicked : Nat}

theorem fence_reason_ne_opened (c : InvocationControl) (h : reason ≠ .opened) :
    (c.fence reason).fenceReason ≠ .opened := by
  obtain ⟨_, current⟩ := c
  cases current <;> cases reason <;> first | exact absurd rfl h | exact nofun

theorem fence_keeps (c : InvocationControl) (reason : FenceReasonCode) (h : c.fenceReason ≠ .opened) :
    (c.fence reason).fenceReason ≠ .opened := by
  obtain ⟨_, current⟩ := c
  cases current <;> cases reason <;> first | exact absurd rfl h | exact nofun

theorem state_fence_keeps (s : DomainState T) (i j : InvocationId) (reason : FenceReasonCode) (h : s.reason j ≠ .opened) :
    (s.fence i reason).reason j ≠ .opened := by
  change (Function.update s.controls i _ j).fenceReason ≠ _
  by_cases heq : j = i
  · subst heq
    rw [Function.update_self]
    exact fence_keeps _ _ h
  · rw [Function.update_of_ne heq]
    exact h

theorem state_fence_self (s : DomainState T) (i : InvocationId) (h : reason ≠ .opened) :
    (s.fence i reason).reason i ≠ .opened := by
  change (Function.update s.controls i _ i).fenceReason ≠ _
  rw [Function.update_self]
  exact fence_reason_ne_opened _ h

/-- A record may change in place while its worker and outcome stay and it is not accepted. -/
theorem Seated.put (h : Seated d) {i : InvocationId} {r r' : InvocationRecord T} (hr : d.record i = some r)
    (hworker : r'.worker = r.worker) (hout : r'.outcome.isSome = r.outcome.isSome) (hdisp : r'.disposition ≠ .accepted)
    (hstate : d'.state.active = Assoc.put i r' d.state.active) (hplanned : d'.planned = d.planned)
    (hthreads : d'.threads = d.threads) (hcall : d'.call = d.call) (hnext : d'.nextInvocation = d.nextInvocation)
    (hran : ∀ v i, .ran v i ∈ d'.events ↔ .ran v i ∈ d.events)
    (hsize : d'.state.workers.length = d.state.workers.length)
    (hphase : ∀ v, d'.state.workers[v]? = d.state.workers[v]? ∨ ∃ i, d.seat v = some i ∧ d'.seat v = some i)
    (hfits : d'.call.Fits d'.state.workers) : Seated d' := by
  have hrecord : ∀ j, d'.record j = Assoc.get j (Assoc.put i r' d.state.active) := by
    intro j
    unfold Domain.record
    rw [hstate]
  refine h.edit hplanned hthreads hcall hnext hran hsize hphase ?_ ?_ ?_ hfits
  · intro j s hs
    by_cases heq : j = i
    · subst heq
      rw [hr] at hs
      cases hs
      exact ⟨r', (hrecord j).trans (Assoc.get_put_self ..), hworker, hout, hdisp⟩
    · exact ⟨s, (hrecord j).trans ((Assoc.get_put_of_ne heq ..).trans hs), rfl, rfl, (h.records j s hs).2.1⟩
  · intro j hj
    have heq : j ≠ i := by
      rintro rfl
      rw [hr] at hj
      cases hj
    exact (hrecord j).trans ((Assoc.get_put_of_ne heq ..).trans hj)
  · rw [hstate]
    exact Assoc.nodup_keys_put _ h.nodup

theorem Seated.put_none {j : InvocationId} {r' : InvocationRecord T} (hr : d.record i = some r) (hj : d.record j = none) :
    Assoc.get j (Assoc.put i r' d.state.active) = none := by
  have heq : j ≠ i := by
    rintro rfl
    rw [hr] at hj
    cases hj
  exact (Assoc.get_put_of_ne heq ..).trans hj

/-- The chronicle stays true when an invocation is fenced with a reason. -/
theorem Chronicled.fence (h : Chronicled d) {i : InvocationId} {r r' : InvocationRecord T} (hr : d.record i = some r)
    (hopen : reason ≠ .opened) (hevents : d'.events = d.events)
    (hnext : d'.nextInvocation = d.nextInvocation) (hcontrols : d'.state.controls = (d.state.fence i reason).controls)
    (hactive : d'.state.active = Assoc.put i r' d.state.active)
    (hpoison : d'.state.lifecycle = .poisoned → d.state.lifecycle = .poisoned) : Chronicled d' := by
  have hreason : ∀ j, d'.state.reason j = (d.state.fence i reason).reason j := by
    intro j
    unfold DomainState.reason
    rw [hcontrols]
  have hrecord : ∀ j, d'.record j = Assoc.get j (Assoc.put i r' d.state.active) := by
    intro j
    unfold Domain.record
    rw [hactive]
  refine h.quiet hevents (by rw [hnext]) ?_ ?_ ?_ (fun hp => .inl (hpoison hp))
  · intro j _ hj
    rw [hreason]
    exact state_fence_keeps _ i j reason hj
  · intro j _ hj
    rw [hrecord]
    exact Seated.put_none hr hj
  · intro j s hs
    rw [hreason]
    by_cases hj : j = i
    · subst hj
      exact .inr (.inr (state_fence_self _ _ hopen))
    · rw [hrecord, Assoc.get_put_of_ne hj] at hs
      obtain hp | hp | hp := h.marked j s hs
      · exact .inl hp
      · exact .inr (.inl hp)
      · exact .inr (.inr (state_fence_keeps _ i j reason hp))

theorem fenceRecord_good (h : Good d) (hfree : d.call = .free) {i : InvocationId} {r : InvocationRecord T}
    (hr : d.record i = some r) (phase : InvocationPhase) (hopen : reason ≠ .opened) :
    Good { d with state := fenceRecord d.state i r phase reason } := by
  have hseat := (h.seated.records i r hr).1
  obtain ⟨q, hq, -⟩ := phase_of_seat hseat
  unfold fenceRecord
  simp only
  split
  · constructor
    · refine h.seated.put hr ?_ ?_ ?_ rfl rfl rfl rfl rfl (fun _ _ => Iff.rfl) List.length_set ?_ (by rw [hfree]; trivial)
      · rfl
      · rfl
      · nofun
      intro v
      by_cases hv : v = r.worker
      · subst hv
        exact .inr ⟨i, hseat, seat_of_phase (p := .wedged i) (seat_set (s := d.state) hq)⟩
      · exact .inl (List.getElem?_set_ne (Ne.symm hv))
    · refine h.chronicled.fence hr hopen rfl rfl rfl rfl ?_
      intro hp
      by_cases hacc : d.state.lifecycle = .accepting
      · simp only [hacc, if_true] at hp
        cases hp
      · simpa only [hacc, if_false] using hp
  · constructor
    · refine h.seated.put hr ?_ ?_ ?_ rfl rfl rfl rfl rfl (fun _ _ => Iff.rfl) rfl (fun _ => .inl rfl)
        (by rw [hfree]; trivial)
      · rfl
      · rfl
      · nofun
    · exact h.chronicled.fence hr hopen rfl rfl rfl rfl (fun hp => hp)

theorem outranks_marked {phase : InvocationPhase} (h : Chronicled d)
    (hr : d.record i = some r) (hout : r.phase.outranks phase = true) : d.state.reason i ≠ .opened := by
  obtain hp | hp | hp := h.marked i r hr
  · rw [hp] at hout
    unfold InvocationPhase.outranks at hout
    split at hout
    · rename_i hc hrank
      cases hc
      simp at hout
    · cases hout
  · rw [hp] at hout
    cases hout
  · exact hp

/-- **A mark keeps the invariant**: its invocation is fenced with a reason. -/
theorem markInvocation_good (h : Good d) (hfree : d.call = .free) {t : ThreadInvocation} {phase : InvocationPhase}
    (hm : markInvocation d t phase reason = .ok d') (hopen : reason ≠ .opened) : Good d' := by
  simp only [markInvocation, Check.bind_ok, Check.exists_unit, Check.rejectIf_ok, Check.okOr_ok, Check.pure_ok] at hm
  obtain ⟨-, -, r, hr, rfl⟩ := hm
  have hle := (h.seated.records _ r hr).2.2
  split
  · rename_i hout
    exact ⟨h.seated.log (by rintro _ _ ⟨⟩), h.chronicled.log trivial (by rintro j ⟨⟩; exact hle)
      (by rintro j s ⟨⟩; exact outranks_marked h.chronicled hr hout) (by rintro _ _ ⟨⟩)⟩
  · have hg := fenceRecord_good h hfree hr phase hopen
    refine ⟨hg.seated.log (by rintro _ _ ⟨⟩), hg.chronicled.log trivial (by rintro j ⟨⟩; exact hle) ?_ (by rintro _ _ ⟨⟩)⟩
    rintro j s ⟨⟩
    have hself := state_fence_self d.state t.fence.invocation hopen
    unfold fenceRecord
    simp only
    split
    · exact hself
    · exact hself

theorem mark_good (h : Good d) (hfree : d.call = .free) (kind : Mark) (t : ThreadInvocation) :
    Good ((kind.call d t).toOption.getD d) := by
  cases hm : kind.call d t with
  | error e => exact h
  | ok d' =>
    cases kind with
    | cancellation => exact markInvocation_good h hfree hm nofun
    | uncertain => exact markInvocation_good h hfree hm nofun
    | wedged => exact markInvocation_good h hfree hm nofun

def abandoned (r : InvocationRecord T) : InvocationRecord T :=
  { r with
    acceptsResult := false, disposition := .fenced
    phase := if r.phase = .running then .cancellationRequested else r.phase }

/-- A dropped handle may fence what it leaves behind. -/
theorem fenceAbandonedInvocation_good (h : Good d) (i : InvocationId) : Good (fenceAbandonedInvocation d i) := by
  unfold fenceAbandonedInvocation
  split
  · exact h
  · rename_i r hr
    have hle := (h.seated.records i r hr).2.2
    have hseated : Seated { d with
        state := { d.state.fence i .handleDropped with active := Assoc.put i (abandoned r) d.state.active } } := by
      refine h.seated.put hr ?_ ?_ ?_ rfl rfl rfl rfl rfl (fun _ _ => Iff.rfl) rfl (fun _ => .inl rfl) h.seated.fits
      · rfl
      · rfl
      · nofun
    have hchron : Chronicled { d with
        state := { d.state.fence i .handleDropped with active := Assoc.put i (abandoned r) d.state.active } } := by
      refine h.chronicled.fence hr ?_ rfl rfl rfl rfl (fun hp => hp)
      nofun
    refine ⟨hseated.log nofun, hchron.log trivial ?_ ?_ nofun⟩
    · rintro j ⟨⟩
      exact hle
    · rintro j s ⟨⟩
      exact state_fence_self d.state i nofun

theorem Good.handles (h : Good d) (handles : InvocationId → Option ThreadInvocation) : Good { d with handles := handles } :=
  ⟨h.seated.recall rfl rfl rfl rfl (fun _ => rfl) (fun _ => rfl) rfl rfl (fun _ _ => Iff.rfl) h.seated.fits,
    h.chronicled.same rfl rfl rfl⟩

theorem dropInvocation_good (h : Good d) {i : InvocationId} (hs : dropInvocation d i = some d') : Good d' := by
  unfold dropInvocation at hs
  split at hs
  · cases hs
  · cases hs
    split
    · exact h.handles _
    · exact (fenceAbandonedInvocation_good h _).handles _

/-! ## Taking a completion -/

theorem answered_plain {earlier : List (Event T)} {answer : Except ThreadDomainError (ThreadCompletion T)}
    (h : ∀ v, answer ≠ .ok (.returned v)) :
    (Event.answered i answer).Sound earlier ∧ (Event.answered i answer).subject = none := by
  cases answer with
  | error e => exact ⟨trivial, rfl⟩
  | ok c =>
    cases c with
    | returned v => exact absurd rfl (h v)
    | pending o => exact ⟨trivial, rfl⟩
    | panicked => exact ⟨trivial, rfl⟩
    | lateRejected reason => exact ⟨trivial, rfl⟩

theorem settled_good {p : Poll T} (h : Good p.domain) (hplain : ∀ v, p.answer ≠ .ok (.returned v)) :
    Good (p.settled d) := by
  obtain ⟨hsound, hsubject⟩ := answered_plain (i := p.handle.fence.invocation) hplain
  exact (h.handles _).log_plain hsound hsubject

theorem Seated.waiting (h : Seated d) {i : InvocationId} {r : InvocationRecord T} (hr : d.record i = some r)
    (hout : r.outcome.isSome = true) : (d.threads r.worker).command = none ∧ (d.threads r.worker).place = .waiting i ∧
      .ran r.worker i ∈ d.events ∧ d.call.holding ≠ some (r.worker, i) := by
  obtain ⟨s, hs, hw, hc⟩ := h.assigned (h.records i r hr).1
  rw [hr] at hs
  cases hs
  cases hc with
  | held _ _ _ _ hnone => rw [hout] at hnone; cases hnone
  | queued _ _ _ _ hnone => rw [hout] at hnone; cases hnone
  | served hcall hcommand hran hplace =>
    refine ⟨hcommand, ?_, hran, hcall⟩
    rw [hout] at hplace
    cases hp : (d.threads r.worker).place with
    | waiting j =>
      rw [hp] at hplace
      rw [hplace.1]
    | receiving => rw [hp] at hplace; cases hplace
    | exiting => rw [hp] at hplace; cases hplace
    | leaving => rw [hp] at hplace; cases hplace
    | calling j => rw [hp] at hplace; cases hplace.2
    | dropping j c => rw [hp] at hplace; cases hplace.2
    | settling j b => rw [hp] at hplace; cases hplace.2
    | finished b => rw [hp] at hplace; cases hplace.2

/-- **A worker whose completion is taken** is idle again, and the record goes with its seat. -/
theorem freed_taken_good (h : Good d) (hfree : d.call = .free) {i : InvocationId} {r : InvocationRecord T}
    (hr : d.record i = some r) (hout : r.outcome.isSome = true) : Good (freed d r.worker i .idle) := by
  obtain ⟨hcommand, hplace, hran, -⟩ := h.seated.waiting hr hout
  have hseat := (h.seated.records i r hr).1
  obtain ⟨q, hq, -⟩ := phase_of_seat hseat
  have hnone : (freed d r.worker i .idle).record i = none := Assoc.get_erase_self ..
  refine ⟨?_, h.chronicled.freed r.worker i .idle⟩
  refine (freed_local d r.worker i .idle).seated_freed (p := .idle) (.of_eq rfl) rfl h.seated hseat hnone (seat_set hq)
    ⟨hcommand, .inr ⟨i, hplace, hnone, hran⟩⟩ ?_ ?_ ?_ (nodup_erase h.seated i)
  · intro j hj
    change d.call.holding = _ at hj
    rw [hfree] at hj
    cases hj
  · change d.call.toWake.Nodup ∧ _ ∉ d.call.toWake
    rw [hfree]
    exact ⟨List.nodup_nil, nofun⟩
  · change d.call.Fits _
    rw [hfree]
    trivial

theorem acceptOutcome_good (h : Good d) (hfree : d.call = .free) {t : ThreadInvocation} {r : InvocationRecord T}
    (hr : d.record t.fence.invocation = some r) {o : WorkerOutcome T} (hout : r.outcome = some o)
    (hopen : d.state.reason t.fence.invocation = .opened) : Good ((acceptOutcome d t r.worker o).settled d) := by
  have hg := freed_taken_good h hfree hr (by rw [hout]; rfl)
  cases o with
  | panicked =>
    refine settled_good hg ?_
    intro v hv
    cases hv
  | returned v =>
    have hkept := hg.handles ((acceptOutcome d t r.worker (.returned v)).settled d).handles
    refine ⟨hkept.seated.log nofun, hkept.chronicled.log ⟨?_, ?_⟩ ?_ nofun ?_⟩
    · intro u hu
      cases (h.chronicled.taken _ u hu).symm.trans hr
    · intro reason hf
      exact h.chronicled.fences _ reason hf hopen
    · rintro j ⟨⟩
      exact (h.seated.records _ r hr).2.2
    · rintro j u ⟨⟩
      exact Assoc.get_erase_self ..

theorem observable_none (h : ¬reason.observable.isSome = true) : reason = .opened := by
  cases reason with
  | opened => rfl
  | cancellationRequested => exact absurd rfl h
  | uncertain => exact absurd rfl h
  | wedged => exact absurd rfl h
  | shutdown => exact absurd rfl h
  | handleDropped => exact absurd rfl h

theorem fencedPoll_good (h : Good d) {i : InvocationId} {r : InvocationRecord T} (hr : d.record i = some r) :
    Good { d with state := { d.state with
      active := Assoc.put i { r with acceptsResult := false, disposition := .fenced } d.state.active } } := by
  constructor
  · refine h.seated.put hr ?_ ?_ ?_ rfl rfl rfl rfl rfl (fun _ _ => Iff.rfl) rfl (fun _ => .inl rfl) h.seated.fits
    · rfl
    · rfl
    · nofun
  · refine h.chronicled.quiet rfl (Nat.le_refl _) (fun _ _ ho => ho) (fun j _ hj => Seated.put_none hr hj) ?_ .inl
    intro j s hs
    by_cases hj : j = i
    · subst hj
      cases (Assoc.get_put_self j _ _).symm.trans hs
      exact h.chronicled.marked j r hr
    · exact h.chronicled.marked j s ((Assoc.get_put_of_ne hj ..).symm.trans hs)

/-- **Polling keeps the invariant**, whether it finds a completion, a fence, or nothing yet. -/
theorem tryTakeCompletion_good (h : Good d) (hfree : d.call = .free) (t : ThreadInvocation) :
    Good ((tryTakeCompletion d t).settled d) := by
  unfold tryTakeCompletion
  simp only
  split
  · exact settled_good h (by rintro _ ⟨⟩)
  · split
    · exact settled_good h (by rintro _ ⟨⟩)
    · split
      · split
        · exact settled_good h (by rintro _ ⟨⟩)
        · exact settled_good h (by rintro _ ⟨⟩)
      · rename_i r hr
        split
        · exact settled_good (fencedPoll_good h hr) (by rintro _ ⟨⟩)
        · rename_i hfence
          have hopen := observable_none (fun ho => hfence (.inr (.inr ho)))
          split
          · exact settled_good h (by rintro _ ⟨⟩)
          · rename_i hsome
            split
            · exact settled_good h (by rintro _ ⟨⟩)
            · split
              · rename_i hnone
                rw [hnone] at hsome
                exact absurd rfl hsome
              · rename_i o ho
                exact acceptOutcome_good h hfree hr ho hopen

/-! ## Shutdown -/

/-- Closing, with every active invocation fenced for the shutdown. -/
def fencedAll (d : Domain T) : Domain T :=
  { d with
    state := { d.state with
      lifecycle := .closing, active := Assoc.mapVals InvocationRecord.shut d.state.active, controls := d.state.shutControl }
    events := (Assoc.keys d.state.active).map (Event.fenced · .shutdown) ++ d.events }

theorem shut_of_pending (h : r.disposition ≠ .accepted) :
    r.shut.worker = r.worker ∧ r.shut.outcome = r.outcome ∧ r.shut.disposition ≠ .accepted := by
  unfold InvocationRecord.shut
  rw [if_neg h]
  exact ⟨rfl, rfl, nofun⟩

theorem shutReason_of_pending (h : r.disposition ≠ .accepted) :
    ∃ reason, r.shutReason = some reason ∧ reason ≠ .opened := by
  unfold InvocationRecord.shutReason
  rw [if_neg h]
  split
  · exact ⟨_, rfl, nofun⟩
  · exact ⟨_, rfl, nofun⟩

theorem fencedAll_record (d : Domain T) (i : InvocationId) :
    (fencedAll d).record i = (d.record i).map InvocationRecord.shut := Assoc.get_mapVals ..

theorem fencedAll_keeps (h : d.state.reason i ≠ .opened) : (fencedAll d).state.reason i ≠ .opened := by
  change (d.state.shutControl i).fenceReason ≠ _
  unfold DomainState.shutControl
  split
  · exact h
  · exact fence_keeps _ _ h

theorem fencedAll_reason (h : Seated d) {i : InvocationId} {r : InvocationRecord T} (hr : d.record i = some r) :
    (fencedAll d).state.reason i ≠ .opened := by
  obtain ⟨reason, hreason, hopen⟩ := shutReason_of_pending (h.records i r hr).2.1
  have hbind : (Assoc.get i d.state.active).bind (·.shutReason) = some reason := by
    have hr : Assoc.get i d.state.active = some r := hr
    rw [hr]
    exact hreason
  change (d.state.shutControl i).fenceReason ≠ _
  unfold DomainState.shutControl
  rw [hbind]
  exact fence_reason_ne_opened _ hopen

theorem mem_fencedAll {e : Event T} (he : e ∈ (fencedAll d).events) :
    (∃ i r, e = .fenced i .shutdown ∧ d.record i = some r) ∨ e ∈ d.events := by
  obtain he | he := List.mem_append.1 he
  · obtain ⟨i, hi, rfl⟩ := List.mem_map.1 he
    cases hr : d.record i with
    | none => exact absurd hi (Assoc.get_eq_none.1 hr)
    | some r => exact .inl ⟨i, r, rfl, hr⟩
  · exact .inr he

/-- **Fencing every invocation keeps the invariant.** -/
theorem fencedAll_good (h : Good d) : Good (fencedAll d) := by
  constructor
  · refine h.seated.edit rfl rfl rfl rfl ?_ rfl (fun _ => .inl rfl) ?_ ?_ ?_ h.seated.fits
    · intro v i
      constructor
      · intro hmem
        obtain ⟨_, _, heq, _⟩ | hmem := mem_fencedAll hmem
        · cases heq
        · exact hmem
      · exact fun hmem => List.mem_append_right _ hmem
    · intro i r hr
      obtain ⟨hw, hout, hdisp⟩ := shut_of_pending (h.seated.records i r hr).2.1
      exact ⟨r.shut, by rw [fencedAll_record, hr]; rfl, hw, by rw [hout], hdisp⟩
    · intro i hi
      rw [fencedAll_record, hi]
      rfl
    · exact (Assoc.keys_mapVals InvocationRecord.shut d.state.active).symm ▸ h.seated.nodup
  · refine ⟨?_, ?_, ?_, ?_, nofun, orderly_append_fenced h.chronicled.orderly _ _⟩
    · intro e he i hi
      obtain ⟨j, r, rfl, hr⟩ | he := mem_fencedAll he
      · cases hi
        exact (h.seated.records _ r hr).2.2
      · exact h.chronicled.known e he i hi
    · intro i reason hf
      obtain ⟨j, r, heq, hr⟩ | hf := mem_fencedAll hf
      · cases heq
        exact fencedAll_reason h.seated hr
      · exact fencedAll_keeps (h.chronicled.fences i reason hf)
    · intro i v ht
      obtain ⟨_, _, heq, _⟩ | ht := mem_fencedAll ht
      · cases heq
      · rw [fencedAll_record, h.chronicled.taken i v ht]
        rfl
    · intro i r' hr'
      rw [fencedAll_record] at hr'
      obtain ⟨r, hr, -⟩ := Option.map_eq_some_iff.1 hr'
      exact .inr (.inr (fencedAll_reason h.seated hr))

theorem mem_idleWorkers {workers : List WorkerPhase} : w ∈ idleWorkers workers ↔ workers[w]? = some .idle := by
  unfold idleWorkers
  rw [List.mem_filter, List.mem_range, decide_eq_true_eq]
  constructor
  · exact fun h => h.2
  · intro h
    obtain ⟨hlt, -⟩ := List.getElem?_eq_some_iff.1 h
    exact ⟨hlt, h⟩

theorem shut_occupant (p : WorkerPhase) : p.shut.occupant = p.occupant := by
  unfold WorkerPhase.shut
  split
  · rename_i h
    rw [h]
    rfl
  · rfl

theorem stopIdle_seated (h : Seated d) (hfree : d.call = .free) :
    Seated { d with
      state := { d.state with workers := d.state.workers.map WorkerPhase.shut }
      call := .waking (idleWorkers d.state.workers) } := by
  have hphase : ∀ v : Nat, (d.state.workers.map WorkerPhase.shut)[v]? = d.state.workers[v]?.map WorkerPhase.shut :=
    fun v => List.getElem?_map
  refine ⟨by rw [List.length_map]; exact h.size, ?_, h.nodup, ?_, nofun, ⟨?_, ?_⟩, trivial⟩
  · intro w p hp
    rw [hphase] at hp
    obtain ⟨q, hq, rfl⟩ := Option.map_eq_some_iff.1 hp
    have hslot := h.slots w q hq
    by_cases hidle : q = .idle
    · subst hidle
      exact .unwoken hslot.2 hslot.1 (mem_idleWorkers.2 hq)
    · have hshut : q.shut = q := if_neg hidle
      rw [hshut]
      refine Kept.slotOk (d := d) ⟨rfl, rfl, ?_, ?_, fun _ _ hn => hn, fun i r hr hw => ⟨r, hr, hw, rfl⟩, fun _ _ hr => hr,
        fun _ _ _ _ _ hr => hr⟩ hslot
      · intro i
        rw [hfree]
        exact ⟨nofun, nofun⟩
      · rw [hfree]
        constructor
        · intro hmem
          cases (mem_idleWorkers.1 hmem).symm.trans hq
          exact absurd rfl hidle
        · intro hmem
          cases hmem
  · intro i r hr
    obtain ⟨hs, hdisp, hle⟩ := h.records i r hr
    refine ⟨?_, hdisp, hle⟩
    obtain ⟨q, hq, hocc⟩ := phase_of_seat hs
    refine (seat_of_phase (p := q.shut) ?_).trans ((shut_occupant q).trans hocc)
    rw [hphase, hq]
    rfl
  · exact List.Nodup.filter _ List.nodup_range
  · intro w hw
    rw [hphase, mem_idleWorkers.1 hw]
    rfl

/-- The owner may move on alone as long as it holds and wakes what it did before. -/
theorem Good.owner (h : Good d) {call : OwnerCall} (hheld : call.holding = d.call.holding)
    (hwake : call.toWake = d.call.toWake) (hfits : call.Fits d.state.workers) : Good { d with call := call } :=
  ⟨h.seated.recall rfl rfl rfl rfl (fun _ => rfl) (fun _ => rfl) hheld hwake (fun _ _ => Iff.rfl) hfits,
    h.chronicled.same rfl rfl rfl⟩

theorem Good.passed (h : Good d) {call before : OwnerCall} (hcall : d.call = before) (hheld : call.holding = before.holding)
    (hwake : call.toWake = before.toWake) (hfits : call.Fits d.state.workers) : Good { d with call := call } :=
  h.owner (hcall ▸ hheld) (hcall ▸ hwake) hfits

theorem beginShutdown_good (h : Good d) (hfree : d.call = .free) : Good (beginShutdown d) := by
  unfold beginShutdown
  simp only
  split
  · exact h.owner (by rw [hfree]; rfl) (by rw [hfree]; rfl) trivial
  · have hg := fencedAll_good h
    exact ⟨stopIdle_seated hg.seated hfree, hg.chronicled.quiet rfl (Nat.le_refl _) (fun _ _ ho => ho) (fun _ _ hn => hn)
      hg.chronicled.marked .inl⟩

theorem Seated.unwoken (h : Seated d) {w : Nat} (hw : w ∈ d.call.toWake) :
    d.state.workers[w]? = some .stopping ∧ (d.threads w).command = none ∧ Rested d w := by
  have hp := h.wakes.2 w hw
  obtain ⟨hrest, hcommand, -⟩ | ⟨-, -, hn⟩ | ⟨-, -, hn⟩ := h.slots w _ hp
  · exact ⟨hp, hcommand, hrest⟩
  · exact absurd hw hn
  · exact absurd hw hn

/-- A worker the shutdown wakes has room for its stop command. -/
theorem wakeWorker_good (h : Good d) {w : Nat} {rest : List Nat} (hcall : d.call = .waking (w :: rest)) :
    Good (wakeWorker d w rest) := by
  have hmem : w ∈ d.call.toWake := by
    rw [hcall]
    exact List.mem_cons_self
  obtain ⟨hphase, hcommand, hrest⟩ := h.seated.unwoken hmem
  have hnodup := h.seated.wakes.1
  rw [hcall] at hnodup
  obtain ⟨hnotin, hnodup⟩ := List.nodup_cons.1 hnodup
  unfold wakeWorker
  rw [trySend_of_rested hrest hcommand]
  constructor
  · refine Local.seated (d := d) (w := w) (i := none) ?_ ?_ h.seated nofun nofun (Nat.le_refl _) ?_ ?_ nofun h.seated.nodup
      nofun ⟨hnodup, fun hw => absurd hw hnotin⟩ trivial
    · exact ⟨rfl, rfl, fun v hv => post_of_ne d _ hv, fun _ _ => rfl, fun _ _ => rfl, fun _ _ hr => hr, fun _ _ _ hr => hr⟩
    · constructor
      · intro v j _
        rw [hcall]
        exact Iff.rfl
      · intro v hv
        rw [hcall]
        constructor
        · exact List.mem_cons_of_mem w
        · intro hmem
          obtain heq | hmem := List.mem_cons.1 hmem
          · exact absurd heq hv
          · exact hmem
    · intro p hp
      cases hphase.symm.trans hp
      exact .woken (hrest.of_place (post_place d w _) (fun _ hn => hn) (fun _ hr => hr)) (post_command d w _) hnotin
    · intro j hj _
      exact hj
  · exact h.chronicled.same rfl rfl rfl

theorem endWait_good (h : Good d) (hcall : d.call = .awaiting) : Good (endWait d) := by
  unfold endWait
  simp only
  split
  · rename_i hall
    exact h.passed hcall rfl rfl hall
  · exact h.passed hcall rfl rfl trivial

theorem joinWorker_command (d : Domain T) (w v : Nat) :
    ((joinWorker d w).threads v).command = (d.threads v).command := by
  change (Function.update d.threads w _ v).command = _
  by_cases hv : v = w
  · subst hv
    rw [Function.update_self]
  · rw [Function.update_of_ne hv]

theorem joinWorker_place (d : Domain T) (w v : Nat) : ((joinWorker d w).threads v).place = (d.threads v).place := by
  change (Function.update d.threads w _ v).place = _
  by_cases hv : v = w
  · subst hv
    rw [Function.update_self]
  · rw [Function.update_of_ne hv]

theorem joinWorker_good (h : Good d) (w : Nat) : Good (joinWorker d w) :=
  ⟨h.seated.recall rfl rfl rfl rfl (joinWorker_command d w) (joinWorker_place d w) rfl rfl (fun _ _ => Iff.rfl) h.seated.fits,
    h.chronicled.same rfl rfl rfl⟩

theorem joinNext_good (h : Good d) {w : Nat} {rest : List Nat}
    (hcall : d.call = .joining (w :: rest) joined panicked) (hs : joinNext d w rest joined panicked = some d') : Good d' := by
  have hall := h.seated.fits
  rw [hcall] at hall
  unfold joinNext at hs
  split at hs
  · cases hs
    exact h.passed hcall rfl rfl hall
  · split at hs
    · cases hs
      exact (joinWorker_good h w).passed hcall rfl rfl hall
    · cases hs

theorem reapNext_good (h : Good d) {w : Nat} {rest : List Nat}
    (hcall : d.call = .reaping (w :: rest) joined panicked) : Good (reapNext d w rest joined panicked) := by
  unfold reapNext
  split
  · exact (joinWorker_good h w).passed hcall rfl rfl trivial
  · exact h.passed hcall rfl rfl trivial

/-- Lifecycle and reports may change alone, as long as a poisoned domain has had a panic. -/
theorem Good.counted (h : Good d) {s : DomainState T} (hworkers : s.workers = d.state.workers)
    (hactive : s.active = d.state.active) (hcontrols : s.controls = d.state.controls)
    (hpoison : s.lifecycle = .poisoned → d.state.lifecycle = .poisoned ∨ ∃ w, .panicked w ∈ d.events) :
    Good { d with state := s } := by
  have hrecord : ({ d with state := s } : Domain T).record = d.record := by
    funext i
    unfold Domain.record
    rw [hactive]
  have hreason : s.reason = d.state.reason := by
    funext i
    unfold DomainState.reason
    rw [hcontrols]
  constructor
  · refine h.seated.recall rfl hworkers hactive rfl (fun _ => rfl) (fun _ => rfl) rfl rfl (fun _ _ => Iff.rfl) ?_
    change d.call.Fits s.workers
    rw [hworkers]
    exact h.seated.fits
  · refine h.chronicled.quiet rfl (Nat.le_refl _) ?_ ?_ ?_ hpoison
    · intro i _ ho
      rw [hreason]
      exact ho
    · intro i _ hn
      rw [hrecord]
      exact hn
    · rw [hrecord]
      change ∀ i r, _ → _ ∨ _ ∨ s.reason i ≠ _
      rw [hreason]
      exact h.chronicled.marked

theorem Seated.active_nil (h : Seated d) (hall : ∀ p ∈ d.state.workers, p = .exited) : d.state.active = [] := by
  cases ha : d.state.active with
  | nil => rfl
  | cons e rest =>
    have hr : d.record e.1 = some e.2 := by
      unfold Domain.record
      rw [ha, Assoc.get_cons, if_pos rfl]
    obtain ⟨q, hq, hocc⟩ := phase_of_seat (h.records e.1 e.2 hr).1
    rw [hall q (List.mem_of_getElem? hq)] at hocc
    cases hocc

theorem endJoin_good (h : Good d) (hcall : d.call = .joining [] joined panicked) :
    Good { d with state := endJoin d.state joined panicked, call := .concluding } := by
  have hall := h.seated.fits
  rw [hcall] at hall
  have hg : Good { d with state := endJoin d.state joined panicked } := by
    unfold endJoin
    split
    · refine h.counted ?_ rfl rfl ?_
      · refine (List.map_congr_left fun p hp => ?_).trans (List.map_id _)
        exact (hall p hp).symm
      · intro hp
        simp only [h.seated.active_nil hall, if_true] at hp
        cases hp
    · exact h
  exact hg.passed hcall rfl rfl trivial

theorem endReap_good (h : Good d) (hcall : d.call = .reaping [] joined panicked) :
    Good { d with state := endReap d.state joined panicked, call := .concluding } := by
  have hg : Good { d with state := endReap d.state joined panicked } := by
    unfold endReap
    split
    · exact h.counted rfl rfl rfl .inl
    · exact h
  exact hg.passed hcall rfl rfl trivial

theorem conclude_good (h : Good d) (hcall : d.call = .concluding) : Good (conclude d) := by
  unfold conclude
  split
  · have hg : Good { d with state := { d.state with lifecycle := .closed } } := h.counted rfl rfl rfl nofun
    exact hg.passed hcall rfl rfl trivial
  · exact h.passed hcall rfl rfl trivial

/-- **Every step of the owner keeps the invariant.** -/
theorem ownerStep_good (h : Good d) {a : OwnerAction} (hs : ownerStep a d = some d') : Good d' := by
  unfold ownerStep at hs
  split at hs
  · rename_i hcall
    cases hs
    exact reserveInvocation_good h hcall
  · rename_i hcall
    split at hs
    · cases hs
      exact mark_good h hcall _ _
    · cases hs
  · rename_i hcall
    split at hs
    · cases hs
      exact tryTakeCompletion_good h hcall _
    · cases hs
  · rename_i hcall
    cases hs
    exact beginShutdown_good h hcall
  · rename_i hcall
    cases hs
    exact dispatch_good h hcall
  · rename_i hcall
    cases hs
    exact buildPanicked_good h hcall
  · rename_i hcall
    cases hs
    exact rollback_good h hcall
  · rename_i hcall
    cases hs
    exact wakeWorker_good h hcall
  · rename_i hcall
    cases hs
    exact h.passed hcall rfl rfl trivial
  · rename_i hcall
    have hfits := h.seated.fits
    rw [hcall] at hfits
    exact hfits.elim
  · rename_i hcall
    cases hs
    exact endWait_good h hcall
  · rename_i hcall
    exact joinNext_good h hcall hs
  · rename_i hcall
    cases hs
    exact endJoin_good h hcall
  · rename_i hcall
    cases hs
    exact reapNext_good h hcall
  · rename_i hcall
    cases hs
    exact endReap_good h hcall
  · rename_i hcall
    cases hs
    exact conclude_good h hcall
  · cases hs

end ParaEgox.ThreadDomain
