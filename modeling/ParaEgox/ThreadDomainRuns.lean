import ParaEgox.ThreadDomainOwner

/-!
# ThreadDomainRuns — no worker is lost and no fenced result leaks

The steps of the worker threads keep `Good` as well, hence every run does.
-/
namespace ParaEgox.ThreadDomain

variable {T : Type} {d d' : Domain T}

/-! ## Worker threads -/

def Place.task : Place T → Option InvocationId
  | .calling i | .dropping i _ | .settling i _ => some i
  | _ => none

variable {w : Nat} {i : InvocationId} {r : InvocationRecord T}

theorem Rested.task (h : Rested d w) : (d.threads w).place.task = none := by
  obtain hp | ⟨old, hp, -⟩ := h
  · rw [hp]
    rfl
  · rw [hp]
    rfl

structure Busy (d : Domain T) (w : Nat) (i : InvocationId) (r : InvocationRecord T) : Prop where
  seat : d.seat w = some i
  record : d.record i = some r
  worker : r.worker = w
  command : (d.threads w).command = none
  ran : .ran w i ∈ d.events
  held : d.call.holding ≠ some (w, i)

theorem Seated.phase (h : Seated d) (hlt : w < d.planned) : ∃ p, d.state.workers[w]? = some p :=
  ⟨_, List.getElem?_eq_getElem (by rw [h.size]; exact hlt)⟩

theorem Seated.whereabouts (h : Seated d) (hlt : w < d.planned) :
    (∃ i r, d.seat w = some i ∧ d.record i = some r ∧ r.worker = w ∧ Charged d w i r) ∨
    ((d.threads w).command = none ∧ Rested d w) ∨
    (d.state.workers[w]? = some .stopping ∧ Stopping d w) ∨
    (d.state.workers[w]? = some .exited ∧ (d.threads w).command = none ∧
      ((d.threads w).place = .leaving ∨ (d.threads w).place = .finished false)) := by
  obtain ⟨p, hp⟩ := h.phase hlt
  have hslot := h.slots w p hp
  cases p with
  | starting => exact hslot.elim
  | idle => exact .inr (.inl hslot)
  | running i => exact .inl ⟨i, hslot.choose, seat_of_phase hp, hslot.choose_spec⟩
  | resultPending i => exact .inl ⟨i, hslot.choose, seat_of_phase hp, hslot.choose_spec⟩
  | wedged i => exact .inl ⟨i, hslot.choose, seat_of_phase hp, hslot.choose_spec⟩
  | stopping => exact .inr (.inr (.inl ⟨hp, hslot⟩))
  | exited => exact .inr (.inr (.inr ⟨hp, hslot⟩))

theorem Seated.busy (h : Seated d) (hlt : w < d.planned)
    (ht : (d.threads w).place.task = some i) : ∃ r, Busy d w i r ∧ r.outcome.isSome = false := by
  have hrested : ¬Rested d w := by
    intro hrest
    rw [hrest.task] at ht
    cases ht
  obtain ⟨j, r, hseat, hr, hw, hc⟩ | ⟨-, hrest⟩ | ⟨-, hstop⟩ | ⟨-, -, hplace | hplace⟩ := h.whereabouts hlt
  · cases hc with
    | held _ _ hrest => exact absurd hrest hrested
    | queued _ _ hrest => exact absurd hrest hrested
    | served hcall hcommand hran hplace =>
      have hfacts : j = i ∧ r.outcome.isSome = false := by
        cases hpl : (d.threads w).place with
        | calling k => rw [hpl] at ht hplace; cases ht; exact ⟨hplace.1.symm, hplace.2⟩
        | dropping k c => rw [hpl] at ht hplace; cases ht; exact ⟨hplace.1.symm, hplace.2⟩
        | settling k b => rw [hpl] at ht hplace; cases ht; exact ⟨hplace.1.symm, hplace.2⟩
        | receiving => rw [hpl] at ht; cases ht
        | waiting k => rw [hpl] at ht; cases ht
        | exiting => rw [hpl] at ht; cases ht
        | leaving => rw [hpl] at ht; cases ht
        | finished b => rw [hpl] at ht; cases ht
      obtain ⟨rfl, hout⟩ := hfacts
      exact ⟨r, ⟨hseat, hr, hw, hcommand, hran, hcall⟩, hout⟩
  · exact absurd hrest hrested
  · cases hstop with
    | unwoken hrest => exact absurd hrest hrested
    | woken hrest => exact absurd hrest hrested
    | exiting hplace => rw [hplace] at ht; cases ht
  · rw [hplace] at ht
    cases ht
  · rw [hplace] at ht
    cases ht

theorem Seated.queued (h : Seated d) (hlt : w < d.planned) (hcommand : (d.threads w).command = some (.run i)) :
    ∃ r, d.seat w = some i ∧ d.record i = some r ∧ r.worker = w ∧ d.call.holding ≠ some (w, i) ∧
      (∀ v, .ran v i ∉ d.events) ∧ r.outcome.isSome = false := by
  obtain ⟨j, r, hseat, hr, hw, hc⟩ | ⟨hnone, -⟩ | ⟨-, hstop⟩ | ⟨-, hnone, -⟩ := h.whereabouts hlt
  · cases hc with
    | held _ hnone => rw [hnone] at hcommand; cases hcommand
    | served _ hnone => rw [hnone] at hcommand; cases hcommand
    | queued hcall hrun _ hran hout =>
      rw [hrun] at hcommand
      cases hcommand
      exact ⟨r, hseat, hr, hw, hcall, hran, hout⟩
  · rw [hnone] at hcommand
    cases hcommand
  · cases hstop with
    | unwoken _ hnone => rw [hnone] at hcommand; cases hcommand
    | woken _ htold => rw [htold] at hcommand; cases hcommand
    | exiting _ hnone => rw [hnone] at hcommand; cases hcommand
  · rw [hnone] at hcommand
    cases hcommand

theorem Seated.told (h : Seated d) (hlt : w < d.planned) (hcommand : (d.threads w).command = some .shutdown) :
    d.state.workers[w]? = some .stopping ∧ w ∉ d.call.toWake := by
  obtain ⟨j, r, -, -, -, hc⟩ | ⟨hnone, -⟩ | ⟨hp, hstop⟩ | ⟨-, hnone, -⟩ := h.whereabouts hlt
  · cases hc with
    | held _ hnone => rw [hnone] at hcommand; cases hcommand
    | served _ hnone => rw [hnone] at hcommand; cases hcommand
    | queued _ hrun => rw [hrun] at hcommand; cases hcommand
  · rw [hnone] at hcommand
    cases hcommand
  · cases hstop with
    | unwoken _ hnone => rw [hnone] at hcommand; cases hcommand
    | woken _ _ hwake => exact ⟨hp, hwake⟩
    | exiting _ hnone => rw [hnone] at hcommand; cases hcommand
  · rw [hnone] at hcommand
    cases hcommand

theorem Seated.left (h : Seated d) (hlt : w < d.planned)
    (hplace : (d.threads w).place = .exiting ∨ (d.threads w).place = .leaving) :
    (d.state.workers[w]? = some .stopping ∧ (d.threads w).place = .exiting ∧ (d.threads w).command = none ∧
      w ∉ d.call.toWake) ∨
    (d.state.workers[w]? = some .exited ∧ (d.threads w).place = .leaving ∧ (d.threads w).command = none) := by
  have hrested : ¬Rested d w := by
    rintro (hrest | ⟨old, hrest, -⟩)
    · rw [hrest] at hplace
      obtain hp | hp := hplace <;> cases hp
    · rw [hrest] at hplace
      obtain hp | hp := hplace <;> cases hp
  obtain ⟨j, r, -, -, -, hc⟩ | ⟨-, hrest⟩ | ⟨hp, hstop⟩ | ⟨hp, hnone, hl | hl⟩ := h.whereabouts hlt
  · cases hc with
    | held _ _ hrest => exact absurd hrest hrested
    | queued _ _ hrest => exact absurd hrest hrested
    | served _ _ _ hserves =>
      obtain hp | hp := hplace <;> rw [hp] at hserves <;> cases hserves
  · exact absurd hrest hrested
  · cases hstop with
    | unwoken hrest => exact absurd hrest hrested
    | woken hrest => exact absurd hrest hrested
    | exiting hexit hcommand hwake => exact .inl ⟨hp, hexit, hcommand, hwake⟩
  · exact .inr ⟨hp, hl, hnone⟩
  · rw [hl] at hplace
    obtain hp | hp := hplace <;> cases hp

theorem receiveRun_good (h : Good d) (hlt : w < d.planned) (hcommand : (d.threads w).command = some (.run i)) :
    Good (((d.post w none).goto w (.calling i)).log (.ran w i)) := by
  obtain ⟨r, hseat, hr, hw, hheld, hran, hout⟩ := h.seated.queued hlt hcommand
  constructor
  · refine Local.seated_served (d := d) (w := w) (i := i) ?_ rfl rfl h.seated hseat hseat hr hw
      (h.seated.records i r hr).2.1 hheld ?_ List.mem_cons_self ?_ h.seated.nodup
    · refine ⟨rfl, rfl, ?_, fun _ _ => rfl, fun _ _ => rfl, fun _ _ hr => List.mem_cons_of_mem _ hr, ?_⟩
      · intro v hv
        exact (goto_of_ne _ _ hv).trans (post_of_ne d _ hv)
      · intro v j hj hmem
        obtain heq | hmem := List.mem_cons.1 hmem
        · cases heq
          exact absurd rfl hj
        · exact hmem
    · exact (goto_command _ w _).trans (post_command d w none)
    · change ((Domain.goto _ w (.calling i)).threads w).place.Serves i _
      rw [goto_place]
      exact ⟨rfl, hout⟩
  · have hquiet : Chronicled ((d.post w none).goto w (.calling i)) :=
      h.chronicled.same rfl rfl rfl
    refine hquiet.log hran ?_ nofun nofun
    rintro j ⟨⟩
    exact (h.seated.records i r hr).2.2

theorem Chronicled.threads (h : Chronicled d) (threads : Nat → WorkerThread T) : Chronicled { d with threads := threads } :=
  h.quiet rfl (Nat.le_refl _) (fun _ _ ho => ho) (fun _ _ hn => hn) h.marked .inl

theorem Local.seated_stopping (hl : Local w none d d') (hcall : d'.call = d.call)
    (hnext : d'.nextInvocation = d.nextInvocation) (h : Seated d) {p : WorkerPhase} (hseat : d.seat w = none)
    (hp : d'.state.workers[w]? = some p) (hslot : SlotOk d' w p) (hwake : w ∉ d.call.toWake)
    (hactive : d'.state.active = d.state.active) (hfits : d'.call.Fits d'.state.workers) : Seated d' := by
  refine hl.seated (.of_eq hcall) h nofun nofun (by rw [hnext]) ?_ ?_ nofun (by rw [hactive]; exact h.nodup) ?_ ?_ hfits
  · intro q hq
    cases hp.symm.trans hq
    exact hslot
  · intro j hj
    rw [hseat] at hj
    cases hj
  · intro j hj
    rw [hcall] at hj
    rw [h.held w j hj] at hseat
    cases hseat
  · rw [hcall]
    exact ⟨h.wakes.1, fun hw => absurd hw hwake⟩

theorem receiveShutdown_good (h : Good d) (hlt : w < d.planned) (hcommand : (d.threads w).command = some .shutdown) :
    Good ((d.post w none).goto w .exiting) := by
  obtain ⟨hp, hwake⟩ := h.seated.told hlt hcommand
  refine ⟨?_, (h.chronicled.threads _).threads _⟩
  refine Local.seated_stopping (d := d) (w := w) (p := .stopping) ?_ rfl rfl h.seated (seat_of_phase hp) hp ?_ hwake rfl
    h.seated.fits
  · refine ⟨rfl, rfl, ?_, fun _ _ => rfl, fun _ _ => rfl, fun _ _ hr => hr, fun _ _ _ hr => hr⟩
    intro v hv
    exact (goto_of_ne _ _ hv).trans (post_of_ne d _ hv)
  · exact .exiting (goto_place _ w _) ((goto_command _ w _).trans (post_command d w none)) hwake

theorem Good.refreshed (h : Good d) : Good { d with state := refreshClosedLifecycle d.state } := by
  unfold refreshClosedLifecycle
  split
  · exact h.counted rfl rfl rfl nofun
  · exact h

theorem exit_good (h : Good d) (hlt : w < d.planned) (hplace : (d.threads w).place = .exiting) :
    Good ({ d with state := markWorkerExited d.state w false }.goto w .leaving) := by
  obtain ⟨hp, -, hcommand, hwake⟩ | ⟨-, hl, -⟩ := h.seated.left hlt (.inl hplace)
  · have hg : Good ({ d with state := d.state.setPhase w .exited }.goto w .leaving) := by
      constructor
      · refine Local.seated_stopping (d := d) (w := w) (p := .exited) ?_ rfl rfl h.seated (seat_of_phase hp) (seat_set hp) ?_
          hwake rfl ?_
        · refine ⟨rfl, List.length_set, fun v hv => goto_of_ne _ _ hv, ?_, fun _ _ => rfl, fun _ _ hr => hr,
            fun _ _ _ hr => hr⟩
          intro v hv
          exact List.getElem?_set_ne (Ne.symm hv)
        · exact ⟨(goto_command _ w _).trans hcommand, .inl (goto_place _ w _)⟩
        · have hfits := h.seated.fits
          change d.call.Fits (d.state.workers.set w .exited)
          unfold OwnerCall.Fits at hfits ⊢
          split at hfits
          · exact hfits
          · exact hfits
          · have hexited := hfits _ (List.mem_of_getElem? hp)
            cases hexited
          · trivial
      · exact h.chronicled.quiet rfl (Nat.le_refl _) (fun _ _ ho => ho) (fun _ _ hn => hn) h.chronicled.marked .inl
    exact hg.refreshed
  · rw [hplace] at hl
    cases hl

theorem leave_good (h : Good d) (hlt : w < d.planned) (hplace : (d.threads w).place = .leaving) :
    Good (d.goto w (.finished false)) := by
  obtain ⟨-, hexit, -⟩ | ⟨hp, -, hcommand⟩ := h.seated.left hlt (.inr hplace)
  · rw [hplace] at hexit
    cases hexit
  · refine ⟨?_, h.chronicled.threads _⟩
    refine Local.seated_stopping (d := d) (w := w) (p := .exited) ?_ rfl rfl h.seated (seat_of_phase hp) hp ?_ ?_ rfl
      h.seated.fits
    · exact ⟨rfl, rfl, fun v hv => goto_of_ne d _ hv, fun _ _ => rfl, fun _ _ => rfl, fun _ _ hr => hr, fun _ _ _ hr => hr⟩
    · exact ⟨(goto_command d w _).trans hcommand, .inr (goto_place d w _)⟩
    · intro hw
      cases (h.seated.wakes.2 w hw).symm.trans hp

/-! ## Callables and cleanup -/

theorem Busy.served (h : Good d) {r' : InvocationRecord T} (hb : Busy d w i r)
    (hl : Local w (some i) d d') (hcall : d'.call = d.call) (hnext : d'.nextInvocation = d.nextInvocation)
    (hseat : d'.seat w = some i) (hr' : d'.record i = some r') (hw' : r'.worker = w) (hdisp : r'.disposition ≠ .accepted)
    (hcommand : (d'.threads w).command = (d.threads w).command)
    (hplace : (d'.threads w).place.Serves i r'.outcome.isSome) (hnodup : (Assoc.keys d'.state.active).Nodup) : Seated d' :=
  hl.seated_served hcall hnext h.seated hb.seat hseat hr' hw' hdisp hb.held (hcommand.trans hb.command)
    (hl.ran _ _ hb.ran) hplace hnodup

theorem Busy.goto (h : Good d) (hb : Busy d w i r) {p : Place T}
    (hp : p.Serves i r.outcome.isSome) : Good (d.goto w p) := by
  refine ⟨?_, h.chronicled.threads _⟩
  refine hb.served h ?_ rfl rfl hb.seat hb.record hb.worker (h.seated.records i r hb.record).2.1 (goto_command d w p) ?_
    h.seated.nodup
  · exact ⟨rfl, rfl, fun v hv => goto_of_ne d p hv, fun _ _ => rfl, fun _ _ => rfl, fun _ _ hr => hr, fun _ _ _ hr => hr⟩
  · rw [goto_place]
    exact hp

theorem Busy.log (hb : Busy d w i r) (e : Event T) :
    Busy (d.log e) w i r :=
  ⟨hb.seat, hb.record, hb.worker, hb.command, List.mem_cons_of_mem e hb.ran, hb.held⟩

def replaced (d : Domain T) (w : Nat) (i : InvocationId) (r : InvocationRecord T) (p : Place T) : Domain T :=
  { d with state := { d.state with active := Assoc.put i r d.state.active } }.goto w p

theorem replaced_local (d : Domain T) (w : Nat) (i : InvocationId) (r : InvocationRecord T) (p : Place T) :
    Local w (some i) d (replaced d w i r p) := by
  refine ⟨rfl, rfl, fun v hv => goto_of_ne _ p hv, fun _ _ => rfl, ?_, fun _ _ hr => hr, fun _ _ _ hr => hr⟩
  intro j hj
  exact Assoc.get_put_of_ne (fun heq => hj (by rw [heq])) ..

theorem replaced_good (h : Good d) (hb : Busy d w i r)
    (r' : InvocationRecord T) (hw' : r'.worker = w) (hdisp : r'.disposition ≠ .accepted)
    (hphase : r'.phase = r.phase ∨ r'.phase = .resultPending) {p : Place T}
    (hp : p.Serves i r'.outcome.isSome) : Good (replaced d w i r' p) := by
  have hself : (replaced d w i r' p).record i = some r' := Assoc.get_put_self ..
  constructor
  · refine hb.served h (replaced_local d w i r' p) rfl rfl hb.seat hself hw' hdisp (goto_command _ w p) ?_
      (Assoc.nodup_keys_put _ h.seated.nodup)
    change (((_ : Domain T).goto w p).threads w).place.Serves i _
    rw [goto_place]
    exact hp
  · refine h.chronicled.quiet rfl (Nat.le_refl _) (fun _ _ ho => ho) (fun j _ hj => Seated.put_none hb.record hj) ?_ .inl
    intro j s hs
    by_cases hj : j = i
    · subst hj
      cases hself.symm.trans hs
      obtain hphase | hphase := hphase
      · rw [hphase]
        exact h.chronicled.marked j r hb.record
      · exact .inr (.inl hphase)
    · exact h.chronicled.marked j s ((Assoc.get_put_of_ne hj ..).symm.trans hs)

theorem rephased_good (h : Good d) (hseat : d.seat w = some i) {p : WorkerPhase}
    (hp : p.occupant = some i) : Good { d with state := d.state.setPhase w p } := by
  obtain ⟨q, hq, hocc⟩ := phase_of_seat hseat
  constructor
  · refine h.seated.edit rfl rfl rfl rfl (fun _ _ => Iff.rfl) List.length_set ?_ ?_ (fun _ hn => hn) h.seated.nodup ?_
    · intro v
      by_cases hv : v = w
      · subst hv
        exact .inr ⟨i, hseat, (seat_of_phase (seat_set (s := d.state) hq)).trans hp⟩
      · exact .inl (List.getElem?_set_ne (Ne.symm hv))
    · intro j r hr
      exact ⟨r, hr, rfl, rfl, (h.seated.records j r hr).2.1⟩
    · have hfits := h.seated.fits
      change d.call.Fits (d.state.workers.set w p)
      unfold OwnerCall.Fits at hfits ⊢
      split at hfits
      · exact hfits
      · exact hfits
      · rw [hfits q (List.mem_of_getElem? hq)] at hocc
        cases hocc
      · trivial
  · exact h.chronicled.quiet rfl (Nat.le_refl _) (fun _ _ ho => ho) (fun _ _ hn => hn) h.chronicled.marked .inl

theorem publishOutcome_good (h : Good d) (hb : Busy d w i r)
    (hout : r.outcome.isSome = false) {o : WorkerOutcome T} (ho : o.isPanicked = true → ∃ v, .panicked v ∈ d.events) :
    Good (publishOutcome d w i o) := by
  have hg : Good { d with state := d.state.afterCallable o } := by
    refine h.counted rfl rfl rfl ?_
    intro hp
    by_cases hpan : o.isPanicked = true
    · exact .inr (ho hpan)
    · left
      simpa only [DomainState.afterCallable, hpan, Bool.false_and, Bool.false_eq_true, if_false] using hp
  have hb' : Busy { d with state := d.state.afterCallable o } w i r :=
    ⟨hb.seat, hb.record, hb.worker, hb.command, hb.ran, hb.held⟩
  have hr : Assoc.get i (d.state.afterCallable o).active = some r := hb'.record
  unfold publishOutcome
  simp only
  split
  · rw [hr]
    have hset := replaced_good hg hb' { r with outcome := some o, phase := .resultPending } hb.worker
      (hg.seated.records i r hr).2.1 (.inr rfl) (p := .waiting i) ⟨rfl, rfl⟩
    exact rephased_good hset hb'.seat (p := .resultPending i) rfl
  · rw [hr]
    exact replaced_good hg hb' { r with acceptsResult := false, disposition := .fenced } hb.worker (by rintro ⟨⟩) (.inl rfl)
      (p := .dropping i (some o)) ⟨rfl, hout⟩

theorem finishCallable_good (h : Good d) (hlt : w < d.planned)
    (hplace : (d.threads w).place = .calling i) (o : WorkerOutcome T) (killed : Bool) :
    Good (finishCallable d w i o killed) := by
  obtain ⟨r, hb, hout⟩ := h.seated.busy hlt (by rw [hplace]; rfl)
  unfold finishCallable
  simp only
  by_cases hpan : o.isPanicked = true
  · rw [hpan]
    simp only [if_true, Bool.true_and]
    have hg : Good (d.log (.panicked w)) := h.log_plain trivial rfl
    split
    · exact Busy.goto hg (hb.log _) ⟨rfl, hout⟩
    · exact publishOutcome_good hg (hb.log _) hout (fun _ => ⟨w, List.mem_cons_self⟩)
  · simp only [Bool.not_eq_true] at hpan
    rw [hpan]
    simp only [Bool.false_eq_true, if_false, Bool.false_and]
    exact publishOutcome_good h hb hout (fun ht => by rw [hpan] at ht; cases ht)

theorem Seated.busy_waiting (h : Seated d) (hlt : w < d.planned)
    (hplace : (d.threads w).place = .waiting i) (hr : d.record i = some r) : Busy d w i r := by
  have hrested : ¬Rested d w := by
    rintro (hrest | ⟨old, hrest, hgone, -⟩)
    · rw [hplace] at hrest
      cases hrest
    · rw [hplace] at hrest
      cases hrest
      rw [hr] at hgone
      cases hgone
  obtain ⟨j, s, hseat, hs, hw, hc⟩ | ⟨-, hrest⟩ | ⟨-, hstop⟩ | ⟨-, -, hl | hl⟩ := h.whereabouts hlt
  · cases hc with
    | held _ _ hrest => exact absurd hrest hrested
    | queued _ _ hrest => exact absurd hrest hrested
    | served hcall hcommand hran hserves =>
      rw [hplace] at hserves
      obtain ⟨rfl, -⟩ := hserves
      cases hr.symm.trans hs
      exact ⟨hseat, hr, hw, hcommand, hran, hcall⟩
  · exact absurd hrest hrested
  · cases hstop with
    | unwoken hrest => exact absurd hrest hrested
    | woken hrest => exact absurd hrest hrested
    | exiting hexit => rw [hplace] at hexit; cases hexit
  · rw [hplace] at hl
    cases hl
  · rw [hplace] at hl
    cases hl

theorem handoff_good (h : Good d) (hplace : (d.threads w).place = .waiting i)
    (hgone : d.record i = none) : Good (d.goto w .receiving) := by
  have hrest : Rested (d.goto w .receiving) w := .inl (goto_place d w _)
  have hcommand := goto_command d w .receiving
  refine ⟨?_, h.chronicled.threads _⟩
  refine Local.seated (d := d) (w := w) (i := none) ?_ (.of_eq rfl) h.seated nofun nofun (Nat.le_refl _) ?_
    (fun _ hj _ => hj) nofun h.seated.nodup (h.seated.held w) ⟨h.seated.wakes.1, h.seated.wakes.2 w⟩ h.seated.fits
  · exact ⟨rfl, rfl, fun v hv => goto_of_ne d _ hv, fun _ _ => rfl, fun _ _ => rfl, fun _ _ hr => hr, fun _ _ _ hr => hr⟩
  · intro p hp
    have hslot := h.seated.slots w p hp
    have hassigned : ∀ j, Assigned d w j → Assigned (d.goto w .receiving) w j := by
      rintro j ⟨r, hr, hw, hc⟩
      refine ⟨r, hr, hw, ?_⟩
      cases hc with
      | held hcall hnone _ hran hout => exact .held hcall (hcommand.trans hnone) hrest hran hout
      | queued hcall hrun _ hran hout => exact .queued hcall (hcommand.trans hrun) hrest hran hout
      | served _ _ _ hserves =>
        rw [hplace] at hserves
        obtain ⟨rfl, -⟩ := hserves
        rw [hgone] at hr
        cases hr
    cases p with
    | starting => exact hslot
    | idle => exact ⟨hcommand.trans hslot.1, hrest⟩
    | running j => exact hassigned j hslot
    | resultPending j => exact hassigned j hslot
    | wedged j => exact hassigned j hslot
    | stopping =>
      cases hslot with
      | unwoken _ hnone hwake => exact .unwoken hrest (hcommand.trans hnone) hwake
      | woken _ htold hwake => exact .woken hrest (hcommand.trans htold) hwake
      | exiting hexit => rw [hplace] at hexit; cases hexit
    | exited =>
      obtain ⟨-, hl | hl⟩ := hslot
      · rw [hplace] at hl
        cases hl
      · rw [hplace] at hl
        cases hl

theorem observeDisposition_good (h : Good d) (hlt : w < d.planned)
    (hplace : (d.threads w).place = .waiting i) : Good (observeDisposition d w i) := by
  unfold observeDisposition
  split
  · rename_i hgone
    exact handoff_good h hplace hgone
  · rename_i r hr
    have hb := h.seated.busy_waiting hlt hplace hr
    have hdisp := (h.seated.records i r hr).2.1
    have hcleanup : Good (replaced d w i { r with outcome := none } (.dropping i r.outcome)) :=
      replaced_good h hb { r with outcome := none } hb.worker hdisp (.inl rfl) (p := .dropping i r.outcome) ⟨rfl, rfl⟩
    split
    · exact h
    · exact hcleanup
    · exact hcleanup

theorem destroyCleanup_good (h : Good d) (hlt : w < d.planned)
    {cleanup : Option (WorkerOutcome T)} (hplace : (d.threads w).place = .dropping i cleanup) {panicked killed : Bool}
    (hs : destroyCleanup d w i cleanup panicked killed = some d') : Good d' := by
  obtain ⟨r, hb, hout⟩ := h.seated.busy hlt (by rw [hplace]; rfl)
  unfold destroyCleanup at hs
  split at hs
  · have hg : Good (d.log (.destroyed (.worker w) i d.state.workers[w]?)) :=
      h.log_plain ⟨w, rfl, hb.ran, hb.seat⟩ rfl
    cases hs
    split
    · have hpanic : Good ((d.log (.destroyed (.worker w) i d.state.workers[w]?)).log (.panicked w)) :=
        hg.log_plain trivial rfl
      exact Busy.goto hpanic ((hb.log _).log _) ⟨rfl, hout⟩
    · exact Busy.goto hg (hb.log _) (p := .settling i panicked) ⟨rfl, hout⟩
  · split at hs
    · cases hs
    · cases hs
      exact hb.goto h (p := .settling i false) ⟨rfl, hout⟩

theorem freed_busy_good (h : Good d) (hb : Busy d w i r) (closing : Bool) :
    Good ((freed d w i (if closing then .exited else .idle)).goto w (if closing then .leaving else .receiving)) := by
  obtain ⟨q, hq, hocc⟩ := phase_of_seat hb.seat
  have hl := freed_local d w i (if closing then .exited else .idle)
  constructor
  · refine Local.seated_freed (d := d) (p := if closing then .exited else .idle) ?_ (.of_eq rfl) rfl h.seated hb.seat
      (Assoc.get_erase_self ..) (seat_set hq) ?_ ?_ ⟨h.seated.wakes.1, ?_⟩ ?_ (nodup_erase h.seated i)
    · exact ⟨rfl, hl.size, fun v hv => goto_of_ne _ _ hv, hl.phases, hl.records, hl.ran, hl.unrun⟩
    · cases closing with
      | true => exact ⟨(goto_command _ w _).trans hb.command, .inl (goto_place _ w _)⟩
      | false => exact ⟨(goto_command _ w _).trans hb.command, .inl (goto_place _ w _)⟩
    · intro j hj
      cases (h.seated.held w j hj).symm.trans hb.seat
      exact hb.held hj
    · intro hw
      cases (h.seated.wakes.2 w hw).symm.trans hq
      cases hocc
    · have hfits := h.seated.fits
      change d.call.Fits (d.state.workers.set w _)
      unfold OwnerCall.Fits at hfits ⊢
      split at hfits
      · exact hfits
      · exact hfits
      · rw [hfits q (List.mem_of_getElem? hq)] at hocc
        cases hocc
      · trivial
  · exact (h.chronicled.freed w i _).threads _

theorem afterCleanup_good (h : Good d) (panicked : Bool) (hp : panicked = true → ∃ w, .panicked w ∈ d.events) :
    Good { d with state := d.state.afterCleanup panicked } := by
  cases panicked with
  | false => exact h
  | true => exact h.counted rfl rfl rfl (fun _ => .inr (hp rfl))

theorem Busy.settles (hb : Busy d w i r) :
    d.state.settles w i = true := by
  unfold DomainState.settles
  have hr : Assoc.get i d.state.active = some r := hb.record
  have hs : d.state.workers[w]?.bind (·.occupant) = some i := hb.seat
  rw [hr, hs]
  simp [hb.worker]

theorem Busy.cleaned (hb : Busy d w i r) (panicked : Bool) :
    Busy { d with state := d.state.afterCleanup panicked } w i r := by
  cases panicked with
  | false => exact ⟨hb.seat, hb.record, hb.worker, hb.command, hb.ran, hb.held⟩
  | true => exact ⟨hb.seat, hb.record, hb.worker, hb.command, hb.ran, hb.held⟩

theorem settleInvocation_good (h : Good d) (hlt : w < d.planned) {panicked : Bool}
    (hplace : (d.threads w).place = .settling i panicked) : Good (settleInvocation d w i panicked) := by
  obtain ⟨r, hb, hout⟩ := h.seated.busy hlt (by rw [hplace]; rfl)
  unfold settleInvocation
  simp only
  generalize hd : (if panicked = true then d.log (.panicked w) else d) = d₁
  have hg : Good d₁ ∧ Busy d₁ w i r ∧ (panicked = true → ∃ v, .panicked v ∈ d₁.events) := by
    subst hd
    split
    · exact ⟨h.log_plain trivial rfl, hb.log _, fun _ => ⟨w, List.mem_cons_self⟩⟩
    · rename_i hno
      exact ⟨h, hb, fun hyes => absurd hyes hno⟩
  obtain ⟨hg, hb, hpanic⟩ := hg
  have hb' := hb.cleaned panicked
  rw [if_pos hb'.settles]
  have hr : Assoc.get i (d₁.state.afterCleanup panicked).active = some r := hb'.record
  have hclean : ¬((Assoc.get i (d₁.state.afterCleanup panicked).active).any (·.outcome.isSome)) = true := by
    rw [hr]
    simp [hout]
  rw [if_neg hclean]
  exact (freed_busy_good (afterCleanup_good hg panicked hpanic) hb' _).refreshed

/-- **Every step of a worker keeps the invariant.** -/
theorem workerStep_good (h : Good d) (hlt : w < d.planned) {a : WorkerAction T}
    (hs : workerStep a w d = some d') : Good d' := by
  unfold workerStep at hs
  split at hs
  · unfold receive at hs
    split at hs
    · cases hs
    · rename_i hcommand
      cases hs
      exact receiveRun_good h hlt hcommand
    · rename_i hcommand
      cases hs
      exact receiveShutdown_good h hlt hcommand
  · rename_i hplace
    cases hs
    exact finishCallable_good h hlt hplace _ _
  · rename_i hplace
    cases hs
    exact observeDisposition_good h hlt hplace
  · rename_i hplace
    exact destroyCleanup_good h hlt hplace hs
  · rename_i hplace
    cases hs
    exact settleInvocation_good h hlt hplace
  · rename_i hplace
    cases hs
    exact exit_good h hlt hplace
  · rename_i hplace
    cases hs
    exact leave_good h hlt hplace
  · cases hs

/-! ## Runs -/

theorem new_good (planned : Nat) (owner : ThreadDomainOwnerIdentity) : Good (Domain.new planned owner : Domain T) := by
  constructor
  · refine ⟨List.length_replicate, ?_, List.nodup_nil, nofun, nofun, ⟨List.nodup_nil, nofun⟩, trivial⟩
    intro w p hp
    obtain rfl := List.eq_of_mem_replicate (List.mem_of_getElem? hp)
    exact ⟨rfl, .inl rfl⟩
  · exact ⟨nofun, nofun, nofun, nofun, nofun, trivial⟩

theorem step_good (h : Good d) (a : Action T) : Good ((step a d).getD d) := by
  cases hs : step a d with
  | none => exact h
  | some d' =>
    cases a with
    | owner a => exact ownerStep_good h hs
    | drop i => exact dropInvocation_good h hs
    | worker w a =>
      change (if w < d.planned then workerStep a w d else none) = some d' at hs
      split at hs
      · rename_i hlt
        exact workerStep_good h hlt hs
      · cases hs

theorem foldl_good (h : Good d) (actions : List (Action T)) : Good (actions.foldl (fun d a => (step a d).getD d) d) := by
  induction actions generalizing d with
  | nil => exact h
  | cons a actions ih => exact ih (step_good h a)

theorem run_good (planned : Nat) (owner : ThreadDomainOwnerIdentity) (actions : List (Action T)) :
    Good (run planned owner actions) := foldl_good (new_good planned owner) actions

/-! ## Capacity -/

theorem phases_partition (workers : List WorkerPhase) :
    workers.countP (· = .idle) + workers.countP (·.occupant.isSome)
      + workers.countP (fun p => p = .starting ∨ p = .stopping) + workers.countP (· = .exited) = workers.length := by
  induction workers with
  | nil => rfl
  | cons p workers ih =>
    have hone : ∀ p : WorkerPhase, (if p = .idle then 1 else 0) + (if p.occupant.isSome then 1 else 0)
        + (if p = .starting ∨ p = .stopping then 1 else 0) + (if p = .exited then 1 else 0) = 1 := by
      intro p
      cases p <;> rfl
    have hp := hone p
    simp only [List.countP_cons, List.length_cons, decide_eq_true_eq]
    omega

theorem Seated.perm (h : Seated d) : (Assoc.keys d.state.active).Perm (d.state.workers.filterMap (·.occupant)) := by
  refine (List.perm_ext_iff_of_nodup h.nodup ?_).2 ?_
  · refine List.pairwise_filterMap.2 (List.pairwise_iff_getElem.2 ?_)
    intro v w hv hw hlt i hi j hj heq
    subst heq
    have hi' : d.seat v = some i := (seat_of_phase (List.getElem?_eq_getElem hv)).trans hi
    have hj' : d.seat w = some i := (seat_of_phase (List.getElem?_eq_getElem hw)).trans hj
    obtain ⟨r, hr, hrv, -⟩ := h.assigned hi'
    obtain ⟨s, hs, hsw, -⟩ := h.assigned hj'
    cases hr.symm.trans hs
    omega
  · intro i
    rw [List.mem_filterMap]
    constructor
    · intro hi
      cases hr : d.record i with
      | none => exact absurd hi (Assoc.get_eq_none.1 hr)
      | some r =>
        obtain ⟨p, hp, hocc⟩ := phase_of_seat (h.records i r hr).1
        exact ⟨p, List.mem_of_getElem? hp, hocc⟩
    · rintro ⟨p, hp, hocc⟩
      obtain ⟨w, hw⟩ := List.getElem?_of_mem hp
      obtain ⟨r, hr, -⟩ := h.assigned ((seat_of_phase hw).trans hocc)
      exact Assoc.key_of_get hr

theorem Seated.conserves (h : Seated d) : (snapshotFromState d.planned d.state).conservesWorkerCapacity = true := by
  have hparts := phases_partition d.state.workers
  have hactive : d.state.active.length = d.state.workers.countP (·.occupant.isSome) := by
    have hlen := h.perm.length_eq
    rw [List.length_filterMap_eq_countP] at hlen
    rw [← hlen]
    exact (List.length_map ..).symm
  have hexited : d.state.workers.countP (· = .exited) ≤ d.state.workers.length := List.countP_le_length
  rw [h.size] at hparts hexited
  simp only [ThreadDomainSnapshot.conservesWorkerCapacity, snapshotFromState, Bool.and_eq_true]
  exact ⟨⟨decide_eq_true hparts, decide_eq_true (Nat.sub_add_cancel hexited)⟩, decide_eq_true hactive⟩

/-- **One ThreadDomain conserves its workers and leaks no fenced result.**  In every state of every run the counts of the
snapshot add up; every active record has a worker of its own, whose phase names it; a thread inside a callable or a cleanup
works for the invocation its worker is charged with; and the events are in order: a callable runs once, a value is returned
once and never after a fence, a fenced value is destroyed by the worker that ran it and is charged with it, a submission is
refused as undispatched or poisoned only after a panic, and no `panic!` is reached. -/
theorem thread_domain_conserves_and_fences (planned : Nat) (owner : ThreadDomainOwnerIdentity)
    (actions : List (Action T)) :
    let d := run planned owner actions
    (snapshotFromState d.planned d.state).conservesWorkerCapacity = true ∧
    (∀ i r, (i, r) ∈ d.state.active → d.seat r.worker = some i ∧
      ∀ j s, (j, s) ∈ d.state.active → s.worker = r.worker → j = i) ∧
    (∀ w, w < d.planned → ∀ i, (d.threads w).place.task = some i → d.seat w = some i) ∧
    Orderly d.events := by
  intro d
  have h : Good d := run_good planned owner actions
  have hseat : ∀ i r, (i, r) ∈ d.state.active → d.seat r.worker = some i :=
    fun i r hmem => (h.seated.records i r (Assoc.get_of_mem h.seated.nodup hmem)).1
  refine ⟨h.seated.conserves, ?_, ?_, h.chronicled.orderly⟩
  · intro i r hr
    refine ⟨hseat i r hr, ?_⟩
    intro j s hs heq
    have hj := hseat j s hs
    rw [heq, hseat i r hr] at hj
    exact (Option.some.inj hj).symm
  · intro w hlt i ht
    obtain ⟨r, hb, -⟩ := h.seated.busy hlt ht
    exact hb.seat

/-- One worker runs a callable whose value the owner takes with its second poll. -/
example : (run 1 ⟨1, 0⟩ [.owner .submit, .owner .built, .worker 0 .receive, .worker 0 (.finish (.returned 7) false),
    .owner (.take ⟨⟨⟨1, 0⟩, 1, 1⟩, false, false⟩), .owner (.take ⟨⟨⟨1, 0⟩, 1, 1⟩, false, true⟩)]).events.head?
      = some (.answered 1 (.ok (.returned 7))) := rfl

end ParaEgox.ThreadDomain
