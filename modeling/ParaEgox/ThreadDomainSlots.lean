import ParaEgox.ThreadDomain

/-!
# ThreadDomainSlots — what phases, threads, channels and records say of one another

In a `Good` state each worker's phase, thread and channel fit together (`SlotOk`), each record names
a worker whose phase names it back, and the events so far are `Orderly`.  A step touches one worker and one invocation
(`Local`), so that only the slot of that worker has to be looked at again.
-/
namespace ParaEgox.ThreadDomain

variable {T : Type} {d d' : Domain T}

/-! ## What the events must satisfy -/

def Event.Sound (earlier : List (Event T)) : Event T → Prop
  | .ran _ i => ∀ w, .ran w i ∉ earlier
  | .answered i (.ok (.returned _)) =>
    (∀ v, .answered i (.ok (.returned v)) ∉ earlier) ∧ ∀ reason, .fenced i reason ∉ earlier
  | .destroyed party i phase => ∃ w, party = .worker w ∧ .ran w i ∈ earlier ∧ phase.bind (·.occupant) = some i
  | .refused .workerDispatchFailed | .refused .domainPoisoned => ∃ w, .panicked w ∈ earlier
  | .unreachable => False
  | _ => True

def Orderly : List (Event T) → Prop
  | [] => True
  | e :: earlier => e.Sound earlier ∧ Orderly earlier

def Event.subject : Event T → Option InvocationId
  | .ran _ i | .fenced i _ | .answered i (.ok (.returned _)) => some i
  | _ => none

theorem orderly_append_fenced {events : List (Event T)} (h : Orderly events) (reason : FenceReasonCode) :
    ∀ is : List InvocationId, Orderly (is.map (Event.fenced · reason) ++ events)
  | [] => h
  | _ :: is => ⟨trivial, orderly_append_fenced h reason is⟩

/-! ## The invariant -/

def OwnerCall.holding : OwnerCall → Option (Nat × InvocationId)
  | .building w i | .rollingBack w i _ _ => some (w, i)
  | _ => none

/-- The workers `begin_shutdown` has still to wake. -/
def OwnerCall.toWake : OwnerCall → List Nat
  | .waking ws => ws
  | .dispatchFailed w ws => w :: ws
  | _ => []

def Domain.seat (d : Domain T) (w : Nat) : Option InvocationId := d.state.workers[w]?.bind (·.occupant)

def Domain.record (d : Domain T) (i : InvocationId) : Option (InvocationRecord T) := Assoc.get i d.state.active

/-- The thread is at its channel, or about to get there: the owner has taken the result it waits with. -/
def Rested (d : Domain T) (w : Nat) : Prop :=
  (d.threads w).place = .receiving ∨
    ∃ old, (d.threads w).place = .waiting old ∧ d.record old = none ∧ .ran w old ∈ d.events

/-- The thread works for `i`; the record holds the outcome exactly while the thread waits with it. -/
def Place.Serves (i : InvocationId) (hasOutcome : Bool) : Place T → Prop
  | .calling j | .dropping j _ | .settling j _ => j = i ∧ hasOutcome = false
  | .waiting j => j = i ∧ hasOutcome = true
  | .finished panicked => panicked = true ∧ hasOutcome = false
  | .receiving | .exiting | .leaving => False

inductive Charged (d : Domain T) (w : Nat) (i : InvocationId) (r : InvocationRecord T) : Prop
  | held (hcall : d.call.holding = some (w, i)) (hcommand : (d.threads w).command = none) (hrest : Rested d w)
      (hran : ∀ v, .ran v i ∉ d.events) (hout : r.outcome.isSome = false)
  | queued (hcall : d.call.holding ≠ some (w, i)) (hcommand : (d.threads w).command = some (.run i)) (hrest : Rested d w)
      (hran : ∀ v, .ran v i ∉ d.events) (hout : r.outcome.isSome = false)
  | served (hcall : d.call.holding ≠ some (w, i)) (hcommand : (d.threads w).command = none) (hran : .ran w i ∈ d.events)
      (hplace : (d.threads w).place.Serves i r.outcome.isSome)

inductive Stopping (d : Domain T) (w : Nat) : Prop
  | unwoken (hrest : Rested d w) (hcommand : (d.threads w).command = none) (hwake : w ∈ d.call.toWake)
  | woken (hrest : Rested d w) (hcommand : (d.threads w).command = some .shutdown) (hwake : w ∉ d.call.toWake)
  | exiting (hplace : (d.threads w).place = .exiting) (hcommand : (d.threads w).command = none) (hwake : w ∉ d.call.toWake)

def Assigned (d : Domain T) (w : Nat) (i : InvocationId) : Prop :=
  ∃ r, d.record i = some r ∧ r.worker = w ∧ Charged d w i r

def SlotOk (d : Domain T) (w : Nat) : WorkerPhase → Prop
  | .starting => False
  | .idle => (d.threads w).command = none ∧ Rested d w
  | .running i | .resultPending i | .wedged i => Assigned d w i
  | .stopping => Stopping d w
  | .exited => (d.threads w).command = none ∧ ((d.threads w).place = .leaving ∨ (d.threads w).place = .finished false)

def OwnerCall.Fits (call : OwnerCall) (workers : List WorkerPhase) : Prop :=
  match call with
  | .rollingBack _ _ poison e => poison = false ∧ e = .callableBuildPanicked
  | .dispatchFailed .. => False
  | .joining .. => ∀ p ∈ workers, p = .exited
  | _ => True

structure Seated (d : Domain T) : Prop where
  size : d.state.workers.length = d.planned
  slots : ∀ w p, d.state.workers[w]? = some p → SlotOk d w p
  nodup : (Assoc.keys d.state.active).Nodup
  records : ∀ i r, d.record i = some r → d.seat r.worker = some i ∧ r.disposition ≠ .accepted ∧
    i.toNat ≤ d.nextInvocation.toNat
  held : ∀ w i, d.call.holding = some (w, i) → d.seat w = some i
  wakes : d.call.toWake.Nodup ∧ ∀ w ∈ d.call.toWake, d.state.workers[w]? = some .stopping
  fits : d.call.Fits d.state.workers

structure Chronicled (d : Domain T) : Prop where
  known : ∀ e ∈ d.events, ∀ i, e.subject = some i → i.toNat ≤ d.nextInvocation.toNat
  fences : ∀ i reason, .fenced i reason ∈ d.events → d.state.reason i ≠ .opened
  taken : ∀ i v, .answered i (.ok (.returned v)) ∈ d.events → d.record i = none
  marked : ∀ i r, d.record i = some r → r.phase = .running ∨ r.phase = .resultPending ∨ d.state.reason i ≠ .opened
  poisoned : d.state.lifecycle = .poisoned → ∃ w, .panicked w ∈ d.events
  orderly : Orderly d.events

structure Good (d : Domain T) : Prop where
  seated : Seated d
  chronicled : Chronicled d

/-! ## Slots that a step leaves alone -/

/-- Nothing that the slot of worker `w` depends on has changed. -/
structure Kept (d d' : Domain T) (w : Nat) : Prop where
  command : (d'.threads w).command = (d.threads w).command
  place : (d'.threads w).place = (d.threads w).place
  held : ∀ i, d'.call.holding = some (w, i) ↔ d.call.holding = some (w, i)
  wake : w ∈ d'.call.toWake ↔ w ∈ d.call.toWake
  gone : ∀ old, .ran w old ∈ d.events → d.record old = none → d'.record old = none
  mine : ∀ i r, d.record i = some r → r.worker = w →
    ∃ r', d'.record i = some r' ∧ r'.worker = w ∧ r'.outcome.isSome = r.outcome.isSome
  ran : ∀ v i, .ran v i ∈ d.events → .ran v i ∈ d'.events
  unrun : ∀ i r, d.record i = some r → r.worker = w → ∀ v, .ran v i ∈ d'.events → .ran v i ∈ d.events

variable {w : Nat} {i : InvocationId} {p : WorkerPhase}

theorem Kept.rested (h : Kept d d' w) (hr : Rested d w) : Rested d' w := by
  unfold Rested
  rw [h.place]
  obtain hr | ⟨old, hw, hgone, hran⟩ := hr
  · exact .inl hr
  · exact .inr ⟨old, hw, h.gone old hran hgone, h.ran _ _ hran⟩

theorem Kept.assigned (h : Kept d d' w) (ha : Assigned d w i) : Assigned d' w i := by
  obtain ⟨r, hr, hw, hc⟩ := ha
  obtain ⟨r', hr', hw', hout⟩ := h.mine i r hr hw
  refine ⟨r', hr', hw', ?_⟩
  cases hc with
  | held hcall hcommand hrest hran ho =>
    exact .held ((h.held i).2 hcall) (h.command.trans hcommand) (h.rested hrest)
      (fun v hv => hran v (h.unrun i r hr hw v hv)) (hout.trans ho)
  | queued hcall hcommand hrest hran ho =>
    exact .queued (fun hc => hcall ((h.held i).1 hc)) (h.command.trans hcommand) (h.rested hrest)
      (fun v hv => hran v (h.unrun i r hr hw v hv)) (hout.trans ho)
  | served hcall hcommand hran hplace =>
    refine .served (fun hc => hcall ((h.held i).1 hc)) (h.command.trans hcommand) (h.ran _ _ hran) ?_
    rw [h.place, hout]
    exact hplace

theorem Kept.stopping (h : Kept d d' w) (hs : Stopping d w) : Stopping d' w := by
  cases hs with
  | unwoken hrest hcommand hwake => exact .unwoken (h.rested hrest) (h.command.trans hcommand) (h.wake.2 hwake)
  | woken hrest hcommand hwake =>
    exact .woken (h.rested hrest) (h.command.trans hcommand) (fun hw => hwake (h.wake.1 hw))
  | exiting hplace hcommand hwake =>
    exact .exiting (h.place.trans hplace) (h.command.trans hcommand) (fun hw => hwake (h.wake.1 hw))

theorem Kept.slotOk (h : Kept d d' w) (hs : SlotOk d w p) : SlotOk d' w p := by
  cases p with
  | starting => exact hs
  | idle => exact ⟨h.command.trans hs.1, h.rested hs.2⟩
  | running i => exact h.assigned hs
  | resultPending i => exact h.assigned hs
  | wedged i => exact h.assigned hs
  | stopping => exact h.stopping hs
  | exited =>
    unfold SlotOk
    rw [h.command, h.place]
    exact hs

theorem slotOk_of_occupant (h : p.occupant = some i) : SlotOk d w p ↔ Assigned d w i := by
  cases p with
  | running j => cases h; exact Iff.rfl
  | resultPending j => cases h; exact Iff.rfl
  | wedged j => cases h; exact Iff.rfl
  | starting => cases h
  | idle => cases h
  | stopping => cases h
  | exited => cases h

/-! ## Steps that touch one worker and one invocation -/

/-- Only worker `w` and invocation `i` differ. -/
structure Local (w : Nat) (i : Option InvocationId) (d d' : Domain T) : Prop where
  planned : d'.planned = d.planned
  size : d'.state.workers.length = d.state.workers.length
  threads : ∀ v, v ≠ w → d'.threads v = d.threads v
  phases : ∀ v, v ≠ w → d'.state.workers[v]? = d.state.workers[v]?
  records : ∀ j, some j ≠ i → d'.record j = d.record j
  ran : ∀ v j, .ran v j ∈ d.events → .ran v j ∈ d'.events
  unrun : ∀ v j, some j ≠ i → .ran v j ∈ d'.events → .ran v j ∈ d.events

/-- The call under way concerns worker `w` alone, before and after. -/
structure CallKept (w : Nat) (d d' : Domain T) : Prop where
  held : ∀ v i, v ≠ w → (d'.call.holding = some (v, i) ↔ d.call.holding = some (v, i))
  wake : ∀ v, v ≠ w → (v ∈ d'.call.toWake ↔ v ∈ d.call.toWake)

theorem CallKept.of_eq (h : d'.call = d.call) : CallKept w d d' := by
  constructor
  · intro v i _
    rw [h]
  · intro v _
    rw [h]

theorem Seated.assigned (h : Seated d) (hs : d.seat w = some i) : Assigned d w i := by
  unfold Domain.seat at hs
  obtain ⟨p, hp, hocc⟩ := Option.bind_eq_some_iff.1 hs
  exact (slotOk_of_occupant hocc).1 (h.slots w p hp)

theorem Local.seat {v : Nat} {i : Option InvocationId} (hl : Local w i d d') (hv : v ≠ w) : d'.seat v = d.seat v := by
  unfold Domain.seat
  rw [hl.phases v hv]

theorem Local.kept {v : Nat} {i : Option InvocationId} (hl : Local w i d d') (hc : CallKept w d d') (hv : v ≠ w)
    (hmine : ∀ j r, i = some j → d.record j = some r → r.worker = w)
    (hgone : ∀ j u, i = some j → .ran u j ∈ d.events → d.record j = none → d'.record j = none) : Kept d d' v := by
  have huntouched : ∀ j r, d.record j = some r → r.worker = v → some j ≠ i := by
    intro j r hr hw heq
    exact hv (hw.symm.trans (hmine j r heq.symm hr))
  refine ⟨by rw [hl.threads v hv], by rw [hl.threads v hv], fun j => hc.held v j hv, hc.wake v hv, ?_, ?_, hl.ran, ?_⟩
  · intro old hran hnone
    by_cases heq : some old = i
    · exact hgone old v heq.symm hran hnone
    · rw [hl.records old heq]
      exact hnone
  · intro j r hr hw
    exact ⟨r, by rw [hl.records j (huntouched j r hr hw)]; exact hr, hw, rfl⟩
  · intro j r hr hw u hran
    exact hl.unrun u j (huntouched j r hr hw) hran

/-- **After a local step only the worker and the invocation it touched need a look.** -/
theorem Local.seated {i : Option InvocationId} (hl : Local w i d d') (hc : CallKept w d d') (h : Seated d)
    (hmine : ∀ j r, i = some j → d.record j = some r → r.worker = w)
    (hgone : ∀ j u, i = some j → .ran u j ∈ d.events → d.record j = none → d'.record j = none)
    (hnext : d.nextInvocation.toNat ≤ d'.nextInvocation.toNat)
    (hslot : ∀ p, d'.state.workers[w]? = some p → SlotOk d' w p)
    (hseat : ∀ j, d.seat w = some j → some j ≠ i → d'.seat w = some j)
    (hrecord : ∀ j r, i = some j → d'.record j = some r → d'.seat r.worker = some j ∧ r.disposition ≠ .accepted ∧
      j.toNat ≤ d'.nextInvocation.toNat)
    (hnodup : (Assoc.keys d'.state.active).Nodup)
    (hheld : ∀ j, d'.call.holding = some (w, j) → d'.seat w = some j)
    (hwakes : d'.call.toWake.Nodup ∧ (w ∈ d'.call.toWake → d'.state.workers[w]? = some .stopping))
    (hfits : d'.call.Fits d'.state.workers) : Seated d' := by
  refine ⟨hl.size.trans (h.size.trans hl.planned.symm), ?_, hnodup, ?_, ?_, ⟨hwakes.1, ?_⟩, hfits⟩
  · intro v p hp
    by_cases hv : v = w
    · subst hv
      exact hslot p hp
    · rw [hl.phases v hv] at hp
      exact (hl.kept hc hv hmine hgone).slotOk (h.slots v p hp)
  · intro j r hr
    by_cases heq : some j = i
    · exact hrecord j r heq.symm hr
    · rw [hl.records j heq] at hr
      obtain ⟨hs, hdisp, hle⟩ := h.records j r hr
      refine ⟨?_, hdisp, Nat.le_trans hle hnext⟩
      by_cases hv : r.worker = w
      · rw [hv] at hs ⊢
        exact hseat j hs heq
      · rw [hl.seat hv]
        exact hs
  · intro v j hj
    by_cases hv : v = w
    · subst hv
      exact hheld j hj
    · rw [hl.seat hv]
      exact h.held v j ((hc.held v j hv).1 hj)
  · intro v hwake
    by_cases hv : v = w
    · subst hv
      exact hwakes.2 hwake
    · rw [hl.phases v hv]
      exact h.wakes.2 v ((hc.wake v hv).1 hwake)

theorem Local.seated_served {r' : InvocationRecord T} (hl : Local w (some i) d d')
    (hcall : d'.call = d.call) (hnext : d'.nextInvocation = d.nextInvocation) (h : Seated d) (hseat : d.seat w = some i)
    (hseat' : d'.seat w = some i) (hr' : d'.record i = some r') (hw' : r'.worker = w) (hdisp : r'.disposition ≠ .accepted)
    (hheld : d.call.holding ≠ some (w, i)) (hcommand : (d'.threads w).command = none) (hran : .ran w i ∈ d'.events)
    (hplace : (d'.threads w).place.Serves i r'.outcome.isSome) (hnodup : (Assoc.keys d'.state.active).Nodup) : Seated d' := by
  obtain ⟨r, hr, hw, -⟩ := h.assigned hseat
  refine hl.seated (.of_eq hcall) h ?_ ?_ (by rw [hnext]) ?_ ?_ ?_ hnodup ?_ ?_ ?_
  · rintro j s ⟨⟩ hs
    rw [hr] at hs
    cases hs
    exact hw
  · rintro j u ⟨⟩ - hnone
    rw [hr] at hnone
    cases hnone
  · intro p hp
    obtain ⟨q, hq, hocc⟩ := Option.bind_eq_some_iff.1 hseat'
    rw [hp] at hq
    cases hq
    rw [slotOk_of_occupant hocc]
    exact ⟨r', hr', hw', .served (by rw [hcall]; exact hheld) hcommand hran hplace⟩
  · intro j hj hne
    rw [hseat] at hj
    cases hj
    exact absurd rfl hne
  · rintro j s ⟨⟩ hs
    rw [hr'] at hs
    cases hs
    rw [hw', hnext]
    exact ⟨hseat', hdisp, (h.records i r hr).2.2⟩
  · intro j hj
    rw [hcall] at hj
    rw [h.held w j hj] at hseat
    cases hseat
    exact absurd hj hheld
  · rw [hcall]
    refine ⟨h.wakes.1, ?_⟩
    intro hwake
    unfold Domain.seat at hseat
    rw [h.wakes.2 w hwake] at hseat
    cases hseat
  · have hfits := h.fits
    rw [hcall]
    unfold OwnerCall.Fits at hfits ⊢
    split at hfits
    · exact hfits
    · exact hfits
    · obtain ⟨q, hq, hocc⟩ := Option.bind_eq_some_iff.1 hseat
      rw [hfits q (List.mem_of_getElem? hq)] at hocc
      cases hocc
    · trivial

theorem Local.seated_freed (hl : Local w (some i) d d')
    (hc : CallKept w d d') (hnext : d'.nextInvocation = d.nextInvocation) (h : Seated d) (hseat : d.seat w = some i)
    (hr' : d'.record i = none) (hp : d'.state.workers[w]? = some p) (hslot : SlotOk d' w p)
    (hheld : ∀ j, d'.call.holding ≠ some (w, j)) (hwakes : d'.call.toWake.Nodup ∧ w ∉ d'.call.toWake)
    (hfits : d'.call.Fits d'.state.workers) (hnodup : (Assoc.keys d'.state.active).Nodup) : Seated d' := by
  obtain ⟨r, hr, hw, -⟩ := h.assigned hseat
  refine hl.seated hc h ?_ ?_ (by rw [hnext]) ?_ ?_ ?_ hnodup ?_ ⟨hwakes.1, fun hwake => absurd hwake hwakes.2⟩ hfits
  · rintro j s ⟨⟩ hs
    rw [hr] at hs
    cases hs
    exact hw
  · rintro j u ⟨⟩ - -
    exact hr'
  · intro q hq
    rw [hp] at hq
    cases hq
    exact hslot
  · intro j hj hne
    rw [hseat] at hj
    cases hj
    exact absurd rfl hne
  · rintro j s ⟨⟩ hs
    rw [hr'] at hs
    cases hs
  · intro j hj
    exact absurd hj (hheld j)

theorem Seated.recall (h : Seated d) (hplanned : d'.planned = d.planned) (hworkers : d'.state.workers = d.state.workers)
    (hactive : d'.state.active = d.state.active) (hnext : d'.nextInvocation = d.nextInvocation)
    (hcommand : ∀ v, (d'.threads v).command = (d.threads v).command) (hplace : ∀ v, (d'.threads v).place = (d.threads v).place)
    (hheld : d'.call.holding = d.call.holding) (hwake : d'.call.toWake = d.call.toWake)
    (hran : ∀ v i, .ran v i ∈ d'.events ↔ .ran v i ∈ d.events) (hfits : d'.call.Fits d'.state.workers) : Seated d' := by
  have hrecord : d'.record = d.record := by
    funext i
    unfold Domain.record
    rw [hactive]
  have hseat : d'.seat = d.seat := by
    funext w
    unfold Domain.seat
    rw [hworkers]
  have hkept : ∀ v, Kept d d' v := by
    intro v
    refine ⟨hcommand v, hplace v, fun i => by rw [hheld], by rw [hwake], ?_, ?_, fun u i => (hran u i).2, ?_⟩
    · intro old _ hnone
      rw [hrecord]
      exact hnone
    · intro i r hr hw
      exact ⟨r, by rw [hrecord]; exact hr, hw, rfl⟩
    · intro i r _ _ u
      exact (hran u i).1
  refine ⟨by rw [hworkers, hplanned]; exact h.size, ?_, by rw [hactive]; exact h.nodup, ?_, ?_, ?_, hfits⟩
  · intro w p hp
    rw [hworkers] at hp
    exact (hkept w).slotOk (h.slots w p hp)
  · intro i r hr
    rw [hrecord] at hr
    rw [hseat, hnext]
    exact h.records i r hr
  · intro w i hi
    rw [hheld] at hi
    rw [hseat]
    exact h.held w i hi
  · rw [hwake, hworkers]
    exact h.wakes

theorem Seated.edit (h : Seated d) (hplanned : d'.planned = d.planned) (hthreads : d'.threads = d.threads)
    (hcall : d'.call = d.call) (hnext : d'.nextInvocation = d.nextInvocation)
    (hran : ∀ v i, .ran v i ∈ d'.events ↔ .ran v i ∈ d.events)
    (hsize : d'.state.workers.length = d.state.workers.length)
    (hphase : ∀ v, d'.state.workers[v]? = d.state.workers[v]? ∨ ∃ i, d.seat v = some i ∧ d'.seat v = some i)
    (hsome : ∀ i r, d.record i = some r → ∃ r', d'.record i = some r' ∧ r'.worker = r.worker ∧
      r'.outcome.isSome = r.outcome.isSome ∧ r'.disposition ≠ .accepted)
    (hnone : ∀ i, d.record i = none → d'.record i = none)
    (hnodup : (Assoc.keys d'.state.active).Nodup) (hfits : d'.call.Fits d'.state.workers) : Seated d' := by
  have hseat : ∀ v, d'.seat v = d.seat v := by
    intro v
    obtain heq | ⟨i, hi, hi'⟩ := hphase v
    · unfold Domain.seat
      rw [heq]
    · rw [hi, hi']
  have hkept : ∀ v, Kept d d' v := by
    intro v
    refine ⟨by rw [hthreads], by rw [hthreads], fun i => by rw [hcall], by rw [hcall], fun old _ => hnone old, ?_,
      fun u i => (hran u i).2, ?_⟩
    · intro i r hr hw
      obtain ⟨r', hr', hw', hout, -⟩ := hsome i r hr
      exact ⟨r', hr', hw'.trans hw, hout⟩
    · intro i r _ _ u
      exact (hran u i).1
  refine ⟨hsize.trans (h.size.trans hplanned.symm), ?_, hnodup, ?_, ?_, ?_, hfits⟩
  · intro w p hp
    obtain heq | ⟨i, hi, hi'⟩ := hphase w
    · rw [heq] at hp
      exact (hkept w).slotOk (h.slots w p hp)
    · obtain ⟨q, hq, hocc⟩ := Option.bind_eq_some_iff.1 hi'
      rw [hp] at hq
      cases hq
      exact (slotOk_of_occupant hocc).2 ((hkept w).assigned (h.assigned hi))
  · intro i r' hr'
    cases hr : d.record i with
    | none =>
      rw [hnone i hr] at hr'
      cases hr'
    | some r =>
      obtain ⟨s, hs, hw, -, hdisp⟩ := hsome i r hr
      rw [hr'] at hs
      cases hs
      rw [hw, hseat, hnext]
      exact ⟨(h.records i r hr).1, hdisp, (h.records i r hr).2.2⟩
  · intro w i hi
    rw [hcall] at hi
    rw [hseat]
    exact h.held w i hi
  · rw [hcall]
    refine ⟨h.wakes.1, ?_⟩
    intro w hw
    obtain heq | ⟨i, hi, -⟩ := hphase w
    · rw [heq]
      exact h.wakes.2 w hw
    · unfold Domain.seat at hi
      rw [h.wakes.2 w hw] at hi
      cases hi

/-! ## Events -/

theorem Chronicled.quiet (h : Chronicled d) (hevents : d'.events = d.events)
    (hnext : d.nextInvocation.toNat ≤ d'.nextInvocation.toNat)
    (hreason : ∀ i, i.toNat ≤ d.nextInvocation.toNat → d.state.reason i ≠ .opened → d'.state.reason i ≠ .opened)
    (hgone : ∀ i, i.toNat ≤ d.nextInvocation.toNat → d.record i = none → d'.record i = none)
    (hmarked : ∀ i r, d'.record i = some r → r.phase = .running ∨ r.phase = .resultPending ∨ d'.state.reason i ≠ .opened)
    (hpoison : d'.state.lifecycle = .poisoned → d.state.lifecycle = .poisoned ∨ ∃ w, .panicked w ∈ d.events) :
    Chronicled d' := by
  refine ⟨?_, ?_, ?_, hmarked, ?_, by rw [hevents]; exact h.orderly⟩
  · intro e he i hi
    rw [hevents] at he
    exact Nat.le_trans (h.known e he i hi) hnext
  · intro i reason hf
    rw [hevents] at hf
    exact hreason i (h.known _ hf i rfl) (h.fences i reason hf)
  · intro i v ht
    rw [hevents] at ht
    exact hgone i (h.known _ ht i rfl) (h.taken i v ht)
  · intro hl
    rw [hevents]
    obtain hl | hp := hpoison hl
    · exact h.poisoned hl
    · exact hp

theorem Chronicled.same (h : Chronicled d) (hevents : d'.events = d.events) (hstate : d'.state = d.state)
    (hnext : d'.nextInvocation = d.nextInvocation) : Chronicled d' := by
  have hrecord : d'.record = d.record := by
    funext i
    unfold Domain.record
    rw [hstate]
  refine h.quiet hevents (Nat.le_of_eq (congrArg _ hnext.symm)) ?_ ?_ ?_ ?_ <;> simp only [hstate, hrecord]
  · exact fun _ _ ho => ho
  · exact fun _ _ hn => hn
  · exact h.marked
  · exact .inl

theorem Chronicled.log (h : Chronicled d) {e : Event T} (hs : e.Sound d.events)
    (hsubject : ∀ i, e.subject = some i → i.toNat ≤ d.nextInvocation.toNat)
    (hfence : ∀ i reason, e = .fenced i reason → d.state.reason i ≠ .opened)
    (htake : ∀ i v, e = .answered i (.ok (.returned v)) → d.record i = none) : Chronicled (d.log e) := by
  refine ⟨?_, ?_, ?_, h.marked, ?_, hs, h.orderly⟩
  · intro e' he' i hi
    obtain rfl | he' := List.mem_cons.1 he'
    · exact hsubject i hi
    · exact h.known e' he' i hi
  · intro i reason hf
    obtain heq | hf := List.mem_cons.1 hf
    · exact hfence i reason heq.symm
    · exact h.fences i reason hf
  · intro i v ht
    obtain heq | ht := List.mem_cons.1 ht
    · exact htake i v heq.symm
    · exact h.taken i v ht
  · intro hl
    obtain ⟨w, hw⟩ := h.poisoned hl
    exact ⟨w, List.mem_cons_of_mem _ hw⟩

theorem Chronicled.log_plain (h : Chronicled d) {e : Event T} (hs : e.Sound d.events) (hsubject : e.subject = none) :
    Chronicled (d.log e) := by
  refine h.log hs ?_ ?_ ?_
  · intro i hi
    rw [hsubject] at hi
    cases hi
  · rintro i reason rfl
    cases hsubject
  · rintro i v rfl
    cases hsubject

theorem mem_log_ran {e : Event T} (he : ∀ w i, e ≠ .ran w i) (v : Nat) (j : InvocationId) :
    .ran v j ∈ (d.log e).events ↔ .ran v j ∈ d.events := by
  constructor
  · intro hmem
    obtain heq | hmem := List.mem_cons.1 hmem
    · exact absurd heq.symm (he v j)
    · exact hmem
  · exact List.mem_cons_of_mem e

theorem Seated.log (h : Seated d) {e : Event T} (he : ∀ w i, e ≠ .ran w i) : Seated (d.log e) :=
  h.recall rfl rfl rfl rfl (fun _ => rfl) (fun _ => rfl) rfl rfl (mem_log_ran he) h.fits

theorem Good.log_plain (h : Good d) {e : Event T} (hs : e.Sound d.events) (hsubject : e.subject = none) : Good (d.log e) :=
  ⟨h.seated.log (fun _ _ heq => by rw [heq] at hsubject; cases hsubject), h.chronicled.log_plain hs hsubject⟩

end ParaEgox.ThreadDomain
