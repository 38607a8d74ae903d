import Mathlib.Algebra.BigOperators.Group.Finset.Basic
import Mathlib.Algebra.BigOperators.Ring.Finset
import Mathlib.Algebra.Order.BigOperators.Group.Finset
import Mathlib.Data.List.TakeWhile
import Mathlib.Order.Interval.Finset.Nat
import Mathlib.Logic.Relation

/-!
# SerialServer — how long an item waits for a serial server

A server serves the items of bounded queues one at a time, in any order of the queues and first in first out in each, and is
never idle while an item waits.  An item then starts after at most one callback that was running, the items before it in its
queue, and what the other queues hold and receive while it waits.
-/
namespace SerialServer

variable {ι : Type} [DecidableEq ι]

/-- The queues of a server: how long an item of each occupies it, how many items each holds, and how many arrive in each
window of one length, whose windows begin at a phase. -/
structure Queues (ι : Type) where
  members : Finset ι
  occupancy : ι → Nat
  capacity : ι → Nat
  arrivals : ι → Nat
  window : Nat
  phase : ι → Nat

structure Admission (ι : Type) where
  item : Nat
  queue : ι
  time : Nat
  deriving DecidableEq

/-- The clock, the queues, what is running since when, and what was admitted, started and displaced, newest first. -/
structure State (ι : Type) where
  now : Nat
  queues : ι → List Nat
  running : Option (ι × Nat)
  admitted : List (Admission ι)
  started : List (Nat × Nat)
  displaced : List Nat

def State.start (now : Nat) : State ι := ⟨now, fun _ => [], none, [], [], []⟩

def Queues.windowOf (q : Queues ι) (i : ι) (time : Nat) : Nat := (time + q.phase i) / q.window

def State.within (q : Queues ι) (s : State ι) (i : ι) (k : Nat) : List (Admission ι) :=
  s.admitted.filter fun a => a.queue = i ∧ q.windowOf i a.time = k

def State.receive (s : State ι) (i : ι) (item : Nat) : State ι :=
  { s with queues := Function.update s.queues i (s.queues i ++ [item]), admitted := ⟨item, i, s.now⟩ :: s.admitted }

def State.displace (s : State ι) (i : ι) (item : Nat) : State ι :=
  { s with queues := Function.update s.queues i ((s.queues i).erase item), displaced := item :: s.displaced }

def State.serve (s : State ι) (i : ι) (item : Nat) (rest : List Nat) : State ι :=
  { s with queues := Function.update s.queues i rest, running := some (i, s.now), started := (item, s.now) :: s.started }

/-- One step: an item arrives or is displaced, the idle server starts the head of some queue, what runs finishes, and time
passes while something runs within its occupancy or while nothing waits. -/
inductive Step (q : Queues ι) (s : State ι) : State ι → Prop
  | receive (i : ι) (item : Nat) (hi : i ∈ q.members) (hnew : ∀ a ∈ s.admitted, a.item ≠ item)
      (hroom : (s.queues i).length < q.capacity i)
      (hrate : (s.within q i (q.windowOf i s.now)).length < q.arrivals i) :
      Step q s (s.receive i item)
  | displace (i : ι) (item : Nat) (hitem : item ∈ s.queues i) : Step q s (s.displace i item)
  | serve (i : ι) (item : Nat) (rest : List Nat) (hi : i ∈ q.members) (hidle : s.running = none)
      (hhead : s.queues i = item :: rest) : Step q s (s.serve i item rest)
  | finish (i : ι) (since : Nat) (hruns : s.running = some (i, since)) : Step q s { s with running := none }
  | run (d : Nat) (i : ι) (since : Nat) (hruns : s.running = some (i, since))
      (hbudget : s.now + d ≤ since + q.occupancy i) : Step q s { s with now := s.now + d }
  | rest (d : Nat) (hidle : s.running = none) (hempty : ∀ i ∈ q.members, s.queues i = []) :
      Step q s { s with now := s.now + d }

def Reachable (q : Queues ι) (s : State ι) : Prop := ∃ now, Relation.ReflTransGen (Step q) (State.start now) s

/-! ## What every run keeps -/

/-- **The books of a run**: what is queued was admitted there once, the admissions are in the order of time and within their
windows, and what runs is within its occupancy. -/
structure Sound (q : Queues ι) (s : State ι) : Prop where
  room : ∀ i ∈ q.members, (s.queues i).length ≤ q.capacity i
  known : ∀ i, ∀ item ∈ s.queues i, ∃ a ∈ s.admitted, a.item = item ∧ a.queue = i
  once : ∀ i, (s.queues i).Nodup
  distinct : (s.admitted.map Admission.item).Nodup
  past : ∀ a ∈ s.admitted, a.time ≤ s.now
  ordered : s.admitted.Pairwise fun newer older => older.time ≤ newer.time
  rate : ∀ i k, (s.within q i k).length ≤ q.arrivals i
  running : ∀ i since, s.running = some (i, since) →
    i ∈ q.members ∧ since ≤ s.now ∧ s.now ≤ since + q.occupancy i
  begun : ∀ p ∈ s.started, ∃ a ∈ s.admitted, a.item = p.1

variable {q : Queues ι} {s t : State ι} {c : ι} {a b : Admission ι} {item : Nat}

theorem Sound.same_of_item (h : Sound q s) (ha : a ∈ s.admitted) (hb : b ∈ s.admitted) (hitem : a.item = b.item) : a = b :=
  List.inj_on_of_nodup_map h.distinct ha hb hitem

theorem sound_start (now : Nat) : Sound q (State.start now : State ι) where
  room _ _ := Nat.zero_le _
  known _ _ h := by cases h
  once _ := List.nodup_nil
  distinct := List.nodup_nil
  past _ h := by cases h
  ordered := List.Pairwise.nil
  rate _ _ := Nat.zero_le _
  running _ _ h := by cases h
  begun _ h := by cases h

variable {i j : ι} {f g : ι → Nat} {x : Nat}

theorem Sound.shrink (h : Sound q s) {kept : List Nat} (hkept : kept.Sublist (s.queues i))
    (hrunning : ∀ j since, t.running = some (j, since) →
      j ∈ q.members ∧ since ≤ t.now ∧ t.now ≤ since + q.occupancy j)
    (hstarted : ∀ p ∈ t.started, p ∈ s.started ∨ p.1 ∈ s.queues i)
    (hqueues : t.queues = Function.update s.queues i kept) (hadmitted : t.admitted = s.admitted) (hnow : t.now = s.now) :
    Sound q t := by
  have hsub : ∀ j, (t.queues j).Sublist (s.queues j) := by
    intro j
    rw [hqueues]
    by_cases hj : j = i
    · subst hj
      rwa [Function.update_self]
    · rw [Function.update_of_ne hj]
  have hwithin : ∀ j k, t.within q j k = s.within q j k := by
    intro j k
    unfold State.within
    rw [hadmitted]
  refine ⟨fun j hj => (hsub j).length_le.trans (h.room j hj), fun j x hx => ?_, fun j => (h.once j).sublist (hsub j), ?_, ?_, ?_,
    fun j k => hwithin j k ▸ h.rate j k, hrunning, fun p hp => ?_⟩
  · rw [hadmitted]
    exact h.known j x ((hsub j).subset hx)
  · rw [hadmitted]
    exact h.distinct
  · rw [hadmitted, hnow]
    exact h.past
  · rw [hadmitted]
    exact h.ordered
  · rw [hadmitted]
    rcases hstarted p hp with hp | hp
    · exact h.begun p hp
    · obtain ⟨a, ha, hitem, -⟩ := h.known i p.1 hp
      exact ⟨a, ha, hitem⟩

theorem Sound.arrive (h : Sound q s) (hnew : ∀ a ∈ s.admitted, a.item ≠ item)
    (hroom : (s.queues i).length < q.capacity i) (hrate : (s.within q i (q.windowOf i s.now)).length < q.arrivals i) :
    Sound q (s.receive i item) where
  room j hj := by
    dsimp only [State.receive]
    by_cases hij : j = i
    · subst hij
      rw [Function.update_self, List.length_append]
      exact hroom
    · rw [Function.update_of_ne hij]
      exact h.room j hj
  known j x hx := by
    dsimp only [State.receive] at hx
    by_cases hij : j = i
    · subst hij
      rw [Function.update_self, List.mem_append, List.mem_singleton] at hx
      rcases hx with hx | rfl
      · obtain ⟨a, ha, hsame⟩ := h.known j x hx
        exact ⟨a, List.mem_cons_of_mem _ ha, hsame⟩
      · exact ⟨_, List.mem_cons_self, rfl, rfl⟩
    · rw [Function.update_of_ne hij] at hx
      obtain ⟨a, ha, hsame⟩ := h.known j x hx
      exact ⟨a, List.mem_cons_of_mem _ ha, hsame⟩
  once j := by
    dsimp only [State.receive]
    by_cases hij : j = i
    · subst hij
      rw [Function.update_self, List.nodup_append]
      refine ⟨h.once j, List.nodup_singleton _, fun x hx y hy hxy => ?_⟩
      obtain ⟨a, ha, hsame, -⟩ := h.known j x hx
      exact hnew a ha (hsame.trans (hxy.trans (List.mem_singleton.1 hy)))
    · rw [Function.update_of_ne hij]
      exact h.once j
  distinct := by
    dsimp only [State.receive]
    rw [List.map_cons, List.nodup_cons]
    refine ⟨fun hitem => ?_, h.distinct⟩
    obtain ⟨a, ha, hsame⟩ := List.mem_map.1 hitem
    exact hnew a ha hsame
  past a ha := by
    rcases List.mem_cons.1 ha with rfl | ha
    · exact le_rfl
    · exact h.past a ha
  ordered := List.pairwise_cons.2 ⟨fun a ha => h.past a ha, h.ordered⟩
  rate j k := by
    dsimp only [State.within, State.receive]
    rw [List.filter_cons]
    split
    · next hhere =>
      simp only [decide_eq_true_eq] at hhere
      obtain ⟨rfl, rfl⟩ := hhere
      exact hrate
    · exact h.rate j k
  running := h.running
  begun p hp := by
    obtain ⟨a, ha, hitem⟩ := h.begun p hp
    exact ⟨a, List.mem_cons_of_mem _ ha, hitem⟩

theorem Sound.step (h : Sound q s) (hstep : Step q s t) : Sound q t := by
  cases hstep with
  | receive i item _ hnew hroom hrate => exact h.arrive hnew hroom hrate
  | displace i item _ => exact h.shrink List.erase_sublist h.running (fun _ => .inl) rfl rfl rfl
  | serve i item rest hi _ hhead =>
    have hkept : rest.Sublist (s.queues i) := by
      rw [hhead]
      exact List.sublist_cons_self _ _
    refine h.shrink hkept (fun j since hruns => ?_) (fun p hp => ?_) rfl rfl rfl
    · cases hruns
      exact ⟨hi, le_rfl, Nat.le_add_right _ _⟩
    · rw [hhead]
      rcases List.mem_cons.1 hp with rfl | hp
      · exact .inr List.mem_cons_self
      · exact .inl hp
  | finish i since _ =>
    exact ⟨h.room, h.known, h.once, h.distinct, h.past, h.ordered, h.rate,
      (fun _ _ hruns => by cases hruns), h.begun⟩
  | run d i since hruns hbudget =>
    refine ⟨h.room, h.known, h.once, h.distinct, fun a ha => (h.past a ha).trans (Nat.le_add_right _ _), h.ordered, h.rate, ?_,
      h.begun⟩
    intro j since' hruns'
    obtain ⟨rfl, rfl⟩ := Prod.mk.inj (Option.some.inj (hruns.symm.trans hruns'))
    have hrunning := h.running _ _ hruns
    exact ⟨hrunning.1, hrunning.2.1.trans (Nat.le_add_right _ _), hbudget⟩
  | rest d hidle _ =>
    refine ⟨h.room, h.known, h.once, h.distinct, fun a ha => (h.past a ha).trans (Nat.le_add_right _ _), h.ordered, h.rate, ?_,
      h.begun⟩
    intro j since hruns
    cases hidle.symm.trans hruns

theorem Reachable.sound (h : Reachable q s) : Sound q s := by
  obtain ⟨now, hrun⟩ := h
  induction hrun with
  | refl => exact sound_start now
  | tail _ hstep ih => exact ih.step hstep

/-! ## Work -/

def Queues.work (q : Queues ι) (c : ι) (count : ι → Nat) : Nat := ∑ p ∈ q.members.erase c, q.occupancy p * count p

theorem work_le (h : ∀ p ∈ q.members.erase c, f p ≤ g p) : q.work c f ≤ q.work c g :=
  Finset.sum_le_sum fun p hp => Nat.mul_le_mul_left _ (h p hp)

theorem work_same (h : ∀ p ∈ q.members.erase c, f p = g p) : q.work c f = q.work c g :=
  Finset.sum_congr rfl fun p hp => congrArg _ (h p hp)

theorem work_more (hi : i ∈ q.members.erase c) (hhere : g i = f i + 1)
    (h : ∀ p, p ≠ i → g p = f p) : q.work c g = q.work c f + q.occupancy i := by
  unfold Queues.work
  rw [← Finset.add_sum_erase _ _ hi, ← Finset.add_sum_erase _ (fun p => q.occupancy p * f p) hi, hhere]
  have hrest : ∑ p ∈ (q.members.erase c).erase i, q.occupancy p * g p =
      ∑ p ∈ (q.members.erase c).erase i, q.occupancy p * f p :=
    Finset.sum_congr rfl fun p hp => congrArg _ (h p (Finset.ne_of_mem_erase hp))
  rw [hrest, Nat.mul_succ]
  omega

/-! ## Arrivals while an item waits -/

def State.since (s : State ι) (a : Admission ι) : List (Admission ι) := s.admitted.takeWhile fun b => b.item ≠ a.item

def State.arrivedSince (s : State ι) (a : Admission ι) (p : ι) : Nat := (s.since a).countP fun b => b.queue = p

def Queues.horizon (q : Queues ι) (span : Nat) : Nat := (span + (q.window - 1)) / q.window + 1

theorem div_span {window span y : Nat} (hwindow : 0 < window) (h : y < x + span) :
    y / window + 1 ≤ x / window + ((span + (window - 1)) / window + 1) := by
  have hx : x < window * (x / window) + window := Nat.lt_mul_div_succ x hwindow
  have hy : y ≤ window * (x / window) + (span + (window - 1)) := by omega
  have hdiv := Nat.div_le_div_right (c := window) hy
  rw [Nat.mul_add_div hwindow] at hdiv
  omega

theorem Sound.between (h : Sound q s) (ha : a ∈ s.admitted) (hb : b ∈ s.since a) :
    b ∈ s.admitted ∧ a.time ≤ b.time ∧ b.time ≤ s.now := by
  have hmem : b ∈ s.admitted := (List.takeWhile_sublist _).subset hb
  refine ⟨hmem, ?_, h.past b hmem⟩
  have hsplit := List.takeWhile_append_dropWhile (p := fun b : Admission ι => b.item ≠ a.item) (l := s.admitted)
  have hordered := h.ordered
  rw [← hsplit, List.pairwise_append] at hordered
  refine hordered.2.2 b hb a ?_
  rw [← hsplit, List.mem_append] at ha
  rcases ha with ha | ha
  · have hne := List.mem_takeWhile_imp ha
    rw [decide_eq_true_eq] at hne
    exact absurd rfl hne
  · exact ha

theorem Sound.arrivedSince_le (h : Sound q s) (ha : a ∈ s.admitted) (hwindow : 0 < q.window) {span : Nat}
    (hnow : s.now < a.time + span) (p : ι) : s.arrivedSince a p ≤ q.horizon span * q.arrivals p := by
  have hnodup : ((s.since a).filter fun b => b.queue = p).Nodup :=
    ((List.Nodup.of_map _ h.distinct).sublist (List.takeWhile_sublist _)).sublist List.filter_sublist
  have hmaps : ∀ b ∈ ((s.since a).filter fun b => b.queue = p).toFinset,
      q.windowOf p b.time ∈ Finset.Icc (q.windowOf p a.time) (q.windowOf p s.now) := by
    intro b hb
    have hb := (h.between ha (List.mem_of_mem_filter (List.mem_toFinset.1 hb))).2
    exact Finset.mem_Icc.2 ⟨Nat.div_le_div_right (Nat.add_le_add_right hb.1 _),
      Nat.div_le_div_right (Nat.add_le_add_right hb.2 _)⟩
  have hcard := Finset.card_le_mul_card_image_of_maps_to hmaps (q.arrivals p) fun k _ => ?_
  · rw [List.toFinset_card_of_nodup hnodup, ← List.countP_eq_length_filter, Nat.card_Icc, Nat.mul_comm] at hcard
    refine hcard.trans (Nat.mul_le_mul_right _ ?_)
    have hspan : s.now + q.phase p < a.time + q.phase p + span := by omega
    exact Nat.sub_le_iff_le_add'.2 (div_span hwindow hspan)
  · refine le_trans (Finset.card_le_card fun b hb => ?_) ((List.toFinset_card_le _).trans (h.rate p k))
    rw [Finset.mem_filter, List.mem_toFinset, List.mem_filter] at hb
    have hqueue : b.queue = p := of_decide_eq_true hb.1.2
    exact List.mem_toFinset.2 (List.mem_filter.2 ⟨(h.between ha hb.1.1).1, decide_eq_true ⟨hqueue, hb.2⟩⟩)

/-! ## Waiting -/

def State.free (q : Queues ι) (s : State ι) : Nat :=
  match s.running with
  | none => s.now
  | some (i, since) => since + q.occupancy i

/-- What an item of a queue waits for at most, while it waits no longer than the span. -/
def Queues.bound (q : Queues ι) (carry span : Nat) (c : ι) : Nat :=
  carry + (q.capacity c - 1) * q.occupancy c + q.work c fun p => q.capacity p + q.horizon span * q.arrivals p

/-- **What a waiting item has left to wait for is paid for**: by the callback that ran and the items that were before it when
it was admitted, and by what has arrived at the other queues since. -/
structure Waiting (q : Queues ι) (carry span : Nat) (s : State ι) (a : Admission ι) : Prop where
  arrived : ∀ p ∈ q.members.erase a.queue, s.arrivedSince a p ≤ q.horizon span * q.arrivals p
  paid : s.free q + (s.queues a.queue).idxOf a.item * q.occupancy a.queue + q.work a.queue (fun p => (s.queues p).length) ≤
    a.time + carry + (q.capacity a.queue - 1) * q.occupancy a.queue +
      q.work a.queue fun p => q.capacity p + s.arrivedSince a p

variable {carry span : Nat}

theorem Sound.now_le_free (h : Sound q s) : s.now ≤ s.free q := by
  unfold State.free
  split
  · exact le_rfl
  · next i since hruns => exact (h.running i since hruns).2.2

theorem Waiting.free_lt (h : Waiting q carry span s a) (hbound : q.bound carry span a.queue < span) :
    s.free q < a.time + span := by
  have hpaid := h.paid
  have hwork : q.work a.queue (fun p => q.capacity p + s.arrivedSince a p) ≤
      q.work a.queue fun p => q.capacity p + q.horizon span * q.arrivals p :=
    work_le fun p hp => Nat.add_le_add_left (h.arrived p hp) _
  unfold Queues.bound at hbound
  omega

theorem arrivedSince_receive (i : ι) (hnew : a.item ≠ item) (p : ι) :
    (s.receive i item).arrivedSince a p = s.arrivedSince a p + if p = i then 1 else 0 := by
  dsimp only [State.arrivedSince, State.since, State.receive]
  rw [List.takeWhile_cons_of_pos (by simpa using Ne.symm hnew), List.countP_cons]
  by_cases hp : p = i
  · simp [hp]
  · simp [hp, Ne.symm hp]

theorem arrivedSince_fresh (i : ι) (p : ι) : (s.receive i item).arrivedSince ⟨item, i, s.now⟩ p = 0 := by
  dsimp only [State.arrivedSince, State.since, State.receive]
  rw [List.takeWhile_cons_of_neg (by simp)]
  rfl

theorem Sound.waiting (h : Sound q s) (hcarry : ∀ i ∈ q.members, q.occupancy i ≤ carry)
    (hnew : ∀ a ∈ s.admitted, a.item ≠ item) (hroom : (s.queues i).length < q.capacity i) :
    Waiting q carry span (s.receive i item) ⟨item, i, s.now⟩ where
  arrived p _ := by
    rw [arrivedSince_fresh]
    exact Nat.zero_le _
  paid := by
    have hfree : (s.receive i item).free q ≤ s.now + carry := by
      dsimp only [State.free, State.receive]
      split
      · exact Nat.le_add_right _ _
      · next j since hruns =>
        have hrunning := h.running j since hruns
        exact Nat.add_le_add hrunning.2.1 (hcarry j hrunning.1)
    have hfirst : ((s.receive i item).queues i).idxOf item = (s.queues i).length := by
      have habsent : item ∉ s.queues i := by
        intro hitem
        obtain ⟨a, ha, hsame, -⟩ := h.known i item hitem
        exact hnew a ha hsame
      dsimp only [State.receive]
      rw [Function.update_self, List.idxOf_append_of_notMem habsent, List.idxOf_cons_self, Nat.add_zero]
    have hown : (s.queues i).length * q.occupancy i ≤ (q.capacity i - 1) * q.occupancy i :=
      Nat.mul_le_mul_right _ (Nat.le_sub_one_of_lt hroom)
    have hothers : q.work i (fun p => ((s.receive i item).queues p).length) ≤
        q.work i fun p => q.capacity p + (s.receive i item).arrivedSince ⟨item, i, s.now⟩ p := by
      refine work_le fun p hp => ?_
      obtain ⟨hne, hmem⟩ := Finset.mem_erase.1 hp
      dsimp only [State.receive]
      rw [Function.update_of_ne hne]
      exact (h.room p hmem).trans (Nat.le_add_right _ _)
    dsimp only
    rw [hfirst]
    omega

theorem Sound.queue_of_mem (h : Sound q s) (ha : a ∈ s.admitted) (hitem : a.item ∈ s.queues i) : a.queue = i := by
  obtain ⟨b, hb, hsame, hqueue⟩ := h.known i a.item hitem
  rw [h.same_of_item ha hb hsame.symm]
  exact hqueue

theorem idxOf_erase_le {y : Nat} (hne : x ≠ y) : ∀ {l : List Nat}, (l.erase y).idxOf x ≤ l.idxOf x
  | [] => le_rfl
  | z :: l => by
    by_cases hzy : z = y
    · subst hzy
      rw [List.erase_cons_head, List.idxOf_cons_ne _ (Ne.symm hne)]
      exact Nat.le_succ _
    · rw [List.erase_cons_tail (by simpa using hzy)]
      by_cases hzx : z = x
      · subst hzx
        rw [List.idxOf_cons_self, List.idxOf_cons_self]
      · rw [List.idxOf_cons_ne _ hzx, List.idxOf_cons_ne _ hzx]
        exact Nat.succ_le_succ (idxOf_erase_le hne)

theorem Waiting.step (h : Waiting q carry span s a) (hs : Sound q s) (hbound : q.bound carry span a.queue < span)
    (hwindow : 0 < q.window) (ha : a ∈ s.admitted) (hmember : a.queue ∈ q.members) (hitem : a.item ∈ s.queues a.queue)
    (hstep : Step q s t) (hstill : a.item ∈ t.queues a.queue) : Waiting q carry span t a := by
  have hfree := h.free_lt hbound
  have hpaid := h.paid
  cases hstep with
  | receive i item hi hnew hroom hrate =>
    have hdifferent : a.item ≠ item := hnew a ha
    have hsound := hs.arrive hnew hroom hrate
    have hnow : (s.receive i item).now < a.time + span := Nat.lt_of_le_of_lt hs.now_le_free hfree
    refine ⟨fun p _ => hsound.arrivedSince_le (List.mem_cons_of_mem _ ha) hwindow hnow p, ?_⟩
    have hfirst : ((s.receive i item).queues a.queue).idxOf a.item = (s.queues a.queue).idxOf a.item := by
      dsimp only [State.receive]
      by_cases hown : a.queue = i
      · rw [hown, Function.update_self, List.idxOf_append_of_mem (hown ▸ hitem)]
      · rw [Function.update_of_ne hown]
    rw [hfirst]
    show s.free q + _ + _ ≤ _
    by_cases hpeer : i ∈ q.members.erase a.queue
    · -- one more callback of the queue, and one more arrival to pay for it
      have hlengths : q.work a.queue (fun p => ((s.receive i item).queues p).length) =
          q.work a.queue (fun p => (s.queues p).length) + q.occupancy i := by
        refine work_more hpeer ?_ fun p hp => ?_
        · simp [State.receive]
        · simp [State.receive, Function.update_of_ne hp]
      have harrivals : q.work a.queue (fun p => q.capacity p + (s.receive i item).arrivedSince a p) =
          q.work a.queue (fun p => q.capacity p + s.arrivedSince a p) + q.occupancy i := by
        refine work_more hpeer ?_ fun p hp => ?_
        · rw [arrivedSince_receive i hdifferent, if_pos rfl, Nat.add_assoc]
        · rw [arrivedSince_receive i hdifferent, if_neg hp, Nat.add_zero]
      omega
    · have hother : ∀ p ∈ q.members.erase a.queue, p ≠ i := fun p hp heq => hpeer (heq ▸ hp)
      have hlengths : q.work a.queue (fun p => ((s.receive i item).queues p).length) =
          q.work a.queue fun p => (s.queues p).length :=
        work_same fun p hp => by simp [State.receive, Function.update_of_ne (hother p hp)]
      have harrivals : q.work a.queue (fun p => q.capacity p + (s.receive i item).arrivedSince a p) =
          q.work a.queue fun p => q.capacity p + s.arrivedSince a p :=
        work_same fun p hp => by rw [arrivedSince_receive i hdifferent, if_neg (hother p hp), Nat.add_zero]
      omega
  | displace i item hdropped =>
    refine ⟨h.arrived, le_trans (Nat.add_le_add (Nat.add_le_add_left ?_ _) ?_) hpaid⟩
    · refine Nat.mul_le_mul_right _ ?_
      dsimp only [State.displace] at hstill ⊢
      by_cases hown : a.queue = i
      · subst hown
        rw [Function.update_self] at hstill ⊢
        by_cases hself : a.item = item
        · subst hself
          exact absurd hstill (hs.once _).not_mem_erase
        · exact idxOf_erase_le hself
      · rw [Function.update_of_ne hown]
    · refine work_le fun p _ => ?_
      dsimp only [State.displace]
      by_cases hp : p = i
      · subst hp
        rw [Function.update_self]
        exact List.length_erase_le
      · rw [Function.update_of_ne hp]
  | serve i item rest hi hidle hhead =>
    refine ⟨h.arrived, ?_⟩
    have hidleFree : s.free q = s.now := by
      unfold State.free
      rw [hidle]
    have hbusyFree : (s.serve i item rest).free q = s.now + q.occupancy i := rfl
    have harrivals : q.work a.queue (fun p => q.capacity p + (s.serve i item rest).arrivedSince a p) =
        q.work a.queue fun p => q.capacity p + s.arrivedSince a p := rfl
    rw [hbusyFree, harrivals]
    by_cases hown : a.queue = i
    · -- an item of its own queue that was before it
      subst hown
      dsimp only [State.serve] at hstill ⊢
      rw [Function.update_self] at hstill ⊢
      have hbefore : item ≠ a.item := by
        have honce := hs.once a.queue
        rw [hhead, List.nodup_cons] at honce
        exact fun heq => honce.1 (heq ▸ hstill)
      have hlengths : q.work a.queue (fun p => (Function.update s.queues a.queue rest p).length) =
          q.work a.queue fun p => (s.queues p).length :=
        work_same fun p hp => by rw [Function.update_of_ne (Finset.ne_of_mem_erase hp)]
      rw [hhead, List.idxOf_cons_ne _ hbefore, Nat.succ_mul] at hpaid
      rw [hlengths]
      omega
    · have hpeer : i ∈ q.members.erase a.queue := Finset.mem_erase.2 ⟨Ne.symm hown, hi⟩
      have hlengths : q.work a.queue (fun p => (s.queues p).length) =
          q.work a.queue (fun p => ((s.serve i item rest).queues p).length) + q.occupancy i := by
        refine work_more hpeer ?_ fun p hp => ?_
        · simp [State.serve, hhead]
        · simp [State.serve, Function.update_of_ne hp]
      have hfirst : ((s.serve i item rest).queues a.queue).idxOf a.item = (s.queues a.queue).idxOf a.item := by
        dsimp only [State.serve]
        rw [Function.update_of_ne hown]
      rw [hfirst]
      omega
  | finish i since hruns =>
    refine ⟨h.arrived, le_trans (Nat.add_le_add_right (Nat.add_le_add_right hs.now_le_free _) _) hpaid⟩
  | run d i since hruns hbudget =>
    refine ⟨h.arrived, ?_⟩
    have hsame : State.free q { s with now := s.now + d } = s.free q := by
      unfold State.free
      rw [hruns]
    rw [hsame]
    exact hpaid
  | rest d hidle hempty =>
    rw [hempty a.queue hmember] at hitem
    cases hitem

/-! ## Starting -/

/-- **Where an admitted item is**: it waits, it was displaced, or it was started in time. -/
structure Timely (q : Queues ι) (carry span : Nat) (s : State ι) (a : Admission ι) : Prop where
  waits : a.item ∈ s.queues a.queue → Waiting q carry span s a
  intime : ∀ time, (a.item, time) ∈ s.started → time < a.time + span
  accounted : a.item ∈ s.queues a.queue ∨ a.item ∈ s.displaced ∨ ∃ time, (a.item, time) ∈ s.started

theorem mem_update {queues : ι → List Nat} {l : List Nat} :
    x ∈ Function.update queues i l j ↔ j = i ∧ x ∈ l ∨ j ≠ i ∧ x ∈ queues j := by
  by_cases hj : j = i
  · subst hj
    simp
  · simp [hj]

theorem Step.mem_of_mem (h : Step q s t) (ha : a ∈ s.admitted) (hitem : a.item ∈ t.queues j) :
    a.item ∈ s.queues j := by
  cases h with
  | receive i item hi hnew hroom hrate =>
    rcases mem_update.1 hitem with ⟨rfl, hitem⟩ | ⟨-, hitem⟩
    · exact (List.mem_append.1 hitem).resolve_right fun hlast => hnew a ha (List.mem_singleton.1 hlast)
    · exact hitem
  | displace i item hdropped =>
    rcases mem_update.1 hitem with ⟨rfl, hitem⟩ | ⟨-, hitem⟩
    · exact List.mem_of_mem_erase hitem
    · exact hitem
  | serve i item rest hi hidle hhead =>
    rcases mem_update.1 hitem with ⟨hj, hkept⟩ | ⟨-, hkept⟩
    · rw [hj, hhead]
      exact List.mem_cons_of_mem _ hkept
    · exact hkept
  | finish => exact hitem
  | run => exact hitem
  | rest => exact hitem

theorem Step.leaves (h : Step q s t) (hitem : x ∈ s.queues j) :
    x ∈ t.queues j ∨ x ∈ t.displaced ∨ ∃ time, (x, time) ∈ t.started := by
  cases h with
  | receive i item hi hnew hroom hrate =>
    refine .inl (mem_update.2 ?_)
    by_cases hj : j = i
    · exact .inl ⟨hj, List.mem_append_left _ (hj ▸ hitem)⟩
    · exact .inr ⟨hj, hitem⟩
  | displace i item hdropped =>
    by_cases hself : x = item
    · exact .inr (.inl (hself ▸ List.mem_cons_self))
    · refine .inl (mem_update.2 ?_)
      by_cases hj : j = i
      · exact .inl ⟨hj, (List.mem_erase_of_ne hself).2 (hj ▸ hitem)⟩
      · exact .inr ⟨hj, hitem⟩
  | serve i item rest hi hidle hhead =>
    by_cases hself : x = item
    · exact .inr (.inr ⟨s.now, hself ▸ List.mem_cons_self⟩)
    · refine .inl (mem_update.2 ?_)
      by_cases hj : j = i
      · rw [hj, hhead, List.mem_cons] at hitem
        exact .inl ⟨hj, hitem.resolve_left hself⟩
      · exact .inr ⟨hj, hitem⟩
  | finish => exact .inl hitem
  | run => exact .inl hitem
  | rest => exact .inl hitem

theorem Step.logs (h : Step q s t) : (∀ x ∈ s.displaced, x ∈ t.displaced) ∧ (∀ p ∈ s.started, p ∈ t.started) ∧
    ∀ p ∈ t.started, p ∈ s.started ∨ p.2 = s.now ∧ ∃ i, p.1 ∈ s.queues i := by
  cases h with
  | serve i item rest hi hidle hhead =>
    refine ⟨fun _ hx => hx, fun _ hp => List.mem_cons_of_mem _ hp, fun p hp => ?_⟩
    rcases List.mem_cons.1 hp with rfl | hp
    · refine .inr ⟨rfl, i, ?_⟩
      rw [hhead]
      exact List.mem_cons_self
    · exact .inl hp
  | displace => exact ⟨fun _ hx => List.mem_cons_of_mem _ hx, fun _ hp => hp, fun _ hp => .inl hp⟩
  | _ => exact ⟨fun _ hx => hx, fun _ hp => hp, fun _ hp => .inl hp⟩

theorem Timely.step (h : Timely q carry span s a) (hs : Sound q s) (hbound : q.bound carry span a.queue < span)
    (hwindow : 0 < q.window) (ha : a ∈ s.admitted) (hmember : a.queue ∈ q.members) (hstep : Step q s t) :
    Timely q carry span t a where
  waits hstill := by
    have hitem := hstep.mem_of_mem ha hstill
    exact (h.waits hitem).step hs hbound hwindow ha hmember hitem hstep hstill
  intime time htime := by
    rcases hstep.logs.2.2 _ htime with hbefore | ⟨rfl, i, hitem⟩
    · exact h.intime time hbefore
    · -- the item starts now, and it was waiting until now
      have hqueue := hs.queue_of_mem ha hitem
      exact Nat.lt_of_le_of_lt hs.now_le_free ((h.waits (hqueue ▸ hitem)).free_lt hbound)
  accounted := by
    rcases h.accounted with hitem | hgone | ⟨time, hbegun⟩
    · exact hstep.leaves hitem
    · exact .inr (.inl (hstep.logs.1 _ hgone))
    · exact .inr (.inr ⟨time, hstep.logs.2.1 _ hbegun⟩)

theorem Sound.timely (h : Sound q s) (hcarry : ∀ i ∈ q.members, q.occupancy i ≤ carry)
    (hnew : ∀ a ∈ s.admitted, a.item ≠ item) (hroom : (s.queues i).length < q.capacity i) :
    Timely q carry span (s.receive i item) ⟨item, i, s.now⟩ where
  waits _ := h.waiting hcarry hnew hroom
  intime time htime := by
    obtain ⟨a, ha, hsame⟩ := h.begun _ htime
    exact absurd hsame (hnew a ha)
  accounted := by
    refine .inl ?_
    dsimp only [State.receive]
    rw [Function.update_self]
    exact List.mem_append_right _ List.mem_cons_self

/-- **The items of a queue whose bound is below the span are timely** in every run. -/
theorem Reachable.timely (h : Reachable q s) (hcarry : ∀ i ∈ q.members, q.occupancy i ≤ carry) (hwindow : 0 < q.window)
    (hc : c ∈ q.members) (hbound : q.bound carry span c < span) :
    ∀ a ∈ s.admitted, a.queue = c → Timely q carry span s a := by
  obtain ⟨now, hrun⟩ := h
  induction hrun with
  | refl =>
    intro a ha
    cases ha
  | @tail m t hm hstep ih =>
    intro a ha hqueue
    subst hqueue
    have hsound : Sound q m := Reachable.sound ⟨now, hm⟩
    have hold : a ∈ m.admitted → Timely q carry span t a := fun hmem =>
      (ih a hmem rfl).step hsound hbound hwindow hmem hc hstep
    cases hstep with
    | receive i item _ hnew hroom =>
      rcases List.mem_cons.1 ha with rfl | hmem
      · exact hsound.timely hcarry hnew hroom
      · exact hold hmem
    | _ => exact hold ha

/-- **An item starts in time**: strictly before the span is over, and if it was not displaced it has started by then. -/
theorem Reachable.starts (h : Reachable q s) (hcarry : ∀ i ∈ q.members, q.occupancy i ≤ carry) (hwindow : 0 < q.window)
    (hc : c ∈ q.members) (hbound : q.bound carry span c < span) (ha : a ∈ s.admitted) (hqueue : a.queue = c) :
    (∀ time, (a.item, time) ∈ s.started → time < a.time + span) ∧
      (a.item ∉ s.displaced → a.time + span ≤ s.now → ∃ time, (a.item, time) ∈ s.started) := by
  have htimely := h.timely hcarry hwindow hc hbound a ha hqueue
  refine ⟨htimely.intime, fun hkept hover => ?_⟩
  rcases htimely.accounted with hitem | hgone | hbegun
  · subst hqueue
    have hfree := (htimely.waits hitem).free_lt hbound
    have hnow := h.sound.now_le_free
    omega
  · exact absurd hgone hkept
  · exact hbegun

end SerialServer
