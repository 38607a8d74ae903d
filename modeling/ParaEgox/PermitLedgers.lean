import ParaEgox.DispatchRuns

/-!
# PermitLedgers — the permits of several ledgers, over any interleaving

Several ledgers hand out permits and take them back, each release with any token there is: one of the ledger's own, one of
another ledger, one already given back.  The world counts nothing itself; it keeps what was handed out, for which class,
and which releases succeeded.
-/
namespace ParaEgox
namespace Dispatch

open Check Stateful

/-- A permit that was handed out, as its holder has it, and the class it was asked for. -/
structure IssuedPermit where
  token : DomainPermitToken
  slotClass : DispatchClass

/-- The ledgers, every permit they ever issued, and the successful releases as ledger and permit, newest first. -/
structure PermitWorld where
  ledgers : List DomainPermitLedger
  issued : List IssuedPermit
  releases : List (Nat × Nat)

inductive PermitMove
  | openLedger (id : DomainPermitLedgerId) (total controlReserved : Nat) (total_le : total ≤ u32Max)
  | acquire (ledger : Nat) (slotClass : DispatchClass)
  | release (ledger permit : Nat)

structure DomainPermitSnapshot where
  total : Nat
  controlReserved : Nat
  sharedInUse : Nat
  controlReservedInUse : Nat

def DomainPermitSnapshot.inUse (s : DomainPermitSnapshot) : Nat := s.sharedInUse + s.controlReservedInUse

def DomainPermitLedger.snapshot (l : DomainPermitLedger) : Except PermitError DomainPermitSnapshot := do
  l.validateState
  pure ⟨l.total, l.controlReserved, l.sharedInUse, l.controlReservedInUse⟩

namespace PermitWorld

def empty : PermitWorld := ⟨[], [], []⟩

def openLedger (w : PermitWorld) (id : DomainPermitLedgerId) (total controlReserved : Nat) (total_le : total ≤ u32Max) :
    PermitWorld :=
  if id ∈ w.ledgers.map (·.id) then w
  else match DomainPermitLedger.tryNew id total controlReserved total_le with
    | .ok l => { w with ledgers := w.ledgers ++ [l] }
    | .error _ => w

def acquire (w : PermitWorld) (k : Nat) (c : DispatchClass) : PermitWorld :=
  match w.ledgers[k]? with
  | none => w
  | some l => match DomainPermitLedger.tryAcquire c l with
    | (.ok (some token), l') => { w with ledgers := w.ledgers.set k l', issued := w.issued ++ [⟨token, c⟩] }
    | (.ok none, l') | (.error _, l') => { w with ledgers := w.ledgers.set k l' }

def release (w : PermitWorld) (k t : Nat) : PermitWorld :=
  match w.ledgers[k]?, w.issued[t]? with
  | some l, some permit => match DomainPermitLedger.release permit.token l with
    | (.ok token, l') =>
      { ledgers := w.ledgers.set k l', issued := w.issued.set t { permit with token }, releases := (k, t) :: w.releases }
    | (.error _, l') => { w with ledgers := w.ledgers.set k l' }
  | _, _ => w

def step (w : PermitWorld) : PermitMove → PermitWorld
  | .openLedger id total controlReserved total_le => w.openLedger id total controlReserved total_le
  | .acquire k c => w.acquire k c
  | .release k t => w.release k t

inductive Reachable : PermitWorld → Prop
  | empty : Reachable empty
  | step {w : PermitWorld} (move : PermitMove) : Reachable w → Reachable (w.step move)

def out (w : PermitWorld) (l : DomainPermitLedger) (test : IssuedPermit → Bool) : Nat :=
  w.issued.countP fun i => i.token.active && decide (i.token.ledger = l.id) && test i

/-! ## What every world keeps -/

def name (i : IssuedPermit) : DomainPermitLedgerId × Nat := (i.token.ledger, i.token.permitId)

/-- **The invariant of the worlds**: a ledger records exactly its active permits, and no two permits share a name. -/
structure Kept (w : PermitWorld) : Prop where
  ids : (w.ledgers.map (·.id)).Nodup
  ok : ∀ l ∈ w.ledgers, l.LedgerOk
  recorded : ∀ l ∈ w.ledgers, ∀ a, a ∈ l.active ↔
    ∃ i ∈ w.issued, i.token.active = true ∧ i.token.ledger = l.id ∧ a = ⟨i.token.permitId, i.token.pool⟩
  numbered : ∀ l ∈ w.ledgers, ∀ i ∈ w.issued, i.token.ledger = l.id → i.token.permitId ≤ l.nextPermitId
  homes : ∀ i ∈ w.issued, i.token.ledger ∈ w.ledgers.map (·.id)
  names : (w.issued.map name).Nodup
  reserve : ∀ i ∈ w.issued, i.token.pool = .controlReserved → i.slotClass = .control
  spent : ∀ t ∈ w.releases.map Prod.snd, ∃ i, w.issued[t]? = some i ∧ i.token.active = false
  once : (w.releases.map Prod.snd).Nodup

theorem Kept.empty : Kept PermitWorld.empty := by
  refine ⟨List.nodup_nil, ?_, ?_, ?_, ?_, List.nodup_nil, ?_, ?_, List.nodup_nil⟩ <;> simp [PermitWorld.empty]

variable {k : Nat} {w : PermitWorld} {l : DomainPermitLedger}

theorem map_set_key {α κ : Type} {key : α → κ} {xs : List α} {x x' : α} (hx : xs[k]? = some x)
    (hkey : key x' = key x) : (xs.set k x').map key = xs.map key := by
  obtain ⟨hlt, hget⟩ := List.getElem?_eq_some_iff.1 hx
  rw [List.map_set, hkey, ← hget]
  have hlt' : k < (xs.map key).length := by rwa [List.length_map]
  rw [← List.getElem_map key (h := hlt'), List.set_getElem_self]

theorem mem_set_key {α κ : Type} {key : α → κ} {xs : List α} (hnodup : (xs.map key).Nodup) {x x' : α}
    (hx : xs[k]? = some x) {y : α} : y ∈ xs.set k x' ↔ y = x' ∨ y ∈ xs ∧ key y ≠ key x := by
  obtain ⟨hlt, hget⟩ := List.getElem?_eq_some_iff.1 hx
  constructor
  · intro hy
    obtain ⟨j, hj⟩ := List.mem_iff_getElem?.1 hy
    rw [List.getElem?_set, if_pos hlt] at hj
    by_cases hkj : k = j
    · rw [if_pos hkj] at hj
      exact .inl (Option.some.inj hj).symm
    · rw [if_neg hkj] at hj
      refine .inr ⟨List.mem_of_getElem? hj, fun hsame => hkj ?_⟩
      have hlt' : k < (xs.map key).length := by rwa [List.length_map]
      refine (List.getElem?_inj hlt' hnodup).1 ?_
      rw [List.getElem?_map, List.getElem?_map, hx, hj, Option.map_some, Option.map_some, hsame]
  · rintro (rfl | ⟨hy, hne⟩)
    · exact List.mem_set hlt _
    · obtain ⟨j, hj⟩ := List.mem_iff_getElem?.1 hy
      refine List.mem_iff_getElem?.2 ⟨j, ?_⟩
      rw [List.getElem?_set, if_neg ?_]
      · exact hj
      · rintro rfl
        rw [hx] at hj
        cases hj
        exact hne rfl

theorem Kept.openLedger (h : Kept w) (id : DomainPermitLedgerId) (total controlReserved : Nat)
    (total_le : total ≤ u32Max) : Kept (w.openLedger id total controlReserved total_le) := by
  unfold PermitWorld.openLedger
  by_cases hid : id ∈ w.ledgers.map (·.id)
  · rw [if_pos hid]
    exact h
  rw [if_neg hid]
  cases hnew : DomainPermitLedger.tryNew id total controlReserved total_le with
  | error e => exact h
  | ok l =>
    have hok := (DomainPermitLedger.Reachable.fresh hnew).ok
    simp only [DomainPermitLedger.tryNew, bind_ok, rejectIf_ok, exists_unit, pure_ok] at hnew
    obtain ⟨_, rfl⟩ := hnew
    have hnone : ∀ i ∈ w.issued, i.token.ledger ≠ id := fun i hi heq => hid (heq ▸ h.homes i hi)
    refine ⟨?_, ?_, ?_, ?_, ?_, h.names, h.reserve, h.spent, h.once⟩
    · rw [List.map_append]
      exact List.nodup_append.2 ⟨h.ids, List.nodup_singleton _, fun a ha b hb heq => by
        rw [List.map_singleton, List.mem_singleton] at hb
        rw [heq, hb] at ha
        exact hid ha⟩
    · exact List.forall_mem_append.2 ⟨h.ok, List.forall_mem_singleton.2 hok⟩
    · intro l hl a
      rcases List.mem_append.1 hl with hl | hl
      · exact h.recorded l hl a
      · rw [List.mem_singleton.1 hl]
        constructor
        · exact fun ha => absurd ha List.not_mem_nil
        · rintro ⟨i, hi, _, hledger, _⟩
          exact absurd hledger (hnone i hi)
    · intro l hl i hi hledger
      rcases List.mem_append.1 hl with hl | hl
      · exact h.numbered l hl i hi hledger
      · rw [List.mem_singleton.1 hl] at hledger
        exact absurd hledger (hnone i hi)
    · intro i hi
      rw [List.map_append]
      exact List.mem_append_left _ (h.homes i hi)

theorem set_same {α : Type} {xs : List α} {x : α} (hx : xs[k]? = some x) : xs.set k x = xs := by
  obtain ⟨_, rfl⟩ := List.getElem?_eq_some_iff.1 hx
  exact List.set_getElem_self _

theorem control_of_poolFor {c : DispatchClass} (h : l.poolFor c = some .controlReserved) :
    c = .control := by
  unfold DomainPermitLedger.poolFor at h
  split at h
  · rename_i hcontrol
    cases c with
    | control => rfl
    | interactive | stream | background => exact absurd hcontrol.1 (by decide)
  · split at h <;> cases h

theorem Kept.taken (h : Kept w) (hl : w.ledgers[k]? = some l)
    {c : DispatchClass} {pool : PermitPool} (hpool : l.poolFor c = some pool) :
    Kept { w with
      ledgers := w.ledgers.set k (l.taken pool)
      issued := w.issued ++ [⟨⟨l.id, l.nextPermitId + 1, pool, true⟩, c⟩] } := by
  have hmem : l ∈ w.ledgers := List.mem_of_getElem? hl
  have hset : ∀ l', l' ∈ w.ledgers.set k (l.taken pool) ↔ l' = l.taken pool ∨ l' ∈ w.ledgers ∧ l'.id ≠ l.id :=
    fun l' => mem_set_key h.ids hl
  have hids : (w.ledgers.set k (l.taken pool)).map (·.id) = w.ledgers.map (·.id) := map_set_key hl rfl
  refine ⟨?_, ?_, ?_, ?_, ?_, ?_, ?_, ?_, h.once⟩
  · rw [hids]
    exact h.ids
  · intro l' hl'
    rcases (hset l').1 hl' with rfl | ⟨hl', _⟩
    · exact (h.ok l hmem).taken hpool
    · exact h.ok l' hl'
  · intro l' hl' a
    rcases (hset l').1 hl' with rfl | ⟨hl', hne⟩
    · refine (Keyed.mem_insert _).trans ?_
      rw [h.recorded l hmem a]
      constructor
      · rintro (rfl | ⟨i, hi, hactive, hledger, rfl⟩)
        · exact ⟨_, List.mem_append_right _ (List.mem_singleton_self _), rfl, rfl, rfl⟩
        · exact ⟨i, List.mem_append_left _ hi, hactive, hledger, rfl⟩
      · rintro ⟨i, hi, hactive, hledger, rfl⟩
        rcases List.mem_append.1 hi with hi | hi
        · exact .inr ⟨i, hi, hactive, hledger, rfl⟩
        · rw [List.mem_singleton.1 hi]
          exact .inl rfl
    · rw [h.recorded l' hl' a]
      constructor
      · rintro ⟨i, hi, hrest⟩
        exact ⟨i, List.mem_append_left _ hi, hrest⟩
      · rintro ⟨i, hi, hactive, hledger, rfl⟩
        rcases List.mem_append.1 hi with hi | hi
        · exact ⟨i, hi, hactive, hledger, rfl⟩
        · rw [List.mem_singleton.1 hi] at hledger
          exact absurd hledger.symm hne
  · intro l' hl' i hi hledger
    rcases (hset l').1 hl' with rfl | ⟨hl', hne⟩ <;> rcases List.mem_append.1 hi with hi | hi
    · exact Nat.le_succ_of_le (h.numbered l hmem i hi hledger)
    · rw [List.mem_singleton.1 hi]
      exact Nat.le_refl _
    · exact h.numbered l' hl' i hi hledger
    · rw [List.mem_singleton.1 hi] at hledger
      exact absurd hledger.symm hne
  · rw [hids]
    exact List.forall_mem_append.2 ⟨h.homes, List.forall_mem_singleton.2 (List.mem_map_of_mem hmem)⟩
  · rw [List.map_append]
    refine List.nodup_append.2 ⟨h.names, List.nodup_singleton _, fun a ha b hb heq => ?_⟩
    rw [List.map_singleton, List.mem_singleton] at hb
    obtain ⟨i, hi, rfl⟩ := List.mem_map.1 ha
    rw [hb] at heq
    obtain ⟨hledger, hid⟩ := Prod.mk.inj heq
    have hle := h.numbered l hmem i hi hledger
    rw [hid] at hle
    exact absurd hle (Nat.not_succ_le_self _)
  · intro i hi hreserved
    rcases List.mem_append.1 hi with hi | hi
    · exact h.reserve i hi hreserved
    · rw [List.mem_singleton.1 hi] at hreserved ⊢
      exact control_of_poolFor (hpool.trans (congrArg some hreserved))
  · intro t ht
    obtain ⟨i, hi, hspent⟩ := h.spent t ht
    have hlt := (List.getElem?_eq_some_iff.1 hi).1
    exact ⟨i, (List.getElem?_append_left hlt).trans hi, hspent⟩

theorem Kept.acquire (h : Kept w) (k : Nat) (c : DispatchClass) : Kept (w.acquire k c) := by
  unfold PermitWorld.acquire
  cases hl : w.ledgers[k]? with
  | none => exact h
  | some l =>
    dsimp only
    rw [(h.ok l (List.mem_of_getElem? hl)).tryAcquire c]
    cases hpool : l.poolFor c with
    | none =>
      dsimp only
      rw [set_same hl]
      exact h
    | some pool =>
      dsimp only
      by_cases hroom : l.nextPermitId < u64Max
      · rw [if_pos hroom]
        exact h.taken hl hpool
      · rw [if_neg hroom]
        dsimp only
        rw [set_same hl]
        exact h

theorem Kept.freed (h : Kept w) {t : Nat} {permit : IssuedPermit}
    (hl : w.ledgers[k]? = some l) (hpermit : w.issued[t]? = some permit) {entry : ActivePermit}
    (hred : l.Redeemable permit.token)
    (hfind : Keyed.find ActivePermit.permitId permit.token.permitId l.active = some entry) :
    Kept {
      ledgers := w.ledgers.set k (l.freed entry)
      issued := w.issued.set t { permit with token := { permit.token with active := false } }
      releases := (k, t) :: w.releases } := by
  obtain ⟨hlive, howner, _⟩ := hred
  have hentry : entry.permitId = permit.token.permitId := (Keyed.find_mem _ hfind).2
  have hmem : l ∈ w.ledgers := List.mem_of_getElem? hl
  have hpmem : permit ∈ w.issued := List.mem_of_getElem? hpermit
  have hset : ∀ l', l' ∈ w.ledgers.set k (l.freed entry) ↔ l' = l.freed entry ∨ l' ∈ w.ledgers ∧ l'.id ≠ l.id :=
    fun l' => mem_set_key h.ids hl
  have hset' : ∀ i, i ∈ w.issued.set t { permit with token := { permit.token with active := false } } ↔
      i = { permit with token := { permit.token with active := false } } ∨ i ∈ w.issued ∧ name i ≠ name permit :=
    fun i => mem_set_key h.names hpermit
  have hids : (w.ledgers.set k (l.freed entry)).map (·.id) = w.ledgers.map (·.id) := map_set_key hl rfl
  have hnames : (w.issued.set t { permit with token := { permit.token with active := false } }).map name
      = w.issued.map name := map_set_key hpermit rfl
  have hfresh : t ∉ w.releases.map Prod.snd := by
    intro ht
    obtain ⟨i, hi, hspent⟩ := h.spent t ht
    rw [hpermit] at hi
    cases hi
    rw [hlive] at hspent
    cases hspent
  refine ⟨?_, ?_, ?_, ?_, ?_, ?_, ?_, ?_, ?_⟩
  · rw [hids]
    exact h.ids
  · intro l' hl'
    rcases (hset l').1 hl' with rfl | ⟨hl', _⟩
    · exact (h.ok l hmem).freed hfind
    · exact h.ok l' hl'
  · intro l' hl' a
    rcases (hset l').1 hl' with rfl | ⟨hl', hne⟩
    · refine List.mem_filter.trans ?_
      rw [h.recorded l hmem a, hentry, decide_eq_true_eq]
      constructor
      · rintro ⟨⟨i, hi, hactive, hledger, rfl⟩, hother⟩
        exact ⟨i, (hset' i).2 (.inr ⟨hi, fun heq => hother (Prod.mk.inj heq).2⟩), hactive, hledger, rfl⟩
      · rintro ⟨i, hi, hactive, hledger, rfl⟩
        rcases (hset' i).1 hi with rfl | ⟨hi, hother⟩
        · cases hactive
        · refine ⟨⟨i, hi, hactive, hledger, rfl⟩, fun heq => hother (Prod.ext ?_ heq)⟩
          exact hledger.trans howner.symm
    · rw [h.recorded l' hl' a]
      constructor
      · rintro ⟨i, hi, hactive, hledger, rfl⟩
        refine ⟨i, (hset' i).2 (.inr ⟨hi, fun heq => hne ?_⟩), hactive, hledger, rfl⟩
        exact hledger.symm.trans ((Prod.mk.inj heq).1.trans howner)
      · rintro ⟨i, hi, hactive, hledger, rfl⟩
        rcases (hset' i).1 hi with rfl | ⟨hi, _⟩
        · cases hactive
        · exact ⟨i, hi, hactive, hledger, rfl⟩
  · intro l' hl' i hi hledger
    have hi' : ∃ j ∈ w.issued, name j = name i := by
      rcases (hset' i).1 hi with rfl | ⟨hi, _⟩
      · exact ⟨permit, hpmem, rfl⟩
      · exact ⟨i, hi, rfl⟩
    obtain ⟨j, hj, hname⟩ := hi'
    obtain ⟨hledger', hid⟩ := Prod.mk.inj hname
    rw [← hid]
    rcases (hset l').1 hl' with rfl | ⟨hl', _⟩
    · exact h.numbered l hmem j hj (hledger'.trans hledger)
    · exact h.numbered l' hl' j hj (hledger'.trans hledger)
  · intro i hi
    rw [hids]
    rcases (hset' i).1 hi with rfl | ⟨hi, _⟩
    · exact h.homes permit hpmem
    · exact h.homes i hi
  · rw [hnames]
    exact h.names
  · intro i hi hreserved
    rcases (hset' i).1 hi with rfl | ⟨hi, _⟩
    · exact h.reserve permit hpmem hreserved
    · exact h.reserve i hi hreserved
  · intro u hu
    dsimp only
    rw [List.getElem?_set, if_pos (List.getElem?_eq_some_iff.1 hpermit).1]
    rcases List.mem_cons.1 hu with rfl | hu
    · exact ⟨_, if_pos rfl, rfl⟩
    · have hne : ¬ t = u := fun heq => hfresh (heq ▸ hu)
      rw [if_neg hne]
      exact h.spent u hu
  · exact List.nodup_cons.2 ⟨hfresh, h.once⟩

theorem Kept.release (h : Kept w) (k t : Nat) : Kept (w.release k t) := by
  unfold PermitWorld.release
  cases hl : w.ledgers[k]? with
  | none => exact h
  | some l =>
    cases hpermit : w.issued[t]? with
    | none => exact h
    | some permit =>
      dsimp only
      have hout := (h.ok l (List.mem_of_getElem? hl)).release_outcome permit.token
      generalize DomainPermitLedger.release permit.token l = r at hout ⊢
      cases hout with
      | taken hred hfind _ => exact h.freed hl hpermit hred hfind
      | refused error _ =>
        dsimp only
        rw [set_same hl]
        exact h

theorem Reachable.kept (h : Reachable w) : Kept w := by
  induction h with
  | empty => exact Kept.empty
  | step move _ ih =>
    cases move with
    | openLedger id total controlReserved total_le => exact ih.openLedger id total controlReserved total_le
    | acquire k c => exact ih.acquire k c
    | release k t => exact ih.release k t

/-! ## What the holders have, and what the ledger counts -/

def entryOf (i : IssuedPermit) : ActivePermit := ⟨i.token.permitId, i.token.pool⟩

def outOf (w : PermitWorld) (l : DomainPermitLedger) : List IssuedPermit :=
  w.issued.filter fun i => i.token.active && decide (i.token.ledger = l.id)

theorem mem_outOf {i : IssuedPermit} :
    i ∈ w.outOf l ↔ i ∈ w.issued ∧ i.token.active = true ∧ i.token.ledger = l.id := by
  unfold outOf
  rw [List.mem_filter, Bool.and_eq_true, decide_eq_true_eq]

theorem out_eq (w : PermitWorld) (l : DomainPermitLedger) (test : IssuedPermit → Bool) :
    w.out l test = (w.outOf l).countP test := by
  unfold out outOf
  rw [List.countP_filter]
  exact List.countP_congr fun i _ => by rw [Bool.and_comm]

theorem Kept.active_perm (h : Kept w) (hl : l ∈ w.ledgers) :
    l.active.Perm ((w.outOf l).map entryOf) := by
  have hids : (l.active.map (·.permitId)).Nodup := (h.ok l hl).nodup
  have hnodup : ((w.outOf l).map name).Nodup := (List.filter_sublist.map _).nodup h.names
  refine (List.perm_ext_iff_of_nodup hids.of_map ?_).2 fun a => ?_
  · refine List.Nodup.map_on (fun i hi j hj heq => ?_) hnodup.of_map
    refine List.inj_on_of_nodup_map hnodup hi hj (Prod.ext ?_ (congrArg ActivePermit.permitId heq))
    exact (mem_outOf.1 hi).2.2.trans (mem_outOf.1 hj).2.2.symm
  · rw [h.recorded l hl a, List.mem_map]
    constructor
    · rintro ⟨i, hi, hactive, hledger, rfl⟩
      exact ⟨i, mem_outOf.2 ⟨hi, hactive, hledger⟩, rfl⟩
    · rintro ⟨i, hi, rfl⟩
      obtain ⟨hi, hactive, hledger⟩ := mem_outOf.1 hi
      exact ⟨i, hi, hactive, hledger, rfl⟩

theorem Kept.shared_out (h : Kept w) (hl : l ∈ w.ledgers) :
    w.out l (fun i => decide (i.token.pool = .shared)) = l.sharedInUse := by
  rw [out_eq, ← (h.ok l hl).shared, (h.active_perm hl).countP_eq, List.countP_map]
  rfl

theorem Kept.reserved_out (h : Kept w) (hl : l ∈ w.ledgers) :
    w.out l (fun i => decide (i.token.pool = .controlReserved)) = l.controlReservedInUse := by
  have hlen := (h.active_perm hl).length_eq
  rw [(h.ok l hl).count, List.length_map,
    List.length_eq_countP_add_countP (fun i : IssuedPermit => decide (i.token.pool = .shared)), ← out_eq,
    h.shared_out hl] at hlen
  rw [out_eq]
  refine Eq.trans (List.countP_congr fun i _ => ?_) (Nat.add_left_cancel hlen).symm
  cases i.token.pool <;> decide

theorem Kept.ordinary_out (h : Kept w) (hl : l ∈ w.ledgers) :
    w.out l (fun i => !i.slotClass.isControl) ≤ l.total - l.controlReserved := by
  have hle : w.out l (fun i => !i.slotClass.isControl) ≤ w.out l fun i => decide (i.token.pool = .shared) := by
    rw [out_eq, out_eq]
    refine List.countP_mono_left fun i hi hclass => decide_eq_true ?_
    cases hpool : i.token.pool with
    | shared => rfl
    | controlReserved =>
      rw [h.reserve i (mem_outOf.1 hi).1 hpool] at hclass
      cases hclass
  rw [h.shared_out hl] at hle
  exact hle.trans (h.ok l hl).shared_le

theorem Kept.redeemable_iff (h : Kept w) (hl : l ∈ w.ledgers) {i : IssuedPermit} (hi : i ∈ w.issued) :
    l.Redeemable i.token ↔ i.token.active = true ∧ i.token.ledger = l.id := by
  refine ⟨fun hred => ⟨hred.1, hred.2.1⟩, fun ⟨hactive, hledger⟩ => ⟨hactive, hledger, ?_⟩⟩
  have hmem : (⟨i.token.permitId, i.token.pool⟩ : ActivePermit) ∈ l.active :=
    (h.recorded l hl _).2 ⟨i, hi, hactive, hledger, rfl⟩
  cases hfind : Keyed.find ActivePermit.permitId i.token.permitId l.active with
  | none => exact absurd rfl (Keyed.find_none _ |>.1 hfind _ hmem)
  | some entry =>
    obtain ⟨hentry, hid⟩ := Keyed.find_mem _ hfind
    have hsame := List.inj_on_of_nodup_map (h.ok l hl).nodup hentry hmem hid
    exact ⟨entry, rfl, congrArg ActivePermit.pool hsame⟩

/-! ## The permits of every run -/

structure Sound (w : PermitWorld) (l : DomainPermitLedger) : Prop where
  valid : l.validateState = .ok ()
  within : ∃ s, l.snapshot = .ok s ∧ s.inUse ≤ s.total
  ordinary : w.out l (fun i => !i.slotClass.isControl) ≤ l.total - l.controlReserved
  control : w.out l (fun i => decide (i.token.pool = .controlReserved)) < l.controlReserved →
    if l.nextPermitId < u64Max then ∃ token l', DomainPermitLedger.tryAcquire .control l = (.ok (some token), l')
    else DomainPermitLedger.tryAcquire .control l = (.error .counterOverflow, l)
  refused : ∀ token error l', DomainPermitLedger.release token l = (.error error, l') → l' = l
  redeemed : ∀ i ∈ w.issued, (∃ token, (DomainPermitLedger.release i.token l).1 = .ok token) ↔
    i.token.active = true ∧ i.token.ledger = l.id
  drained : (∀ (t : Nat) (i : IssuedPermit), w.issued[t]? = some i → i.token.ledger = l.id →
    t ∈ w.releases.map Prod.snd) → ∃ s, l.snapshot = .ok s ∧ s.inUse = 0

theorem snapshot_of_ok (h : l.LedgerOk) :
    l.snapshot = .ok ⟨l.total, l.controlReserved, l.sharedInUse, l.controlReservedInUse⟩ := by
  simp only [DomainPermitLedger.snapshot, bind_ok, h.validateState, exists_unit, pure_ok, true_and]

theorem Kept.sound (h : Kept w) (hl : l ∈ w.ledgers) : Sound w l := by
  have hok := h.ok l hl
  refine ⟨hok.validateState, ⟨_, snapshot_of_ok hok, ?_⟩, h.ordinary_out hl, fun hfree => ?_, fun token e l' hrun => ?_,
    fun i hi => ?_, fun hall => ⟨_, snapshot_of_ok hok, ?_⟩⟩
  · have hshared := hok.shared_le
    have hcontrol := hok.control_le
    have hreserved := hok.reserved_le
    unfold DomainPermitSnapshot.inUse
    dsimp only
    omega
  · rw [h.reserved_out hl] at hfree
    have hpool : l.poolFor .control = some .controlReserved := if_pos ⟨rfl, hfree⟩
    rw [hok.tryAcquire .control, hpool]
    dsimp only
    by_cases hroom : l.nextPermitId < u64Max
    · rw [if_pos hroom, if_pos hroom]
      exact ⟨_, _, rfl⟩
    · rw [if_neg hroom, if_neg hroom]
  · have hout := hok.release_outcome token
    rw [hrun] at hout
    cases hout
    rfl
  · rw [← h.redeemable_iff hl hi]
    have hout := hok.release_outcome i.token
    generalize DomainPermitLedger.release i.token l = r at hout ⊢
    cases hout with
    | taken hred _ _ => exact ⟨fun _ => hred, fun _ => ⟨_, rfl⟩⟩
    | refused error hno =>
      refine ⟨fun ⟨token, hrun⟩ => ?_, fun hred => absurd hred hno⟩
      cases hrun
  · have hnone : w.outOf l = [] := by
      refine List.eq_nil_iff_forall_not_mem.2 fun i hi => ?_
      obtain ⟨hi, hactive, hledger⟩ := mem_outOf.1 hi
      obtain ⟨t, ht⟩ := List.mem_iff_getElem?.1 hi
      obtain ⟨j, hj, hspent⟩ := h.spent t (hall t i ht hledger)
      rw [ht] at hj
      cases hj
      rw [hactive] at hspent
      cases hspent
    have hlen := (h.active_perm hl).length_eq
    rw [hnone, hok.count] at hlen
    exact hlen

theorem Kept.release_refused (h : Kept w) {t : Nat} {permit : IssuedPermit}
    (hl : w.ledgers[k]? = some l) (hpermit : w.issued[t]? = some permit) {error : PermitError}
    (hrun : (DomainPermitLedger.release permit.token l).1 = .error error) : w.step (.release k t) = w := by
  have hout := (h.ok l (List.mem_of_getElem? hl)).release_outcome permit.token
  change w.release k t = w
  unfold PermitWorld.release
  rw [hl, hpermit]
  dsimp only
  generalize DomainPermitLedger.release permit.token l = r at hout hrun ⊢
  cases hout with
  | taken => cases hrun
  | refused error _ =>
    dsimp only
    rw [set_same hl]

/-- **Permit safety over every run**: however acquires and releases interleave over the ledgers, no permit is released
twice, a refused release changes nothing, and every ledger stays valid, within its capacities and true to its holders.  A
control permit is refused below the reserve only when the permit counter is used up. -/
theorem permits_sound (h : w.Reachable) : (w.releases.map Prod.snd).Nodup
      ∧ (∀ (k t : Nat) (l : DomainPermitLedger) (permit : IssuedPermit) (error : PermitError),
          w.ledgers[k]? = some l → w.issued[t]? = some permit →
          (DomainPermitLedger.release permit.token l).1 = .error error → w.step (.release k t) = w)
      ∧ ∀ l ∈ w.ledgers, Sound w l :=
  ⟨h.kept.once, fun _ _ _ _ _ hl hpermit hrun => h.kept.release_refused hl hpermit hrun, fun _ hl => h.kept.sound hl⟩

/-- Permits out of two ledgers, the first of them offered to the ledger it is not of, returned, and returned again. -/
def returnedMoves : List PermitMove :=
  [.openLedger ⟨0, 0, 0⟩ 1 1 one_le_u32Max, .openLedger ⟨0, 0, 1⟩ 1 0 one_le_u32Max, .acquire 0 .control,
    .acquire 1 .stream, .release 1 0, .release 0 0, .release 0 0, .acquire 0 .control]

def run (moves : List PermitMove) : PermitWorld := moves.foldl step empty

theorem reachable_run (moves : List PermitMove) : (run moves).Reachable := by
  suffices h : ∀ w : PermitWorld, w.Reachable → (moves.foldl step w).Reachable from h empty .empty
  induction moves with
  | nil => exact fun w hw => hw
  | cons move moves ih => exact fun w hw => ih _ (hw.step move)

theorem permits_sound_returned : (run returnedMoves).releases = [(0, 0)]
    ∧ (run returnedMoves).issued.map (·.token.active) = [false, true, true]
    ∧ (run (returnedMoves.take 4)).step (.release 1 0) = run (returnedMoves.take 4)
    ∧ ((run returnedMoves).releases.map Prod.snd).Nodup ∧ ∀ l ∈ (run returnedMoves).ledgers, Sound (run returnedMoves) l := by
  have hsound := permits_sound (reachable_run returnedMoves)
  have hforeign := (permits_sound (reachable_run (returnedMoves.take 4))).2.1 1 0 _ _ .ledgerMismatch rfl rfl rfl
  exact ⟨by decide, by decide, hforeign, hsound.1, hsound.2.2⟩

theorem counted (n : Nat) (hn : n ≤ u64Max) : ∃ w : PermitWorld, w.Reachable ∧ ∃ l, w.ledgers = [l]
    ∧ l.controlReserved = 1 ∧ l.active = [] ∧ l.nextPermitId = n := by
  induction n with
  | zero =>
    exact ⟨_, Reachable.empty.step (.openLedger ⟨0, 0, 0⟩ 1 1 (by decide)), _, rfl, rfl, rfl, rfl⟩
  | succ n ih =>
    obtain ⟨w, hw, l, hls, hreserved, hactive, hnext⟩ := ih (by omega)
    have hl : w.ledgers[0]? = some l := by rw [hls]; rfl
    have hok := hw.kept.ok l (List.mem_of_getElem? hl)
    have hcount := hok.count
    rw [hactive] at hcount
    have hpool : l.poolFor .control = some .controlReserved := if_pos ⟨rfl, by
      rw [hreserved]
      simp only [List.length_nil] at hcount
      omega⟩
    have hacquire : w.step (.acquire 0 .control) = { w with
        ledgers := [l.taken .controlReserved]
        issued := w.issued ++ [⟨⟨l.id, n + 1, .controlReserved, true⟩, .control⟩] } := by
      change w.acquire 0 .control = _
      unfold PermitWorld.acquire
      rw [hl]
      dsimp only
      rw [hok.tryAcquire .control, hpool]
      dsimp only
      rw [if_pos (by omega), hls, hnext]
      rfl
    have hw' := hw.step (.acquire 0 .control)
    rw [hacquire] at hw'
    have hok' := hok.taken hpool
    have hactive' : (l.taken .controlReserved).active = [⟨n + 1, .controlReserved⟩] := by
      unfold DomainPermitLedger.taken
      rw [hactive, hnext]
      rfl
    have hissued : (w.issued ++ [(⟨⟨l.id, n + 1, .controlReserved, true⟩, .control⟩ : IssuedPermit)])[w.issued.length]?
        = some ⟨⟨l.id, n + 1, .controlReserved, true⟩, .control⟩ := List.getElem?_concat_length
    refine ⟨_, hw'.step (.release 0 w.issued.length), ?_⟩
    have hout := hok'.release_outcome ⟨l.id, n + 1, .controlReserved, true⟩
    have hfind : Keyed.find ActivePermit.permitId (n + 1) (l.taken .controlReserved).active
        = some ⟨n + 1, .controlReserved⟩ := by
      rw [hactive']
      exact List.find?_cons_of_pos (decide_eq_true rfl)
    change ∃ l', (release _ 0 w.issued.length).ledgers = [l'] ∧ _
    unfold PermitWorld.release
    dsimp only [List.getElem?_cons_zero]
    rw [hissued]
    dsimp only
    generalize DomainPermitLedger.release _ (l.taken .controlReserved) = r at hout ⊢
    cases hout with
    | refused error hno => exact absurd ⟨rfl, rfl, _, hfind, rfl⟩ hno
    | taken _ hfind' _ =>
      have heq := Option.some.inj (hfind.symm.trans hfind')
      subst heq
      refine ⟨_, rfl, hreserved, ?_, ?_⟩
      · unfold DomainPermitLedger.freed
        dsimp only
        rw [hactive']
        exact List.filter_eq_nil_iff.2 fun a ha => by
          rw [List.mem_singleton.1 ha]
          simp
      · change l.nextPermitId + 1 = n + 1
        rw [hnext]

/-- **The reserve is not unconditional**: a run can use up the permit counter, and then a control permit is refused with
none of the reserve out. -/
theorem reserve_refused : ∃ w : PermitWorld, w.Reachable ∧ ∃ l ∈ w.ledgers,
    w.out l (fun i => decide (i.token.pool = .controlReserved)) < l.controlReserved
      ∧ DomainPermitLedger.tryAcquire .control l = (.error .counterOverflow, l) := by
  obtain ⟨w, hw, l, hls, hreserved, hactive, hnext⟩ := counted u64Max (Nat.le_refl _)
  have hl : l ∈ w.ledgers := by
    rw [hls]
    exact List.mem_singleton_self l
  have hfree : w.out l (fun i => decide (i.token.pool = .controlReserved)) < l.controlReserved := by
    have hcount := (hw.kept.ok l hl).count
    rw [hactive, List.length_nil] at hcount
    rw [hw.kept.reserved_out hl, hreserved]
    omega
  have hrun := (hw.kept.sound hl).control hfree
  rw [if_neg (by omega)] at hrun
  exact ⟨w, hw, l, hl, hfree, hrun⟩

end PermitWorld

end Dispatch
end ParaEgox
