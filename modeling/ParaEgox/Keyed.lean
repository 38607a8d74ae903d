import Mathlib.Data.List.Sort
import ParaEgox.Check

/-!
# Keyed — lists ordered strictly by a key

A ledger is a list whose keys strictly increase.  `binary_search_by_key` on such a list is lookup by key, and a ledger
that keeps another one's records keeps its lookups.
-/
namespace Keyed

open Check

variable {α κ ε : Type} [LinearOrder κ] (key : α → κ)

def Ascending (xs : List α) : Prop := xs.Pairwise fun a b => key a < key b

/-- `binary_search_by_key`: the record under a key. -/
def find (k : κ) (xs : List α) : Option α := xs.find? fun x => decide (key x = k)

def insert (x : α) (xs : List α) : List α := xs.orderedInsert (fun a b => key a ≤ key b) x

/-- `sort_unstable_by_key`; the order is canonical where the keys differ. -/
def sortBy (xs : List α) : List α := xs.insertionSort fun a b => key a ≤ key b

/-- Every record of `prev` is found unchanged in `cur` under its own key. -/
def recordsPreserved [DecidableEq α] (cur prev : List α) : Bool :=
  prev.all fun old => decide (find key (key old) cur = some old)

/-- The record under the key of `x` becomes `x`. -/
def replace (x : α) (xs : List α) : List α := xs.map fun y => if key y = key x then x else y

variable {x : α} {xs ys : List α} {k : κ}

theorem mem_replace {y : α} : y ∈ replace key x xs ↔ (y = x ∧ ∃ z ∈ xs, key z = key x) ∨ y ∈ xs ∧ key y ≠ key x := by
  simp only [replace, List.mem_map]
  constructor
  · rintro ⟨z, hz, rfl⟩
    by_cases hk : key z = key x
    · exact .inl ⟨if_pos hk, z, hz, hk⟩
    · rw [if_neg hk]
      exact .inr ⟨hz, hk⟩
  · rintro (⟨rfl, z, hz, hk⟩ | ⟨hy, hk⟩)
    · exact ⟨z, hz, if_pos hk⟩
    · exact ⟨y, hy, if_neg hk⟩

theorem Ascending.inj (h : Ascending key xs) : ∀ a ∈ xs, ∀ b ∈ xs, key a = key b → a = b := by
  induction xs with
  | nil => intro a ha; cases ha
  | cons x xs ih =>
    obtain ⟨hx, hxs⟩ := List.pairwise_cons.1 h
    intro a ha b hb hk
    rcases List.mem_cons.1 ha with rfl | ha' <;> rcases List.mem_cons.1 hb with rfl | hb'
    · rfl
    · exact absurd hk (ne_of_lt (hx b hb'))
    · exact absurd hk (ne_of_gt (hx a ha'))
    · exact ih hxs a ha' b hb' hk

theorem find_mem (h : find key k xs = some x) : x ∈ xs ∧ key x = k := by
  unfold find at h
  refine ⟨List.mem_of_find?_eq_some h, ?_⟩
  simpa using List.find?_some h

theorem find_none : find key k xs = none ↔ ∀ x ∈ xs, key x ≠ k := by
  simp [find]

theorem Ascending.find_iff (h : Ascending key xs) (k : κ) (x : α) : find key k xs = some x ↔ x ∈ xs ∧ key x = k := by
  refine ⟨find_mem key, fun ⟨hx, hk⟩ => ?_⟩
  cases hf : find key k xs with
  | none => exact absurd hk (find_none key |>.1 hf x hx)
  | some y =>
    obtain ⟨hy, hyk⟩ := find_mem key hf
    rw [h.inj key y hy x hx (hyk.trans hk.symm)]

theorem find_perm (hnodup : (xs.map key).Nodup) (h : find key k xs = some x) :
    (x :: xs.filter fun y => decide (key y ≠ k)).Perm xs := by
  obtain ⟨hmem, hk⟩ := find_mem key h
  obtain ⟨before, after, rfl⟩ := List.append_of_mem hmem
  rw [List.map_append, List.map_cons, List.nodup_middle, List.nodup_cons, ← List.map_append] at hnodup
  have hother : ∀ y ∈ before ++ after, decide (key y ≠ k) = true := fun y hy =>
    decide_eq_true fun heq => hnodup.1 (List.mem_map.2 ⟨y, hy, heq.trans hk.symm⟩)
  have hbefore := List.filter_eq_self.2 fun y hy => hother y (List.mem_append_left _ hy)
  have hafter := List.filter_eq_self.2 fun y hy => hother y (List.mem_append_right _ hy)
  rw [List.filter_append, List.filter_cons_of_neg (by simp [hk]), hbefore, hafter]
  exact List.perm_middle.symm

theorem recordsPreserved_mem [DecidableEq α] {cur prev : List α} (h : recordsPreserved key cur prev = true) :
    ∀ x ∈ prev, x ∈ cur := by
  intro x hx
  have := List.all_eq_true.1 h x hx
  exact (find_mem key (of_decide_eq_true this)).1

theorem mem_insert {y : α} : y ∈ insert key x xs ↔ y = x ∨ y ∈ xs :=
  List.mem_orderedInsert _

theorem insert_perm (x : α) (xs : List α) : (insert key x xs).Perm (x :: xs) :=
  List.perm_orderedInsert _ _ _

theorem length_insert (x : α) (xs : List α) : (insert key x xs).length = xs.length + 1 := by
  rw [(insert_perm key x xs).length_eq, List.length_cons]

theorem Ascending.insert (h : Ascending key xs) (hx : ∀ y ∈ xs, key y ≠ key x) : Ascending key (insert key x xs) := by
  induction xs with
  | nil => simp [Keyed.insert, Ascending]
  | cons y ys ih =>
    obtain ⟨hy, hys⟩ := List.pairwise_cons.1 h
    have hxy : key y ≠ key x := hx y (List.mem_cons_self ..)
    unfold Keyed.insert
    rw [List.orderedInsert_cons]
    split
    · rename_i hle
      refine List.pairwise_cons.2 ⟨fun z hz => ?_, h⟩
      rcases List.mem_cons.1 hz with rfl | hz
      · exact lt_of_le_of_ne hle hxy.symm
      · exact lt_trans (lt_of_le_of_ne hle hxy.symm) (hy z hz)
    · rename_i hlt
      refine List.pairwise_cons.2 ⟨fun z hz => ?_, ih hys fun z hz => hx z (List.mem_cons_of_mem _ hz)⟩
      rcases (mem_insert key).1 hz with rfl | hz
      · exact lt_of_not_ge hlt
      · exact hy z hz

theorem sortBy_perm (xs : List α) : (sortBy key xs).Perm xs := List.perm_insertionSort _ _

theorem mem_sortBy : x ∈ sortBy key xs ↔ x ∈ xs := (sortBy_perm key xs).mem_iff

theorem sortBy_pairwise (xs : List α) : (sortBy key xs).Pairwise fun a b => key a ≤ key b := by
  have : Std.Total fun a b : α => key a ≤ key b := ⟨fun a b => le_total _ _⟩
  have : IsTrans α fun a b : α => key a ≤ key b := ⟨fun a b c => le_trans⟩
  exact List.pairwise_insertionSort _ _

theorem Ascending.sortBy_eq (h : Ascending key xs) : sortBy key xs = xs :=
  List.Pairwise.insertionSort_eq (h.imp le_of_lt)

theorem ascending_iff_map : Ascending key xs ↔ (xs.map key).Pairwise (· < ·) := by
  rw [List.pairwise_map]
  rfl

theorem Ascending.ext (hx : Ascending key xs) (hy : Ascending key ys) (h : ∀ a, a ∈ xs ↔ a ∈ ys) : xs = ys := by
  have hnodup : ∀ {zs : List α}, Ascending key zs → zs.Nodup := fun hz => hz.imp fun hlt => by
    rintro rfl
    exact lt_irrefl _ hlt
  have hperm : xs.Perm ys := (List.perm_ext_iff_of_nodup (hnodup hx) (hnodup hy)).2 h
  exact hperm.eq_of_pairwise (fun a b _ _ hab hba => absurd (lt_trans hab hba) (lt_irrefl _)) hx hy

theorem ascending_sortBy (h : (xs.map key).Nodup) : Ascending key (sortBy key xs) := by
  have hnodup : ((sortBy key xs).map key).Nodup := ((sortBy_perm key xs).map key).nodup_iff.2 h
  refine (List.pairwise_map.1 (hnodup.and (List.pairwise_map.2 (sortBy_pairwise key xs)))).imp ?_
  exact fun hab => lt_of_le_of_ne hab.2 hab.1

theorem sortBy_of_perm (hp : xs.Perm ys) (h : (xs.map key).Nodup) : sortBy key xs = sortBy key ys := by
  refine (ascending_sortBy key h).ext key (ascending_sortBy key ((hp.map key).nodup_iff.1 h)) fun a => ?_
  rw [mem_sortBy, mem_sortBy, hp.mem_iff]

theorem map_sortBy_of_perm (hp : xs.Perm ys) : (sortBy key xs).map key = (sortBy key ys).map key := by
  have hperm : ((sortBy key xs).map key).Perm ((sortBy key ys).map key) :=
    (((sortBy_perm key xs).trans hp).trans (sortBy_perm key ys).symm).map key
  exact hperm.eq_of_pairwise (fun a b _ _ hab hba => le_antisymm hab hba)
    (List.pairwise_map.2 (sortBy_pairwise key xs)) (List.pairwise_map.2 (sortBy_pairwise key ys))

theorem Ascending.find_congr (hx : Ascending key xs) (hy : Ascending key ys) {k : κ}
    (h : ∀ a, key a = k → (a ∈ xs ↔ a ∈ ys)) : find key k xs = find key k ys := by
  refine Option.ext fun a => ?_
  rw [hx.find_iff, hy.find_iff]
  exact ⟨fun ⟨ha, hk⟩ => ⟨(h a hk).1 ha, hk⟩, fun ⟨ha, hk⟩ => ⟨(h a hk).2 ha, hk⟩⟩

theorem Ascending.replace (h : Ascending key xs) : Ascending key (replace key x xs) := by
  have hkeys : (Keyed.replace key x xs).map key = xs.map key := by
    unfold Keyed.replace
    rw [List.map_map]
    refine List.map_congr_left fun y _ => ?_
    change key (if key y = key x then x else y) = key y
    split
    · rename_i hk
      exact hk.symm
    · rfl
  rw [ascending_iff_map, hkeys, ← ascending_iff_map]
  exact h

theorem ascending_of_sorted : ∀ {xs : List α}, (xs.Pairwise fun a b => key a ≤ key b) →
    (∀ p ∈ xs.zip xs.tail, key p.1 ≠ key p.2) → Ascending key xs
  | [], _, _ => List.Pairwise.nil
  | [_], _, _ => List.pairwise_singleton _ _
  | x :: y :: ys, hle, hne => by
    obtain ⟨hx, hys⟩ := List.pairwise_cons.1 hle
    have hxy : key x < key y := lt_of_le_of_ne (hx y (List.mem_cons_self ..)) (hne (x, y) (by simp))
    have ih := ascending_of_sorted hys fun p hp => hne p (by simpa using .inr hp)
    refine List.pairwise_cons.2 ⟨fun z hz => ?_, ih⟩
    rcases List.mem_cons.1 hz with rfl | hz
    · exact hxy
    · exact lt_of_lt_of_le hxy ((List.pairwise_cons.1 hys).1 z hz)

/-! ## Loops that carry the previous key -/

/-- The step of a loop that checks a record and that its key exceeds the previous one. -/
def IsOrderStep (step : Option κ → α → Except ε (Option κ)) (ok : α → Prop) : Prop :=
  ∀ s x s', step s x = .ok s' ↔ (∀ p, s = some p → p < key x) ∧ ok x ∧ s' = some (key x)

theorem scan_order_ok {step : Option κ → α → Except ε (Option κ)} {ok : α → Prop} (hs : IsOrderStep key step ok) :
    ∀ (xs : List α) (s : Option κ),
      (∃ t, scan step s xs = .ok t) ↔
        (∀ p, s = some p → ∀ x ∈ xs, p < key x) ∧ Ascending key xs ∧ ∀ x ∈ xs, ok x
  | [], s => by simp [scan, Ascending]
  | x :: xs, s => by
    have ih := scan_order_ok hs xs
    simp only [scan_ok_cons]
    constructor
    · rintro ⟨t, s', h1, h2⟩
      obtain ⟨hp, hok, rfl⟩ := (hs _ _ _).1 h1
      obtain ⟨hq, ha, hoks⟩ := (ih _).1 ⟨t, h2⟩
      have hlt := hq _ rfl
      refine ⟨fun p hsp y hy => ?_, List.pairwise_cons.2 ⟨hlt, ha⟩, List.forall_mem_cons.2 ⟨hok, hoks⟩⟩
      rcases List.mem_cons.1 hy with rfl | hy
      · exact hp p hsp
      · exact lt_trans (hp p hsp) (hlt y hy)
    · rintro ⟨hp, ha, hok⟩
      obtain ⟨hlt, ha'⟩ := List.pairwise_cons.1 ha
      obtain ⟨hokx, hoks⟩ := List.forall_mem_cons.1 hok
      obtain ⟨t, ht⟩ := (ih (some (key x))).2 ⟨fun p hp' y hy => by cases hp'; exact hlt y hy, ha', hoks⟩
      exact ⟨t, some (key x), (hs _ _ _).2 ⟨fun p hsp => hp p hsp x (List.mem_cons_self ..), hokx, rfl⟩, ht⟩

end Keyed
