import Mathlib.Data.List.Nodup
import Mathlib.Data.List.Dedup
import Mathlib.Data.List.Perm.Basic
import Mathlib.Data.List.Sort
import Mathlib.Tactic.Common

/-!
# Indexed — the elements of a list at given indices

Picking the elements whose index satisfies a test splits a list into the picked and the dropped, in order.  A queue that
pops every element once and pushes back those it keeps is left with the dropped ones.
-/
namespace Indexed

variable {α β : Type}

/-- The elements at the indices that pass the test, the first one having index `i`. -/
def pickFrom (p : Nat → Bool) : Nat → List α → List α
  | _, [] => []
  | i, x :: xs => if p i then x :: pickFrom p (i + 1) xs else pickFrom p (i + 1) xs

def pick (s : List Nat) (q : List α) : List α := pickFrom (fun i => decide (i ∈ s)) 0 q

def drop (s : List Nat) (q : List α) : List α := pickFrom (fun i => !decide (i ∈ s)) 0 q

variable {p : Nat → Bool} {i : Nat} {s t : List Nat} {q xs : List α}

theorem pickFrom_cons_pos (h : p i = true) (x : α) (xs : List α) :
    pickFrom p i (x :: xs) = x :: pickFrom p (i + 1) xs := by
  rw [pickFrom, if_pos h]

theorem pickFrom_cons_neg (h : p i = false) (x : α) (xs : List α) :
    pickFrom p i (x :: xs) = pickFrom p (i + 1) xs := by
  rw [pickFrom, if_neg (by simp [h])]

theorem pickFrom_sublist (p : Nat → Bool) : ∀ (i : Nat) (q : List α), (pickFrom p i q).Sublist q
  | _, [] => .slnil
  | i, x :: xs => by
    cases h : p i with
    | true =>
      rw [pickFrom_cons_pos h]
      exact (pickFrom_sublist p (i + 1) xs).cons_cons x
    | false =>
      rw [pickFrom_cons_neg h]
      exact (pickFrom_sublist p (i + 1) xs).cons x

theorem drop_sublist (s : List Nat) (q : List α) : (drop s q).Sublist q := pickFrom_sublist _ _ _

theorem pickFrom_perm (p : Nat → Bool) : ∀ (i : Nat) (q : List α),
    (pickFrom p i q ++ pickFrom (fun j => !p j) i q).Perm q
  | _, [] => .refl _
  | i, x :: xs => by
    have ih := pickFrom_perm p (i + 1) xs
    cases h : p i with
    | true =>
      rw [pickFrom_cons_pos h, pickFrom_cons_neg (by simp [h])]
      exact ih.cons x
    | false =>
      rw [pickFrom_cons_neg h, pickFrom_cons_pos (by simp [h])]
      exact List.perm_middle.trans (ih.cons x)

theorem pick_drop_perm (s : List Nat) (q : List α) : (pick s q ++ drop s q).Perm q := pickFrom_perm _ _ _

theorem pickFrom_congr {p' : Nat → Bool} : ∀ {i : Nat} {q : List α},
    (∀ j, i ≤ j → j < i + q.length → p j = p' j) → pickFrom p i q = pickFrom p' i q
  | _, [], _ => rfl
  | i, x :: xs, h => by
    have hi : p i = p' i := h i (Nat.le_refl _) (by simp)
    have ih : pickFrom p (i + 1) xs = pickFrom p' (i + 1) xs :=
      pickFrom_congr fun j hj hlt => h j (by omega) (by simp at hlt ⊢; omega)
    rw [pickFrom, pickFrom, hi, ih]

theorem mem_pickFrom {x : α} : ∀ {i : Nat} {q : List α}, x ∈ pickFrom p i q → ∃ j, p (i + j) = true ∧ q[j]? = some x
  | _, [], h => by cases h
  | i, y :: ys, h => by
    have hlater : x ∈ pickFrom p (i + 1) ys → ∃ j, p (i + j) = true ∧ (y :: ys)[j]? = some x := by
      intro hmem
      obtain ⟨j, hj, hget⟩ := mem_pickFrom hmem
      exact ⟨j + 1, by rw [← hj]; congr 1; omega, by rw [List.getElem?_cons_succ, hget]⟩
    cases hp : p i with
    | true =>
      rw [pickFrom_cons_pos hp] at h
      rcases List.mem_cons.1 h with rfl | h
      · exact ⟨0, hp, rfl⟩
      · exact hlater h
    | false =>
      rw [pickFrom_cons_neg hp] at h
      exact hlater h

theorem mem_drop {x : α} (h : x ∈ drop s q) : ∃ i, i ∉ s ∧ q[i]? = some x := by
  obtain ⟨i, hi, hget⟩ := mem_pickFrom h
  rw [Nat.zero_add] at hi
  exact ⟨i, by simpa using hi, hget⟩

theorem pickFrom_or_perm {p' : Nat → Bool} (hdisjoint : ∀ j, p j = true → p' j = false) : ∀ (i : Nat) (q : List α),
    (pickFrom (fun j => p j || p' j) i q).Perm (pickFrom p i q ++ pickFrom p' i q)
  | _, [] => .refl _
  | i, x :: xs => by
    have ih := pickFrom_or_perm hdisjoint (i + 1) xs
    cases h : p i with
    | true =>
      rw [pickFrom_cons_pos (by simp [h]), pickFrom_cons_pos h, pickFrom_cons_neg (hdisjoint i h)]
      exact ih.cons x
    | false =>
      cases h' : p' i with
      | true =>
        rw [pickFrom_cons_pos (by simp [h']), pickFrom_cons_neg h, pickFrom_cons_pos h']
        exact (ih.cons x).trans List.perm_middle.symm
      | false =>
        rw [pickFrom_cons_neg (by simp [h, h']), pickFrom_cons_neg h, pickFrom_cons_neg h']
        exact ih

theorem pick_append_perm (hdisjoint : ∀ i ∈ s, i ∉ t) (q : List α) :
    (pick (s ++ t) q).Perm (pick s q ++ pick t q) := by
  have hor : pick (s ++ t) q = pickFrom (fun j => decide (j ∈ s) || decide (j ∈ t)) 0 q :=
    pickFrom_congr fun j _ _ => by simp
  rw [hor]
  refine pickFrom_or_perm (fun j hj => ?_) 0 q
  have hmem : j ∈ s := of_decide_eq_true hj
  simp [hdisjoint j hmem]

theorem pick_pick_drop_perm (hdisjoint : ∀ i ∈ s, i ∉ t) (q : List α) :
    (pick s q ++ pick t q ++ drop (s ++ t) q).Perm q :=
  ((pick_append_perm hdisjoint q).symm.append_right _).trans (pick_drop_perm (s ++ t) q)

theorem pickFrom_eq_filterMap : ∀ (s : List Nat) (i : Nat) (q : List α), s.Pairwise (· < ·) → (∀ j ∈ s, i ≤ j) →
    pickFrom (fun j => decide (j ∈ s)) i q = s.filterMap fun j => q[j - i]?
  | s, i, [], _, _ => by simp [pickFrom]
  | [], i, x :: xs, _, _ => by
    have ih := pickFrom_eq_filterMap [] (i + 1) xs .nil (by simp)
    rw [pickFrom_cons_neg (by simp), ih]
    rfl
  | j :: s, i, x :: xs, hs, hle => by
    have hjs : ∀ k ∈ s, j < k := (List.pairwise_cons.1 hs).1
    have hij : i ≤ j := hle j List.mem_cons_self
    by_cases heq : j = i
    · subst heq
      have ih := pickFrom_eq_filterMap s (j + 1) xs (List.pairwise_cons.1 hs).2 hjs
      have hcongr : pickFrom (fun k => decide (k ∈ j :: s)) (j + 1) xs = pickFrom (fun k => decide (k ∈ s)) (j + 1) xs := by
        refine pickFrom_congr fun k hk _ => ?_
        have hne : k ≠ j := by omega
        simp [hne]
      rw [pickFrom_cons_pos (by simp), hcongr, ih, List.filterMap_cons, Nat.sub_self]
      simp only [List.getElem?_cons_zero]
      congr 1
      refine List.filterMap_congr fun k hk => ?_
      have hlt := hjs k hk
      rw [show k - j = (k - (j + 1)) + 1 by omega, List.getElem?_cons_succ]
    · have hlt : i < j := by omega
      have hmem : ∀ k ∈ j :: s, i + 1 ≤ k := by
        intro k hk
        rcases List.mem_cons.1 hk with rfl | hk
        · exact hlt
        · exact Nat.lt_trans hlt (hjs k hk)
      have ih := pickFrom_eq_filterMap (j :: s) (i + 1) xs hs hmem
      have hnot : i ∉ j :: s := fun hi => absurd (hmem i hi) (by omega)
      rw [pickFrom_cons_neg (by simp only [decide_eq_false_iff_not]; exact hnot), ih]
      refine List.filterMap_congr fun k hk => ?_
      have hk := hmem k hk
      rw [show k - i = (k - (i + 1)) + 1 by omega, List.getElem?_cons_succ]

theorem pick_eq_filterMap (hs : s.Pairwise (· < ·)) (q : List α) : pick s q = s.filterMap (q[·]?) :=
  pickFrom_eq_filterMap s 0 q hs fun _ _ => Nat.zero_le _

theorem length_drop (s : List Nat) (q : List α) : (pick s q).length + (drop s q).length = q.length := by
  rw [← List.length_append, (pick_drop_perm s q).length_eq]

/-! ## Related lists -/

theorem forall₂_pickFrom {R : α → β → Prop} (p : Nat → Bool) : ∀ {xs : List α} {ys : List β}, List.Forall₂ R xs ys →
    ∀ i, List.Forall₂ R (pickFrom p i xs) (pickFrom p i ys)
  | _, _, .nil, _ => .nil
  | _, _, .cons (a := x) (b := y) hxy h, i => by
    have ih := forall₂_pickFrom p h (i + 1)
    cases hp : p i with
    | true =>
      rw [pickFrom_cons_pos hp, pickFrom_cons_pos hp]
      exact .cons hxy ih
    | false =>
      rw [pickFrom_cons_neg hp, pickFrom_cons_neg hp]
      exact ih

theorem forall₂_trans {γ : Type} {R : α → β → Prop} {S : β → γ → Prop} {T : α → γ → Prop}
    (hRS : ∀ a b c, R a b → S b c → T a c) : ∀ {xs : List α} {ys : List β} {zs : List γ},
    List.Forall₂ R xs ys → List.Forall₂ S ys zs → List.Forall₂ T xs zs
  | _, _, _, .nil, .nil => .nil
  | _, _, _, .cons hxy h, .cons hyz h' => .cons (hRS _ _ _ hxy hyz) (forall₂_trans hRS h h')

/-! ## Rotation in place -/

/-- Pops `n` elements from the front, the first one having index `i`, and pushes back those whose index is not given. -/
def rotateOut (s : List Nat) : Nat → Nat → List α → List α
  | 0, _, q => q
  | _ + 1, _, [] => []
  | n + 1, i, x :: q => rotateOut s n (i + 1) (if i ∈ s then q else q ++ [x])

theorem rotateOut_append (s : List Nat) : ∀ (q kept : List α) (i : Nat),
    rotateOut s q.length i (q ++ kept) = kept ++ pickFrom (fun j => !decide (j ∈ s)) i q
  | [], kept, i => by simp [rotateOut, pickFrom]
  | x :: q, kept, i => by
    simp only [List.length_cons, List.cons_append, rotateOut]
    by_cases hi : i ∈ s
    · rw [if_pos hi, rotateOut_append s q kept (i + 1), pickFrom_cons_neg (by simp [hi])]
    · rw [if_neg hi, List.append_assoc, rotateOut_append s q (kept ++ [x]) (i + 1), pickFrom_cons_pos (by simp [hi]),
        List.append_assoc]
      rfl

theorem rotateOut_eq_drop (s : List Nat) (q : List α) : rotateOut s q.length 0 q = drop s q := by
  have h := rotateOut_append s q [] 0
  rwa [List.append_nil, List.nil_append] at h

/-! ## Sorted index sets -/

/-- `sort_unstable` followed by `dedup`. -/
def sortDedup (s : List Nat) : List Nat := (s.insertionSort (· ≤ ·)).dedup

theorem mem_sortDedup : i ∈ sortDedup s ↔ i ∈ s := by
  rw [sortDedup, List.mem_dedup, List.mem_insertionSort]

theorem length_sortDedup (hs : s.Nodup) : (sortDedup s).length = s.length := by
  have hperm := List.perm_insertionSort (· ≤ ·) s
  rw [sortDedup, List.Nodup.dedup (hperm.nodup_iff.2 hs), hperm.length_eq]

theorem pick_sortDedup (s : List Nat) (q : List α) : pick (sortDedup s) q = pick s q :=
  pickFrom_congr fun j _ _ => by simp [mem_sortDedup]

theorem drop_sortDedup (s : List Nat) (q : List α) : drop (sortDedup s) q = drop s q :=
  pickFrom_congr fun j _ _ => by simp [mem_sortDedup]

theorem sortDedup_pairwise (s : List Nat) : (sortDedup s).Pairwise (· < ·) := by
  have hsorted : (sortDedup s).Pairwise (· ≤ ·) :=
    (List.pairwise_insertionSort (· ≤ ·) s).sublist (List.dedup_sublist _)
  have hnodup : (sortDedup s).Pairwise (· ≠ ·) := List.nodup_dedup _
  exact hsorted.imp₂ (fun _ _ hle hne => lt_of_le_of_ne hle hne) hnodup

theorem length_pick (hs : s.Nodup) (hlt : ∀ i ∈ s, i < q.length) : (pick s q).length = s.length := by
  rw [← pick_sortDedup, pick_eq_filterMap (sortDedup_pairwise s), ← length_sortDedup hs, List.filterMap_length_eq_length]
  intro i hi
  rw [List.getElem?_eq_getElem (hlt i (mem_sortDedup.1 hi))]
  rfl

theorem pickFrom_true : ∀ (i : Nat) (q : List α), pickFrom (fun _ => true) i q = q
  | _, [] => rfl
  | i, x :: xs => by rw [pickFrom_cons_pos rfl, pickFrom_true (i + 1) xs]

theorem pick_range (q : List α) : pick (List.range q.length) q = q := by
  have hall : pick (List.range q.length) q = pickFrom (fun _ => true) 0 q :=
    pickFrom_congr fun j _ hj => by simp at hj ⊢; exact hj
  rw [hall, pickFrom_true]

/-! ## Index lists in ascending order -/

/-- The ascending indices `s` of the queue point at the elements `xs`, one each. -/
structure Points (q : List α) (s : List Nat) (xs : List α) : Prop where
  ascending : s.Pairwise (· < ·)
  elements : List.Forall₂ (fun i x => q[i]? = some x) s xs

theorem Points.pick (h : Points q s xs) : pick s q = xs := by
  rw [pick_eq_filterMap h.ascending]
  have helements := h.elements
  clear h
  induction helements with
  | nil => rfl
  | cons hx _ ih => rw [List.filterMap_cons_some hx, ih]

theorem Points.drop (h : Points q s xs) (hst : ∀ i, i < q.length → (i ∈ s ↔ i ∉ t)) : drop t q = xs := by
  rw [← h.pick]
  refine pickFrom_congr fun i _ hi => ?_
  rw [Nat.zero_add] at hi
  simp [hst i hi]

theorem Points.lt (h : Points q s xs) : ∀ i ∈ s, i < q.length := by
  have helements := h.elements
  clear h
  induction helements with
  | nil => exact fun i hi => absurd hi List.not_mem_nil
  | cons hx _ ih => exact List.forall_mem_cons.2 ⟨(List.getElem?_eq_some_iff.1 hx).1, ih⟩

theorem points_nil (q : List α) : Points q [] [] := ⟨.nil, .nil⟩

theorem Points.filter (h : Points q s xs) {p : Nat → Bool} {f : α → Bool}
    (hpf : ∀ i x, q[i]? = some x → p i = f x) : Points q (s.filter p) (xs.filter f) := by
  refine ⟨h.ascending.filter _, ?_⟩
  have helements := h.elements
  clear h
  induction helements with
  | nil => exact .nil
  | @cons i x s xs hx _ ih =>
    have hi := hpf i x hx
    cases hf : f x with
    | true =>
      rw [List.filter_cons_of_pos (hi.trans hf), List.filter_cons_of_pos hf]
      exact .cons hx ih
    | false =>
      rw [List.filter_cons_of_neg (by simp [hi, hf]), List.filter_cons_of_neg (by simp [hf])]
      exact ih

theorem Points.any (h : Points q s xs) {p : Nat → Bool} {f : α → Bool}
    (hpf : ∀ i x, q[i]? = some x → p i = f x) : s.any p = xs.any f := by
  have helements := h.elements
  clear h
  induction helements with
  | nil => rfl
  | cons hx _ ih => rw [List.any_cons, List.any_cons, hpf _ _ hx, ih]

theorem Points.take (h : Points q s xs) (n : Nat) : Points q (s.take n) (xs.take n) :=
  ⟨h.ascending.sublist (List.take_sublist _ _), List.forall₂_take n h.elements⟩

theorem Points.skip (h : Points q s xs) (n : Nat) : Points q (s.drop n) (xs.drop n) :=
  ⟨h.ascending.sublist (List.drop_sublist _ _), List.forall₂_drop n h.elements⟩

theorem forall₂_getElem? : ∀ (xs ys : List α),
    List.Forall₂ (fun i x => (xs ++ ys)[i]? = some x) (List.range' xs.length ys.length) ys
  | _, [] => .nil
  | xs, y :: ys => by
    have ih := forall₂_getElem? (xs ++ [y]) ys
    rw [List.append_assoc, List.length_append] at ih
    exact .cons (by simp) ih

theorem points_range (q : List α) : Points q (List.range q.length) q := by
  refine ⟨List.pairwise_lt_range, ?_⟩
  rw [List.range_eq_range']
  exact forall₂_getElem? [] q

theorem filter_eq_find?_reverse {l : List α} {p : α → Bool} (hl : l.Nodup)
    (hunique : ∀ x y, p x = true → p y = true → x = y) : l.filter p = (l.reverse.find? p).toList := by
  cases hfind : l.reverse.find? p with
  | none =>
    rw [Option.toList_none, List.filter_eq_nil_iff]
    exact fun x hx => List.find?_eq_none.1 hfind x (List.mem_reverse.2 hx)
  | some x =>
    have hx := List.find?_some hfind
    have hmem := List.mem_reverse.1 (List.mem_of_find?_eq_some hfind)
    rw [Option.toList_some]
    refine List.Perm.eq_singleton ((List.perm_ext_iff_of_nodup (hl.filter p) (List.nodup_singleton x)).2 fun y => ?_)
    rw [List.mem_filter, List.mem_singleton]
    constructor
    · exact fun hy => hunique y x hy.2 hx
    · rintro rfl
      exact ⟨hmem, hx⟩

end Indexed
