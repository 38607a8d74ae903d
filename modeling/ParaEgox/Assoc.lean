import Mathlib.Data.List.Nodup
import Mathlib.Data.List.Perm.Basic
import Mathlib.Algebra.BigOperators.Group.List.Basic
import Mathlib.Algebra.GroupWithZero.Nat

/-!
# Assoc — maps as association lists

A map with distinct keys, kept in insertion order.  Lookup, insertion of a key, an update in place and removal, with how
they act on concatenations, on lists whose values are converted, and on sums over the values.
-/
namespace Assoc

variable {κ α β : Type} [DecidableEq κ]

def keys (xs : List (κ × α)) : List κ := xs.map Prod.fst

def get (k : κ) (xs : List (κ × α)) : Option α := (xs.find? fun e => e.1 = k).map Prod.snd

def adjust (k : κ) (f : α → α) (xs : List (κ × α)) : List (κ × α) := xs.map fun e => if e.1 = k then (e.1, f e.2) else e

def put (k : κ) (v : α) (xs : List (κ × α)) : List (κ × α) :=
  if k ∈ keys xs then adjust k (fun _ => v) xs else xs ++ [(k, v)]

def erase (k : κ) (xs : List (κ × α)) : List (κ × α) := xs.filter fun e => e.1 ≠ k

def mapVals (g : α → β) (xs : List (κ × α)) : List (κ × β) := xs.map fun e => (e.1, g e.2)

/-! ## Lookup -/

@[simp] theorem get_nil (k : κ) : get k ([] : List (κ × α)) = none := rfl

theorem get_cons (k : κ) (e : κ × α) (xs : List (κ × α)) :
    get k (e :: xs) = if e.1 = k then some e.2 else get k xs := by
  unfold get
  by_cases h : e.1 = k
  · rw [List.find?_cons_of_pos (by simpa using h), if_pos h]
    rfl
  · rw [List.find?_cons_of_neg (by simpa using h), if_neg h]

variable {k j : κ} {xs : List (κ × α)} {v : α}

theorem get_eq_none : get k xs = none ↔ k ∉ keys xs := by
  induction xs with
  | nil => simp [keys]
  | cons e xs ih =>
    rw [get_cons]
    by_cases h : e.1 = k
    · simp [keys, h]
    · rw [if_neg h, ih]
      simp [keys, Ne.symm h]

theorem get_append (k : κ) (xs ys : List (κ × α)) : get k (xs ++ ys) = (get k xs).or (get k ys) := by
  induction xs with
  | nil => rfl
  | cons e xs ih =>
    rw [List.cons_append, get_cons, get_cons, ih]
    by_cases h : e.1 = k
    · simp [h]
    · simp [h]

theorem mem_of_get (h : get k xs = some v) : (k, v) ∈ xs := by
  induction xs with
  | nil => cases h
  | cons e xs ih =>
    rw [get_cons] at h
    by_cases hk : e.1 = k
    · rw [if_pos hk] at h
      rw [← hk, ← Option.some.inj h]
      exact List.mem_cons_self
    · rw [if_neg hk] at h
      exact List.mem_cons_of_mem e (ih h)

theorem get_of_mem (hnodup : (keys xs).Nodup) (h : (k, v) ∈ xs) :
    get k xs = some v := by
  induction xs with
  | nil => cases h
  | cons e xs ih =>
    obtain ⟨hnotin, hnodup⟩ := List.nodup_cons.1 hnodup
    rw [get_cons]
    obtain rfl | h := List.mem_cons.1 h
    · rw [if_pos rfl]
    · rw [if_neg, ih hnodup h]
      rintro rfl
      exact hnotin (List.mem_map.2 ⟨_, h, rfl⟩)

theorem key_of_get (h : get k xs = some v) : k ∈ keys xs :=
  List.mem_map_of_mem (mem_of_get h)

/-! ## Insertion, update and removal -/

theorem put_of_notMem (h : k ∉ keys xs) : put k v xs = xs ++ [(k, v)] := by
  unfold put
  rw [if_neg h]

theorem erase_of_notMem (h : k ∉ keys xs) : erase k xs = xs := by
  unfold erase
  refine List.filter_eq_self.2 fun e he => ?_
  have hne : e.1 ≠ k := fun heq => h (heq ▸ List.mem_map_of_mem he)
  simpa using hne

omit [DecidableEq κ] in
@[simp] theorem keys_append (xs ys : List (κ × α)) : keys (xs ++ ys) = keys xs ++ keys ys := List.map_append

omit [DecidableEq κ] in
@[simp] theorem keys_mapVals (g : α → β) (xs : List (κ × α)) : keys (mapVals g xs) = keys xs := by
  simp [keys, mapVals]

@[simp] theorem keys_adjust (k : κ) (f : α → α) (xs : List (κ × α)) : keys (adjust k f xs) = keys xs := by
  unfold keys adjust
  rw [List.map_map]
  refine List.map_congr_left fun e _ => ?_
  by_cases h : e.1 = k
  · simp [h]
  · simp [h]

theorem erase_append (k : κ) (xs ys : List (κ × α)) : erase k (xs ++ ys) = erase k xs ++ erase k ys :=
  List.filter_append ..

theorem keys_erase_sublist (k : κ) (xs : List (κ × α)) : (keys (erase k xs)).Sublist (keys xs) :=
  List.filter_sublist.map Prod.fst

theorem notMem_keys_erase (k : κ) (xs : List (κ × α)) : k ∉ keys (erase k xs) := by
  simp [keys, erase]

theorem get_erase_of_ne (h : j ≠ k) (xs : List (κ × α)) : get j (erase k xs) = get j xs := by
  induction xs with
  | nil => rfl
  | cons e xs ih =>
    by_cases hk : e.1 = k
    · have hdrop : erase k (e :: xs) = erase k xs := List.filter_cons_of_neg (by simpa using hk)
      have hj : e.1 ≠ j := fun hej => h (hej.symm.trans hk)
      rw [hdrop, get_cons, if_neg hj, ih]
    · have hkeep : erase k (e :: xs) = e :: erase k xs := List.filter_cons_of_pos (by simpa using hk)
      rw [hkeep, get_cons, get_cons, ih]

theorem get_erase_self (k : κ) (xs : List (κ × α)) : get k (erase k xs) = none :=
  get_eq_none.2 (notMem_keys_erase k xs)

theorem get_adjust_self {f : α → α} : get k (adjust k f xs) = (get k xs).map f := by
  induction xs with
  | nil => rfl
  | cons e xs ih =>
    have hcons : adjust k f (e :: xs) = (if e.1 = k then (e.1, f e.2) else e) :: adjust k f xs := rfl
    rw [hcons, get_cons, get_cons, ih]
    by_cases h : e.1 = k
    · simp [h]
    · simp [h]

theorem get_adjust_of_ne (h : j ≠ k) {f : α → α} : get j (adjust k f xs) = get j xs := by
  induction xs with
  | nil => rfl
  | cons e xs ih =>
    have hcons : adjust k f (e :: xs) = (if e.1 = k then (e.1, f e.2) else e) :: adjust k f xs := rfl
    rw [hcons, get_cons, get_cons, ih]
    by_cases hk : e.1 = k
    · have hj : e.1 ≠ j := fun hej => h (hej.symm.trans hk)
      simp [hk, hk ▸ hj]
    · simp [hk]

theorem get_put_self (k : κ) (v : α) (xs : List (κ × α)) : get k (put k v xs) = some v := by
  unfold put
  split
  · rename_i h
    rw [get_adjust_self]
    cases hget : get k xs with
    | none => exact absurd h (get_eq_none.1 hget)
    | some w => rfl
  · rename_i h
    rw [get_append, get_eq_none.2 h, get_cons, if_pos rfl]
    rfl

theorem get_put_of_ne (h : j ≠ k) (v : α) (xs : List (κ × α)) : get j (put k v xs) = get j xs := by
  unfold put
  split
  · exact get_adjust_of_ne h
  · rw [get_append, get_cons, if_neg h.symm, get_nil, Option.or_none]

theorem nodup_keys_put (v : α) (h : (keys xs).Nodup) : (keys (put k v xs)).Nodup := by
  unfold put
  split
  · rw [keys_adjust]
    exact h
  · rename_i hk
    rw [keys_append]
    refine List.nodup_append'.2 ⟨h, List.nodup_singleton k, fun j hj hj' => hk ?_⟩
    have hjk : j = k := List.mem_singleton.1 hj'
    exact hjk ▸ hj

theorem length_put (k : κ) (v : α) (xs : List (κ × α)) :
    (put k v xs).length = if k ∈ keys xs then xs.length else xs.length + 1 := by
  unfold put
  split
  · simp [adjust]
  · simp

theorem put_of_get : ∀ {xs : List (κ × α)}, (keys xs).Nodup → get k xs = some v → put k v xs = xs := by
  intro xs hnodup hget
  have hmem := key_of_get hget
  unfold put
  rw [if_pos hmem]
  refine (List.map_congr_left fun e he => ?_).trans (List.map_id xs)
  by_cases hk : e.1 = k
  · have hsame := (List.inj_on_of_nodup_map hnodup) he (mem_of_get hget) hk
    rw [if_pos hk, hsame]
    rfl
  · rw [if_neg hk]
    rfl

/-! ## Converted values -/

theorem get_mapVals (k : κ) (g : α → β) (xs : List (κ × α)) : get k (mapVals g xs) = (get k xs).map g := by
  induction xs with
  | nil => rfl
  | cons e xs ih =>
    have hcons : mapVals g (e :: xs) = (e.1, g e.2) :: mapVals g xs := rfl
    rw [hcons, get_cons, get_cons, ih]
    by_cases h : e.1 = k
    · simp [h]
    · simp [h]

/-! ## An entry and the others -/

theorem perm_erase : ∀ {xs : List (κ × α)}, (keys xs).Nodup → get k xs = some v →
    xs.Perm ((k, v) :: erase k xs)
  | [], _, h => by cases h
  | e :: xs, hnodup, h => by
    obtain ⟨he, hxs⟩ := List.nodup_cons.1 hnodup
    rw [get_cons] at h
    by_cases hk : e.1 = k
    · have hdrop : erase k (e :: xs) = erase k xs := List.filter_cons_of_neg (by simpa using hk)
      rw [if_pos hk] at h
      have hxs' : erase k xs = xs := erase_of_notMem (hk ▸ he)
      have hev : e = (k, v) := Prod.ext hk (Option.some.inj h)
      rw [hdrop, hxs', hev]
    · have hkeep : erase k (e :: xs) = e :: erase k xs := List.filter_cons_of_pos (by simpa using hk)
      rw [if_neg hk] at h
      rw [hkeep]
      exact ((perm_erase hxs h).cons e).trans (List.Perm.swap _ _ _)

theorem sum_erase (f : κ × α → Nat) (hnodup : (keys xs).Nodup)
    (h : get k xs = some v) : (xs.map f).sum = f (k, v) + ((erase k xs).map f).sum := by
  rw [((perm_erase hnodup h).map f).sum_eq, List.map_cons, List.sum_cons]

theorem length_erase (hnodup : (keys xs).Nodup) (h : get k xs = some v) :
    xs.length = (erase k xs).length + 1 := by
  rw [(perm_erase hnodup h).length_eq, List.length_cons]

end Assoc
