import ParaEgox.Digest

/-!
# Checked — arithmetic that fails instead of wrapping
-/
namespace ParaEgox

open Check

variable {ε : Type}

def u32Max : Nat := 2 ^ 32 - 1

theorem one_le_u32Max : 1 ≤ u32Max := by decide


/-- `checked_add` on `u64`. -/
def addU64 (a b : Nat) (e : ε) : Except ε Nat := do
  rejectIf (u64Max < a + b) e
  pure (a + b)

/-- `checked_mul` on `u64`. -/
def mulU64 (a b : Nat) (e : ε) : Except ε Nat := do
  rejectIf (u64Max < a * b) e
  pure (a * b)

/-- `checked_sub` on `u64`. -/
def subU64 (a b : Nat) (e : ε) : Except ε Nat := do
  rejectIf (a < b) e
  pure (a - b)

/-- `u32::try_from`. -/
def toU32 (n : Nat) (e : ε) : Except ε Nat := do
  rejectIf (u32Max < n) e
  pure n

def u128Max : Nat := 2 ^ 128 - 1

/-- `checked_add` on `u128`. -/
def addU128 (a b : Nat) (e : ε) : Except ε Nat := do
  rejectIf (u128Max < a + b) e
  pure (a + b)

/-- `checked_mul` on `u128`. -/
def mulU128 (a b : Nat) (e : ε) : Except ε Nat := do
  rejectIf (u128Max < a * b) e
  pure (a * b)

/-- `checked_sub` on `u128`. -/
def subU128 (a b : Nat) (e : ε) : Except ε Nat := do
  rejectIf (a < b) e
  pure (a - b)

/-- `checked_add(1)` on `u64`. -/
def succU64 (n : UInt64) : Option UInt64 := if n.toNat + 1 < 2 ^ 64 then some (n + 1) else none

def sumU64 (e : ε) (xs : List Nat) : Except ε Nat := scan (fun total x => addU64 total x e) 0 xs

@[simp] theorem addU64_ok {a b c : Nat} {e : ε} : addU64 a b e = .ok c ↔ a + b ≤ u64Max ∧ a + b = c := by
  simp only [addU64, bind_ok, rejectIf_ok, exists_unit, pure_ok, Nat.not_lt]

@[simp] theorem addU128_ok {a b c : Nat} {e : ε} : addU128 a b e = .ok c ↔ a + b ≤ u128Max ∧ a + b = c := by
  simp only [addU128, bind_ok, rejectIf_ok, exists_unit, pure_ok, Nat.not_lt]

@[simp] theorem mulU64_ok (a b c : Nat) (e : ε) : mulU64 a b e = .ok c ↔ a * b ≤ u64Max ∧ a * b = c := by
  simp only [mulU64, bind_ok, rejectIf_ok, exists_unit, pure_ok, Nat.not_lt]

theorem succU64_eq_some {n m : UInt64} : succU64 n = some m ↔ m.toNat = n.toNat + 1 := by
  have hn := UInt64.toNat_lt n
  have hm := UInt64.toNat_lt m
  have hone : (1 : UInt64).toNat = 1 := rfl
  unfold succU64
  split
  · rename_i hlt
    rw [Option.some.injEq, ← UInt64.toNat_inj, UInt64.toNat_add, hone, Nat.mod_eq_of_lt hlt]
    exact eq_comm
  · rename_i hlt
    constructor
    · intro h
      cases h
    · intro h
      omega

@[simp] theorem subU64_ok {a b c : Nat} {e : ε} : subU64 a b e = .ok c ↔ b ≤ a ∧ a - b = c := by
  simp only [subU64, bind_ok, rejectIf_ok, exists_unit, pure_ok, Nat.not_lt]

@[simp] theorem toU32_ok {n m : Nat} {e : ε} : toU32 n e = .ok m ↔ n ≤ u32Max ∧ n = m := by
  simp only [toU32, bind_ok, rejectIf_ok, exists_unit, pure_ok, Nat.not_lt]

theorem scan_addU64_ok (e : ε) : ∀ (xs : List Nat) (total c : Nat),
    scan (fun total x => addU64 total x e) total xs = .ok c ↔
      (xs ≠ [] → total + xs.sum ≤ u64Max) ∧ total + xs.sum = c
  | [], total, c => by simp [scan]
  | x :: xs, total, c => by
    simp only [scan_ok_cons, addU64_ok, scan_addU64_ok e xs, List.sum_cons, ne_eq, reduceCtorEq, not_false_eq_true,
      forall_const]
    constructor
    · rintro ⟨t, ⟨hle, rfl⟩, hsum, hc⟩
      cases xs with
      | nil => exact ⟨by simpa using hle, by simpa using hc⟩
      | cons y ys =>
        have hsum := hsum (by simp)
        exact ⟨by rw [← Nat.add_assoc]; exact hsum, by rw [← hc, Nat.add_assoc]⟩
    · rintro ⟨hle, hc⟩
      exact ⟨total + x, ⟨by omega, rfl⟩, fun _ => by omega, by rw [← hc, Nat.add_assoc]⟩

@[simp] theorem sumU64_ok {e : ε} {xs : List Nat} {c : Nat} : sumU64 e xs = .ok c ↔ xs.sum ≤ u64Max ∧ xs.sum = c := by
  rw [sumU64, scan_addU64_ok, Nat.zero_add]
  constructor
  · rintro ⟨hle, hc⟩
    cases xs with
    | nil => exact ⟨Nat.zero_le _, hc⟩
    | cons x xs => exact ⟨hle (by simp), hc⟩
  · rintro ⟨hle, hc⟩
    exact ⟨fun _ => hle, hc⟩

theorem avoids_addU64 {bad e : ε} (a b : Nat) (h : e ≠ bad) : Avoids bad (addU64 a b e) :=
  avoids_check h (avoids_of_ok rfl)

theorem avoids_mulU64 {bad e : ε} (a b : Nat) (h : e ≠ bad) : Avoids bad (mulU64 a b e) :=
  avoids_check h (avoids_of_ok rfl)

theorem avoids_subU64 {bad e : ε} (a b : Nat) (h : e ≠ bad) : Avoids bad (subU64 a b e) :=
  avoids_check h (avoids_of_ok rfl)

theorem avoids_toU32 {bad e : ε} (n : Nat) (h : e ≠ bad) : Avoids bad (toU32 n e) :=
  avoids_check h (avoids_of_ok rfl)

theorem avoids_sumU64 {bad e : ε} (xs : List Nat) (h : e ≠ bad) : Avoids bad (sumU64 e xs) :=
  avoids_scan (fun _ _ => avoids_addU64 _ _ h) _ _

end ParaEgox
