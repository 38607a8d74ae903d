import ParaEgox.Check

/-!
# Failures — the errors a computation can end with

A computation fails with some errors when it ends with no other one.  The errors of a sequence are those of its steps.
-/
namespace Check

variable {ε α β : Type} {errors : List ε}

def FailsWith (errors : List ε) (x : Except ε α) : Prop := ∀ error, x = .error error → error ∈ errors

theorem FailsWith.pure (a : α) : FailsWith errors (pure a : Except ε α) := fun _ h => by cases h

theorem FailsWith.bind {x : Except ε α} {f : α → Except ε β} (hx : FailsWith errors x)
    (hf : ∀ a, x = .ok a → FailsWith errors (f a)) : FailsWith errors (x >>= f) := by
  intro error h
  cases hcase : x with
  | error error' =>
    rw [hcase] at h
    obtain rfl : error' = error := Except.error.inj h
    exact hx error' hcase
  | ok a =>
    rw [hcase] at h
    exact hf a hcase error h

theorem FailsWith.rejectIf {bad : Prop} [Decidable bad] {error : ε} (h : bad → error ∈ errors) :
    FailsWith errors (rejectIf bad error) := by
  intro error' he
  unfold Check.rejectIf at he
  split at he
  · rename_i hbad
    cases he
    exact h hbad
  · cases he

theorem FailsWith.forEach {xs : List α} {f : α → Except ε Unit} (h : ∀ x, FailsWith errors (f x)) :
    FailsWith errors (forEach xs f) := by
  induction xs with
  | nil => exact .pure ()
  | cons x xs ih => exact (h x).bind fun _ _ => ih

theorem FailsWith.collect {xs : List α} {f : α → Except ε β} (h : ∀ x, FailsWith errors (f x)) :
    FailsWith errors (collect f xs) := by
  induction xs with
  | nil => exact .pure []
  | cons x xs ih => exact (h x).bind fun _ _ => ih.bind fun _ _ => .pure _

end Check
