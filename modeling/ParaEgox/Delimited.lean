import Mathlib.Tactic.Common

/-!
# Delimited — the frames of a length-delimited stream

A stream is a run of frames, each behind a header of fixed width that names its length.  It ends where a header names a
length that is not admitted, or where the bytes of a header or of its frame run out.
-/
namespace Delimited

variable {β : Type}

inductive StreamEnd
  | truncated
  | refused
  deriving DecidableEq

/-- How a stream is cut: the width of a header, the length it names, and the lengths that are admitted. -/
structure Format (β : Type) where
  width : Nat
  lengthOf : List β → Nat
  admits : Nat → Bool
  width_pos : 0 < width

variable (f : Format β)

/-- At most `fuel` frames off the front of a stream, and why the cutting stopped. -/
def split : Nat → List β → List (List β) × StreamEnd
  | 0, _ => ([], .truncated)
  | fuel + 1, s =>
    if s.length < f.width then ([], .truncated)
    else if f.admits (f.lengthOf (s.take f.width)) = false then ([], .refused)
    else if (s.drop f.width).length < f.lengthOf (s.take f.width) then ([], .truncated)
    else
      let rest := split fuel ((s.drop f.width).drop (f.lengthOf (s.take f.width)))
      ((s.drop f.width).take (f.lengthOf (s.take f.width)) :: rest.1, rest.2)

def frames (s : List β) : List (List β) × StreamEnd := split f (s.length + 1) s

theorem split_fuel : ∀ (fuel fuel' : Nat) (s : List β), s.length < fuel → s.length < fuel' →
    split f fuel s = split f fuel' s
  | 0, _, _, h, _ => absurd h (Nat.not_lt_zero _)
  | _ + 1, 0, _, _, h => absurd h (Nat.not_lt_zero _)
  | fuel + 1, fuel' + 1, s, h, h' => by
    unfold split
    by_cases hshort : s.length < f.width
    · rw [if_pos hshort, if_pos hshort]
    · have hwidth := f.width_pos
      have hlen : ((s.drop f.width).drop (f.lengthOf (s.take f.width))).length < s.length := by
        rw [List.length_drop, List.length_drop]
        omega
      dsimp only
      rw [split_fuel fuel fuel' _ (by omega) (by omega)]

theorem frames_short {s : List β} (h : s.length < f.width) : frames f s = ([], .truncated) := by
  unfold frames split
  rw [if_pos h]

theorem frames_refused {head : List β} (hhead : head.length = f.width)
    (hrefused : f.admits (f.lengthOf head) = false) (rest : List β) :
    frames f (head ++ rest) = ([], .refused) := by
  have htake : (head ++ rest).take f.width = head := List.take_left' hhead
  have hlong : ¬ (head ++ rest).length < f.width := by
    rw [List.length_append]
    omega
  unfold frames split
  rw [if_neg hlong, htake, if_pos hrefused]

theorem frames_truncated {head : List β} (hhead : head.length = f.width)
    (hadmits : f.admits (f.lengthOf head) = true) {rest : List β} (hrest : rest.length < f.lengthOf head) :
    frames f (head ++ rest) = ([], .truncated) := by
  have htake : (head ++ rest).take f.width = head := List.take_left' hhead
  have hdrop : (head ++ rest).drop f.width = rest := List.drop_left' hhead
  have hlong : ¬ (head ++ rest).length < f.width := by
    rw [List.length_append]
    omega
  unfold frames split
  rw [if_neg hlong, htake, hdrop, if_neg (by simp [hadmits]), if_pos hrest]

theorem frames_cons {head : List β} (hhead : head.length = f.width) (hadmits : f.admits (f.lengthOf head) = true)
    {body : List β} (hbody : body.length = f.lengthOf head) (rest : List β) :
    frames f (head ++ (body ++ rest)) = (body :: (frames f rest).1, (frames f rest).2) := by
  have htake : (head ++ (body ++ rest)).take f.width = head := List.take_left' hhead
  have hdrop : (head ++ (body ++ rest)).drop f.width = body ++ rest := List.drop_left' hhead
  have hwidth := f.width_pos
  have hlong : ¬ (head ++ (body ++ rest)).length < f.width := by
    rw [List.length_append]
    omega
  have hfits : ¬ (body ++ rest).length < f.lengthOf head := by
    rw [List.length_append]
    omega
  have hfuel : split f (head ++ (body ++ rest)).length rest = frames f rest := by
    refine split_fuel f _ _ rest ?_ (Nat.lt_succ_self _)
    rw [List.length_append, List.length_append]
    omega
  rw [frames, split, if_neg hlong, htake, hdrop, if_neg (by simp [hadmits]), if_neg hfits, List.take_left' hbody,
    List.drop_left' hbody, hfuel]

end Delimited
