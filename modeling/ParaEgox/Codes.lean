import Mathlib.Data.List.Infix
import Mathlib.Tactic.Common

/-!
# Codes — words that can be split off the front of a text

`Splits P enc` says that a text beginning with the word of some admitted value begins with the word of only one, and is
continued in only one way.  Codes of fixed length split, and so do a code followed by another that may depend on the value
of the first; hence whatever carries its own length splits too.
-/
namespace Codes

variable {α β γ : Type}

def Splits (P : α → Prop) (enc : α → List γ) : Prop :=
  ∀ a b, P a → P b → ∀ x y, enc a ++ x = enc b ++ y → a = b ∧ x = y

theorem Splits.injective {P : α → Prop} {enc : α → List γ} (h : Splits P enc) {a b : α} (ha : P a) (hb : P b)
    (heq : enc a = enc b) : a = b :=
  (h a b ha hb [] [] (by rw [heq])).1

theorem Splits.of_prefix {P : α → Prop} {enc : α → List γ} (h : Splits P enc) {a b : α} (ha : P a) (hb : P b)
    (hab : enc a <+: enc b) : a = b := by
  obtain ⟨t, ht⟩ := hab
  exact (h a b ha hb t [] (by rw [ht, List.append_nil])).1

theorem splits_of_length {P : α → Prop} {enc : α → List γ} {n : Nat} (hlength : ∀ a, P a → (enc a).length = n)
    (hinj : ∀ a b, P a → P b → enc a = enc b → a = b) : Splits P enc := by
  intro a b ha hb x y h
  obtain ⟨hword, htail⟩ := List.append_inj h ((hlength a ha).trans (hlength b hb).symm)
  exact ⟨hinj a b ha hb hword, htail⟩

theorem splits_counted {P : Nat → Prop} {enc : Nat → List γ} (h : Splits P enc) :
    Splits (fun l : List γ => P l.length) fun l => enc l.length ++ l := by
  intro l m hl hm x y heq
  rw [List.append_assoc, List.append_assoc] at heq
  obtain ⟨hlength, htail⟩ := h _ _ hl hm _ _ heq
  exact List.append_inj htail hlength

end Codes
