import ParaEgox.Checked
import ParaEgox.Digest

/-!
# Peel — encodings that are read off the front of the bytes

An encoding peels when a value and the bytes after it are determined by what they are written to.  Fixed widths peel, and so
do sequences that begin with their count.
-/
namespace ParaEgox
namespace Peel

variable {α : Type}

def Peels (P : α → Prop) (enc : α → Bytes) : Prop :=
  ∀ a b r s, P a → P b → enc a ++ r = enc b ++ s → a = b ∧ r = s

variable {enc : α → Bytes} {r s : Bytes}

theorem fixed {n : Nat} (hlength : ∀ a, (enc a).length = n) (hinj : ∀ a b, enc a = enc b → a = b)
    {a b : α} (h : enc a ++ r = enc b ++ s) : a = b ∧ r = s := by
  obtain ⟨hhead, htail⟩ := List.append_inj h (by rw [hlength, hlength])
  exact ⟨hinj a b hhead, htail⟩

theorem ref16 {a b : Ref16} (h : a.asBytes ++ r = b.asBytes ++ s) : a = b ∧ r = s :=
  fixed Ref16.asBytes_length (fun _ _ => Ref16.asBytes_inj) h

theorem digest {a b : Digest32} (h : a.asBytes ++ r = b.asBytes ++ s) : a = b ∧ r = s :=
  fixed Digest32.asBytes_length (fun _ _ => Digest32.asBytes_inj) h

theorem u32 {a b : UInt32} (h : bytesBE 4 a.toNat ++ r = bytesBE 4 b.toNat ++ s) : a = b ∧ r = s := by
  obtain ⟨hhead, htail⟩ := List.append_inj h (by simp)
  exact ⟨UInt32.toNat_inj.1 (bytesBE_inj a.toNat_lt b.toNat_lt hhead), htail⟩

theorem count {a b : Nat} (ha : a ≤ u32Max) (hb : b ≤ u32Max)
    (h : bytesBE 4 a ++ r = bytesBE 4 b ++ s) : a = b ∧ r = s := by
  obtain ⟨hhead, htail⟩ := List.append_inj h (by simp)
  exact ⟨bytesBE_inj (Nat.lt_of_le_of_lt ha (by decide)) (Nat.lt_of_le_of_lt hb (by decide)) hhead, htail⟩

theorem byte {f : α → UInt8} (hinj : ∀ a b, f a = f b → a = b) {a b : α} (h : [f a] ++ r = [f b] ++ s) :
    a = b ∧ r = s := by
  obtain ⟨hhead, htail⟩ := List.cons.inj h
  exact ⟨hinj a b hhead, htail⟩

theorem Peels.flatMap {P : α → Prop} (hp : Peels P enc) : ∀ {xs ys : List α} {r s : Bytes},
    xs.length = ys.length → (∀ x ∈ xs, P x) → (∀ y ∈ ys, P y) → xs.flatMap enc ++ r = ys.flatMap enc ++ s →
      xs = ys ∧ r = s
  | [], [], _, _, _, _, _, h => ⟨rfl, h⟩
  | x :: xs, y :: ys, r, s, hlength, hx, hy, h => by
    obtain ⟨hx, hxs⟩ := List.forall_mem_cons.1 hx
    obtain ⟨hy, hys⟩ := List.forall_mem_cons.1 hy
    rw [List.flatMap_cons, List.flatMap_cons, List.append_assoc, List.append_assoc] at h
    obtain ⟨rfl, hrest⟩ := hp x y _ _ hx hy h
    obtain ⟨rfl, hrs⟩ := hp.flatMap (by simpa using hlength) hxs hys hrest
    exact ⟨rfl, hrs⟩

theorem Peels.counted {P : α → Prop} (hp : Peels P enc) {xs ys : List α}
    (hxs : xs.length ≤ u32Max) (hys : ys.length ≤ u32Max) (hx : ∀ x ∈ xs, P x) (hy : ∀ y ∈ ys, P y)
    (h : bytesBE 4 xs.length ++ (xs.flatMap enc ++ r) = bytesBE 4 ys.length ++ (ys.flatMap enc ++ s)) :
    xs = ys ∧ r = s := by
  obtain ⟨hlength, hrest⟩ := count hxs hys h
  exact hp.flatMap hlength hx hy hrest

end Peel
end ParaEgox
