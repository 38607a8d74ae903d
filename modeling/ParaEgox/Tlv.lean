import ParaEgox.Digest

/-!
# Tlv — tagged fields

A field is a big-endian tag of two bytes, a big-endian length of four and the bytes themselves.  A sequence of fields with
consecutive tags is determined by its bytes, as long as every length fits its prefix.
-/
namespace ParaEgox
namespace Tlv

def tlv (tag : Nat) (value : Bytes) : Bytes := [bytesBE 2 tag, bytesBE 4 value.length, value].flatten

/-- Fields tagged `n + 1`, `n + 2`, …. -/
def tlvs : Nat → List Bytes → Bytes
  | _, [] => []
  | n, v :: vs => tlv (n + 1) v ++ tlvs (n + 1) vs

def Fits (value : Bytes) : Prop := value.length < 2 ^ 32

@[simp] theorem tlv_length (tag : Nat) (value : Bytes) : (tlv tag value).length = 6 + value.length := by
  simp [tlv]
  omega

theorem tlvs_length (vs : List Bytes) : ∀ n, (tlvs n vs).length = 6 * vs.length + (vs.map List.length).sum := by
  induction vs with
  | nil => intro n; rfl
  | cons v vs ih =>
    intro n
    simp only [tlvs, List.length_append, tlv_length, ih, List.length_cons, List.map_cons, List.sum_cons]
    omega

theorem length_inj {a b : Nat} (ha : a < 2 ^ 32) (hb : b < 2 ^ 32) (h : bytesBE 4 a = bytesBE 4 b) : a = b :=
  bytesBE_inj (lt_of_lt_of_eq ha (by decide)) (lt_of_lt_of_eq hb (by decide)) h

theorem tlv_append_inj {tag : Nat} {v w rest rest' : Bytes} (hv : Fits v) (hw : Fits w)
    (h : tlv tag v ++ rest = tlv tag w ++ rest') : v = w ∧ rest = rest' := by
  simp only [tlv, List.flatten_cons, List.flatten_nil, List.append_nil, List.append_assoc,
    List.append_cancel_left_eq] at h
  obtain ⟨hlength, hbody⟩ := List.append_inj h (by simp)
  exact List.append_inj hbody (length_inj hv hw hlength)

theorem tlvs_inj : ∀ {n : Nat} {vs ws : List Bytes}, (∀ v ∈ vs, Fits v) → (∀ w ∈ ws, Fits w) → vs.length = ws.length →
    tlvs n vs = tlvs n ws → vs = ws
  | _, [], [], _, _, _, _ => rfl
  | n, v :: vs, w :: ws, hvs, hws, hlength, h => by
    obtain ⟨hv, hvs⟩ := List.forall_mem_cons.1 hvs
    obtain ⟨hw, hws⟩ := List.forall_mem_cons.1 hws
    obtain ⟨hvw, hrest⟩ := tlv_append_inj hv hw h
    have htail : vs = ws := tlvs_inj hvs hws (by simpa using hlength) hrest
    rw [hvw, htail]

end Tlv
end ParaEgox
