import Mathlib.Algebra.Ring.Nat
import Mathlib.Data.List.Induction
import Mathlib.Data.List.Sort
import Mathlib.Order.Fin.Basic
import ParaEgox.Check

/-!
# Digest — canonical, domain-separated SHA-256 digests

The framing of `Digest32Builder`: a fixed magic, the format version, the length-prefixed domain, every field with its
ordinal and byte length, and a terminator that commits the field count.  SHA-256 itself is a parameter.
-/
namespace ParaEgox

open Check

abbrev Bytes := List UInt8

/-- A `u64`; the operations that can overflow say so. -/
abbrev U64 := Nat

/-- `u64::MAX`. -/
def u64Max : Nat := 2 ^ 64 - 1

/-- A SHA-256 digest: 32 bytes, ordered as the source orders byte arrays (big-endian). -/
def Digest32 := Fin (2 ^ 256)

instance : DecidableEq Digest32 := inferInstanceAs (DecidableEq (Fin _))
instance : LinearOrder Digest32 := inferInstanceAs (LinearOrder (Fin _))
instance : Zero Digest32 := ⟨⟨0, by decide⟩⟩

def Digest32.ofNat (n : Nat) : Digest32 := ⟨n % 2 ^ 256, Nat.mod_lt _ (by decide)⟩

def Ref16 := Fin (2 ^ 128)

instance : DecidableEq Ref16 := inferInstanceAs (DecidableEq (Fin _))
instance : LinearOrder Ref16 := inferInstanceAs (LinearOrder (Fin _))
instance : Zero Ref16 := ⟨⟨0, by decide⟩⟩

def Ref16.ofNat (n : Nat) : Ref16 := ⟨n % 2 ^ 128, Nat.mod_lt _ (by decide)⟩

abbrev Id32 := Digest32

/-- The bytes of `to_be_bytes`, low byte first, put before the bytes already written.  The match on the number keeps it
evaluated. -/
def bytesOnto : Nat → Nat → Bytes → Bytes
  | 0, _, rest => rest
  | width + 1, 0, rest => bytesOnto width 0 (0 :: rest)
  | width + 1, n + 1, rest => bytesOnto width ((n + 1) / 256) (UInt8.ofNat (n + 1) :: rest)

/-- `to_be_bytes` of an integer of `width` bytes. -/
def bytesBE (width n : Nat) : Bytes := bytesOnto width n []

theorem bytesOnto_succ (width n : Nat) (rest : Bytes) :
    bytesOnto (width + 1) n rest = bytesOnto width (n / 256) (UInt8.ofNat n :: rest) := by
  cases n with
  | zero => rfl
  | succ n => rfl

theorem bytesOnto_eq (width : Nat) : ∀ (n : Nat) (rest : Bytes), bytesOnto width n rest = bytesBE width n ++ rest := by
  induction width with
  | zero => exact fun _ _ => rfl
  | succ width ih =>
    intro n rest
    unfold bytesBE
    rw [bytesOnto_succ, bytesOnto_succ, ih, ih (n / 256) [UInt8.ofNat n], List.append_assoc]
    rfl

theorem bytesBE_succ (width n : Nat) : bytesBE (width + 1) n = bytesBE width (n / 256) ++ [UInt8.ofNat n] := by
  rw [← bytesOnto_eq, bytesBE, bytesOnto_succ]

@[simp] theorem bytesBE_length (width n : Nat) : (bytesBE width n).length = width := by
  induction width generalizing n with
  | zero => rfl
  | succ width ih => simp [bytesBE_succ, ih]

theorem bytesBE_inj {width : Nat} : ∀ {n m : Nat}, n < 256 ^ width → m < 256 ^ width →
    bytesBE width n = bytesBE width m → n = m := by
  induction width with
  | zero =>
    intro n m hn hm _
    rw [Nat.pow_zero, Nat.lt_one_iff] at hn hm
    rw [hn, hm]
  | succ width ih =>
    intro n m hn hm h
    rw [bytesBE_succ, bytesBE_succ] at h
    obtain ⟨hhigh, hlow⟩ := List.append_inj h (by simp)
    have hdiv : n / 256 = m / 256 := ih (Nat.div_lt_of_lt_mul (by rwa [Nat.pow_succ'] at hn))
      (Nat.div_lt_of_lt_mul (by rwa [Nat.pow_succ'] at hm)) hhigh
    have hmod : n % 256 = m % 256 := by
      have hbyte := congrArg UInt8.toNat (List.cons.inj hlow).1
      rwa [UInt8.toNat_ofNat', UInt8.toNat_ofNat'] at hbyte
    omega

/-- `from_be_bytes`. -/
def fromBE (bs : Bytes) : Nat := bs.foldl (fun n b => n * 256 + b.toNat) 0

theorem fromBE_snoc (bs : Bytes) (b : UInt8) : fromBE (bs ++ [b]) = fromBE bs * 256 + b.toNat := by
  rw [fromBE, List.foldl_append]
  rfl

theorem fromBE_lt (bs : Bytes) : fromBE bs < 256 ^ bs.length := by
  induction bs using List.reverseRecOn with
  | nil => decide
  | append_singleton bs b ih =>
    have hb : b.toNat < 256 := b.toNat_lt
    rw [fromBE_snoc, List.length_append, List.length_singleton, Nat.pow_succ]
    omega

/-- **Reading back a written number gives the number**, when it fits the width. -/
theorem fromBE_bytesBE {width : Nat} : ∀ {n : Nat}, n < 256 ^ width → fromBE (bytesBE width n) = n := by
  induction width with
  | zero =>
    intro n hn
    rw [Nat.pow_zero, Nat.lt_one_iff] at hn
    rw [hn]
    rfl
  | succ width ih =>
    intro n hn
    have hhigh : fromBE (bytesBE width (n / 256)) = n / 256 :=
      ih (Nat.div_lt_of_lt_mul (by rwa [Nat.pow_succ'] at hn))
    rw [bytesBE_succ, fromBE_snoc, hhigh, UInt8.toNat_ofNat']
    omega

theorem bytesBE_fromBE (bs : Bytes) : bytesBE bs.length (fromBE bs) = bs := by
  induction bs using List.reverseRecOn with
  | nil => rfl
  | append_singleton bs b ih =>
    have hb : b.toNat < 256 := b.toNat_lt
    have hdiv : (fromBE bs * 256 + b.toNat) / 256 = fromBE bs := by omega
    have hlow : UInt8.ofNat (fromBE bs * 256 + b.toNat) = b := by
      apply UInt8.toNat_inj.1
      rw [UInt8.toNat_ofNat']
      omega
    rw [List.length_append, List.length_singleton, bytesBE_succ, fromBE_snoc, hdiv, hlow, ih]

def Digest32.asBytes (d : Digest32) : Bytes := bytesBE 32 d.val
def Ref16.asBytes (r : Ref16) : Bytes := bytesBE 16 r.val

/-- `Digest32::from_bytes`. -/
def Digest32.fromBytes (bs : {bs : Bytes // bs.length = 32}) : Digest32 :=
  ⟨fromBE bs.val, lt_of_lt_of_eq (fromBE_lt bs.val) (by rw [bs.property]; decide)⟩

/-- A `[u8; 16]` taken as a reference. -/
def Ref16.fromBytes (bs : {bs : Bytes // bs.length = 16}) : Ref16 :=
  ⟨fromBE bs.val, lt_of_lt_of_eq (fromBE_lt bs.val) (by rw [bs.property]; decide)⟩

@[simp] theorem Digest32.asBytes_length (d : Digest32) : d.asBytes.length = 32 := bytesBE_length 32 d.val
@[simp] theorem Ref16.asBytes_length (r : Ref16) : r.asBytes.length = 16 := bytesBE_length 16 r.val

theorem Digest32.fromBytes_asBytes (d : Digest32) : Digest32.fromBytes ⟨d.asBytes, d.asBytes_length⟩ = d :=
  Fin.ext (fromBE_bytesBE (lt_of_lt_of_eq d.isLt (by decide)))

theorem Ref16.fromBytes_asBytes (r : Ref16) : Ref16.fromBytes ⟨r.asBytes, r.asBytes_length⟩ = r :=
  Fin.ext (fromBE_bytesBE (lt_of_lt_of_eq r.isLt (by decide)))

theorem Digest32.asBytes_fromBytes (bs : {bs : Bytes // bs.length = 32}) : (Digest32.fromBytes bs).asBytes = bs.val := by
  have h := bytesBE_fromBE bs.val
  rwa [bs.property] at h

theorem Ref16.asBytes_fromBytes (bs : {bs : Bytes // bs.length = 16}) : (Ref16.fromBytes bs).asBytes = bs.val := by
  have h := bytesBE_fromBE bs.val
  rwa [bs.property] at h

theorem Ref16.asBytes_inj {r r' : Ref16} (h : r.asBytes = r'.asBytes) : r = r' :=
  Fin.ext (bytesBE_inj (lt_of_lt_of_eq r.isLt (by decide)) (lt_of_lt_of_eq r'.isLt (by decide)) h)

theorem Digest32.asBytes_inj {d d' : Digest32} (h : d.asBytes = d'.asBytes) : d = d' :=
  Fin.ext (bytesBE_inj (lt_of_lt_of_eq d.isLt (by decide)) (lt_of_lt_of_eq d'.isLt (by decide)) h)

def ascii (s : String) : Bytes := s.toList.map fun c => UInt8.ofNat c.toNat

structure Text (s : String) where
  bytes : Bytes
  spells : bytes = ascii s

def hexDigit (n : Nat) : UInt8 := UInt8.ofNat (if n < 10 then 48 + n else 87 + n)

def lowerHex (bytes : Bytes) : Bytes := bytes.flatMap fun byte => [hexDigit (byte.toNat / 16), hexDigit (byte.toNat % 16)]

def isLowerHex (bytes : Bytes) : Bool := bytes.all fun byte => (48 ≤ byte ∧ byte ≤ 57) ∨ (97 ≤ byte ∧ byte ≤ 102)

/-- The hash of the host's `sha2` crate. -/
abbrev Sha256 := Bytes → Digest32

inductive DigestBuildError
  | emptyDomain
  | domainTooLong
  | tooManyFields
  | fieldTooLong
  deriving DecidableEq

/-- The builder: what it has hashed so far, the newest piece first, and its field count. -/
structure Digest32Builder where
  pieces : List Bytes
  fieldCount : Nat

theorem spells_paraEGOX : ([80, 97, 114, 97, 69, 71, 79, 88] : Bytes) = ascii "ParaEGOX" := by simp [ascii]

theorem spells_canonicalDigest :
    ([99, 97, 110, 111, 110, 105, 99, 97, 108, 45, 100, 105, 103, 101, 115, 116] : Bytes) = ascii "canonical-digest" := by
  simp [ascii]

namespace Digest32Builder

def formatMagic : Bytes :=
  Text.bytes (s := "ParaEGOX") ⟨_, spells_paraEGOX⟩ ++ [0]
    ++ Text.bytes (s := "canonical-digest") ⟨_, spells_canonicalDigest⟩

def preamble (domain : Bytes) : Bytes := [formatMagic, bytesBE 2 1, bytesBE 4 domain.length, domain].flatten

def tryNew (domain : Bytes) : Except DigestBuildError Digest32Builder := do
  rejectIf (domain = []) .emptyDomain
  rejectIf (2 ^ 32 ≤ domain.length) .domainTooLong
  pure ⟨[preamble domain], 0⟩

def frame (ordinal : Nat) (bytes : Bytes) : Bytes :=
  [[1], bytesBE 4 ordinal, bytesBE 8 bytes.length, bytes].flatten

def fieldBytes (b : Digest32Builder) (bytes : Bytes) : Except DigestBuildError Digest32Builder := do
  rejectIf (2 ^ 32 ≤ b.fieldCount + 1) .tooManyFields
  rejectIf (2 ^ 64 ≤ bytes.length) .fieldTooLong
  pure ⟨frame (b.fieldCount + 1) bytes :: b.pieces, b.fieldCount + 1⟩

def fields (b : Digest32Builder) (fs : List Bytes) : Except DigestBuildError Digest32Builder :=
  scan fieldBytes b fs

def finish (sha256 : Sha256) (b : Digest32Builder) : Digest32 :=
  sha256 (bytesBE 4 b.fieldCount :: [255] :: b.pieces).reverse.flatten

/-- The frames of a field sequence that follows `n` fields. -/
def frames : Nat → List Bytes → List Bytes
  | _, [] => []
  | n, f :: fs => frame (n + 1) f :: frames (n + 1) fs

theorem fields_ok : ∀ (fs : List Bytes) (b c : Digest32Builder),
    b.fields fs = .ok c ↔
      (fs ≠ [] → b.fieldCount + fs.length < 2 ^ 32) ∧ (∀ f ∈ fs, f.length < 2 ^ 64) ∧
        c = ⟨(frames b.fieldCount fs).reverse ++ b.pieces, b.fieldCount + fs.length⟩
  | [], b, c => by
    simp [fields, scan, frames]
    exact eq_comm
  | f :: fs, b, c => by
    simp only [fields, scan_ok_cons, fieldBytes, bind_ok, rejectIf_ok, exists_unit, pure_ok]
    constructor
    · rintro ⟨b', ⟨h1, h2, rfl⟩, h3⟩
      obtain ⟨h4, h5, rfl⟩ := (fields_ok fs _ _).1 h3
      refine ⟨fun _ => ?_, ?_, ?_⟩
      · cases fs with
        | nil => simp; omega
        | cons g gs => have := h4 (by simp); simp at this ⊢; omega
      · simpa using ⟨by omega, h5⟩
      · simp [frames]; omega
    · rintro ⟨h1, h2, rfl⟩
      have h1 := h1 (by simp)
      simp only [List.length_cons, List.forall_mem_cons] at h1 h2
      refine ⟨_, ⟨by omega, by omega, rfl⟩, (fields_ok fs _ _).2 ⟨fun _ => by simp; omega, h2.2, ?_⟩⟩
      simp [frames]; omega

end Digest32Builder

def digest32 (sha256 : Sha256) (domain : Bytes) (fs : List Bytes) : Except DigestBuildError Digest32 := do
  let b ← Digest32Builder.tryNew domain
  let b ← b.fields fs
  pure (b.finish sha256)

/-- What `digest32` hashes. -/
def digestInput (domain : Bytes) (fs : List Bytes) : Bytes :=
  (Digest32Builder.preamble domain :: (Digest32Builder.frames 0 fs ++ [[255], bytesBE 4 fs.length])).flatten

/-- **A digest is the hash of its framed input**, wherever the format can represent it. -/
theorem digest32_ok (sha256 : Sha256) (domain : Bytes) (fs : List Bytes) (d : Digest32) :
    digest32 sha256 domain fs = .ok d ↔
      domain ≠ [] ∧ domain.length < 2 ^ 32 ∧ fs.length < 2 ^ 32 ∧ (∀ f ∈ fs, f.length < 2 ^ 64) ∧
        d = sha256 (digestInput domain fs) := by
  simp only [digest32, Digest32Builder.tryNew, bind_ok, rejectIf_ok, exists_unit, pure_ok, Digest32Builder.fields_ok]
  constructor
  · rintro ⟨b, ⟨h1, h2, rfl⟩, c, ⟨h3, h4, rfl⟩, rfl⟩
    refine ⟨h1, by omega, ?_, h4, ?_⟩
    · cases fs with
      | nil => simp
      | cons f fs => simpa using h3 (by simp)
    · simp [Digest32Builder.finish, digestInput]
  · rintro ⟨h1, h2, h3, h4, rfl⟩
    refine ⟨_, ⟨h1, by omega, rfl⟩, _, ⟨fun _ => by simpa using h3, h4, rfl⟩, ?_⟩
    simp [Digest32Builder.finish, digestInput]

theorem digestInput_domain {domain domain' : Bytes} {fs gs : List Bytes} (h : digestInput domain fs = digestInput domain' gs)
    (hd : domain.length < 2 ^ 32) (hd' : domain'.length < 2 ^ 32) : domain = domain' := by
  simp only [digestInput, Digest32Builder.preamble, List.flatten_cons, List.append_assoc, List.append_cancel_left_eq] at h
  obtain ⟨hlength, hrest⟩ := List.append_inj h ((bytesBE_length ..).trans (bytesBE_length ..).symm)
  exact (List.append_inj hrest (bytesBE_inj hd hd' hlength)).1

theorem digestInput_pair_inj {domain : Bytes} {a b a' b' : Digest32}
    (h : digestInput domain [a.asBytes, b.asBytes] = digestInput domain [a'.asBytes, b'.asBytes]) : a = a' ∧ b = b' := by
  simp only [digestInput, Digest32Builder.frames, Digest32Builder.frame, Digest32.asBytes_length, List.flatten_cons,
    List.flatten_nil, List.cons_append, List.nil_append, List.append_nil, List.append_assoc, List.append_cancel_left_eq,
    List.cons.injEq, true_and] at h
  obtain ⟨ha, hrest⟩ := List.append_inj h (a.asBytes_length.trans a'.asBytes_length.symm)
  simp only [List.cons.injEq, List.append_cancel_left_eq, true_and] at hrest
  exact ⟨Digest32.asBytes_inj ha, Digest32.asBytes_inj (List.append_cancel_right hrest)⟩

def Collides (sha256 : Sha256) (inputs : List Bytes) : Prop := ∃ x ∈ inputs, ∃ y ∈ inputs, x ≠ y ∧ sha256 x = sha256 y

theorem eq_of_not_collides {sha256 : Sha256} {inputs : List Bytes} (h : ¬ Collides sha256 inputs) {x y : Bytes}
    (hx : x ∈ inputs) (hy : y ∈ inputs) (hxy : sha256 x = sha256 y) : x = y := by
  by_contra hne
  exact h ⟨x, hx, y, hy, hne, hxy⟩

theorem digestInput_inj {domain f g : Bytes} (h : digestInput domain [f] = digestInput domain [g]) : f = g := by
  simp only [digestInput, Digest32Builder.frames, Digest32Builder.frame, List.flatten_cons, List.flatten_nil,
    List.cons_append, List.nil_append, List.append_nil, List.append_assoc, List.append_cancel_left_eq,
    List.length_cons, List.length_nil, List.cons.injEq, true_and] at h
  have hbody := (List.append_inj h (by simp)).2
  exact List.append_cancel_right hbody

end ParaEgox
