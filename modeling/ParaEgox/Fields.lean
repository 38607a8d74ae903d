import ParaEgox.Digest
import ParaEgox.Wire

/-!
# Fields — the fields a cursor reads, whatever its errors are

Big-endian integers, references, digests and byte strings of a bounded length, each with the encoding it reads back and the
bytes it took.
-/
namespace ParaEgox
namespace Fields

open Check Wire

variable {ε : Type} (short : ε)

/-- A big-endian integer of `width` bytes. -/
def uint (width : Nat) : Reader ε Nat := do
  let bytes ← Reader.take width short
  pure (fromBE bytes.val)

def ref16 : Reader ε Ref16 := do
  let bytes ← Reader.take 16 short
  pure (Ref16.fromBytes bytes)

def digest : Reader ε Digest32 := do
  let bytes ← Reader.take 32 short
  pure (Digest32.fromBytes bytes)

def u8 : Reader ε UInt8 := do
  let n ← uint short 1
  pure (UInt8.ofNat n)

def u16 : Reader ε UInt16 := do
  let n ← uint short 2
  pure (UInt16.ofNat n)

def u32 : Reader ε UInt32 := do
  let n ← uint short 4
  pure (UInt32.ofNat n)

def u64 : Reader ε UInt64 := do
  let n ← uint short 8
  pure (UInt64.ofNat n)

def bounded (tooLarge : ε) (length maximum : Nat) : Reader ε Bytes := do
  Reader.lift (rejectIf (maximum < length) tooLarge)
  let bytes ← Reader.take length short
  pure bytes.val

/-- A byte string behind its length of `width` bytes. -/
def counted (tooLarge : ε) (width maximum : Nat) : Reader ε Bytes := do
  let length ← uint short width
  bounded short tooLarge length maximum

/-! ## What is read back -/

theorem reads_uint {width n : Nat} (h : n < 256 ^ width) : Reads (uint short width) (bytesBE width n) n := by
  have hread := reads_map (fun bs : {bs : Bytes // bs.length = width} => fromBE bs.val)
    (reads_take_of_length (bytesBE_length width n) short)
  rwa [fromBE_bytesBE h] at hread

theorem reads_ref16 (r : Ref16) : Reads (ref16 short) r.asBytes r := by
  have hread := reads_map Ref16.fromBytes (reads_take_of_length r.asBytes_length short)
  rwa [Ref16.fromBytes_asBytes] at hread

theorem reads_digest (d : Digest32) : Reads (digest short) d.asBytes d := by
  have hread := reads_map Digest32.fromBytes (reads_take_of_length d.asBytes_length short)
  rwa [Digest32.fromBytes_asBytes] at hread

theorem reads_u8 (n : UInt8) : Reads (u8 short) [n] n := by
  have hread := reads_map UInt8.ofNat (reads_uint short (lt_of_lt_of_eq n.toNat_lt (by decide) : n.toNat < 256 ^ 1))
  have hbytes : bytesBE 1 n.toNat = [n] := by
    rw [bytesBE_succ, UInt8.ofNat_toNat]
    rfl
  rwa [UInt8.ofNat_toNat, hbytes] at hread

theorem reads_u16 (n : UInt16) : Reads (u16 short) (bytesBE 2 n.toNat) n := by
  have hread := reads_map UInt16.ofNat (reads_uint short (lt_of_lt_of_eq n.toNat_lt (by decide) : n.toNat < 256 ^ 2))
  rwa [UInt16.ofNat_toNat] at hread

theorem reads_u32 (n : UInt32) : Reads (u32 short) (bytesBE 4 n.toNat) n := by
  have hread := reads_map UInt32.ofNat (reads_uint short (lt_of_lt_of_eq n.toNat_lt (by decide) : n.toNat < 256 ^ 4))
  rwa [UInt32.ofNat_toNat] at hread

theorem reads_u64 (n : UInt64) : Reads (u64 short) (bytesBE 8 n.toNat) n := by
  have hread := reads_map UInt64.ofNat (reads_uint short (lt_of_lt_of_eq n.toNat_lt (by decide) : n.toNat < 256 ^ 8))
  rwa [UInt64.ofNat_toNat] at hread

theorem reads_bounded {tooLarge : ε} {bytes : Bytes} {maximum : Nat} (h : bytes.length ≤ maximum) :
    Reads (bounded short tooLarge bytes.length maximum) bytes bytes :=
  reads_check (rejectIf_neg (not_lt.2 h)) (reads_map _ (reads_take bytes short))

theorem reads_counted {tooLarge : ε} {bytes : Bytes} {width maximum : Nat} (h : bytes.length ≤ maximum)
    (hwidth : bytes.length < 256 ^ width) :
    Reads (counted short tooLarge width maximum) (bytesBE width bytes.length ++ bytes) bytes :=
  reads_bind (reads_uint short hwidth) (reads_bounded short h)

end Fields
end ParaEgox
