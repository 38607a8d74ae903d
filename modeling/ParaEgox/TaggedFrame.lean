import ParaEgox.Fields
import ParaEgox.Frames
import ParaEgox.Tlv

/-!
# TaggedFrame — frames of consecutive tagged fields

A frame is a magic, a version, a count and as many tagged fields.  The parser checks the length of a field before it takes
the value, and hands the values out in the order of their tags; a value is then read by its tag.
-/
namespace ParaEgox
namespace Tagged

open Check Wire Tlv
open Frames (Fault Res)

variable {ε : Type}

structure Errors (ε : Type) where
  frameTooLarge : ε
  truncated : ε
  invalidMagic : ε
  unsupportedVersion : ε
  trailingBytes : ε
  missingField : Nat → ε
  unknownField : Nat → ε
  duplicateField : Nat → ε
  outOfOrderField : Nat → ε
  invalidFieldLength : Nat → ε
  truncatedField : Nat → ε

/-- What the frames of a format begin with, how many fields they have, how long each may be and how long they may be. -/
structure Format where
  magic : Bytes
  version : Nat
  fieldCount : Nat
  maximum : Nat
  validLength : Nat → Nat → Bool

variable (f : Format) (errors : Errors ε)

def field (expectedTag : Nat) : Reader ε Bytes := do
  let tag ← Fields.uint errors.truncated 2
  let length ← Fields.uint errors.truncated 4
  Reader.lift (rejectIf (tag = 0 ∨ f.fieldCount < tag) (errors.unknownField tag))
  Reader.lift (rejectIf (tag < expectedTag) (errors.duplicateField tag))
  Reader.lift (rejectIf (expectedTag < tag) (errors.outOfOrderField tag))
  Reader.lift (rejectIf (f.validLength tag length = false) (errors.invalidFieldLength tag))
  let value ← Reader.take length (errors.truncatedField tag)
  pure value.val

def fields : Nat → Nat → Reader ε (List Bytes)
  | _, 0 => pure []
  | tag, remaining + 1 => do
    let value ← field f errors tag
    let rest ← fields (tag + 1) remaining
    pure (value :: rest)

def body : Reader ε (List Bytes) := do
  let magic ← Reader.take f.magic.length errors.truncated
  Reader.lift (rejectIf (magic.val ≠ f.magic) errors.invalidMagic)
  let version ← Fields.uint errors.truncated 2
  Reader.lift (rejectIf (version ≠ f.version) errors.unsupportedVersion)
  let declaredCount ← Fields.uint errors.truncated 2
  Reader.lift (rejectIf (declaredCount < f.fieldCount) (errors.missingField (declaredCount + 1)))
  Reader.lift (rejectIf (f.fieldCount < declaredCount) (errors.unknownField (f.fieldCount + 1)))
  let values ← fields f errors 1 f.fieldCount
  Reader.finish errors.trailingBytes
  pure values

def parse (frame : Bytes) : Except ε (List Bytes) := do
  rejectIf (f.maximum < frame.length) errors.frameTooLarge
  rejectIf (frame.length < f.magic.length + 4) errors.truncated
  let (values, _) ← body f errors frame
  pure values

def build (values : List Bytes) : Bytes :=
  [f.magic, bytesBE 2 f.version, bytesBE 2 f.fieldCount, tlvs 0 values].flatten

/-! ## Values by tag -/

def get (values : List Bytes) (tag : Nat) : Res ε Bytes := okOr values[tag - 1]? .panic

def array (width : Nat) (values : List Bytes) (tag : Nat) : Res ε {bs : Bytes // bs.length = width} := do
  let value ← get values tag
  if h : value.length = width then .ok ⟨value, h⟩ else .error (.error (errors.invalidFieldLength tag))

def ref16 (values : List Bytes) (tag : Nat) : Res ε Ref16 := do
  let bytes ← array errors 16 values tag
  pure (Ref16.fromBytes bytes)

def digest (values : List Bytes) (tag : Nat) : Res ε Digest32 := do
  let bytes ← array errors 32 values tag
  pure (Digest32.fromBytes bytes)

def uint (width : Nat) (values : List Bytes) (tag : Nat) : Res ε Nat := do
  let bytes ← array errors width values tag
  pure (fromBE bytes.val)

variable {f errors} {values : List Bytes} {tag : Nat}

theorem get_of {value : Bytes} (h : values[tag - 1]? = some value) : (get values tag : Res ε Bytes) = .ok value := by
  unfold get
  rw [h]
  rfl

theorem array_of {width : Nat} {value : Bytes} (h : values[tag - 1]? = some value) (hwidth : value.length = width) :
    array errors width values tag = .ok ⟨value, hwidth⟩ :=
  ok_bind (get_of h) (dif_pos hwidth)

theorem ref16_of {r : Ref16} (h : values[tag - 1]? = some r.asBytes) : ref16 errors values tag = .ok r := by
  refine ok_bind (array_of h r.asBytes_length) ?_
  rw [Ref16.fromBytes_asBytes]
  rfl

theorem digest_of {d : Digest32} (h : values[tag - 1]? = some d.asBytes) : digest errors values tag = .ok d := by
  refine ok_bind (array_of h d.asBytes_length) ?_
  rw [Digest32.fromBytes_asBytes]
  rfl

theorem uint_of {width n : Nat} (h : values[tag - 1]? = some (bytesBE width n)) (hn : n < 256 ^ width) :
    uint errors width values tag = .ok n := by
  refine ok_bind (array_of h (bytesBE_length width n)) ?_
  rw [fromBE_bytesBE hn]
  rfl

/-! ## Frames are read back -/

def Lengths (f : Format) : Nat → List Bytes → Prop
  | _, [] => True
  | tag, v :: vs => (f.validLength tag v.length = true ∧ Fits v) ∧ Lengths f (tag + 1) vs

theorem reads_field (errors : Errors ε) {value : Bytes} (hcount : f.fieldCount < 2 ^ 16) (hfirst : 1 ≤ tag)
    (hlast : tag ≤ f.fieldCount) (hlength : f.validLength tag value.length = true) (hfits : Fits value) :
    Reads (field f errors tag) (tlv tag value) value := by
  have htag : tag < 256 ^ 2 := lt_of_lt_of_eq (lt_of_le_of_lt hlast hcount) (by decide)
  have hshort : value.length < 256 ^ 4 := lt_of_lt_of_eq hfits (by decide)
  have hvalid : ¬ f.validLength tag value.length = false := by
    rw [hlength]
    exact Bool.true_eq_false_eq_False
  have hknown : ¬ (tag = 0 ∨ f.fieldCount < tag) := by omega
  exact Wire.reads_field (Fields.reads_uint _ htag) <| Wire.reads_field (Fields.reads_uint _ hshort) <|
    reads_check (rejectIf_neg hknown) <| reads_check (rejectIf_neg (lt_irrefl _)) <|
    reads_check (rejectIf_neg (lt_irrefl _)) <| reads_check (rejectIf_neg hvalid) <|
    Wire.reads_field (reads_take value _) <| reads_done _

theorem reads_fields (errors : Errors ε) (hcount : f.fieldCount < 2 ^ 16) : ∀ {tag : Nat} {values : List Bytes},
    Lengths f (tag + 1) values → tag + values.length ≤ f.fieldCount →
      Reads (fields f errors (tag + 1) values.length) (tlvs tag values) values
  | _, [], _, _ => reads_pure []
  | tag, v :: vs, h, hroom => by
    have hroom : tag + 1 + vs.length ≤ f.fieldCount := by
      rw [List.length_cons] at hroom
      omega
    have hv := reads_field errors hcount (Nat.le_add_left 1 tag) (by omega) h.1.1 h.1.2
    exact reads_bind hv <| reads_map (v :: ·) (reads_fields errors hcount h.2 hroom)

theorem parse_build (hversion : f.version < 2 ^ 16) (hcount : f.fieldCount < 2 ^ 16) (hall : values.length = f.fieldCount)
    (hlengths : Lengths f 1 values) (hroom : (build f values).length ≤ f.maximum) :
    parse f errors (build f values) = .ok values := by
  have hlong : f.magic.length + 4 ≤ (build f values).length := by
    unfold build
    simp
    omega
  have hversion' : f.version < 256 ^ 2 := lt_of_lt_of_eq hversion (by decide)
  have hcount' : f.fieldCount < 256 ^ 2 := lt_of_lt_of_eq hcount (by decide)
  have hfields : Reads (fields f errors (0 + 1) values.length) (tlvs 0 values) values :=
    reads_fields errors hcount hlengths (by omega)
  rw [hall] at hfields
  have hbody : Consumes (body f errors) (build f values) values :=
    consumes_field (reads_take f.magic _) <| consumes_check (rejectIf_neg (not_not.2 rfl)) <|
    consumes_field (Fields.reads_uint _ hversion') <| consumes_check (rejectIf_neg (not_not.2 rfl)) <|
    consumes_field (Fields.reads_uint _ hcount') <| consumes_check (rejectIf_neg (lt_irrefl _)) <|
    consumes_check (rejectIf_neg (lt_irrefl _)) <| consumes_field hfields <| consumes_finish _ values
  exact ok_check (not_lt.2 hroom) <| ok_check (not_lt.2 hlong) <| ok_bind hbody rfl

theorem build_length : (build f values).length =
    f.magic.length + 4 + (6 * values.length + (values.map List.length).sum) := by
  unfold build
  simp [tlvs_length]
  omega

end Tagged
end ParaEgox
