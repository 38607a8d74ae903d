import ParaEgox.Codes
import ParaEgox.Digest

/-!
# DigestFraming — the stream of a digest names its fields

Everything a `Digest32Builder` feeds to the hash splits off the front of any text: magic and version are fixed, the domain
and every field stand behind their lengths, a field begins with its marker and the terminator with another.  So the stream
determines the domain and the fields, and no stream begins a different one.
-/
namespace ParaEgox
namespace Digest32Builder

open Check Codes

/-! ## The builder's fields -/

def fieldU16 (b : Digest32Builder) (value : UInt16) : Except DigestBuildError Digest32Builder :=
  b.fieldBytes (bytesBE 2 value.toNat)

def fieldU64 (b : Digest32Builder) (value : UInt64) : Except DigestBuildError Digest32Builder :=
  b.fieldBytes (bytesBE 8 value.toNat)

def fieldDigest (b : Digest32Builder) (value : Digest32) : Except DigestBuildError Digest32Builder :=
  b.fieldBytes value.asBytes

inductive Field
  | bytes (value : Bytes)
  | u16 (value : UInt16)
  | u64 (value : UInt64)
  | digest (value : Digest32)

def Field.append (b : Digest32Builder) : Field → Except DigestBuildError Digest32Builder
  | .bytes value => b.fieldBytes value
  | .u16 value => b.fieldU16 value
  | .u64 value => b.fieldU64 value
  | .digest value => b.fieldDigest value

def Field.asBytes : Field → Bytes
  | .bytes value => value
  | .u16 value => bytesBE 2 value.toNat
  | .u64 value => bytesBE 8 value.toNat
  | .digest value => value.asBytes

def build (domain : Bytes) (fields : List Field) : Except DigestBuildError Digest32Builder := do
  let b ← tryNew domain
  scan Field.append b fields

/-- Everything `finish` has fed to the hash. -/
def stream (b : Digest32Builder) : Bytes := (bytesBE 4 b.fieldCount :: [255] :: b.pieces).reverse.flatten

theorem append_eq (b : Digest32Builder) (field : Field) : field.append b = b.fieldBytes field.asBytes := by
  cases field <;> rfl

theorem scan_append (fs : List Field) : ∀ b : Digest32Builder, scan Field.append b fs = b.fields (fs.map Field.asBytes) := by
  induction fs with
  | nil => exact fun _ => rfl
  | cons f fs ih =>
    intro b
    unfold fields
    rw [List.map_cons, scan, scan, append_eq]
    exact congrArg _ (funext fun b' => ih b')

def Representable (p : Bytes × List Bytes) : Prop :=
  p.1.length < 2 ^ 32 ∧ p.2.length < 2 ^ 32 ∧ ∀ f ∈ p.2, f.length < 2 ^ 64

theorem build_ok {domain : Bytes} {fs : List Field} {b : Digest32Builder} (h : build domain fs = .ok b) :
    b.stream = digestInput domain (fs.map Field.asBytes) ∧ Representable (domain, fs.map Field.asBytes) := by
  simp only [build, tryNew, bind_ok, rejectIf_ok, exists_unit, pure_ok, scan_append, fields_ok] at h
  obtain ⟨_, ⟨hempty, hlong, rfl⟩, hcount, hlengths, rfl⟩ := h
  refine ⟨?_, Nat.lt_of_not_le hlong, ?_, hlengths⟩
  · simp [stream, digestInput]
  · cases fs with
    | nil => exact Nat.two_pow_pos 32
    | cons f fs => simpa using hcount (by simp)

/-! ## Splitting the stream -/

theorem splits_bytesBE (width : Nat) : Splits (fun n : Nat => n < 256 ^ width) (bytesBE width) :=
  splits_of_length (fun n _ => bytesBE_length width n) fun _ _ hn hm => bytesBE_inj hn hm

theorem splits_field : Splits (fun f : Bytes => f.length < 256 ^ 8) fun f => bytesBE 8 f.length ++ f :=
  splits_counted (splits_bytesBE 8)

theorem splits_domain : Splits (fun d : Bytes => d.length < 256 ^ 4) fun d => bytesBE 4 d.length ++ d :=
  splits_counted (splits_bytesBE 4)

/-- The fields that follow `n` others, with the terminator. -/
def fieldStream (n : Nat) (fs : List Bytes) : Bytes := (frames n fs ++ [[255], bytesBE 4 (n + fs.length)]).flatten

theorem fieldStream_cons (n : Nat) (f : Bytes) (fs : List Bytes) (x : Bytes) : fieldStream n (f :: fs) ++ x
    = 1 :: (bytesBE 4 (n + 1) ++ ((bytesBE 8 f.length ++ f) ++ (fieldStream (n + 1) fs ++ x))) := by
  have hcount : n + (f :: fs).length = n + 1 + fs.length := by rw [List.length_cons]; omega
  unfold fieldStream
  rw [hcount]
  simp [frames, frame]

/-- **The marker tells a field from the terminator**, so the fields split off one by one. -/
theorem splits_fieldStream : ∀ (fs gs : List Bytes) (n : Nat), (∀ f ∈ fs, f.length < 256 ^ 8) →
    (∀ g ∈ gs, g.length < 256 ^ 8) → ∀ x y, fieldStream n fs ++ x = fieldStream n gs ++ y → fs = gs ∧ x = y
  | [], [], n, _, _, x, y, h => ⟨rfl, List.append_cancel_left h⟩
  | [], g :: gs, n, _, _, x, y, h => by
    rw [fieldStream_cons] at h
    exact absurd (List.cons.inj h).1 (by decide)
  | f :: fs, [], n, _, _, x, y, h => by
    rw [fieldStream_cons] at h
    exact absurd (List.cons.inj h).1 (by decide)
  | f :: fs, g :: gs, n, hf, hg, x, y, h => by
    rw [fieldStream_cons, fieldStream_cons] at h
    have hbody := List.append_cancel_left (List.cons.inj h).2
    obtain ⟨rfl, hrest⟩ := splits_field f g (hf f List.mem_cons_self) (hg g List.mem_cons_self) _ _ hbody
    obtain ⟨rfl, htail⟩ := splits_fieldStream fs gs (n + 1) (fun f' hf' => hf f' (List.mem_cons_of_mem _ hf'))
      (fun g' hg' => hg g' (List.mem_cons_of_mem _ hg')) x y hrest
    exact ⟨rfl, htail⟩

theorem splits_digestInput : Splits Representable fun p => digestInput p.1 p.2 := by
  rintro ⟨d, fs⟩ ⟨d', gs⟩ ⟨hd, -, hf⟩ ⟨hd', -, hg⟩ x y h
  have hsplit : ∀ (d : Bytes) (fs : List Bytes) (x : Bytes), digestInput d fs ++ x
      = formatMagic ++ (bytesBE 2 1 ++ ((bytesBE 4 d.length ++ d) ++ (fieldStream 0 fs ++ x))) := fun d fs x => by
    simp [digestInput, preamble, fieldStream]
  rw [hsplit, hsplit, List.append_cancel_left_eq, List.append_cancel_left_eq] at h
  obtain ⟨rfl, hfields⟩ := splits_domain d d' hd hd' _ _ h
  obtain ⟨rfl, htail⟩ := splits_fieldStream fs gs 0 hf hg x y hfields
  exact ⟨rfl, htail⟩

/-- **Digest framing is injective**: equal streams have one domain and the same fields in the same order, and no stream is
a proper prefix of another. -/
theorem digest_framing_injective {d d' : Bytes} {fs gs : List Field} {b b' : Digest32Builder}
    (hb : build d fs = .ok b) (hb' : build d' gs = .ok b') :
    (b.stream = b'.stream → d = d' ∧ fs.length = gs.length ∧ fs.map Field.asBytes = gs.map Field.asBytes)
      ∧ (b.stream <+: b'.stream → b.stream = b'.stream) := by
  obtain ⟨hstream, hrep⟩ := build_ok hb
  obtain ⟨hstream', hrep'⟩ := build_ok hb'
  rw [hstream, hstream']
  refine ⟨fun heq => ?_, fun hsub => ?_⟩
  · have hsame := splits_digestInput.injective hrep hrep' heq
    obtain ⟨rfl, hfields⟩ := Prod.mk.inj hsame
    have hlength := congrArg List.length hfields
    rw [List.length_map, List.length_map] at hlength
    exact ⟨rfl, hlength, hfields⟩
  · have hsame := splits_digestInput.of_prefix hrep hrep' hsub
    obtain ⟨rfl, hfields⟩ := Prod.mk.inj hsame
    rw [hfields]

theorem digest_framing_injective_split : ∃ b b' : Digest32Builder, build [7] [.bytes [1, 2]] = .ok b
    ∧ build [7] [.bytes [1], .bytes [2]] = .ok b' ∧ b.stream ≠ b'.stream := by
  have hb : ∃ b, build [7] [.bytes [1, 2]] = .ok b := ⟨_, rfl⟩
  have hb' : ∃ b', build [7] [.bytes [1], .bytes [2]] = .ok b' := ⟨_, rfl⟩
  obtain ⟨b, hb⟩ := hb
  obtain ⟨b', hb'⟩ := hb'
  exact ⟨b, b', hb, hb', fun heq => absurd ((digest_framing_injective hb hb').1 heq).2.1 (by decide)⟩

end Digest32Builder
end ParaEgox
