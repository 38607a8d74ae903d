import ParaEgox.Checked
import ParaEgox.Fields

/-!
# Frames — bodies of fixed records behind a magic, a version and 32-bit words

A frame is opened by its magic and version within a length limit, and goes on with words that count records or measure
parts.  The records of one section have one length; each is read by a cursor of its own that panics past its end, so that
a decoder is safe where its cursor spends the record's length (`Spends`) and no more.
-/
namespace ParaEgox
namespace Frames

open Check Wire Fields

variable {ε α β : Type}

inductive Fault (ε : Type)
  | error (e : ε)
  | panic

def Fault.map {ε' : Type} (into : ε → ε') : Fault ε → Fault ε'
  | .error e => .error (into e)
  | .panic => .panic

abbrev Res (ε α : Type) := Except (Fault ε) α
abbrev Cursor (ε α : Type) := Reader (Fault ε) α

structure Codes (ε : Type) where
  frameTooLarge : ε
  truncated : ε
  invalidMagic : ε
  unsupportedVersion : ε
  invalidFrameLength : ε

def signed (codes : Codes ε) (magic : Bytes) (version : Nat) : Cursor ε Unit := do
  let found ← Reader.take magic.length .panic
  Reader.lift (rejectIf (found.val ≠ magic) (.error codes.invalidMagic))
  let foundVersion ← u16 .panic
  Reader.lift (rejectIf (foundVersion.toNat ≠ version) (.error codes.unsupportedVersion))

def opening (codes : Codes ε) (magic : Bytes) (version headerBytes maximum : Nat) (frame : Bytes) : Res ε Bytes := do
  rejectIf (maximum < frame.length) (.error codes.frameTooLarge)
  rejectIf (frame.length < headerBytes) (.error codes.truncated)
  let front ← signed codes magic version frame
  pure front.2

def word : Cursor ε Nat := uint .panic 4

def fill (codes : Codes ε) (frame : Bytes) (expected : Nat) : Res ε Unit := do
  rejectIf (frame.length < expected) (.error codes.truncated)
  rejectIf (frame.length ≠ expected) (.error codes.invalidFrameLength)

/-- The next `n` bytes of a frame. -/
def part (n : Nat) : Cursor ε Bytes := do
  let bytes ← Reader.take n .panic
  pure bytes.val

def remaining : Cursor ε Bytes := fun bs => .ok (bs, [])

def Cursor.on (r : Cursor ε α) (bs : Bytes) : Res ε α := do
  let out ← r bs
  pure out.1

/-- `chunks_exact`: a rest shorter than one chunk is left out. -/
def chunksExact (size : Nat) (bs : Bytes) : List Bytes :=
  (List.range (bs.length / size)).map fun i => (bs.drop (i * size)).take size

def eachRecord (size : Nat) (record : UInt32 → Cursor ε α) (bs : Bytes) : Res ε (List α) :=
  collect (fun r => (record (UInt32.ofNat r.2)).on r.1) (chunksExact size bs).zipIdx

def coded (decode : UInt8 → Option α) (e : ε) : Cursor ε α := do
  let byte ← u8 .panic
  Reader.lift (okOr (decode byte) (.error e))

/-! ## What is read back -/

variable {n size version : Nat} {a : α} {r : Cursor ε α} {bs magic rest : Bytes} {f : Bytes → Cursor ε β} {b : β}
  {x : Res ε α} {codes : Codes ε}

theorem word_reads (h : n < 2 ^ 32) : Reads (word : Cursor ε Nat) (bytesBE 4 n) n := reads_uint Fault.panic h

theorem coded_reads {decode : UInt8 → Option α} {e : ε} {code : UInt8} (h : decode code = some a) :
    Reads (coded decode e) [code] a := reads_then (reads_u8 .panic code) (okOr_ok.2 h)

theorem part_reads (bs : Bytes) : Reads (part bs.length : Cursor ε Bytes) bs bs :=
  reads_map Subtype.val (reads_take bs Fault.panic)

theorem on_of_reads {e : Bytes} (h : Reads r e a) : r.on e = .ok a := by
  have hread := h []
  rw [List.append_nil] at hread
  exact ok_bind hread rfl

theorem on_ok : r.on bs = .ok a ↔ ∃ rest, r bs = .ok (a, rest) := by
  simp only [Cursor.on, bind_ok, pure_ok]
  constructor
  · rintro ⟨⟨b, rest⟩, h, rfl⟩
    exact ⟨rest, h⟩
  · rintro ⟨rest, h⟩
    exact ⟨(a, rest), h, rfl⟩

theorem on_of_consumes (h : Consumes r bs a) : r.on bs = .ok a := on_ok.2 ⟨[], h⟩

theorem consumes_word {f : Nat → Cursor ε β} (h : n < 2 ^ 32)
    (hf : Consumes (f n) rest b) : Consumes (word >>= f) (bytesBE 4 n ++ rest) b :=
  (bind_reads_ok ..).2 ⟨n, rest, word_reads h rest, hf⟩

theorem consumes_part (hf : Consumes (f bs) rest b) : Consumes (part bs.length >>= f) (bs ++ rest) b :=
  (bind_reads_ok ..).2 ⟨bs, rest, part_reads bs rest, hf⟩

theorem consumes_remaining (hf : Consumes (f bs) [] b) : Consumes (remaining >>= f) bs b :=
  (bind_reads_ok ..).2 ⟨bs, [], rfl, hf⟩

theorem consumes_lift (h : x = .ok a) : Consumes (Reader.lift x : Cursor ε α) [] a :=
  (lift_reads_ok ..).2 ⟨h, rfl⟩

theorem uint_taken {width : Nat} {short : ε} (h : uint short width bs = .ok (n, rest)) :
    bs = bytesBE width n ++ rest ∧ n < 256 ^ width := by
  obtain ⟨a, mid, ha, hb⟩ := (bind_reads_ok ..).1 h
  obtain ⟨rfl, rfl⟩ := (pure_reads_ok ..).1 hb
  have hbytes : bytesBE width (fromBE a.val) = a.val := by
    have hback := bytesBE_fromBE a.val
    rwa [a.property] at hback
  refine ⟨by rw [hbytes]; exact take_reads_ok ha, ?_⟩
  have hlt := fromBE_lt a.val
  rwa [a.property] at hlt

theorem word_taken (h : (word : Cursor ε Nat) bs = .ok (n, rest)) :
    bs = bytesBE 4 n ++ rest ∧ n < 2 ^ 32 := uint_taken h

theorem part_taken {out : Bytes} (h : (part n : Cursor ε Bytes) bs = .ok (out, rest)) :
    bs = out ++ rest ∧ out.length = n := by
  obtain ⟨a, mid, ha, hb⟩ := (bind_reads_ok ..).1 h
  obtain ⟨rfl, rfl⟩ := (pure_reads_ok ..).1 hb
  exact ⟨take_reads_ok ha, a.property⟩

theorem remaining_taken {out : Bytes} (h : (remaining : Cursor ε Bytes) bs = .ok (out, rest)) :
    out = bs ∧ rest = [] := by
  obtain ⟨rfl, rfl⟩ := Prod.mk.inj (Except.ok.inj h)
  exact ⟨rfl, rfl⟩

theorem signed_reads (codes : Codes ε) (magic : Bytes) {version : Nat} (h : version < 2 ^ 16) :
    Reads (signed codes magic version) (magic ++ bytesBE 2 version) () := by
  have hversion : (UInt16.ofNat version).toNat = version := UInt16.toNat_ofNat_of_lt' h
  have hword := reads_u16 (Fault.panic : Fault ε) (UInt16.ofNat version)
  rw [hversion] at hword
  refine reads_bind (reads_take magic Fault.panic) ?_
  refine reads_check (rejectIf_neg (fun h => h rfl)) ?_
  exact reads_whole hword (reads_lift (rejectIf_neg (not_not.2 hversion)))

theorem signed_taken
    (h : signed codes magic version bs = .ok ((), rest)) : bs = magic ++ bytesBE 2 version ++ rest := by
  simp only [signed, bind_reads_ok, lift_reads_ok, rejectIf_ok, not_not, ne_eq, exists_unit] at h
  obtain ⟨found, mid, htake, _, ⟨hmagic, rfl⟩, foundVersion, last, hversion, hsame, rfl⟩ := h
  obtain ⟨n, mid, hn, hpure⟩ := (bind_reads_ok ..).1 hversion
  obtain ⟨rfl, rfl⟩ := (pure_reads_ok ..).1 hpure
  obtain ⟨hbytes, hlt⟩ := uint_taken hn
  rw [UInt16.toNat_ofNat_of_lt' hlt] at hsame
  rw [take_reads_ok htake, hmagic, hbytes, hsame, List.append_assoc]

theorem opening_ok {headerBytes maximum : Nat} {frame : Bytes}
    (hversion : version < 2 ^ 16) : opening codes magic version headerBytes maximum frame = .ok rest ↔
      frame.length ≤ maximum ∧ headerBytes ≤ frame.length ∧ frame = magic ++ bytesBE 2 version ++ rest := by
  constructor
  · intro h
    simp only [opening, bind_ok, exists_unit, rejectIf_ok, not_lt, pure_ok] at h
    obtain ⟨hmaximum, hheader, ⟨u, out⟩, hfront, rfl⟩ := h
    exact ⟨hmaximum, hheader, signed_taken hfront⟩
  · rintro ⟨hmaximum, hheader, rfl⟩
    exact ok_check (not_lt.2 hmaximum) <| ok_check (not_lt.2 hheader) <|
      ok_bind (signed_reads codes magic hversion rest) rfl

theorem opening_room (count : Nat) {codes : Codes ε} {magic : Bytes} {version maximum : Nat} {frame rest : Bytes}
    (hversion : version < 2 ^ 16) (h : opening codes magic version (magic.length + 2 + count) maximum frame = .ok rest) :
    frame.length = magic.length + 2 + rest.length ∧ count ≤ rest.length := by
  obtain ⟨_, hheader, hframe⟩ := (opening_ok hversion).1 h
  have hlength := congrArg List.length hframe
  simp only [List.length_append, bytesBE_length] at hlength
  omega

@[simp] theorem fill_ok (codes : Codes ε) (frame : Bytes) (expected : Nat) (u : Unit) :
    fill codes frame expected = .ok u ↔ frame.length = expected := by
  simp only [fill, bind_ok, exists_unit, rejectIf_ok, not_lt, not_not, ne_eq]
  exact ⟨fun h => h.2, fun h => ⟨h.ge, h⟩⟩

/-! ## Records -/

theorem flatMap_length {enc : α → Bytes} (h : ∀ x, (enc x).length = size) (xs : List α) :
    (xs.flatMap enc).length = xs.length * size := by
  rw [List.length_flatMap, List.map_congr_left fun x _ => h x, List.map_const', List.sum_replicate_nat]

theorem chunksExact_flatMap (hsize : 0 < size) {enc : α → Bytes} : ∀ {xs : List α},
    (∀ x ∈ xs, (enc x).length = size) → chunksExact size (xs.flatMap enc) = xs.map enc
  | [], _ => by simp [chunksExact]
  | x :: xs, h => by
    have hx : (enc x).length = size := h x List.mem_cons_self
    have ih := chunksExact_flatMap hsize fun y hy => h y (List.mem_cons_of_mem x hy)
    have hcount : (enc x ++ xs.flatMap enc).length / size = (xs.flatMap enc).length / size + 1 := by
      rw [List.length_append, hx, Nat.add_div_left _ hsize]
    have hdrop (i : Nat) : (enc x ++ xs.flatMap enc).drop ((i + 1) * size) = (xs.flatMap enc).drop (i * size) := by
      rw [Nat.succ_mul, Nat.add_comm, ← hx, List.drop_append]
      simp
    unfold chunksExact at ih ⊢
    rw [List.flatMap_cons, hcount, List.range_succ_eq_map, List.map_cons, List.map_map, List.map_cons, ← ih]
    refine congrArg₂ List.cons ?_ (List.map_congr_left fun i _ => ?_)
    · rw [Nat.zero_mul, List.drop_zero, ← hx, List.take_left]
    · exact congrArg (List.take size) (hdrop i)

theorem length_of_mem_chunksExact {chunk : Bytes} (h : chunk ∈ chunksExact size bs) : chunk.length = size := by
  obtain ⟨i, hi, rfl⟩ := List.mem_map.1 h
  have hroom : (i + 1) * size ≤ bs.length :=
    (Nat.mul_le_mul_right size (List.mem_range.1 hi)).trans (Nat.div_mul_le_self _ _)
  rw [List.length_take, List.length_drop]
  rw [Nat.succ_mul] at hroom
  omega

theorem collect_zipIdx {f : Bytes × Nat → Except ε α} {enc : α → Bytes} : ∀ {xs : List α} (k : Nat),
    (∀ x ∈ xs, ∀ i, f (enc x, i) = .ok x) → collect f ((xs.map enc).zipIdx k) = .ok xs
  | [], _, _ => rfl
  | x :: xs, k, h => by
    have ih := collect_zipIdx (k + 1) fun y hy => h y (List.mem_cons_of_mem x hy)
    rw [List.map_cons, List.zipIdx_cons]
    exact ok_bind (h x List.mem_cons_self k) (ok_bind ih rfl)

theorem eachRecord_flatMap (hsize : 0 < size) {record : UInt32 → Cursor ε α} {enc : α → Bytes} {xs : List α}
    (hlength : ∀ x, (enc x).length = size) (hread : ∀ i x, Reads (record i) (enc x) x) :
    eachRecord size record (xs.flatMap enc) = .ok xs := by
  unfold eachRecord
  rw [chunksExact_flatMap hsize fun x _ => hlength x]
  exact collect_zipIdx 0 fun x _ i => on_of_reads (hread _ x)

/-! ## No panics -/

theorem avoids_refuse (p : Prop) [Decidable p] (e : ε) : Avoids .panic (rejectIf p (Fault.error e)) :=
  avoids_rejectIf p nofun

theorem avoids_missing (x : Option α) (e : ε) : Avoids .panic (okOr x (Fault.error e)) := avoids_okOr x nofun

theorem avoids_replaced {ε' : Type} (x : Except ε' α) (e : ε) : Avoids .panic (mapErr x (Fault.error e)) :=
  avoids_mapErr x nofun

theorem avoids_renamed {ε' : Type} (into : ε' → ε) (x : Except ε' α) :
    Avoids .panic (wrapErr (fun e => Fault.error (into e)) x) := avoids_wrapErr nofun

theorem avoids_map {ε' : Type} (into : ε → ε') {x : Res ε α} (h : Avoids .panic x) :
    Avoids .panic (wrapErr (Fault.map into) x) := by
  refine avoids_wrapErr fun e he => ?_
  cases e with
  | error e => cases he
  | panic => exact h

/-- The cursor takes exactly `n` bytes of an input that has them, and does not panic there. -/
def Spends (r : Cursor ε α) (n : Nat) : Prop :=
  ∀ bs : Bytes, n ≤ bs.length → Avoids .panic (r bs) ∧ ∀ a rest, r bs = .ok (a, rest) → rest.length + n = bs.length

theorem spends_pure (a : α) : Spends (pure a : Cursor ε α) 0 := by
  intro bs _
  refine ⟨avoids_of_ok rfl, fun b rest h => ?_⟩
  rw [((pure_reads_ok ..).1 h).2, Nat.add_zero]

theorem spends_bind {f : α → Cursor ε β} {m : Nat} (hr : Spends r m) (hf : ∀ a, Spends (f a) n) :
    Spends (r >>= f) (m + n) := by
  intro bs hroom
  obtain ⟨hsafe, hspent⟩ := hr bs ((Nat.le_add_right m n).trans hroom)
  refine ⟨?_, fun b rest h => ?_⟩
  · rw [bind_run]
    refine avoids_bind hsafe fun p hp => ((hf p.1) p.2 ?_).1
    have := hspent p.1 p.2 hp
    omega
  · obtain ⟨a, mid, ha, hb⟩ := (bind_reads_ok ..).1 h
    have hmid := hspent a mid ha
    have := (hf a mid (by omega)).2 b rest hb
    omega

theorem spends_take (n : Nat) : Spends (Reader.take n .panic : Cursor ε _) n := by
  intro bs hroom
  have htake : (Reader.take n .panic : Cursor ε _) bs = .ok (⟨bs.take n, List.length_take_of_le hroom⟩, bs.drop n) :=
    dif_pos hroom
  refine ⟨avoids_of_ok htake, fun a rest h => ?_⟩
  rw [htake] at h
  rw [← (Prod.mk.inj (Except.ok.inj h)).2, List.length_drop]
  omega

theorem spends_map (g : α → β) (hr : Spends r n) : Spends (r >>= fun a => pure (g a)) n :=
  spends_bind hr fun a => spends_pure (g a)

theorem spends_lift (h : Avoids .panic x) : Spends (Reader.lift x : Cursor ε α) 0 := by
  intro bs _
  refine ⟨fun heq => h ?_, fun a rest hok => ?_⟩
  · cases x with
    | error e => exact congrArg Except.error (Except.error.inj heq)
    | ok a => cases heq
  · rw [((lift_reads_ok ..).1 hok).2, Nat.add_zero]

theorem spends_check {f : α → Cursor ε β} (h : Avoids .panic x) (hf : ∀ a, Spends (f a) n) :
    Spends (Reader.lift x >>= f) n := by
  have hbind := spends_bind (spends_lift h) hf
  rwa [Nat.zero_add] at hbind

theorem spends_uint (width : Nat) : Spends (uint .panic width : Cursor ε Nat) width := spends_map _ (spends_take width)
theorem spends_ref16 : Spends (ref16 .panic : Cursor ε Ref16) 16 := spends_map _ (spends_take 16)
theorem spends_digest : Spends (digest .panic : Cursor ε Digest32) 32 := spends_map _ (spends_take 32)
theorem spends_u8 : Spends (u8 .panic : Cursor ε UInt8) 1 := spends_map _ (spends_uint 1)
theorem spends_u16 : Spends (u16 .panic : Cursor ε UInt16) 2 := spends_map _ (spends_uint 2)
theorem spends_u32 : Spends (u32 .panic : Cursor ε UInt32) 4 := spends_map _ (spends_uint 4)
theorem spends_u64 : Spends (u64 .panic : Cursor ε UInt64) 8 := spends_map _ (spends_uint 8)

theorem spends_coded (decode : UInt8 → Option α) (e : ε) : Spends (coded decode e) 1 :=
  spends_bind spends_u8 fun byte => spends_lift (avoids_missing (decode byte) e)

theorem avoids_run (h : Avoids .panic (r bs)) : Avoids .panic (r.on bs) :=
  avoids_bind h fun _ _ => avoids_of_ok rfl

theorem avoids_on (hr : Spends r n) {bs : Bytes} (h : n ≤ bs.length) :
    Avoids .panic (r.on bs) := avoids_run (hr bs h).1

theorem avoids_eachRecord {record : UInt32 → Cursor ε α} (h : ∀ i, Spends (record i) size) (bs : Bytes) :
    Avoids .panic (eachRecord size record bs) := by
  refine avoids_collect fun r hr => avoids_on (h _) ?_
  exact (length_of_mem_chunksExact (List.fst_mem_of_mem_zipIdx hr)).ge

theorem avoids_word {f : Nat → Cursor ε β} (hroom : 4 ≤ bs.length)
    (hf : ∀ n rest, bs.length = 4 + rest.length → Avoids .panic (f n rest)) : Avoids .panic ((word >>= f) bs) := by
  rw [bind_run]
  refine avoids_bind (spends_uint 4 bs hroom).1 fun p hp => hf p.1 p.2 ?_
  rw [(word_taken hp).1, List.length_append, bytesBE_length]

theorem avoids_part (hroom : n ≤ bs.length)
    (hf : ∀ taken rest, bs.length = n + rest.length → Avoids .panic (f taken rest)) : Avoids .panic ((part n >>= f) bs) := by
  rw [bind_run]
  refine avoids_bind (spends_map _ (spends_take n) bs hroom).1 fun p hp => hf p.1 p.2 ?_
  obtain ⟨hsplit, hlength⟩ := part_taken hp
  rw [hsplit, List.length_append, hlength]

theorem avoids_check {f : α → Cursor ε β} (hx : Avoids .panic x)
    (hf : ∀ a, x = .ok a → Avoids .panic (f a bs)) : Avoids .panic ((Reader.lift x >>= f) bs) := by
  cases x with
  | error e => exact fun h => hx (congrArg Except.error (Except.error.inj h))
  | ok a => exact hf a rfl

theorem avoids_remaining (hf : Avoids .panic (f bs [])) : Avoids .panic ((remaining >>= f) bs) := hf

theorem avoids_last (hx : Avoids .panic x) : Avoids .panic ((Reader.lift x : Cursor ε α) bs) :=
  (spends_lift hx bs (Nat.zero_le _)).1

theorem avoids_fill (codes : Codes ε) (frame : Bytes) (expected : Nat) : Avoids .panic (fill codes frame expected) :=
  avoids_bind (avoids_refuse _ _) fun _ _ => avoids_refuse _ _

theorem avoids_opening {headerBytes maximum : Nat} {frame : Bytes}
    (h : magic.length + 2 ≤ headerBytes) : Avoids .panic (opening codes magic version headerBytes maximum frame) := by
  have hsigned : Spends (signed codes magic version) (magic.length + 2) :=
    spends_bind (spends_take _) fun _ => spends_check (avoids_refuse _ _) fun _ =>
      spends_bind spends_u16 fun _ => spends_lift (avoids_refuse _ _)
  refine avoids_bind (avoids_refuse _ _) fun _ _ => ?_
  refine avoids_bind (avoids_refuse _ _) fun _ hroom => ?_
  have hheader := not_lt.1 (rejectIf_ok.1 hroom)
  exact avoids_bind (hsigned frame (h.trans hheader)).1 fun _ _ => avoids_of_ok rfl

/-! ## Exact formats -/

/-- A format in which every built value is decoded from its bytes, every accepted frame is the bytes of a built value, and
no frame makes the decoder panic. -/
structure Exact (Built : α → Prop) (wire : α → Bytes) (decode : Bytes → Res ε α) : Prop where
  decodes : ∀ a, Built a → decode (wire a) = .ok a
  accepted : ∀ frame a, decode frame = .ok a → Built a ∧ wire a = frame
  safe : ∀ frame, decode frame ≠ .error .panic

theorem Exact.ext {Built : α → Prop} {wire : α → Bytes} {decode : Bytes → Res ε α} (h : Exact Built wire decode) {a b : α}
    (ha : Built a) (hb : Built b) (hwire : wire a = wire b) : a = b := by
  have hdecode := h.decodes a ha
  rw [hwire, h.decodes b hb] at hdecode
  exact (Except.ok.inj hdecode).symm

end Frames
end ParaEgox
