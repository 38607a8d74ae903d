import Mathlib.Data.Fintype.Basic
import ParaEgox.WorkerCodec

/-!
# ProcessRejection — the codes with which host and worker refuse a frame

Both decoders make the same checks in the same order, with two exceptions: an all-zero digest or entrypoint in a body has
another code on each side, and the worker looks at the kind of a terminal before its length.  The codes agree on every
refused frame that does not reach one of the two.
-/
namespace ParaEgox
namespace Worker

open Check Wire Process

variable {α β γ δ : Type} {ε : Type}

/-- The code of a `ProtocolError`. -/
def Raised.code : Raised → Option ProtocolErrorCode
  | .protocolError code _ => some code
  | .structError | .indexError | .keyError => none

/-! ## The same fate on both sides -/

def Same (R : α → β → Prop) : Res α → Py β → Prop
  | .ok a, .ok b => R a b
  | .error e, .error r => r.code = some e
  | _, _ => False

variable {c c' W : Prop} {b : Bytes} {x : Except Raised (β × Bytes)} {table : List (UInt8 × α)}

theorem same_rejectIf [Decidable c] [Decidable c'] (h : c ↔ c') (e : ProtocolErrorCode) (m : String) :
    Same (fun _ _ => ¬c) (rejectIf c e) (rejectIf c' (Raised.protocolError e m)) := by
  by_cases hc : c
  · rw [rejectIf, if_pos hc, rejectIf, if_pos (h.1 hc)]
    rfl
  · rw [rejectIf_neg hc, rejectIf_neg (fun hc' => hc (h.2 hc'))]
    exact hc

def Apart (r : Res α) (p : Py β) : Prop := ∃ e e', r = .error e ∧ p = .error e' ∧ e'.code ≠ some e

def Alike (r : Res α) (p : Py β) : Prop := ∃ e e', r = .error e ∧ p = .error e' ∧ e'.code = some e

/-- Both sides have the same fate unless `W` holds, and then they refuse with different codes. -/
def Fate (W : Prop) (r : Res α) (p : Py β) : Prop := (W ∧ Apart r p) ∨ (¬W ∧ Same (fun _ _ => True) r p)

variable {r : Res α} {p : Py β} {a : α} {n offset : Nat} {v : UInt8} {P : ε → Prop}

theorem Alike.same (h : Alike r p) : Same (fun _ _ => True) r p := by
  obtain ⟨e, e', rfl, rfl, hcode⟩ := h
  exact hcode

theorem Fate.alike (hW : ¬W) (h : Alike r p) : Fate W r p := .inr ⟨hW, h.same⟩

theorem Fate.step {R : α → β → Prop} {f : α → Res γ} {g : β → Py δ} (h : Same R r p)
    (hfail : (∃ e, r = .error e) → ¬W) (hok : ∀ a b, r = .ok a → R a b → Fate W (f a) (g b)) :
    Fate W (r >>= f) (p >>= g) := by
  cases r with
  | error e =>
    cases p with
    | error r => exact .inr ⟨hfail ⟨e, rfl⟩, h⟩
    | ok b => exact h.elim
  | ok a =>
    cases p with
    | error r => exact h.elim
    | ok b => exact hok a b rfl h

theorem Fate.check [Decidable c] [Decidable c'] {e : ProtocolErrorCode} {m : String}
    {f : Unit → Res γ} {g : Unit → Py δ} (hiff : c ↔ c') (hW : c → ¬W) (hok : ¬c → Fate W (f ()) (g ())) :
    Fate W (rejectIf c e >>= f) (rejectIf c' (Raised.protocolError e m) >>= g) := by
  refine Fate.step (same_rejectIf hiff e m) ?_ (fun _ _ _ => hok)
  rintro ⟨e', he⟩
  refine hW ?_
  by_contra hc
  rw [rejectIf_neg hc] at he
  cases he

theorem Fate.left {f : α → Res γ} {p : Py δ} (h : r = .ok a) (hs : Fate W (f a) p) :
    Fate W (r >>= f) p := by
  rw [h]
  exact hs

theorem Fate.right {b : β} {r : Res γ} {g : β → Py δ} (h : p = .ok b) (hs : Fate W r (g b)) :
    Fate W r (p >>= g) := by
  rw [h]
  exact hs

/-! ## Fields -/

def slice (b : Bytes) (offset n : Nat) : Bytes := (b.drop offset).take n

def be (b : Bytes) (offset n : Nat) : Nat := fromBE (slice b offset n)

theorem slice_length (h : offset + n ≤ b.length) : (slice b offset n).length = n :=
  List.length_take_of_le (by rw [List.length_drop]; omega)

theorem be_lt (h : offset + n ≤ b.length) : be b offset n < 256 ^ n := by
  have hlt := fromBE_lt (slice b offset n)
  rwa [slice_length h] at hlt

theorem readArray_slice (h : offset + n ≤ b.length) :
    readArray n b offset = .ok ⟨slice b offset n, slice_length h⟩ := dif_pos h

theorem readU16_be (b : Bytes) (offset : Nat) (h : offset + 2 ≤ b.length) :
    ∃ v : UInt16, readU16 b offset = .ok v ∧ v.toNat = be b offset 2 := by
  refine ⟨_, ok_bind (readArray_slice h) rfl, ?_⟩
  exact Nat.mod_eq_of_lt (be_lt h)

theorem readU32_be (b : Bytes) (offset : Nat) (h : offset + 4 ≤ b.length) :
    ∃ v : UInt32, readU32 b offset = .ok v ∧ v.toNat = be b offset 4 := by
  refine ⟨_, ok_bind (readArray_slice h) rfl, ?_⟩
  exact Nat.mod_eq_of_lt (be_lt h)

theorem readU64_be (b : Bytes) (offset : Nat) (h : offset + 8 ≤ b.length) :
    ∃ v : UInt64, readU64 b offset = .ok v ∧ v.toNat = be b offset 8 := by
  refine ⟨_, ok_bind (readArray_slice h) rfl, ?_⟩
  exact Nat.mod_eq_of_lt (be_lt h)

theorem readRef16_slice (b : Bytes) (offset : Nat) (h : offset + 16 ≤ b.length) :
    ∃ v : Ref16, readRef16 b offset = .ok v ∧ v.asBytes = slice b offset 16 := by
  refine ⟨_, ok_bind (readArray_slice h) rfl, ?_⟩
  exact Ref16.asBytes_fromBytes _

theorem readDigest32_slice (b : Bytes) (offset : Nat) (h : offset + 32 ≤ b.length) :
    ∃ v : Digest32, readDigest32 b offset = .ok v ∧ v.asBytes = slice b offset 32 := by
  refine ⟨_, ok_bind (readArray_slice h) rfl, ?_⟩
  exact Digest32.asBytes_fromBytes _

theorem byteAt_some (b : Bytes) (index : Nat) (h : index < b.length) :
    ∃ v : UInt8, Process.byteAt b index = .ok v ∧ b[index]? = some v :=
  ⟨b[index], by rw [Process.byteAt, List.getElem?_eq_getElem h]; rfl, List.getElem?_eq_getElem h⟩

theorem be_byte {index : Nat} (h : b[index]? = some v) : be b index 1 = v.toNat := by
  obtain ⟨hlt, rfl⟩ := List.getElem?_eq_some_iff.1 h
  have hslice : slice b index 1 = [b[index]] := by
    rw [slice, List.drop_eq_getElem_cons hlt]
    rfl
  rw [be, hslice]
  exact Nat.zero_add _

theorem format_uint (h : offset + n ≤ b.length) :
    Format.uint n (b.drop offset) = .ok ((be b offset n : Int), b.drop (offset + n)) := by
  have htake : Reader.take n Raised.structError (b.drop offset)
      = .ok (⟨slice b offset n, slice_length h⟩, (b.drop offset).drop n) :=
    dif_pos (by rw [List.length_drop]; omega)
  rw [Format.uint, bind_run, htake, List.drop_drop]
  rfl

theorem format_bytes (h : offset + n ≤ b.length) :
    Format.bytes n (b.drop offset) = .ok (slice b offset n, b.drop (offset + n)) := by
  have htake : Reader.take n Raised.structError (b.drop offset)
      = .ok (⟨slice b offset n, slice_length h⟩, (b.drop offset).drop n) :=
    dif_pos (by rw [List.length_drop]; omega)
  rw [Format.bytes, bind_run, htake, List.drop_drop]
  rfl

theorem format_step {r : Format α} {f : α → Format β} {bs rest : Bytes}
    (h : r bs = .ok (a, rest)) (hf : f a rest = x) : (r >>= f) bs = x := by
  rw [bind_run, h]
  exact hf

theorem unpack_uint {f : Int → Format β} (h : offset + n ≤ b.length)
    (hf : f (be b offset n) (b.drop (offset + n)) = x) : (Format.uint n >>= f) (b.drop offset) = x :=
  format_step (format_uint h) hf

theorem unpack_bytes {f : Bytes → Format β} (h : offset + n ≤ b.length)
    (hf : f (slice b offset n) (b.drop (offset + n)) = x) : (Format.bytes n >>= f) (b.drop offset) = x :=
  format_step (format_bytes h) hf

/-- What `_HEADER` unpacks from a frame. -/
def headerOf (b : Bytes) : Header where
  magic := slice b 0 4
  version := be b 4 2
  headerLength := be b 6 2
  totalLength := be b 8 4
  kind := be b 12 1
  direction := be b 13 1
  state := be b 14 1
  flags := be b 15 1
  sequence := be b 16 8
  runtimeHostId := slice b 24 16
  runtimeHostEpoch := be b 40 8
  processDomainId := slice b 48 16
  processDomainEpoch := be b 64 8
  instanceId := slice b 72 16
  instanceGeneration := be b 88 8
  invocationId := be b 96 8
  sourcePlanRevision := be b 104 8
  targetSliceDigest := slice b 112 32
  bodyLength := be b 144 4

theorem unpack_header (h : headerBytes ≤ b.length) : unpackFrom headerFormat b 0 = .ok (headerOf b) := by
  have hb : 148 ≤ b.length := h
  refine ok_bind (a := (headerOf b, b.drop 148)) ?_ rfl
  unfold headerFormat
  refine unpack_bytes (by omega) ?_
  iterate 8 refine unpack_uint (by omega) ?_
  refine unpack_bytes (by omega) <| unpack_uint (by omega) <| unpack_bytes (by omega) <| unpack_uint (by omega) <|
    unpack_bytes (by omega) ?_
  iterate 3 refine unpack_uint (by omega) ?_
  exact unpack_bytes (by omega) <| unpack_uint (by omega) rfl

/-! ## Discriminants -/

theorem lookup_toNat (v : UInt8) : ∀ table : List (UInt8 × α),
    (table.map fun m => ((m.1.toNat : Int), m.2)).lookup (v.toNat : Int) = table.lookup v
  | [] => rfl
  | (w, a) :: table => by
    have hiff : ((v.toNat : Int) == (w.toNat : Int)) = (v == w) := by
      rw [Bool.eq_iff_iff, beq_iff_eq, beq_iff_eq, Int.natCast_inj, UInt8.toNat_inj]
    rw [List.map_cons, List.lookup_cons, List.lookup_cons, hiff, lookup_toNat v table]

theorem same_enum {e : IntEnum α} (h : e.members = table.map fun m => ((m.1.toNat : Int), m.2)) (v : UInt8) :
    Same (fun a a' => a = a' ∧ tryFromTable table v = .ok a) (tryFromTable table v) (e.enum v.toNat) := by
  unfold tryFromTable IntEnum.enum
  rw [h, lookup_toNat]
  cases table.lookup v with
  | none => rfl
  | some a => exact ⟨rfl, rfl⟩

theorem mem_of_tryFromTable (h : tryFromTable table v = .ok a) : (v, a) ∈ table := by
  rw [tryFromTable, okOr_ok] at h
  obtain ⟨before, after, rfl, -⟩ := List.lookup_eq_some_iff.1 h
  exact List.mem_append_right _ (List.mem_cons_self ..)

theorem code_of_tryFromTable {code : α → UInt8} (htable : ∀ e ∈ table, e.1 = code e.2) (h : tryFromTable table v = .ok a) :
    v = code a := htable _ (mem_of_tryFromTable h)

theorem frameKind_code {k : FrameKind} (h : ProcessFrameKind.tryFrom v = .ok k) : v = k.code :=
  code_of_tryFromTable (by decide) h

theorem direction_code {d : Direction} (h : ProcessFrameDirection.tryFrom v = .ok d) : v = d.code :=
  code_of_tryFromTable (by decide) h

theorem workerState_code {s : WorkerState} (h : ProcessWorkerState.tryFrom v = .ok s) : v = s.code :=
  code_of_tryFromTable (by decide) h

theorem terminalKind_code {k : TerminalKind} (h : InvocationTerminalKind.tryFrom v = .ok k) : v = k.code :=
  code_of_tryFromTable (by decide) h

/-! ## Bodies that the host holds -/

/-- Every refusal of `x` is of this kind. -/
def Refuses (P : ε → Prop) (x : Except ε α) : Prop := ∀ e, x = .error e → P e

theorem refuses_of_ok {x : Except ε α} (h : x = .ok a) : Refuses P x := by
  intro e he
  rw [h] at he
  cases he

theorem refuses_bind {x : Except ε α} {f : α → Except ε β} (hx : Refuses P x)
    (hf : ∀ a, x = .ok a → Refuses P (f a)) : Refuses P (x >>= f) := by
  cases x with
  | error e =>
    intro e' he'
    cases he'
    exact hx e rfl
  | ok a => exact hf a rfl

theorem refuses_rejectIf {e : ε} (h : P e) (c : Prop) [Decidable c] : Refuses P (rejectIf c e) := by
  intro e' he'
  unfold rejectIf at he'
  split at he'
  · cases he'
    exact h
  · cases he'

theorem refuses_require {e : ε} (h : P e) (p : Prop) [Decidable p] : Refuses P (require p e) := by
  intro e' he'
  unfold require at he'
  split at he'
  · cases he'
  · cases he'
    exact h

theorem refuses_forEach {f : α → Except ε Unit} : ∀ {xs : List α}, (∀ x ∈ xs, Refuses P (f x)) →
    Refuses P (forEach xs f)
  | [], _ => refuses_of_ok rfl
  | x :: _, h => refuses_bind (h x (List.mem_cons_self ..)) fun _ _ =>
    refuses_forEach fun y hy => h y (List.mem_cons_of_mem x hy)

/-- Every exception is a `ProtocolError` with this code. -/
abbrev Blames (code : ProtocolErrorCode) (x : Py α) : Prop := Refuses (fun r => r.code = some code) x

theorem blames_rejectIf (code : ProtocolErrorCode) (m : String) (c : Prop) [Decidable c] :
    Blames code (rejectIf c (Raised.protocolError code m)) :=
  refuses_rejectIf (P := fun r : Raised => r.code = some code) rfl c

theorem blames_uint (value : Int) (bits : Nat) : Blames .invalidBodyValue (uint value bits) :=
  refuses_bind (blames_rejectIf _ _ _) fun _ _ => refuses_of_ok rfl

theorem blames_fixedBytes (value : Bytes) (length : Nat) (code : ProtocolErrorCode) :
    Blames code (fixedBytes value length code) :=
  refuses_bind (blames_rejectIf _ _ _) fun _ _ => refuses_bind (blames_rejectIf _ _ _) fun _ _ => refuses_of_ok rfl

theorem blames_isZero (value : Int) (bits : Nat) : Blames .invalidBodyValue (isZero value bits) :=
  refuses_bind (blames_uint _ _) fun _ _ => refuses_of_ok rfl

theorem blames_within (value : Int) (bits : Nat) (limit : Int) : Blames .invalidBodyValue (within value bits limit) :=
  refuses_bind (blames_uint _ _) fun _ _ => refuses_of_ok rfl

theorem blames_ordered (interval timeout : Int) : Blames .invalidBodyValue (ordered interval timeout) := by
  refine refuses_bind (blames_uint _ _) fun interval _ => ?_
  by_cases h : 0 < interval
  · rw [if_pos h]
    exact refuses_bind (blames_uint _ _) fun _ _ => refuses_of_ok rfl
  · rw [if_neg h]
    exact refuses_of_ok rfl

theorem blames_andM {code : ProtocolErrorCode} {x y : Py Bool} (hx : Blames code x) (hy : Blames code y) :
    Blames code (x <&&> y) := by
  refine refuses_bind hx fun a _ => ?_
  cases a with
  | false => exact refuses_of_ok rfl
  | true => exact hy

theorem blames_orM {code : ProtocolErrorCode} {x y : Py Bool} (hx : Blames code x) (hy : Blames code y) :
    Blames code (x <||> y) := by
  refine refuses_bind hx fun a _ => ?_
  cases a with
  | true => exact refuses_of_ok rfl
  | false => exact hy

theorem blames_credit (n : UInt64) (m : String) {f : Unit → Py α} (hf : Blames .invalidBodyValue (f ())) :
    Blames .invalidBodyValue (isZero n.toNat 64 >>= fun bad =>
      rejectIf (bad = true) (Raised.protocolError .invalidBodyValue m) >>= f) :=
  refuses_bind (blames_isZero _ _) fun _ _ => refuses_bind (blames_rejectIf _ _ _) fun _ _ => hf

/-- **Whatever the worker refuses in a body of the host's, it calls an invalid value.** -/
theorem blames_encodeBody (b : ProcessFrameBody) : Blames .invalidBodyValue (encodeBody (pyBody b)) := by
  cases b with
  | start a b c d e =>
    refine refuses_bind (blames_andM (blames_within _ _ _) <| blames_andM (blames_within _ _ _) <|
      blames_andM (blames_within _ _ _) (blames_ordered _ _)) fun _ _ => ?_
    exact refuses_bind (blames_rejectIf _ _ _) fun _ _ => refuses_of_ok <| ok_bind (packUint_u32 _) <|
      ok_bind (packUint_u64 _) <| ok_bind (packUint_u32 _) <| ok_bind (packUint_u64 _) <| ok_bind (packUint_u64 _) rfl
  | ready d => exact blames_fixedBytes _ _ _
  | construct a b c =>
    exact refuses_bind (blames_fixedBytes _ _ _) fun _ _ => refuses_bind (blames_fixedBytes _ _ _) fun _ _ =>
      refuses_bind (blames_fixedBytes _ _ _) fun _ _ => refuses_of_ok rfl
  | constructed v => exact refuses_of_ok (ok_bind (constructOutcome_int v) (packUint_byte _))
  | invoke a b c payload =>
    refine refuses_bind (blames_orM (blames_isZero _ _) <| blames_orM (blames_isZero _ _) (refuses_of_ok rfl)) ?_
    intro bad hbad
    refine refuses_bind (blames_rejectIf _ _ _) fun _ hpass => ?_
    rw [rejectIf_ok, Bool.not_eq_true] at hpass
    rw [hpass, orM_ok_false, orM_ok_false, pure_ok, decide_eq_false_iff_not] at hbad
    exact refuses_of_ok <| ok_bind (uint_u32 _) <| ok_bind (packUint_u64 _) <|
      ok_bind (packUint_length (not_lt.1 hbad.2.2)) <| ok_bind (packUint_u32 _) <| ok_bind (packUint_u64 _) rfl
  | invoked a => exact blames_credit a _ (refuses_of_ok (packUint_u64 _))
  | heartbeat a b c =>
    exact blames_credit a _ <| refuses_of_ok <| ok_bind (uint_u32 _) <| ok_bind (uint_u64 _) <|
      ok_bind (packUint_u64 _) <| ok_bind (packUint_u32 _) <| ok_bind (packUint_u64 _) rfl
  | cancel a b =>
    exact blames_credit a _ <| refuses_of_ok <| ok_bind (uint_u64 _) <| ok_bind (packUint_u64 _) <|
      ok_bind (packUint_u64 _) rfl
  | terminal a kind payload =>
    refine refuses_bind (blames_orM (blames_isZero _ _) (refuses_of_ok rfl)) ?_
    intro bad hbad
    refine refuses_bind (blames_rejectIf _ _ _) fun _ hpass => ?_
    rw [rejectIf_ok, Bool.not_eq_true] at hpass
    rw [hpass, orM_ok_false, pure_ok, decide_eq_false_iff_not] at hbad
    exact refuses_of_ok <| ok_bind (terminalKind_int kind) <| ok_bind (packUint_u64 _) <| ok_bind (packUint_byte _) <|
      ok_bind (packUint_length (not_lt.1 hbad.2)) rfl
  | stopAccepting => exact refuses_of_ok rfl
  | drained => exact refuses_of_ok rfl
  | stop v => exact refuses_of_ok (ok_bind (stopReason_int v) (packUint_byte _))
  | stopped v => exact refuses_of_ok (ok_bind (stoppedOutcome_int v) (packUint_byte _))
  | ping a => exact blames_credit a _ (refuses_of_ok (packUint_u64 _))
  | pong a => exact blames_credit a _ (refuses_of_ok (packUint_u64 _))

def Blank : ProcessFrameBody → Prop
  | .ready workerRuntimeDigest => ¬Nonzero workerRuntimeDigest.asBytes
  | .construct artifactDigest configDigest entrypointRef =>
    ¬(Nonzero artifactDigest.asBytes ∧ Nonzero configDigest.asBytes ∧ Nonzero entrypointRef.asBytes)
  | _ => False

theorem refuses_validateNonzero (value : Bytes) : Refuses (· = .invalidIdentity) (validateNonzero value) :=
  refuses_require (P := (· = ProcessProtocolError.invalidIdentity)) rfl _

/-- **The host calls a blank body an invalid identity and every other refused body an invalid value.** -/
theorem validate_error {b : ProcessFrameBody} {e : ProcessProtocolError} (h : b.validate = .error e) :
    (Blank b ∧ e = .invalidIdentity) ∨ (¬Blank b ∧ e = .invalidBodyValue) := by
  have hvalue {c : Prop} [Decidable c] (h : rejectIf c ProcessProtocolError.invalidBodyValue = .error e) :
      e = .invalidBodyValue := refuses_rejectIf (P := (· = ProcessProtocolError.invalidBodyValue)) rfl c e h
  cases b with
  | start a b c d f =>
    have hlimit := lengthU32_of_lt (by decide : maxProcessWorkerPayloadBytes < 2 ^ 32)
    unfold ProcessFrameBody.validate at h
    rw [hlimit] at h
    exact .inr ⟨id, hvalue h⟩
  | ready d =>
    have hblank : Blank (.ready d) := by
      intro hd
      have hok : (ProcessFrameBody.ready d).validate = .ok () := (validateNonzero_bind _ _ _).2 ⟨hd, rfl⟩
      rw [h] at hok
      cases hok
    refine .inl ⟨hblank, ?_⟩
    exact refuses_bind (refuses_validateNonzero _) (fun _ _ => refuses_of_ok rfl) e h
  | construct a b c =>
    have hblank : Blank (.construct a b c) := by
      rintro ⟨ha, hb, hc⟩
      have hok : (ProcessFrameBody.construct a b c).validate = .ok () :=
        (validateNonzero_bind _ _ _).2 ⟨ha, (validateNonzero_bind _ _ _).2 ⟨hb, (validateNonzero_bind _ _ _).2 ⟨hc, rfl⟩⟩⟩
      rw [h] at hok
      cases hok
    refine .inl ⟨hblank, ?_⟩
    exact refuses_bind (refuses_validateNonzero _) (fun _ _ => refuses_bind (refuses_validateNonzero _) fun _ _ =>
      refuses_bind (refuses_validateNonzero _) fun _ _ => refuses_of_ok rfl) e h
  | constructed v => cases h
  | invoke a b c payload => exact .inr ⟨id, hvalue h⟩
  | invoked a => exact .inr ⟨id, hvalue h⟩
  | heartbeat a b c => exact .inr ⟨id, hvalue h⟩
  | cancel a b => exact .inr ⟨id, hvalue h⟩
  | terminal a kind payload =>
    refine .inr ⟨id, refuses_bind (P := (· = ProcessProtocolError.invalidBodyValue)) ?_ ?_ e h⟩
    · exact refuses_rejectIf (P := (· = ProcessProtocolError.invalidBodyValue)) rfl _
    · exact fun _ _ => refuses_rejectIf (P := (· = ProcessProtocolError.invalidBodyValue)) rfl _
  | stopAccepting => cases h
  | drained => cases h
  | stop v => cases h
  | stopped v => cases h
  | ping a => exact .inr ⟨id, hvalue h⟩
  | pong a => exact .inr ⟨id, hvalue h⟩

theorem not_validate_of_blank {b : ProcessFrameBody} (h : Blank b) : b.validate ≠ .ok () := by
  intro hok
  cases b with
  | ready d => exact h ((validateNonzero_bind _ _ _).1 hok).1
  | construct a b c =>
    obtain ⟨ha, hok⟩ := (validateNonzero_bind _ _ _).1 hok
    obtain ⟨hb, hok⟩ := (validateNonzero_bind _ _ _).1 hok
    exact h ⟨ha, hb, ((validateNonzero_bind _ _ _).1 hok).1⟩
  | _ => exact h

/-! ## Bodies as they are read -/

def BlankBody (kind : ProcessFrameKind) (body : Bytes) : Prop :=
  (kind = .ready ∧ body.length = 32 ∧ ¬Nonzero (slice body 0 32)) ∨
    (kind = .construct ∧ body.length = 80 ∧
      ¬(Nonzero (slice body 0 32) ∧ Nonzero (slice body 32 32) ∧ Nonzero (slice body 64 16)))

/-- The bytes of a Terminal body whose kind is unknown and whose payload has not the length it gives. -/
def MisreadBody (kind : ProcessFrameKind) (body : Bytes) : Prop :=
  kind = .terminal ∧ 16 ≤ body.length ∧ slice body 9 3 = [0, 0, 0] ∧
    (∀ k : InvocationTerminalKind, body[8]? ≠ some k.code) ∧ body.length ≠ 16 + be body 12 4

inductive BodyFate (kind : ProcessFrameKind) (body : Bytes) (r : Res ProcessFrameBody) (p : Py FrameBody) : Prop
  | misread (bytes : MisreadBody kind body) (apart : Apart r p)
  | refused (bytes : ¬MisreadBody kind body) (filled : ¬BlankBody kind body) (alike : Alike r p)
  | read (bytes : ¬MisreadBody kind body) (b : ProcessFrameBody) (host : r = .ok b) (worker : p = .ok (pyBody b))
      (kept : b.kind = kind) (blank : Blank b ↔ BlankBody kind body)

variable {kind : ProcessFrameKind} {body : Bytes}

theorem BodyFate.step {R : α → β → Prop} {f : α → Res ProcessFrameBody} {g : β → Py FrameBody}
    (h : Same R r p) (hbytes : (∃ e, r = .error e) → ¬MisreadBody kind body ∧ ¬BlankBody kind body)
    (hok : ∀ a b, r = .ok a → R a b → BodyFate kind body (f a) (g b)) : BodyFate kind body (r >>= f) (p >>= g) := by
  cases r with
  | error e =>
    cases p with
    | error e' => exact .refused (hbytes ⟨e, rfl⟩).1 (hbytes ⟨e, rfl⟩).2 ⟨e, e', rfl, rfl, h⟩
    | ok b => exact h.elim
  | ok a =>
    cases p with
    | error e' => exact h.elim
    | ok b => exact hok a b rfl h

theorem BodyFate.check [Decidable c] [Decidable c'] {e : ProtocolErrorCode} {m : String}
    {f : Unit → Res ProcessFrameBody} {g : Unit → Py FrameBody} (hiff : c ↔ c')
    (hbytes : c → ¬MisreadBody kind body ∧ ¬BlankBody kind body) (hok : ¬c → BodyFate kind body (f ()) (g ())) :
    BodyFate kind body (rejectIf c e >>= f) (rejectIf c' (Raised.protocolError e m) >>= g) := by
  refine BodyFate.step (same_rejectIf hiff e m) ?_ (fun _ _ _ => hok)
  rintro ⟨e', he⟩
  refine hbytes ?_
  by_contra hc
  rw [rejectIf_neg hc] at he
  cases he

def Plain (kind : ProcessFrameKind) : Prop := kind ≠ .ready ∧ kind ≠ .construct ∧ kind ≠ .terminal

theorem Plain.bytes (h : Plain kind) (body : Bytes) : ¬MisreadBody kind body ∧ ¬BlankBody kind body := by
  refine ⟨fun hm => h.2.2 hm.1, ?_⟩
  rintro (hb | hb)
  · exact h.1 hb.1
  · exact h.2.1 hb.1

theorem BodyFate.plain (h : Plain kind) {b : ProcessFrameBody} {p : FrameBody} (hp : p = pyBody b) (hkind : b.kind = kind) :
    BodyFate kind body (.ok b) (.ok p) := by
  refine .read (h.bytes body).1 b rfl (by rw [hp]) hkind (iff_of_false ?_ (h.bytes body).2)
  cases b with
  | ready d => exact (h.1 hkind.symm).elim
  | construct a b c => exact (h.2.1 hkind.symm).elim
  | _ => exact id

theorem unpack_ok {format : Format α} (hlen : body.length = n)
    (h : format (body.drop 0) = .ok (a, body.drop n)) : unpack format body = .ok a := by
  have hrest : body.drop n = [] := List.drop_eq_nil_of_le (by omega)
  rw [List.drop_zero, hrest] at h
  exact ok_bind h rfl

theorem unpackFrom_ok {format : Format α} {rest : Bytes}
    (h : format (body.drop offset) = .ok (a, rest)) : unpackFrom format body offset = .ok a := ok_bind h rfl

theorem fate_u64 (h : Plain kind) (hlen : body.length = 8) {f : UInt64 → ProcessFrameBody} {g : Int → FrameBody}
    (hfg : ∀ n : UInt64, g n.toNat = pyBody (f n)) (hkind : ∀ n, (f n).kind = kind) :
    BodyFate kind body (do let n ← readU64 body 0; pure (f n)) (do let n ← unpack (Format.uint 8) body; pure (g n)) := by
  obtain ⟨n, hn, hbe⟩ := readU64_be body 0 (by omega)
  rw [hn, unpack_ok hlen (format_uint (by omega)), ← hbe]
  exact .plain h (hfg n) (hkind n)

theorem fate_enum (h : Plain kind) (hlen : body.length = 1) {e : IntEnum α}
    (htable : e.members = table.map fun m => ((m.1.toNat : Int), m.2)) {f : α → ProcessFrameBody} {g : α → FrameBody}
    (hfg : ∀ a, g a = pyBody (f a)) (hkind : ∀ a, (f a).kind = kind) :
    BodyFate kind body (do let v ← Process.byteAt body 0; let a ← tryFromTable table v; pure (f a))
      (do let v ← byteAt body 0; let a ← e.enum v; pure (g a)) := by
  obtain ⟨v, hv, hv'⟩ := byteAt_some body 0 (by omega)
  rw [hv, byteAt_ok hv']
  change BodyFate kind body (tryFromTable table v >>= fun a => pure (f a)) (e.enum v.toNat >>= fun a => pure (g a))
  refine BodyFate.step (same_enum htable v) (fun _ => h.bytes body) ?_
  rintro a a' _ ⟨rfl, _⟩
  exact .plain h (hfg a) (hkind a)

theorem fate_exact {f : Unit → Res ProcessFrameBody} {g : Unit → Py FrameBody}
    (hbytes : body.length ≠ n → ¬MisreadBody kind body ∧ ¬BlankBody kind body)
    (hok : body.length = n → BodyFate kind body (f ()) (g ())) :
    BodyFate kind body (Process.exactLength body n >>= f) (exactLength body n >>= g) :=
  BodyFate.check Iff.rfl hbytes fun h => hok (not_not.1 h)

theorem fate_plain (h : Plain kind) {f : Unit → Res ProcessFrameBody} {g : Unit → Py FrameBody}
    (hok : Plain kind → body.length = n → BodyFate kind body (f ()) (g ())) :
    BodyFate kind body (Process.exactLength body n >>= f) (exactLength body n >>= g) :=
  fate_exact (fun _ => h.bytes body) (hok h)

theorem fate_start : BodyFate .start body (Process.decodeBody .start body) (decodeBody .start body) := by
  refine fate_plain (by simp [Plain]) fun hplain hlen => ?_
  obtain ⟨a, ha, hbe⟩ := readU32_be body 0 (by omega)
  obtain ⟨b, hb, hbe'⟩ := readU64_be body 4 (by omega)
  obtain ⟨c, hc, hbe''⟩ := readU32_be body 12 (by omega)
  obtain ⟨d, hd, hbe3⟩ := readU64_be body 16 (by omega)
  obtain ⟨e, he, hbe4⟩ := readU64_be body 24 (by omega)
  rw [ha, hb, hc, hd, he, unpack_ok hlen (unpack_uint (by omega) <| unpack_uint (by omega) <|
    unpack_uint (by omega) <| unpack_uint (by omega) <|
    unpack_uint (by omega) rfl), ← hbe, ← hbe', ← hbe'', ← hbe3, ← hbe4]
  exact .plain hplain rfl rfl

theorem fate_heartbeat : BodyFate .heartbeat body (Process.decodeBody .heartbeat body) (decodeBody .heartbeat body) := by
  refine fate_plain (by simp [Plain]) fun hplain hlen => ?_
  obtain ⟨a, ha, hbe⟩ := readU64_be body 0 (by omega)
  obtain ⟨b, hb, hbe'⟩ := readU32_be body 8 (by omega)
  obtain ⟨c, hc, hbe''⟩ := readU64_be body 12 (by omega)
  rw [ha, hb, hc, unpack_ok hlen (unpack_uint (by omega) <| unpack_uint (by omega) <|
    unpack_uint (by omega) rfl), ← hbe, ← hbe', ← hbe'']
  exact .plain hplain rfl rfl

theorem fate_cancel : BodyFate .cancel body (Process.decodeBody .cancel body) (decodeBody .cancel body) := by
  refine fate_plain (by simp [Plain]) fun hplain hlen => ?_
  obtain ⟨a, ha, hbe⟩ := readU64_be body 0 (by omega)
  obtain ⟨b, hb, hbe'⟩ := readU64_be body 8 (by omega)
  rw [ha, hb, unpack_ok hlen (unpack_uint (by omega) <| unpack_uint (by omega) rfl),
    ← hbe, ← hbe']
  exact .plain hplain rfl rfl

theorem fate_invoke : BodyFate .invoke body (Process.decodeBody .invoke body) (decodeBody .invoke body) := by
  have hplain : Plain .invoke := ⟨nofun, nofun, nofun⟩
  refine BodyFate.check Iff.rfl (fun _ => hplain.bytes body) fun hlen => ?_
  obtain ⟨a, ha, hbe⟩ := readU64_be body 0 (by omega)
  obtain ⟨n, hn, hbe'⟩ := readU32_be body 8 (by omega)
  obtain ⟨c, hc, hbe''⟩ := readU32_be body 12 (by omega)
  obtain ⟨d, hd, hbe3⟩ := readU64_be body 16 (by omega)
  dsimp only
  rw [hn, unpackFrom_ok (unpack_uint (by omega) <| unpack_uint (by omega) <|
    unpack_uint (by omega) <| unpack_uint (by omega) rfl)]
  change BodyFate _ _ (rejectIf (body.length ≠ 24 + n.toNat) ProcessProtocolError.invalidBodyLength >>= _)
    (rejectIf ((body.length : Int) ≠ 24 + (be body 8 4 : Int)) _ >>= _)
  refine BodyFate.check (by rw [← hbe']; omega) (fun _ => hplain.bytes body) fun _ => ?_
  rw [ha, hc, hd, ← hbe, ← hbe'', ← hbe3]
  exact .plain hplain rfl rfl

theorem fate_ready : BodyFate .ready body (Process.decodeBody .ready body) (decodeBody .ready body) := by
  have hmisread : ¬MisreadBody .ready body := fun h => nomatch h.1
  refine fate_exact (fun hne => ⟨hmisread, ?_⟩) fun hlen => ?_
  · rintro (h | h)
    · exact hne h.2.1
    · cases h.1
  · obtain ⟨d, hd, hslice⟩ := readDigest32_slice body 0 (by omega)
    have hall : slice body 0 32 = body := List.take_of_length_le (by rw [List.drop_zero, hlen])
    rw [hd]
    refine .read hmisread (.ready d) rfl ?_ rfl ?_
    · change Except.ok (FrameBody.ready body) = Except.ok (FrameBody.ready d.asBytes)
      rw [hslice, hall]
    · change ¬Nonzero d.asBytes ↔ BlankBody .ready body
      unfold BlankBody
      rw [hslice]
      simp only [hlen, true_and, reduceCtorEq, false_and, or_false]

theorem fate_construct : BodyFate .construct body (Process.decodeBody .construct body) (decodeBody .construct body) := by
  have hmisread : ¬MisreadBody .construct body := by
    intro h
    cases h.1
  refine fate_exact (fun hne => ⟨hmisread, ?_⟩) fun hlen => ?_
  · rintro (h | h)
    · cases h.1
    · exact hne h.2.1
  · obtain ⟨a, ha, hslice⟩ := readDigest32_slice body 0 (by omega)
    obtain ⟨b, hb, hslice'⟩ := readDigest32_slice body 32 (by omega)
    obtain ⟨c, hc, hslice''⟩ := readRef16_slice body 64 (by omega)
    rw [ha, hb, hc]
    refine .read hmisread (.construct a b c) rfl ?_ rfl ?_
    · change _ = Except.ok (FrameBody.construct a.asBytes b.asBytes c.asBytes)
      rw [hslice, hslice', hslice'']
      rfl
    · change ¬(Nonzero a.asBytes ∧ Nonzero b.asBytes ∧ Nonzero c.asBytes) ↔ BlankBody .construct body
      unfold BlankBody
      rw [hslice, hslice', hslice'']
      simp only [hlen, true_and, reduceCtorEq, false_and, false_or]

/-- **A Terminal body is read alike, unless its kind is unknown and its length wrong.** -/
theorem fate_terminal : BodyFate .terminal body (Process.decodeBody .terminal body) (decodeBody .terminal body) := by
  have hblank : ¬BlankBody .terminal body := by
    rintro (h | h) <;> cases h.1
  refine BodyFate.check Iff.rfl (fun hc => ⟨fun h => absurd h.2.1 (by omega), hblank⟩) fun hlen => ?_
  refine BodyFate.check Iff.rfl (fun hc => ⟨fun h => hc h.2.2.1, hblank⟩) fun hreserved => ?_
  obtain ⟨a, ha, hbe⟩ := readU64_be body 0 (by omega)
  obtain ⟨v, hv, hv'⟩ := byteAt_some body 8 (by omega)
  obtain ⟨n, hn, hbe'⟩ := readU32_be body 12 (by omega)
  rw [hn, unpackFrom_ok (format_uint (by omega)), byteAt_ok hv']
  change BodyFate _ _ (rejectIf (body.length ≠ 16 + n.toNat) ProcessProtocolError.invalidBodyLength >>= _)
    (terminalKind.enum v.toNat >>= _)
  have henum : Same (fun a a' => a = a' ∧ InvocationTerminalKind.tryFrom v = .ok a) (InvocationTerminalKind.tryFrom v)
      (terminalKind.enum v.toNat) := same_enum (by rfl) v
  by_cases hlength : body.length = 16 + n.toNat
  · -- The length is right: both sides look at the kind.
    have hworker : ¬((body.length : Int) ≠ 16 + (be body 12 4 : Int)) := by rw [← hbe']; omega
    have hmisread : ¬MisreadBody .terminal body := fun h => h.2.2.2.2 (hbe' ▸ hlength)
    rw [rejectIf_neg (not_not.2 hlength), unpackFrom_ok (format_uint (by omega)), ha, hv]
    change BodyFate _ _ (InvocationTerminalKind.tryFrom v >>= _) (terminalKind.enum v.toNat >>= _)
    refine BodyFate.step henum (fun _ => ⟨hmisread, hblank⟩) ?_
    rintro k k' _ ⟨rfl, _⟩
    change BodyFate _ _ (.ok _) (rejectIf ((body.length : Int) ≠ 16 + (be body 12 4 : Int)) _ >>= _)
    rw [rejectIf_neg hworker, ← hbe]
    exact .read hmisread (.terminal a k (body.drop 16)) rfl rfl rfl (iff_of_false id hblank)
  · have hhost : rejectIf (body.length ≠ 16 + n.toNat) ProcessProtocolError.invalidBodyLength
        = .error .invalidBodyLength := if_pos hlength
    rw [hhost]
    cases hkind : terminalKind.enum v.toNat with
    | ok k =>
      have hworker : (body.length : Int) ≠ 16 + (be body 12 4 : Int) := by rw [← hbe']; omega
      rw [hkind] at henum
      have hknown : ¬MisreadBody .terminal body := by
        intro h
        cases htable : InvocationTerminalKind.tryFrom v with
        | error e =>
          rw [htable] at henum
          exact henum
        | ok k' => exact h.2.2.2.1 k' (terminalKind_code htable ▸ hv')
      refine .refused hknown hblank ⟨_, .protocolError .invalidBodyLength "Terminal payload length is invalid", rfl, ?_, rfl⟩
      rw [unpackFrom_ok (format_uint (by omega))]
      change (rejectIf ((body.length : Int) ≠ 16 + (be body 12 4 : Int)) _ >>= _) = _
      rw [rejectIf, if_pos hworker]
      rfl
    | error r =>
      have hr : r = .protocolError .invalidEnumValue "unknown enum discriminant" := by
        unfold IntEnum.enum at hkind
        cases hfind : terminalKind.members.lookup (v.toNat : Int) with
        | none =>
          rw [hfind] at hkind
          exact (Except.error.inj hkind).symm
        | some k =>
          rw [hfind] at hkind
          cases hkind
      refine .misread ⟨rfl, by omega, not_not.1 hreserved, ?_, hbe' ▸ hlength⟩ ⟨_, r, rfl, rfl, by rw [hr]; nofun⟩
      intro k hk
      rw [hv', Option.some.injEq] at hk
      rw [hk, terminalKind_enum k] at hkind
      cases hkind

theorem decodeBody_fate (kind : ProcessFrameKind) (body : Bytes) :
    BodyFate kind body (Process.decodeBody kind body) (decodeBody kind body) := by
  cases kind with
  | start => exact fate_start
  | ready => exact fate_ready
  | construct => exact fate_construct
  | invoke => exact fate_invoke
  | heartbeat => exact fate_heartbeat
  | cancel => exact fate_cancel
  | terminal => exact fate_terminal
  | constructed | stop | stopped =>
    exact fate_plain (by simp [Plain]) fun hplain hlen => fate_enum hplain hlen rfl (fun _ => rfl) (fun _ => rfl)
  | invoked | ping | pong =>
    exact fate_plain (by simp [Plain]) fun hplain hlen => fate_u64 hplain hlen (fun _ => rfl) (fun _ => rfl)
  | stopAccepting | drained => exact fate_plain (by simp [Plain]) fun hplain _ => .plain hplain rfl rfl

/-! ## Frames once their header is taken -/

def InPlace (kind : ProcessFrameKind) (direction : ProcessFrameDirection) (state : ProcessWorkerState) : Prop :=
  (kind = .ready ∧ direction = .workerToHost ∧ state = .starting) ∨
    (kind = .construct ∧ direction = .hostToWorker ∧ state = .constructing)

theorem inPlace_iff {b : ProcessFrameBody} (h : Blank b) (direction : ProcessFrameDirection) (state : ProcessWorkerState) :
    InPlace b.kind direction state ↔ direction = b.requiredDirection ∧ b.stateIsValid state = true := by
  cases b with
  | ready d => simp [InPlace, ProcessFrameBody.kind, ProcessFrameBody.requiredDirection, ProcessFrameBody.stateIsValid]
  | construct a b c =>
    simp [InPlace, ProcessFrameBody.kind, ProcessFrameBody.requiredDirection, ProcessFrameBody.stateIsValid]
  | _ => exact h.elim

theorem unscoped_of_blank {b : ProcessFrameBody} (h : Blank b) : b.invocationScoped = false := by
  cases b with
  | ready d => rfl
  | construct a b c => rfl
  | _ => exact h.elim

theorem encode_fate (b : ProcessFrameBody) :
    (Blank b ∧ Apart b.encode (encodeBody (pyBody b))) ∨
      (¬Blank b ∧ Same (fun w w' => w = w') b.encode (encodeBody (pyBody b))) := by
  cases hvalid : b.validate with
  | ok u =>
    have hencode : b.encode = .ok b.wire := (ProcessFrameBody.encode_ok _ _).2 ⟨hvalid, rfl⟩
    refine .inr ⟨fun h => not_validate_of_blank h hvalid, ?_⟩
    rw [hencode, (encodeBody_pyBody _ _).2 hencode]
    rfl
  | error e =>
    have hhost : b.encode = .error e := by
      unfold ProcessFrameBody.encode
      rw [hvalid]
      rfl
    cases hworker : encodeBody (pyBody b) with
    | ok w =>
      rw [(encodeBody_pyBody b w).1 hworker] at hhost
      cases hhost
    | error r =>
      have hcode := blames_encodeBody b r hworker
      rw [hhost]
      obtain ⟨hblank, rfl⟩ | ⟨hblank, rfl⟩ := validate_error hvalid
      · exact .inl ⟨hblank, _, r, rfl, rfl, by rw [hcode]; nofun⟩
      · exact .inr ⟨hblank, hcode⟩

section Tail

variable (sha256 : Sha256) (identity : ProcessSessionIdentity) (sequence invocationId : UInt64)
  (direction : ProcessFrameDirection) (state : ProcessWorkerState) (b : ProcessFrameBody)

def fieldsOf : FrameFields where
  identity := pyIdentity identity
  sequence := sequence.toNat
  direction := direction
  state := state
  invocationId := invocationId.toNat
  body := pyBody b

def Spoilt : Prop := sequence ≠ 0 ∧ invocationId = 0 ∧ InPlace b.kind direction state ∧ Blank b

/-- **`try_new` and the worker's dataclass refuse with one code, unless a blank body is all that is wrong.** -/
theorem tryNew_fate : Fate (Spoilt sequence invocationId direction state b)
    (ProcessFrame.tryNew sha256 identity sequence direction state invocationId b)
    ((fieldsOf identity sequence invocationId direction state b).postInit) := by
  by_cases ha : Accepted sequence direction state invocationId b
  · have hnew := (ProcessFrame.tryNew_ok sha256 identity sequence direction state invocationId b _).2 ⟨ha, rfl⟩
    have hinit : (fieldsOf identity sequence invocationId direction state b).postInit = .ok () :=
      (postInit_pyFields ⟨identity, sequence, direction, state, invocationId, b, [], 0⟩).2 ha
    refine .inr ⟨fun h => not_validate_of_blank h.2.2.2 ha.valid, ?_⟩
    rw [hnew, hinit]
    trivial
  · have hsequence : sequence = 0 ↔ (sequence.toNat : Int) = 0 := by
      rw [← not_iff_not]
      exact (u64_toNat_ne_zero sequence).symm
    have hscope : decide ((invocationId.toNat : Int) ≠ 0) = decide (invocationId ≠ 0) :=
      decide_eq_decide.2 (u64_toNat_ne_zero invocationId)
    unfold ProcessFrame.tryNew FrameFields.postInit
    refine Fate.right (uint_u64 sequence) <| Fate.check hsequence (fun h hs => hs.1 h) fun hsequenced => ?_
    refine Fate.right (uint_u64 invocationId) <| Fate.check (by rw [← direction_pyBody b]; rfl) ?_ fun hdirection => ?_
    · exact fun h hs => h ((inPlace_iff hs.2.2.2 _ _).1 hs.2.2.1).1
    refine Fate.check (by rw [← Bool.not_eq_true, ← validStates_pyBody b state]; rfl) ?_ fun hstate => ?_
    · intro h hs
      rw [((inPlace_iff hs.2.2.2 _ _).1 hs.2.2.1).2] at h
      cases h
    refine Fate.check (by rw [← invocationKinds_pyBody b, ← hscope]; rfl) ?_ fun hscoped => ?_
    · intro h hs
      rw [unscoped_of_blank hs.2.2.2, hs.2.1] at h
      exact h rfl
    rw [not_not] at hdirection hscoped
    rw [Bool.not_eq_false] at hstate
    obtain ⟨hblank, e, r, he, hr, hcode⟩ | ⟨hblank, hsame⟩ := encode_fate b
    · have hzero : invocationId = 0 := by
        rw [unscoped_of_blank hblank] at hscoped
        exact not_not.1 (of_decide_eq_false hscoped.symm)
      refine .inl ⟨⟨hsequenced, hzero, (inPlace_iff hblank _ _).2 ⟨hdirection, hstate⟩, hblank⟩, e, r, ?_, ?_, hcode⟩
      · rw [he]
        rfl
      · change (encodeBody (pyBody b) >>= _) = _
        rw [hr]
        rfl
    · refine Fate.step hsame (fun _ h => hblank h.2.2.2) ?_
      -- A body that encodes makes the frame acceptable.
      intro w _ hw _
      exact (ha ⟨hsequenced, hdirection, hstate, hscoped, ((ProcessFrameBody.encode_ok _ _).1 hw).1⟩).elim

def hostTail (kind : ProcessFrameKind) (frame : Bytes) : Res ProcessFrame := do
  let body ← Process.decodeBody kind (frame.drop processWorkerHeaderBytes)
  let decoded ← ProcessFrame.tryNew sha256 identity sequence direction state invocationId body
  rejectIf (decoded.canonicalWire ≠ frame) .nonCanonicalFrame
  pure decoded

def workerTail (kind : FrameKind) (encoded : Bytes) : Py Frame := do
  let body ← decodeBody kind (encoded.drop headerBytes)
  let frame : Frame ← construct FrameFields.postInit
    { identity := pyIdentity identity, sequence := sequence.toNat, direction, state, invocationId := invocationId.toNat,
      body }
  let nonCanonical := Raised.protocolError .nonCanonicalFrame "PXWP frame is not canonical"
  rejectIf (bodyKind frame.val.body ≠ kind) nonCanonical
  let canonical ← Frame.encode frame
  rejectIf (canonical ≠ encoded) nonCanonical
  pure frame

theorem construct_error {α : Type} {postInit : α → Py Unit} {fields : α} {r : Raised} (h : postInit fields = .error r) :
    construct postInit fields = .error r := by
  unfold construct
  split
  · rename_i e he
    rw [h] at he
    rw [Except.error.inj he]
  · rename_i u hu
    rw [h] at hu
    cases hu

/-- **After the header the decoders part only at a misread Terminal or at a blank body.** -/
theorem tail_fate (kind : ProcessFrameKind) (frame : Bytes) :
    Fate (MisreadBody kind (frame.drop headerBytes) ∨ (sequence ≠ 0 ∧ invocationId = 0 ∧ InPlace kind direction state ∧
        BlankBody kind (frame.drop headerBytes)))
      (hostTail sha256 identity sequence invocationId direction state kind frame)
      (workerTail identity sequence invocationId direction state kind frame) := by
  unfold hostTail workerTail
  cases decodeBody_fate kind (frame.drop headerBytes) with
  | misread hbytes hapart =>
    obtain ⟨e, r, he, hr, hcode⟩ := hapart
    refine .inl ⟨.inl hbytes, e, r, ?_, ?_, hcode⟩
    · exact congrArg (· >>= _) he
    · exact congrArg (· >>= _) hr
  | refused hbytes hfilled halike =>
    refine Fate.step halike.same ?_ ?_
    · rintro - (h | h)
      · exact hbytes h
      · exact hfilled h.2.2.2
    · obtain ⟨e, r, he, -⟩ := halike
      intro a _ ha
      rw [show Process.decodeBody kind (frame.drop processWorkerHeaderBytes) = _ from he] at ha
      cases ha
  | read hbytes b hhost hworker hkept hblank =>
    refine Fate.left hhost <| Fate.right hworker ?_
    have hW : MisreadBody kind (frame.drop headerBytes) ∨ (sequence ≠ 0 ∧ invocationId = 0 ∧ InPlace kind direction state ∧
        BlankBody kind (frame.drop headerBytes)) ↔ Spoilt sequence invocationId direction state b := by
      rw [or_iff_right hbytes, ← hblank, ← hkept]
      rfl
    rw [hW]
    obtain ⟨hspoilt, e, r, he, hr, hcode⟩ | ⟨hspoilt, hsame⟩ :=
      tryNew_fate sha256 identity sequence invocationId direction state b
    · refine .inl ⟨hspoilt, e, r, congrArg (· >>= _) he, ?_, hcode⟩
      exact congrArg (· >>= _) (construct_error hr)
    · cases hnew : ProcessFrame.tryNew sha256 identity sequence direction state invocationId b with
      | error e =>
        rw [hnew] at hsame
        cases hinit : (fieldsOf identity sequence invocationId direction state b).postInit with
        | ok u =>
          rw [hinit] at hsame
          exact hsame.elim
        | error r =>
          rw [hinit] at hsame
          refine Fate.alike hspoilt ⟨e, r, rfl, ?_, hsame⟩
          exact congrArg (· >>= _) (construct_error hinit)
      | ok f =>
        -- Both sides hold the same frame now, and give the same bytes for it.
        obtain ⟨ha, hf⟩ := (ProcessFrame.tryNew_ok ..).1 hnew
        have hbuilt := ProcessFrame.built_of_tryNew hnew
        have hfields : pyFields f = fieldsOf identity sequence invocationId direction state b := by
          rw [hf]
          rfl
        have hinit := (postInit_pyFields f).2 (by rw [hf]; exact ha)
        rw [hfields] at hinit
        refine Fate.left rfl <| Fate.right (construct_ok hinit) <|
          Fate.right (rejectIf_neg (not_not.2 ((bodyKind_pyBody b).trans hkept))) <|
          Fate.right (encode_pyFields hbuilt hfields.symm) <| Fate.check Iff.rfl (fun _ => hspoilt) fun _ => ?_
        exact .inr ⟨hspoilt, trivial⟩

end Tail

/-! ## Headers -/

structure WellHeaded (b : Bytes) (kind : ProcessFrameKind) (direction : ProcessFrameDirection)
    (state : ProcessWorkerState) : Prop where
  room : headerBytes ≤ b.length ∧ b.length ≤ maxFrameBytes
  magic : slice b 0 4 = processWorkerProtocolMagic
  version : be b 4 2 = 1
  header : be b 6 2 = headerBytes
  total : be b 8 4 = b.length
  kind : b[12]? = some kind.code
  direction : b[13]? = some direction.code
  state : b[14]? = some state.code
  flags : b[15]? = some 0
  body : headerBytes + be b 144 4 = b.length
  live : be b 40 8 ≠ 0 ∧ be b 64 8 ≠ 0 ∧ be b 88 8 ≠ 0
  revised : be b 104 8 ≠ 0
  named : Nonzero (slice b 24 16) ∧ Nonzero (slice b 48 16) ∧ Nonzero (slice b 72 16)
  sliced : Nonzero (slice b 112 32)

def BlankFrame (b : Bytes) : Prop :=
  ∃ kind direction state, WellHeaded b kind direction state ∧ be b 16 8 ≠ 0 ∧ be b 96 8 = 0 ∧
    InPlace kind direction state ∧ BlankBody kind (b.drop headerBytes)

/-- The frame is a Terminal of unknown kind with a payload of another length than it says. -/
def MisreadFrame (b : Bytes) : Prop :=
  ∃ direction state, WellHeaded b .terminal direction state ∧ MisreadBody .terminal (b.drop headerBytes)

theorem wellHeaded_of_parted (h : BlankFrame b ∨ MisreadFrame b) :
    ∃ kind direction state, WellHeaded b kind direction state := by
  obtain ⟨kind, direction, state, hhead, _⟩ | ⟨direction, state, hhead, _⟩ := h
  · exact ⟨kind, direction, state, hhead⟩
  · exact ⟨.terminal, direction, state, hhead⟩

theorem not_parted (h : ∀ kind direction state, WellHeaded b kind direction state → ¬c) :
    c → ¬(BlankFrame b ∨ MisreadFrame b) := by
  intro hc hparted
  obtain ⟨kind, direction, state, hhead⟩ := wellHeaded_of_parted hparted
  exact h kind direction state hhead hc

theorem WellHeaded.unique {kind kind' : ProcessFrameKind} {direction direction' : ProcessFrameDirection}
    {state state' : ProcessWorkerState} (h : WellHeaded b kind direction state)
    (h' : WellHeaded b kind' direction' state') : kind' = kind ∧ direction' = direction ∧ state' = state := by
  have hkind : kind'.code = kind.code := Option.some.inj (h'.kind.symm.trans h.kind)
  have hdirection : direction'.code = direction.code := Option.some.inj (h'.direction.symm.trans h.direction)
  have hstate : state'.code = state.code := Option.some.inj (h'.state.symm.trans h.state)
  refine ⟨?_, ?_, ?_⟩
  · have htable := ProcessFrameKind.tryFrom_code kind'
    rw [hkind, ProcessFrameKind.tryFrom_code kind] at htable
    exact (Except.ok.inj htable).symm
  · have htable := ProcessFrameDirection.tryFrom_code direction'
    rw [hdirection, ProcessFrameDirection.tryFrom_code direction] at htable
    exact (Except.ok.inj htable).symm
  · have htable := ProcessWorkerState.tryFrom_code state'
    rw [hstate, ProcessWorkerState.tryFrom_code state] at htable
    exact (Except.ok.inj htable).symm

theorem parted_iff {kind : ProcessFrameKind} {direction : ProcessFrameDirection} {state : ProcessWorkerState}
    (h : WellHeaded b kind direction state) :
    BlankFrame b ∨ MisreadFrame b ↔ MisreadBody kind (b.drop headerBytes) ∨ (be b 16 8 ≠ 0 ∧ be b 96 8 = 0 ∧
      InPlace kind direction state ∧ BlankBody kind (b.drop headerBytes)) := by
  constructor
  · rintro (⟨kind', direction', state', hhead, hrest⟩ | ⟨direction', state', hhead, hbody⟩)
    · obtain ⟨rfl, rfl, rfl⟩ := h.unique hhead
      exact .inr hrest
    · obtain ⟨rfl, rfl, rfl⟩ := h.unique hhead
      exact .inl hbody
  · rintro (hbody | hrest)
    · obtain rfl := hbody.1
      exact .inr ⟨direction, state, h, hbody⟩
    · exact .inl ⟨kind, direction, state, h, hrest⟩

section Identity

variable (runtimeHost processDomain instanceRef : Ref16) (hostEpoch domainEpoch generation revision : UInt64)
  (targetSlice : Digest32)

def Identified : Prop :=
  (hostEpoch ≠ 0 ∧ domainEpoch ≠ 0 ∧ generation ≠ 0) ∧ revision ≠ 0 ∧
    (Nonzero runtimeHost.asBytes ∧ Nonzero processDomain.asBytes ∧ Nonzero instanceRef.asBytes) ∧
    Nonzero targetSlice.asBytes

def identityFields : IdentityFields where
  runtimeHostId := runtimeHost.asBytes
  runtimeHostEpoch := hostEpoch.toNat
  processDomainId := processDomain.asBytes
  processDomainEpoch := domainEpoch.toNat
  instanceId := instanceRef.asBytes
  instanceGeneration := generation.toNat
  sourcePlanRevision := revision.toNat
  targetSliceDigest := targetSlice.asBytes

def hostIdentity : Res ProcessSessionIdentity :=
  ProcessSessionGenerations.tryNew hostEpoch domainEpoch generation >>= fun generations =>
    ProcessSessionIdentity.tryNew runtimeHost processDomain instanceRef generations revision targetSlice

theorem hostIdentity_ok {i : ProcessSessionIdentity} (h : hostIdentity runtimeHost processDomain instanceRef hostEpoch
    domainEpoch generation revision targetSlice = .ok i) : Identified runtimeHost processDomain instanceRef hostEpoch
      domainEpoch generation revision targetSlice := by
  obtain ⟨generations, hg, h⟩ := bind_ok.1 h
  obtain ⟨live, _, _⟩ := bind_ok.1 hg
  obtain ⟨revised, _, h⟩ := bind_ok.1 h
  obtain ⟨host, _, h⟩ := bind_ok.1 h
  obtain ⟨domain, _, h⟩ := bind_ok.1 h
  obtain ⟨inst, _, h⟩ := bind_ok.1 h
  obtain ⟨sliced, _, _⟩ := bind_ok.1 h
  exact ⟨live.down, revised.down, ⟨host.down, domain.down, inst.down⟩, sliced.down⟩

theorem refuses_hostIdentity : Refuses (· = .invalidIdentity) (hostIdentity runtimeHost processDomain instanceRef hostEpoch
    domainEpoch generation revision targetSlice) := by
  refine refuses_bind (refuses_bind (refuses_require (P := (· = ProcessProtocolError.invalidIdentity)) rfl _) fun _ _ =>
    refuses_of_ok rfl) fun _ _ => ?_
  exact refuses_bind (refuses_require (P := (· = ProcessProtocolError.invalidIdentity)) rfl _) fun _ _ =>
    refuses_bind (refuses_validateNonzero _) fun _ _ =>
    refuses_bind (refuses_validateNonzero _) fun _ _ => refuses_bind (refuses_validateNonzero _) fun _ _ =>
    refuses_bind (refuses_validateNonzero _) fun _ _ => refuses_of_ok rfl

theorem blames_identityFields : Blames .invalidIdentity (identityFields runtimeHost processDomain instanceRef hostEpoch
    domainEpoch generation revision targetSlice).postInit := by
  refine refuses_bind (blames_fixedBytes _ _ _) fun _ _ => refuses_bind (blames_fixedBytes _ _ _) fun _ _ =>
    refuses_bind (blames_fixedBytes _ _ _) fun _ _ => refuses_bind (blames_fixedBytes _ _ _) fun _ _ =>
    refuses_forEach ?_
  -- The four numbers are unpacked from eight bytes each, so they are in range.
  have hone (n : UInt64) : Blames .invalidIdentity (do
      let value ← uint n.toNat 64
      rejectIf (value = 0) (.protocolError .invalidIdentity "live generations must be nonzero")) := by
    rw [uint_u64]
    exact blames_rejectIf _ _ _
  intro v hv
  simp only [identityFields, List.mem_cons, List.not_mem_nil, or_false] at hv
  rcases hv with rfl | rfl | rfl | rfl
  · exact hone _
  · exact hone _
  · exact hone _
  · exact hone _

theorem identity_fate :
    (∃ i, hostIdentity runtimeHost processDomain instanceRef hostEpoch domainEpoch generation revision targetSlice = .ok i ∧
      pyIdentityFields i = identityFields runtimeHost processDomain instanceRef hostEpoch domainEpoch generation revision
        targetSlice) ∨
    (¬Identified runtimeHost processDomain instanceRef hostEpoch domainEpoch generation revision targetSlice ∧
      Alike (hostIdentity runtimeHost processDomain instanceRef hostEpoch domainEpoch generation revision targetSlice)
        (identityFields runtimeHost processDomain instanceRef hostEpoch domainEpoch generation revision
          targetSlice).postInit) := by
  by_cases hid : Identified runtimeHost processDomain instanceRef hostEpoch domainEpoch generation revision targetSlice
  · let i : ProcessSessionIdentity :=
      ⟨runtimeHost, hostEpoch, processDomain, domainEpoch, instanceRef, generation, revision, targetSlice, hid.1, hid.2.1,
        hid.2.2.1, hid.2.2.2⟩
    refine .inl ⟨i, ?_, rfl⟩
    exact ok_bind (ProcessSessionGenerations.tryNew_fields i) (ProcessSessionIdentity.tryNew_fields i)
  · refine .inr ⟨hid, ?_⟩
    cases hhost : hostIdentity runtimeHost processDomain instanceRef hostEpoch domainEpoch generation revision targetSlice with
    | ok i => exact (hid (hostIdentity_ok _ _ _ _ _ _ _ _ hhost)).elim
    | error e =>
      have he := refuses_hostIdentity _ _ _ _ _ _ _ _ e hhost
      cases hworker : (identityFields runtimeHost processDomain instanceRef hostEpoch domainEpoch generation revision
          targetSlice).postInit with
      | error r =>
        refine ⟨e, r, rfl, rfl, ?_⟩
        rw [he]
        exact blames_identityFields _ _ _ _ _ _ _ _ r hworker
      | ok u =>
        obtain ⟨h1, h2, h3, h4, hall⟩ := (IdentityFields.postInit_ok _).1 hworker
        simp only [identityFields, List.forall_mem_cons, List.not_mem_nil, false_imp_iff, implies_true, and_true,
          u64_toNat_ne_zero] at hall
        exact (hid ⟨⟨hall.1.2, hall.2.1.2, hall.2.2.1.2⟩, hall.2.2.2.2, ⟨h1.2, h2.2, h3.2⟩, h4.2⟩).elim

end Identity

theorem u64_eq_zero {n : UInt64} {m : Nat} (h : n.toNat = m) : n = 0 ↔ m = 0 := by
  rw [← h, ← UInt64.toNat_inj]
  rfl

/-- **The decoders refuse with one code, except a blank frame and a misread Terminal.** -/
theorem decode_fate (sha256 : Sha256) (b : Bytes) :
    Fate (BlankFrame b ∨ MisreadFrame b) (ProcessFrame.decode sha256 b) (Frame.decode b) := by
  unfold ProcessFrame.decode Frame.decode
  refine Fate.check Iff.rfl (not_parted fun _ _ _ h => not_lt.2 h.room.2) fun hmax => ?_
  refine Fate.check Iff.rfl (not_parted fun _ _ _ h => not_lt.2 h.room.1) fun hmin => ?_
  have hlen : 148 ≤ b.length := not_lt.1 hmin
  refine Fate.right (unpack_header (not_lt.1 hmin)) ?_
  refine Fate.check Iff.rfl (not_parted fun _ _ _ h => not_not.2 h.magic) fun hmagic => ?_
  obtain ⟨version, hversion, hversion'⟩ := readU16_be b 4 (by omega)
  have hversioned : version ≠ processWorkerProtocolVersion ↔ (be b 4 2 : Int) ≠ 1 := by
    rw [← hversion', ne_eq, ← UInt16.toNat_inj, ← Int.natCast_inj]
    rfl
  refine Fate.left hversion <| Fate.check hversioned ?_ fun hone => ?_
  · refine not_parted fun _ _ _ h => ?_
    rw [hversioned, h.version]
    exact not_not.2 rfl
  obtain ⟨header, hheader, hheader'⟩ := readU16_be b 6 (by omega)
  have hheaded : header.toNat ≠ processWorkerHeaderBytes ↔ (be b 6 2 : Int) ≠ (headerBytes : Int) := by
    rw [← hheader', ne_eq, ← Int.natCast_inj]
    rfl
  refine Fate.left hheader <| Fate.check hheaded ?_ fun hheading => ?_
  · refine not_parted fun _ _ _ h => ?_
    rw [hheaded, h.header]
    exact not_not.2 rfl
  obtain ⟨total, htotal, htotal'⟩ := readU32_be b 8 (by omega)
  have htotalled : total.toNat ≠ b.length ↔ (be b 8 4 : Int) ≠ (b.length : Int) := by
    rw [← htotal', ne_eq, ← Int.natCast_inj]
  refine Fate.left htotal <| Fate.check htotalled ?_ fun hwhole => ?_
  · refine not_parted fun _ _ _ h => ?_
    rw [htotalled, h.total]
    exact not_not.2 rfl
  -- The three discriminants and the flags.
  obtain ⟨k, hk, hk'⟩ := byteAt_some b 12 (by omega)
  obtain ⟨d, hd, hd'⟩ := byteAt_some b 13 (by omega)
  obtain ⟨s, hs, hs'⟩ := byteAt_some b 14 (by omega)
  obtain ⟨flags, hflags, hflags'⟩ := byteAt_some b 15 (by omega)
  have hkind : Same (fun a a' => a = a' ∧ ProcessFrameKind.tryFrom k = .ok a) (ProcessFrameKind.tryFrom k)
      (frameKind.enum k.toNat) := same_enum (by rfl) k
  have hdirection : Same (fun a a' => a = a' ∧ ProcessFrameDirection.tryFrom d = .ok a) (ProcessFrameDirection.tryFrom d)
      (direction.enum d.toNat) := same_enum (by rfl) d
  have hstate : Same (fun a a' => a = a' ∧ ProcessWorkerState.tryFrom s = .ok a) (ProcessWorkerState.tryFrom s)
      (workerState.enum s.toNat) := same_enum (by rfl) s
  rw [← be_byte hk'] at hkind
  rw [← be_byte hd'] at hdirection
  rw [← be_byte hs'] at hstate
  refine Fate.left hk <| Fate.step hkind ?_ ?_
  · refine not_parted fun kind _ _ h => ?_
    rintro ⟨e, he⟩
    have hcode : k = kind.code := Option.some.inj (hk'.symm.trans h.kind)
    have hok := ProcessFrameKind.tryFrom_code kind
    rw [← hcode] at hok
    exact nomatch he.symm.trans hok
  rintro kind _ hkindOk ⟨rfl, _⟩
  refine Fate.left hd <| Fate.step hdirection ?_ ?_
  · refine not_parted fun _ direction _ h => ?_
    rintro ⟨e, he⟩
    have hcode : d = direction.code := Option.some.inj (hd'.symm.trans h.direction)
    have hok := ProcessFrameDirection.tryFrom_code direction
    rw [← hcode] at hok
    cases he.symm.trans hok
  rintro direction _ hdirectionOk ⟨rfl, _⟩
  refine Fate.left hs <| Fate.step hstate ?_ ?_
  · refine not_parted fun _ _ state h => ?_
    rintro ⟨e, he⟩
    have hcode : s = state.code := Option.some.inj (hs'.symm.trans h.state)
    have hok := ProcessWorkerState.tryFrom_code state
    rw [← hcode] at hok
    cases he.symm.trans hok
  rintro state _ hstateOk ⟨rfl, _⟩
  have hflagged : flags ≠ reservedFlags ↔ (be b 15 1 : Int) ≠ 0 := by
    rw [be_byte hflags', ne_eq, ← UInt8.toNat_inj, ← Int.natCast_inj]
    rfl
  refine Fate.left hflags <| Fate.check hflagged ?_ fun hunflagged => ?_
  · refine not_parted fun _ _ _ h => ?_
    exact not_not.2 (Option.some.inj (hflags'.symm.trans h.flags))
  -- The identity and the body.
  obtain ⟨sequence, hsequence, hsequence'⟩ := readU64_be b 16 (by omega)
  obtain ⟨runtimeHost, hhost, hhost'⟩ := readRef16_slice b 24 (by omega)
  obtain ⟨hostEpoch, hhostEpoch, hhostEpoch'⟩ := readU64_be b 40 (by omega)
  obtain ⟨processDomain, hdomain, hdomain'⟩ := readRef16_slice b 48 (by omega)
  obtain ⟨domainEpoch, hdomainEpoch, hdomainEpoch'⟩ := readU64_be b 64 (by omega)
  obtain ⟨instanceRef, hinstance, hinstance'⟩ := readRef16_slice b 72 (by omega)
  obtain ⟨generation, hgeneration, hgeneration'⟩ := readU64_be b 88 (by omega)
  obtain ⟨invocationId, hinvocation, hinvocation'⟩ := readU64_be b 96 (by omega)
  obtain ⟨revision, hrevision, hrevision'⟩ := readU64_be b 104 (by omega)
  obtain ⟨targetSlice, htarget, htarget'⟩ := readDigest32_slice b 112 (by omega)
  obtain ⟨bodyLength, hbody, hbody'⟩ := readU32_be b 144 (by omega)
  refine Fate.left hsequence <| Fate.left hhost <| Fate.left hhostEpoch <| Fate.left hdomain <| Fate.left hdomainEpoch <|
    Fate.left hinstance <| Fate.left hgeneration <| Fate.left hinvocation <| Fate.left hrevision <| Fate.left htarget <|
    Fate.left hbody ?_
  have hbodied : processWorkerHeaderBytes + bodyLength.toNat ≠ b.length ↔
      (headerBytes : Int) + (be b 144 4 : Int) ≠ (b.length : Int) := by
    rw [← hbody', ne_eq, ← Int.natCast_inj, Int.natCast_add]
    rfl
  refine Fate.check hbodied ?_ fun hexact => ?_
  · refine not_parted fun _ _ _ h => ?_
    rw [hbody']
    exact not_not.2 h.body
  have hidentified : Identified runtimeHost processDomain instanceRef hostEpoch domainEpoch generation revision
      targetSlice ↔ (be b 40 8 ≠ 0 ∧ be b 64 8 ≠ 0 ∧ be b 88 8 ≠ 0) ∧ be b 104 8 ≠ 0 ∧
        (Nonzero (slice b 24 16) ∧ Nonzero (slice b 48 16) ∧ Nonzero (slice b 72 16)) ∧ Nonzero (slice b 112 32) := by
    unfold Identified
    rw [hhost', hdomain', hinstance', htarget', ne_eq, ne_eq, ne_eq, ne_eq, u64_eq_zero hhostEpoch',
      u64_eq_zero hdomainEpoch', u64_eq_zero hgeneration', u64_eq_zero hrevision']
  have hfields : identityFields runtimeHost processDomain instanceRef hostEpoch domainEpoch generation revision targetSlice =
      { runtimeHostId := slice b 24 16, runtimeHostEpoch := be b 40 8, processDomainId := slice b 48 16
        processDomainEpoch := be b 64 8, instanceId := slice b 72 16, instanceGeneration := be b 88 8
        sourcePlanRevision := be b 104 8, targetSliceDigest := slice b 112 32 } := by
    unfold identityFields
    rw [hhost', hdomain', hinstance', htarget', hhostEpoch', hdomainEpoch', hgeneration', hrevision']
  obtain ⟨i, hi, hpy⟩ | ⟨hnot, e, r, he, hr, hcode⟩ :=
    identity_fate runtimeHost processDomain instanceRef hostEpoch domainEpoch generation revision targetSlice
  · have hid := hidentified.1 (hostIdentity_ok _ _ _ _ _ _ _ _ hi)
    have hhead : WellHeaded b kind direction state :=
      { room := ⟨not_lt.1 hmin, not_lt.1 hmax⟩
        magic := not_not.1 hmagic
        version := Int.natCast_inj.1 (not_not.1 (hversioned.not.1 hone))
        header := Int.natCast_inj.1 (not_not.1 (hheaded.not.1 hheading))
        total := Int.natCast_inj.1 (not_not.1 (htotalled.not.1 hwhole))
        kind := frameKind_code hkindOk ▸ hk'
        direction := direction_code hdirectionOk ▸ hd'
        state := workerState_code hstateOk ▸ hs'
        flags := hflags'.trans (congrArg some (not_not.1 hunflagged))
        body := hbody' ▸ not_not.1 hexact
        live := hid.1
        revised := hid.2.1
        named := hid.2.2.1
        sliced := hid.2.2.2 }
    obtain ⟨generations, hgenerations, hidentity⟩ := bind_ok.1 hi
    have hinit := pyIdentityFields_postInit i
    rw [hpy, hfields] at hinit
    have hpair : (⟨_, hinit⟩ : SessionIdentity) = pyIdentity i := Subtype.ext (hpy.trans hfields).symm
    have htail := tail_fate sha256 i sequence invocationId direction state kind b
    refine Fate.left hgenerations <| Fate.left hidentity <| Fate.right (construct_ok hinit) ?_
    rw [parted_iff hhead, hpair]
    unfold workerTail at htail
    rw [ne_eq, u64_eq_zero hsequence', u64_eq_zero hinvocation', hsequence', hinvocation'] at htail
    exact htail
  · have hhost : ∀ {γ : Type} (f : ProcessSessionIdentity → Res γ),
        (ProcessSessionGenerations.tryNew hostEpoch domainEpoch generation >>= fun generations =>
          ProcessSessionIdentity.tryNew runtimeHost processDomain instanceRef generations revision targetSlice >>= f) =
        .error e := by
      intro γ f
      rw [← bind_assoc]
      exact congrArg (· >>= f) he
    refine Fate.alike (not_parted ?_ hnot) ⟨e, r, hhost _, ?_, hcode⟩
    · intro _ _ _ h hn
      exact hn (hidentified.2 ⟨h.live, h.revised, h.named, h.sliced⟩)
    · rw [hfields] at hr
      exact congrArg (· >>= _) (construct_error hr)

/-- **When the two languages give one code.**  On a byte string both refuse, the codes are the same exactly when the frame is
neither a Ready or Construct that is wrong only in an all-zero digest or entrypoint, nor a Terminal of unknown kind whose
payload has another length than it says. -/
theorem rejection_codes_agree_iff (sha256 : Sha256) (bytes : Bytes) (e : ProcessProtocolError) (r : Raised)
    (hhost : ProcessFrame.decode sha256 bytes = .error e) (hworker : Frame.decode bytes = .error r) :
    r.code = some e ↔ ¬BlankFrame bytes ∧ ¬MisreadFrame bytes := by
  have hfate := decode_fate sha256 bytes
  rw [hhost, hworker] at hfate
  rw [← not_or]
  obtain ⟨hparted, e', r', he, hr, hcode⟩ | ⟨hparted, hsame⟩ := hfate
  · cases he
    cases hr
    exact iff_of_false hcode (not_not.2 hparted)
  · exact iff_of_true hsame hparted

/-- A Ready frame in the state after construction, which is as long as it should be and has a live identity. -/
def misplacedReady : Bytes :=
  (frameFields fixtureIdentity 1 .workerToHost .running 0 .ready (List.replicate 32 1)).flatten

theorem rejection_codes_agree_iff_misplaced :
    Raised.code (.protocolError .stateMismatch "PXWP worker state is invalid") = some .stateMismatch ↔
      ¬BlankFrame misplacedReady ∧ ¬MisreadFrame misplacedReady :=
  rejection_codes_agree_iff (fun _ => 0) misplacedReady .stateMismatch
    (.protocolError .stateMismatch "PXWP worker state is invalid") (by decide +kernel) (by decide +kernel)

def blankReady : Bytes :=
  (frameFields fixtureIdentity 1 .workerToHost .starting 0 .ready (List.replicate 32 0)).flatten

/-- **The codes differ on a Ready frame with an all-zero digest.** -/
theorem rejection_codes_differ_on_blank_ready :
    ∃ e r, ProcessFrame.decode (fun _ => 0) blankReady = .error e ∧ Frame.decode blankReady = .error r ∧
      r.code ≠ some e := by
  refine ⟨.invalidIdentity, .protocolError .invalidBodyValue "all-zero opaque values are forbidden", ?_, ?_, nofun⟩
  · decide +kernel
  · decide +kernel

end Worker
end ParaEgox
