import ParaEgox.ProcessCodec
import ParaEgox.WorkerFrame

/-!
# WorkerCodec — the two PXWP implementations are one format

Every value the host can build is a value of the worker, and every value the worker's checks accept is one of the host;
the encoders agree on it byte for byte.  Each decoder inverts its own encoder and accepts nothing else, so the decoders
accept the same byte strings with the same contents.
-/
namespace ParaEgox
namespace Worker

open Check Wire Process

/-! ## Checked values and packed fields -/

theorem uint_ok (value : Int) (bits : Nat) (v : Int) :
    uint value bits = .ok v ↔ (0 ≤ value ∧ value < 2 ^ bits) ∧ value = v := by
  simp only [uint, bind_ok, rejectIf_ok, exists_unit, pure_ok, not_not]

theorem fixedBytes_ok (value : Bytes) (length : Nat) (code : ProtocolErrorCode) (v : Bytes) :
    fixedBytes value length code = .ok v ↔ value.length = length ∧ Nonzero value ∧ value = v := by
  simp only [fixedBytes, bind_ok, rejectIf_ok, exists_unit, pure_ok, not_not, ne_eq]
  simp [Nonzero]

theorem packUint_ok (width : Nat) (value : Int) (v : Bytes) :
    packUint width value = .ok v ↔ (0 ≤ value ∧ value < 256 ^ width) ∧ bytesBE width value.toNat = v := by
  simp only [packUint, bind_ok, rejectIf_ok, exists_unit, pure_ok, not_not]

variable {n : Nat} {v : Bytes} {sha256 : Sha256} {f : ProcessFrame} {g : Frame}

theorem packUint_natCast {width : Nat} (h : n < 256 ^ width) : packUint width n = .ok (bytesBE width n) := by
  rw [packUint_ok]
  exact ⟨⟨Int.natCast_nonneg n, by exact_mod_cast h⟩, rfl⟩

theorem packBytes_of_length {size : Nat} {value : Bytes} (h : value.length = size) : packBytes size value = value := by
  rw [packBytes, ← h, List.take_left]

theorem andM_ok_true (x y : Py Bool) : (x <&&> y) = .ok true ↔ x = .ok true ∧ y = .ok true := by
  simp only [andM, bind_ok]
  constructor
  · rintro ⟨b, hx, hy⟩
    cases b with
    | true => exact ⟨hx, hy⟩
    | false => cases hy
  · rintro ⟨hx, hy⟩
    exact ⟨true, hx, hy⟩

theorem orM_ok_false (x y : Py Bool) : (x <||> y) = .ok false ↔ x = .ok false ∧ y = .ok false := by
  simp only [orM, bind_ok]
  constructor
  · rintro ⟨b, hx, hy⟩
    cases b with
    | true => cases hy
    | false => exact ⟨hx, hy⟩
  · rintro ⟨hx, hy⟩
    exact ⟨false, hx, hy⟩

theorem within_ok (value : Int) (bits : Nat) (limit : Int) :
    within value bits limit = .ok true ↔ (0 ≤ value ∧ value < 2 ^ bits) ∧ 0 < value ∧ value ≤ limit := by
  simp only [within, bind_ok, uint_ok, pure_ok, decide_eq_true_eq]
  constructor
  · rintro ⟨v, ⟨hv, rfl⟩, hlimit⟩
    exact ⟨hv, hlimit⟩
  · rintro ⟨hv, hlimit⟩
    exact ⟨value, ⟨hv, rfl⟩, hlimit⟩

theorem isZero_ok (value : Int) (bits : Nat) :
    isZero value bits = .ok false ↔ (0 ≤ value ∧ value < 2 ^ bits) ∧ value ≠ 0 := by
  simp only [isZero, bind_ok, uint_ok, pure_ok, decide_eq_false_iff_not]
  constructor
  · rintro ⟨v, ⟨hv, rfl⟩, hzero⟩
    exact ⟨hv, hzero⟩
  · rintro ⟨hv, hzero⟩
    exact ⟨value, ⟨hv, rfl⟩, hzero⟩

theorem ordered_ok (interval timeout : Int) :
    ordered interval timeout = .ok true ↔
      (0 ≤ interval ∧ interval < 2 ^ 64) ∧ (0 ≤ timeout ∧ timeout < 2 ^ 64) ∧ 0 < interval ∧ interval < timeout := by
  simp only [ordered, bind_ok, uint_ok]
  constructor
  · rintro ⟨v, ⟨hv, rfl⟩, h⟩
    split at h
    · rename_i hpos
      simp only [bind_ok, uint_ok, pure_ok, decide_eq_true_eq] at h
      obtain ⟨w, ⟨hw, rfl⟩, hlt⟩ := h
      exact ⟨hv, hw, hpos, hlt⟩
    · cases h
  · rintro ⟨hv, hw, hpos, hlt⟩
    refine ⟨interval, ⟨hv, rfl⟩, ?_⟩
    rw [if_pos hpos]
    simp only [bind_ok, uint_ok, pure_ok, decide_eq_true_eq]
    exact ⟨timeout, ⟨hw, rfl⟩, hlt⟩

/-! ## Values of the host as values of the worker -/

def pyBody : ProcessFrameBody → FrameBody
  | .start a b c d e => .start a.toNat b.toNat c.toNat d.toNat e.toNat
  | .ready d => .ready d.asBytes
  | .construct a b c => .construct a.asBytes b.asBytes c.asBytes
  | .constructed outcome => .constructed outcome
  | .invoke a b c payload => .invoke a.toNat b.toNat c.toNat payload
  | .invoked a => .invoked a.toNat
  | .heartbeat a b c => .heartbeat a.toNat b.toNat c.toNat
  | .cancel a b => .cancel a.toNat b.toNat
  | .terminal a kind payload => .terminal a.toNat kind payload
  | .stopAccepting => .stopAccepting
  | .drained => .drained
  | .stop reason => .stop reason
  | .stopped outcome => .stopped outcome
  | .ping nonce => .ping nonce.toNat
  | .pong nonce => .pong nonce.toNat

theorem bodyKind_pyBody (b : ProcessFrameBody) : bodyKind (pyBody b) = b.kind := by cases b <;> rfl

theorem u64_bounds (n : UInt64) : 0 ≤ (n.toNat : Int) ∧ (n.toNat : Int) < 2 ^ 64 :=
  ⟨Int.natCast_nonneg _, by exact_mod_cast n.toNat_lt⟩

theorem u32_bounds (n : UInt32) : 0 ≤ (n.toNat : Int) ∧ (n.toNat : Int) < 2 ^ 32 :=
  ⟨Int.natCast_nonneg _, by exact_mod_cast n.toNat_lt⟩

theorem packUint_u64 (n : UInt64) : packUint 8 n.toNat = .ok (encU64 n) := packUint_natCast n.toNat_lt
theorem packUint_u32 (n : UInt32) : packUint 4 n.toNat = .ok (encU32 n) := packUint_natCast n.toNat_lt

theorem u64_toNat_ne_zero (n : UInt64) : (n.toNat : Int) ≠ 0 ↔ n ≠ 0 := by
  rw [ne_eq, ne_eq, Int.natCast_eq_zero, ← UInt64.toNat_inj]
  rfl

theorem isZero_u64 (n : UInt64) : isZero n.toNat 64 = .ok false ↔ n ≠ 0 := by
  rw [isZero_ok, and_iff_right (u64_bounds n), u64_toNat_ne_zero]

theorem uint_u64 (n : UInt64) : uint n.toNat 64 = .ok n.toNat := (uint_ok _ _ _).2 ⟨u64_bounds n, rfl⟩
theorem uint_u32 (n : UInt32) : uint n.toNat 32 = .ok n.toNat := (uint_ok _ _ _).2 ⟨u32_bounds n, rfl⟩

theorem within_u32 (n limit : UInt32) : within n.toNat 32 limit.toNat = .ok true ↔ n ≠ 0 ∧ ¬ limit < n := by
  rw [within_ok, and_iff_right (u32_bounds n), ne_eq, ← UInt32.toNat_inj, UInt32.lt_iff_toNat_lt]
  have hzero : (0 : UInt32).toNat = 0 := rfl
  omega

theorem within_u64 (n limit : UInt64) : within n.toNat 64 limit.toNat = .ok true ↔ n ≠ 0 ∧ ¬ limit < n := by
  rw [within_ok, and_iff_right (u64_bounds n), ne_eq, ← UInt64.toNat_inj, UInt64.lt_iff_toNat_lt]
  have hzero : (0 : UInt64).toNat = 0 := rfl
  omega

theorem ordered_u64 (interval timeout : UInt64) :
    ordered interval.toNat timeout.toNat = .ok true ↔ interval ≠ 0 ∧ ¬ timeout ≤ interval := by
  rw [ordered_ok, and_iff_right (u64_bounds interval), and_iff_right (u64_bounds timeout), ne_eq, ← UInt64.toNat_inj,
    UInt64.le_iff_toNat_le]
  have hzero : (0 : UInt64).toNat = 0 := rfl
  omega

theorem exists_unset {x : Py Bool} {P : Prop} : (∃ b, x = .ok b ∧ ¬ b = true ∧ P) ↔ x = .ok false ∧ P := by
  constructor
  · rintro ⟨b, hx, hb, h⟩
    rw [Bool.not_eq_true] at hb
    exact ⟨hb ▸ hx, h⟩
  · rintro ⟨hx, h⟩
    exact ⟨false, hx, Bool.false_ne_true, h⟩

theorem exists_set {x : Py Bool} {P : Prop} : (∃ b, x = .ok b ∧ ¬ b = false ∧ P) ↔ x = .ok true ∧ P := by
  constructor
  · rintro ⟨b, hx, hb, h⟩
    rw [Bool.not_eq_false] at hb
    exact ⟨hb ▸ hx, h⟩
  · rintro ⟨hx, h⟩
    exact ⟨true, hx, Bool.true_eq_false_eq_False, h⟩

theorem validateNonzero_bind {α : Type} (value : Bytes) (x : Res α) (a : α) :
    (validateNonzero value >>= fun _ => x) = .ok a ↔ Nonzero value ∧ x = .ok a := by
  rw [bind_ok]
  constructor
  · rintro ⟨h, _, hx⟩
    exact ⟨h.down, hx⟩
  · rintro ⟨h, hx⟩
    exact ⟨⟨h⟩, require_ok _, hx⟩

theorem packUint_length {payload : Bytes} (h : payload.length ≤ maxProcessWorkerPayloadBytes) :
    packUint 4 payload.length = .ok (encU32 (UInt32.ofNat payload.length)) := by
  have hlt : payload.length < 2 ^ 32 := lt_of_le_of_lt h (by decide)
  rw [encU32, toNat_ofNat_of_lt hlt]
  exact packUint_natCast hlt

theorem bytesBE_byte (b : UInt8) : bytesBE 1 b.toNat = [b] := by
  rw [bytesBE_succ, UInt8.ofNat_toNat]
  rfl

theorem packUint_byte (b : UInt8) : packUint 1 b.toNat = .ok [b] := by
  rw [packUint_natCast b.toNat_lt, bytesBE_byte]

theorem direction_int (v : Direction) : direction.int v = .ok v.code.toNat := by cases v <;> rfl
theorem workerState_int (v : WorkerState) : workerState.int v = .ok v.code.toNat := by cases v <;> rfl
theorem frameKind_int (v : FrameKind) : frameKind.int v = .ok v.code.toNat := by cases v <;> rfl
theorem constructOutcome_int (v : ConstructOutcome) : constructOutcome.int v = .ok v.code.toNat := by cases v <;> rfl
theorem terminalKind_int (v : TerminalKind) : terminalKind.int v = .ok v.code.toNat := by cases v <;> rfl
theorem stopReason_int (v : StopReason) : stopReason.int v = .ok v.code.toNat := by cases v <;> rfl
theorem stoppedOutcome_int (v : StoppedOutcome) : stoppedOutcome.int v = .ok v.code.toNat := by cases v <;> rfl

theorem encodeBody_pyBody (b : ProcessFrameBody) (w : Bytes) : encodeBody (pyBody b) = .ok w ↔ b.encode = .ok w := by
  rw [ProcessFrameBody.encode_ok]
  cases b
  case start a b c d e =>
    have hcredits : maxCredits = (maxProcessWorkerCredits.toNat : Int) := rfl
    have hretained : maxRetainedBytes = (maxProcessWorkerRetainedBytes.toNat : Int) := rfl
    have hpayload : (maxPayloadBytes : Int) = ((UInt32.ofNat maxProcessWorkerPayloadBytes).toNat : Int) := rfl
    simp only [pyBody, encodeBody, bind_ok, rejectIf_ok, exists_unit, exists_set, andM_ok_true, hcredits, hretained,
      hpayload, within_u32, within_u64, ordered_u64, packUint_u32, packUint_u64, pure_ok, Except.ok.injEq,
      exists_eq_left', ProcessFrameBody.validate, ProcessFrameBody.fields,
      lengthU32_of_lt (by decide : maxProcessWorkerPayloadBytes < 2 ^ 32), not_or, and_assoc]
  case ready d =>
    simp only [pyBody, encodeBody, fixedBytes_ok, Digest32.asBytes_length, true_and, ProcessFrameBody.validate,
      validateNonzero_bind, pure_ok, and_true, ProcessFrameBody.fields, List.flatten_singleton]
  case construct a b c =>
    simp only [ProcessFrameBody.validate, validateNonzero_bind, pure_ok, and_true, ProcessFrameBody.fields, and_assoc]
    simp only [pyBody, encodeBody, bind_ok, fixedBytes_ok, Digest32.asBytes_length, Ref16.asBytes_length, true_and,
      pure_ok, and_assoc, exists_and_left, exists_eq_left']
  case constructed v =>
    simp only [pyBody, encodeBody, bind_ok, constructOutcome_int, packUint_byte, Except.ok.injEq, exists_eq_left',
      ProcessFrameBody.validate, ProcessFrameBody.fields, List.flatten_singleton, true_and]
  case invoke a b c payload =>
    simp only [pyBody, encodeBody, bind_ok, rejectIf_ok, exists_unit, exists_unset, orM_ok_false, isZero_u64,
      pure_ok, decide_eq_false_iff_not, uint_u32, packUint_u64, packUint_u32, Except.ok.injEq, exists_eq_left',
      ProcessFrameBody.validate, not_or, ProcessFrameBody.fields, ProcessFrameBody.payloadLength, and_assoc]
    refine and_congr_right fun _ => and_congr_right fun _ => and_congr_right fun hpayload => ?_
    simp only [packUint_length (not_lt.1 hpayload), Except.ok.injEq, exists_eq_left']
  case invoked | ping | pong =>
    simp only [pyBody, encodeBody, bind_ok, rejectIf_ok, exists_unit, exists_unset, isZero_u64, packUint_u64,
      ProcessFrameBody.validate, ProcessFrameBody.fields, Except.ok.injEq, List.flatten_singleton]
  case heartbeat a b c =>
    simp only [pyBody, encodeBody, bind_ok, rejectIf_ok, exists_unit, exists_unset, isZero_u64, uint_u32, uint_u64,
      packUint_u64, packUint_u32, pure_ok, Except.ok.injEq, exists_eq_left', ProcessFrameBody.validate,
      ProcessFrameBody.fields]
  case cancel a b =>
    simp only [pyBody, encodeBody, bind_ok, rejectIf_ok, exists_unit, exists_unset, isZero_u64, uint_u64,
      packUint_u64, pure_ok, Except.ok.injEq, exists_eq_left', ProcessFrameBody.validate, ProcessFrameBody.fields]
  case terminal a kind payload =>
    simp only [pyBody, encodeBody, bind_ok, rejectIf_ok, exists_unit, exists_unset, orM_ok_false, isZero_u64,
      pure_ok, decide_eq_false_iff_not, terminalKind_int, packUint_u64, packUint_byte, Except.ok.injEq,
      exists_eq_left', ProcessFrameBody.validate, ProcessFrameBody.fields, ProcessFrameBody.payloadLength, and_assoc]
    refine and_congr_right fun _ => and_congr_right fun hpayload => ?_
    simp only [packUint_length (not_lt.1 hpayload), Except.ok.injEq, exists_eq_left']
  case stopAccepting =>
    simp only [pyBody, encodeBody, pure_ok, ProcessFrameBody.validate, ProcessFrameBody.fields, List.flatten_nil,
      true_and]
  case drained =>
    simp only [pyBody, encodeBody, pure_ok, ProcessFrameBody.validate, ProcessFrameBody.fields, List.flatten_nil,
      true_and]
  case stop v =>
    simp only [pyBody, encodeBody, bind_ok, stopReason_int, packUint_byte, Except.ok.injEq, exists_eq_left',
      ProcessFrameBody.validate, ProcessFrameBody.fields, List.flatten_singleton, true_and]
  case stopped v =>
    simp only [pyBody, encodeBody, bind_ok, stoppedOutcome_int, packUint_byte, Except.ok.injEq, exists_eq_left',
      ProcessFrameBody.validate, ProcessFrameBody.fields, List.flatten_singleton, true_and]

theorem exists_u64 {v : Int} (h : 0 ≤ v ∧ v < 2 ^ 64) : ∃ n : UInt64, (n.toNat : Int) = v := by
  refine ⟨UInt64.ofNat v.toNat, ?_⟩
  rw [UInt64.toNat_ofNat']
  omega

theorem exists_u32 {v : Int} (h : 0 ≤ v ∧ v < 2 ^ 32) : ∃ n : UInt32, (n.toNat : Int) = v := by
  refine ⟨UInt32.ofNat v.toNat, ?_⟩
  rw [UInt32.toNat_ofNat']
  omega

theorem exists_digest32 (h : v.length = 32) : ∃ d : Digest32, d.asBytes = v :=
  ⟨Digest32.fromBytes ⟨v, h⟩, Digest32.asBytes_fromBytes _⟩

theorem exists_ref16 (h : v.length = 16) : ∃ r : Ref16, r.asBytes = v :=
  ⟨Ref16.fromBytes ⟨v, h⟩, Ref16.asBytes_fromBytes _⟩

theorem exists_body {p : FrameBody} {w : Bytes} (h : encodeBody p = .ok w) : ∃ b, pyBody b = p := by
  cases p
  case start a b c d e =>
    simp only [encodeBody, bind_ok, rejectIf_ok, exists_unit, exists_set, andM_ok_true, within_ok, ordered_ok] at h
    obtain ⟨⟨⟨ha, _⟩, ⟨hb, _⟩, ⟨hc, _⟩, hd, he, _⟩, _⟩ := h
    obtain ⟨a, rfl⟩ := exists_u32 ha
    obtain ⟨b, rfl⟩ := exists_u64 hb
    obtain ⟨c, rfl⟩ := exists_u32 hc
    obtain ⟨d, rfl⟩ := exists_u64 hd
    obtain ⟨e, rfl⟩ := exists_u64 he
    exact ⟨.start a b c d e, rfl⟩
  case ready d =>
    simp only [encodeBody, fixedBytes_ok] at h
    obtain ⟨d, rfl⟩ := exists_digest32 h.1
    exact ⟨.ready d, rfl⟩
  case construct a b c =>
    simp only [encodeBody, bind_ok, fixedBytes_ok] at h
    obtain ⟨_, ⟨ha, _⟩, _, ⟨hb, _⟩, _, ⟨hc, _⟩, _⟩ := h
    obtain ⟨a, rfl⟩ := exists_digest32 ha
    obtain ⟨b, rfl⟩ := exists_digest32 hb
    obtain ⟨c, rfl⟩ := exists_ref16 hc
    exact ⟨.construct a b c, rfl⟩
  case constructed v => exact ⟨.constructed v, rfl⟩
  case invoke a b c payload =>
    simp only [encodeBody, bind_ok, rejectIf_ok, exists_unit, exists_unset, orM_ok_false, isZero_ok, uint_ok] at h
    obtain ⟨⟨⟨ha, _⟩, ⟨hc, _⟩, _⟩, _, ⟨hb, _⟩, _⟩ := h
    obtain ⟨a, rfl⟩ := exists_u64 ha
    obtain ⟨b, rfl⟩ := exists_u32 hb
    obtain ⟨c, rfl⟩ := exists_u64 hc
    exact ⟨.invoke a b c payload, rfl⟩
  case invoked a =>
    simp only [encodeBody, bind_ok, rejectIf_ok, exists_unit, exists_unset, isZero_ok] at h
    obtain ⟨a, rfl⟩ := exists_u64 h.1.1
    exact ⟨.invoked a, rfl⟩
  case heartbeat a b c =>
    simp only [encodeBody, bind_ok, rejectIf_ok, exists_unit, exists_unset, isZero_ok, uint_ok] at h
    obtain ⟨⟨ha, _⟩, _, ⟨hb, _⟩, _, ⟨hc, _⟩, _⟩ := h
    obtain ⟨a, rfl⟩ := exists_u64 ha
    obtain ⟨b, rfl⟩ := exists_u32 hb
    obtain ⟨c, rfl⟩ := exists_u64 hc
    exact ⟨.heartbeat a b c, rfl⟩
  case cancel a b =>
    simp only [encodeBody, bind_ok, rejectIf_ok, exists_unit, exists_unset, isZero_ok, uint_ok] at h
    obtain ⟨⟨ha, _⟩, _, ⟨hb, _⟩, _⟩ := h
    obtain ⟨a, rfl⟩ := exists_u64 ha
    obtain ⟨b, rfl⟩ := exists_u64 hb
    exact ⟨.cancel a b, rfl⟩
  case terminal a kind payload =>
    simp only [encodeBody, bind_ok, rejectIf_ok, exists_unit, exists_unset, orM_ok_false, isZero_ok] at h
    obtain ⟨a, rfl⟩ := exists_u64 h.1.1.1
    exact ⟨.terminal a kind payload, rfl⟩
  case stopAccepting => exact ⟨.stopAccepting, rfl⟩
  case drained => exact ⟨.drained, rfl⟩
  case stop v => exact ⟨.stop v, rfl⟩
  case stopped v => exact ⟨.stopped v, rfl⟩
  case ping a =>
    simp only [encodeBody, bind_ok, rejectIf_ok, exists_unit, exists_unset, isZero_ok] at h
    obtain ⟨a, rfl⟩ := exists_u64 h.1.1
    exact ⟨.ping a, rfl⟩
  case pong a =>
    simp only [encodeBody, bind_ok, rejectIf_ok, exists_unit, exists_unset, isZero_ok] at h
    obtain ⟨a, rfl⟩ := exists_u64 h.1.1
    exact ⟨.pong a, rfl⟩

/-! ## Unpacked fields -/

theorem reads_uint {width : Nat} (h : n < 256 ^ width) : Reads (Format.uint width) (bytesBE width n) (n : Int) := by
  have hread := reads_map (fun bytes => (fromBE bytes.val : Int))
    (reads_take_of_length (bytesBE_length width n) Raised.structError)
  rwa [fromBE_bytesBE h] at hread

theorem reads_u64 (n : UInt64) : Reads (Format.uint 8) (encU64 n) (n.toNat : Int) := reads_uint n.toNat_lt
theorem reads_u32 (n : UInt32) : Reads (Format.uint 4) (encU32 n) (n.toNat : Int) := reads_uint n.toNat_lt

theorem reads_byte (b : UInt8) : Reads (Format.uint 1) [b] (b.toNat : Int) := by
  have h : Reads (Format.uint 1) (bytesBE 1 b.toNat) (b.toNat : Int) := reads_uint b.toNat_lt
  rwa [bytesBE_byte] at h

theorem reads_bytes {size : Nat} (h : v.length = size) : Reads (Format.bytes size) v v :=
  reads_map (fun bytes : {bs : Bytes // bs.length = size} => bytes.val) (reads_take_of_length h Raised.structError)

theorem unpack_of_reads {α : Type} {format : Format α} {buffer : Bytes} {a : α} (h : Reads format buffer a) :
    unpack format buffer = .ok a := by
  have hread := h []
  rw [List.append_nil] at hread
  exact ok_bind hread rfl

theorem unpackFrom_of_reads {α : Type} {format : Format α} {buffer e r : Bytes} {offset : Nat} {a : α}
    (h : Reads format e a) (hbuffer : buffer.drop offset = e ++ r) : unpackFrom format buffer offset = .ok a := by
  refine ok_bind (a := (a, r)) ?_ rfl
  rw [hbuffer]
  exact h r

theorem byteAt_ok {body : Bytes} {index : Nat} {b : UInt8} (h : body[index]? = some b) :
    byteAt body index = .ok (b.toNat : Int) :=
  ok_bind (okOr_ok.2 h) rfl

theorem constructOutcome_enum (v : ConstructOutcome) : constructOutcome.enum v.code.toNat = .ok v := by cases v <;> rfl
theorem terminalKind_enum (v : TerminalKind) : terminalKind.enum v.code.toNat = .ok v := by cases v <;> rfl
theorem stopReason_enum (v : StopReason) : stopReason.enum v.code.toNat = .ok v := by cases v <;> rfl
theorem stoppedOutcome_enum (v : StoppedOutcome) : stoppedOutcome.enum v.code.toNat = .ok v := by cases v <;> rfl
theorem direction_enum (v : Direction) : direction.enum v.code.toNat = .ok v := by cases v <;> rfl
theorem workerState_enum (v : WorkerState) : workerState.enum v.code.toNat = .ok v := by cases v <;> rfl
theorem frameKind_enum (v : FrameKind) : frameKind.enum v.code.toNat = .ok v := by cases v <;> rfl

theorem decodeBody_pyBody (b : ProcessFrameBody) (h : b.validate = .ok ()) :
    decodeBody b.kind b.wire = .ok (pyBody b) := by
  have hpayload := toNat_ofNat_of_lt (ProcessFrameBody.payloadLength_lt h)
  unfold ProcessFrameBody.wire
  cases b
  case start a b c d e =>
    refine ok_check (by simp [ProcessFrameBody.fields]) (unpack_of_reads ?_)
    exact reads_field (reads_u32 a) <| reads_field (reads_u64 b) <| reads_field (reads_u32 c) <|
      reads_field (reads_u64 d) <| reads_field (reads_u64 e) <| reads_done _
  case ready d =>
    refine ok_check (by simp [ProcessFrameBody.fields]) ?_
    simp [ProcessFrameBody.fields, pyBody]
  case construct a b c =>
    refine ok_check (by simp [ProcessFrameBody.fields]) ?_
    have hl : [a.asBytes, b.asBytes, c.asBytes].map List.length = [32, 32, 16] := by simp
    have ha := slice_field (k := 0) hl rfl rfl a.asBytes_length
    have hb := slice_field (k := 1) hl rfl rfl b.asBytes_length
    have hc := slice_field (k := 2) hl rfl rfl c.asBytes_length
    simp only [List.take_zero, List.sum_nil, List.drop_zero] at ha
    rw [ProcessFrameBody.fields, pure_ok, ha]
    exact congrArg₂ (FrameBody.construct a.asBytes) hb hc
  case constructed v => exact ok_bind rfl (ok_bind rfl (ok_bind (constructOutcome_enum v) rfl))
  case invoke a b c payload =>
    have hlen : (ProcessFrameBody.fields (UInt32.ofNat payload.length) (.invoke a b c payload)).flatten.length =
        24 + payload.length := by
      simp [ProcessFrameBody.fields]
      omega
    have hdrop : (ProcessFrameBody.fields (UInt32.ofNat payload.length) (.invoke a b c payload)).flatten.drop 24 =
        payload :=
      drop_last_field (l := [encU64 a, encU32 (UInt32.ofNat payload.length), encU32 b, encU64 c]) (by simp)
    rw [ProcessFrameBody.payloadLength] at hpayload ⊢
    refine ok_check (by omega) <| ok_bind (unpackFrom_of_reads (reads_field (reads_u64 a) <|
      reads_field (reads_u32 (UInt32.ofNat payload.length)) <| reads_field (reads_u32 b) <| reads_field (reads_u64 c) <|
      reads_done _) (r := payload) (by simp [ProcessFrameBody.fields])) <|
      ok_check (by rw [hpayload]; omega) ?_
    rw [hdrop]
    rfl
  case invoked a | ping a | pong a =>
    refine ok_check (by simp [ProcessFrameBody.fields]) ?_
    exact ok_bind (unpack_of_reads (reads_last (reads_u64 a))) rfl
  case heartbeat a b c =>
    refine ok_check (by simp [ProcessFrameBody.fields]) (unpack_of_reads ?_)
    exact reads_field (reads_u64 a) <| reads_field (reads_u32 b) <| reads_field (reads_u64 c) <| reads_done _
  case cancel a b =>
    refine ok_check (by simp [ProcessFrameBody.fields]) (unpack_of_reads ?_)
    exact reads_field (reads_u64 a) <| reads_field (reads_u64 b) <| reads_done _
  case terminal a kind payload =>
    have hl : (ProcessFrameBody.fields (UInt32.ofNat payload.length) (.terminal a kind payload)).map List.length =
        [8, 1, 3, 4, payload.length] := by
      simp [ProcessFrameBody.fields]
    have hlen : (ProcessFrameBody.fields (UInt32.ofNat payload.length) (.terminal a kind payload)).flatten.length =
        16 + payload.length := by
      rw [List.length_flatten, hl]
      simp
      omega
    have hdrop : (ProcessFrameBody.fields (UInt32.ofNat payload.length) (.terminal a kind payload)).flatten.drop 16 =
        payload :=
      drop_last_field (l := [encU64 a, [kind.code], [0, 0, 0], encU32 (UInt32.ofNat payload.length)]) (by simp)
    have hreserved : ((ProcessFrameBody.fields (UInt32.ofNat payload.length)
        (.terminal a kind payload)).flatten.drop 9).take 3 = [0, 0, 0] := slice_field (k := 2) hl rfl rfl rfl
    obtain ⟨before, rest, hsplit, hbefore⟩ := field_at (k := 3) hl rfl rfl
    have hlength : (ProcessFrameBody.fields (UInt32.ofNat payload.length)
        (.terminal a kind payload)).flatten.drop 12 = encU32 (UInt32.ofNat payload.length) ++ rest := by
      rw [hsplit]
      exact List.drop_left' hbefore
    rw [ProcessFrameBody.payloadLength] at hpayload ⊢
    refine ok_check (by omega) <| ok_check (not_not.2 hreserved) <|
      ok_bind (unpackFrom_of_reads (reads_u64 a) rfl) <| ok_bind (byteAt_ok (byte_field (k := 1) hl rfl rfl)) <|
      ok_bind (terminalKind_enum kind) <| ok_bind (unpackFrom_of_reads (reads_u32 _) hlength) <|
      ok_check (by rw [hpayload]; omega) ?_
    rw [hdrop]
    rfl
  case stopAccepting => rfl
  case drained => rfl
  case stop v => exact ok_bind rfl (ok_bind rfl (ok_bind (stopReason_enum v) rfl))
  case stopped v => exact ok_bind rfl (ok_bind rfl (ok_bind (stoppedOutcome_enum v) rfl))

/-! ## Identities and frames -/

def pyIdentityFields (i : ProcessSessionIdentity) : IdentityFields where
  runtimeHostId := i.runtimeHost.asBytes
  runtimeHostEpoch := i.runtimeHostEpoch.toNat
  processDomainId := i.processDomain.asBytes
  processDomainEpoch := i.processDomainEpoch.toNat
  instanceId := i.instanceRef.asBytes
  instanceGeneration := i.instanceGeneration.toNat
  sourcePlanRevision := i.sourceRevision.toNat
  targetSliceDigest := i.targetSliceDigest.asBytes

theorem IdentityFields.postInit_ok (f : IdentityFields) :
    f.postInit = .ok () ↔
      (f.runtimeHostId.length = 16 ∧ Nonzero f.runtimeHostId) ∧ (f.processDomainId.length = 16 ∧ Nonzero f.processDomainId)
        ∧ (f.instanceId.length = 16 ∧ Nonzero f.instanceId)
        ∧ (f.targetSliceDigest.length = 32 ∧ Nonzero f.targetSliceDigest)
        ∧ ∀ v ∈ [f.runtimeHostEpoch, f.processDomainEpoch, f.instanceGeneration, f.sourcePlanRevision],
            (0 ≤ v ∧ v < 2 ^ 64) ∧ v ≠ 0 := by
  simp only [IdentityFields.postInit, bind_ok, fixedBytes_ok, uint_ok, rejectIf_ok, forEach_ok, exists_and_left,
    exists_and_right, exists_eq', true_and, and_assoc, exists_eq_left', ne_eq]

theorem pyIdentityFields_postInit (i : ProcessSessionIdentity) : (pyIdentityFields i).postInit = .ok () := by
  rw [IdentityFields.postInit_ok]
  refine ⟨⟨i.runtimeHost.asBytes_length, i.named.1⟩, ⟨i.processDomain.asBytes_length, i.named.2.1⟩,
    ⟨i.instanceRef.asBytes_length, i.named.2.2⟩, ⟨i.targetSliceDigest.asBytes_length, i.sliced⟩, ?_⟩
  simp only [List.forall_mem_cons, List.not_mem_nil, false_imp_iff, implies_true, and_true, pyIdentityFields]
  exact ⟨⟨u64_bounds _, (u64_toNat_ne_zero _).2 i.live.1⟩, ⟨u64_bounds _, (u64_toNat_ne_zero _).2 i.live.2.1⟩,
    ⟨u64_bounds _, (u64_toNat_ne_zero _).2 i.live.2.2⟩, ⟨u64_bounds _, (u64_toNat_ne_zero _).2 i.revised⟩⟩

def pyIdentity (i : ProcessSessionIdentity) : SessionIdentity := ⟨pyIdentityFields i, pyIdentityFields_postInit i⟩

theorem exists_identity (s : SessionIdentity) : ∃ i, pyIdentity i = s := by
  obtain ⟨⟨host, hostEpoch, domain, domainEpoch, inst, generation, revision, slice⟩, hs⟩ := s
  obtain ⟨⟨hhost, hhost'⟩, ⟨hdomain, hdomain'⟩, ⟨hinst, hinst'⟩, ⟨hslice, hslice'⟩, hall⟩ :=
    (IdentityFields.postInit_ok _).1 hs
  simp only [List.forall_mem_cons, List.not_mem_nil, false_imp_iff, implies_true, and_true] at hall
  obtain ⟨⟨h1, h1'⟩, ⟨h2, h2'⟩, ⟨h3, h3'⟩, ⟨h4, h4'⟩⟩ := hall
  obtain ⟨host, rfl⟩ := exists_ref16 hhost
  obtain ⟨domain, rfl⟩ := exists_ref16 hdomain
  obtain ⟨inst, rfl⟩ := exists_ref16 hinst
  obtain ⟨slice, rfl⟩ := exists_digest32 hslice
  obtain ⟨hostEpoch, rfl⟩ := exists_u64 h1
  obtain ⟨domainEpoch, rfl⟩ := exists_u64 h2
  obtain ⟨generation, rfl⟩ := exists_u64 h3
  obtain ⟨revision, rfl⟩ := exists_u64 h4
  rw [u64_toNat_ne_zero] at h1' h2' h3' h4'
  exact ⟨⟨host, hostEpoch, domain, domainEpoch, inst, generation, revision, slice, ⟨h1', h2', h3'⟩, h4',
    ⟨hhost', hdomain', hinst'⟩, hslice'⟩, rfl⟩

/-- The two frames hold the same identity, sequence, direction, state, invocation and body. -/
structure Agree (f : ProcessFrame) (g : Frame) : Prop where
  identity : g.val.identity.val = pyIdentityFields f.identity
  sequence : g.val.sequence = f.sequence.toNat
  direction : g.val.direction = f.direction
  state : g.val.state = f.state
  invocationId : g.val.invocationId = f.invocationId.toNat
  body : g.val.body = pyBody f.body

def pyFields (f : ProcessFrame) : FrameFields where
  identity := pyIdentity f.identity
  sequence := f.sequence.toNat
  direction := f.direction
  state := f.state
  invocationId := f.invocationId.toNat
  body := pyBody f.body

theorem agree_iff (f : ProcessFrame) (g : Frame) : Agree f g ↔ g.val = pyFields f := by
  obtain ⟨⟨⟨identity, hidentity⟩, sequence, direction, state, invocationId, body⟩, hg⟩ := g
  constructor
  · rintro ⟨h1, h2, h3, h4, h5, h6⟩
    simp only at h1 h2 h3 h4 h5 h6
    subst h1 h2 h3 h4 h5 h6
    rfl
  · intro h
    cases h
    exact ⟨rfl, rfl, rfl, rfl, rfl, rfl⟩

theorem direction_pyBody (b : ProcessFrameBody) :
    (if bodyKind (pyBody b) ∈ hostKinds then ProcessFrameDirection.hostToWorker else .workerToHost) =
      b.requiredDirection := by
  cases b <;> rfl

theorem validStates_pyBody (b : ProcessFrameBody) (state : WorkerState) :
    state ∈ validStates (bodyKind (pyBody b)) ↔ b.stateIsValid state = true := by
  cases b <;> simp [pyBody, bodyKind, validStates, ProcessFrameBody.stateIsValid]

theorem invocationKinds_pyBody (b : ProcessFrameBody) :
    decide (bodyKind (pyBody b) ∈ invocationKinds) = b.invocationScoped := by
  cases b <;> rfl

/-- **The worker's dataclass accepts the fields of a frame exactly when `try_new` does.** -/
theorem postInit_pyFields (f : ProcessFrame) :
    (pyFields f).postInit = .ok () ↔ Accepted f.sequence f.direction f.state f.invocationId f.body := by
  have hencode : (∃ w, encodeBody (pyBody f.body) = .ok w) ↔ f.body.validate = .ok () := by
    simp only [encodeBody_pyBody, ProcessFrameBody.encode_ok, exists_and_left, exists_eq', and_true]
  have hscope : decide ((f.invocationId.toNat : Int) ≠ 0) = decide (f.invocationId ≠ 0) :=
    decide_eq_decide.2 (u64_toNat_ne_zero f.invocationId)
  simp only [FrameFields.postInit, bind_ok, rejectIf_ok, exists_unit, not_not, ne_eq, pure_ok, and_true]
  constructor
  · rintro ⟨n, hn, hsequence, _, _, hdirection, hstate, hscoped, hbody⟩
    rw [((uint_ok _ _ _).1 hn).2.symm] at hsequence
    exact ⟨(u64_toNat_ne_zero _).1 hsequence, hdirection.trans (direction_pyBody f.body),
      (validStates_pyBody f.body f.state).1 hstate,
      (invocationKinds_pyBody f.body).symm.trans (hscoped.trans hscope), hencode.1 hbody⟩
  · intro h
    exact ⟨_, uint_u64 f.sequence, (u64_toNat_ne_zero _).2 h.sequenced, _, uint_u64 f.invocationId,
      h.direction.trans (direction_pyBody f.body).symm, (validStates_pyBody f.body f.state).2 h.state,
      (invocationKinds_pyBody f.body).trans (h.scope.trans hscope.symm), hencode.2 h.valid⟩

theorem encode_pyFields (hf : f.Built sha256) (hg : g.val = pyFields f) :
    Frame.encode g = .ok f.canonicalWire := by
  obtain ⟨ha, hfields⟩ := (ProcessFrame.tryNew_ok ..).1 hf
  have hwire : f.canonicalWire = (frameFields f.identity f.sequence f.direction f.state f.invocationId f.body.kind
      f.body.wire).flatten := by
    rw [hfields]
    rfl
  have hbody : encodeBody (pyBody f.body) = .ok f.body.wire :=
    (encodeBody_pyBody _ _).2 ((ProcessFrameBody.encode_ok _ _).2 ⟨ha.valid, rfl⟩)
  have hroom : processWorkerHeaderBytes + f.body.wire.length ≤ maxProcessWorkerFrameBytes :=
    Nat.add_le_add_left (ProcessFrameBody.wire_length_le ha.valid) processWorkerHeaderBytes
  have hmax : maxProcessWorkerFrameBytes < 2 ^ 32 := by decide
  have htotal : packUint 4 ((headerBytes + f.body.wire.length : Nat) : Int) =
      .ok (encU32 (UInt32.ofNat (processWorkerHeaderBytes + f.body.wire.length))) := by
    rw [encU32, toNat_ofNat_of_lt (by omega)]
    exact packUint_natCast (lt_of_le_of_lt hroom hmax)
  have hlength : packUint 4 (f.body.wire.length : Int) = .ok (encU32 (UInt32.ofNat f.body.wire.length)) := by
    rw [encU32, toNat_ofNat_of_lt (by omega)]
    exact packUint_natCast (by omega)
  unfold Frame.encode
  rw [hg, hwire]
  refine ok_bind hbody <| ok_check (not_lt.2 hroom) <| ok_bind (packUint_natCast (n := 1) (by decide)) <|
    ok_bind (packUint_natCast (n := headerBytes) (by decide)) <| ok_bind htotal <|
    ok_bind (frameKind_int _) <| ok_bind (packUint_byte _) <| ok_bind (direction_int _) <| ok_bind (packUint_byte _) <|
    ok_bind (workerState_int _) <| ok_bind (packUint_byte _) <| ok_bind (packUint_byte 0) ?_
  iterate 6 refine ok_bind (packUint_u64 _) ?_
  refine ok_bind hlength ?_
  simp only [pyFields, pyIdentity, pyIdentityFields, packBytes_of_length (Ref16.asBytes_length _),
    packBytes_of_length (Digest32.asBytes_length _), bodyKind_pyBody]
  have hmagic : packBytes 4 magic = processWorkerProtocolMagic := rfl
  have hversion : bytesBE 2 1 = encU16 processWorkerProtocolVersion := rfl
  have hheader : bytesBE 2 headerBytes = encU16 (UInt16.ofNat processWorkerHeaderBytes) := rfl
  simp only [hmagic, hversion, hheader, pure_ok, frameFields, reservedFlags, List.flatten_cons, List.flatten_nil,
    List.append_assoc, List.append_nil]

def pyHeader (f : ProcessFrame) : Header where
  magic := magic
  version := version
  headerLength := headerBytes
  totalLength := (headerBytes + f.body.wire.length : Nat)
  kind := f.body.kind.code.toNat
  direction := f.direction.code.toNat
  state := f.state.code.toNat
  flags := 0
  sequence := f.sequence.toNat
  runtimeHostId := f.identity.runtimeHost.asBytes
  runtimeHostEpoch := f.identity.runtimeHostEpoch.toNat
  processDomainId := f.identity.processDomain.asBytes
  processDomainEpoch := f.identity.processDomainEpoch.toNat
  instanceId := f.identity.instanceRef.asBytes
  instanceGeneration := f.identity.instanceGeneration.toNat
  invocationId := f.invocationId.toNat
  sourcePlanRevision := f.identity.sourceRevision.toNat
  targetSliceDigest := f.identity.targetSliceDigest.asBytes
  bodyLength := f.body.wire.length

theorem reads_u32_length (h : n < 2 ^ 32) : Reads (Format.uint 4) (encU32 (UInt32.ofNat n)) (n : Int) := by
  have hread := reads_u32 (UInt32.ofNat n)
  rwa [toNat_ofNat_of_lt h] at hread

theorem reads_headerFormat (f : ProcessFrame)
    (hroom : processWorkerHeaderBytes + f.body.wire.length ≤ maxProcessWorkerFrameBytes) :
    Reads headerFormat ((frameFields f.identity f.sequence f.direction f.state f.invocationId f.body.kind
      f.body.wire).take 19).flatten (pyHeader f) := by
  have hmax : maxProcessWorkerFrameBytes < 2 ^ 32 := by decide
  exact reads_field (reads_bytes (v := magic) rfl) <| reads_field (reads_uint (n := 1) (by decide)) <|
    reads_field (reads_uint (n := headerBytes) (by decide)) <| reads_field (reads_u32_length (lt_of_le_of_lt hroom hmax)) <|
    reads_field (reads_byte _) <| reads_field (reads_byte _) <| reads_field (reads_byte _) <|
    reads_field (reads_byte 0) <| reads_field (reads_u64 _) <|
    reads_field (reads_bytes (Ref16.asBytes_length _)) <| reads_field (reads_u64 _) <|
    reads_field (reads_bytes (Ref16.asBytes_length _)) <| reads_field (reads_u64 _) <|
    reads_field (reads_bytes (Ref16.asBytes_length _)) <| reads_field (reads_u64 _) <| reads_field (reads_u64 _) <|
    reads_field (reads_u64 _) <| reads_field (reads_bytes (Digest32.asBytes_length _)) <|
    reads_field (reads_u32_length (by omega)) <| reads_done _

theorem construct_ok {α : Type} {postInit : α → Py Unit} {fields : α} (h : postInit fields = .ok ()) :
    construct postInit fields = .ok ⟨fields, h⟩ := by
  unfold construct
  split
  · rename_i e he
    rw [h] at he
    cases he
  · rfl

theorem decode_pyFields (hf : f.Built sha256) (hg : g.val = pyFields f) :
    Frame.decode f.canonicalWire = .ok g := by
  obtain ⟨ha, hfields⟩ := (ProcessFrame.tryNew_ok ..).1 hf
  have hwire : f.canonicalWire = (frameFields f.identity f.sequence f.direction f.state f.invocationId f.body.kind
      f.body.wire).flatten := by
    rw [hfields]
    rfl
  have hroom : processWorkerHeaderBytes + f.body.wire.length ≤ maxProcessWorkerFrameBytes :=
    Nat.add_le_add_left (ProcessFrameBody.wire_length_le ha.valid) processWorkerHeaderBytes
  have hlen : f.canonicalWire.length = headerBytes + f.body.wire.length := by
    rw [hwire]
    exact frameFields_length ..
  have hdrop : f.canonicalWire.drop headerBytes = f.body.wire := by
    rw [hwire]
    exact frameFields_body ..
  have hheader : unpackFrom headerFormat f.canonicalWire 0 = .ok (pyHeader f) := by
    refine unpackFrom_of_reads (reads_headerFormat f hroom) (r := f.body.wire) ?_
    rw [hwire, List.drop_zero]
    exact frameFields_flatten ..
  have hbody := decodeBody_pyBody f.body ha.valid
  unfold Frame.decode
  refine ok_check (by rw [hlen]; exact not_lt.2 hroom) <| ok_check (by omega) <|
    ok_bind hheader <| ok_check (not_not.2 rfl) <| ok_check (not_not.2 rfl) <|
    ok_check (not_not.2 rfl) <| ok_check (by rw [hlen]; exact not_not.2 rfl) <|
    ok_bind (frameKind_enum _) <| ok_bind (direction_enum _) <| ok_bind (workerState_enum _) <|
    ok_check (not_not.2 rfl) <|
    ok_check (by rw [hlen]; exact not_not.2 (Int.natCast_add _ _).symm) <|
    ok_bind (construct_ok (pyIdentityFields_postInit f.identity)) <| ok_bind (by rw [hdrop]; exact hbody) <|
    ok_bind (construct_ok (postInit_pyFields f |>.2 ha)) <|
    ok_check (not_not.2 (bodyKind_pyBody _)) <| ok_bind (encode_pyFields hf rfl) <|
    ok_check (not_not.2 rfl) ?_
  exact congrArg Except.ok (Subtype.ext hg.symm)

theorem exists_frame (sha256 : Sha256) (g : Frame) : ∃ f, f.Built sha256 ∧ g.val = pyFields f := by
  obtain ⟨⟨identity, sequence, direction, state, invocationId, body⟩, hg⟩ := g
  have hparts := hg
  simp only [FrameFields.postInit, bind_ok, exists_unit, uint_ok] at hparts
  obtain ⟨_, ⟨hsequence, _⟩, _, _, ⟨hinvocation, _⟩, _, _, _, _, hbody, _⟩ := hparts
  obtain ⟨identity, rfl⟩ := exists_identity identity
  obtain ⟨sequence, rfl⟩ := exists_u64 hsequence
  obtain ⟨invocationId, rfl⟩ := exists_u64 hinvocation
  obtain ⟨body, rfl⟩ := exists_body hbody
  have ha := (postInit_pyFields ⟨identity, sequence, direction, state, invocationId, body, [], 0⟩).1 hg
  have hnew := (ProcessFrame.tryNew_ok sha256 identity sequence direction state invocationId body _).2 ⟨ha, rfl⟩
  exact ⟨_, ProcessFrame.built_of_tryNew hnew, rfl⟩

theorem decode_encode {bytes : Bytes} (h : Frame.decode bytes = .ok g) : Frame.encode g = .ok bytes := by
  revert g h
  change Returns (Frame.decode bytes) _
  unfold Frame.decode
  iterate 14 refine returns_bind fun _ _ => ?_
  refine returns_bind fun frame _ => returns_bind fun _ _ => returns_bind fun canonical hencode =>
    returns_bind fun _ hcanonical => ?_
  intro g hg
  rw [rejectIf_ok, not_not] at hcanonical
  rw [← pure_ok.1 hg, hencode, hcanonical]

theorem frameDigest_eq (sha256 : Sha256) {wire : Bytes} (h : wire.length < 2 ^ 64) :
    frameDigest sha256 wire = .ok (sha256 (digestInput processFrameDigestDomain [wire])).asBytes := by
  refine ok_bind (packUint_natCast (n := 1) (by decide)) <|
    ok_bind (packUint_natCast (n := digestDomain.length) (by decide)) <|
    ok_bind (packUint_natCast (n := 1) (by decide)) <| ok_bind (packUint_natCast (n := wire.length) h) <|
    ok_bind (packUint_natCast (n := 1) (by decide)) ?_
  rw [pure_ok]
  congr 2
  simp only [digestInput, Digest32Builder.preamble, Digest32Builder.frames, Digest32Builder.frame, List.flatten_cons,
    List.flatten_nil, List.cons_append, List.nil_append, List.append_nil, List.append_assoc, List.length_singleton]
  rfl

theorem frameDigest_wire (hf : f.Built sha256) :
    frameDigest sha256 f.canonicalWire = .ok f.digest.asBytes := by
  obtain ⟨ha, hfields⟩ := (ProcessFrame.tryNew_ok ..).1 hf
  have hlen : f.canonicalWire.length = processWorkerHeaderBytes + f.body.wire.length := by
    rw [hfields]
    exact frameFields_length ..
  have hbody := ProcessFrameBody.wire_length_le ha.valid
  have hmax : processWorkerHeaderBytes + (24 + maxProcessWorkerPayloadBytes) < 2 ^ 64 := by decide
  have hdigest : f.digest = sha256 (digestInput processFrameDigestDomain [f.canonicalWire]) := by rw [hfields]
  rw [frameDigest_eq sha256 (by omega), hdigest]

/-- **Both decoders accept a byte string with the same contents, or both reject it.** -/
theorem decode_agree (sha256 : Sha256) (bytes : Bytes) :
    (∃ f g, ProcessFrame.decode sha256 bytes = .ok f ∧ Frame.decode bytes = .ok g ∧ Agree f g) ∨
      (∃ e e', ProcessFrame.decode sha256 bytes = .error e ∧ Frame.decode bytes = .error e') := by
  cases hrust : ProcessFrame.decode sha256 bytes with
  | ok f =>
    obtain ⟨hbuilt, hwire⟩ := ProcessFrame.decode_ok hrust
    have ha := ((ProcessFrame.tryNew_ok ..).1 hbuilt).1
    have hdecode : Frame.decode bytes = .ok ⟨pyFields f, (postInit_pyFields f).2 ha⟩ := by
      rw [← hwire]
      exact decode_pyFields hbuilt rfl
    exact .inl ⟨f, _, rfl, hdecode, (agree_iff f _).2 rfl⟩
  | error e =>
    cases hpython : Frame.decode bytes with
    | error e' => exact .inr ⟨e, e', rfl, rfl⟩
    | ok g =>
      -- What the worker accepts is the wire of a frame the host builds, and the host reads that back.
      obtain ⟨f, hbuilt, hg⟩ := exists_frame sha256 g
      have hsame : f.canonicalWire = bytes :=
        Except.ok.inj ((encode_pyFields hbuilt hg).symm.trans (decode_encode hpython))
      have haccepted := hbuilt.decode
      rw [hsame, hrust] at haccepted
      cases haccepted

/-- **Rust and Python speak one format.**  On every byte string both decoders accept with equal contents or both reject;
on a frame both sides can hold the encoders give the same bytes and digest; and in each language decoding inverts encoding
and encoding inverts decoding. -/
theorem pxwp_formats_agree (sha256 : Sha256) :
    (∀ bytes, (∃ f g, ProcessFrame.decode sha256 bytes = .ok f ∧ Frame.decode bytes = .ok g ∧ Agree f g) ∨
      (∃ e e', ProcessFrame.decode sha256 bytes = .error e ∧ Frame.decode bytes = .error e')) ∧
    (∀ f g, f.Built sha256 → Agree f g →
      Frame.encode g = .ok f.canonicalWire ∧ frameDigest sha256 f.canonicalWire = .ok f.digest.asBytes) ∧
    (∀ f, f.Built sha256 → ProcessFrame.decode sha256 f.canonicalWire = .ok f) ∧
    (∀ bytes f, ProcessFrame.decode sha256 bytes = .ok f → f.Built sha256 ∧ f.canonicalWire = bytes) ∧
    (∀ g, ∃ bytes, Frame.encode g = .ok bytes ∧ Frame.decode bytes = .ok g) ∧
    (∀ bytes g, Frame.decode bytes = .ok g → Frame.encode g = .ok bytes) := by
  refine ⟨decode_agree sha256, ?_, fun f hf => hf.decode, fun bytes f h => ProcessFrame.decode_ok h, ?_,
    fun bytes g h => decode_encode h⟩
  · intro f g hf hagree
    exact ⟨encode_pyFields hf ((agree_iff f g).1 hagree), frameDigest_wire hf⟩
  · intro g
    obtain ⟨f, hf, hg⟩ := exists_frame sha256 g
    exact ⟨f.canonicalWire, encode_pyFields hf hg, decode_pyFields hf hg⟩

theorem fixtureRevision_ne : (5 : UInt64) ≠ 0 := by decide

def fixtureIdentity : ProcessSessionIdentity where
  runtimeHost := Ref16.fromBytes ⟨List.replicate 16 0x11, rfl⟩
  runtimeHostEpoch := 7
  processDomain := Ref16.fromBytes ⟨List.replicate 16 0x22, rfl⟩
  processDomainEpoch := 9
  instanceRef := Ref16.fromBytes ⟨List.replicate 16 0x33, rfl⟩
  instanceGeneration := 3
  sourceRevision := 5
  targetSliceDigest := Digest32.fromBytes ⟨List.replicate 32 0x44, rfl⟩
  live := by decide
  revised := fixtureRevision_ne
  named := by
    rw [Ref16.asBytes_fromBytes, Ref16.asBytes_fromBytes, Ref16.asBytes_fromBytes]
    decide
  sliced := by
    rw [Digest32.asBytes_fromBytes]
    decide

/-- A Terminal frame with a payload, built by the host, is read by the worker with the same contents. -/
theorem pxwp_formats_agree_terminal : ∃ f,
    ProcessFrame.tryNew (fun _ => 0) fixtureIdentity 4 .workerToHost .draining 41
      (.terminal 11 .completed [1, 2, 3]) = .ok f ∧ f.canonicalWire.length = 148 + 16 + 3 ∧
      ∃ g, Frame.decode f.canonicalWire = .ok g ∧ Agree f g := by
  have hnew := (ProcessFrame.tryNew_ok (fun _ => 0) fixtureIdentity 4 .workerToHost .draining 41
    (.terminal 11 .completed [1, 2, 3]) _).2 ⟨⟨by decide, rfl, rfl, rfl, rfl⟩, rfl⟩
  refine ⟨_, hnew, frameFields_length .., ?_⟩
  obtain ⟨hdecode, _, hround, _⟩ := pxwp_formats_agree fun _ => 0
  have hbuilt := hround _ (ProcessFrame.built_of_tryNew hnew)
  obtain ⟨f, g, hf, hg, hagree⟩ | ⟨e, e', he, _⟩ := hdecode _
  · rw [hbuilt] at hf
    exact ⟨g, hg, Except.ok.inj hf ▸ hagree⟩
  · rw [hbuilt] at he
    cases he

end Worker
end ParaEgox
