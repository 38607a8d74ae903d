import ParaEgox.ProcessFrame
import ParaEgox.Wire

/-!
# ProcessCodec — the host's decoder inverts its encoder

A frame the host builds is read back field by field at the offsets of its header; a frame it accepts has been rebuilt and
compared, so it is the canonical wire of what was read.
-/
namespace ParaEgox
namespace Process

open Check Wire

/-! ## Reads at an offset -/

@[simp] theorem encU16_length (v : UInt16) : (encU16 v).length = 2 := bytesBE_length 2 v.toNat
@[simp] theorem encU32_length (v : UInt32) : (encU32 v).length = 4 := bytesBE_length 4 v.toNat
@[simp] theorem encU64_length (v : UInt64) : (encU64 v).length = 8 := bytesBE_length 8 v.toNat

theorem ofNat_encU16 (v : UInt16) : UInt16.ofNat (fromBE (encU16 v)) = v := by
  rw [encU16, fromBE_bytesBE v.toNat_lt, UInt16.ofNat_toNat]

theorem ofNat_encU32 (v : UInt32) : UInt32.ofNat (fromBE (encU32 v)) = v := by
  rw [encU32, fromBE_bytesBE v.toNat_lt, UInt32.ofNat_toNat]

theorem ofNat_encU64 (v : UInt64) : UInt64.ofNat (fromBE (encU64 v)) = v := by
  rw [encU64, fromBE_bytesBE v.toNat_lt, UInt64.ofNat_toNat]

section Fields

variable {fields : List Bytes} {lengths : List Nat} {k offset : Nat}

theorem readArray_field {n : Nat} {x : Bytes} (hl : fields.map List.length = lengths) (hx : fields[k]? = some x)
    (ho : (lengths.take k).sum = offset) (hn : x.length = n) : readArray n fields.flatten offset = .ok ⟨x, hn⟩ := by
  have hfit : offset + n ≤ fields.flatten.length := by
    obtain ⟨before, rest, hsplit, rfl⟩ := field_at hl hx ho
    rw [hsplit, List.length_append, List.length_append, hn]
    omega
  unfold readArray
  rw [dif_pos hfit]
  congr 2
  exact slice_field hl hx ho hn

theorem readU16_field {v : UInt16} (hl : fields.map List.length = lengths) (hx : fields[k]? = some (encU16 v))
    (ho : (lengths.take k).sum = offset) : readU16 fields.flatten offset = .ok v :=
  ok_bind (readArray_field hl hx ho (encU16_length v)) (pure_ok.2 (ofNat_encU16 v))

theorem readU32_field {v : UInt32} (hl : fields.map List.length = lengths) (hx : fields[k]? = some (encU32 v))
    (ho : (lengths.take k).sum = offset) : readU32 fields.flatten offset = .ok v :=
  ok_bind (readArray_field hl hx ho (encU32_length v)) (pure_ok.2 (ofNat_encU32 v))

theorem readU64_field {v : UInt64} (hl : fields.map List.length = lengths) (hx : fields[k]? = some (encU64 v))
    (ho : (lengths.take k).sum = offset) : readU64 fields.flatten offset = .ok v :=
  ok_bind (readArray_field hl hx ho (encU64_length v)) (pure_ok.2 (ofNat_encU64 v))

theorem readRef16_field {v : Ref16} (hl : fields.map List.length = lengths) (hx : fields[k]? = some v.asBytes)
    (ho : (lengths.take k).sum = offset) : readRef16 fields.flatten offset = .ok v :=
  ok_bind (readArray_field hl hx ho v.asBytes_length) (pure_ok.2 v.fromBytes_asBytes)

theorem readDigest32_field {v : Digest32} (hl : fields.map List.length = lengths) (hx : fields[k]? = some v.asBytes)
    (ho : (lengths.take k).sum = offset) : readDigest32 fields.flatten offset = .ok v :=
  ok_bind (readArray_field hl hx ho v.asBytes_length) (pure_ok.2 v.fromBytes_asBytes)

theorem byteAt_field {b : UInt8} (hl : fields.map List.length = lengths) (hx : fields[k]? = some [b])
    (ho : (lengths.take k).sum = offset) : byteAt fields.flatten offset = .ok b :=
  okOr_ok.2 (byte_field hl hx ho)

end Fields

/-! ## Discriminants -/

theorem ConstructOutcome.tryFrom_code (v : ConstructOutcome) : tryFrom v.code = .ok v := by cases v <;> rfl
theorem InvocationTerminalKind.tryFrom_code (v : InvocationTerminalKind) : tryFrom v.code = .ok v := by cases v <;> rfl
theorem StopReason.tryFrom_code (v : StopReason) : tryFrom v.code = .ok v := by cases v <;> rfl
theorem StoppedOutcome.tryFrom_code (v : StoppedOutcome) : tryFrom v.code = .ok v := by cases v <;> rfl
theorem ProcessFrameDirection.tryFrom_code (v : ProcessFrameDirection) : tryFrom v.code = .ok v := by cases v <;> rfl
theorem ProcessWorkerState.tryFrom_code (v : ProcessWorkerState) : tryFrom v.code = .ok v := by cases v <;> rfl
theorem ProcessFrameKind.tryFrom_code (v : ProcessFrameKind) : tryFrom v.code = .ok v := by cases v <;> rfl

/-! ## Bodies -/

variable {n : Nat} {body : ProcessFrameBody} {sha256 : Sha256} {f : ProcessFrame}

theorem lengthU32_of_lt (h : n < 2 ^ 32) : lengthU32 n = .ok (UInt32.ofNat n) :=
  ok_check (not_le.2 h) rfl

theorem toNat_ofNat_of_lt (h : n < 2 ^ 32) : (UInt32.ofNat n).toNat = n := by
  rw [UInt32.toNat_ofNat', Nat.mod_eq_of_lt h]

def ProcessFrameBody.fields (length : UInt32) : ProcessFrameBody → List Bytes
  | .start maxInflight maxRetainedBytes maxPayloadBytes heartbeatIntervalNanos heartbeatTimeoutNanos =>
    [encU32 maxInflight, encU64 maxRetainedBytes, encU32 maxPayloadBytes, encU64 heartbeatIntervalNanos,
      encU64 heartbeatTimeoutNanos]
  | .ready workerRuntimeDigest => [workerRuntimeDigest.asBytes]
  | .construct artifactDigest configDigest entrypointRef =>
    [artifactDigest.asBytes, configDigest.asBytes, entrypointRef.asBytes]
  | .constructed outcome => [[outcome.code]]
  | .invoke creditId responseReservationBytes remainingBudgetNanos payload =>
    [encU64 creditId, encU32 length, encU32 responseReservationBytes, encU64 remainingBudgetNanos, payload]
  | .invoked creditId => [encU64 creditId]
  | .heartbeat heartbeatSequence activeInvocations retainedBytes =>
    [encU64 heartbeatSequence, encU32 activeInvocations, encU64 retainedBytes]
  | .cancel creditId graceRemainingNanos => [encU64 creditId, encU64 graceRemainingNanos]
  | .terminal creditId kind payload => [encU64 creditId, [kind.code], [0, 0, 0], encU32 length, payload]
  | .stopAccepting | .drained => []
  | .stop reason => [[reason.code]]
  | .stopped outcome => [[outcome.code]]
  | .ping nonce | .pong nonce => [encU64 nonce]

def ProcessFrameBody.payloadLength : ProcessFrameBody → Nat
  | .invoke _ _ _ payload => payload.length
  | .terminal _ _ payload => payload.length
  | _ => 0

theorem ProcessFrameBody.payloadLength_le (h : body.validate = .ok ()) :
    body.payloadLength ≤ maxProcessWorkerPayloadBytes := by
  cases body
  case invoke creditId reservation budget payload =>
    simp only [validate, rejectIf_ok, not_or, not_lt] at h
    exact h.2.2
  case terminal creditId kind payload =>
    simp only [validate, bind_ok, rejectIf_ok, exists_unit, not_lt] at h
    exact h.2
  all_goals exact Nat.zero_le _

theorem ProcessFrameBody.payloadLength_lt (h : body.validate = .ok ()) :
    body.payloadLength < 2 ^ 32 :=
  lt_of_le_of_lt (payloadLength_le h) (by decide)

theorem ProcessFrameBody.encode_ok (body : ProcessFrameBody) (wire : Bytes) :
    body.encode = .ok wire ↔
      body.validate = .ok () ∧ (body.fields (UInt32.ofNat body.payloadLength)).flatten = wire := by
  unfold encode
  rw [bind_ok, exists_unit]
  refine and_congr_right fun hvalid => ?_
  have hlength := lengthU32_of_lt (payloadLength_lt hvalid)
  cases body
  case invoke creditId reservation budget payload =>
    rw [payloadLength] at hlength
    simp only [hlength, bind_ok, Except.ok.injEq, exists_eq_left', pure_ok, fields, payloadLength]
  case terminal creditId kind payload =>
    rw [payloadLength] at hlength
    simp only [hlength, bind_ok, Except.ok.injEq, exists_eq_left', pure_ok, fields, payloadLength]
  all_goals simp [fields]

theorem ok_width {ε β : Type} {fields : List Bytes} {widths : List Nat} {e : ε} {k : Unit → Except ε β} {b : β}
    (hl : fields.map List.length = widths) (hn : widths.sum = n) (hk : k () = .ok b) :
    (rejectIf (fields.flatten.length ≠ n) e >>= k) = .ok b :=
  ok_check (not_not.2 (by rw [List.length_flatten, hl, hn])) hk

theorem decodeBody_fields (body : ProcessFrameBody) (length : UInt32) (h : length.toNat = body.payloadLength) :
    decodeBody body.kind (body.fields length).flatten = .ok body := by
  cases body
  case start a b c d e =>
    have hl : [encU32 a, encU64 b, encU32 c, encU64 d, encU64 e].map List.length = [4, 8, 4, 8, 8] := by simp
    refine ok_width hl rfl ?_
    exact ok_bind (readU32_field (k := 0) hl rfl rfl) <| ok_bind (readU64_field (k := 1) hl rfl rfl) <|
      ok_bind (readU32_field (k := 2) hl rfl rfl) <| ok_bind (readU64_field (k := 3) hl rfl rfl) <|
      ok_bind (readU64_field (k := 4) hl rfl rfl) rfl
  case ready a =>
    have hl : [a.asBytes].map List.length = [32] := by simp
    refine ok_width hl rfl ?_
    exact ok_bind (readDigest32_field (k := 0) hl rfl rfl) rfl
  case construct a b c =>
    have hl : [a.asBytes, b.asBytes, c.asBytes].map List.length = [32, 32, 16] := by simp
    refine ok_width hl rfl ?_
    exact ok_bind (readDigest32_field (k := 0) hl rfl rfl) <| ok_bind (readDigest32_field (k := 1) hl rfl rfl) <|
      ok_bind (readRef16_field (k := 2) hl rfl rfl) rfl
  case invoke a b c payload =>
    have hl : (ProcessFrameBody.fields length (.invoke a b c payload)).map List.length
        = [8, 4, 4, 8, payload.length] := by
      simp [ProcessFrameBody.fields]
    have hlen : (ProcessFrameBody.fields length (.invoke a b c payload)).flatten.length = 24 + payload.length := by
      rw [List.length_flatten, hl]
      simp
      omega
    have hdrop : (ProcessFrameBody.fields length (.invoke a b c payload)).flatten.drop 24 = payload :=
      drop_last_field (l := [encU64 a, encU32 length, encU32 b, encU64 c]) (by simp)
    rw [ProcessFrameBody.payloadLength] at h
    refine ok_check (by omega) <| ok_bind (readU32_field (k := 1) hl rfl rfl) <|
      ok_check (by omega) <| ok_bind (readU64_field (k := 0) hl rfl rfl) <|
      ok_bind (readU32_field (k := 2) hl rfl rfl) <| ok_bind (readU64_field (k := 3) hl rfl rfl) ?_
    rw [hdrop]
    rfl
  case heartbeat a b c =>
    have hl : [encU64 a, encU32 b, encU64 c].map List.length = [8, 4, 8] := by simp
    refine ok_width hl rfl ?_
    exact ok_bind (readU64_field (k := 0) hl rfl rfl) <| ok_bind (readU32_field (k := 1) hl rfl rfl) <|
      ok_bind (readU64_field (k := 2) hl rfl rfl) rfl
  case cancel a b =>
    have hl : [encU64 a, encU64 b].map List.length = [8, 8] := by simp
    refine ok_width hl rfl ?_
    exact ok_bind (readU64_field (k := 0) hl rfl rfl) <| ok_bind (readU64_field (k := 1) hl rfl rfl) rfl
  case terminal a kind payload =>
    have hl : (ProcessFrameBody.fields length (.terminal a kind payload)).map List.length
        = [8, 1, 3, 4, payload.length] := by
      simp [ProcessFrameBody.fields]
    have hlen : (ProcessFrameBody.fields length (.terminal a kind payload)).flatten.length = 16 + payload.length := by
      rw [List.length_flatten, hl]
      simp
      omega
    have hdrop : (ProcessFrameBody.fields length (.terminal a kind payload)).flatten.drop 16 = payload :=
      drop_last_field (l := [encU64 a, [kind.code], [0, 0, 0], encU32 length]) (by simp)
    have hreserved : ((ProcessFrameBody.fields length (.terminal a kind payload)).flatten.drop 9).take 3 = [0, 0, 0] :=
      slice_field (k := 2) hl rfl rfl rfl
    rw [ProcessFrameBody.payloadLength] at h
    refine ok_check (by omega) <| ok_check (not_not.2 hreserved) <|
      ok_bind (readU32_field (k := 3) hl rfl rfl) <| ok_check (by omega) <|
      ok_bind (readU64_field (k := 0) hl rfl rfl) <| ok_bind (byteAt_field (k := 1) hl rfl rfl) <|
      ok_bind (InvocationTerminalKind.tryFrom_code kind) ?_
    rw [hdrop]
    rfl
  case constructed v => exact ok_bind rfl (ok_bind rfl (ok_bind (ConstructOutcome.tryFrom_code v) rfl))
  case stop v => exact ok_bind rfl (ok_bind rfl (ok_bind (StopReason.tryFrom_code v) rfl))
  case stopped v => exact ok_bind rfl (ok_bind rfl (ok_bind (StoppedOutcome.tryFrom_code v) rfl))
  case stopAccepting => rfl
  case drained => rfl
  case invoked a | ping a | pong a =>
    have hl : [encU64 a].map List.length = [8] := by simp
    refine ok_width hl rfl ?_
    exact ok_bind (readU64_field (k := 0) hl rfl rfl) rfl

/-! ## Frames -/

def frameFields (identity : ProcessSessionIdentity) (sequence : UInt64) (direction : ProcessFrameDirection)
    (state : ProcessWorkerState) (invocationId : UInt64) (kind : ProcessFrameKind) (body : Bytes) : List Bytes :=
  [processWorkerProtocolMagic, encU16 processWorkerProtocolVersion, encU16 (UInt16.ofNat processWorkerHeaderBytes),
    encU32 (UInt32.ofNat (processWorkerHeaderBytes + body.length)), [kind.code], [direction.code], [state.code],
    [reservedFlags], encU64 sequence, identity.runtimeHost.asBytes, encU64 identity.runtimeHostEpoch,
    identity.processDomain.asBytes, encU64 identity.processDomainEpoch, identity.instanceRef.asBytes,
    encU64 identity.instanceGeneration, encU64 invocationId, encU64 identity.sourceRevision,
    identity.targetSliceDigest.asBytes, encU32 (UInt32.ofNat body.length), body]

section Wire

variable (identity : ProcessSessionIdentity) (sequence : UInt64) (direction : ProcessFrameDirection)
  (state : ProcessWorkerState) (invocationId : UInt64) (kind : ProcessFrameKind) (body : Bytes)

theorem frameFields_lengths : (frameFields identity sequence direction state invocationId kind body).map List.length =
    [4, 2, 2, 4, 1, 1, 1, 1, 8, 16, 8, 16, 8, 16, 8, 8, 8, 32, 4, body.length] := by
  simp only [frameFields, List.map_cons, List.map_nil, encU16_length, encU32_length, encU64_length,
    Ref16.asBytes_length, Digest32.asBytes_length, List.length_singleton]
  rfl

theorem frameFields_length : (frameFields identity sequence direction state invocationId kind body).flatten.length =
    processWorkerHeaderBytes + body.length := by
  rw [List.length_flatten, frameFields_lengths]
  simp only [List.sum_cons, List.sum_nil, processWorkerHeaderBytes]
  omega

theorem frameFields_magic : (frameFields identity sequence direction state invocationId kind body).flatten.take 4 =
    processWorkerProtocolMagic := by
  rw [frameFields, List.flatten_cons]
  exact List.take_left' rfl

theorem frameFields_flatten :
    (frameFields identity sequence direction state invocationId kind body).flatten =
      ((frameFields identity sequence direction state invocationId kind body).take 19).flatten ++ body := by
  have hsplit : frameFields identity sequence direction state invocationId kind body =
      (frameFields identity sequence direction state invocationId kind body).take 19 ++ [body] := rfl
  refine (congrArg List.flatten hsplit).trans ?_
  rw [List.flatten_append, List.flatten_singleton]

theorem frameFields_body :
    (frameFields identity sequence direction state invocationId kind body).flatten.drop processWorkerHeaderBytes =
      body := by
  rw [frameFields_flatten]
  refine List.drop_left' ?_
  rw [List.length_flatten, List.map_take, frameFields_lengths]
  simp [processWorkerHeaderBytes]

theorem buildFrameWire_ok (wire : Bytes) :
    buildFrameWire identity sequence direction state invocationId kind body = .ok wire ↔
      processWorkerHeaderBytes + body.length ≤ maxProcessWorkerFrameBytes ∧
        (frameFields identity sequence direction state invocationId kind body).flatten = wire := by
  unfold buildFrameWire
  simp only [bind_ok, rejectIf_ok, exists_unit, not_lt]
  refine and_congr_right fun hroom => ?_
  have hmax : maxProcessWorkerFrameBytes < 2 ^ 32 := by decide
  rw [lengthU32_of_lt (by omega : processWorkerHeaderBytes + body.length < 2 ^ 32),
    lengthU32_of_lt (by omega : body.length < 2 ^ 32)]
  simp only [Except.ok.injEq, exists_eq_left', pure_ok]
  refine and_iff_right (not_not.2 ?_)
  exact frameFields_length identity sequence direction state invocationId kind body

end Wire

/-- The arguments `try_new` accepts. -/
structure Accepted (sequence : UInt64) (direction : ProcessFrameDirection) (state : ProcessWorkerState)
    (invocationId : UInt64) (body : ProcessFrameBody) : Prop where
  sequenced : sequence ≠ 0
  direction : direction = body.requiredDirection
  state : body.stateIsValid state = true
  scope : body.invocationScoped = decide (invocationId ≠ 0)
  valid : body.validate = .ok ()

def ProcessFrameBody.wire (body : ProcessFrameBody) : Bytes :=
  (body.fields (UInt32.ofNat body.payloadLength)).flatten

def frameWire (identity : ProcessSessionIdentity) (sequence : UInt64) (direction : ProcessFrameDirection)
    (state : ProcessWorkerState) (invocationId : UInt64) (body : ProcessFrameBody) : Bytes :=
  (frameFields identity sequence direction state invocationId body.kind body.wire).flatten

theorem ProcessFrameBody.wire_length_le (h : body.validate = .ok ()) :
    body.wire.length ≤ 24 + maxProcessWorkerPayloadBytes := by
  have hpayload := payloadLength_le h
  have hmax : maxProcessWorkerPayloadBytes = 1048404 := by decide
  cases body
  all_goals simp [wire, fields, payloadLength] at hpayload ⊢
  all_goals omega

theorem digestFrame_ok (sha256 : Sha256) {wire : Bytes} (h : wire.length ≤ maxProcessWorkerFrameBytes) (d : Digest32) :
    digestFrame sha256 wire = .ok d ↔ d = sha256 (digestInput processFrameDigestDomain [wire]) := by
  have hlt : wire.length < 2 ^ 64 := lt_of_le_of_lt h (by decide)
  rw [digestFrame, mapErr_ok, digest32_ok]
  simp only [List.length_singleton, List.mem_singleton, forall_eq, hlt, true_and]
  exact and_iff_right (by decide) |>.trans (and_iff_right (by decide)) |>.trans (and_iff_right (by decide))

/-- **What `try_new` builds**: the arguments, their wire and its digest, whenever the arguments are accepted. -/
theorem ProcessFrame.tryNew_ok (sha256 : Sha256) (identity : ProcessSessionIdentity) (sequence : UInt64)
    (direction : ProcessFrameDirection) (state : ProcessWorkerState) (invocationId : UInt64) (body : ProcessFrameBody)
    (f : ProcessFrame) :
    ProcessFrame.tryNew sha256 identity sequence direction state invocationId body = .ok f ↔
      Accepted sequence direction state invocationId body ∧
        f = ⟨identity, sequence, direction, state, invocationId, body,
          frameWire identity sequence direction state invocationId body,
          sha256 (digestInput processFrameDigestDomain
            [frameWire identity sequence direction state invocationId body])⟩ := by
  simp only [ProcessFrame.tryNew, bind_ok, rejectIf_ok, exists_unit, pure_ok, not_not, ne_eq, Bool.not_eq_false,
    ProcessFrameBody.encode_ok, buildFrameWire_ok]
  constructor
  · rintro ⟨hsequence, hdirection, hstate, hscope, _, ⟨hvalid, rfl⟩, _, ⟨hroom, rfl⟩, digest, hdigest, rfl⟩
    have hlength := frameFields_length identity sequence direction state invocationId body.kind body.wire
    rw [← ProcessFrameBody.wire] at hroom hdigest ⊢
    rw [digestFrame_ok sha256 (by rw [hlength]; exact hroom)] at hdigest
    rw [hdigest]
    exact ⟨⟨hsequence, hdirection, hstate, hscope, hvalid⟩, rfl⟩
  · rintro ⟨ha, rfl⟩
    have hlength := frameFields_length identity sequence direction state invocationId body.kind body.wire
    have hroom : processWorkerHeaderBytes + body.wire.length ≤ maxProcessWorkerFrameBytes :=
      Nat.add_le_add_left (ProcessFrameBody.wire_length_le ha.valid) processWorkerHeaderBytes
    refine ⟨ha.sequenced, ha.direction, ha.state, ha.scope, body.wire, ⟨ha.valid, rfl⟩, _, ⟨hroom, rfl⟩, _,
      (digestFrame_ok sha256 (by rw [hlength]; exact hroom) _).2 rfl, rfl⟩

/-- A frame only `try_new` can have built. -/
def ProcessFrame.Built (sha256 : Sha256) (f : ProcessFrame) : Prop :=
  ProcessFrame.tryNew sha256 f.identity f.sequence f.direction f.state f.invocationId f.body = .ok f

theorem ProcessFrame.built_of_tryNew {identity : ProcessSessionIdentity} {sequence : UInt64}
    {direction : ProcessFrameDirection} {state : ProcessWorkerState} {invocationId : UInt64}
    (h : ProcessFrame.tryNew sha256 identity sequence direction state invocationId body = .ok f) :
    f.Built sha256 := by
  have hf := ((ProcessFrame.tryNew_ok ..).1 h).2
  unfold ProcessFrame.Built
  rw [hf] at h ⊢
  exact h

theorem ProcessFrame.decode_ok {bytes : Bytes}
    (h : ProcessFrame.decode sha256 bytes = .ok f) : f.Built sha256 ∧ f.canonicalWire = bytes := by
  revert f h
  change Returns (ProcessFrame.decode sha256 bytes) _
  unfold ProcessFrame.decode
  -- The last two steps rebuild the frame and compare; what was read before does not matter here.
  iterate 32 refine returns_bind fun _ _ => ?_
  refine returns_bind fun decoded hbuilt => returns_bind fun _ hwire => ?_
  intro f hf
  rw [← pure_ok.1 hf]
  rw [rejectIf_ok, not_not] at hwire
  exact ⟨ProcessFrame.built_of_tryNew hbuilt, hwire⟩

theorem ProcessSessionGenerations.tryNew_fields (i : ProcessSessionIdentity) :
    ProcessSessionGenerations.tryNew i.runtimeHostEpoch i.processDomainEpoch i.instanceGeneration =
      .ok ⟨i.runtimeHostEpoch, i.processDomainEpoch, i.instanceGeneration, i.live⟩ :=
  ok_bind (require_ok ⟨i.live⟩) rfl

theorem ProcessSessionIdentity.tryNew_fields (i : ProcessSessionIdentity) :
    ProcessSessionIdentity.tryNew i.runtimeHost i.processDomain i.instanceRef
      ⟨i.runtimeHostEpoch, i.processDomainEpoch, i.instanceGeneration, i.live⟩ i.sourceRevision i.targetSliceDigest =
        .ok i :=
  ok_bind (require_ok ⟨i.revised⟩) <| ok_bind (require_ok ⟨i.named.1⟩) <|
    ok_bind (require_ok ⟨i.named.2.1⟩) <| ok_bind (require_ok ⟨i.named.2.2⟩) <|
    ok_bind (require_ok ⟨i.sliced⟩) rfl

theorem ProcessFrame.Built.decode (h : f.Built sha256) :
    ProcessFrame.decode sha256 f.canonicalWire = .ok f := by
  obtain ⟨ha, hf⟩ := (ProcessFrame.tryNew_ok ..).1 h
  have hwire : f.canonicalWire = (frameFields f.identity f.sequence f.direction f.state f.invocationId f.body.kind
      f.body.wire).flatten := by
    rw [hf]
    rfl
  have hl := frameFields_lengths f.identity f.sequence f.direction f.state f.invocationId f.body.kind f.body.wire
  have hlen := frameFields_length f.identity f.sequence f.direction f.state f.invocationId f.body.kind f.body.wire
  have hroom : processWorkerHeaderBytes + f.body.wire.length ≤ maxProcessWorkerFrameBytes :=
    Nat.add_le_add_left (ProcessFrameBody.wire_length_le ha.valid) processWorkerHeaderBytes
  have hmax : maxProcessWorkerFrameBytes < 2 ^ 32 := by decide
  have htotal : (UInt32.ofNat (processWorkerHeaderBytes + f.body.wire.length)).toNat =
      processWorkerHeaderBytes + f.body.wire.length := toNat_ofNat_of_lt (by omega)
  have hbodyLength : (UInt32.ofNat f.body.wire.length).toNat = f.body.wire.length := toNat_ofNat_of_lt (by omega)
  have hbody : decodeBody f.body.kind f.body.wire = .ok f.body :=
    decodeBody_fields f.body _ (toNat_ofNat_of_lt (ProcessFrameBody.payloadLength_lt ha.valid))
  unfold ProcessFrame.decode
  rw [hwire]
  refine ok_check (by rw [hlen]; omega) <| ok_check (by rw [hlen]; omega) <|
    ok_check (not_not.2 (frameFields_magic ..)) <|
    ok_bind (readU16_field (k := 1) hl rfl (by simp)) <| ok_check (not_not.2 rfl) <|
    ok_bind (readU16_field (k := 2) hl rfl (by simp)) <| ok_check (not_not.2 rfl) <|
    ok_bind (readU32_field (k := 3) hl rfl (by simp)) <| ok_check (by rw [htotal, hlen]; exact not_not.2 rfl) <|
    ok_bind (byteAt_field (k := 4) hl rfl (by simp)) <| ok_bind (ProcessFrameKind.tryFrom_code _) <|
    ok_bind (byteAt_field (k := 5) hl rfl (by simp)) <| ok_bind (ProcessFrameDirection.tryFrom_code _) <|
    ok_bind (byteAt_field (k := 6) hl rfl (by simp)) <| ok_bind (ProcessWorkerState.tryFrom_code _) <|
    ok_bind (byteAt_field (k := 7) hl rfl (by simp)) <| ok_check (not_not.2 rfl) <|
    ok_bind (readU64_field (k := 8) hl rfl (by simp)) <| ok_bind (readRef16_field (k := 9) hl rfl (by simp)) <|
    ok_bind (readU64_field (k := 10) hl rfl (by simp)) <| ok_bind (readRef16_field (k := 11) hl rfl (by simp)) <|
    ok_bind (readU64_field (k := 12) hl rfl (by simp)) <| ok_bind (readRef16_field (k := 13) hl rfl (by simp)) <|
    ok_bind (readU64_field (k := 14) hl rfl (by simp)) <| ok_bind (readU64_field (k := 15) hl rfl (by simp)) <|
    ok_bind (readU64_field (k := 16) hl rfl (by simp)) <| ok_bind (readDigest32_field (k := 17) hl rfl (by simp)) <|
    ok_bind (readU32_field (k := 18) hl rfl (by simp)) <|
    ok_check (by rw [hbodyLength, hlen]; exact not_not.2 rfl) <|
    ok_bind (ProcessSessionGenerations.tryNew_fields f.identity) <|
    ok_bind (ProcessSessionIdentity.tryNew_fields f.identity) <| ok_bind (by rw [frameFields_body]; exact hbody) <|
    ok_bind h <| ok_check (not_not.2 hwire) rfl

end Process
end ParaEgox
