import ParaEgox.ProcessCodec
import ParaEgox.ProcessSession

/-!
# ProcessAdvance — what one accepted frame has checked and done

For each body, `advance` read backwards: the phase and the lease it needs, and the session it leaves.
-/
namespace ParaEgox
namespace Process
namespace ProcessProtocolSession

open Check

/-! ## What `advance` checked -/

/-- **An accepted frame** belongs to the session, has the next sequence of its side, and its body was applied. -/
theorem advance_ok (s t : ProcessProtocolSession) (f : ProcessFrame) :
    s.advance f = .ok t ↔ f.identity = s.identity ∧ f.sequence.toNat = s.lastSequence f.direction + 1 ∧
      ∃ n, s.applyBody f = .ok n ∧ n.sequenced f = t := by
  simp only [advance, bind_ok, rejectIf_ok, exists_unit, pure_ok, not_not, ne_eq, addU64_ok]
  refine and_congr_right fun _ => ?_
  constructor
  · rintro ⟨_, ⟨_, rfl⟩, hsequence, happly⟩
    exact ⟨hsequence, happly⟩
  · rintro ⟨hsequence, happly⟩
    have hmax : f.sequence.toNat ≤ u64Max := Nat.le_sub_one_of_lt f.sequence.toNat_lt
    exact ⟨_, ⟨hsequence ▸ hmax, rfl⟩, hsequence, happly⟩

/-- The lease a frame names is in the table under its invocation, with its credit. -/
theorem leaseFor_ok (s : ProcessProtocolSession) (id credit : U64) (lease : CreditLease) :
    s.leaseFor id credit = .ok lease ↔ Assoc.get id s.active = some lease ∧ lease.creditId = credit := by
  simp only [leaseFor, bind_ok, okOr_ok, rejectIf_ok, exists_unit, pure_ok, not_not, ne_eq]
  constructor
  · rintro ⟨_, hget, hcredit, rfl⟩
    exact ⟨hget, hcredit⟩
  · rintro ⟨hget, hcredit⟩
    exact ⟨lease, hget, hcredit, rfl⟩

section Bodies

variable {s n : ProcessProtocolSession} {f : ProcessFrame}

theorem applyBody_start {inflight : UInt32} {retained : UInt64} {payload : UInt32} {interval timeout : UInt64}
    (hb : f.body = .start inflight retained payload interval timeout) :
    s.applyBody f = .ok n ↔ s.phase = .awaitStart ∧
      { s with limits := some ⟨inflight.toNat, retained.toNat, payload.toNat⟩, phase := .awaitReady } = n := by
  simp only [applyBody, hb, bind_ok, rejectIf_ok, exists_unit, pure_ok, not_not, ne_eq]

theorem applyBody_ready {d : Digest32} (hb : f.body = .ready d) :
    s.applyBody f = .ok n ↔ s.phase = .awaitReady ∧ { s with phase := .awaitConstruct } = n := by
  simp only [applyBody, hb, bind_ok, rejectIf_ok, exists_unit, pure_ok, not_not, ne_eq]

theorem applyBody_construct {a b : Digest32} {r : Ref16} (hb : f.body = .construct a b r) :
    s.applyBody f = .ok n ↔ s.phase = .awaitConstruct ∧ { s with phase := .awaitConstructed } = n := by
  simp only [applyBody, hb, bind_ok, rejectIf_ok, exists_unit, pure_ok, not_not, ne_eq]

theorem applyBody_constructed {outcome : ConstructOutcome} (hb : f.body = .constructed outcome) :
    s.applyBody f = .ok n ↔ s.phase = .awaitConstructed ∧
      { s with phase := if outcome = .constructed then .running else .failed } = n := by
  simp only [applyBody, hb, bind_ok, rejectIf_ok, exists_unit, pure_ok, not_not, ne_eq]

def leaseOf (creditId : UInt64) (responseReservationBytes : UInt32) (payload : Bytes) : CreditLease :=
  ⟨creditId.toNat, responseReservationBytes.toNat, payload.length + responseReservationBytes.toNat, false⟩

/-- What an Invoke finds: a fresh identity and credit, and room for one more under every limit. -/
structure Admits (s : ProcessProtocolSession) (id : U64) (lease : CreditLease) (payload : Bytes) (limits : StartLimits) :
    Prop where
  running : s.phase = .running
  bounded : s.limits = some limits
  inflight : s.active.length < limits.maxInflight
  payload : payload.length ≤ limits.maxPayloadBytes
  reservation : lease.responseReservationBytes ≤ limits.maxPayloadBytes
  fresh : id ∉ Assoc.keys s.active
  credit : ∀ e ∈ s.active, e.2.creditId ≠ lease.creditId
  retained : s.retainedBytes + lease.retainedBytes ≤ limits.maxRetainedBytes

/-- **An accepted Invoke** opens exactly one lease within the limits of the Start. -/
theorem applyBody_invoke {creditId : UInt64} {reservation : UInt32} {budget : UInt64} {payload : Bytes}
    (hb : f.body = .invoke creditId reservation budget payload) (h : s.applyBody f = .ok n) :
    ∃ limits, s.Admits f.invocationId.toNat (leaseOf creditId reservation payload) payload limits ∧
      { s with
        active := s.active ++ [(f.invocationId.toNat, leaseOf creditId reservation payload)]
        retainedBytes := s.retainedBytes + (leaseOf creditId reservation payload).retainedBytes } = n := by
  simp only [applyBody, hb, bind_ok, rejectIf_ok, exists_unit, pure_ok, not_not, ne_eq, okOr_ok, toU32_ok, addU64_ok,
    not_or, not_lt, not_le] at h
  obtain ⟨hphase, limits, hlimits, _, ⟨_, rfl⟩, hinflight, ⟨hpayload, hreservation⟩, ⟨hfresh, hcredit⟩, _, ⟨_, rfl⟩, _,
    ⟨_, rfl⟩, hretained, hn⟩ := h
  have hkey : f.invocationId.toNat ∉ Assoc.keys s.active := by
    rw [← Assoc.get_eq_none]
    exact Option.not_isSome_iff_eq_none.1 hfresh
  rw [Assoc.put_of_notMem hkey] at hn
  exact ⟨limits, ⟨hphase, hlimits, hinflight, hpayload, hreservation, hkey, fun e he heq => hcredit ⟨e, he, heq⟩,
    hretained⟩, hn⟩

/-- **An accepted acknowledgement** marks its lease, once. -/
theorem applyBody_invoked {creditId : UInt64} (hb : f.body = .invoked creditId) :
    s.applyBody f = .ok n ↔ Live s.phase ∧
      (∃ lease, Assoc.get f.invocationId.toNat s.active = some lease ∧ lease.creditId = creditId.toNat ∧
        lease.invoked = false) ∧
      { s with active := Assoc.adjust f.invocationId.toNat (fun lease => { lease with invoked := true }) s.active } =
        n := by
  simp only [applyBody, hb, bind_ok, rejectIf_ok, exists_unit, pure_ok, not_not, leaseFor_ok, Bool.not_eq_true,
    and_assoc, exists_and_right]
  constructor
  · rintro ⟨hlive, lease, hget, hcredit, hinvoked, hn⟩
    exact ⟨hlive, ⟨lease, hget, hcredit, hinvoked⟩, hn⟩
  · rintro ⟨hlive, ⟨lease, hget, hcredit, hinvoked⟩, hn⟩
    exact ⟨hlive, lease, hget, hcredit, hinvoked, hn⟩

theorem applyBody_cancel {creditId grace : UInt64} (hb : f.body = .cancel creditId grace) :
    s.applyBody f = .ok n ↔ Live s.phase ∧
      (∃ lease, Assoc.get f.invocationId.toNat s.active = some lease ∧ lease.creditId = creditId.toNat) ∧ s = n := by
  simp only [applyBody, hb, bind_ok, rejectIf_ok, exists_unit, pure_ok, not_not, leaseFor_ok, exists_and_right]

/-- **An accepted Terminal** closes an acknowledged lease and gives back what it held. -/
theorem applyBody_terminal {creditId : UInt64} {kind : InvocationTerminalKind} {payload : Bytes}
    (hb : f.body = .terminal creditId kind payload) :
    s.applyBody f = .ok n ↔ Live s.phase ∧
      ∃ lease, Assoc.get f.invocationId.toNat s.active = some lease ∧ lease.creditId = creditId.toNat ∧
        lease.invoked = true ∧ payload.length ≤ lease.responseReservationBytes ∧
        lease.retainedBytes ≤ s.retainedBytes ∧
        { s with
          active := Assoc.erase f.invocationId.toNat s.active
          retainedBytes := s.retainedBytes - lease.retainedBytes } = n := by
  simp only [applyBody, hb, bind_ok, rejectIf_ok, exists_unit, pure_ok, not_not, leaseFor_ok, Bool.not_eq_false,
    not_lt, subU64_ok, and_assoc, exists_and_left, exists_eq_left']

/-- **An accepted heartbeat** has the next sequence and the exact counts of the acknowledged leases. -/
theorem applyBody_heartbeat {sequence : UInt64} {active : UInt32} {retained : UInt64}
    (hb : f.body = .heartbeat sequence active retained) :
    s.applyBody f = .ok n ↔ Live s.phase ∧ sequence.toNat = s.heartbeatSequence + 1 ∧
      (s.active.filter fun e => e.2.invoked).length = active.toNat ∧
      ((s.active.filter fun e => e.2.invoked).map fun e => e.2.retainedBytes).sum = retained.toNat ∧
      { s with heartbeatSequence := sequence.toNat } = n := by
  have hsequence : sequence.toNat ≤ u64Max := Nat.le_sub_one_of_lt sequence.toNat_lt
  have hactive : active.toNat ≤ u32Max := Nat.le_sub_one_of_lt active.toNat_lt
  have hretained : retained.toNat ≤ u64Max := Nat.le_sub_one_of_lt retained.toNat_lt
  simp only [applyBody, hb, bind_ok, rejectIf_ok, exists_unit, pure_ok, not_not, addU64_ok, toU32_ok, sumU64_ok, ne_eq,
    not_or]
  constructor
  · rintro ⟨hlive, _, ⟨_, rfl⟩, hseq, _, ⟨_, rfl⟩, _, ⟨_, rfl⟩, ⟨hcount, hsum⟩, hn⟩
    exact ⟨hlive, hseq, hcount, hsum, hn⟩
  · rintro ⟨hlive, hseq, hcount, hsum, hn⟩
    exact ⟨hlive, _, ⟨hseq ▸ hsequence, rfl⟩, hseq, _, ⟨hcount ▸ hactive, rfl⟩, _, ⟨hsum ▸ hretained, rfl⟩,
      ⟨hcount, hsum⟩, hn⟩

theorem applyBody_ping {nonce : UInt64} (hb : f.body = .ping nonce) :
    s.applyBody f = .ok n ↔ Live s.phase ∧ s.pendingPing = none ∧ { s with pendingPing := some nonce.toNat } = n := by
  simp only [applyBody, hb, bind_ok, rejectIf_ok, exists_unit, pure_ok, not_not, Option.not_isSome_iff_eq_none]

theorem applyBody_pong {nonce : UInt64} (hb : f.body = .pong nonce) :
    s.applyBody f = .ok n ↔ Live s.phase ∧ s.pendingPing = some nonce.toNat ∧ { s with pendingPing := none } = n := by
  simp only [applyBody, hb, bind_ok, rejectIf_ok, exists_unit, pure_ok, not_not, ne_eq]

theorem applyBody_stopAccepting (hb : f.body = .stopAccepting) :
    s.applyBody f = .ok n ↔ s.phase = .running ∧ { s with phase := .draining } = n := by
  simp only [applyBody, hb, bind_ok, rejectIf_ok, exists_unit, pure_ok, not_not, ne_eq]

theorem applyBody_drained (hb : f.body = .drained) :
    s.applyBody f = .ok n ↔ s.phase = .draining ∧ (s.active = [] ∧ s.retainedBytes = 0) ∧
      { s with phase := .awaitStop } = n := by
  simp only [applyBody, hb, bind_ok, rejectIf_ok, exists_unit, pure_ok, not_not, ne_eq, not_or]

theorem applyBody_stop {reason : StopReason} (hb : f.body = .stop reason) :
    s.applyBody f = .ok n ↔ (s.phase = .awaitStop ∨ s.phase = .failed) ∧ (s.active = [] ∧ s.retainedBytes = 0) ∧
      { s with phase := .stopping } = n := by
  simp only [applyBody, hb, bind_ok, rejectIf_ok, exists_unit, pure_ok, not_not, ne_eq]
  rw [not_or, not_not, not_not]

theorem applyBody_stopped {outcome : StoppedOutcome} (hb : f.body = .stopped outcome) :
    s.applyBody f = .ok n ↔ s.phase = .stopping ∧ { s with phase := .stopped } = n := by
  simp only [applyBody, hb, bind_ok, rejectIf_ok, exists_unit, pure_ok, not_not, ne_eq]

end Bodies

end ProcessProtocolSession
end Process
end ParaEgox
