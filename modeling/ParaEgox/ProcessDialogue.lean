import ParaEgox.ProcessAdvance
import ParaEgox.WorkerCodec

/-!
# ProcessDialogue — what every accepted PXWP dialogue keeps

Frames of both directions are offered to the session one by one, and a refused frame changes nothing.  What one accepted
frame can do is said once (`Moves`); the invariant of the table, the history of each open invocation and the order of the
phases are each kept along it.
-/
namespace ParaEgox
namespace Process

open Check

structure StartLimits.Bounded (limits : StartLimits) : Prop where
  inflight : limits.maxInflight ≤ u32Max
  retained : limits.maxRetainedBytes ≤ maxProcessWorkerRetainedBytes.toNat
  payload : limits.maxPayloadBytes ≤ u32Max

namespace ProcessProtocolSession

/-! ## What one frame does -/

inductive Next : ProcessProtocolPhase → ProcessProtocolPhase → Prop
  | ready : Next .awaitReady .awaitConstruct
  | construct : Next .awaitConstruct .awaitConstructed
  | constructed : Next .awaitConstructed .running
  | failed : Next .awaitConstructed .failed
  | stopAccepting : Next .running .draining
  | drained : Next .draining .awaitStop
  | stop : Next .awaitStop .stopping
  | stopFailed : Next .failed .stopping
  | stopped : Next .stopping .stopped

def invokeOf (id : UInt64) (f : ProcessFrame) : Option UInt64 :=
  match f.body with
  | .invoke creditId _ _ _ => if f.invocationId = id then some creditId else none
  | _ => none

def invokedOf (id : UInt64) (f : ProcessFrame) : Option UInt64 :=
  match f.body with
  | .invoked creditId => if f.invocationId = id then some creditId else none
  | _ => none

inductive Moves (s : ProcessProtocolSession) (f : ProcessFrame) : ProcessProtocolSession → Prop
  | start (limits : StartLimits) : s.phase = .awaitStart → limits.Bounded →
      (∀ id, invokeOf id f = none ∧ invokedOf id f = none) →
      Moves s f { s with limits := some limits, phase := .awaitReady }
  | phase (p : ProcessProtocolPhase) : Next s.phase p → (Live s.phase → ¬ Live p → s.active = []) →
      (∀ id, invokeOf id f = none ∧ invokedOf id f = none) → Moves s f { s with phase := p }
  | invoke (creditId : UInt64) (reservation : UInt32) (budget : UInt64) (payload : Bytes) (limits : StartLimits) :
      f.body = .invoke creditId reservation budget payload →
      s.Admits f.invocationId.toNat (leaseOf creditId reservation payload) payload limits →
      Moves s f { s with
        active := s.active ++ [(f.invocationId.toNat, leaseOf creditId reservation payload)]
        retainedBytes := s.retainedBytes + (leaseOf creditId reservation payload).retainedBytes }
  | invoked (creditId : UInt64) (lease : CreditLease) : f.body = .invoked creditId → Live s.phase →
      Assoc.get f.invocationId.toNat s.active = some lease → lease.creditId = creditId.toNat → lease.invoked = false →
      Moves s f { s with
        active := Assoc.adjust f.invocationId.toNat (fun lease => { lease with invoked := true }) s.active }
  | terminal (creditId : UInt64) (kind : InvocationTerminalKind) (payload : Bytes) (lease : CreditLease) :
      f.body = .terminal creditId kind payload → Live s.phase →
      Assoc.get f.invocationId.toNat s.active = some lease → lease.creditId = creditId.toNat → lease.invoked = true →
      Moves s f { s with
        active := Assoc.erase f.invocationId.toNat s.active
        retainedBytes := s.retainedBytes - lease.retainedBytes }
  | heartbeat : f.direction = .workerToHost → (∀ id, invokeOf id f = none ∧ invokedOf id f = none) →
      Moves s f { s with heartbeatSequence := s.heartbeatSequence + 1 }
  | ping (pending : Option U64) : (∀ id, invokeOf id f = none ∧ invokedOf id f = none) →
      Moves s f { s with pendingPing := pending }

theorem bounded_of_validate {inflight : UInt32} {retained : UInt64} {payload : UInt32} {interval timeout : UInt64}
    (h : (ProcessFrameBody.start inflight retained payload interval timeout).validate = .ok ()) :
    StartLimits.Bounded ⟨inflight.toNat, retained.toNat, payload.toNat⟩ := by
  simp only [ProcessFrameBody.validate, bind_ok, rejectIf_ok, not_or, UInt64.not_lt] at h
  obtain ⟨_, _, _, _, _, hretained, _⟩ := h
  exact ⟨Nat.le_sub_one_of_lt inflight.toNat_lt, UInt64.le_iff_toNat_le.1 hretained,
    Nat.le_sub_one_of_lt payload.toNat_lt⟩

theorem moves_of_applyBody {sha256 : Sha256} {s n : ProcessProtocolSession} {f : ProcessFrame} (hf : f.Built sha256)
    (h : s.applyBody f = .ok n) : s.Moves f n := by
  have ha := ((ProcessFrame.tryNew_ok ..).1 hf).1
  cases hb : f.body
  case start inflight retained payload interval timeout =>
    obtain ⟨hphase, rfl⟩ := (applyBody_start hb).1 h
    exact .start _ hphase (bounded_of_validate (hb ▸ ha.valid)) (by simp [invokeOf, invokedOf, hb])
  case ready d =>
    obtain ⟨hphase, rfl⟩ := (applyBody_ready hb).1 h
    exact .phase _ (hphase ▸ .ready) (by simp [hphase, Live]) (by simp [invokeOf, invokedOf, hb])
  case construct a b c =>
    obtain ⟨hphase, rfl⟩ := (applyBody_construct hb).1 h
    exact .phase _ (hphase ▸ .construct) (by simp [hphase, Live]) (by simp [invokeOf, invokedOf, hb])
  case constructed outcome =>
    obtain ⟨hphase, rfl⟩ := (applyBody_constructed hb).1 h
    refine .phase _ ?_ (by simp [hphase, Live]) (by simp [invokeOf, invokedOf, hb])
    rw [hphase]
    split
    · exact .constructed
    · exact .failed
  case invoke creditId reservation budget payload =>
    obtain ⟨limits, hadmits, rfl⟩ := applyBody_invoke hb h
    exact .invoke creditId reservation budget payload limits hb hadmits
  case invoked creditId =>
    obtain ⟨hlive, ⟨lease, hget, hcredit, hinvoked⟩, rfl⟩ := (applyBody_invoked hb).1 h
    exact .invoked creditId lease hb hlive hget hcredit hinvoked
  case cancel creditId grace =>
    obtain ⟨_, _, rfl⟩ := (applyBody_cancel hb).1 h
    exact .ping s.pendingPing (by simp [invokeOf, invokedOf, hb])
  case terminal creditId kind payload =>
    obtain ⟨hlive, lease, hget, hcredit, hinvoked, _, _, rfl⟩ := (applyBody_terminal hb).1 h
    exact .terminal creditId kind payload lease hb hlive hget hcredit hinvoked
  case heartbeat sequence active retained =>
    obtain ⟨_, hsequence, _, _, rfl⟩ := (applyBody_heartbeat hb).1 h
    rw [hsequence]
    exact .heartbeat (ha.direction.trans (by rw [hb]; rfl)) (by simp [invokeOf, invokedOf, hb])
  case ping nonce =>
    obtain ⟨_, _, rfl⟩ := (applyBody_ping hb).1 h
    exact .ping _ (by simp [invokeOf, invokedOf, hb])
  case pong nonce =>
    obtain ⟨_, _, rfl⟩ := (applyBody_pong hb).1 h
    exact .ping _ (by simp [invokeOf, invokedOf, hb])
  case stopAccepting =>
    obtain ⟨hphase, rfl⟩ := (applyBody_stopAccepting hb).1 h
    exact .phase _ (hphase ▸ .stopAccepting) (by simp [Live]) (by simp [invokeOf, invokedOf, hb])
  case drained =>
    obtain ⟨hphase, ⟨hactive, _⟩, rfl⟩ := (applyBody_drained hb).1 h
    exact .phase _ (hphase ▸ .drained) (fun _ _ => hactive) (by simp [invokeOf, invokedOf, hb])
  case stop reason =>
    obtain ⟨hphase | hphase, ⟨hactive, _⟩, rfl⟩ := (applyBody_stop hb).1 h
    · exact .phase _ (hphase ▸ .stop) (fun _ _ => hactive) (by simp [invokeOf, invokedOf, hb])
    · exact .phase _ (hphase ▸ .stopFailed) (fun _ _ => hactive) (by simp [invokeOf, invokedOf, hb])
  case stopped outcome =>
    obtain ⟨hphase, rfl⟩ := (applyBody_stopped hb).1 h
    exact .phase _ (hphase ▸ .stopped) (by simp [hphase, Live]) (by simp [invokeOf, invokedOf, hb])

/-! ## The table -/

/-- **The table of leases**: no key or credit twice, the ledger is the sum of the leases, both within what the Start
advertised, and nothing is active outside the live phases. -/
structure Table (s : ProcessProtocolSession) : Prop where
  keyed : (Assoc.keys s.active).Nodup
  credits : (s.active.map fun e => e.2.creditId).Nodup
  retained : s.retainedBytes = (s.active.map fun e => e.2.retainedBytes).sum
  unlimited : s.limits = none → s.active = []
  limited : ∀ limits, s.limits = some limits →
    s.active.length ≤ limits.maxInflight ∧ s.retainedBytes ≤ limits.maxRetainedBytes ∧ limits.Bounded
  idle : ¬ Live s.phase → s.active = []

theorem table_new (identity : ProcessSessionIdentity) : (new identity).Table :=
  ⟨.nil, .nil, rfl, fun _ => rfl, nofun, fun _ => rfl⟩

theorem map_acknowledge {β : Type} (id : U64) {v : CreditLease → β} (hv : ∀ l : CreditLease, v { l with invoked := true } = v l)
    (xs : List (U64 × CreditLease)) :
    (Assoc.adjust id (fun lease => { lease with invoked := true }) xs).map (fun e => v e.2) = xs.map fun e => v e.2 := by
  unfold Assoc.adjust
  rw [List.map_map]
  refine List.map_congr_left fun e _ => ?_
  by_cases he : e.1 = id
  · simp [he, hv]
  · simp [he]

variable {s n t : ProcessProtocolSession} {f : ProcessFrame}

theorem table_moves (h : s.Table) (hm : s.Moves f n) : n.Table := by
  cases hm with
  | start limits hphase hbounded _ =>
    have hempty : s.active = [] := h.idle (by simp [hphase, Live])
    have hzero : s.retainedBytes = 0 := by rw [h.retained, hempty]; rfl
    refine ⟨h.keyed, h.credits, h.retained, nofun, ?_, fun _ => hempty⟩
    intro l hl
    obtain rfl := Option.some.inj hl
    simp [hempty, hzero, hbounded]
  | phase p hnext hquiet _ =>
    refine ⟨h.keyed, h.credits, h.retained, h.unlimited, h.limited, fun hp => ?_⟩
    by_cases hlive : Live s.phase
    · exact hquiet hlive hp
    · exact h.idle hlive
  | invoke creditId reservation budget payload limits _ hadmits =>
    obtain ⟨hlength, hsum, hbounded⟩ := h.limited limits hadmits.bounded
    refine ⟨?_, ?_, ?_, ?_, ?_, ?_⟩
    · rw [Assoc.keys_append]
      exact h.keyed.append (List.nodup_singleton _) (by simpa [Assoc.keys] using hadmits.fresh)
    · rw [List.map_append]
      refine h.credits.append (List.nodup_singleton _) ?_
      simpa [List.disjoint_singleton] using hadmits.credit
    · simp [h.retained]
    · intro hnone
      rw [hadmits.bounded] at hnone
      cases hnone
    · intro l hl
      obtain rfl : limits = l := Option.some.inj (hadmits.bounded.symm.trans hl)
      refine ⟨?_, hadmits.retained, hbounded⟩
      rw [List.length_append]
      exact hadmits.inflight
    · intro hdead
      exact absurd (.inl hadmits.running) hdead
  | invoked creditId lease _ hlive hget _ _ =>
    refine ⟨?_, ?_, ?_, ?_, ?_, fun hdead => absurd hlive hdead⟩
    · rw [Assoc.keys_adjust]
      exact h.keyed
    · exact (map_acknowledge _ (v := CreditLease.creditId) (fun _ => rfl) s.active).symm ▸ h.credits
    · exact (map_acknowledge _ (v := CreditLease.retainedBytes) (fun _ => rfl) s.active).symm ▸ h.retained
    · intro hnone
      rw [h.unlimited hnone] at hget
      cases hget
    · intro l hl
      obtain ⟨hlength, hsum⟩ := h.limited l hl
      exact ⟨by simpa [Assoc.adjust] using hlength, hsum⟩
  | terminal creditId kind payload lease _ hlive hget _ _ =>
    have hsum := Assoc.sum_erase (fun e => e.2.retainedBytes) h.keyed hget
    have hlength := Assoc.length_erase h.keyed hget
    refine ⟨h.keyed.sublist (Assoc.keys_erase_sublist _ _), h.credits.sublist (List.filter_sublist.map _), ?_, ?_, ?_,
      fun hdead => absurd hlive hdead⟩
    · rw [h.retained, hsum]
      exact Nat.add_sub_cancel_left ..
    · intro hnone
      rw [h.unlimited hnone] at hget
      cases hget
    · intro l hl
      obtain ⟨hwithin, hbytes, hbounded⟩ := h.limited l hl
      refine ⟨?_, le_trans (Nat.sub_le ..) hbytes, hbounded⟩
      change (Assoc.erase f.invocationId.toNat s.active).length ≤ _
      omega
  | heartbeat _ _ => exact ⟨h.keyed, h.credits, h.retained, h.unlimited, h.limited, h.idle⟩
  | ping pending _ => exact ⟨h.keyed, h.credits, h.retained, h.unlimited, h.limited, h.idle⟩

/-! ## The history of an open invocation -/

/-- **The invocation's latest Invoke and what was acknowledged since**: its credit, and the credits of the Invokeds. -/
def Opened (id : UInt64) (creditId : UInt64) (acknowledged : List UInt64) (accepted : List ProcessFrame) : Prop :=
  ∃ earlier f since, accepted = earlier ++ f :: since ∧ invokeOf id f = some creditId ∧
    (∀ g ∈ since, invokeOf id g = none) ∧ since.filterMap (invokedOf id) = acknowledged

theorem opened_snoc {id creditId : UInt64} {acknowledged : List UInt64} {accepted : List ProcessFrame}
    (h : Opened id creditId acknowledged accepted) (hf : invokeOf id f = none) :
    Opened id creditId (acknowledged ++ (invokedOf id f).toList) (accepted ++ [f]) := by
  obtain ⟨earlier, g, since, rfl, hg, hsince, rfl⟩ := h
  refine ⟨earlier, g, since ++ [f], by simp, hg, ?_, ?_⟩
  · intro x hx
    obtain hx | hx := List.mem_append.1 hx
    · exact hsince x hx
    · exact List.mem_singleton.1 hx ▸ hf
  · rw [List.filterMap_append]
    cases hi : invokedOf id f with
    | none => simp [hi]
    | some c => simp [hi]

def Histories (accepted : List ProcessFrame) (s : ProcessProtocolSession) : Prop :=
  ∀ (id : UInt64) (lease : CreditLease), Assoc.get id.toNat s.active = some lease →
    ∃ creditId : UInt64, creditId.toNat = lease.creditId ∧
      Opened id creditId (if lease.invoked then [creditId] else []) accepted

theorem histories_of_kept {accepted : List ProcessFrame} (h : Histories accepted s)
    (hquiet : ∀ id, invokeOf id f = none ∧ invokedOf id f = none) (hactive : n.active = s.active) :
    Histories (accepted ++ [f]) n := by
  intro id lease hget
  rw [hactive] at hget
  obtain ⟨creditId, hcredit, hopened⟩ := h id lease hget
  have hsnoc := opened_snoc hopened (hquiet id).1
  rw [(hquiet id).2, Option.toList_none, List.append_nil] at hsnoc
  exact ⟨creditId, hcredit, hsnoc⟩

theorem histories_moves {accepted : List ProcessFrame} (h : Histories accepted s) (hm : s.Moves f n) :
    Histories (accepted ++ [f]) n := by
  cases hm with
  | start limits _ _ hquiet => exact histories_of_kept h hquiet rfl
  | phase p _ _ hquiet => exact histories_of_kept h hquiet rfl
  | heartbeat _ hquiet => exact histories_of_kept h hquiet rfl
  | ping pending hquiet => exact histories_of_kept h hquiet rfl
  | invoke creditId reservation budget payload limits hb hadmits =>
    intro id lease hget
    have hinvoke : invokeOf id f = if f.invocationId = id then some creditId else none := by simp [invokeOf, hb]
    have hinvoked : invokedOf id f = none := by simp [invokedOf, hb]
    change Assoc.get id.toNat (s.active ++ [(f.invocationId.toNat, leaseOf creditId reservation payload)]) = _ at hget
    rw [Assoc.get_append] at hget
    by_cases hid : f.invocationId = id
    · rw [← hid, Assoc.get_eq_none.2 hadmits.fresh, Option.none_or, Assoc.get_cons, if_pos rfl] at hget
      obtain rfl := Option.some.inj hget
      exact ⟨creditId, rfl, accepted, f, [], rfl, by rw [hinvoke, if_pos hid], by simp, by simp [leaseOf]⟩
    · have hkey : ¬ f.invocationId.toNat = id.toNat := fun hkey => hid (UInt64.toNat_inj.1 hkey)
      rw [Assoc.get_cons, if_neg hkey, Assoc.get_nil, Option.or_none] at hget
      obtain ⟨c, hcredit, hopened⟩ := h id lease hget
      have hsnoc := opened_snoc hopened (hinvoke.trans (if_neg hid))
      rw [hinvoked, Option.toList_none, List.append_nil] at hsnoc
      exact ⟨c, hcredit, hsnoc⟩
  | invoked creditId held hb _ hheld hcredit hunacknowledged =>
    intro id lease hget
    have hinvoke : invokeOf id f = none := by simp [invokeOf, hb]
    have hinvoked : invokedOf id f = if f.invocationId = id then some creditId else none := by simp [invokedOf, hb]
    change Assoc.get id.toNat (Assoc.adjust f.invocationId.toNat (fun lease => { lease with invoked := true }) s.active) =
      some lease at hget
    by_cases hid : f.invocationId = id
    · rw [hid] at hget hheld
      rw [Assoc.get_adjust_self, hheld] at hget
      obtain rfl := Option.some.inj hget
      obtain ⟨c, hc, hopened⟩ := h id held hheld
      obtain rfl : c = creditId := UInt64.toNat_inj.1 (hc.trans hcredit)
      have hsnoc := opened_snoc hopened hinvoke
      rw [hinvoked, if_pos hid, hunacknowledged] at hsnoc
      exact ⟨c, hc, hsnoc⟩
    · have hkey : id.toNat ≠ f.invocationId.toNat := fun hkey => hid (UInt64.toNat_inj.1 hkey.symm)
      rw [Assoc.get_adjust_of_ne hkey] at hget
      obtain ⟨c, hc, hopened⟩ := h id lease hget
      have hsnoc := opened_snoc hopened hinvoke
      rw [hinvoked, if_neg hid, Option.toList_none, List.append_nil] at hsnoc
      exact ⟨c, hc, hsnoc⟩
  | terminal creditId kind payload held hb _ hheld _ _ =>
    intro id lease hget
    change Assoc.get id.toNat (Assoc.erase f.invocationId.toNat s.active) = _ at hget
    have hkey : id.toNat ≠ f.invocationId.toNat := by
      intro hkey
      rw [hkey, Assoc.get_erase_self] at hget
      cases hget
    rw [Assoc.get_erase_of_ne hkey] at hget
    obtain ⟨c, hc, hopened⟩ := h id lease hget
    have hsnoc := opened_snoc hopened (f := f) (by simp [invokeOf, hb])
    rw [show invokedOf id f = none by simp [invokedOf, hb], Option.toList_none, List.append_nil] at hsnoc
    exact ⟨c, hc, hsnoc⟩

/-! ## Phases -/

/-- The place of a phase on the way from start to stopped; a failed construction waits for the Stop as a drained one. -/
def rank : ProcessProtocolPhase → Nat
  | .awaitStart => 0
  | .awaitReady => 1
  | .awaitConstruct => 2
  | .awaitConstructed => 3
  | .running => 4
  | .draining => 5
  | .awaitStop => 6
  | .failed => 6
  | .stopping => 7
  | .stopped => 8

def Forward (p q : ProcessProtocolPhase) : Prop := p = q ∨ rank p < rank q

theorem Forward.trans {p q r : ProcessProtocolPhase} (h : Forward p q) (h' : Forward q r) : Forward p r := by
  obtain rfl | h := h
  · exact h'
  · obtain rfl | h' := h'
    · exact .inr h
    · exact .inr (h.trans h')

theorem rank_lt_of_next {p q : ProcessProtocolPhase} (h : Next p q) : rank p < rank q := by
  cases h <;> decide

theorem forward_moves (hm : s.Moves f n) : Forward s.phase n.phase := by
  cases hm with
  | start limits hphase _ _ =>
    rw [hphase]
    exact .inr Nat.zero_lt_one
  | phase p hnext _ _ => exact .inr (rank_lt_of_next hnext)
  | invoke _ _ _ _ _ _ _ => exact .inl rfl
  | invoked _ _ _ _ _ _ _ => exact .inl rfl
  | terminal _ _ _ _ _ _ _ _ _ => exact .inl rfl
  | heartbeat _ _ => exact .inl rfl
  | ping _ _ => exact .inl rfl

/-! ## Whole dialogues -/

/-- **What an accepted dialogue keeps**, with the frames accepted so far. -/
structure Within (identity : ProcessSessionIdentity) (accepted : List ProcessFrame) (s : ProcessProtocolSession) : Prop where
  same : s.identity = identity
  fenced : ∀ f ∈ accepted, f.identity = identity
  /-- In each direction the sequences are `1, 2, …` up to the session's last. -/
  counted : ∀ direction, (accepted.filter fun f => f.direction = direction).map (fun f => f.sequence.toNat) =
    List.range' 1 (s.lastSequence direction)
  keyed : (Assoc.keys s.active).Nodup
  credits : (s.active.map fun e => e.2.creditId).Nodup
  inflight : s.active = [] ∨ ∃ limits, s.limits = some limits ∧ s.active.length ≤ limits.maxInflight
  retained : s.retainedBytes = (s.active.map fun e => e.2.retainedBytes).sum
  bounded : s.retainedBytes = 0 ∨ ∃ limits, s.limits = some limits ∧ s.retainedBytes ≤ limits.maxRetainedBytes
  /-- A Terminal comes after one Invoked, of its credit, since the invocation's latest Invoke. -/
  answered : ∀ earlier f later, accepted = earlier ++ f :: later → ∀ creditId kind payload,
    f.body = .terminal creditId kind payload → Opened f.invocationId creditId [creditId] earlier
  idle : s.phase = .awaitStop ∨ s.phase = .failed ∨ s.phase = .stopping ∨ s.phase = .stopped → s.active = []

/-- The invariant that carries `Within`. -/
structure Sound (identity : ProcessSessionIdentity) (accepted : List ProcessFrame) (s : ProcessProtocolSession) : Prop where
  same : s.identity = identity
  fenced : ∀ f ∈ accepted, f.identity = identity
  counted : ∀ direction, (accepted.filter fun f => f.direction = direction).map (fun f => f.sequence.toNat) =
    List.range' 1 (s.lastSequence direction)
  table : s.Table
  histories : Histories accepted s
  answered : ∀ earlier f later, accepted = earlier ++ f :: later → ∀ creditId kind payload,
    f.body = .terminal creditId kind payload → Opened f.invocationId creditId [creditId] earlier
  heartbeat : s.heartbeatSequence ≤ s.workerSequence

theorem sound_new (identity : ProcessSessionIdentity) : Sound identity [] (new identity) where
  same := rfl
  fenced := nofun
  counted direction := by cases direction <;> rfl
  table := table_new identity
  histories := nofun
  answered earlier f later h := by simp at h
  heartbeat := le_refl 0

theorem Sound.within {identity : ProcessSessionIdentity} {accepted : List ProcessFrame} (h : Sound identity accepted s) :
    Within identity accepted s where
  same := h.same
  fenced := h.fenced
  counted := h.counted
  keyed := h.table.keyed
  credits := h.table.credits
  inflight := by
    cases hl : s.limits with
    | none => exact .inl (h.table.unlimited hl)
    | some limits => exact .inr ⟨limits, rfl, (h.table.limited limits hl).1⟩
  retained := h.table.retained
  bounded := by
    cases hl : s.limits with
    | none =>
      refine .inl ?_
      rw [h.table.retained, h.table.unlimited hl]
      rfl
    | some limits => exact .inr ⟨limits, rfl, (h.table.limited limits hl).2.1⟩
  answered := h.answered
  idle hphase := h.table.idle fun hlive => by
    obtain hlive | hlive := hlive <;> simp [hlive] at hphase

theorem moves_fields (hm : s.Moves f n) : n.identity = s.identity ∧ n.hostSequence = s.hostSequence ∧
    n.workerSequence = s.workerSequence ∧ (n.heartbeatSequence = s.heartbeatSequence ∨
      n.heartbeatSequence = s.heartbeatSequence + 1 ∧ f.direction = .workerToHost) := by
  cases hm with
  | heartbeat hdirection _ => exact ⟨rfl, rfl, rfl, .inr ⟨rfl, hdirection⟩⟩
  | _ => exact ⟨rfl, rfl, rfl, .inl rfl⟩

theorem sequenced_fields (n : ProcessProtocolSession) (f : ProcessFrame) : ∃ host worker,
    n.sequenced f = { n with hostSequence := host, workerSequence := worker } := by
  unfold sequenced
  cases f.direction
  · exact ⟨f.sequence.toNat, n.workerSequence, rfl⟩
  · exact ⟨n.hostSequence, f.sequence.toNat, rfl⟩

theorem lastSequence_sequenced (n : ProcessProtocolSession) (f : ProcessFrame) (direction : ProcessFrameDirection) :
    (n.sequenced f).lastSequence direction =
      if f.direction = direction then f.sequence.toNat else n.lastSequence direction := by
  unfold sequenced
  cases f.direction <;> cases direction <;> rfl

section Step

variable {sha256 : Sha256} {identity : ProcessSessionIdentity} {accepted : List ProcessFrame}

theorem counted_advance (h : Sound identity accepted s) (hm : s.Moves f n)
    (hsequence : f.sequence.toNat = s.lastSequence f.direction + 1) (direction : ProcessFrameDirection) :
    ((accepted ++ [f]).filter fun f => f.direction = direction).map (fun f => f.sequence.toNat) =
      List.range' 1 ((n.sequenced f).lastSequence direction) := by
  obtain ⟨_, hhost, hworker, _⟩ := moves_fields hm
  have hlast : n.lastSequence direction = s.lastSequence direction := by cases direction <;> assumption
  rw [lastSequence_sequenced, List.filter_append, List.map_append, h.counted]
  by_cases hd : f.direction = direction
  · rw [if_pos hd, hsequence, hd, List.range'_1_concat]
    simp [hd, hsequence, Nat.add_comm]
  · rw [if_neg hd, hlast]
    simp [hd]

theorem answered_advance (h : Sound identity accepted s) (happly : s.applyBody f = .ok n) :
    ∀ earlier g later, accepted ++ [f] = earlier ++ g :: later → ∀ creditId kind payload,
      g.body = .terminal creditId kind payload → Opened g.invocationId creditId [creditId] earlier := by
  intro earlier g later hsplit creditId kind payload hb
  obtain rfl | ⟨later, x, rfl⟩ := List.eq_nil_or_concat later
  · obtain ⟨rfl, hlast⟩ := List.append_inj' hsplit rfl
    obtain rfl := List.singleton_inj.1 hlast
    obtain ⟨_, lease, hget, hcredit, hinvoked, _⟩ := (applyBody_terminal hb).1 happly
    obtain ⟨c, hc, hopened⟩ := h.histories _ lease hget
    obtain rfl : c = creditId := UInt64.toNat_inj.1 (hc.trans hcredit)
    rw [hinvoked] at hopened
    exact hopened
  · rw [List.concat_eq_append, ← List.cons_append, ← List.append_assoc] at hsplit
    exact h.answered earlier g later (List.append_inj' hsplit rfl).1 creditId kind payload hb

/-- **One accepted frame keeps the invariant.** -/
theorem sound_advance (h : Sound identity accepted s) (hf : f.Built sha256) (ht : s.advance f = .ok t) :
    Sound identity (accepted ++ [f]) t ∧ Forward s.phase t.phase := by
  obtain ⟨hidentity, hsequence, n, happly, rfl⟩ := (advance_ok s t f).1 ht
  have hm := moves_of_applyBody hf happly
  obtain ⟨hsame, hhost, hworker, hbeat⟩ := moves_fields hm
  have htable := table_moves h.table hm
  have hhistories := histories_moves h.histories hm
  have hforward := forward_moves hm
  have hcounted := counted_advance h hm hsequence
  have hlast : n.heartbeatSequence ≤ (n.sequenced f).workerSequence := by
    have hseq := lastSequence_sequenced n f .workerToHost
    change (n.sequenced f).workerSequence = if _ then _ else n.workerSequence at hseq
    have hle := h.heartbeat
    rw [hseq]
    obtain hbeat | ⟨hbeat, hdirection⟩ := hbeat
    · by_cases hdirection : f.direction = .workerToHost
      · rw [hdirection] at hsequence
        rw [if_pos hdirection, hbeat, hsequence]
        exact le_trans hle (Nat.le_succ _)
      · rw [if_neg hdirection, hbeat, hworker]
        exact hle
    · rw [hdirection] at hsequence
      rw [if_pos hdirection, hbeat, hsequence]
      exact Nat.succ_le_succ hle
  obtain ⟨host, worker, heq⟩ := sequenced_fields n f
  rw [heq] at hcounted hlast ⊢
  refine ⟨⟨hsame.trans h.same, ?_, hcounted, ⟨htable.keyed, htable.credits, htable.retained, htable.unlimited,
    htable.limited, htable.idle⟩, hhistories, answered_advance h happly, hlast⟩, hforward⟩
  intro g hg
  obtain hg | hg := List.mem_append.1 hg
  · exact h.fenced g hg
  · rw [List.mem_singleton.1 hg, hidentity, h.same]

/-- **A whole dialogue keeps the invariant, and its phases only move forward.** -/
theorem sound_scan : ∀ {frames accepted : List ProcessFrame} {s t : ProcessProtocolSession}, Sound identity accepted s →
    (∀ f ∈ frames, f.Built sha256) → scan advance s frames = .ok t →
      Sound identity (accepted ++ frames) t ∧ Forward s.phase t.phase
  | [], accepted, s, t, h, _, hs => by
    obtain rfl := Except.ok.inj hs
    rw [List.append_nil]
    exact ⟨h, .inl rfl⟩
  | f :: frames, accepted, s, t, h, hbuilt, hs => by
    obtain ⟨m, hm, ht⟩ := (scan_ok_cons advance s t f frames).1 hs
    obtain ⟨hf, hbuilt⟩ := List.forall_mem_cons.1 hbuilt
    obtain ⟨hsound, hforward⟩ := sound_advance h hf hm
    obtain ⟨hsound', hforward'⟩ := sound_scan hsound hbuilt ht
    rw [List.append_assoc] at hsound'
    exact ⟨hsound', hforward.trans hforward'⟩

end Step

/-! ## Arithmetic -/

theorem avoids_leaseFor (s : ProcessProtocolSession) (id credit : U64) : Avoids .integerOverflow (s.leaseFor id credit) :=
  avoids_bind (avoids_okOr _ (by decide)) fun _ _ => avoids_check (by decide) <|
    avoids_of_ok rfl

theorem sum_filter_le (p : U64 × CreditLease → Bool) (xs : List (U64 × CreditLease)) :
    ((xs.filter p).map fun e => e.2.retainedBytes).sum ≤ (xs.map fun e => e.2.retainedBytes).sum := by
  induction xs with
  | nil => exact le_refl _
  | cons e xs ih =>
    rw [List.map_cons, List.sum_cons]
    by_cases hp : p e = true
    · rw [List.filter_cons_of_pos hp, List.map_cons, List.sum_cons]
      exact Nat.add_le_add_left ih _
    · rw [List.filter_cons_of_neg hp]
      exact le_trans ih (Nat.le_add_left ..)

theorem retained_le (h : s.Table) : s.retainedBytes ≤ maxProcessWorkerRetainedBytes.toNat := by
  cases hl : s.limits with
  | none =>
    rw [h.retained, h.unlimited hl]
    exact Nat.zero_le _
  | some limits =>
    obtain ⟨_, hbytes, hbounded⟩ := h.limited limits hl
    exact hbytes.trans hbounded.retained

theorem active_le (h : s.Table) : s.active.length ≤ u32Max := by
  cases hl : s.limits with
  | none =>
    rw [h.unlimited hl]
    exact Nat.zero_le _
  | some limits =>
    obtain ⟨hlength, _, hbounded⟩ := h.limited limits hl
    exact hlength.trans hbounded.inflight

/-- **No body overflows** over a sound table, while the heartbeats can still be counted. -/
theorem avoids_applyBody (h : s.Table) (hbeat : s.heartbeatSequence < u64Max) (f : ProcessFrame) :
    Avoids .integerOverflow (s.applyBody f) := by
  have hretained := retained_le h
  have hu64 : u64Max = 18446744073709551615 := by decide
  have hu32 : u32Max = 4294967295 := by decide
  unfold applyBody
  cases f.body
  case invoke creditId reservation budget payload =>
    refine avoids_check (by decide) <| avoids_bind (avoids_okOr _ (by decide)) fun limits hl =>
      avoids_bind (avoids_of_ok (toU32_ok.2 ⟨active_le h, rfl⟩)) fun _ _ =>
      avoids_check (by decide) <| avoids_bind (avoids_rejectIf _ (by decide)) fun _ hpayload =>
      avoids_check (by decide) ?_
    rw [rejectIf_ok, not_or, not_lt, not_lt] at hpayload
    rw [okOr_ok] at hl
    have hbound := (h.limited limits hl).2.2.payload
    have hsmall : payload.length + reservation.toNat ≤ 2 * 4294967295 := by omega
    refine avoids_bind (avoids_of_ok (addU64_ok.2 ⟨?_, rfl⟩)) fun retained hadd => ?_
    · omega
    obtain ⟨_, rfl⟩ := addU64_ok.1 hadd
    refine avoids_bind (avoids_of_ok (addU64_ok.2 ⟨?_, rfl⟩)) fun _ _ =>
      avoids_check (by decide) <| avoids_of_ok rfl
    exact (Nat.add_le_add hretained hsmall).trans (by decide)
  case invoked creditId =>
    exact avoids_check (by decide) <| avoids_bind (avoids_leaseFor s _ _) fun _ _ =>
      avoids_check (by decide) <| avoids_of_ok rfl
  case cancel creditId grace =>
    exact avoids_check (by decide) <| avoids_bind (avoids_leaseFor s _ _) fun _ _ =>
      avoids_of_ok rfl
  case terminal creditId kind payload =>
    refine avoids_check (by decide) <| avoids_bind (avoids_leaseFor s _ _) fun lease hlease =>
      avoids_check (by decide) <| avoids_check (by decide) <|
      avoids_bind (avoids_of_ok (subU64_ok.2 ⟨?_, rfl⟩)) fun _ _ => avoids_of_ok rfl
    obtain ⟨hget, _⟩ := (leaseFor_ok ..).1 hlease
    rw [h.retained, Assoc.sum_erase (fun e => e.2.retainedBytes) h.keyed hget]
    exact Nat.le_add_right ..
  case heartbeat sequence active retained =>
    have hcount : (s.active.filter fun e => e.2.invoked).length ≤ u32Max :=
      (List.length_filter_le ..).trans (active_le h)
    have hsum : ((s.active.filter fun e => e.2.invoked).map fun e => e.2.retainedBytes).sum ≤ u64Max := by
      have hle := sum_filter_le (fun e => e.2.invoked) s.active
      rw [← h.retained] at hle
      exact hle.trans (hretained.trans (by decide))
    exact avoids_check (by decide) <|
      avoids_bind (avoids_of_ok (addU64_ok.2 ⟨hbeat, rfl⟩)) fun _ _ =>
      avoids_check (by decide) <|
      avoids_bind (avoids_of_ok (toU32_ok.2 ⟨hcount, rfl⟩)) fun _ _ =>
      avoids_bind (avoids_of_ok (sumU64_ok.2 ⟨hsum, rfl⟩)) fun _ _ =>
      avoids_check (by decide) <| avoids_of_ok rfl
  case ping nonce =>
    exact avoids_check (by decide) <| avoids_check (by decide) <|
      avoids_of_ok rfl
  case pong nonce =>
    exact avoids_check (by decide) <| avoids_check (by decide) <|
      avoids_of_ok rfl
  case drained =>
    exact avoids_check (by decide) <| avoids_check (by decide) <|
      avoids_of_ok rfl
  case stop reason =>
    exact avoids_check (by decide) <| avoids_check (by decide) <|
      avoids_of_ok rfl
  all_goals exact avoids_check (by decide) <| avoids_of_ok rfl

theorem avoids_advance (h : s.Table) (hbeat : s.heartbeatSequence ≤ s.workerSequence) (hhost : s.hostSequence < u64Max)
    (hworker : s.workerSequence < u64Max) (f : ProcessFrame) : Avoids .integerOverflow (s.advance f) := by
  have hlast : s.lastSequence f.direction + 1 ≤ u64Max := by
    cases f.direction
    · exact hhost
    · exact hworker
  exact avoids_check (by decide) <|
    avoids_bind (avoids_of_ok (addU64_ok.2 ⟨hlast, rfl⟩)) fun _ _ =>
    avoids_check (by decide) <|
    avoids_bind (avoids_applyBody h (lt_of_le_of_lt hbeat hworker) f) fun _ _ => avoids_of_ok rfl

/-- **The PXWP session invariant.**  Whatever frames are offered to a new session, in any order: the accepted ones carry
its identity and in each direction the sequences from one on; the table is within the limits, with distinct credits and an
exact ledger; every accepted Terminal answers an Invoke that was acknowledged once; later frames move the phase only
forward; nothing is active once the dialogue waits for its Stop; and no arithmetic fails while the sequences can be
counted. -/
theorem dialogue_within (sha256 : Sha256) (identity : ProcessSessionIdentity) (frames later : List ProcessFrame)
    (hbuilt : ∀ f ∈ frames ++ later, f.Built sha256) :
    Within identity (offer advance (new identity) frames).1 (offer advance (new identity) frames).2 ∧
    Forward (offer advance (new identity) frames).2.phase (offer advance (new identity) (frames ++ later)).2.phase ∧
    ∀ f, (offer advance (new identity) frames).2.hostSequence < u64Max →
      (offer advance (new identity) frames).2.workerSequence < u64Max →
      (offer advance (new identity) frames).2.advance f ≠ .error .integerOverflow := by
  have hfirst : ∀ f ∈ (offer advance (new identity) frames).1, f.Built sha256 := fun f hf =>
    hbuilt f (List.mem_append_left _ ((offer_sublist ..).subset hf))
  obtain ⟨hsound, _⟩ := sound_scan (sound_new identity) hfirst (scan_offer advance frames (new identity))
  rw [List.nil_append] at hsound
  refine ⟨hsound.within, ?_, fun f hhost hworker => avoids_advance hsound.table hsound.heartbeat hhost hworker f⟩
  have hsecond : ∀ f ∈ (offer advance (offer advance (new identity) frames).2 later).1, f.Built sha256 := fun f hf =>
    hbuilt f (List.mem_append_right _ ((offer_sublist ..).subset hf))
  rw [offer_append]
  exact (sound_scan hsound hsecond (scan_offer advance later _)).2

/-- The frames of one session, each from its sequence, direction, state, invocation and body. -/
def dialogue (parts : List (UInt64 × ProcessFrameDirection × ProcessWorkerState × UInt64 × ProcessFrameBody)) :
    List ProcessFrame :=
  parts.filterMap fun x =>
    (ProcessFrame.tryNew (fun _ => 0) Worker.fixtureIdentity x.1 x.2.1 x.2.2.1 x.2.2.2.1 x.2.2.2.2).toOption

theorem dialogue_built {parts : List (UInt64 × ProcessFrameDirection × ProcessWorkerState × UInt64 × ProcessFrameBody)}
    {f : ProcessFrame} (hf : f ∈ dialogue parts) : f.Built fun _ => 0 := by
  obtain ⟨x, _, hx⟩ := List.mem_filterMap.1 hf
  cases hnew : ProcessFrame.tryNew (fun _ => 0) Worker.fixtureIdentity x.1 x.2.1 x.2.2.1 x.2.2.2.1 x.2.2.2.2 with
  | error e =>
    rw [hnew] at hx
    cases hx
  | ok g =>
    rw [hnew] at hx
    cases hx
    exact ProcessFrame.built_of_tryNew hnew

/-- An instance is constructed and serves one invocation, which the worker acknowledges twice. -/
def servedFrames : List ProcessFrame := dialogue
  [(1, .hostToWorker, .starting, 0, .start 2 4096 1024 10 50), (1, .workerToHost, .starting, 0, .ready (.ofNat 1)),
    (2, .hostToWorker, .constructing, 0, .construct (.ofNat 1) (.ofNat 2) (.ofNat 3)),
    (2, .workerToHost, .constructing, 0, .constructed .constructed),
    (3, .hostToWorker, .running, 7, .invoke 5 16 100 [1, 2]), (3, .workerToHost, .running, 7, .invoked 5),
    (4, .workerToHost, .running, 7, .invoked 5), (4, .workerToHost, .running, 7, .terminal 5 .completed [3])]

def drainFrames : List ProcessFrame := dialogue
  [(4, .hostToWorker, .draining, 0, .stopAccepting), (5, .workerToHost, .draining, 0, .drained)]

/-- The second acknowledgement is refused, the Terminal after it accepted, and the dialogue drains from there. -/
theorem dialogue_within_served :
    (offer advance (new Worker.fixtureIdentity) servedFrames).1.map (·.body.kind) =
      [.start, .ready, .construct, .constructed, .invoke, .invoked, .terminal] ∧
    (offer advance (new Worker.fixtureIdentity) (servedFrames ++ drainFrames)).2.phase = .awaitStop ∧
    Within Worker.fixtureIdentity (offer advance (new Worker.fixtureIdentity) servedFrames).1
      (offer advance (new Worker.fixtureIdentity) servedFrames).2 ∧
    Forward (offer advance (new Worker.fixtureIdentity) servedFrames).2.phase
      (offer advance (new Worker.fixtureIdentity) (servedFrames ++ drainFrames)).2.phase := by
  have hbuilt : ∀ f ∈ servedFrames ++ drainFrames, f.Built fun _ => 0 := by
    intro f hf
    rcases List.mem_append.1 hf with hf | hf <;> exact dialogue_built hf
  obtain ⟨hwithin, hforward, -⟩ := dialogue_within (fun _ => 0) Worker.fixtureIdentity servedFrames drainFrames hbuilt
  exact ⟨by decide +kernel, by decide +kernel, hwithin, hforward⟩

end ProcessProtocolSession
end Process
end ParaEgox
