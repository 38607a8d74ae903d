import ParaEgox.JournalOutcome

/-!
# JournalFence — a superseded or interrupted operation never goes live

A takeover or a restart rewrites the phase of the prepared operation into one that no later transaction leads back from:
the operation can only be closed.  Together with the admission ledgers this fences every admitted operation off.
-/
namespace ParaEgox
namespace Journal

open Check RuntimeJournalState

def PreparedOperation.key (p : PreparedOperation) : Ref16 ×ₗ Ref16 := toLex (p.sourceScope, p.operationId)

def RuntimeJournalState.interrupts (s : RuntimeJournalState) : Prop :=
  s.lastTransaction = .tenureOnly ∨ s.lastTransaction = .startupInvalidation

variable {p : PreparedOperation} {s : RuntimeJournalState} {c : Contracts}

theorem key_of_identity {q : PreparedOperation} (h : preparedIdentityEqual q p = true) : q.key = p.key := by
  simp only [preparedIdentityEqual, Bool.and_eq_true, decide_eq_true_eq] at h
  obtain ⟨⟨⟨⟨⟨⟨⟨⟨⟨⟨⟨⟨⟨⟨⟨hscope, hop⟩, _⟩, _⟩, _⟩, _⟩, _⟩, _⟩, _⟩, _⟩, _⟩, _⟩, _⟩, _⟩, _⟩, _⟩ := h
  rw [PreparedOperation.key, PreparedOperation.key, hscope, hop]

theorem key_of_appends {terminals previous : List TerminalOperationRecord}
    {t : TerminalOperationRecord} (h : Appends terminals previous p t) : t.key = p.key := by
  have hmatch := h.matches
  simp only [terminalMatchesPrepared, Bool.and_eq_true, decide_eq_true_eq] at hmatch
  obtain ⟨⟨⟨⟨⟨⟨⟨⟨⟨⟨⟨⟨⟨⟨hscope, hop⟩, _⟩, _⟩, _⟩, _⟩, _⟩, _⟩, _⟩, _⟩, _⟩, _⟩, _⟩, _⟩, _⟩ := hmatch
  rw [TerminalOperationRecord.key, PreparedOperation.key, hscope, hop]

theorem key_ne_of_distinct (hs : s.AdmissionOk) {t : TerminalOperationRecord}
    (ht : t ∈ s.terminalOperations) {p : PreparedOperation} (hp : s.prepared = some p) : p.key ≠ t.key := by
  intro hkey
  have hpair := Prod.ext_iff.1 (toLex.injective hkey)
  exact hs.distinct t ht p hp hpair

/-! ## The fenced operation -/

/-- An operation that was interrupted while its first effect boundary was (`uncrossed`) or was not yet ahead. -/
def Fenced (key : Ref16 ×ₗ Ref16) (uncrossed : Bool) (s : RuntimeJournalState) : Prop :=
  (∃ q, s.prepared = some q ∧ q.key = key ∧ q.phase.superseded = true ∧
    (uncrossed = true → q.phase.beforeEffects = true)) ∨
  ∃ t ∈ s.terminalOperations, t.key = key ∧ t.selection.primary ≠ .oneSourceLoopActive ∧
    (uncrossed = true → (∃ head, t.headDisposition = .preserved head) ∧ t.action = none)

theorem fenced_of_interrupt {sha256 : Sha256} {s' : RuntimeJournalState}
    (h : Transition sha256 s s') (hp : s.prepared = some p) (hint : s'.interrupts) :
    Fenced p.key p.phase.beforeEffects s' := by
  rcases h.preparedNext hp with ⟨_, quiet⟩ | ⟨p', restart, next⟩ | ⟨next⟩ | ⟨_, _, _, transaction⟩ |
    ⟨_, _, _, _, _, _, _, _, _, _, _, transaction⟩ | ⟨_, _, _, _, _, _, quiet⟩
  case kept => exact (hint.elim quiet.noTenure quiet.noRestart).elim
  case restarted =>
    refine .inl ⟨p', next, key_of_identity (startupInvalidated_identity restart).1, ?_⟩
    rcases startupInvalidatedPreparedOp_eq restart with ⟨_, _, _, rfl⟩ | ⟨hcrossed, _, phase, hphase, _, rfl⟩
    · exact ⟨rfl, fun _ => rfl⟩
    · rw [hcrossed]
      refine ⟨?_, fun h => (nomatch h)⟩
      rcases hphase with rfl | rfl <;> rfl
  case taken =>
    refine .inl ⟨_, next, key_of_identity (tenureSuccessor_identity p).1, ?_⟩
    rcases tenureSuccessorPreparedOp_eq p with ⟨_, heq⟩ | ⟨hcrossed, heq⟩
    · rw [heq]
      exact ⟨rfl, fun _ => rfl⟩
    · rw [heq, hcrossed]
      exact ⟨rfl, fun h => (nomatch h)⟩
  case progressed => rcases hint with hint | hint <;> rw [transaction] at hint <;> cases hint
  case retired => rcases hint with hint | hint <;> rw [transaction] at hint <;> cases hint
  case completed => exact (hint.elim quiet.noTenure quiet.noRestart).elim

theorem superseded_phase {phase : PreparedPhase} (h : phase.superseded = true) :
    phase ≠ .preparedNoEffects ∧ phase ≠ .firstActionIntent := by
  cases phase <;> simp_all [PreparedPhase.superseded]

/-- **The step lemma**: a fenced operation stays fenced. -/
theorem Fenced.step {s' : RuntimeJournalState} {key : Ref16 ×ₗ Ref16} {uncrossed : Bool}
    (h : Transition c.sha256 s s') (hs : s.ActionsOk c) (hf : Fenced key uncrossed s) : Fenced key uncrossed s' := by
  rcases hf with ⟨q, hq, hkey, hphase, hbefore⟩ | ⟨t, ht, hkey, hprimary, hkept⟩
  · obtain ⟨hnotPrepared, hnotIntent⟩ := superseded_phase hphase
    rcases h.preparedNext hq with ⟨next, _⟩ | ⟨q', restart, next⟩ | ⟨next⟩ | ⟨q', progress, next⟩ |
      ⟨_, _, _, oldPhase⟩ | ⟨t, appends, _, _, active, fast⟩
    case kept => exact .inl ⟨q, next, hkey, hphase, hbefore⟩
    case restarted =>
      refine .inl ⟨q', next, (key_of_identity (startupInvalidated_identity restart).1).trans hkey, ?_⟩
      rcases startupInvalidatedPreparedOp_eq restart with ⟨_, _, _, rfl⟩ | ⟨hcrossed, _, phase, hp, _, rfl⟩
      · exact ⟨rfl, fun _ => rfl⟩
      · refine ⟨by rcases hp with rfl | rfl <;> rfl, fun hu => ?_⟩
        rw [hbefore hu] at hcrossed
        cases hcrossed
    case taken =>
      refine .inl ⟨_, next, (key_of_identity (tenureSuccessor_identity q).1).trans hkey, ?_⟩
      rcases tenureSuccessorPreparedOp_eq q with ⟨_, heq⟩ | ⟨hcrossed, heq⟩
      · rw [heq]
        exact ⟨rfl, fun _ => rfl⟩
      · rw [heq]
        refine ⟨rfl, fun hu => ?_⟩
        rw [hbefore hu] at hcrossed
        cases hcrossed
    case progressed =>
      rcases progress.moved with ⟨hsame, _, _⟩ | ⟨hfirst, _⟩
      · exact .inl ⟨q', next, (key_of_identity progress.identity).trans hkey, by rwa [hsame], by rwa [hsame]⟩
      · simp [isFirstActionIntent, hnotPrepared] at hfirst
    case retired => exact absurd oldPhase hnotPrepared
    case completed =>
      refine .inr ⟨t, appends.mem, (key_of_appends appends).trans hkey, fun ha => hnotIntent (active ha), fun hu => ?_⟩
      obtain ⟨hdisposition, _, _⟩ := fast (hbefore hu) hnotPrepared
      refine ⟨⟨_, hdisposition⟩, ?_⟩
      have hpresent := (hs.prepared q hq).present
      rw [appends_action appends]
      have hb := hbefore hu
      revert hpresent hb
      cases q.phase <;> simp [PreparedPhase.requiresAction, PreparedPhase.beforeEffects]
  · exact .inr ⟨t, h.terminalOperations t ht, hkey, hprimary, hkept⟩

/-! ## Admissions -/

def RuntimeJournalState.admitted (s : RuntimeJournalState) : List (Digest32 × Digest32) :=
  s.terminalOperations.map (fun t => (t.requestNonceIdentity, t.requestDigest))
    ++ s.prepared.toList.map (fun p => (p.requestNonceIdentity, p.request.digest))

def RuntimeJournalState.noncePairs (s : RuntimeJournalState) : List (Digest32 × Digest32) :=
  s.host.requestNonces.map fun r => (r.identity, r.valueDigest)

theorem admitted_count (s : RuntimeJournalState) (nonce : ReplayLedgerRecord) :
    s.admitted.count (nonce.identity, nonce.valueDigest) =
      (s.preparedOwnsNonce nonce).toNat + s.terminalOperations.countP (terminalOwnsNonce nonce) := by
  have hterminals : (s.terminalOperations.map (fun t => (t.requestNonceIdentity, t.requestDigest))).count
      (nonce.identity, nonce.valueDigest) = s.terminalOperations.countP (terminalOwnsNonce nonce) := by
    rw [List.count, List.countP_map]
    congr 1
  rw [admitted, List.count_append, hterminals, Nat.add_comm]
  congr 1
  cases hp : s.prepared with
  | none => simp [preparedOwnsNonce, hp]
  | some p =>
    by_cases howns : p.requestNonceIdentity = nonce.identity ∧ p.request.digest = nonce.valueDigest
    · simp [preparedOwnsNonce, hp, howns]
    · have hne : (p.requestNonceIdentity, p.request.digest) ≠ (nonce.identity, nonce.valueDigest) :=
        fun heq => howns (Prod.ext_iff.1 heq)
      have hzero : (decide (p.requestNonceIdentity = nonce.identity)
          && decide (p.request.digest = nonce.valueDigest)) = false := by
        rw [← Bool.decide_and]
        exact decide_eq_false howns
      simp [preparedOwnsNonce, hp, List.count_cons_of_ne hne, hzero]

theorem mem_noncePairs_of_admitted {sequence : U64} (hs : s.Valid c sequence)
    {pair : Digest32 × Digest32} (h : pair ∈ s.admitted) : pair ∈ s.noncePairs := by
  rcases List.mem_append.1 h with h | h
  · obtain ⟨t, ht, rfl⟩ := List.mem_map.1 h
    obtain ⟨record, hrecord, howns⟩ := hs.admission.terminalNonce t ht
    simp only [terminalOwnsNonce, Bool.and_eq_true, decide_eq_true_eq] at howns
    exact List.mem_map.2 ⟨record, hrecord, by rw [howns.1, howns.2]⟩
  · obtain ⟨p, hp, rfl⟩ := List.mem_map.1 h
    obtain ⟨common, hscope⟩ := hs.scope
    have hvalid := (hscope.prepared p (Option.mem_toList.1 hp)).valid
    simp only [PreparedOperation.validate, PreparedOperation.validateAdmitted, bind_ok, exists_unit, rejectIf_ok,
      not_or, not_not] at hvalid
    obtain ⟨⟨_, _, _, _, _, _, _, _, _, _, _, _, ⟨⟨record, hrecord, hid, hdigest⟩, _⟩, _⟩, _⟩ := hvalid
    exact List.mem_map.2 ⟨record, hrecord, by rw [hid, hdigest]⟩

/-- **The request nonces are, one for one, the completed operations and the prepared one.** -/
theorem noncePairs_perm {sequence : U64} (hs : s.Valid c sequence) :
    s.noncePairs.Nodup ∧ s.noncePairs.Perm s.admitted := by
  have hledger := ((validateReplayRecords_ok _ _).1 hs.host.requestNonces).2.1
  have hnodup : s.noncePairs.Nodup := by
    refine List.pairwise_map.2 (hledger.imp fun hlt heq => ?_)
    have hid := (Prod.ext_iff.1 heq).1
    exact absurd hid (ne_of_lt hlt)
  have hone : ∀ pair ∈ s.noncePairs, s.admitted.count pair = 1 := by
    intro pair hpair
    obtain ⟨nonce, hnonce, rfl⟩ := List.mem_map.1 hpair
    rw [admitted_count, hs.admission.nonces nonce hnonce]
  have hadmitted : s.admitted.Nodup := by
    refine List.nodup_iff_count_le_one.2 fun pair => ?_
    by_cases hmem : pair ∈ s.admitted
    · exact (hone pair (mem_noncePairs_of_admitted hs hmem)).le
    · rw [List.count_eq_zero.2 hmem]
      exact Nat.zero_le 1
  refine ⟨hnodup, (List.perm_ext_iff_of_nodup hnodup hadmitted).2 fun pair => ⟨fun h => ?_, ?_⟩⟩
  · exact List.count_pos_iff.1 (by rw [hone pair h]; exact Nat.one_pos)
  · exact mem_noncePairs_of_admitted hs

/-! ## Chains -/

namespace RuntimeJournalSnapshot

variable {c : Contracts} {s : RuntimeJournalState}

theorem Chain.fenced {a b : RuntimeJournalSnapshot} {key : Ref16 ×ₗ Ref16} {uncrossed : Bool}
    (ha : a.Built c) (h : Chain c a b) (hf : Fenced key uncrossed a.state) : Fenced key uncrossed b.state := by
  induction h with
  | refl => exact hf
  | tail hchain hstep ih => exact ih.step hstep.transition (Chain.built ha hchain).valid.actions

theorem fenced_terminal {sequence : U64} (hs : s.Valid c sequence)
    {key : Ref16 ×ₗ Ref16} {uncrossed : Bool} (hf : Fenced key uncrossed s) {t : TerminalOperationRecord}
    (ht : t ∈ s.terminalOperations) (hkey : t.key = key) : t.selection.primary ≠ .oneSourceLoopActive ∧
      (uncrossed = true → (∃ head, t.headDisposition = .preserved head) ∧ t.action = none) := by
  rcases hf with ⟨q, hq, hqkey, _⟩ | ⟨t', ht', hkey', hprimary, hkept⟩
  · exact absurd (hqkey.trans hkey.symm) (key_ne_of_distinct hs.admission ht hq)
  · rw [hs.terminalOrder.inj _ t ht t' ht' (hkey.trans hkey'.symm)]
    exact ⟨hprimary, hkept⟩

theorem fenced_prepared {sequence : U64} (hs : s.Valid c sequence)
    {key : Ref16 ×ₗ Ref16} {uncrossed : Bool} (hf : Fenced key uncrossed s) {q : PreparedOperation}
    (hq : s.prepared = some q) (hkey : q.key = key) : q.phase.superseded = true ∧
      (uncrossed = true → q.phase.beforeEffects = true) := by
  rcases hf with ⟨q', hq', _, hphase, hbefore⟩ | ⟨t, ht, hkey', _, _⟩
  · rw [hq] at hq'
    cases hq'
    exact ⟨hphase, hbefore⟩
  · exact absurd (hkey.trans hkey'.symm) (key_ne_of_distinct hs.admission ht hq)

theorem action_none_of_before (hs : s.ActionsOk c) {q : PreparedOperation}
    (hq : s.prepared = some q) (hbefore : q.phase.beforeEffects = true) : q.action = none := by
  have hpresent := (hs.prepared q hq).present
  revert hpresent hbefore
  cases q.phase <;> simp [PreparedPhase.requiresAction, PreparedPhase.beforeEffects]

theorem Step.resources_of_fenced {d e : RuntimeJournalSnapshot} (h : Step c d e)
    {q : PreparedOperation} (hq : d.state.prepared = some q) (hsup : q.phase.superseded = true)
    (hbefore : q.phase.beforeEffects = true) (hnone : e.state.prepared = none) :
    e.state.ownedResources = d.state.ownedResources := by
  rcases h.transition.preparedNext hq with ⟨next, _⟩ | ⟨_, _, next⟩ | ⟨next⟩ | ⟨_, _, next⟩ |
    ⟨_, _, _, _, _, _, _, _, next⟩ | ⟨_, _, _, _, _, fast, _⟩
  case completed => exact (fast hbefore (superseded_phase hsup).1).2.2
  all_goals
    rw [hnone] at next
    cases next

/-- **What a fenced operation can still do at a snapshot**: its terminal is never `OneSourceLoopActive` and no step enters
`EmptyHeadRetire` with it; an operation that had not crossed its first effect boundary never has an action, the step
that closes it leaves every resource, and its terminal preserves the head. -/
structure NeverLive (c : Contracts) (p : PreparedOperation) (d : RuntimeJournalSnapshot) : Prop where
  terminal : ∀ t ∈ d.state.terminalOperations, t.key = p.key → t.selection.primary ≠ .oneSourceLoopActive
  retire : ∀ e, Step c d e → e.state.lastTransaction = .emptyHeadRetire →
    ∀ q, d.state.prepared = some q → q.key ≠ p.key
  preserved : p.phase.beforeEffects = true → ∀ t ∈ d.state.terminalOperations, t.key = p.key →
    (∃ head, t.headDisposition = .preserved head) ∧ t.action = none
  untouched : p.phase.beforeEffects = true → ∀ q, d.state.prepared = some q → q.key = p.key → q.action = none ∧
    ∀ e, Step c d e → e.state.prepared = none → e.state.ownedResources = d.state.ownedResources

theorem neverLive_of_interrupt {a b d : RuntimeJournalSnapshot} {p : PreparedOperation}
    (hb : Step c a b) (hd : Chain c b d) (hp : a.state.prepared = some p) (hint : b.state.interrupts) :
    NeverLive c p d := by
  have hvalid := (Chain.built hb.built hd).valid
  have hf := Chain.fenced hb.built hd (fenced_of_interrupt hb.transition hp hint)
  refine ⟨fun t ht hkey => (fenced_terminal hvalid hf ht hkey).1, fun e he hretire q hq hkey => ?_,
    fun hbefore t ht hkey => (fenced_terminal hvalid hf ht hkey).2 hbefore, fun hbefore q hq hkey => ?_⟩
  · obtain ⟨hsup, _⟩ := fenced_prepared hvalid hf hq hkey
    rcases he.transition.preparedNext hq with ⟨_, quiet⟩ | ⟨_, _, _, transaction⟩ | ⟨_, transaction⟩ |
      ⟨_, _, _, transaction⟩ | ⟨_, _, _, oldPhase⟩ | ⟨_, _, _, _, _, _, quiet⟩
    case kept => exact quiet.noRetire hretire
    case retired => exact (superseded_phase hsup).1 oldPhase
    case completed => exact quiet.noRetire hretire
    all_goals
      rw [hretire] at transaction
      cases transaction
  · obtain ⟨hsup, hbefore'⟩ := fenced_prepared hvalid hf hq hkey
    exact ⟨action_none_of_before hvalid.actions hq (hbefore' hbefore),
      fun e he hnone => he.resources_of_fenced hq hsup (hbefore' hbefore) hnone⟩

/-- **A superseded or interrupted operation never goes live.**  At every snapshot of a chain from `try_initialize`: a
takeover or restart of its prepared operation fences the operation on every continuation; a completed operation has one
terminal and is never prepared again; and the request nonces are, one for one, the completed operations and the
prepared one. -/
theorem interrupted_never_live {c : Contracts} {first a : RuntimeJournalSnapshot} (hfirst : Initial c first)
    (ha : Chain c first a) :
    (∀ b d p, Step c a b → Chain c b d → a.state.prepared = some p → b.state.interrupts → NeverLive c p d) ∧
    (∀ t ∈ a.state.terminalOperations, (∀ t' ∈ a.state.terminalOperations, t'.key = t.key → t' = t) ∧
      ∀ d, Chain c a d → ∀ q, d.state.prepared = some q → q.key ≠ t.key) ∧
    a.state.noncePairs.Nodup ∧ a.state.noncePairs.Perm a.state.admitted := by
  have hbuilt := Chain.built hfirst.built ha
  refine ⟨fun b d p hb hd hp hint => neverLive_of_interrupt hb hd hp hint, fun t ht => ⟨fun t' ht' hkey => ?_,
    fun d hd q hq => ?_⟩, noncePairs_perm hbuilt.valid⟩
  · exact hbuilt.valid.terminalOrder.inj _ t' ht' t ht hkey
  · have hlater := (Chain.extends hbuilt hd).2.2.terminalOperations t ht
    exact key_ne_of_distinct (Chain.built hbuilt hd).valid.admission hlater hq

theorem interrupted_never_live_restart : ∃ run p, Sample.interruptedRun = .ok run ∧ run.mid.state.prepared = some p ∧
    NeverLive Sample.contracts p run.last := by
  obtain ⟨run, hrun, hfirst, hmid, hcut, hlast, ⟨p, hp⟩, htransaction, _⟩ := Sample.interruptedRun_ok
  have h := interrupted_never_live hfirst (runBuilders_chain hmid)
  exact ⟨run, p, hrun, hp, h.1 run.cut run.last p (Builder.call_step hcut) (.single (Builder.call_step hlast)) hp
    (.inr htransaction)⟩

end RuntimeJournalSnapshot

end Journal
end ParaEgox
