import ParaEgox.JournalFence

/-!
# JournalHead — compare-and-swap of the desired head

The compare-and-swap is checked at admission and the head is committed many transactions later.  `HeadInv` carries the
check from the one to the other; the terminals replay the head in completion order.
-/
namespace ParaEgox
namespace Journal

open Check RuntimeJournalState

/-- The operation has not committed its head: a start, or an empty operation without its drain. -/
def PreparedOperation.uncommitted (p : PreparedOperation) : Prop :=
  p.incomingKind = .oneSourceLoop ∨ p.action = none

/-- **The head invariant**: an operation that has not committed its head still finds the head it expects, of a lower
revision; an empty operation with a drain has committed its own. -/
structure HeadInv (s : RuntimeJournalState) : Prop where
  cas : ∀ p, s.prepared = some p → p.uncommitted → expectedActiveMatches p.expectedActive s.activeDesired = true
  below : ∀ p, s.prepared = some p → p.uncommitted → ∀ a, s.activeDesired = some a → a.sourceRevision < p.sourceRevision
  committed : ∀ p, s.prepared = some p → ¬ p.uncommitted → ∃ a, s.activeDesired = some a ∧ headOf p a = true

variable {p : PreparedOperation} {s s' : RuntimeJournalState} {c : Contracts} {sequence : U64}

theorem head_of_identity {q : PreparedOperation} (h : preparedIdentityEqual q p = true) :
    q.expectedActive = p.expectedActive ∧ q.sourceRevision = p.sourceRevision ∧ q.incomingKind = p.incomingKind ∧
      ∀ a, headOf q a = headOf p a := by
  simp only [preparedIdentityEqual, Bool.and_eq_true, decide_eq_true_eq] at h
  obtain ⟨⟨⟨⟨⟨⟨⟨⟨⟨⟨⟨⟨⟨⟨⟨h1, h2⟩, h3⟩, _⟩, h5⟩, _⟩, h7⟩, h8⟩, h9⟩, _⟩, h11⟩, _⟩, _⟩, _⟩, _⟩, _⟩ := h
  exact ⟨h11, h3, h9, fun a => by simp only [headOf, h1, h2, h3, h5, h7, h8]⟩

theorem HeadInv.transfer (hinv : HeadInv s) (hactive : s'.activeDesired = s.activeDesired)
    (hprepared : ∀ q, s'.prepared = some q → ∃ p, s.prepared = some p ∧ preparedIdentityEqual q p = true ∧
      (q.uncommitted ↔ p.uncommitted)) : HeadInv s' where
  cas q hq hun := by
    obtain ⟨p, hp, hid, hiff⟩ := hprepared q hq
    rw [(head_of_identity hid).1, hactive]
    exact hinv.cas p hp (hiff.1 hun)
  below q hq hun a ha := by
    obtain ⟨p, hp, hid, hiff⟩ := hprepared q hq
    rw [hactive] at ha
    rw [(head_of_identity hid).2.1]
    exact hinv.below p hp (hiff.1 hun) a ha
  committed q hq hun := by
    obtain ⟨p, hp, hid, hiff⟩ := hprepared q hq
    obtain ⟨a, ha, hhead⟩ := hinv.committed p hp (fun h => hun (hiff.2 h))
    exact ⟨a, by rw [hactive, ha], by rw [(head_of_identity hid).2.2.2 a, hhead]⟩

theorem uncommitted_congr {q : PreparedOperation} (hid : preparedIdentityEqual q p = true)
    (haction : q.action = p.action) : q.uncommitted ↔ p.uncommitted := by
  rw [PreparedOperation.uncommitted, PreparedOperation.uncommitted, (head_of_identity hid).2.2.1, haction]

theorem HeadInv.of_none (h : s.prepared = none) : HeadInv s := by
  have hno : ∀ p, s.prepared ≠ some p := fun p hp => by rw [h] at hp; cases hp
  exact ⟨fun p hp => absurd hp (hno p), fun p hp => absurd hp (hno p), fun p hp => absurd hp (hno p)⟩

/-- **The step lemma**: every accepted transaction keeps the head invariant. -/
theorem HeadInv.step (h : Transition c.sha256 s s') (hs : s.Valid c sequence) (hinv : HeadInv s) : HeadInv s' := by
  have hsame : ∀ q, s.prepared = some q → ∃ p, s.prepared = some p ∧ preparedIdentityEqual q p = true ∧
      (q.uncommitted ↔ p.uncommitted) := fun q hq => ⟨q, hq, preparedIdentityEqual_rfl q, Iff.rfl⟩
  cases h with
  | startupInvalidation prepared _ _ _ _ _ _ _ hprepared =>
    refine hinv.transfer rfl fun q hq => ?_
    cases hp : s.prepared with
    | none =>
      rw [hp] at hprepared
      cases hprepared
      cases hq
    | some p =>
      rw [hp, startupInvalidatedPrepared, bind_ok] at hprepared
      obtain ⟨p', hp', heq⟩ := hprepared
      have hq' : q = p' := Option.some.inj (hq.symm.trans (pure_ok.1 heq).symm)
      subst hq'
      obtain ⟨hid, haction⟩ := startupInvalidated_identity hp'
      exact ⟨p, rfl, hid, uncommitted_congr hid haction⟩
  | tenureOnly =>
    refine hinv.transfer rfl fun q hq => ?_
    obtain ⟨p, hp, rfl⟩ := Option.map_eq_some_iff.1 hq
    obtain ⟨hid, haction⟩ := tenureSuccessor_identity p
    exact ⟨p, hp, hid, uncommitted_congr hid haction⟩
  | fullAdmission _ _ prepared highWater _ _ _ action _ _ _ _ _ _ _ revision above cas _ =>
    refine ⟨fun q hq _ => ?_, fun q hq _ a ha => ?_, fun q hq hun => ?_⟩
    · cases hq
      exact cas
    · cases hq
      obtain ⟨common, hscope⟩ := hs.scope
      obtain ⟨old, hold, _, hle⟩ := (hscope.active a ha).revision
      calc a.sourceRevision ≤ old.revision := hle
        _ < highWater.revision := above old hold
        _ = prepared.sourceRevision := revision
    · cases hq
      exact absurd (.inr action) hun
  | preparedProgress current old hold progress =>
    refine hinv.transfer rfl fun q hq => ?_
    cases hq
    refine ⟨old, hold, progress.identity, ?_⟩
    rcases progress.moved with ⟨_, haction, _⟩ | ⟨hfirst, _⟩
    · exact uncommitted_congr progress.identity haction
    · simp only [isFirstActionIntent, Bool.and_eq_true, decide_eq_true_eq] at hfirst
      have hkind : current.incomingKind = .oneSourceLoop := hfirst.1.1.1.2
      exact ⟨fun _ => .inl ((head_of_identity progress.identity).2.2.1.symm.trans hkind), fun _ => .inl hkind⟩
  | emptyHeadRetire old current _ active _ _ _ action _ _ _ _ _ _ _ haction _ kind _ _ identity _ _ _ _ _ _ head _ _ _ _ =>
    have hun : ¬ current.uncommitted := by
      rintro (hone | hnone)
      · rw [(head_of_identity identity).2.2.1, kind] at hone
        cases hone
      · rw [haction] at hnone
        cases hnone
    refine ⟨fun q hq h => ?_, fun q hq h => ?_, fun q hq _ => ?_⟩
    · cases hq
      exact absurd h hun
    · cases hq
      exact absurd h hun
    · cases hq
      exact ⟨active, rfl, head⟩
  | startPublished => exact .of_none rfl
  | startClosed => exact .of_none rfl
  | exactZeroTerminal => exact .of_none rfl
  | operationTerminalNoEffects => exact .of_none rfl
  | resourceProgress => exact hinv.transfer rfl hsame
  | recoveryPlan => exact hinv.transfer rfl hsame
  | recoveryProgress => exact hinv.transfer rfl hsame
  | recoveryPublished => exact hinv.transfer rfl hsame
  | recoveryFailed => exact hinv.transfer rfl hsame
  | recoveryAbortNoEffects => exact hinv.transfer rfl hsame
  | quarantine => exact hinv.transfer rfl hsame

/-! ## Committing a head -/

def ActiveDesiredHead.identity (a : ActiveDesiredHead) : Digest32 × DurableSliceProvenance :=
  (a.slice.digest, a.sliceProvenance)

def ChangesHead (s s' : RuntimeJournalState) : Prop :=
  s'.activeDesired.map (·.identity) ≠ s.activeDesired.map (·.identity)

theorem activeHead_of_identity
    (h : s'.activeDesired.map (·.identity) = s.activeDesired.map (·.identity)) : s'.activeHead = s.activeHead := by
  have hfst := congrArg (Option.map Prod.fst) h
  rwa [Option.map_map, Option.map_map] at hfst

/-- **A head is committed by compare-and-swap**: it is the slice of the prepared operation, over exactly the head that
operation expected, at a higher revision. -/
structure CommitsHead (s s' : RuntimeJournalState) (p : PreparedOperation) (a : ActiveDesiredHead) : Prop where
  prepared : s.prepared = some p
  active : s'.activeDesired = some a
  head : headOf p a = true
  cas : expectedActiveMatches p.expectedActive s.activeDesired = true
  above : ∀ old, s.activeDesired = some old → old.sourceRevision < a.sourceRevision

theorem headOf_facts {a : ActiveDesiredHead} (h : headOf p a = true) :
    a.sourceRevision = p.sourceRevision ∧ a.identity = (p.incomingSliceDigest, p.sliceProvenance) := by
  simp only [headOf, Bool.and_eq_true, decide_eq_true_eq] at h
  obtain ⟨⟨⟨⟨⟨_, hrev⟩, hprov⟩, hslice⟩, _⟩, _⟩ := h
  exact ⟨hrev, by rw [ActiveDesiredHead.identity, hslice, hprov]⟩

theorem commitsHead_of_uncommitted (hinv : HeadInv s) {p : PreparedOperation}
    {a : ActiveDesiredHead} (hp : s.prepared = some p) (hun : p.uncommitted) (ha : s'.activeDesired = some a)
    (hhead : headOf p a = true) : CommitsHead s s' p a :=
  ⟨hp, ha, hhead, hinv.cas p hp hun, fun old hold => by
    rw [(headOf_facts hhead).1]
    exact hinv.below p hp hun old hold⟩

theorem commitsHead_of_changes
    (h : Transition c.sha256 s s') (hs : s.Valid c sequence) (hinv : HeadInv s) (hchange : ChangesHead s s') :
    ∃ p a, CommitsHead s s' p a := by
  cases h with
  | startPublished p _ _ active _ _ _ hp _ _ _ kind _ _ _ _ _ head =>
    exact ⟨p, active, commitsHead_of_uncommitted hinv hp (.inl kind) rfl head⟩
  | emptyHeadRetire old current _ active _ _ _ _ _ _ _ _ hold _ _ _ _ _ oldPhase _ identity _ _ _ _ _ _ head _ _ _ _ =>
    have hnone := RuntimeJournalSnapshot.action_none_of_before hs.actions hold (by rw [oldPhase]; rfl)
    rw [(head_of_identity identity).2.2.2 active] at head
    exact ⟨old, active, commitsHead_of_uncommitted hinv hold (.inr hnone) rfl head⟩
  | exactZeroTerminal p active _ _ _ _ _ hp _ _ kind _ head _ _ _ _ _ hresource =>
    by_cases hun : p.uncommitted
    · exact ⟨p, active, commitsHead_of_uncommitted hinv hp hun rfl head⟩
    · -- after a head-first retire the terminal commits the head that is already there
      obtain ⟨old, hold, hheadOld⟩ := hinv.committed p hp hun
      refine absurd ?_ hchange
      show Option.map _ (some active) = Option.map _ s.activeDesired
      rw [hold, Option.map_some, Option.map_some, (headOf_facts head).2, (headOf_facts hheadOld).2]
  | _ => exact absurd rfl hchange

theorem head_revision (hs : s.Valid c sequence)
    {a : ActiveDesiredHead} (ha : s.activeDesired = some a) : a.sliceProvenance.sourceRevision = a.sourceRevision := by
  obtain ⟨common, hscope⟩ := hs.scope
  have hvalid := (hscope.active a ha).valid
  simp only [ActiveDesiredHead.validate, bind_ok, exists_unit, rejectIf_ok, not_or, not_not, ne_eq] at hvalid
  exact hvalid.2.2.2.2.1.2.1

theorem head_revision_mono {sequence' : U64}
    (h : Transition c.sha256 s s') (hs : s.Valid c sequence) (hs' : s'.Valid c sequence') (hinv : HeadInv s) :
    ∀ a, s.activeDesired = some a → ∃ a', s'.activeDesired = some a' ∧ a.sourceRevision ≤ a'.sourceRevision := by
  intro a ha
  by_cases hchange : ChangesHead s s'
  · obtain ⟨p, a', hcommit⟩ := commitsHead_of_changes h hs hinv hchange
    exact ⟨a', hcommit.active, (hcommit.above a ha).le⟩
  · rw [ChangesHead, ne_eq, not_not, ha, Option.map_some, Option.map_eq_some_iff] at hchange
    obtain ⟨a', ha', hid⟩ := hchange
    have hprovenance : a'.sliceProvenance = a.sliceProvenance := (Prod.ext_iff.1 hid).2
    refine ⟨a', ha', ?_⟩
    rw [← head_revision hs ha, ← head_revision hs' ha', hprovenance]

/-! ## Replaying the head from the terminals -/

def TerminalOperationRecord.commits (t : TerminalOperationRecord) : Prop := t.headDisposition = .committedIncoming

structure LatestCommit (terminals : List TerminalOperationRecord) (t : TerminalOperationRecord) : Prop where
  mem : t ∈ terminals
  commits : t.commits
  latest : ∀ t' ∈ terminals, t'.commits → t'.completionSnapshotSequence ≤ t.completionSnapshotSequence

theorem headStep_ok {chain chain' : HeadChain} {t : TerminalOperationRecord} (h : headStep chain t = .ok chain') :
    (∀ p, chain.previousCompletion = some p → p < t.completionSnapshotSequence) ∧
      chain'.previousCompletion = some t.completionSnapshotSequence ∧
      (t.commits → chain'.committedHead = some t.targetSliceDigest) ∧
      (¬ t.commits → chain'.committedHead = chain.committedHead) := by
  simp only [headStep, bind_ok, rejectIf_ok, exists_unit, notBelow_eq_false] at h
  obtain ⟨hbelow, h⟩ := h
  cases hd : t.headDisposition with
  | preserved expected =>
    rw [hd] at h
    simp only at h
    split at h
    · simp only [bind_ok, pure_ok] at h
      obtain ⟨head, hhead, rfl⟩ := h
      cases hhead
      exact ⟨hbelow, rfl, fun hc => (by rw [TerminalOperationRecord.commits, hd] at hc; cases hc), fun _ => rfl⟩
    · simp at h
  | committedIncoming =>
    rw [hd] at h
    simp only [bind_ok, pure_ok] at h
    obtain ⟨head, hhead, rfl⟩ := h
    cases hhead
    exact ⟨hbelow, rfl, fun _ => rfl, fun hn => absurd hd hn⟩

theorem headChain_above : ∀ {terminals : List TerminalOperationRecord} {chain chain' : HeadChain},
    scan headStep chain terminals = .ok chain' → ∀ p, chain.previousCompletion = some p →
      ∀ t ∈ terminals, p < t.completionSnapshotSequence
  | [], _, _, _, _, _, t, ht => by cases ht
  | x :: xs, chain, chain', h, p, hp, t, ht => by
    obtain ⟨m, hm, hrest⟩ := (scan_ok_cons _ _ _ _ _).1 h
    obtain ⟨hbelow, hcompletion, _, _⟩ := headStep_ok hm
    rcases List.mem_cons.1 ht with rfl | ht
    · exact hbelow p hp
    · exact lt_trans (hbelow p hp) (headChain_above hrest _ hcompletion t ht)

theorem headChain_latest : ∀ {terminals : List TerminalOperationRecord} {chain chain' : HeadChain},
    scan headStep chain terminals = .ok chain' →
      (∀ t, LatestCommit terminals t → chain'.committedHead = some t.targetSliceDigest) ∧
        ((∀ t ∈ terminals, ¬ t.commits) → chain'.committedHead = chain.committedHead)
  | [], chain, chain', h => by
    cases h
    exact ⟨fun t ht => (by cases ht.mem), fun _ => rfl⟩
  | x :: xs, chain, chain', h => by
    obtain ⟨m, hm, hrest⟩ := (scan_ok_cons _ _ _ _ _).1 h
    obtain ⟨_, hcompletion, hcommit, hkeep⟩ := headStep_ok hm
    obtain ⟨ihLatest, ihNone⟩ := headChain_latest hrest
    refine ⟨fun t ht => ?_, fun hnone => ?_⟩
    · rcases List.mem_cons.1 ht.mem with rfl | hmem
      · -- nothing after the latest commit commits
        rw [ihNone fun y hy hyc => ?_, hcommit ht.commits]
        have hlt := headChain_above hrest _ hcompletion y hy
        exact absurd (ht.latest y (List.mem_cons_of_mem _ hy) hyc) (not_le_of_gt hlt)
      · exact ihLatest t ⟨hmem, ht.commits, fun y hy => ht.latest y (List.mem_cons_of_mem _ hy)⟩
    · obtain ⟨hx, hxs⟩ := List.forall_mem_cons.1 hnone
      rw [ihNone hxs, hkeep hx]

def RuntimeJournalState.emptyRetireInProgress (s : RuntimeJournalState) : Prop :=
  ∃ p, s.prepared = some p ∧ p.incomingKind = .emptyDeactivate ∧ p.phase.mayRetire = true

theorem activeHead_of_terminals (hs : s.Valid c sequence) (hretire : ¬ s.emptyRetireInProgress) :
    (∀ t, LatestCommit s.terminalOperations t → s.activeHead = some t.targetSliceDigest) ∧
      ((∀ t ∈ s.terminalOperations, ¬ t.commits) → s.activeHead = none) := by
  have hheads := hs.heads
  simp only [validateTerminalHeadChain, bind_ok, rejectIf_ok, not_and, not_not] at hheads
  obtain ⟨chain, hscan, hhead⟩ := hheads
  have hnot : ¬ s.headFirstEmptyInProgress chain.committedHead = true := by
    intro h
    rw [headFirstEmptyInProgress, Option.any_eq_true] at h
    obtain ⟨p, hp, h⟩ := h
    simp only [Bool.and_eq_true, decide_eq_true_eq] at h
    exact hretire ⟨p, hp, h.1.1.1, h.1.1.2⟩
  rw [hhead hnot]
  obtain ⟨hlatest, hnone⟩ := headChain_latest hscan
  have hmem : ∀ t, t ∈ s.chronological ↔ t ∈ s.terminalOperations := fun t => Keyed.mem_sortBy _
  refine ⟨fun t ht => hlatest t ⟨(hmem t).2 ht.mem, ht.commits, fun t' ht' => ht.latest t' ((hmem t').1 ht')⟩,
    fun h => hnone fun t ht => h t ((hmem t).1 ht)⟩

/-! ## The head in force when a terminal was written -/

theorem preserved_of_new (h : Transition c.sha256 s s')
    (hs : s.Valid c sequence) {t : TerminalOperationRecord} (ht : t ∈ s'.terminalOperations)
    (hnew : t ∉ s.terminalOperations) {head : Option TargetSliceDigest} (hd : t.headDisposition = .preserved head) :
    head = s.activeHead ∧ s'.activeHead = s.activeHead := by
  have written : ∀ {p t' terminals}, s.prepared = some p → Appends terminals s.terminalOperations p t' → t ∈ terminals →
      t = t' := by
    intro p t' terminals hp happ hmem
    have hperm := happ.perm hs.terminalOrder (happ.fresh hs hp)
    exact (List.mem_cons.1 (hperm.mem_iff.1 hmem)).resolve_right hnew
  cases h with
  | startPublished p _ t' _ _ _ _ hp _ appends _ _ _ _ _ _ _ _ _ _ disposition =>
    rw [written hp appends ht, disposition] at hd
    cases hd
  | startClosed p _ t' _ _ _ hp _ appends _ _ _ _ _ _ disposition =>
    rw [written hp appends ht, disposition] at hd
    cases hd
    exact ⟨rfl, rfl⟩
  | exactZeroTerminal p _ t' _ _ _ _ hp appends _ _ _ _ _ _ disposition =>
    rw [written hp appends ht, disposition] at hd
    cases hd
  | operationTerminalNoEffects p t' _ hp appends _ _ _ _ _ _ _ disposition =>
    rw [written hp appends ht, disposition] at hd
    cases hd
    exact ⟨rfl, rfl⟩
  | _ => exact absurd ht hnew

namespace RuntimeJournalSnapshot

variable {c : Contracts} {first : RuntimeJournalSnapshot}

theorem Initial.state_eq {s : RuntimeJournalSnapshot} (h : Initial c s) :
    ∃ initial, s.state = initialState initial := by
  obtain ⟨_, _, initial, h⟩ := h
  exact ⟨initial, (tryNew_built h).2.2.2.2⟩

theorem Chain.headInv {a : RuntimeJournalSnapshot} (hfirst : Initial c first)
    (h : Chain c first a) : HeadInv a.state := by
  induction h with
  | refl =>
    obtain ⟨initial, heq⟩ := hfirst.state_eq
    rw [heq]
    exact .of_none rfl
  | tail hchain hstep ih => exact ih.step hstep.transition (Chain.built hfirst.built hchain).valid

theorem Chain.head_mono {a b : RuntimeJournalSnapshot} (hfirst : Initial c first)
    (ha : Chain c first a) (hb : Chain c a b) : ∀ old, a.state.activeDesired = some old →
      ∃ new, b.state.activeDesired = some new ∧ old.sourceRevision ≤ new.sourceRevision := by
  induction hb with
  | refl => exact fun old h => ⟨old, h, le_rfl⟩
  | tail hchain hstep ih =>
    intro old hold
    obtain ⟨mid, hmid, hle⟩ := ih old hold
    have hfrom : Chain c first _ := ha.trans hchain
    obtain ⟨new, hnew, hle'⟩ := head_revision_mono hstep.transition (Chain.built hfirst.built hfrom).valid
      hstep.built.valid (Chain.headInv hfirst hfrom) mid hmid
    exact ⟨new, hnew, hle.trans hle'⟩

theorem Chain.preserved {b : RuntimeJournalSnapshot} (hfirst : Initial c first)
    (h : Chain c first b) : ∀ t ∈ b.state.terminalOperations, ∀ head, t.headDisposition = .preserved head →
      ∃ d e, Chain c first d ∧ Step c d e ∧ Chain c e b ∧ t ∉ d.state.terminalOperations ∧
        t ∈ e.state.terminalOperations ∧ head = d.state.activeHead ∧ e.state.activeHead = d.state.activeHead := by
  induction h with
  | refl =>
    intro t ht
    obtain ⟨initial, heq⟩ := hfirst.state_eq
    rw [heq] at ht
    cases ht
  | @tail mid last hchain hstep ih =>
    intro t ht head hd
    by_cases hold : t ∈ mid.state.terminalOperations
    · obtain ⟨d, e, h1, h2, h3, h4⟩ := ih t hold head hd
      exact ⟨d, e, h1, h2, h3.tail hstep, h4⟩
    · obtain ⟨hhead, hsame⟩ := preserved_of_new hstep.transition (Chain.built hfirst.built hchain).valid ht hold hd
      exact ⟨mid, last, hchain, hstep, .refl, hold, ht, hhead, hsame⟩

/-- **Compare-and-swap of the desired head is never lost.**  At every snapshot `b` of a chain from `try_initialize`:
a step that changes the head commits the slice of the prepared operation over exactly the head it expected, at a
revision above every head of the chain before; unless an empty retire is in progress the head is the slice of the last
committing terminal; and every preserved disposition names the head in force when its terminal was written. -/
theorem head_cas_never_lost {c : Contracts} {first b : RuntimeJournalSnapshot} (hfirst : Initial c first)
    (hb : Chain c first b) :
    (∀ next, Step c b next → ChangesHead b.state next.state →
      ∃ p a, CommitsHead b.state next.state p a ∧ ∀ earlier old, Chain c first earlier → Chain c earlier b →
        earlier.state.activeDesired = some old → old.sourceRevision < a.sourceRevision) ∧
    (¬ b.state.emptyRetireInProgress →
      (∀ t, LatestCommit b.state.terminalOperations t → b.state.activeHead = some t.targetSliceDigest) ∧
        ((∀ t ∈ b.state.terminalOperations, ¬ t.commits) → b.state.activeHead = none)) ∧
    (∀ t ∈ b.state.terminalOperations, ∀ head, t.headDisposition = .preserved head →
      ∃ d e, Chain c first d ∧ Step c d e ∧ Chain c e b ∧ t ∉ d.state.terminalOperations ∧
        t ∈ e.state.terminalOperations ∧ head = d.state.activeHead ∧ e.state.activeHead = d.state.activeHead) := by
  have hvalid := (Chain.built hfirst.built hb).valid
  refine ⟨fun next hstep hchange => ?_, activeHead_of_terminals hvalid, Chain.preserved hfirst hb⟩
  obtain ⟨p, a, hcommit⟩ := commitsHead_of_changes hstep.transition hvalid (Chain.headInv hfirst hb) hchange
  refine ⟨p, a, hcommit, fun earlier old hearlier hlater hold => ?_⟩
  obtain ⟨mid, hmid, hle⟩ := Chain.head_mono hfirst hearlier hlater old hold
  exact lt_of_le_of_lt hle (hcommit.above mid hmid)

theorem head_cas_never_lost_replacing : ∃ run p a, Sample.replacingRun = .ok run ∧
    run.mid.state.activeHead ≠ none ∧ CommitsHead run.mid.state run.last.state p a := by
  obtain ⟨run, hrun, hfirst, hmid, hlast, hhead, hmoved⟩ := Sample.replacingRun_ok
  have h := head_cas_never_lost hfirst (runBuilders_chain hmid)
  have hchanges : ChangesHead run.mid.state run.last.state := fun hsame => hmoved (activeHead_of_identity hsame)
  obtain ⟨p, a, hcommit, _⟩ := h.1 run.last (Builder.call_step hlast) hchanges
  exact ⟨run, p, a, hrun, hhead, hcommit⟩

end RuntimeJournalSnapshot

end Journal
end ParaEgox
