import ParaEgox.ServiceRuns

/-!
# ServiceAdmission — admissions and stored terminals over the runs of the Runtime

A request is fully admitted at most once in all lifetimes, from the budget of its own call; a tenure that was durable
before the call leads on only in a process that has admitted under it; and a stored terminal answers its request for ever,
on the channel of whatever process serves it.
-/
namespace ParaEgox
namespace Control

open Check Journal RuntimeJournalSnapshot Program

variable {c : Contracts} {x : Provision} {k : Process} {w : World} {sys : System} {s s' : RuntimeJournalSnapshot}
  {request : ReferenceApplyRequest} {preflight : RuntimeReferenceApplyPreflight} {input : RuntimeApplyAdmissionInput}
  {e f : Event} {older : List Event}

/-! ## What a full admission records -/

theorem insertRecord_ok {α κ : Type} [LinearOrder κ] {key : α → κ} {records records' : List α} {record : α}
    (h : insertRecord key records record = .ok records') :
    (∀ r ∈ records, key r ≠ key record) ∧ record ∈ records' := by
  simp only [insertRecord, bind_ok, exists_unit, rejectIf_ok, pure_ok, Option.not_isSome_iff_eq_none] at h
  obtain ⟨hfresh, rfl⟩ := h
  exact ⟨(Keyed.find_none key).1 hfresh, (Keyed.mem_insert key).2 (.inl rfl)⟩

/-- A full admission takes a nonce that is not on record, and records it with the deadline it installs. -/
structure Records (s s' : RuntimeJournalState) (input : RuntimeApplyAdmissionInput) : Prop where
  fresh : ∀ r ∈ s.host.requestNonces, r.identity ≠ input.requestNonceIdentity
  nonce : ⟨input.requestNonceIdentity, input.request.digest⟩ ∈ s'.host.requestNonces
  deadline : ∃ r ∈ s'.host.temporalLineages, r.constraintId = input.temporal.constraintId
    ∧ r.deadlineNanos = input.temporal.installedDeadlineNanos

theorem fullAdmission_records (h : Builder.call c s (.fullAdmission input) = .ok s') :
    Records s.state s'.state input := by
  simp only [Builder.call, tryFullAdmissionSuccessor, bind_ok, exists_unit] at h
  obtain ⟨_, _, nonces, hnonces, temporals, htemporals, _, _, hnew⟩ := h
  rw [(tryValidatedSuccessor_ok hnew).2]
  obtain ⟨hfresh, hnonce⟩ := insertRecord_ok hnonces
  exact ⟨hfresh, hnonce, _, (insertRecord_ok htemporals).2, rfl, rfl⟩

theorem Builder.eq_fullAdmission {b : Builder} (h : b.transaction = .fullAdmission) :
    ∃ input, b = .fullAdmission input := by
  cases b
  case fullAdmission input => exact ⟨input, rfl⟩
  all_goals cases h

/-- What an admission input takes from its request, and the budget that runs from the preflight's instant on. -/
structure Derived (c : Contracts) (request : ReferenceApplyRequest) (preflight : RuntimeReferenceApplyPreflight)
    (input : RuntimeApplyAdmissionInput) : Prop where
  nonce : ∃ identities, referenceApplyIngressIdentities c.sha256 request = .ok identities
    ∧ input.requestNonceIdentity = identities.requestNonceIdentity
  deadline : input.temporal.installedDeadlineNanos = preflight.admittedAtNanos + request.temporal.remainingBudget
  digest : input.request.digest = request.envelopeRequestDigest
  operation : input.operationId = request.operationId
  scope : input.tenure.sourceScope = request.provenance.sourceScope

theorem tryReferenceAdmissionInput_ok (h : tryReferenceAdmissionInput c s request preflight = .ok input) :
    Derived c request preflight input := by
  simp only [tryReferenceAdmissionInput, bind_ok, mapErr_ok, exists_unit, rejectIf_ok, pure_ok] at h
  obtain ⟨identities, hidentities, _, _, hmismatch, _, _, _, _, wire, hwire, _, _, rfl⟩ := h
  simp only [preflightMismatch, not_or, not_not] at hmismatch
  obtain ⟨_, _, _, _, _, _, _, _, hscope, _⟩ := hmismatch
  simp only [journaled_ok, OpaqueCanonicalValue.tryNew, bind_ok, exists_unit, pure_ok] at hwire
  obtain ⟨_, rfl⟩ := hwire
  exact ⟨⟨identities, hidentities, rfl⟩, rfl, rfl, rfl, hscope⟩

theorem operationConflict_of_new {state : RuntimeJournalState} (h : fullAdmissionStatus state input = .new) :
    operationConflict state input = false := by
  rw [Bool.eq_false_iff]
  intro hconflict
  unfold fullAdmissionStatus at h
  dsimp only at h
  split at h
  · cases h
  · rw [if_pos (.inr (.inr (.inl hconflict)))] at h
    cases h

/-! ## Admissions on record -/

theorem Event.Admits.derived {start : RuntimeJournalSnapshot} (h : e.Admits c input)
    (htask : e.task = .apply request preflight start) :
    tryReferenceAdmissionInput c start request preflight = .ok input := by
  obtain ⟨request', preflight', start', htask', _, hinput, _⟩ := h
  rw [htask] at htask'
  cases htask'
  exact hinput

theorem Event.Admits.call (h : e.Admits c input) : Builder.call c e.before (.fullAdmission input) = .ok e.after := by
  obtain ⟨_, _, _, _, _, _, hcall⟩ := h
  exact hcall

/-- **A published full admission is of the request in hand**, and of a tenure that is new or resident. -/
theorem Event.Sound.admits (h : e.Sound c older) (hne : e.after ≠ e.before)
    (hfull : e.after.state.lastTransaction = .fullAdmission) :
    ∃ request preflight start input, e.task = .apply request preflight start ∧ e.Admits c input ∧
      (tenureAdmissionStatus start.state input.tenure = .exact →
        ∃ f ∈ older, f.lifetime = e.lifetime ∧ ∃ input', f.Admits c input' ∧ input'.tenure = input.tenure) := by
  rcases h.moved with heq | ⟨b, hallowed, hcall, hcommit⟩
  · exact absurd heq hne
  · obtain ⟨input, rfl⟩ := Builder.eq_fullAdmission ((Builder.call_transaction hcall).symm.trans hfull)
    obtain ⟨request, preflight, start, htask, hinput, hresident⟩ := hallowed
    exact ⟨request, preflight, start, input, htask, ⟨request, preflight, start, htask, hcommit, hinput, hcall⟩,
      hresident⟩

theorem Event.Sound.nonce_ne (h : e.Sound c older) (hf : f ∈ older)
    {i j : RuntimeApplyAdmissionInput} (hi : e.Admits c i) (hj : f.Admits c j) :
    j.requestNonceIdentity ≠ i.requestNonceIdentity := by
  have hbuilt : f.after.Built c := (Builder.call_step hj.call).built
  have hkept := (Chain.extends hbuilt (h.since f hf).reached).2.2.requestNonces
  exact (fullAdmission_records hi.call).fresh _ (hkept _ (fullAdmission_records hj.call).nonce)

theorem pairwise_of_suffix {R : Event → Event → Prop} : ∀ {l : List Event},
    (∀ e older, e :: older <:+ l → ∀ f ∈ older, R e f) → l.Pairwise R
  | [], _ => .nil
  | e :: l, h => .cons (h e l List.suffix_rfl) (pairwise_of_suffix fun e' older hsuffix =>
      h e' older (hsuffix.trans (List.suffix_cons e l)))

/-- **A published full admission installs the deadline of its own call**, which the journal keeps, and follows a full admission
of the same process wherever its tenure was durable before the call. -/
theorem World.Ok.admits_once (h : w.Ok c) (hsuffix : e :: older <:+ w.log) (hne : e.after ≠ e.before)
    (hfull : e.after.state.lastTransaction = .fullAdmission) :
    ∃ request preflight start input, e.task = .apply request preflight start ∧ e.Admits c input ∧
      input.temporal.installedDeadlineNanos = preflight.admittedAtNanos + request.temporal.remainingBudget ∧
      (∃ r ∈ w.store.durable.state.host.temporalLineages, r.constraintId = input.temporal.constraintId ∧
        r.deadlineNanos = input.temporal.installedDeadlineNanos) ∧
      (tenureAdmissionStatus start.state input.tenure = .exact → ∃ f ∈ older, f.lifetime = e.lifetime ∧
        ∃ input', f.Admits c input' ∧ input'.tenure = input.tenure) := by
  obtain ⟨request, preflight, start, input, htask, hadmits, hresident⟩ := (h.log e older hsuffix).admits hne hfull
  obtain ⟨r, hr, hrecord⟩ := (fullAdmission_records hadmits.call).deadline
  have hreached := (h.since e (hsuffix.subset List.mem_cons_self)).reached
  have hkept := (Chain.extends (Builder.call_step hadmits.call).built hreached).2.2.temporalLineages
  exact ⟨request, preflight, start, input, htask, hadmits,
    (tryReferenceAdmissionInput_ok (hadmits.derived htask)).deadline, ⟨r, hkept r hr, hrecord⟩, hresident⟩

/-- The digests of the requests on record commit to them. -/
def Committed (log : List Event) : Prop :=
  ∀ e ∈ log, ∀ f ∈ log, ∀ r ∈ e.task.request, ∀ r' ∈ f.task.request,
    r.envelopeRequestDigest = r'.envelopeRequestDigest → r = r'

instance (log : List Event) : Decidable (Committed log) := by
  unfold Committed
  infer_instance

theorem World.Ok.admissions_apart (h : w.Ok c) (hcommitted : Committed w.log) :
    w.log.Pairwise fun e f => ∀ i j, e.Admits c i → f.Admits c j → i.request.digest ≠ j.request.digest := by
  refine pairwise_of_suffix fun e older hsuffix f hf i j hi hj hdigest => ?_
  obtain ⟨request, preflight, start, htask, _, hinput, _⟩ := id hi
  obtain ⟨request', preflight', start', htask', _, hinput', _⟩ := id hj
  have hderived := tryReferenceAdmissionInput_ok hinput
  have hderived' := tryReferenceAdmissionInput_ok hinput'
  have hsame : request = request' := by
    refine hcommitted e (hsuffix.subset List.mem_cons_self) f (hsuffix.subset (List.mem_cons_of_mem _ hf)) request ?_
      request' ?_ (hderived.digest.symm.trans (hdigest.trans hderived'.digest))
    · rw [htask]
      rfl
    · rw [htask']
      rfl
  subst hsame
  obtain ⟨identities, hidentities, hnonce⟩ := hderived.nonce
  obtain ⟨identities', hidentities', hnonce'⟩ := hderived'.nonce
  rw [hidentities] at hidentities'
  cases hidentities'
  exact (h.log e older hsuffix).nonce_ne hf hi hj (hnonce'.trans hnonce.symm)

/-! ## Requests that only read the store -/

def reads : PortCall → World → Prop := fun call _ => call = .currentSnapshot

theorem World.Ok.reached (h : w.Ok c) (hs : s = w.store.durable ∨ ∃ e ∈ w.log, s = e.before ∨ s = e.after) :
    s.Built c ∧ Chain c s w.store.durable := by
  rcases hs with rfl | ⟨e, he, hs⟩
  · exact ⟨h.built, .refl⟩
  · obtain ⟨older, hsound⟩ := h.sound he
    have hafter := (h.since e he).reached
    have hbuilt := hsound.reach.reachable.built
    have hstep : Chain c e.before e.after := by
      rcases hsound.moved with heq | ⟨b, _, hcall, _⟩
      · rw [heq]
        exact .refl
      · exact moved_chain hcall
    rcases hs with rfl | rfl
    · exact ⟨hbuilt, hstep.trans hafter⟩
    · exact ⟨Chain.built hbuilt hstep, hafter⟩

namespace Apply

variable {core : RuntimeReferenceApplyCore} {stored : RuntimeStoredReferenceApplyReceipt}

theorem tryReferenceTenureOnly_durable (hinput : tryReferenceAdmissionInput c s request preflight = .ok input)
    (htenure : tenureAdmissionStatus s.state input.tenure = .exact) (hfull : fullAdmissionStatus s.state input = .new) :
    tryReferenceTenureOnly c s request preflight = .ok ⟨s, .alreadyDurable, none⟩ := by
  refine bind_ok.2 ⟨input, hinput, ?_⟩
  rw [htenure]
  simp only [durableTenureTransition, hfull]

theorem tryReferenceTenureOnly_conflict (hinput : tryReferenceAdmissionInput c s request preflight = .ok input)
    (htenure : tenureAdmissionStatus s.state input.tenure = .exact)
    (hfull : fullAdmissionStatus s.state input = .conflict) :
    tryReferenceTenureOnly c s request preflight = .error .preflightRejected := by
  refine (bind_eq_of_ok hinput).trans ?_
  rw [htenure]
  simp only [durableTenureTransition, hfull]

theorem tryReferenceResidentTenureContinuation_other {resident : RuntimeTenureAdmissionInput}
    (hinput : tryReferenceAdmissionInput c s request preflight = .ok input) (hne : input.tenure ≠ resident) :
    tryReferenceResidentTenureContinuation c s request preflight resident = .ok none := by
  rw [tryReferenceResidentTenureContinuation, hinput]
  exact if_pos hne

theorem admissionCapability_other {react : Reaction ports World} {may : PortCall → World → Prop}
    {good : Option RuntimePreparedReferenceAdmission → RuntimeReferenceApplyCore → World → Prop}
    {bad : RuntimeReferenceApplyError → RuntimeReferenceApplyCore → World → Prop}
    (hinput : tryReferenceAdmissionInput x.contracts core.state request preflight = .ok input)
    (hne : core.residentFullAdmittedTenure ≠ some input.tenure)
    (hgood : good none { core with residentFullAdmittedTenure := none } w) :
    Job.Meets react may (admissionCapability x request preflight none) core w good bad := by
  refine (Job.meets_bind _ _).2 ((Job.meets_bind _ _).2 ((Job.meets_update _).2 ?_))
  cases hresident : core.residentFullAdmittedTenure with
  | none => exact hgood
  | some resident =>
    rw [hresident] at hne
    have hother := tryReferenceResidentTenureContinuation_other hinput fun heq => hne (congrArg some heq.symm)
    change Job.Meets react may (Job.lift .state (tryReferenceResidentTenureContinuation x.contracts core.state request
      preflight resident)) _ w good bad
    rw [hother]
    exact hgood

theorem applyFresh_tenure {react : Reaction ports World} {may : PortCall → World → Prop}
    {good : RuntimeReferenceApplyOutcome → RuntimeReferenceApplyCore → World → Prop}
    {bad : RuntimeReferenceApplyError → RuntimeReferenceApplyCore → World → Prop}
    (hinput : tryReferenceAdmissionInput x.contracts core.state request preflight = .ok input)
    (htenure : tenureAdmissionStatus core.state.state input.tenure = .exact)
    (hfull : fullAdmissionStatus core.state.state input = .new)
    (hne : core.residentFullAdmittedTenure ≠ some input.tenure)
    (hgood : good .tenureOnlyDurable { core with residentFullAdmittedTenure := none } w) :
    Job.Meets react may (applyFresh x request preflight) core w good bad := by
  have hdurable := tryReferenceTenureOnly_durable hinput htenure hfull
  refine (Job.meets_bind _ _).2 ?_
  change Job.Meets react may (Job.lift .state (tryReferenceTenureOnly x.contracts core.state request preflight) >>= _)
    core w good bad
  rw [hdurable]
  refine (Job.meets_bind _ _).2 ?_
  change Job.Meets react may (commitTenure ⟨core.state, .alreadyDurable, none⟩ >>= _) core w good bad
  rw [commitTenure_durable_then]
  exact (Job.meets_bind _ _).2 (admissionCapability_other hinput hne hgood)

/-! ## Stored terminals -/

theorem terminalReplay_chain {a b : RuntimeJournalSnapshot} (ha : a.Built c) (hchain : Chain c a b)
    (h : terminalReplay c a request = .ok (some stored)) : terminalReplay c b request = .ok (some stored) := by
  have hkey : (fun t : TerminalOperationRecord =>
      decide (t.sourceScope = request.provenance.sourceScope) && decide (t.operationId = request.operationId)) =
      fun t => decide (t.key = toLex (request.provenance.sourceScope, request.operationId)) := by
    funext t
    simp [TerminalOperationRecord.key]
  have hb := Chain.built ha hchain
  obtain ⟨hstore, _, hext⟩ := Chain.extends ha hchain
  unfold terminalReplay at h ⊢
  rw [hkey] at h ⊢
  cases hfind : a.state.terminalOperations.find? _ with
  | none => rw [hfind] at h; cases h
  | some t =>
    rw [hfind] at h
    obtain ⟨hmem, hk⟩ := Keyed.find_mem TerminalOperationRecord.key hfind
    have hkept : b.state.terminalOperations.find? _ = some t :=
      (hb.valid.terminalOrder.find_iff _ _ t).2 ⟨hext.terminalOperations t hmem, hk⟩
    rw [hkept, hstore]
    exact h

theorem terminalReplay_new (hinput : tryReferenceAdmissionInput c s request preflight = .ok input)
    (hfull : fullAdmissionStatus s.state input = .new) : terminalReplay c s request = .ok none := by
  have hderived := tryReferenceAdmissionInput_ok hinput
  have hconflict := operationConflict_of_new hfull
  rw [operationConflict, Bool.or_eq_false_iff, hderived.scope, hderived.operation] at hconflict
  unfold terminalReplay
  rw [List.find?_eq_none.2 (List.any_eq_false.1 hconflict.2)]

/-! ## The answers of a served process -/

/-- A request whose tenure alone is durable reads the store and is answered that it is, or with a terminal it has; it is refused
for what stands in the way of its admission, for a channel of another process, or by a stopped store. -/
def Waits (c : Contracts) (k : Process) (core : RuntimeReferenceApplyCore) (w : World) (request : ReferenceApplyRequest)
    (preflight : RuntimeReferenceApplyPreflight) (input : RuntimeApplyAdmissionInput) : Prop :=
  Job.Meets (reacts c) reads (tryApply (k.provision c) request preflight) core w
    (fun outcome core' w' => (outcome = .tenureOnlyDurable ∨
        fullAdmissionStatus w.store.durable.state input = .conflict ∧ ∃ stored, outcome = .terminal stored ∧
          terminalReplay c w.store.durable request = .ok (some stored)) ∧
      core'.state = core.state ∧ w'.store = w.store)
    fun _ core' w' => (fullAdmissionStatus w.store.durable.state input = .conflict ∨
        preflight.responseChannel ≠ k.channel ∨ w.store.stopped = true) ∧ core' = core ∧ w'.store = w.store

/-- A request reads the store and is answered with the terminal, unless the store has stopped. -/
def AnswersStored (c : Contracts) (k : Process) (core : RuntimeReferenceApplyCore) (w : World)
    (request : ReferenceApplyRequest) (preflight : RuntimeReferenceApplyPreflight)
    (stored : RuntimeStoredReferenceApplyReceipt) : Prop :=
  Job.Meets (reacts c) reads (tryApply (k.provision c) request preflight) core w
    (fun outcome core' w' => outcome = .terminal stored ∧ core' = core ∧ w'.store = w.store)
    fun _ core' w' => w.store.stopped = true ∧ core' = core ∧ w'.store = w.store

/-- **A tenure alone admits nothing**: a process that has not itself admitted under a durable tenure answers a request of it
that the tenure is durable, or refuses, and leaves the journal as it is. -/
theorem tenure_alone_waits (haligned : Aligned c core w)
    (hinput : tryReferenceAdmissionInput c w.store.durable request preflight = .ok input)
    (htenure : tenureAdmissionStatus w.store.durable.state input.tenure = .exact)
    (hfull : fullAdmissionStatus w.store.durable.state input ≠ .exact)
    (halone : ∀ e ∈ w.log, e.lifetime = w.lifetime → ∀ input', e.Admits c input' → input'.tenure ≠ input.tenure) :
    Waits c k core w request preflight input := by
  unfold Waits
  refine tryApply_meets (x := k.provision c) rfl (fun hne => ⟨.inr (.inl hne), rfl, rfl⟩)
    (fun hbad _ => ⟨.inr (.inr ?_), rfl, rfl⟩) fun _ hsame => ?_
  · exact hbad.elim id fun hne => haligned.current.resolve_right hne
  · rw [← hsame] at hinput htenure hfull ⊢
    refine (Job.meets_bind _ _).2 ((Job.meets_bind _ _).2 ?_)
    change Job.Meets _ _ (Job.lift id (terminalReplay c core.state request)) _ _ _ _
    cases hstatus : fullAdmissionStatus core.state.state input with
    | exact => exact absurd hstatus hfull
    | new =>
      have hother : core.residentFullAdmittedTenure ≠ some input.tenure := by
        intro hresident
        obtain ⟨e, he, hlife, input', hadmits, heq⟩ := haligned.resident _ hresident
        exact halone e he hlife input' hadmits heq
      rw [terminalReplay_new hinput hstatus]
      exact applyFresh_tenure (x := k.provision c) hinput htenure hstatus hother ⟨.inl rfl, rfl, rfl⟩
    | conflict =>
      refine (Job.meets_lift _ _).2 ⟨fun replay hreplay => ?_, fun _ _ => ⟨.inl rfl, rfl, rfl⟩⟩
      cases replay with
      | some stored => exact ⟨.inr ⟨rfl, stored, rfl, hreplay⟩, rfl, rfl⟩
      | none =>
        refine (Job.meets_bind _ _).2 ((Job.meets_bind _ _).2 ?_)
        change Job.Meets _ _ (Job.lift RuntimeReferenceApplyError.state
          (tryReferenceTenureOnly c core.state request preflight)) _ _ _ _
        rw [tryReferenceTenureOnly_conflict hinput htenure hstatus]
        exact ⟨.inl rfl, rfl, rfl⟩

/-- **A stored terminal answers its request** in every process from then on, on the process's own channel. -/
theorem stored_terminal_answers (haligned : Aligned c core w) (hok : w.Ok c)
    (hs : s = w.store.durable ∨ ∃ e ∈ w.log, s = e.before ∨ s = e.after)
    (hstored : terminalReplay c s request = .ok (some stored)) (hchannel : preflight.responseChannel = k.channel) :
    AnswersStored c k core w request preflight stored := by
  have hchain := hok.reached hs
  refine tryApply_meets (x := k.provision c) rfl (fun hne => absurd hchannel hne) (fun hbad _ => ⟨?_, rfl, rfl⟩) fun _ hsame => ?_
  · exact hbad.elim id fun hne => haligned.current.resolve_right hne
  · have hdurable := terminalReplay_chain hchain.1 hchain.2 hstored
    rw [← hsame] at hdurable
    refine (Job.meets_bind _ _).2 ((Job.meets_bind _ _).2 ?_)
    change Job.Meets _ _ (Job.lift id (terminalReplay c core.state request)) _ _ _ _
    rw [hdurable]
    exact ⟨rfl, rfl, rfl⟩

end Apply
end Control

namespace Sample

open Check Journal RuntimeJournalSnapshot Program Control

def answered : Prog ports (Except RuntimeReferenceApplyError RuntimeReferenceApplyOutcome × RuntimeReferenceApplyCore) →
    Option (RuntimeReferenceApplyOutcome × RuntimeReferenceApplyCore)
  | .done (.ok outcome, core) => some (outcome, core)
  | _ => none

theorem answered_some
    {p : Prog ports (Except RuntimeReferenceApplyError RuntimeReferenceApplyOutcome × RuntimeReferenceApplyCore)}
    {answer : RuntimeReferenceApplyOutcome × RuntimeReferenceApplyCore} (h : answered p = some answer) :
    p = .done (.ok answer.1, answer.2) := by
  unfold answered at h
  split at h
  · cases h
    rfl
  · cases h

def served (endpoint : Nat) (w : World) (core : RuntimeReferenceApplyCore) (r : ReferenceApplyRequest) :
    Res (RuntimeReferenceApplyOutcome × RuntimeReferenceApplyCore × World) := do
  let answer ← okOr (answered (applied endpoint 40 w core r).1) .danglingReference
  pure (answer.1, answer.2, (applied endpoint 40 w core r).2)

theorem served_reachable {endpoint : Nat} {w w' : World} {core core' : RuntimeReferenceApplyCore}
    {r : ReferenceApplyRequest} {outcome : RuntimeReferenceApplyOutcome}
    (h : System.Reachable contracts ⟨w, .serving (process endpoint none) core⟩)
    (hserved : served endpoint w core r = .ok (outcome, core', w')) :
    System.Reachable contracts ⟨w', .applying (process endpoint none) (.done (.ok outcome, core'))⟩ := by
  have happlied := applied_reachable h 40 r
  simp only [served, bind_ok, okOr_ok, pure_ok, Prod.mk.injEq] at hserved
  obtain ⟨answer, hanswer, rfl, rfl, rfl⟩ := hserved
  rw [answered_some hanswer] at happlied
  exact happlied

/-- Three processes, each on a socket of its own: the first crashes with its tenure alone durable; the second is asked again
under that tenure, and closes a request of the next; the third has that terminal in its journal. -/
structure Lifetimes where
  waiting : World
  retry : ReferenceApplyRequest
  input : RuntimeApplyAdmissionInput
  closed : World
  core : RuntimeReferenceApplyCore
  next : ReferenceApplyRequest
  stored : RuntimeStoredReferenceApplyReceipt
  last : World

def storedIn : RuntimeReferenceApplyOutcome → Option RuntimeStoredReferenceApplyReceipt
  | .terminal stored => some stored
  | .tenureOnlyDurable => none

def lifetimes : Res Lifetimes := do
  let first ← initialized
  let w ← restart (fresh first)
  let r ← request startWire
  let waiting ← restart (applied 27 2 w ⟨w.store.durable, none⟩ r).2
  let retry ← request [2, 0, 1, 1, 0, 0, 0, 2]
  let input ← mapErr (tryReferenceAdmissionInput contracts waiting.store.durable retry (preflight 29 retry 30))
    .danglingReference
  rejectIf (tenureAdmissionStatus waiting.store.durable.state input.tenure ≠ .exact
    ∨ fullAdmissionStatus waiting.store.durable.state input = .exact ∨ waiting.log = []
    ∨ ∃ e ∈ waiting.log, e.lifetime = waiting.lifetime) .danglingReference
  let (_, core, waited) ← served 29 waiting ⟨waiting.store.durable, none⟩ retry
  let next ← request [3, 1, 1, 2, 1, 0, 0, 2]
  let (outcome, core, closed) ← served 29 waited core next
  let stored ← okOr (storedIn outcome) .danglingReference
  let last ← restart closed
  rejectIf (Apply.terminalReplay contracts last.store.durable next ≠ .ok (some stored)
    ∨ ¬ Committed last.log) .danglingReference
  pure ⟨waiting, retry, input, closed, core, next, stored, last⟩

/-- What the three processes reach, with the checks that were made on the way. -/
structure Lifetimes.Reached (run : Lifetimes) : Prop where
  waiting : System.Reachable contracts ⟨run.waiting, .serving (process 29 none) ⟨run.waiting.store.durable, none⟩⟩
  input : tryReferenceAdmissionInput contracts run.waiting.store.durable run.retry (preflight 29 run.retry 30) =
    .ok run.input
  tenure : tenureAdmissionStatus run.waiting.store.durable.state run.input.tenure = .exact
  alone : fullAdmissionStatus run.waiting.store.durable.state run.input ≠ .exact
  unserved : ∀ e ∈ run.waiting.log, e.lifetime ≠ run.waiting.lifetime
  closed : System.Reachable contracts
    ⟨run.closed, .applying (process 29 none) (.done (.ok (.terminal run.stored), run.core))⟩
  restarted : restart run.closed = .ok run.last
  stored : Apply.terminalReplay contracts run.last.store.durable run.next = .ok (some run.stored)
  committed : Committed run.last.log

theorem lifetimes_reached {run : Lifetimes} (h : lifetimes = .ok run) : run.Reached := by
  simp only [lifetimes, bind_ok, rejectIf_ok, exists_unit, pure_ok, not_or, not_not, mapErr_ok, okOr_ok, Prod.exists] at h
  obtain ⟨first, hfirst, w, hw, r, _, waiting, hwaiting, retry, _, input, hinput, ⟨htenure, halone, _, hunserved⟩, _, core,
    waited, hwaited, next, _, outcome, core', closed, hclosed, stored, hstored, last, hlast, ⟨hreplay, hcommitted⟩, rfl⟩ := h
  have hfound := restart_serving (applied_reachable (fresh_serving hfirst hw 27) 2 r) hwaiting 29
  have hserved := served_reachable ((served_reachable hfound hwaited).step (.reply _ _ _ _)) hclosed
  obtain rfl : outcome = .terminal stored := by
    cases outcome with
    | terminal t => exact congrArg _ (Option.some.inj hstored)
    | tenureOnlyDurable => cases hstored
  exact ⟨hfound, hinput, htenure, halone, fun e he hlife => hunserved ⟨e, he, hlife⟩, hserved,
    hlast, hreplay, hcommitted⟩

theorem lifetimes_ok : ∃ run, lifetimes = .ok run ∧ run.last.log.any fun e =>
    decide (e.after.sequence ≠ e.before.sequence) && decide (e.after.state.lastTransaction = .fullAdmission) := by
  have hall : (lifetimes.map fun run => run.last.log.any fun e =>
      decide (e.after.sequence ≠ e.before.sequence) && decide (e.after.state.lastTransaction = .fullAdmission)) =
      .ok true := by decide +kernel
  cases hrun : lifetimes with
  | error e => rw [hrun] at hall; cases hall
  | ok run =>
    rw [hrun] at hall
    exact ⟨run, rfl, Except.ok.inj hall⟩

end Sample

namespace Control

open Check Journal RuntimeJournalSnapshot Program Apply

variable {c : Contracts} {k : Process} {w : World} {sys : System}

/-- **A request is fully admitted at most once, and its deadline is never renewed.**  Over every run and all its
lifetimes: a published full admission is of the request its process has in hand, installs the instant of that call's
preflight plus the signed remaining budget, which the journal keeps from then on, and follows a full admission of the same
process wherever its tenure was durable before the call; no two are of one request digest, as far as the digests commit to
the requests; and a process that serves answers a request whose tenure alone is durable that it is, or refuses, unless it has
admitted under that tenure, and a request whose terminal was ever stored with that terminal, on its own channel, whatever
the rest of the preflight.  Both answers leave the journal as it is. -/
theorem admitted_once_never_renewed (h : System.Reachable c sys) :
    (∀ e older, e :: older <:+ sys.world.log → e.after ≠ e.before → e.after.state.lastTransaction = .fullAdmission →
      ∃ request preflight start input, e.task = .apply request preflight start ∧ e.Admits c input ∧
        input.temporal.installedDeadlineNanos = preflight.admittedAtNanos + request.temporal.remainingBudget ∧
        (∃ r ∈ sys.world.store.durable.state.host.temporalLineages, r.constraintId = input.temporal.constraintId ∧
          r.deadlineNanos = input.temporal.installedDeadlineNanos) ∧
        (tenureAdmissionStatus start.state input.tenure = .exact → ∃ f ∈ older, f.lifetime = e.lifetime ∧
          ∃ input', f.Admits c input' ∧ input'.tenure = input.tenure)) ∧
    (Committed sys.world.log → sys.world.log.Pairwise fun e f => ∀ i j, e.Admits c i → f.Admits c j →
      i.request.digest ≠ j.request.digest) ∧
    ∀ k core request preflight, sys.mode = .serving k core →
      (∀ input, tryReferenceAdmissionInput c sys.world.store.durable request preflight = .ok input →
        tenureAdmissionStatus sys.world.store.durable.state input.tenure = .exact →
        fullAdmissionStatus sys.world.store.durable.state input ≠ .exact →
        (∀ e ∈ sys.world.log, e.lifetime = sys.world.lifetime → ∀ input', e.Admits c input' →
          input'.tenure ≠ input.tenure) →
        Waits c k core sys.world request preflight input) ∧
      ∀ s stored, (s = sys.world.store.durable ∨ ∃ e ∈ sys.world.log, s = e.before ∨ s = e.after) →
        terminalReplay c s request = .ok (some stored) → preflight.responseChannel = k.channel →
        AnswersStored c k core sys.world request preflight stored := by
  have hok := h.ok
  refine ⟨fun e older => hok.world.admits_once, hok.world.admissions_apart, fun k core request preflight hmode => ?_⟩
  have haligned : Aligned c core sys.world := by
    have hkeeps := hok.mode
    rw [hmode] at hkeeps
    exact hkeeps
  exact ⟨fun input hinput htenure hfull halone => tenure_alone_waits haligned hinput htenure hfull halone,
    fun s stored hs hstored hchannel => stored_terminal_answers haligned hok.world hs hstored hchannel⟩

theorem admitted_once_never_renewed_lifetimes : ∃ run, Sample.lifetimes = .ok run ∧
    (∃ e ∈ run.last.log, ∃ request preflight start input, e.task = .apply request preflight start ∧
      e.Admits Sample.contracts input ∧
      input.temporal.installedDeadlineNanos = preflight.admittedAtNanos + request.temporal.remainingBudget) ∧
    (run.last.log.Pairwise fun e f => ∀ i j, e.Admits Sample.contracts i → f.Admits Sample.contracts j →
      i.request.digest ≠ j.request.digest) ∧
    Waits Sample.contracts (Sample.process 29 none) ⟨run.waiting.store.durable, none⟩ run.waiting run.retry
      (Sample.preflight 29 run.retry 30) run.input ∧
    AnswersStored Sample.contracts (Sample.process 31 none) ⟨run.last.store.durable, none⟩ run.last run.next
      (Sample.preflight 31 run.next 900) run.stored := by
  obtain ⟨run, hrun, hadmitted⟩ := Sample.lifetimes_ok
  have h := Sample.lifetimes_reached hrun
  obtain ⟨hadmits, hapart, hserves⟩ := admitted_once_never_renewed (Sample.restart_serving h.closed h.restarted 31)
  obtain ⟨_, _, hwaits⟩ := admitted_once_never_renewed h.waiting
  refine ⟨run, hrun, ?_, hapart h.committed, ?_, ?_⟩
  · obtain ⟨e, he, hboth⟩ := List.any_eq_true.1 hadmitted
    rw [Bool.and_eq_true, decide_eq_true_eq, decide_eq_true_eq] at hboth
    obtain ⟨newer, older, heq⟩ := List.append_of_mem he
    obtain ⟨request, preflight, start, input, htask, hinput, hdeadline, _⟩ :=
      hadmits e older ⟨newer, heq.symm⟩ (fun hsame => hboth.1 (congrArg _ hsame)) hboth.2
    exact ⟨e, he, request, preflight, start, input, htask, hinput, hdeadline⟩
  · refine (hwaits _ _ run.retry (Sample.preflight 29 run.retry 30) rfl).1 run.input h.input h.tenure h.alone ?_
    exact fun e he hlife => absurd hlife (h.unserved e he)
  · exact (hserves _ _ run.next (Sample.preflight 31 run.next 900) rfl).2 _ run.stored (.inl rfl) h.stored rfl

/-- **What is answered is durable**: over every run, a terminal that a request was answered with is in the durable journal
and stays there, for this request, in every run from then on. -/
theorem answered_terminal_durable {core : RuntimeReferenceApplyCore} {stored : RuntimeStoredReferenceApplyReceipt}
    (h : System.Reachable c ⟨w, .applying k (.done (.ok (.terminal stored), core))⟩)
    (hlater : Relation.ReflTransGen (System.Step c) ⟨w, .applying k (.done (.ok (.terminal stored), core))⟩ sys) :
    (w.store.stopped = true ∨ core.state = w.store.durable) ∧ ∃ request preflight start,
      w.task = .apply request preflight start ∧ terminalReplay c sys.world.store.durable request = .ok (some stored) := by
  obtain ⟨haligned, hanswered⟩ := h.ok.mode
  obtain ⟨request, preflight, start, htask, hreplay⟩ := hanswered stored rfl
  refine ⟨haligned.current, request, preflight, start, htask, ?_⟩
  exact terminalReplay_chain h.ok.world.built (h.ok.later hlater).2 hreplay

theorem answered_terminal_durable_lifetimes : ∃ run, Sample.lifetimes = .ok run ∧ ∃ request preflight start,
    run.closed.task = .apply request preflight start ∧
    terminalReplay Sample.contracts run.last.store.durable request = .ok (some run.stored) := by
  obtain ⟨run, hrun, _⟩ := Sample.lifetimes_ok
  have h := Sample.lifetimes_reached hrun
  exact ⟨run, hrun, (answered_terminal_durable h.closed (Sample.restart_later h.restarted 31)).2⟩

end Control
end ParaEgox
