import ParaEgox.JournalSample
import ParaEgox.TenureModel
import ParaEgox.TerminalReceiptCodec

/-!
# TerminalSigning — every terminal the journal selects has a receipt

The signer of terminal receipts, and the seven previews a receipt is signed over: what each selects is legal by the tables
of the receipt contract, for the mode of the request that was admitted.
-/
namespace ParaEgox
namespace Receipt

open Check Journal RuntimeJournalSnapshot RuntimeJournalState
open Tenure (Ed25519)

/-! ## The signer -/

inductive RuntimeReferenceApplyError
  | responseSignerRejected
  | terminalReceiptRejected
  deriving DecidableEq

structure RuntimeReferenceApplySigner where
  signingKey : Digest32
  keyRef : Ref16
  algorithm : Nat
  algorithmVersion : Nat
  deriving DecidableEq

namespace RuntimeReferenceApplySigner

def tryNew (ed : Ed25519) (signingKey : Digest32) (keyRef : Ref16) (algorithm algorithmVersion : Nat) :
    Except RuntimeReferenceApplyError RuntimeReferenceApplySigner := do
  rejectIf (keyRef = 0 ∨ ed.isWeak (ed.verifyingKey signingKey) = true ∨ algorithm ≠ 1 ∨ algorithmVersion ≠ 1)
    .responseSignerRejected
  pure ⟨signingKey, keyRef, algorithm, algorithmVersion⟩

def received {ε α : Type} (x : Except ε α) : Except RuntimeReferenceApplyError α := mapErr x .terminalReceiptRejected

/-- `ClockGeneration::try_new`. -/
def clockGeneration (value : U64) : Except RuntimeReferenceApplyError U64 := do
  rejectIf (value = 0) .terminalReceiptRejected
  pure value

def signTerminal (sha256 : Sha256) (ed : Ed25519) (signer : RuntimeReferenceApplySigner) (request : ReferenceApplyRequest)
    (preview : RuntimeTerminalPreview) (channel : ReferenceChannelBinding) :
    Except RuntimeReferenceApplyError RuntimeApplyTerminalReceipt := do
  let selectionClockGeneration ← clockGeneration preview.selectionClockGeneration
  let facts ← received (RuntimeApplyTerminalFacts.tryNew sha256 request (referenceTerminalOutcome preview.outcome)
    (referenceTerminalLifecycle preview.lifecycleEffect) (referenceTerminalHead preview.headDisposition)
    preview.resourceCensusDigest preview.rawOutcomeDigest preview.completionRuntimeHostEpoch
    preview.completionSnapshotSequence selectionClockGeneration preview.selectionObservedAtNanos)
  let authClaim ← received (RuntimeResponseAuthClaim.tryNew channel.runtimePeer channel.bindingDigest signer.keyRef
    signer.algorithm signer.algorithmVersion)
  let draft ← received (RuntimeApplyTerminalReceiptDraft.tryNew sha256 request facts channel authClaim)
  let transcript ← received draft.signingTranscript
  let signature := ed.sign signer.signingKey transcript
  let receipt ← received (draft.finalize sha256 signature.val)
  let strict ← received (RuntimeApplyTerminalReceipt.decode sha256 receipt.canonicalWire)
  let strictTranscript ← received strict.signingTranscript
  rejectIf (ed.verifyStrict (ed.verifyingKey signer.signingKey) strictTranscript signature = false)
    .responseSignerRejected
  pure strict

end RuntimeReferenceApplySigner

/-! ## What the previews select -/

inductive TerminalPath
  | oneSourceSuccess (callbackActionId : Ref16)
  | oneSourcePostIntentTimeout
  | startupInterruptedStart (tombstones : Option RuntimeOneSourceTombstonesInput)
  | emptyExactZero (tombstones : Option RuntimeOneSourceTombstonesInput)
  | emptyExactZeroFastPath
  | startupAbortedNoEffects
  | noEffectDeadline

def TerminalPath.preview (c : Contracts) (s : RuntimeJournalSnapshot) (observation : RuntimeDeadlineObservation) :
    TerminalPath → Journal.Res RuntimeTerminalPreview
  | oneSourceSuccess callbackActionId => s.tryPreviewOneSourceSuccessTerminal c callbackActionId observation
  | oneSourcePostIntentTimeout => s.tryPreviewOneSourcePostIntentTimeoutTerminal c observation
  | startupInterruptedStart tombstones => s.tryPreviewStartupInterruptedStartTerminal c tombstones observation
  | emptyExactZero tombstones => s.tryPreviewEmptyExactZeroTerminal c tombstones observation
  | emptyExactZeroFastPath => s.tryPreviewEmptyExactZeroFastPath c observation
  | startupAbortedNoEffects => s.tryPreviewStartupAbortedNoEffectsTerminal c observation
  | noEffectDeadline => s.tryPreviewNoEffectDeadlineTerminal c observation

structure Selection (prepared : PreparedOperation) (observation : RuntimeDeadlineObservation)
    (effect : TerminalLifecycleEffect) (selection : TerminalOutcomeSelection) : Prop where
  generation : selection.selectionClockGeneration = observation.clockGeneration
  instant : selection.selectionObservedAtNanos = observation.observedAtNanos
  lifecycle : selection.lifecycleEffect = effect
  reading : observation.clockGeneration ≠ 0
  later : prepared.installedClockGeneration ≤ observation.clockGeneration
  observed : observation.observedAtNanos ≠ 0
  primary : ∃ raw reached, selectPrimary ⟨prepared.incomingKind, prepared.phase, prepared.installedClockGeneration,
    prepared.installedDeadlineNanos⟩ raw effect reached = .ok selection.primary

variable {prepared : PreparedOperation} {observation : RuntimeDeadlineObservation} {effect : TerminalLifecycleEffect}
  {s : RuntimeJournalSnapshot}

theorem terminalSelection_ok {raw : RawActionOutcomeLatch} {selection : TerminalOutcomeSelection}
    (h : terminalSelection prepared raw observation effect = .ok selection) :
    Selection prepared observation effect selection := by
  simp only [terminalSelection, TerminalOutcomeSelection.trySelect, bind_ok, exists_unit, rejectIf_ok, pure_ok, not_or,
    not_lt, ne_eq] at h
  obtain ⟨-, ⟨-, -, hreading, hlater, hobserved, -, -⟩, -, -, -, primary, hprimary, rfl⟩ := h
  exact ⟨rfl, rfl, rfl, hreading, hlater, hobserved, raw, _, hprimary⟩

theorem selectPrimary_prepared {kind : DesiredHeadKind} {generation deadline : U64} {raw : RawActionOutcomeLatch}
    {reached : Bool} {outcome : TerminalOutcome}
    (h : selectPrimary ⟨kind, .preparedNoEffects, generation, deadline⟩ raw effect reached = .ok outcome) :
    (outcome = .startTimedOutBeforeIntentNoEffects → kind = .oneSourceLoop) ∧
      (outcome = .stopTimedOutBeforeHeadCommitNoEffects → kind = .emptyDeactivate) := by
  have hbefore : PreparedPhase.beforeEffects .preparedNoEffects = true := rfl
  simp only [selectPrimary, hbefore, if_true, selectBeforeEffects, bind_ok, exists_unit] at h
  obtain ⟨-, h⟩ := h
  cases kind with
  | oneSourceLoop =>
    refine ⟨fun _ => rfl, fun houtcome => ?_⟩
    subst houtcome
    cases reached <;> simp at h
  | emptyDeactivate =>
    refine ⟨fun houtcome => ?_, fun _ => rfl⟩
    subst houtcome
    cases reached
    · simp only [Bool.false_eq_true, if_false] at h
      split at h <;> cases h
    · simp at h

def modeOf : DesiredHeadKind → ReferenceAssemblyMode
  | .oneSourceLoop => .oneSourceLoop
  | .emptyDeactivate => .emptyDeactivate

theorem modeOf_kindOf (mode : ReferenceAssemblyMode) : modeOf (kindOf mode) = mode := by cases mode <;> rfl

/-- The tables of the receipt accept the outcome and the effect of an operation of this kind, whose head is committed or
preserved. -/
def Receivable (kind : DesiredHeadKind) (outcome : TerminalOutcome) (effect : TerminalLifecycleEffect) (committed : Bool) :
    Prop :=
  applyTerminalLifecycleIsValid (referenceTerminalOutcome outcome) (referenceTerminalLifecycle effect) = true ∧
    applyTerminalHeadIsPotentiallyValid (referenceTerminalOutcome outcome) committed = true ∧
      applyTerminalOutcomeAcceptsMode (referenceTerminalOutcome outcome) (modeOf kind) = true ∧
        applyTerminalOutcomeCommitsIncoming (referenceTerminalOutcome outcome) (modeOf kind) = committed

/-- **What a preview is**: the facts of a legal outcome of the prepared operation, at the observed instant. -/
structure Previewed (c : Contracts) (s : RuntimeJournalSnapshot) (observation : RuntimeDeadlineObservation)
    (prepared : PreparedOperation) (p : RuntimeTerminalPreview) : Prop where
  opened : s.state.prepared = some prepared
  census : ∃ resources, computeResourceCensusDigest c.sha256 resources = .ok p.resourceCensusDigest
  raw : ∃ raw, runtimeRawActionOutcomeDigest c.sha256 raw = .ok p.rawOutcomeDigest
  epoch : p.completionRuntimeHostEpoch = s.state.host.runtimeHostEpochHighWater
  sequence : s.sequence + 1 ≤ u64Max ∧ p.completionSnapshotSequence = s.sequence + 1
  generation : p.selectionClockGeneration = observation.clockGeneration
  instant : p.selectionObservedAtNanos = observation.observedAtNanos
  reading : observation.clockGeneration ≠ 0
  later : prepared.installedClockGeneration ≤ observation.clockGeneration
  observed : observation.observedAtNanos ≠ 0
  head : p.headDisposition = .committedIncoming ∧ Receivable prepared.incomingKind p.outcome p.lifecycleEffect true ∨
    p.headDisposition = preservedHeadDisposition s.state ∧
      Receivable prepared.incomingKind p.outcome p.lifecycleEffect false

variable {c : Contracts} {p : RuntimeTerminalPreview} {r : ReferenceApplyRequest}

theorem terminalPreview_ok {plan : TerminalPlan}
    {head : TerminalHeadDisposition} (h : s.terminalPreview c plan head = .ok p)
    (hprepared : s.state.prepared = some prepared)
    (hselection : Selection prepared observation effect plan.selection)
    (hcensus : computeResourceCensusDigest c.sha256 plan.resources = .ok plan.census)
    (hhead : head = .committedIncoming ∧ Receivable prepared.incomingKind plan.selection.primary effect true ∨
      head = preservedHeadDisposition s.state ∧ Receivable prepared.incomingKind plan.selection.primary effect false) :
    Previewed c s observation prepared p := by
  simp only [terminalPreview, bind_ok, checkedAdd_ok, pure_ok] at h
  obtain ⟨raw, hraw, sequence, ⟨hroom, rfl⟩, rfl⟩ := h
  exact { opened := hprepared, census := ⟨_, hcensus⟩, raw := ⟨_, hraw⟩, epoch := rfl, sequence := ⟨hroom, rfl⟩,
          generation := hselection.generation, instant := hselection.instant, reading := hselection.reading,
          later := hselection.later, observed := hselection.observed, head := hselection.lifecycle.symm ▸ hhead }

theorem openStart_ok {s : RuntimeJournalState} (h : openStart s = .ok prepared) :
    s.prepared = some prepared ∧ prepared.incomingKind = .oneSourceLoop := by
  simp only [openStart, demand, okOr_ok, Option.filter_eq_some_iff, Bool.and_eq_true, decide_eq_true_eq] at h
  exact ⟨h.1, h.2.1.2⟩

theorem previewed_success {callbackActionId : Ref16}
    (h : s.tryPreviewOneSourceSuccessTerminal c callbackActionId observation = .ok p) :
    ∃ prepared, Previewed c s observation prepared p := by
  simp only [tryPreviewOneSourceSuccessTerminal, successPlan, bind_ok, exists_unit, refuse_ok, pure_ok, not_not, ne_eq] at h
  obtain ⟨prepared, hopen, _, -, -, plan, ⟨selection, hselection, hprimary, census, hcensus, rfl⟩, hpreview⟩ := h
  obtain ⟨hprepared, hkind⟩ := openStart_ok hopen
  refine ⟨prepared, terminalPreview_ok hpreview hprepared (terminalSelection_ok hselection) hcensus (.inl ⟨rfl, ?_⟩)⟩
  rw [hkind, hprimary]
  exact ⟨rfl, rfl, rfl, rfl⟩

theorem previewed_postIntentTimeout (h : s.tryPreviewOneSourcePostIntentTimeoutTerminal c observation = .ok p) :
    ∃ prepared, Previewed c s observation prepared p := by
  simp only [tryPreviewOneSourcePostIntentTimeoutTerminal, postIntentTimeoutPlan, bind_ok, exists_unit, refuse_ok, pure_ok,
    not_not, ne_eq] at h
  obtain ⟨prepared, hopen, _, -, plan, ⟨-, selection, hselection, hprimary, census, hcensus, rfl⟩, hpreview⟩ := h
  obtain ⟨hprepared, hkind⟩ := openStart_ok hopen
  refine ⟨prepared, terminalPreview_ok hpreview hprepared (terminalSelection_ok hselection) hcensus (.inr ⟨rfl, ?_⟩)⟩
  rw [hkind, hprimary]
  exact ⟨rfl, rfl, rfl, rfl⟩

theorem previewed_interruptedStart {tombstones : Option RuntimeOneSourceTombstonesInput}
    (h : s.tryPreviewStartupInterruptedStartTerminal c tombstones observation = .ok p) :
    ∃ prepared, Previewed c s observation prepared p := by
  simp only [tryPreviewStartupInterruptedStartTerminal, interruptedStart, interruptedStartPlan, demand, okOr_ok,
    Option.filter_eq_some_iff, Bool.and_eq_true, decide_eq_true_eq, bind_ok, exists_unit, refuse_ok, pure_ok, not_not,
    ne_eq] at h
  obtain ⟨prepared, ⟨hprepared, ⟨-, hkind⟩, -⟩, _, -, plan, ⟨resources, -, -, census, hcensus, raw, -, selection,
    hselection, hprimary, rfl⟩, hpreview⟩ := h
  refine ⟨prepared, terminalPreview_ok hpreview hprepared (terminalSelection_ok hselection) hcensus (.inr ⟨rfl, ?_⟩)⟩
  rw [hkind, hprimary]
  cases raw.higherTenureTakeover
  · exact ⟨rfl, rfl, rfl, rfl⟩
  · exact ⟨rfl, rfl, rfl, rfl⟩

theorem previewed_emptyExactZero {tombstones : Option RuntimeOneSourceTombstonesInput}
    (h : s.tryPreviewEmptyExactZeroTerminal c tombstones observation = .ok p) :
    ∃ prepared, Previewed c s observation prepared p := by
  simp only [tryPreviewEmptyExactZeroTerminal, emptyCleanupTerminalEligible, emptyExactZeroPlan, demand, okOr_ok,
    Option.filter_eq_some_iff, Bool.and_eq_true, decide_eq_true_eq, bind_ok, exists_unit, refuse_ok, pure_ok, not_not] at h
  obtain ⟨prepared, ⟨hprepared, hkind, -⟩, _, -, plan, ⟨resources, -, -, census, hcensus, raw, -, selection, hselection,
    hclosed, rfl⟩, hpreview⟩ := h
  refine ⟨prepared, terminalPreview_ok hpreview hprepared (terminalSelection_ok hselection) hcensus (.inl ⟨rfl, ?_⟩)⟩
  rw [hkind]
  -- the four outcomes an empty operation is closed with
  show Receivable _ selection.primary _ _
  revert hclosed
  cases selection.primary <;> intro hclosed <;> first | exact ⟨rfl, rfl, rfl, rfl⟩ | cases hclosed

theorem previewed_fastPath (h : s.tryPreviewEmptyExactZeroFastPath c observation = .ok p) :
    ∃ prepared, Previewed c s observation prepared p := by
  simp only [tryPreviewEmptyExactZeroFastPath, preparedEmpty, fastPathPlan, demand, okOr_ok, Option.filter_eq_some_iff,
    Bool.and_eq_true, decide_eq_true_eq, bind_ok, exists_unit, refuse_ok, pure_ok, not_not, ne_eq] at h
  obtain ⟨prepared, ⟨hprepared, -, hkind⟩, -, plan, ⟨selection, hselection, hprimary, census, hcensus, rfl⟩, hpreview⟩ := h
  refine ⟨prepared, terminalPreview_ok hpreview hprepared (terminalSelection_ok hselection) hcensus (.inl ⟨rfl, ?_⟩)⟩
  rw [hkind, hprimary]
  exact ⟨rfl, rfl, rfl, rfl⟩

theorem effectless_ok {s : RuntimeJournalState} {phase : PreparedPhase}
    (h : effectless s phase = .ok prepared) : s.prepared = some prepared ∧ prepared.phase = phase := by
  simp only [effectless, demand, okOr_ok, Option.filter_eq_some_iff, Bool.and_eq_true, decide_eq_true_eq] at h
  exact ⟨h.1, h.2.1.1⟩

theorem previewed_startupAborted (h : s.tryPreviewStartupAbortedNoEffectsTerminal c observation = .ok p) :
    ∃ prepared, Previewed c s observation prepared p := by
  simp only [tryPreviewStartupAbortedNoEffectsTerminal, startupAbortedPlan, bind_ok, exists_unit, refuse_ok, pure_ok, not_not,
    ne_eq] at h
  obtain ⟨prepared, hopen, plan, ⟨selection, hselection, hprimary, census, hcensus, rfl⟩, hpreview⟩ := h
  obtain ⟨hprepared, -⟩ := effectless_ok hopen
  refine ⟨prepared, terminalPreview_ok hpreview hprepared (terminalSelection_ok hselection) hcensus (.inr ⟨rfl, ?_⟩)⟩
  rw [hprimary]
  cases prepared.incomingKind
  · exact ⟨rfl, rfl, rfl, rfl⟩
  · exact ⟨rfl, rfl, rfl, rfl⟩

theorem previewed_noEffectDeadline (h : s.tryPreviewNoEffectDeadlineTerminal c observation = .ok p) :
    ∃ prepared, Previewed c s observation prepared p := by
  simp only [tryPreviewNoEffectDeadlineTerminal, noEffectDeadlinePlan, bind_ok, exists_unit, refuse_ok, pure_ok, not_not] at h
  obtain ⟨prepared, hopen, plan, ⟨-, selection, hselection, hprimary, census, hcensus, rfl⟩, hpreview⟩ := h
  obtain ⟨hprepared, hphase⟩ := effectless_ok hopen
  have hselected := terminalSelection_ok hselection
  refine ⟨prepared, terminalPreview_ok hpreview hprepared hselected hcensus (.inr ⟨rfl, ?_⟩)⟩
  obtain ⟨raw, reached, hselect⟩ := hselected.primary
  rw [hphase] at hselect
  obtain ⟨hstart, hstop⟩ := selectPrimary_prepared hselect
  rcases hprimary with houtcome | houtcome
  · rw [hstart houtcome, houtcome]
    exact ⟨rfl, rfl, rfl, rfl⟩
  · rw [hstop houtcome, houtcome]
    exact ⟨rfl, rfl, rfl, rfl⟩

theorem TerminalPath.previewed {path : TerminalPath} (h : path.preview c s observation = .ok p) :
    ∃ prepared, Previewed c s observation prepared p := by
  cases path with
  | oneSourceSuccess callbackActionId => exact previewed_success h
  | oneSourcePostIntentTimeout => exact previewed_postIntentTimeout h
  | startupInterruptedStart tombstones => exact previewed_interruptedStart h
  | emptyExactZero tombstones => exact previewed_emptyExactZero h
  | emptyExactZeroFastPath => exact previewed_fastPath h
  | startupAbortedNoEffects => exact previewed_startupAborted h
  | noEffectDeadline => exact previewed_noEffectDeadline h

/-! ## The request that was admitted -/

structure Admitted (s : RuntimeJournalSnapshot) (prepared : PreparedOperation) (r : ReferenceApplyRequest) : Prop where
  kind : kindOf r.execution.mode = prepared.incomingKind
  generation : r.temporal.targetClockGeneration = prepared.installedClockGeneration
  digest : r.envelopeRequestDigest ≠ 0
  store : r.expectedRuntimeStoreInstanceId ≠ 0
  slice : r.targetSliceDigest ≠ 0
  epoch : s.state.host.runtimeHostEpochHighWater ≠ 0
  head : s.state.activeHead ≠ some 0
  incoming : r.targetSliceDigest = prepared.incomingSliceDigest
  subject : requestSubject r = ⟨r.target, s.storeInstanceId, prepared.sourceScope, prepared.operationId,
    prepared.request.digest, r.authentication.nonce⟩

theorem validateBound_digest {v : OpaqueCanonicalValue} {maximum : Nat} (h : v.validateBound maximum = .ok ()) :
    v.digest ≠ 0 := by
  simp only [OpaqueCanonicalValue.validateBound, bind_ok, exists_unit, ensureNonzeroDigest_ok] at h
  exact h.2.2

theorem admitted_of_built (h : s.Built c) (hprepared : s.state.prepared = some prepared)
    (hr : c.decodeRequest prepared.request.canonicalBytes = some r) : Admitted s prepared r := by
  have hestablished := h.established
  have hvalid := hestablished.valid
  have hrequest := hestablished.request
  simp only [validatePreparedRequestBusinessInvariants, whenSome_ok] at hrequest
  have hmatches := hrequest prepared hprepared
  simp only [validatePreparedRequest, bind_ok, rejectIf_ok, not_or, not_not, okOr_ok] at hmatches
  obtain ⟨request, hdecoded, ingress, -, fence, -, temporal, -, proof, -, provenance, -, hsame, -⟩ := hmatches
  obtain rfl := Option.some.inj (hdecoded.symm.trans hr)
  simp only [requestMatchesPrepared, Bool.and_eq_true, decide_eq_true_eq] at hsame
  obtain ⟨⟨⟨⟨⟨⟨⟨⟨⟨⟨⟨⟨⟨⟨⟨⟨⟨⟨-, hdigest⟩, hstore⟩, hsource⟩, hid⟩, -⟩, -⟩, -⟩, hslice⟩, -⟩, hkind⟩, -⟩, -⟩, -⟩, hgeneration⟩, -⟩,
    -⟩, -⟩, -⟩ := hsame
  obtain ⟨common, hscope⟩ := hvalid.scope
  have hoperation := (hscope.prepared prepared hprepared).valid
  simp only [PreparedOperation.validate, PreparedOperation.validateAdmitted, bind_ok, exists_unit,
    ensureNonzeroDigest_ok] at hoperation
  obtain ⟨⟨hbound, -, -, -, hincoming, -⟩, -⟩ := hoperation
  refine ⟨hkind, hgeneration, hdigest ▸ validateBound_digest hbound, ?_, hslice ▸ hincoming, ?_, ?_, hslice, ?_⟩
  · have henvelope := hestablished.envelope
    simp only [validateEnvelopeIdentity, bind_ok, exists_unit, rejectIf_ok] at henvelope
    exact hstore ▸ henvelope.1
  · intro hzero
    have hempty := (hvalid.host.empty hzero).2.2.1
    rw [hprepared] at hempty
    cases hempty
  · intro hhead
    obtain ⟨active, hactive, hzero⟩ := Option.map_eq_some_iff.1 hhead
    have hchecked := (hscope.active active hactive).valid
    simp only [ActiveDesiredHead.validate, bind_ok, exists_unit] at hchecked
    exact validateBound_digest hchecked.1 hzero
  · rw [requestSubject, hstore, hsource, hid, hdigest]

/-! ## Signing -/

/-- **The shape of a preview is accepted** for the request that was admitted. -/
theorem shape_of_previewed (hp : Previewed c s observation prepared p) (hr : Admitted s prepared r) :
    validateApplyTerminalShape (referenceTerminalOutcome p.outcome) (referenceTerminalLifecycle p.lifecycleEffect)
      (canonicalHead r (referenceTerminalHead p.headDisposition)) (some r.execution.mode) (some r.targetSliceDigest) =
        .ok () := by
  have hmode : modeOf prepared.incomingKind = r.execution.mode := by
    rw [← hr.kind]
    exact modeOf_kindOf _
  rcases hp.head with ⟨hhead, hlifecycle, hpotential, haccepts, hcommits⟩ | ⟨hhead, hlifecycle, hpotential, haccepts, hcommits⟩
  · rw [hmode] at haccepts hcommits
    rw [hhead]
    have hset : ¬ (some r.targetSliceDigest = some 0) := fun heq => hr.slice (Option.some.inj heq)
    refine ok_check ?_ <| ok_check ?_ (rejectIf_neg (not_not.2 rfl))
    · show ¬ (_ ∨ applyTerminalHeadIsPotentiallyValid _ true = false ∨ some r.targetSliceDigest = some 0)
      rw [hlifecycle, hpotential]
      simp [hset]
    · show ¬ (_ ∨ applyTerminalOutcomeCommitsIncoming _ _ ≠ true)
      rw [haccepts, hcommits]
      simp
  · rw [hmode] at haccepts hcommits
    rw [hhead]
    unfold preservedHeadDisposition
    cases hactive : s.state.activeHead with
    | none =>
      refine ok_check ?_ <| ok_check ?_ rfl
      · show ¬ (_ ∨ applyTerminalHeadIsPotentiallyValid _ false = false ∨ none = some 0)
        rw [hlifecycle, hpotential]
        simp
      · show ¬ (_ ∨ applyTerminalOutcomeCommitsIncoming _ _ ≠ false)
        rw [haccepts, hcommits]
        simp
    | some digest =>
      have hset : ¬ (some digest = some 0) := hactive ▸ hr.head
      refine ok_check ?_ <| ok_check ?_ rfl
      · show ¬ (_ ∨ applyTerminalHeadIsPotentiallyValid _ false = false ∨ some digest = some 0)
        rw [hlifecycle, hpotential]
        simp [hset]
      · show ¬ (_ ∨ applyTerminalOutcomeCommitsIncoming _ _ ≠ false)
        rw [haccepts, hcommits]
        simp

/-- What is taken as given: no digest is all zero, a decoded request has the nonce its decoder checked, and a key that is
not weak verifies its own signatures. -/
structure Given (c : Contracts) (ed : Ed25519) : Prop where
  digests : ∀ input, c.sha256 input ≠ 0
  nonces : ∀ bytes r, c.decodeRequest bytes = some r →
    r.authentication.nonce ≠ [] ∧ r.authentication.nonce.length ≤ maxApplyAuthNonceV2Bytes
  signatures : ∀ key transcript, ed.isWeak (ed.verifyingKey key) = false →
    ed.verifyStrict (ed.verifyingKey key) transcript (ed.sign key transcript) = true

def terminalFacts (r : ReferenceApplyRequest) (p : RuntimeTerminalPreview) (terminalResultRef : Ref16) :
    RuntimeApplyTerminalFacts where
  outcome := referenceTerminalOutcome p.outcome
  lifecycleEffect := referenceTerminalLifecycle p.lifecycleEffect
  head := canonicalHead r (referenceTerminalHead p.headDisposition)
  resourceCensusDigest := p.resourceCensusDigest
  rawOutcomeDigest := p.rawOutcomeDigest
  completionRuntimeHostEpoch := p.completionRuntimeHostEpoch
  completionSnapshotSequence := p.completionSnapshotSequence
  selectionClockGeneration := p.selectionClockGeneration
  selectionObservedAtNanos := p.selectionObservedAtNanos
  terminalResultRef := terminalResultRef

structure Numbers (r : ReferenceApplyRequest) (p : RuntimeTerminalPreview) : Prop where
  epoch : Held 8 p.completionRuntimeHostEpoch
  sequence : Held 8 p.completionSnapshotSequence
  generation : Held 8 p.selectionClockGeneration
  instant : Held 8 p.selectionObservedAtNanos
  later : r.temporal.targetClockGeneration ≤ p.selectionClockGeneration
  census : p.resourceCensusDigest ≠ 0
  raw : p.rawOutcomeDigest ≠ 0

theorem held_of_le {n : Nat} (hzero : n ≠ 0) (h : n ≤ u64Max) : Held 8 n :=
  ⟨hzero, Nat.lt_of_le_of_lt h (by decide)⟩

theorem numbers_of_previewed
    (hdigests : ∀ input, c.sha256 input ≠ 0) (hp : Previewed c s observation prepared p) (hr : Admitted s prepared r)
    (hepoch : s.state.host.runtimeHostEpochHighWater ≤ u64Max) (hgeneration : observation.clockGeneration ≤ u64Max)
    (hinstant : observation.observedAtNanos ≤ u64Max) : Numbers r p where
  epoch := by
    rw [hp.epoch]
    exact held_of_le hr.epoch hepoch
  sequence := by
    rw [hp.sequence.2]
    exact held_of_le (Nat.succ_ne_zero _) hp.sequence.1
  generation := by
    rw [hp.generation]
    exact held_of_le hp.reading hgeneration
  instant := by
    rw [hp.instant]
    exact held_of_le hp.observed hinstant
  later := by
    rw [hp.generation, hr.generation]
    exact hp.later
  census := by
    obtain ⟨resources, hcensus⟩ := hp.census
    rw [journalDigest_eq hcensus]
    exact hdigests _
  raw := by
    obtain ⟨raw, hraw⟩ := hp.raw
    simp only [runtimeRawActionOutcomeDigest, bind_ok, exists_unit] at hraw
    rw [journalDigest_eq hraw.2]
    exact hdigests _

structure Provisioned (ed : Ed25519) (signer : RuntimeReferenceApplySigner) (channel : ReferenceChannelBinding)
    (r : ReferenceApplyRequest) : Prop where
  key : ed.isWeak (ed.verifyingKey signer.signingKey) = false
  algorithm : signer.algorithm = 1 ∧ signer.algorithmVersion = 1
  target : r.target = channel.target
  binding : channel.bindingDigest ≠ 0

theorem provisioned_of {ed : Ed25519} {signingKey : Digest32} {keyRef : Ref16}
    {algorithm algorithmVersion : Nat} {signer : RuntimeReferenceApplySigner} {runtimePeer : Ref16}
    {endpoint credentials : Digest32} {channel : ReferenceChannelBinding} (hdigests : ∀ input, c.sha256 input ≠ 0)
    (hsigner : RuntimeReferenceApplySigner.tryNew ed signingKey keyRef algorithm algorithmVersion = .ok signer)
    (hchannel : ReferenceChannelBinding.tryNew c.sha256 r.target runtimePeer endpoint credentials = .ok channel) :
    Provisioned ed signer channel r := by
  simp only [RuntimeReferenceApplySigner.tryNew, bind_ok, exists_unit, rejectIf_ok, pure_ok, not_or, not_not,
    Bool.not_eq_true, ne_eq] at hsigner
  obtain ⟨⟨-, hkey, halgorithm, hversion⟩, rfl⟩ := hsigner
  simp only [ReferenceChannelBinding.tryNew, bind_ok, exists_unit] at hchannel
  replace hchannel := hchannel.2
  split at hchannel
  · cases hchannel
  · next hdigest =>
    cases hchannel
    rw [digest32_ok] at hdigest
    refine ⟨hkey, ⟨halgorithm, hversion⟩, rfl, ?_⟩
    rw [hdigest.2.2.2.2]
    exact hdigests _

/-! ## What the journal reads of a receipt -/

def RuntimeApplyTerminalHead.read : RuntimeApplyTerminalHead → ReferenceApplyTerminalHead
  | .preservedNone => .preservedNone
  | .preservedExisting digest => .preservedExisting digest
  | .committedIncoming _ => .committedIncoming

/-- A `ReferenceApplyTerminalReceiptV1` over a decoded receipt, by its accessors. -/
def RuntimeApplyTerminalReceipt.read (receipt : RuntimeApplyTerminalReceipt) : ReferenceApplyTerminalReceipt :=
  let ⟨target, store, sourceScope, operationId, requestDigest, nonce⟩ := receipt.subject
  let ⟨outcome, effect, head, census, raw, epoch, serial, generation, instant, _⟩ := receipt.facts
  ⟨receipt.canonicalWire, receipt.receiptDigest, store, sourceScope, operationId, requestDigest, target, nonce,
    ⟨outcome, effect, head.read, head.desiredHeadDigest, census, raw, epoch, serial, generation, instant⟩,
    receipt.authentication.claim.runtimePeer, receipt.authentication.claim.channelBindingDigest⟩

/-- The contracts with the receipt's own decoder. -/
def decoding (c : Contracts) : Contracts :=
  { c with decodeReceipt := fun bytes => (RuntimeApplyTerminalReceipt.decode c.sha256 bytes).toOption.map (·.read) }

/-- **The journal reads back what was signed**: the record of a previewed plan, with the receipt signed for the preview, is
the one its receipt reports. -/
theorem read_of_signed (hs : s.Built (decoding c)) (hprepared : s.state.prepared = some prepared)
    (hr : c.decodeRequest prepared.request.canonicalBytes = some r) {plan : TerminalPlan} {head : TerminalHeadDisposition}
    (hp : s.terminalPreview c plan head = .ok p) {receipt : RuntimeApplyTerminalReceipt} {ref : Ref16}
    (hdecoded : RuntimeApplyTerminalReceipt.decode c.sha256 receipt.canonicalWire = .ok receipt)
    (hsubject : receipt.subject = requestSubject r) (hfacts : receipt.facts = terminalFacts r p ref) :
    decodeAndValidateTerminalReceipt (decoding c) s.storeInstanceId (terminalRecord prepared plan.selection head plan.census
      ⟨receipt.canonicalWire, receipt.receiptDigest⟩ p.completionRuntimeHostEpoch p.completionSnapshotSequence) =
        .ok receipt.read := by
  have hadmitted : Admitted s prepared r := admitted_of_built hs hprepared hr
  simp only [RuntimeJournalSnapshot.terminalPreview, bind_ok, pure_ok] at hp
  obtain ⟨raw, hraw, sequence, -, rfl⟩ := hp
  have hread : (decoding c).decodeReceipt receipt.canonicalWire = some receipt.read := by
    simp [decoding, hdecoded, Except.toOption]
  rw [hadmitted.subject] at hsubject
  refine ok_bind (okOr_ok.2 hread) <| ok_check ?_ <| ok_check ?_ <| ok_bind hraw <| ok_check ?_ rfl
  · simp [RuntimeApplyTerminalReceipt.read, hsubject, hfacts, terminalRecord]
  · rcases head with (_ | _) | _ <;>
      simp [RuntimeApplyTerminalReceipt.read, hfacts, terminalFacts, terminalRecord, referenceTerminalHead, canonicalHead,
        RuntimeApplyTerminalHead.read, RuntimeApplyTerminalHead.desiredHeadDigest, terminalHeadDigest, hadmitted.incoming]
  · simp [RuntimeApplyTerminalReceipt.read, hfacts, terminalFacts, terminalRecord]

section Signed

variable {c : Contracts} {ed : Ed25519} {signer : RuntimeReferenceApplySigner} {channel : ReferenceChannelBinding}
  {r : ReferenceApplyRequest} {p : RuntimeTerminalPreview}

def Shaped (r : ReferenceApplyRequest) (p : RuntimeTerminalPreview) : Prop :=
  validateApplyTerminalShape (referenceTerminalOutcome p.outcome) (referenceTerminalLifecycle p.lifecycleEffect)
    (canonicalHead r (referenceTerminalHead p.headDisposition)) (some r.execution.mode) (some r.targetSliceDigest) = .ok ()

theorem facts_of (hshape : Shaped r p) (hnumbers : Numbers r p) {ref : Ref16}
    (href : deriveApplyTerminalResultRef c.sha256 (requestSubject r) = .ok ref) :
    RuntimeApplyTerminalFacts.tryNew c.sha256 r (referenceTerminalOutcome p.outcome)
      (referenceTerminalLifecycle p.lifecycleEffect) (referenceTerminalHead p.headDisposition) p.resourceCensusDigest
      p.rawOutcomeDigest p.completionRuntimeHostEpoch p.completionSnapshotSequence p.selectionClockGeneration
      p.selectionObservedAtNanos = .ok (terminalFacts r p ref) := by
  have hset : ¬ (p.resourceCensusDigest = 0 ∨ p.rawOutcomeDigest = 0 ∨ p.selectionObservedAtNanos = 0 ∨
      p.selectionClockGeneration < r.temporal.targetClockGeneration) := by
    rintro (hzero | hzero | hzero | hearlier)
    · exact hnumbers.census hzero
    · exact hnumbers.raw hzero
    · exact hnumbers.instant.1 hzero
    · exact Nat.not_lt.2 hnumbers.later hearlier
  exact ok_bind ((nonzeroNumber_ok ..).2 ⟨hnumbers.epoch.1, rfl⟩) <|
    ok_bind ((nonzeroNumber_ok ..).2 ⟨hnumbers.sequence.1, rfl⟩) <| ok_bind hshape <|
    ok_check hset <| ok_bind href rfl

variable (signer channel) in
def signerClaim : RuntimeResponseAuthClaim :=
  ⟨channel.runtimePeer, channel.bindingDigest, signer.keyRef, signer.algorithm, signer.algorithmVersion⟩

theorem claim_of (h : Provisioned ed signer channel r) : RuntimeResponseAuthClaim.tryNew channel.runtimePeer
    channel.bindingDigest signer.keyRef signer.algorithm signer.algorithmVersion = .ok (signerClaim signer channel) := by
  have hversion : signer.algorithmVersion ≠ 0 := by
    rw [h.algorithm.2]
    decide
  exact ok_check (not_or.2 ⟨hversion, h.binding⟩) rfl

theorem draft_of (h : Provisioned ed signer channel r) (hshape : Shaped r p) {ref : Ref16}
    (href : deriveApplyTerminalResultRef c.sha256 (requestSubject r) = .ok ref) :
    RuntimeApplyTerminalReceiptDraft.tryNew c.sha256 r (terminalFacts r p ref) channel (signerClaim signer channel) =
      .ok ⟨requestSubject r, terminalFacts r p ref, signerClaim signer channel⟩ := by
  have hsame : ¬ ((terminalFacts r p ref).terminalResultRef ≠ ref ∨ (requestSubject r).target ≠ channel.target ∨
      (signerClaim signer channel).runtimePeer ≠ channel.runtimePeer ∨
        (signerClaim signer channel).channelBindingDigest ≠ channel.bindingDigest) := by
    rintro (hne | hne | hne | hne)
    · exact hne rfl
    · exact hne h.target
    · exact hne rfl
    · exact hne rfl
  exact ok_bind hshape <| ok_bind href <| ok_check hsame rfl

variable (c r p) in
def receiptOf (ref : Ref16) (authentication : RuntimeResponseAuthentication) : RuntimeApplyTerminalReceipt where
  subject := requestSubject r
  facts := terminalFacts r p ref
  authentication := authentication
  canonicalWire := buildReceiptWire (requestSubject r) (terminalFacts r p ref) authentication
  receiptDigest := c.sha256 (digestInput applyTerminalReceiptDigestDomain
    [buildReceiptWire (requestSubject r) (terminalFacts r p ref) authentication])

theorem receipt_of (hshape : Shaped r p) (hnumbers : Numbers r p) {ref : Ref16}
    (hnonce : r.authentication.nonce ≠ [] ∧ r.authentication.nonce.length ≤ maxApplyAuthNonceV2Bytes)
    (hrequest : r.envelopeRequestDigest ≠ 0) (href : deriveApplyTerminalResultRef c.sha256 (requestSubject r) = .ok ref)
    (hset : ref ≠ 0) (authentication : RuntimeResponseAuthentication)
    (hsignature : authentication.signature.length ≤ maxControlReadSignatureBytes) :
    RuntimeApplyTerminalReceipt.tryNew c.sha256 (requestSubject r) (terminalFacts r p ref) authentication =
      .ok (receiptOf c r p ref authentication) := by
  have hroom : (buildReceiptWire (requestSubject r) (terminalFacts r p ref) authentication).length ≤
      maxRuntimeApplyTerminalReceiptBytes := wire_room hnonce.2 hsignature
  have hdigest : digestOf c.sha256 applyTerminalReceiptDigestDomain
      [buildReceiptWire (requestSubject r) (terminalFacts r p ref) authentication] =
        .ok (receiptOf c r p ref authentication).receiptDigest := by
    rw [digestOf_ok, digest32_ok]
    refine ⟨by decide, by decide, by simp, fun f hf => ?_, rfl⟩
    rw [List.mem_singleton.1 hf]
    exact Nat.lt_of_le_of_lt hroom (by decide)
  exact tryNew_ok.2
    { nonce := hnonce, shape := shape_of_mode hshape, request := hrequest, census := hnumbers.census, raw := hnumbers.raw,
      instant := hnumbers.instant.1, result := href, set := hset, room := hroom, wire := rfl, parts := ⟨rfl, rfl, rfl⟩,
      digest := hdigest }

theorem encodable_of (h : Provisioned ed signer channel r) (hnumbers : Numbers r p)
    (hstore : r.expectedRuntimeStoreInstanceId ≠ 0) {ref : Ref16} {signature : Bytes}
    (hsignature : signature ≠ [] ∧ signature.length ≤ maxControlReadSignatureBytes) :
    Encodable (requestSubject r) (terminalFacts r p ref) ⟨signerClaim signer channel, signature⟩ where
  store := hstore
  epoch := hnumbers.epoch
  sequence := hnumbers.sequence
  generation := hnumbers.generation
  instant := hnumbers.instant.2
  channel := h.binding
  algorithm := by
    show Held 2 signer.algorithm
    rw [h.algorithm.1]
    exact ⟨by decide, by decide⟩
  version := by
    show Held 2 signer.algorithmVersion
    rw [h.algorithm.2]
    exact ⟨by decide, by decide⟩
  signature := hsignature

/-- **A receipt answers the request it was signed for**, over the channel it was signed on. -/
theorem answers_of (h : Provisioned ed signer channel r) (hshape : Shaped r p) (hnumbers : Numbers r p) {ref : Ref16}
    (href : deriveApplyTerminalResultRef c.sha256 (requestSubject r) = .ok ref) (signature : Bytes) :
    (receiptOf c r p ref ⟨signerClaim signer channel, signature⟩).validateAgainstRequest c.sha256 r channel = .ok () := by
  have htarget : ¬ ((requestSubject r).target ≠ (requestSubject r).target ∨ channel.target ≠ (requestSubject r).target) := by
    rintro (hne | hne)
    · exact hne rfl
    · exact hne h.target.symm
  exact ok_check htarget <| ok_check (not_not.2 rfl) <|
    ok_check (not_not.2 rfl) <| ok_check (not_not.2 rfl) <|
    ok_check (not_not.2 rfl) <| ok_check (not_not.2 rfl) <|
    ok_bind (mapErr_ok.2 hshape) <| ok_check (Nat.not_lt.2 hnumbers.later) <|
    ok_bind (mapErr_ok.2 href) <| ok_check (not_not.2 rfl) <|
    ok_check (not_not.2 rfl) (rejectIf_neg (not_not.2 rfl))

/-- **A legal preview is signed**, and what the signer returns decodes to itself and answers the request. -/
theorem signTerminal_of (h : Provisioned ed signer channel r) (hshape : Shaped r p) (hnumbers : Numbers r p)
    (hnonce : r.authentication.nonce ≠ [] ∧ r.authentication.nonce.length ≤ maxApplyAuthNonceV2Bytes)
    (hrequest : r.envelopeRequestDigest ≠ 0) (hstore : r.expectedRuntimeStoreInstanceId ≠ 0)
    (hfront : (front16 (c.sha256 (resultRefInput (requestSubject r)))).val.all (· = 0) = false)
    (hsigns : ∀ transcript, ed.verifyStrict (ed.verifyingKey signer.signingKey) transcript
      (ed.sign signer.signingKey transcript) = true) :
    ∃ receipt ref, signer.signTerminal c.sha256 ed r p channel = .ok receipt ∧
      RuntimeApplyTerminalReceipt.decode c.sha256 receipt.canonicalWire = .ok receipt ∧
      receipt.facts = terminalFacts r p ref ∧ receipt.validateAgainstRequest c.sha256 r channel = .ok () := by
  obtain ⟨ref, href, hset⟩ := resultRef_of hfront
  obtain ⟨transcript, htranscript⟩ :=
    transcript_room (requestSubject r) (terminalFacts r p ref) (signerClaim signer channel) hnonce.2
  have hlength : (ed.sign signer.signingKey transcript).val.length = 64 := (ed.sign signer.signingKey transcript).2
  have hsignature : (ed.sign signer.signingKey transcript).val ≠ [] ∧
      (ed.sign signer.signingKey transcript).val.length ≤ maxControlReadSignatureBytes := by
    rw [← List.length_pos_iff, hlength]
    decide
  have hreceipt := receipt_of hshape hnumbers hnonce hrequest href hset
    ⟨signerClaim signer channel, (ed.sign signer.signingKey transcript).val⟩ hsignature.2
  have hdecode := decode_built hreceipt (encodable_of h hnumbers hstore hsignature)
  have hfinal : RuntimeApplyTerminalReceiptDraft.finalize c.sha256
      ⟨requestSubject r, terminalFacts r p ref, signerClaim signer channel⟩ (ed.sign signer.signingKey transcript).val =
        .ok (receiptOf c r p ref ⟨signerClaim signer channel, (ed.sign signer.signingKey transcript).val⟩) :=
    ok_bind (ok_bind ((validateBounded_ok _ _ ()).2 hsignature) rfl) hreceipt
  have hverified : ¬ ed.verifyStrict (ed.verifyingKey signer.signingKey) transcript
      (ed.sign signer.signingKey transcript) = false := by
    rw [hsigns transcript]
    exact Bool.true_eq_false_eq_False
  have hclock : RuntimeReferenceApplySigner.clockGeneration p.selectionClockGeneration = .ok p.selectionClockGeneration :=
    ok_check hnumbers.generation.1 rfl
  refine ⟨_, ref, ?_, hdecode, rfl, answers_of h hshape hnumbers href _⟩
  exact ok_bind hclock <| ok_bind (mapErr_ok.2 (facts_of hshape hnumbers href)) <|
    ok_bind (mapErr_ok.2 (claim_of h)) <| ok_bind (mapErr_ok.2 (draft_of h hshape href)) <|
    ok_bind (mapErr_ok.2 htranscript) <| ok_bind (mapErr_ok.2 hfinal) <|
    ok_bind (mapErr_ok.2 hdecode) <| ok_bind (mapErr_ok.2 htranscript) <|
    ok_check hverified rfl

end Signed

/-- **Every terminal the journal selects can be signed**: what a preview of a reachable journal selects for the admitted
request has a legal shape and numbers in range, and over every channel of the request's target the signer returns a receipt
of exactly these facts, which decodes strictly to itself and answers the request. -/
theorem terminal_signable {ed : Ed25519} (hgiven : Given c ed) {s : RuntimeJournalSnapshot}
    (hs : Reachable c s) (hepoch : s.state.host.runtimeHostEpochHighWater ≤ u64Max) {prepared : PreparedOperation}
    (hprepared : s.state.prepared = some prepared) (hr : c.decodeRequest prepared.request.canonicalBytes = some r)
    (hfront : (front16 (c.sha256 (resultRefInput (requestSubject r)))).val.all (· = 0) = false)
    {signingKey : Digest32} {keyRef : Ref16} {algorithm algorithmVersion : Nat} {signer : RuntimeReferenceApplySigner}
    (hsigner : RuntimeReferenceApplySigner.tryNew ed signingKey keyRef algorithm algorithmVersion = .ok signer)
    {runtimePeer : Ref16} {endpoint credentials : Digest32} {channel : ReferenceChannelBinding}
    (hchannel : ReferenceChannelBinding.tryNew c.sha256 r.target runtimePeer endpoint credentials = .ok channel)
    {observation : RuntimeDeadlineObservation}
    (hobservation : observation.clockGeneration ≤ u64Max ∧ observation.observedAtNanos ≤ u64Max) (path : TerminalPath)
    (h : path.preview c s observation = .ok p) :
    Shaped r p ∧ Numbers r p ∧ ∃ receipt ref, signer.signTerminal c.sha256 ed r p channel = .ok receipt ∧
      RuntimeApplyTerminalReceipt.decode c.sha256 receipt.canonicalWire = .ok receipt ∧
      receipt.facts = terminalFacts r p ref ∧ receipt.validateAgainstRequest c.sha256 r channel = .ok () := by
  obtain ⟨prepared', hp⟩ := path.previewed h
  obtain rfl := Option.some.inj (hp.opened.symm.trans hprepared)
  have hadmitted := admitted_of_built hs.built hprepared hr
  have hshape : Shaped r p := shape_of_previewed hp hadmitted
  have hnumbers := numbers_of_previewed hgiven.digests hp hadmitted hepoch hobservation.1 hobservation.2
  have hprovisioned := provisioned_of hgiven.digests hsigner hchannel
  refine ⟨hshape, hnumbers, ?_⟩
  exact signTerminal_of hprovisioned hshape hnumbers (hgiven.nonces _ _ hr) hadmitted.digest hadmitted.store hfront
    fun transcript => hgiven.signatures _ transcript hprovisioned.key

theorem sampleSignature_length : (List.replicate 64 (10 : UInt8)).length = 64 := by decide

def sampleScheme : Ed25519 where
  isKey _ := true
  isWeak _ := false
  verifyStrict _ _ _ := true
  verifyingKey _ := .ofNat 13
  sign _ _ := ⟨List.replicate 64 10, sampleSignature_length⟩

theorem given_sample : Given Sample.contracts sampleScheme where
  digests := Sample.hash_ne_zero
  nonces bytes r h := by
    unfold Sample.contracts Sample.decodeRequest at h
    dsimp only at h
    split at h
    · obtain ⟨proof, -, hr⟩ := Option.bind_eq_some_iff.1 h
      cases hr
      exact ⟨List.cons_ne_nil _ _, Nat.le_add_left 1 63⟩
    · cases h
  signatures _ _ _ := rfl

def samplePath : TerminalPath := .startupInterruptedStart (some Sample.tombstones)

def Previewable (run : Sample.InterruptedRun) : Bool :=
  run.cut.state.host.runtimeHostEpochHighWater ≤ u64Max && (samplePath.preview Sample.contracts run.cut ⟨2, 20⟩).isOk &&
    run.cut.state.prepared.any fun prepared => (Sample.decodeRequest prepared.request.canonicalBytes).any fun r =>
      (front16 (Sample.hash (resultRefInput (requestSubject r)))).val.all (· = 0) = false &&
        (ReferenceChannelBinding.tryNew Sample.hash r.target Sample.runtimePeer (.ofNat 27) (.ofNat 28)).isOk

theorem ok_of_isOk {ε α : Type} {x : Except ε α} (h : x.isOk = true) : ∃ a, x = .ok a := by
  cases x with
  | error e => cases h
  | ok a => exact ⟨a, rfl⟩

theorem terminal_signable_interrupted : ∃ run signer r channel p receipt, Sample.interruptedRun = .ok run ∧
    samplePath.preview Sample.contracts run.cut ⟨2, 20⟩ = .ok p ∧
    RuntimeReferenceApplySigner.signTerminal Sample.hash sampleScheme signer r p channel = .ok receipt ∧
    RuntimeApplyTerminalReceipt.decode Sample.hash receipt.canonicalWire = .ok receipt := by
  obtain ⟨run, hrun, hinitial, hmid, hcut, -⟩ := Sample.interruptedRun_ok
  have hsample : Sample.interruptedRun.toOption.any Previewable = true := by decide +kernel
  rw [hrun] at hsample
  have hchecks : Previewable run = true := hsample
  simp only [Previewable, Bool.and_eq_true, decide_eq_true_eq, Option.any_eq_true] at hchecks
  obtain ⟨⟨hepoch, hpreview⟩, prepared, hprepared, r, hr, hfront, hbound⟩ := hchecks
  obtain ⟨p, hp⟩ := ok_of_isOk hpreview
  obtain ⟨channel, hchannel⟩ := ok_of_isOk hbound
  have hreach : Reachable Sample.contracts run.cut :=
    BuilderReachable.reachable (BuilderReachable.call ⟨run.first, run.builders, hinitial, hmid⟩ hcut)
  have hsigner : RuntimeReferenceApplySigner.tryNew sampleScheme (.ofNat 13) (.ofNat 14) 1 1 =
      .ok ⟨.ofNat 13, .ofNat 14, 1, 1⟩ := by decide
  obtain ⟨-, -, receipt, ref, hsigned, hdecoded, -⟩ := terminal_signable given_sample hreach hepoch hprepared hr hfront
    hsigner hchannel ⟨by decide, by decide⟩ samplePath hp
  exact ⟨run, _, r, channel, p, receipt, hrun, hp, hsigned, hdecoded⟩

end Receipt
end ParaEgox
