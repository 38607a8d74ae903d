import ParaEgox.ApplyPorts

/-!
# ApplyCore — the durable apply owner

`RuntimeReferenceApplyCore`: exact replay of a stored terminal, the two admission commits, and the one-source start or
empty retire they lead to, each effect behind the commit that announces it.
-/
namespace ParaEgox
namespace Control

open Check Journal RuntimeJournalSnapshot Program

inductive RuntimeReferenceApplyError
  | store (e : RuntimeReferenceApplyStoreError)
  | clock (e : RuntimeReferenceApplyClockError)
  | state (e : RuntimeControlStateError)
  | storeStateDiverged
  | operationConflict
  | owner (e : RuntimeReferenceMaterializationOwnerError)
  | ownerRecoveryRequired
  | responseSignerRejected
  | terminalReceiptRejected
  deriving DecidableEq

structure RuntimeStoredReferenceApplyReceipt where
  receipt : ReferenceApplyTerminalReceipt
  originalRuntimePeer : Ref16
  originalChannelBindingDigest : Digest32
  deriving DecidableEq

inductive RuntimeReferenceApplyOutcome
  | terminal (stored : RuntimeStoredReferenceApplyReceipt)
  | tenureOnlyDurable

/-- What a process is provisioned with: the contracts, the response signer and its own channel. -/
structure Provision where
  contracts : Contracts
  signTerminal : ReferenceApplyRequest → RuntimeTerminalPreview → ReferenceChannelBinding →
    Except RuntimeReferenceApplyError ReferenceApplyTerminalReceipt
  channel : ReferenceChannelBinding

/-- The in-memory state of the apply owner: its projection of the journal, and the tenure under which this process has
completed a full admission. -/
structure RuntimeReferenceApplyCore where
  state : RuntimeJournalSnapshot
  residentFullAdmittedTenure : Option RuntimeTenureAdmissionInput

abbrev Apply := Job ports RuntimeReferenceApplyCore RuntimeReferenceApplyError

namespace Apply

/-! ## Ports -/

def observe (clockGeneration : U64) : Apply RuntimeDeadlineObservation := do
  let answer ← Job.call (I := ports) (.observe clockGeneration)
  Job.lift .clock answer

def prepareOneSource (request : ReferenceApplyRequest) (durableAction : Option JournalActionRef) :
    Apply RuntimeOneSourceOwnerPlan := do
  let answer ← Job.call (I := ports) (.prepareOneSource request durableAction)
  Job.lift .owner answer

def materializeOneSource (action : JournalActionRef) (resources : RuntimeOneSourceResourceRefs) :
    Apply RuntimeOneSourceOwnershipInput := do
  let answer ← Job.call (I := ports) (.materializeOneSource action resources)
  Job.lift .owner answer

def startOneSourceOnce (action : JournalActionRef) : Apply Unit := do
  let answer ← Job.call (I := ports) (.startOneSourceOnce action)
  Job.lift .owner answer

def prepareEmptyRetire (activeSliceDigest : TargetSliceDigest) (resourceGeneration : U64)
    (durableAction : Option JournalActionRef) : Apply RuntimeEmptyRetireOwnerPlan := do
  let answer ← Job.call (I := ports) (.prepareEmptyRetire activeSliceDigest resourceGeneration durableAction)
  Job.lift .owner answer

def stopOneSourceOnce (action : JournalActionRef) : Apply Unit := do
  let answer ← Job.call (I := ports) (.stopOneSourceOnce action)
  Job.lift .owner answer

def cleanupOneSourceOnce (action : JournalActionRef) : Apply RuntimeOneSourceTombstonesInput := do
  let answer ← Job.call (I := ports) (.cleanupOneSourceOnce action)
  Job.lift .owner answer

def ensureStoreMatchesState : Apply Unit := do
  let answer ← Job.call (I := ports) .currentSnapshot
  let current ← Job.lift .store answer
  let self ← Job.self
  Job.rejectIf (current ≠ self.state) .storeStateDiverged

/-- `commit_state`: the projection advances only once the store has confirmed the successor. -/
def commitState (next : RuntimeJournalSnapshot) : Apply Unit := do
  let answer ← Job.call (I := ports) (.commitSnapshot next)
  Job.lift .store answer
  Job.update fun self => { self with state := next }

def advance (step : RuntimeJournalSnapshot → Except RuntimeControlStateError RuntimeJournalSnapshot) : Apply Unit := do
  let self ← Job.self
  let next ← Job.lift .state (step self.state)
  commitState next

def preview (step : RuntimeJournalSnapshot → Res RuntimeTerminalPreview) : Apply RuntimeTerminalPreview := do
  let self ← Job.self
  Job.lift (fun e => .state (.journal e)) (step self.state)

/-! ## Reading the projection -/

def prepared : Apply PreparedOperation := do
  let self ← Job.self
  Job.need .ownerRecoveryRequired self.state.state.prepared

/-- `start_action`: the action of a start whose intent is durable and about which nothing is latched. -/
def startAction : Apply JournalActionRef := do
  let p ← prepared
  Job.rejectIf (p.phase ≠ .firstActionIntent ∨ p.rawOutcome.isSome) .ownerRecoveryRequired
  Job.need .ownerRecoveryRequired (p.action.filter (·.kind = .startOneSourceLoop))

inductive StartResourcePhase
  | absent
  | reserved
  | owned
  deriving DecidableEq

def recordsOf (resources : List OwnedResourceRecord) (action : JournalActionRef) : List OwnedResourceRecord :=
  resources.filter (·.actionId = some action.actionId)

def phaseOfRecords (records : List OwnedResourceRecord) : Except RuntimeReferenceApplyError StartResourcePhase :=
  if records.all (·.phase = .reserved) then .ok .reserved
  else if records.all (·.phase = .owned) then .ok .owned
  else .error .ownerRecoveryRequired

/-- `start_resource_phase`: none, or exactly the pair of the plan in one phase. -/
def resourcePhase (resources : List OwnedResourceRecord) (action : JournalActionRef)
    (refs : RuntimeOneSourceResourceRefs) : Except RuntimeReferenceApplyError StartResourcePhase :=
  let records := recordsOf resources action
  if records = [] then .ok .absent
  else do
    rejectIf (records.length ≠ 2 ∨ ∃ r ∈ records, r.generation ≠ action.resourceGeneration
      ∨ r.runtimeHostEpoch ≠ action.runtimeHostEpoch) .ownerRecoveryRequired
    rejectIf ((¬ ∃ r ∈ records, r.kind = .loopDomain ∧ r.logicalRef = refs.loopDomain)
      ∨ ¬ ∃ r ∈ records, r.kind = .cardInstance ∧ r.logicalRef = refs.cardInstance) .ownerRecoveryRequired
    phaseOfRecords records

def startResourcePhase (action : JournalActionRef) (refs : RuntimeOneSourceResourceRefs) :
    Apply StartResourcePhase := do
  let self ← Job.self
  Job.lift id (resourcePhase self.state.state.ownedResources action refs)

/-- `active_one_source_retire_facts`: the live one-source head an empty operation retires. -/
def retireFacts (s : RuntimeJournalState) : Option (TargetSliceDigest × U64) := do
  let active ← s.activeDesired.filter (·.kind = .oneSourceLoop)
  match s.liveMaterialization with
  | .liveReady digest _ generation _ => if active.slice.digest = digest then some (digest, generation) else none
  | _ => none

def activeOneSourceRetireFacts : Apply (TargetSliceDigest × U64) := do
  let self ← Job.self
  Job.need .ownerRecoveryRequired (retireFacts self.state.state)

def validateOneSourcePlan (request : ReferenceApplyRequest) (plan : RuntimeOneSourceOwnerPlan)
    (durableAction : Option JournalActionRef) : Except RuntimeReferenceApplyError Unit := do
  let facts ← okOr request.execution.loopFacts .ownerRecoveryRequired
  rejectIf (plan.actionId = 0 ∨ plan.domainGeneration = 0 ∨ plan.instanceGeneration = 0 ∨ plan.resourceGeneration = 0
    ∨ plan.resources.loopDomain ≠ facts.loopDomain ∨ plan.resources.cardInstance ≠ facts.cardInstance
    ∨ plan.signedBudgets ≠ facts.budgets) .ownerRecoveryRequired
  whenSome durableAction fun action =>
    rejectIf (action.kind ≠ .startOneSourceLoop ∨ plan.actionId ≠ action.actionId
      ∨ plan.domainGeneration ≠ action.domainGeneration ∨ plan.instanceGeneration ≠ action.instanceGeneration
      ∨ plan.resourceGeneration ≠ action.resourceGeneration) .ownerRecoveryRequired

/-! ## Replay -/

def terminalReplay (c : Contracts) (self : RuntimeJournalSnapshot) (request : ReferenceApplyRequest) :
    Except RuntimeReferenceApplyError (Option RuntimeStoredReferenceApplyReceipt) :=
  match self.state.terminalOperations.find? fun t =>
      t.sourceScope = request.provenance.sourceScope && t.operationId = request.operationId with
  | none => .ok none
  | some terminal => do
    rejectIf (terminal.requestDigest ≠ request.envelopeRequestDigest) .operationConflict
    let receipt ← match decodeAndValidateTerminalReceipt c self.storeInstanceId terminal with
      | .ok receipt => .ok receipt
      | .error e => .error (.state (.journal e))
    rejectIf (receipt.target ≠ request.target ∨ receipt.requestNonce ≠ request.authentication.nonce)
      .terminalReceiptRejected
    pure (some ⟨receipt, receipt.authenticationRuntimePeer, receipt.authenticationChannelBindingDigest⟩)

def tryTerminalReplay (x : Provision) (request : ReferenceApplyRequest) :
    Apply (Option RuntimeStoredReferenceApplyReceipt) := do
  let self ← Job.self
  Job.lift id (terminalReplay x.contracts self.state request)

def tryExactTerminalReplay (x : Provision) (request : ReferenceApplyRequest) :
    Apply (Option RuntimeStoredReferenceApplyReceipt) := do
  ensureStoreMatchesState
  tryTerminalReplay x request

def completedOutcome (x : Provision) (request : ReferenceApplyRequest) : Apply RuntimeReferenceApplyOutcome := do
  let replay ← tryTerminalReplay x request
  let stored ← Job.need .terminalReceiptRejected replay
  pure (.terminal stored)

/-! ## Terminals -/

def receiptInput (receipt : ReferenceApplyTerminalReceipt) (selection : RuntimeDeadlineObservation) :
    Res RuntimeTerminalInput := do
  let response ← OpaqueCanonicalValue.tryNew receipt.canonicalWire receipt.receiptDigest
    maxReferenceApplyTerminalReceiptBytes
  pure ⟨response, selection⟩

def terminalInput (x : Provision) (request : ReferenceApplyRequest) (preview : RuntimeTerminalPreview)
    (selection : RuntimeDeadlineObservation) : Apply RuntimeTerminalInput := do
  let receipt ← Job.lift id (x.signTerminal request preview x.channel)
  Job.lift (fun e => .state (.journal e)) (receiptInput receipt selection)

/-- The common end of every terminal: preview, sign, commit, and answer with the stored receipt. -/
def finish (x : Provision) (request : ReferenceApplyRequest) (selection : RuntimeDeadlineObservation)
    (facts : RuntimeTerminalPreview)
    (step : RuntimeJournalSnapshot → RuntimeTerminalInput → Except RuntimeControlStateError RuntimeJournalSnapshot) :
    Apply RuntimeReferenceApplyOutcome := do
  let terminal ← terminalInput x request facts selection
  advance fun self => step self terminal
  completedOutcome x request

def finishNoEffectDeadline (x : Provision) (request : ReferenceApplyRequest) (selection : RuntimeDeadlineObservation) :
    Apply RuntimeReferenceApplyOutcome := do
  let facts ← preview fun self => self.tryPreviewNoEffectDeadlineTerminal x.contracts selection
  finish x request selection facts fun self terminal => tryNoEffectDeadlineTerminal x.contracts self request terminal

def finishEmptyFastTerminal (x : Provision) (request : ReferenceApplyRequest) (selection : RuntimeDeadlineObservation)
    (facts : RuntimeTerminalPreview) : Apply RuntimeReferenceApplyOutcome :=
  finish x request selection facts fun self terminal => tryEmptyExactZeroFastPath x.contracts self request terminal

def finishOneSourcePostIntentTimeout (x : Provision) (request : ReferenceApplyRequest)
    (selection : RuntimeDeadlineObservation) : Apply RuntimeReferenceApplyOutcome := do
  let facts ← preview fun self => self.tryPreviewOneSourcePostIntentTimeoutTerminal x.contracts selection
  finish x request selection facts fun self terminal =>
    tryOneSourcePostIntentTimeoutTerminal x.contracts self request terminal

def finishOneSourceTerminal (x : Provision) (request : ReferenceApplyRequest) (callbackActionId : Ref16)
    (selection : RuntimeDeadlineObservation) (facts : RuntimeTerminalPreview) : Apply RuntimeReferenceApplyOutcome :=
  finish x request selection facts fun self terminal =>
    tryOneSourceSuccessTerminal x.contracts self request callbackActionId terminal

/-! ## A one-source start -/

def startOwned (x : Provision) (request : ReferenceApplyRequest) (action : JournalActionRef) :
    Apply RuntimeReferenceApplyOutcome := do
  startOneSourceOnce action
  let p ← prepared
  let selection ← observe p.installedClockGeneration
  let facts ← preview fun self => self.tryPreviewOneSourceSuccessTerminal x.contracts action.actionId selection
  finishOneSourceTerminal x request action.actionId selection facts

def ownReserved (x : Provision) (action : JournalActionRef) (refs : RuntimeOneSourceResourceRefs) : Apply Unit := do
  let phase ← startResourcePhase action refs
  if phase = .reserved then do
    let ownership ← materializeOneSource action refs
    advance fun self => journaled (Builder.call x.contracts self (.ownOneSourceResources ownership))
  else pure ()

def materializeAndStart (x : Provision) (request : ReferenceApplyRequest) (action : JournalActionRef)
    (refs : RuntimeOneSourceResourceRefs) : Apply RuntimeReferenceApplyOutcome := do
  ownReserved x action refs
  let phase ← startResourcePhase action refs
  Job.rejectIf (phase ≠ .owned) .ownerRecoveryRequired
  startOwned x request action

def reserveAndStart (x : Provision) (request : ReferenceApplyRequest) (action : JournalActionRef)
    (refs : RuntimeOneSourceResourceRefs) : Apply RuntimeReferenceApplyOutcome := do
  let p ← prepared
  let postIntent ← observe p.installedClockGeneration
  if p.installedDeadlineNanos ≤ postIntent.observedAtNanos then finishOneSourcePostIntentTimeout x request postIntent
  else do
    advance fun self => journaled (Builder.call x.contracts self (.reserveOneSourceResources refs))
    materializeAndStart x request action refs

def continueStart (x : Provision) (request : ReferenceApplyRequest) : Apply RuntimeReferenceApplyOutcome := do
  let action ← startAction
  let plan ← prepareOneSource request (some action)
  Job.lift id (validateOneSourcePlan request plan (some action))
  let phase ← startResourcePhase action plan.resources
  if phase = .absent then reserveAndStart x request action plan.resources
  else materializeAndStart x request action plan.resources

def startInput (plan : RuntimeOneSourceOwnerPlan) (preIntent : RuntimeDeadlineObservation) : RuntimeStartActionInput :=
  ⟨plan.actionId, plan.domainGeneration, plan.instanceGeneration, plan.resourceGeneration, preIntent⟩

def intendStart (x : Provision) (request : ReferenceApplyRequest) (p : PreparedOperation) :
    Apply RuntimeReferenceApplyOutcome := do
  let preIntent ← observe p.installedClockGeneration
  if p.installedDeadlineNanos ≤ preIntent.observedAtNanos then finishNoEffectDeadline x request preIntent
  else do
    let plan ← prepareOneSource request none
    Job.lift id (validateOneSourcePlan request plan none)
    advance fun self => journaled (Builder.call x.contracts self (.oneSourceIntent (startInput plan preIntent)))
    continueStart x request

def executeOneSource (x : Provision) (request : ReferenceApplyRequest) : Apply RuntimeReferenceApplyOutcome := do
  let p ← prepared
  Job.rejectIf (p.incomingKind ≠ .oneSourceLoop) .terminalReceiptRejected
  if p.phase = .preparedNoEffects then intendStart x request p else continueStart x request

/-! ## An empty retire -/

/-- The stop callback, latched before cleanup: the deadline may have passed, but the empty head cannot roll back. -/
def stopRetiring (x : Provision) (p : PreparedOperation) (action : JournalActionRef) : Apply Unit := do
  let preStop ← observe p.installedClockGeneration
  stopOneSourceOnce action
  let observation ← if p.installedDeadlineNanos ≤ preStop.observedAtNanos then pure preStop
    else observe p.installedClockGeneration
  advance fun self => journaled (Builder.call x.contracts self (.latchEmptySuccess observation))

def stopUnlatched (x : Provision) (p : PreparedOperation) (action : JournalActionRef) : Apply Unit :=
  if p.rawOutcome = none then stopRetiring x p action else pure ()

def cleanupRetiring (x : Provision) (request : ReferenceApplyRequest) (action : JournalActionRef) :
    Apply RuntimeReferenceApplyOutcome := do
  let tombstones ← cleanupOneSourceOnce action
  let p ← prepared
  let selection ← observe p.installedClockGeneration
  let facts ← preview fun self => self.tryPreviewEmptyExactZeroTerminal x.contracts (some tombstones) selection
  finish x request selection facts fun self terminal =>
    journaled (Builder.call x.contracts self (.emptyExactZero (some tombstones) terminal))

def retirePlanMismatch (plan : RuntimeEmptyRetireOwnerPlan) (action : JournalActionRef) (retiring : RetiringLiveFacts) :
    Prop :=
  plan.actionId ≠ action.actionId
    ∨ plan.signedBudgets.start ≠ retiring.signedStartBudgetNanos
    ∨ plan.signedBudgets.drain ≠ retiring.signedDrainBudgetNanos
    ∨ plan.signedBudgets.cleanup ≠ retiring.signedCleanupBudgetNanos

instance (plan : RuntimeEmptyRetireOwnerPlan) (action : JournalActionRef) (retiring : RetiringLiveFacts) :
    Decidable (retirePlanMismatch plan action retiring) := by
  unfold retirePlanMismatch
  infer_instance

def continueRetire (x : Provision) (request : ReferenceApplyRequest) : Apply RuntimeReferenceApplyOutcome := do
  let p ← prepared
  Job.rejectIf (p.phase ≠ .headCommittedRetiringOld) .ownerRecoveryRequired
  let action ← Job.need .ownerRecoveryRequired (p.action.filter (·.kind = .drainToEmpty))
  let retiring ← Job.need .ownerRecoveryRequired p.retiring
  let plan ← prepareEmptyRetire retiring.oldSlice.digest retiring.oldResourceGeneration (some action)
  Job.rejectIf (retirePlanMismatch plan action retiring) .ownerRecoveryRequired
  stopUnlatched x p action
  cleanupRetiring x request action

def intendRetire (x : Provision) (request : ReferenceApplyRequest) (preIntent : RuntimeDeadlineObservation) :
    Apply RuntimeReferenceApplyOutcome := do
  let facts ← activeOneSourceRetireFacts
  let plan ← prepareEmptyRetire facts.1 facts.2 none
  advance fun self => tryEmptyHeadRetire x.contracts self request plan.actionId plan.signedBudgets preIntent
  continueRetire x request

/-- An empty operation that has not crossed its first effect boundary: timed out, already exact zero, or a retire. -/
def intendEmpty (x : Provision) (request : ReferenceApplyRequest) (p : PreparedOperation) :
    Apply RuntimeReferenceApplyOutcome := do
  let preIntent ← observe p.installedClockGeneration
  if p.installedDeadlineNanos ≤ preIntent.observedAtNanos then finishNoEffectDeadline x request preIntent
  else do
    let self ← Job.self
    match self.state.tryPreviewEmptyExactZeroFastPath x.contracts preIntent with
    | .ok facts => finishEmptyFastTerminal x request preIntent facts
    | .error _ => intendRetire x request preIntent

def executeEmpty (x : Provision) (request : ReferenceApplyRequest) : Apply RuntimeReferenceApplyOutcome := do
  let p ← prepared
  Job.rejectIf (p.incomingKind ≠ .emptyDeactivate) .terminalReceiptRejected
  if p.phase = .preparedNoEffects then intendEmpty x request p else continueRetire x request

/-! ## Applying a request -/

def execute (x : Provision) (request : ReferenceApplyRequest) : Apply RuntimeReferenceApplyOutcome :=
  match request.execution.mode with
  | .oneSourceLoop => executeOneSource x request
  | .emptyDeactivate => executeEmpty x request

def commitTenure (tenure : RuntimeControlTransition) : Apply Unit :=
  if tenure.disposition = .committed then do
    Job.update fun self => { self with residentFullAdmittedTenure := none }
    commitState tenure.state
  else pure ()

/-- The capability of a full admission: minted by the tenure transition, or continued from the resident tenure, which is
taken either way. -/
def admissionCapability (x : Provision) (request : ReferenceApplyRequest) (preflight : RuntimeReferenceApplyPreflight) :
    Option RuntimePreparedReferenceAdmission → Apply (Option RuntimePreparedReferenceAdmission)
  | some capability => pure (some capability)
  | none => do
    let self ← Job.self
    Job.update fun self => { self with residentFullAdmittedTenure := none }
    match self.residentFullAdmittedTenure with
    | none => pure none
    | some resident =>
      Job.lift .state (tryReferenceResidentTenureContinuation x.contracts self.state request preflight resident)

def commitFull (full : RuntimeControlTransition) (admitted : RuntimeTenureAdmissionInput) : Apply Unit :=
  if full.disposition = .committed then do
    commitState full.state
    Job.update fun self => { self with residentFullAdmittedTenure := some admitted }
  else pure ()

def admitAndExecute (x : Provision) (request : ReferenceApplyRequest)
    (capability : RuntimePreparedReferenceAdmission) : Apply RuntimeReferenceApplyOutcome := do
  let self ← Job.self
  let full ← Job.lift .state (tryReferenceFullAdmission x.contracts self.state capability)
  commitFull full capability.admission.tenure
  execute x request

def applyFresh (x : Provision) (request : ReferenceApplyRequest) (preflight : RuntimeReferenceApplyPreflight) :
    Apply RuntimeReferenceApplyOutcome := do
  let self ← Job.self
  let tenure ← Job.lift .state (tryReferenceTenureOnly x.contracts self.state request preflight)
  commitTenure tenure
  let capability ← admissionCapability x request preflight tenure.preparedAdmission
  match capability with
  | none => pure .tenureOnlyDurable
  | some capability => admitAndExecute x request capability

def tryApply (x : Provision) (request : ReferenceApplyRequest) (preflight : RuntimeReferenceApplyPreflight) :
    Apply RuntimeReferenceApplyOutcome := do
  Job.rejectIf (preflight.responseChannel ≠ x.channel) (.state .preflightRejected)
  let replay ← tryExactTerminalReplay x request
  match replay with
  | some stored => pure (.terminal stored)
  | none => applyFresh x request preflight

end Apply
end Control
end ParaEgox
