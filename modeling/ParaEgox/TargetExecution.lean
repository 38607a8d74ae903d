import Mathlib.Data.Prod.Lex
import ParaEgox.Dispatcher
import ParaEgox.TargetAssignments

/-!
# TargetExecution — the execution plan of the loop domains of a target

Domains, subjects, requirements and budgets as their constructors leave them; the plan that sorts and validates them; the
decoder over records of 64 and 236 bytes; and the references a plan makes to the bindings beside it.
-/
namespace ParaEgox
namespace Plan

open Check Wire Fields Frames Keyed
open Dispatch (DispatchClass)
open Envelope (ProvenanceContractError EnvelopeContractError)

def targetExecutionPlanVersion : Nat := 1
def maxLoopDomains : Nat := 64
def maxMailboxExecutions : Nat := maxTargetAssignments
def maxDomainOutstanding : UInt32 := 65535
def maxServiceCostTokens : UInt32 := 1000000
def maxMinimumServiceWeight : UInt32 := 1000000
def maxArrivalsPerWindow : UInt32 := 1000000
def maxExecutionDurationNanos : UInt64 := 86400000000000
def targetExecutionMagic : Bytes := ascii "PXTE"
def targetExecutionHeaderBytes : Nat := 14
def loopDomainRecordBytes : Nat := 64
def mailboxExecutionRecordBytes : Nat := 236
def targetExecutionDigestDomain : Bytes := ascii "paraegox.runtime.target-execution.sha256.v1"
def targetPlanAssignmentsDigestDomain : Bytes := ascii "paraegox.runtime.target-plan-assignments.sha256.v2"

def maxTargetExecutionPlanBytes : Nat :=
  targetExecutionHeaderBytes + maxLoopDomains * loopDomainRecordBytes + maxMailboxExecutions * mailboxExecutionRecordBytes

inductive ExecutionContractError
  | invalidMaxOutstanding
  | invalidControlReservation
  | invalidControlBudget
  | invalidDomainBudget
  | invalidServiceCost
  | invalidMinimumServiceWeight
  | invalidMaxBurst
  | invalidArrivalBound
  | invalidExecutionBudget
  | runBoundExceedsRunBudget
  | executionBudgetExceedsDomain
  | domainCountExceeded
  | executionCountExceeded
  | missingLoopDomain
  | missingMailboxExecution
  | duplicateDomainRef
  | duplicateExecutionBinding
  | duplicateExecutionMailbox
  | orphanDomainRef
  | unusedDomainRef
  | unsupportedLoopExecution
  | unsafeLoopOverrunAction
  | sharedCapacityRequired
  | controlReservationRequired
  | controlUtilizationExceeded
  | domainUtilizationExceeded
  | utilizationOverflow
  | digest (e : DigestBuildError)
  | canonicalWireMismatch
  | executionDigestMismatch
  deriving DecidableEq

inductive TargetPlanContractError
  | bindings (e : AssignmentContractError)
  | execution (e : ExecutionContractError)
  | orphanBinding
  | bindingMailboxMismatch
  | bindingTargetMismatch
  | blockUntilDeadlineForbidden
  | subjectExecutionMismatch
  | controlStartSloExceeded
  | compositeDigestMismatch
  | sliceAssignmentDigestMismatch
  | envelopeSliceMismatch
  | provenance (e : ProvenanceContractError)
  | envelope (e : EnvelopeContractError)
  | digest (e : DigestBuildError)
  | requestFrameTooLarge
  | requestCanonicalWireMismatch
  deriving DecidableEq

/-! ## What a plan says of domains and mailboxes -/

inductive CallModel
  | cooperativeAsync
  | synchronous
  | unknown
  deriving DecidableEq

inductive WorkloadKind
  | io
  | routing
  | cpu
  | native
  | device
  | unknown
  deriving DecidableEq

inductive BlockingRisk
  | none
  | bounded
  | unknown
  deriving DecidableEq

inductive RunBoundProvenance
  | declared
  | measured
  | certified
  | unknown
  deriving DecidableEq

inductive OverrunAction
  | «continue»
  | cooperativeCancel
  | escalate
  | uncertain
  deriving DecidableEq

def ValidDuration (value : UInt64) : Prop := 0 < value ∧ value ≤ maxExecutionDurationNanos
  deriving Decidable

structure LoopDomainCapacity where
  maxOutstanding : UInt32
  controlReserved : UInt32
  capacityWindow : UInt64
  controlReservedRunBudget : UInt64
  outstanding : maxOutstanding ≠ 0 ∧ maxOutstanding ≤ maxDomainOutstanding
  reserved : controlReserved ≤ maxOutstanding
  window : ValidDuration capacityWindow
  control : controlReserved = 0 ∧ controlReservedRunBudget = 0 ∨ 0 < controlReserved ∧
    ValidDuration controlReservedRunBudget ∧ controlReservedRunBudget ≤ capacityWindow
  deriving DecidableEq

def LoopDomainCapacity.tryNew (maxOutstanding controlReserved : UInt32) (capacityWindow controlReservedRunBudget : UInt64) :
    Except ExecutionContractError LoopDomainCapacity := do
  let outstanding ← require (maxOutstanding ≠ 0 ∧ maxOutstanding ≤ maxDomainOutstanding) .invalidMaxOutstanding
  let reserved ← require (controlReserved ≤ maxOutstanding) .invalidControlReservation
  let window ← require (ValidDuration capacityWindow) .invalidDomainBudget
  let control ← require (controlReserved = 0 ∧ controlReservedRunBudget = 0 ∨ 0 < controlReserved ∧
    ValidDuration controlReservedRunBudget ∧ controlReservedRunBudget ≤ capacityWindow) .invalidControlBudget
  pure ⟨maxOutstanding, controlReserved, capacityWindow, controlReservedRunBudget, outstanding.down, reserved.down,
    window.down, control.down⟩

structure LoopLifecycleBudgets where
  startBudget : UInt64
  drainBudget : UInt64
  cleanupBudget : UInt64
  valid : ValidDuration startBudget ∧ ValidDuration drainBudget ∧ ValidDuration cleanupBudget
  deriving DecidableEq

def LoopLifecycleBudgets.tryNew (startBudget drainBudget cleanupBudget : UInt64) :
    Except ExecutionContractError LoopLifecycleBudgets := do
  let valid ← require (ValidDuration startBudget ∧ ValidDuration drainBudget ∧ ValidDuration cleanupBudget)
    .invalidDomainBudget
  pure ⟨startBudget, drainBudget, cleanupBudget, valid.down⟩

structure LoopDomainSpec where
  domain : Ref16
  capacity : LoopDomainCapacity
  lifecycle : LoopLifecycleBudgets
  deriving DecidableEq

structure CardSubjectSpec where
  cardDefinition : Ref16
  cardImplementation : Ref16
  definitionDigest : Digest32
  artifactDigest : Digest32
  configDigest : Digest32
  deriving DecidableEq

structure LoopExecutionRequirements where
  callModel : CallModel
  workloadKind : WorkloadKind
  blockingRisk : BlockingRisk
  runBoundProvenance : RunBoundProvenance
  maxNonpreemptiveRun : UInt64
  valid : ValidDuration maxNonpreemptiveRun
  deriving DecidableEq

def LoopExecutionRequirements.tryNew (callModel : CallModel) (workloadKind : WorkloadKind) (blockingRisk : BlockingRisk)
    (runBoundProvenance : RunBoundProvenance) (maxNonpreemptiveRun : UInt64) :
    Except ExecutionContractError LoopExecutionRequirements := do
  let valid ← require (ValidDuration maxNonpreemptiveRun) .invalidExecutionBudget
  pure ⟨callModel, workloadKind, blockingRisk, runBoundProvenance, maxNonpreemptiveRun, valid.down⟩

def LoopExecutionRequirements.IsLoopEligible (r : LoopExecutionRequirements) : Prop :=
  r.callModel = .cooperativeAsync ∧ (r.workloadKind = .io ∨ r.workloadKind = .routing) ∧ r.blockingRisk = .none ∧
    (r.runBoundProvenance = .measured ∨ r.runBoundProvenance = .certified)
  deriving Decidable

structure CallbackBudgets where
  runBudget : UInt64
  cleanupBudget : UInt64
  overrunAction : OverrunAction
  valid : ValidDuration runBudget ∧ ValidDuration cleanupBudget
  deriving DecidableEq

def CallbackBudgets.tryNew (runBudget cleanupBudget : UInt64) (overrunAction : OverrunAction) :
    Except ExecutionContractError CallbackBudgets := do
  let valid ← require (ValidDuration runBudget ∧ ValidDuration cleanupBudget) .invalidExecutionBudget
  pure ⟨runBudget, cleanupBudget, overrunAction, valid.down⟩

@[ext] structure MailboxDispatchPolicy where
  dispatchClass : DispatchClass
  serviceCostTokens : UInt32
  minimumServiceWeight : UInt32
  maxBurst : UInt16
  arrivals : UInt32
  callbackBudgets : CallbackBudgets
  cost : serviceCostTokens ≠ 0 ∧ serviceCostTokens ≤ maxServiceCostTokens
  weight : minimumServiceWeight ≠ 0 ∧ minimumServiceWeight ≤ maxMinimumServiceWeight
  burst : maxBurst ≠ 0
  bounded : arrivals ≠ 0 ∧ arrivals ≤ maxArrivalsPerWindow

instance : DecidableEq MailboxDispatchPolicy := fun _ _ => decidable_of_iff _ MailboxDispatchPolicy.ext_iff.symm

def MailboxDispatchPolicy.tryNew (dispatchClass : DispatchClass) (serviceCostTokens minimumServiceWeight : UInt32)
    (maxBurst : UInt16) (arrivals : UInt32) (callbackBudgets : CallbackBudgets) :
    Except ExecutionContractError MailboxDispatchPolicy := do
  let cost ← require (serviceCostTokens ≠ 0 ∧ serviceCostTokens ≤ maxServiceCostTokens) .invalidServiceCost
  let weight ← require (minimumServiceWeight ≠ 0 ∧ minimumServiceWeight ≤ maxMinimumServiceWeight)
    .invalidMinimumServiceWeight
  let burst ← require (maxBurst ≠ 0) .invalidMaxBurst
  let bounded ← require (arrivals ≠ 0 ∧ arrivals ≤ maxArrivalsPerWindow) .invalidArrivalBound
  pure ⟨dispatchClass, serviceCostTokens, minimumServiceWeight, maxBurst, arrivals, callbackBudgets, cost.down,
    weight.down, nonzero16 burst, bounded.down⟩

structure MailboxExecutionSpec where
  bindingId : Ref16
  mailbox : Ref16
  targetInstance : Ref16
  domain : Ref16
  subject : CardSubjectSpec
  requirements : LoopExecutionRequirements
  dispatch : MailboxDispatchPolicy
  runs : requirements.maxNonpreemptiveRun ≤ dispatch.callbackBudgets.runBudget
  deriving DecidableEq

namespace MailboxExecutionSpec

def tryNew (bindingId mailbox targetInstance domain : Ref16) (subject : CardSubjectSpec)
    (requirements : LoopExecutionRequirements) (dispatch : MailboxDispatchPolicy) :
    Except ExecutionContractError MailboxExecutionSpec := do
  let runs ← require (requirements.maxNonpreemptiveRun ≤ dispatch.callbackBudgets.runBudget) .runBoundExceedsRunBudget
  pure ⟨bindingId, mailbox, targetInstance, domain, subject, requirements, dispatch, runs.down⟩

def key (x : MailboxExecutionSpec) : Ref16 ×ₗ Ref16 ×ₗ Ref16 ×ₗ Ref16 :=
  toLex (x.bindingId, toLex (x.mailbox, toLex (x.targetInstance, x.domain)))

def HasBoundedLoopOverrunResponse (x : MailboxExecutionSpec) : Prop :=
  x.dispatch.callbackBudgets.overrunAction = .cooperativeCancel ∨ x.dispatch.callbackBudgets.overrunAction = .escalate
  deriving Decidable

def SameSubjectContract (x y : MailboxExecutionSpec) : Prop :=
  x.targetInstance = y.targetInstance ∧ x.domain = y.domain ∧ x.subject = y.subject ∧ x.requirements = y.requirements
  deriving Decidable

end MailboxExecutionSpec

/-! ## Validation -/

def callbackOccupancy {ε : Type} (x : MailboxExecutionSpec) (e : ε) : Except ε Nat :=
  addU128 x.dispatch.callbackBudgets.runBudget.toNat x.dispatch.callbackBudgets.cleanupBudget.toNat e

def chargeExecution (domain : LoopDomainSpec) (demands : Nat × Nat) (x : MailboxExecutionSpec) :
    Except ExecutionContractError (Nat × Nat) := do
  rejectIf (domain.capacity.capacityWindow < x.dispatch.callbackBudgets.runBudget ∨
    domain.lifecycle.cleanupBudget < x.dispatch.callbackBudgets.cleanupBudget) .executionBudgetExceedsDomain
  let occupancy ← callbackOccupancy x .utilizationOverflow
  let demand ← mulU128 x.dispatch.arrivals.toNat occupancy .utilizationOverflow
  let total ← addU128 demands.1 demand .utilizationOverflow
  rejectIf (x.dispatch.dispatchClass = .control ∧ domain.capacity.controlReserved = 0) .controlReservationRequired
  let control ← if x.dispatch.dispatchClass = .control then addU128 demands.2 demand .utilizationOverflow
    else .ok demands.2
  pure (total, control)

def validateDomainUtilization (domain : LoopDomainSpec) (mailboxes : List MailboxExecutionSpec) :
    Except ExecutionContractError Unit := do
  let demands ← scan (chargeExecution domain) (0, 0) (mailboxes.filter fun x => x.domain = domain.domain)
  rejectIf (domain.capacity.capacityWindow.toNat < demands.1) .domainUtilizationExceeded
  rejectIf (domain.capacity.controlReservedRunBudget.toNat < demands.2) .controlUtilizationExceeded
  rejectIf (domain.capacity.controlReserved = domain.capacity.maxOutstanding ∧
    ∃ x ∈ mailboxes, x.domain = domain.domain ∧ x.dispatch.dispatchClass ≠ .control) .sharedCapacityRequired

def distinctExecutions (previous x : MailboxExecutionSpec) : Except ExecutionContractError Unit := do
  rejectIf (previous.bindingId = x.bindingId) .duplicateExecutionBinding
  rejectIf (previous.mailbox = x.mailbox) .duplicateExecutionMailbox

def validateExecution (domains : List LoopDomainSpec) (x : MailboxExecutionSpec) : Except ExecutionContractError Unit := do
  rejectIf (¬ ∃ d ∈ domains, d.domain = x.domain) .orphanDomainRef
  rejectIf (¬ x.requirements.IsLoopEligible) .unsupportedLoopExecution
  rejectIf (¬ x.HasBoundedLoopOverrunResponse) .unsafeLoopOverrunAction

def validateExecutionRecords (domains : List LoopDomainSpec) (mailboxes : List MailboxExecutionSpec) :
    Except ExecutionContractError Unit := do
  amongEarlier (fun previous d => rejectIf (previous.domain = d.domain) .duplicateDomainRef) (fun _ => .ok ()) [] domains
  amongEarlier distinctExecutions (validateExecution domains) [] mailboxes
  forEach domains fun d => do
    rejectIf (¬ ∃ x ∈ mailboxes, x.domain = d.domain) .unusedDomainRef
    validateDomainUtilization d mailboxes

/-! ## Records -/

def CallModel.code : CallModel → UInt8
  | .cooperativeAsync => 1
  | .synchronous => 2
  | .unknown => 3

def decodeCallModel : UInt8 → Option CallModel
  | 1 => some .cooperativeAsync
  | 2 => some .synchronous
  | 3 => some .unknown
  | _ => none

def WorkloadKind.code : WorkloadKind → UInt8
  | .io => 1
  | .routing => 2
  | .cpu => 3
  | .native => 4
  | .device => 5
  | .unknown => 6

def decodeWorkloadKind : UInt8 → Option WorkloadKind
  | 1 => some .io
  | 2 => some .routing
  | 3 => some .cpu
  | 4 => some .native
  | 5 => some .device
  | 6 => some .unknown
  | _ => none

def BlockingRisk.code : BlockingRisk → UInt8
  | .none => 1
  | .bounded => 2
  | .unknown => 3

def decodeBlockingRisk : UInt8 → Option BlockingRisk
  | 1 => some .none
  | 2 => some .bounded
  | 3 => some .unknown
  | _ => none

def RunBoundProvenance.code : RunBoundProvenance → UInt8
  | .declared => 1
  | .measured => 2
  | .certified => 3
  | .unknown => 4

def decodeRunBoundProvenance : UInt8 → Option RunBoundProvenance
  | 1 => some .declared
  | 2 => some .measured
  | 3 => some .certified
  | 4 => some .unknown
  | _ => none

def DispatchClass.code : DispatchClass → UInt8
  | .control => 1
  | .interactive => 2
  | .stream => 3
  | .background => 4

def decodeDispatchClass : UInt8 → Option DispatchClass
  | 1 => some .control
  | 2 => some .interactive
  | 3 => some .stream
  | 4 => some .background
  | _ => none

def OverrunAction.code : OverrunAction → UInt8
  | .continue => 1
  | .cooperativeCancel => 2
  | .escalate => 3
  | .uncertain => 4

def decodeOverrunAction : UInt8 → Option OverrunAction
  | 1 => some .continue
  | 2 => some .cooperativeCancel
  | 3 => some .escalate
  | 4 => some .uncertain
  | _ => none

/-- `append_domain_record`. -/
def domainRecord (d : LoopDomainSpec) : Bytes :=
  [d.domain.asBytes, bytesBE 4 d.capacity.maxOutstanding.toNat, bytesBE 4 d.capacity.controlReserved.toNat,
    bytesBE 8 d.capacity.capacityWindow.toNat, bytesBE 8 d.capacity.controlReservedRunBudget.toNat,
    bytesBE 8 d.lifecycle.startBudget.toNat, bytesBE 8 d.lifecycle.drainBudget.toNat,
    bytesBE 8 d.lifecycle.cleanupBudget.toNat].flatten

def subjectBytes (s : CardSubjectSpec) : Bytes :=
  [s.cardDefinition.asBytes, s.cardImplementation.asBytes, s.definitionDigest.asBytes, s.artifactDigest.asBytes,
    s.configDigest.asBytes].flatten

/-- `append_mailbox_execution_record`. -/
def mailboxExecutionRecord (x : MailboxExecutionSpec) : Bytes :=
  [x.bindingId.asBytes, x.mailbox.asBytes, x.targetInstance.asBytes, x.domain.asBytes, subjectBytes x.subject,
    [x.requirements.callModel.code], [x.requirements.workloadKind.code], [x.requirements.blockingRisk.code],
    [x.requirements.runBoundProvenance.code], [DispatchClass.code x.dispatch.dispatchClass],
    bytesBE 4 x.dispatch.serviceCostTokens.toNat, bytesBE 4 x.dispatch.minimumServiceWeight.toNat,
    bytesBE 2 x.dispatch.maxBurst.toNat, bytesBE 4 x.dispatch.arrivals.toNat,
    bytesBE 8 x.requirements.maxNonpreemptiveRun.toNat, bytesBE 8 x.dispatch.callbackBudgets.runBudget.toNat,
    bytesBE 8 x.dispatch.callbackBudgets.cleanupBudget.toNat, [x.dispatch.callbackBudgets.overrunAction.code]].flatten

def buildTargetExecutionWire (domains : List LoopDomainSpec) (mailboxes : List MailboxExecutionSpec) : Bytes :=
  targetExecutionMagic ++ bytesBE 2 targetExecutionPlanVersion ++ (bytesBE 4 domains.length ++
    (bytesBE 4 mailboxes.length ++ (domains.flatMap domainRecord ++ mailboxes.flatMap mailboxExecutionRecord)))

/-! ## The plan -/

def digestTargetExecution (sha256 : Sha256) (canonicalWire : Bytes) : Except DigestBuildError Digest32 :=
  digest32 sha256 targetExecutionDigestDomain [canonicalWire]

structure TargetExecutionPlan where
  domains : List LoopDomainSpec
  mailboxes : List MailboxExecutionSpec
  canonicalWire : Bytes
  executionDigest : Digest32
  deriving DecidableEq

namespace TargetExecutionPlan

def tryNew (sha256 : Sha256) (domains : List LoopDomainSpec) (mailboxes : List MailboxExecutionSpec) :
    Except ExecutionContractError TargetExecutionPlan := do
  rejectIf (domains = []) .missingLoopDomain
  rejectIf (mailboxes = []) .missingMailboxExecution
  rejectIf (maxLoopDomains < domains.length) .domainCountExceeded
  rejectIf (maxMailboxExecutions < mailboxes.length) .executionCountExceeded
  let domains := sortBy LoopDomainSpec.domain domains
  let mailboxes := sortBy MailboxExecutionSpec.key mailboxes
  validateExecutionRecords domains mailboxes
  let canonicalWire := buildTargetExecutionWire domains mailboxes
  let executionDigest ← wrapErr .digest (digestTargetExecution sha256 canonicalWire)
  pure ⟨domains, mailboxes, canonicalWire, executionDigest⟩

def validate (sha256 : Sha256) (p : TargetExecutionPlan) : Except ExecutionContractError Unit := do
  let rebuilt ← tryNew sha256 p.domains p.mailboxes
  rejectIf (rebuilt.domains ≠ p.domains ∨ rebuilt.mailboxes ≠ p.mailboxes) .canonicalWireMismatch
  rejectIf (rebuilt.canonicalWire ≠ p.canonicalWire) .canonicalWireMismatch
  rejectIf (rebuilt.executionDigest ≠ p.executionDigest) .executionDigestMismatch

end TargetExecutionPlan

/-! ## Decoding -/

inductive ExecutionRecordSection
  | domain
  | mailbox

inductive ExecutionWireErrorCode
  | frameTooLarge
  | truncated
  | invalidMagic
  | unsupportedVersion
  | domainCountExceeded
  | executionCountExceeded
  | invalidFrameLength
  | invalidEnumValue
  | invalidDomain
  | invalidMailboxExecution
  | duplicateDomainRef
  | duplicateExecutionBinding
  | duplicateExecutionMailbox
  | orphanDomainRef
  | unusedDomainRef
  | unsupportedLoopExecution
  | controlReservationRequired
  | controlUtilizationExceeded
  | domainUtilizationExceeded
  | missingRecords
  | nonCanonicalFrame
  | unsafeLoopOverrunAction
  | sharedCapacityRequired

structure ExecutionWireError where
  code : ExecutionWireErrorCode
  «section» : Option ExecutionRecordSection
  recordIndex : Option UInt32

def ExecutionWireError.new (code : ExecutionWireErrorCode) : ExecutionWireError := ⟨code, none, none⟩

def ExecutionWireError.at (code : ExecutionWireErrorCode) («section» : ExecutionRecordSection) (index : UInt32) :
    ExecutionWireError := ⟨code, some «section», some index⟩

def executionCodes : Codes ExecutionWireError where
  frameTooLarge := .new .frameTooLarge
  truncated := .new .truncated
  invalidMagic := .new .invalidMagic
  unsupportedVersion := .new .unsupportedVersion
  invalidFrameLength := .new .invalidFrameLength

def decodeDomainRecord (index : UInt32) : Cursor ExecutionWireError LoopDomainSpec := do
  let domain ← ref16 .panic
  let maxOutstanding ← u32 .panic
  let controlReserved ← u32 .panic
  let capacityWindow ← u64 .panic
  let controlReservedRunBudget ← u64 .panic
  let startBudget ← u64 .panic
  let drainBudget ← u64 .panic
  let cleanupBudget ← u64 .panic
  let capacity ← Reader.lift (mapErr
    (LoopDomainCapacity.tryNew maxOutstanding controlReserved capacityWindow controlReservedRunBudget)
    (.error (.at .invalidDomain .domain index)))
  let lifecycle ← Reader.lift (mapErr (LoopLifecycleBudgets.tryNew startBudget drainBudget cleanupBudget)
    (.error (.at .invalidDomain .domain index)))
  pure ⟨domain, capacity, lifecycle⟩

def decodeSubject {ε : Type} : Cursor ε CardSubjectSpec := do
  let cardDefinition ← ref16 .panic
  let cardImplementation ← ref16 .panic
  let definitionDigest ← digest .panic
  let artifactDigest ← digest .panic
  let configDigest ← digest .panic
  pure ⟨cardDefinition, cardImplementation, definitionDigest, artifactDigest, configDigest⟩

/-- `decode_mailbox_execution_record`: whichever constructor refuses, the error is the same. -/
def decodeMailboxExecutionRecord (index : UInt32) : Cursor ExecutionWireError MailboxExecutionSpec := do
  let bindingId ← ref16 .panic
  let mailbox ← ref16 .panic
  let targetInstance ← ref16 .panic
  let domain ← ref16 .panic
  let subject ← decodeSubject
  let callModel ← coded decodeCallModel (.at .invalidEnumValue .mailbox index)
  let workloadKind ← coded decodeWorkloadKind (.at .invalidEnumValue .mailbox index)
  let blockingRisk ← coded decodeBlockingRisk (.at .invalidEnumValue .mailbox index)
  let runBoundProvenance ← coded decodeRunBoundProvenance (.at .invalidEnumValue .mailbox index)
  let dispatchClass ← coded decodeDispatchClass (.at .invalidEnumValue .mailbox index)
  let serviceCostTokens ← u32 .panic
  let minimumServiceWeight ← u32 .panic
  let maxBurst ← u16 .panic
  let arrivals ← u32 .panic
  let maxNonpreemptiveRun ← u64 .panic
  let runBudget ← u64 .panic
  let cleanupBudget ← u64 .panic
  let overrunAction ← coded decodeOverrunAction (.at .invalidEnumValue .mailbox index)
  let invalid := .error (.at .invalidMailboxExecution .mailbox index)
  let requirements ← Reader.lift (mapErr
    (LoopExecutionRequirements.tryNew callModel workloadKind blockingRisk runBoundProvenance maxNonpreemptiveRun) invalid)
  let budgets ← Reader.lift (mapErr (CallbackBudgets.tryNew runBudget cleanupBudget overrunAction) invalid)
  let dispatch ← Reader.lift (mapErr (MailboxDispatchPolicy.tryNew dispatchClass serviceCostTokens minimumServiceWeight
    maxBurst arrivals budgets) invalid)
  Reader.lift (mapErr
    (MailboxExecutionSpec.tryNew bindingId mailbox targetInstance domain subject requirements dispatch) invalid)

def executionContractWireError (e : ExecutionContractError) : ExecutionWireError :=
  .new <| match e with
    | .domainCountExceeded => .domainCountExceeded
    | .executionCountExceeded => .executionCountExceeded
    | .missingLoopDomain | .missingMailboxExecution => .missingRecords
    | .duplicateDomainRef => .duplicateDomainRef
    | .duplicateExecutionBinding => .duplicateExecutionBinding
    | .duplicateExecutionMailbox => .duplicateExecutionMailbox
    | .orphanDomainRef => .orphanDomainRef
    | .unusedDomainRef => .unusedDomainRef
    | .unsupportedLoopExecution => .unsupportedLoopExecution
    | .unsafeLoopOverrunAction => .unsafeLoopOverrunAction
    | .sharedCapacityRequired => .sharedCapacityRequired
    | .controlReservationRequired => .controlReservationRequired
    | .controlUtilizationExceeded => .controlUtilizationExceeded
    | .domainUtilizationExceeded => .domainUtilizationExceeded
    | _ => .invalidMailboxExecution

/-- What `decode_target_execution` reads behind the version. -/
def targetExecutionBody (frame : Bytes) :
    Cursor ExecutionWireError (List LoopDomainSpec × List MailboxExecutionSpec) := do
  let domainCount ← word
  let mailboxCount ← word
  Reader.lift (rejectIf (maxLoopDomains < domainCount) (.error (.new .domainCountExceeded)))
  Reader.lift (rejectIf (maxMailboxExecutions < mailboxCount) (.error (.new .executionCountExceeded)))
  let domainBytes ← Reader.lift (mulU64 domainCount loopDomainRecordBytes (.error (.new .invalidFrameLength)))
  let mailboxBytes ← Reader.lift (mulU64 mailboxCount mailboxExecutionRecordBytes (.error (.new .invalidFrameLength)))
  let withDomains ← Reader.lift (addU64 targetExecutionHeaderBytes domainBytes (.error (.new .invalidFrameLength)))
  let expectedLength ← Reader.lift (addU64 withDomains mailboxBytes (.error (.new .invalidFrameLength)))
  Reader.lift (fill executionCodes frame expectedLength)
  let domainRecords ← part domainBytes
  let domains ← Reader.lift (eachRecord loopDomainRecordBytes decodeDomainRecord domainRecords)
  let mailboxRecords ← remaining
  let mailboxes ← Reader.lift (eachRecord mailboxExecutionRecordBytes decodeMailboxExecutionRecord mailboxRecords)
  pure (domains, mailboxes)

/-- `decode_target_execution`. -/
def TargetExecutionPlan.decode (sha256 : Sha256) (frame : Bytes) : Res ExecutionWireError TargetExecutionPlan := do
  let body ← opening executionCodes targetExecutionMagic targetExecutionPlanVersion targetExecutionHeaderBytes
    maxTargetExecutionPlanBytes frame
  let records ← (targetExecutionBody frame).on body
  let decoded ← wrapErr (fun e => .error (executionContractWireError e)) (tryNew sha256 records.1 records.2)
  rejectIf (decoded.canonicalWire ≠ frame) (.error (.new .nonCanonicalFrame))
  pure decoded

/-! ## References to the bindings -/

def checkedCeilDiv {ε : Type} (value divisor : Nat) (e : ε) : Except ε Nat := do
  let less ← subU128 divisor 1 e
  let raised ← addU128 value less e
  rejectIf (divisor = 0) e
  pure (raised / divisor)

/-- The wait before a control callback with the callbacks of `peer` that can stand before it. -/
def peerDelay (bindings : TargetAssignments) (arrivalHorizon : Nat) (waitBound : Nat) (peer : MailboxExecutionSpec) :
    Except TargetPlanContractError Nat := do
  let peerBinding ← okOr (bindings.assignments.find? fun b => b.bindingId = peer.bindingId) .orphanBinding
  let horizonArrivals ← mulU128 arrivalHorizon peer.dispatch.arrivals.toNat .controlStartSloExceeded
  let peerWork ← addU128 peerBinding.mailboxSpec.capacityItems.toNat horizonArrivals .controlStartSloExceeded
  let occupancy ← callbackOccupancy peer .controlStartSloExceeded
  let delay ← mulU128 peerWork occupancy .controlStartSloExceeded
  addU128 waitBound delay .controlStartSloExceeded

/-- One round of `validate_control_start_slo`. -/
def controlStartSlo (bindings : TargetAssignments) (execution : TargetExecutionPlan) (control : MailboxExecutionSpec) :
    Except TargetPlanContractError Unit := do
  let domain ← okOr (execution.domains.find? fun d => d.domain = control.domain) .controlStartSloExceeded
  let controlBinding ← okOr (bindings.assignments.find? fun b => b.bindingId = control.bindingId) .orphanBinding
  let slo := controlBinding.mailboxSpec.maxQueueAge.toNat
  let windows ← checkedCeilDiv slo domain.capacity.capacityWindow.toNat .controlStartSloExceeded
  let arrivalHorizon ← addU128 windows 1 .controlStartSloExceeded
  let inDomain := execution.mailboxes.filter fun x => x.domain = domain.domain
  let carryIn ← scan (fun carry candidate => do
    let occupancy ← callbackOccupancy candidate .controlStartSloExceeded
    pure (max carry (max occupancy candidate.requirements.maxNonpreemptiveRun.toNat))) 0 inDomain
  let controlOccupancy ← callbackOccupancy control .controlStartSloExceeded
  let ownAhead ← subU128 controlBinding.mailboxSpec.capacityItems.toNat 1 .controlStartSloExceeded
  let ownDelay ← mulU128 ownAhead controlOccupancy .controlStartSloExceeded
  let waitBound ← addU128 carryIn ownDelay .controlStartSloExceeded
  let waitBound ← scan (peerDelay bindings arrivalHorizon) waitBound
    (inDomain.filter fun x => x.bindingId ≠ control.bindingId)
  rejectIf (slo ≤ waitBound) .controlStartSloExceeded

def validateControlStartSlo (bindings : TargetAssignments) (execution : TargetExecutionPlan) :
    Except TargetPlanContractError Unit :=
  forEach (execution.mailboxes.filter fun x => x.dispatch.dispatchClass = .control) (controlStartSlo bindings execution)

def blocksUntilDeadline (bindings : TargetAssignments) : Bool :=
  bindings.assignments.any fun b =>
    b.delivery.overflowPolicy = .blockUntilDeadline ∨ b.mailboxSpec.overflowPolicy = .blockUntilDeadline

/-- The binding an execution refers to, which has its mailbox and its target instance. -/
def validateBindingReference {ε : Type} (orphan mailboxMismatch targetMismatch : ε) (bindings : TargetAssignments)
    (bindingId mailbox targetInstance : Ref16) : Except ε Unit := do
  let binding ← okOr (bindings.assignments.find? fun b => b.bindingId = bindingId) orphan
  rejectIf (binding.mailbox ≠ mailbox) mailboxMismatch
  rejectIf (binding.target.instanceRef ≠ targetInstance) targetMismatch

def validateTargetPlanReferences (bindings : TargetAssignments) (execution : TargetExecutionPlan) :
    Except TargetPlanContractError Unit := do
  rejectIf (blocksUntilDeadline bindings) .blockUntilDeadlineForbidden
  forEach execution.mailboxes fun x =>
    validateBindingReference .orphanBinding .bindingMailboxMismatch .bindingTargetMismatch bindings x.bindingId x.mailbox
      x.targetInstance
  amongEarlier (fun previous x => rejectIf (previous.targetInstance = x.targetInstance ∧ ¬ previous.SameSubjectContract x)
    .subjectExecutionMismatch) (fun _ => .ok ()) [] execution.mailboxes
  validateControlStartSlo bindings execution

end Plan
end ParaEgox
