import ParaEgox.TargetExecution

/-!
# PlanRequest — apply requests that carry a plan beside the signed envelope

A request of every version frames the envelope and the bodies of one plan, whose recomputed digest must be the one in the
envelope's slice.  The versions differ in the plan they carry, in their limits and in the names of their errors; from the
second on the plan joins the bindings with an execution plan under a digest of both digests.
-/
namespace ParaEgox
namespace Plan

open Check Wire Fields Frames
open Envelope (RuntimeApplyEnvelope RuntimeSliceCommitment ProvenanceContractError EnvelopeContractError)

def runtimeApplyRequestMagic : Bytes := ascii "PXAR"

/-! ## Slices and requests -/

/-- What a version of the request knows of its plan: its checks, its digest and its bodies, the version's limit, and the
errors of its slice and of its request. -/
structure RequestKind (A ε : Type) where
  version : Nat
  maxBytes : Nat
  validate : A → Except ε Unit
  assignmentDigest : A → Digest32
  bodies : A → List Bytes
  provenance : ProvenanceContractError → ε
  envelope : EnvelopeContractError → ε
  sliceAssignmentDigestMismatch : ε
  envelopeSliceMismatch : ε
  requestFrameTooLarge : ε

/-- `RuntimePlanSlice` of every version. -/
structure PlanSlice (A : Type) where
  commitment : RuntimeSliceCommitment
  assignments : A

namespace PlanSlice

variable {A ε : Type} (kind : RequestKind A ε) (sha256 : Sha256)

def validate (slice : PlanSlice A) : Except ε Unit := do
  wrapErr kind.provenance (slice.commitment.validate sha256)
  kind.validate slice.assignments
  rejectIf (slice.commitment.header.assignmentDigest ≠ kind.assignmentDigest slice.assignments)
    kind.sliceAssignmentDigestMismatch

/-- `try_new` makes the checks of `validate`. -/
def tryNew (commitment : RuntimeSliceCommitment) (assignments : A) : Except ε (PlanSlice A) := do
  validate kind sha256 ⟨commitment, assignments⟩
  pure ⟨commitment, assignments⟩

end PlanSlice

/-- `RuntimeApplyRequest` of every version. -/
structure ApplyRequest (A : Type) where
  envelope : RuntimeApplyEnvelope
  slice : PlanSlice A
  canonicalWire : Bytes

namespace ApplyRequest

variable {A ε : Type} (kind : RequestKind A ε) (sha256 : Sha256)

/-- `build_runtime_apply_request_wire`: the lengths of the parts and then the parts. -/
def buildWire (envelope : RuntimeApplyEnvelope) (slice : PlanSlice A) : Bytes :=
  let parts := envelope.canonicalWire :: kind.bodies slice.assignments
  runtimeApplyRequestMagic ++ bytesBE 2 kind.version ++
    (parts.flatMap (fun p => bytesBE 4 p.length) ++ parts.flatten)

def tryNew (envelope : RuntimeApplyEnvelope) (slice : PlanSlice A) : Except ε (ApplyRequest A) := do
  wrapErr kind.envelope (envelope.validate sha256)
  slice.validate kind sha256
  rejectIf (envelope.controlCommitment.slice ≠ slice.commitment) kind.envelopeSliceMismatch
  let canonicalWire := buildWire kind envelope slice
  rejectIf (kind.maxBytes < canonicalWire.length) kind.requestFrameTooLarge
  pure ⟨envelope, slice, canonicalWire⟩

end ApplyRequest

/-! ## Plans of bindings and executions -/

structure PlanKind (E ε : Type) where
  validateExecution : E → Except ε Unit
  executionDigest : E → Digest32
  executionWire : E → Bytes
  references : TargetAssignments → E → Except ε Unit
  digestDomain : Bytes
  bindings : AssignmentContractError → ε
  digest : DigestBuildError → ε
  compositeDigestMismatch : ε

/-- `TargetPlanAssignments` of every version. -/
structure TargetPlan (E : Type) where
  bindings : TargetAssignments
  execution : E
  assignmentDigest : Digest32

namespace TargetPlan

variable {E ε : Type} (kind : PlanKind E ε) (sha256 : Sha256)

/-- `digest_target_plan_assignments`. -/
def digestAssignments (bindings : TargetAssignments) (execution : E) : Except DigestBuildError Digest32 :=
  digest32 sha256 kind.digestDomain [bindings.assignmentDigest.asBytes, (kind.executionDigest execution).asBytes]

def tryNew (bindings : TargetAssignments) (execution : E) : Except ε (TargetPlan E) := do
  wrapErr kind.bindings (bindings.validate sha256)
  kind.validateExecution execution
  kind.references bindings execution
  let assignmentDigest ← wrapErr kind.digest (digestAssignments kind sha256 bindings execution)
  pure ⟨bindings, execution, assignmentDigest⟩

def validate (plan : TargetPlan E) : Except ε Unit := do
  wrapErr kind.bindings (plan.bindings.validate sha256)
  kind.validateExecution plan.execution
  kind.references plan.bindings plan.execution
  let assignmentDigest ← wrapErr kind.digest (digestAssignments kind sha256 plan.bindings plan.execution)
  rejectIf (assignmentDigest ≠ plan.assignmentDigest) kind.compositeDigestMismatch

end TargetPlan

/-! ## Decoding -/

inductive RequestWireErrorCode
  | frameTooLarge
  | truncated
  | invalidMagic
  | unsupportedVersion
  | invalidFrameLength
  | envelopeRejected
  | assignmentsRejected
  | bindingsRejected
  | executionRejected
  | targetPlanRejected
  | commitmentMismatch

structure RequestWireError where
  code : RequestWireErrorCode
  detailCode : Option Nat

def RequestWireError.new (code : RequestWireErrorCode) : RequestWireError := ⟨code, none⟩
def RequestWireError.withDetail (code : RequestWireErrorCode) (detail : Nat) : RequestWireError := ⟨code, some detail⟩

def requestCodes : Codes RequestWireError where
  frameTooLarge := .new .frameTooLarge
  truncated := .new .truncated
  invalidMagic := .new .invalidMagic
  unsupportedVersion := .new .unsupportedVersion
  invalidFrameLength := .new .invalidFrameLength

/-- The codes of a nested error, which count from one in the order of their declaration. -/
def envelopeRejected (e : Envelope.WireError) : RequestWireError := .withDetail .envelopeRejected (e.code.ctorIdx + 1)
def assignmentsRejected (e : AssignmentWireError) : RequestWireError := .withDetail .assignmentsRejected (e.code.ctorIdx + 1)
def bindingsRejected (e : AssignmentWireError) : RequestWireError := .withDetail .bindingsRejected (e.code.ctorIdx + 1)

def envelopeFault : Envelope.Fault → Fault RequestWireError
  | .error e => .error (envelopeRejected e)
  | .panic => .panic

/-- Slice and request from the parts that were decoded: whatever their constructors refuse is a mismatch. -/
def assembleRequest {A ε : Type} (kind : RequestKind A ε) (sha256 : Sha256) (envelope : RuntimeApplyEnvelope)
    (assignments : A) : Res RequestWireError (ApplyRequest A) := do
  let slice ← mapErr (PlanSlice.tryNew kind sha256 envelope.controlCommitment.slice assignments)
    (.error (.new .commitmentMismatch))
  mapErr (ApplyRequest.tryNew kind sha256 envelope slice) (.error (.new .commitmentMismatch))

def planRequestParts (headerBytes : Nat) (frame : Bytes) : Cursor RequestWireError (Bytes × Bytes × Bytes) := do
  let envelopeLength ← word
  let bindingsLength ← word
  let executionLength ← word
  let withEnvelope ← Reader.lift (addU64 headerBytes envelopeLength (.error (.new .invalidFrameLength)))
  let withBindings ← Reader.lift (addU64 withEnvelope bindingsLength (.error (.new .invalidFrameLength)))
  let expectedLength ← Reader.lift (addU64 withBindings executionLength (.error (.new .invalidFrameLength)))
  Reader.lift (fill requestCodes frame expectedLength)
  let envelope ← part envelopeLength
  let bindings ← part bindingsLength
  let execution ← remaining
  pure (envelope, bindings, execution)

/-- `decode_runtime_apply_request` from the second version on. -/
def decodePlanRequest {E ε η : Type} (plan : PlanKind E ε) (kind : RequestKind (TargetPlan E) ε) (sha256 : Sha256)
    (headerBytes : Nat) (decodeExecution : Bytes → Res η E) (executionCode : η → Nat) (planCode : ε → Nat) (frame : Bytes) :
    Res RequestWireError (ApplyRequest (TargetPlan E)) := do
  let body ← opening requestCodes runtimeApplyRequestMagic kind.version headerBytes kind.maxBytes frame
  let parts ← (planRequestParts headerBytes frame).on body
  let envelope ← wrapErr envelopeFault (RuntimeApplyEnvelope.decode sha256 parts.1)
  let bindings ← wrapErr (Fault.map bindingsRejected) (TargetAssignments.decode sha256 parts.2.1)
  let execution ← wrapErr (Fault.map fun e => .withDetail .executionRejected (executionCode e)) (decodeExecution parts.2.2)
  let assignments ← wrapErr (fun e => .error (.withDetail .targetPlanRejected (planCode e)))
    (TargetPlan.tryNew plan sha256 bindings execution)
  assembleRequest kind sha256 envelope assignments

/-! ## The first version -/

def runtimeApplyRequestVersion : Nat := 1
def applyRequestHeaderBytes : Nat := 14
def maxRuntimeApplyRequestBytes : Nat :=
  applyRequestHeaderBytes + Admission.maxRuntimeApplyEnvelopeBytes + maxTargetAssignmentsBytes

abbrev RuntimePlanSlice := PlanSlice TargetAssignments
abbrev RuntimeApplyRequest := ApplyRequest TargetAssignments

def runtimeApplyRequest (sha256 : Sha256) : RequestKind TargetAssignments AssignmentContractError where
  version := runtimeApplyRequestVersion
  maxBytes := maxRuntimeApplyRequestBytes
  validate := TargetAssignments.validate sha256
  assignmentDigest := TargetAssignments.assignmentDigest
  bodies := fun t => [t.canonicalWire]
  provenance := .provenance
  envelope := .envelope
  sliceAssignmentDigestMismatch := .sliceAssignmentDigestMismatch
  envelopeSliceMismatch := .envelopeSliceMismatch
  requestFrameTooLarge := .requestFrameTooLarge

def requestParts (frame : Bytes) : Cursor RequestWireError (Bytes × Bytes) := do
  let envelopeLength ← word
  let assignmentsLength ← word
  let componentLength ← Reader.lift (addU64 envelopeLength assignmentsLength (.error (.new .invalidFrameLength)))
  let expectedLength ← Reader.lift (addU64 applyRequestHeaderBytes componentLength (.error (.new .invalidFrameLength)))
  Reader.lift (fill requestCodes frame expectedLength)
  let envelope ← part envelopeLength
  let assignments ← remaining
  pure (envelope, assignments)

def decodeRuntimeApplyRequest (sha256 : Sha256) (frame : Bytes) : Res RequestWireError RuntimeApplyRequest := do
  let body ← opening requestCodes runtimeApplyRequestMagic runtimeApplyRequestVersion applyRequestHeaderBytes
    maxRuntimeApplyRequestBytes frame
  let parts ← (requestParts frame).on body
  let envelope ← wrapErr envelopeFault (RuntimeApplyEnvelope.decode sha256 parts.1)
  let assignments ← wrapErr (Fault.map assignmentsRejected) (TargetAssignments.decode sha256 parts.2)
  assembleRequest (runtimeApplyRequest sha256) sha256 envelope assignments

/-! ## The second version -/

def runtimeApplyRequestV2Version : Nat := 2
def applyRequestV2HeaderBytes : Nat := 18
def maxRuntimeApplyRequestV2Bytes : Nat := applyRequestV2HeaderBytes + Admission.maxRuntimeApplyEnvelopeBytes
  + maxTargetAssignmentsBytes + maxTargetExecutionPlanBytes

abbrev TargetPlanAssignments := TargetPlan TargetExecutionPlan
abbrev RuntimePlanSliceV2 := PlanSlice TargetPlanAssignments
abbrev RuntimeApplyRequestV2 := ApplyRequest TargetPlanAssignments

def targetPlanAssignments (sha256 : Sha256) : PlanKind TargetExecutionPlan TargetPlanContractError where
  validateExecution := fun p => wrapErr .execution (p.validate sha256)
  executionDigest := TargetExecutionPlan.executionDigest
  executionWire := TargetExecutionPlan.canonicalWire
  references := validateTargetPlanReferences
  digestDomain := targetPlanAssignmentsDigestDomain
  bindings := .bindings
  digest := .digest
  compositeDigestMismatch := .compositeDigestMismatch

def runtimeApplyRequestV2 (sha256 : Sha256) : RequestKind TargetPlanAssignments TargetPlanContractError where
  version := runtimeApplyRequestV2Version
  maxBytes := maxRuntimeApplyRequestV2Bytes
  validate := TargetPlan.validate (targetPlanAssignments sha256) sha256
  assignmentDigest := TargetPlan.assignmentDigest
  bodies := fun t => [t.bindings.canonicalWire, t.execution.canonicalWire]
  provenance := .provenance
  envelope := .envelope
  sliceAssignmentDigestMismatch := .sliceAssignmentDigestMismatch
  envelopeSliceMismatch := .envelopeSliceMismatch
  requestFrameTooLarge := .requestFrameTooLarge

/-- `request_v2_target_plan_error`: the codes of `TargetPlanWireErrorCode`. -/
def targetPlanWireCode : TargetPlanContractError → Nat
  | .orphanBinding => 1
  | .bindingMailboxMismatch => 2
  | .bindingTargetMismatch => 3
  | .blockUntilDeadlineForbidden => 4
  | .subjectExecutionMismatch => 5
  | .controlStartSloExceeded => 7
  | _ => 6

/-- `decode_runtime_apply_request_v2`. -/
def decodeRuntimeApplyRequestV2 (sha256 : Sha256) : Bytes → Res RequestWireError RuntimeApplyRequestV2 :=
  decodePlanRequest (targetPlanAssignments sha256) (runtimeApplyRequestV2 sha256) sha256 applyRequestV2HeaderBytes
    (TargetExecutionPlan.decode sha256) (fun e => e.code.ctorIdx + 1) targetPlanWireCode

end Plan
end ParaEgox
