import ParaEgox.Digest

/-!
# Contracts — what the Runtime reads of the control contracts

The parts of `paraegox-runtime-contracts` that the Runtime owner reads: slice provenance and its commitment, the local
control channel binding, the decoded apply request with its ingress identities, and the decoded terminal receipt.  The
PXAR and PXRT codecs themselves are parameters (`Contracts`).
-/
namespace ParaEgox

open Check

abbrev SourcePlanDigest := Digest32
abbrev TargetAssignmentDigest := Digest32
abbrev TargetSliceDigest := Digest32

structure PlanProvenance where
  sourceScope : Ref16
  sourcePlan : Ref16
  sourceRevision : U64
  sourcePlanDigest : SourcePlanDigest
  deriving DecidableEq

/-- `RuntimeSliceHeader`, contract version 1. -/
structure RuntimeSliceHeader where
  target : Ref16
  provenance : PlanProvenance
  assignmentDigest : TargetAssignmentDigest

def targetSliceDigestDomain : Bytes :=
  Text.bytes (s := "paraegox.runtime.target-slice.sha256.v1") ⟨_, by conv => rhs; simp [ascii]⟩

def RuntimeSliceHeader.fields (h : RuntimeSliceHeader) : List Bytes :=
  [bytesBE 2 1, h.target.asBytes, h.provenance.sourceScope.asBytes, h.provenance.sourcePlan.asBytes,
    bytesBE 8 h.provenance.sourceRevision, h.provenance.sourcePlanDigest.asBytes, h.assignmentDigest.asBytes]

/-- `RuntimeSliceCommitment::try_new`: the target-slice digest of a header. -/
def runtimeSliceCommitment (sha256 : Sha256) (h : RuntimeSliceHeader) : Except DigestBuildError TargetSliceDigest :=
  digest32 sha256 targetSliceDigestDomain h.fields

structure ReferenceChannelBinding where
  target : Ref16
  runtimePeer : Ref16
  localEndpointIdentityDigest : Digest32
  peerCredentialsDigest : Digest32
  bindingDigest : Digest32
  deriving DecidableEq

inductive ReferenceContractError
  | invalidCompatibility
  | digest (e : DigestBuildError)

def localControlChannelBindingDigestDomain : Bytes :=
  Text.bytes (s := "paraegox.runtime.local-control-channel-binding.sha256.v1") ⟨_, by conv => rhs; simp [ascii]⟩

def ReferenceChannelBinding.tryNew (sha256 : Sha256) (target runtimePeer : Ref16)
    (localEndpointIdentityDigest peerCredentialsDigest : Digest32) :
    Except ReferenceContractError ReferenceChannelBinding := do
  rejectIf (localEndpointIdentityDigest = 0 ∨ peerCredentialsDigest = 0) .invalidCompatibility
  let bindingDigest ← match digest32 sha256 localControlChannelBindingDigestDomain
      [bytesBE 2 1, target.asBytes, runtimePeer.asBytes, localEndpointIdentityDigest.asBytes,
        peerCredentialsDigest.asBytes] with
    | .error e => .error (.digest e)
    | .ok d => .ok d
  pure ⟨target, runtimePeer, localEndpointIdentityDigest, peerCredentialsDigest, bindingDigest⟩

inductive ReferenceAssemblyMode
  | oneSourceLoop
  | emptyDeactivate
  deriving DecidableEq

inductive ExpectedActive
  | none
  | exact (digest : TargetSliceDigest)
  deriving DecidableEq

/-- The writer-tenure proof inside the control commitment.  A claim is only built for a nonzero epoch above the one it
supersedes, and the writer context repeats its writer and epoch. -/
structure WriterTenureProof where
  authority : Ref16
  authorityKey : Ref16
  algorithm : Nat
  algorithmVersion : Nat
  sourceScope : Ref16
  writer : Ref16
  epoch : U64
  supersedesThroughEpoch : U64
  nonce : Bytes
  signature : Bytes
  epoch_ne_zero : epoch ≠ 0
  supersedes_lt : supersedesThroughEpoch < epoch
  deriving DecidableEq

structure ApplyAuthenticationClaim where
  principal : Ref16
  key : Ref16
  algorithm : Nat
  algorithmVersion : Nat
  nonce : Bytes
  deriving DecidableEq

structure ApplyTemporalConstraint where
  constraintId : Ref16
  targetClockDomain : Ref16
  targetClockGeneration : U64
  originalBudget : U64
  remainingBudget : U64
  deriving DecidableEq

/-- `ValidatedReferenceLifecycleBudgetsV1`, in nanoseconds. -/
structure ReferenceLifecycleBudgets where
  start : U64
  drain : U64
  cleanup : U64
  deriving DecidableEq

structure ReferenceLoopFacts where
  loopDomain : Ref16
  cardInstance : Ref16
  budgets : ReferenceLifecycleBudgets
  deriving DecidableEq

/-- The PXTE facts the Runtime reads: mode, target, pinned manifest and the loop facts of a one-source mode. -/
structure ReferenceTargetExecution where
  mode : ReferenceAssemblyMode
  target : Ref16
  manifestDigest : Digest32
  loopFacts : Option ReferenceLoopFacts
  deriving DecidableEq

/-- A decoded `ReferenceApplyRequestV1`. -/
structure ReferenceApplyRequest where
  canonicalWire : Bytes
  canonicalSliceWire : Bytes
  envelopeRequestDigest : Digest32
  expectedRuntimeStoreInstanceId : Id32
  target : Ref16
  provenance : PlanProvenance
  assignmentDigest : TargetAssignmentDigest
  targetSliceDigest : TargetSliceDigest
  operationId : Ref16
  expectedActive : ExpectedActive
  proof : WriterTenureProof
  authentication : ApplyAuthenticationClaim
  temporal : ApplyTemporalConstraint
  execution : ReferenceTargetExecution
  deriving DecidableEq

def writerTenureProofEnvelopeDigestDomain : Bytes :=
  Text.bytes (s := "paraegox.runtime.writer-tenure-proof.sha256.v1") ⟨_, by conv => rhs; simp [ascii]⟩

def WriterTenureProof.envelopeDigest (sha256 : Sha256) (p : WriterTenureProof) : Except DigestBuildError Digest32 :=
  digest32 sha256 writerTenureProofEnvelopeDigestDomain
    [p.authority.asBytes, p.authorityKey.asBytes, bytesBE 2 p.algorithm, bytesBE 2 p.algorithmVersion,
      p.sourceScope.asBytes, p.writer.asBytes, bytesBE 8 p.epoch, bytesBE 8 p.supersedesThroughEpoch, p.nonce,
      p.signature]

structure ReferenceApplyIngressIdentities where
  tenureNonceIdentity : Digest32
  requestNonceIdentity : Digest32
  temporalLineageDigest : Digest32

def tenureNonceIdentityDomain : Bytes :=
  Text.bytes (s := "paraegox.runtime.reference-apply.tenure-nonce-identity.sha256.v1") ⟨_, by conv => rhs; simp [ascii]⟩
def requestNonceIdentityDomain : Bytes :=
  Text.bytes (s := "paraegox.runtime.reference-apply.request-nonce-identity.sha256.v1") ⟨_, by conv => rhs; simp [ascii]⟩
def temporalLineageDomain : Bytes :=
  Text.bytes (s := "paraegox.runtime.reference-apply.temporal-lineage.sha256.v1") ⟨_, by conv => rhs; simp [ascii]⟩

/-- `reference_apply_ingress_identities_v1`. -/
def referenceApplyIngressIdentities (sha256 : Sha256) (r : ReferenceApplyRequest) :
    Except DigestBuildError ReferenceApplyIngressIdentities := do
  let tenure ← digest32 sha256 tenureNonceIdentityDomain
    [r.provenance.sourceScope.asBytes, r.proof.authority.asBytes, r.proof.authorityKey.asBytes,
      bytesBE 2 r.proof.algorithm, bytesBE 2 r.proof.algorithmVersion, r.proof.nonce]
  let requestNonce ← digest32 sha256 requestNonceIdentityDomain
    [r.provenance.sourceScope.asBytes, r.target.asBytes, r.authentication.principal.asBytes, r.proof.writer.asBytes,
      r.authentication.key.asBytes, bytesBE 2 r.authentication.algorithm, bytesBE 2 r.authentication.algorithmVersion,
      r.authentication.nonce]
  let temporalLineage ← digest32 sha256 temporalLineageDomain
    [r.provenance.sourceScope.asBytes, r.target.asBytes, r.temporal.constraintId.asBytes,
      r.temporal.targetClockDomain.asBytes, bytesBE 8 r.temporal.targetClockGeneration,
      bytesBE 8 r.temporal.originalBudget, bytesBE 8 r.temporal.remainingBudget]
  pure ⟨tenure, requestNonce, temporalLineage⟩

inductive ReferenceApplyTerminalHead
  | preservedNone
  | preservedExisting (digest : TargetSliceDigest)
  | committedIncoming
  deriving DecidableEq

inductive ReferenceApplyTerminalOutcome
  | oneSourceLoopActive
  | emptyDeactivateExactZero
  | startTimedOutBeforeIntentNoEffects
  | stopTimedOutBeforeHeadCommitNoEffects
  | startFailedBeforeHeadCommitExactZero
  | startTimedOutBeforeHeadCommitExactZero
  | stopFailedButExactZero
  | timedOutButExactZero
  | abortedBeforeIntentNoEffects
  | abortedBeforeHeadCommitExactZero
  | supersededAfterIntentExactZero
  | interruptedButNowExactZero
  deriving DecidableEq

inductive ReferenceApplyTerminalLifecycleEffect
  | provenNotStarted
  | mayHaveStarted
  deriving DecidableEq

structure ReferenceApplyTerminalFacts where
  outcome : ReferenceApplyTerminalOutcome
  lifecycleEffect : ReferenceApplyTerminalLifecycleEffect
  head : ReferenceApplyTerminalHead
  desiredHeadDigest : Option TargetSliceDigest
  resourceCensusDigest : Digest32
  rawOutcomeDigest : Digest32
  completionRuntimeHostEpoch : U64
  completionSnapshotSequence : U64
  selectionClockGeneration : U64
  selectionObservedAtNanos : U64
  deriving DecidableEq

/-- A decoded `ReferenceApplyTerminalReceiptV1`. -/
structure ReferenceApplyTerminalReceipt where
  canonicalWire : Bytes
  receiptDigest : Digest32
  runtimeStoreInstanceId : Id32
  sourceScope : Ref16
  operationId : Ref16
  requestDigest : Digest32
  target : Ref16
  requestNonce : Bytes
  facts : ReferenceApplyTerminalFacts
  authenticationRuntimePeer : Ref16
  authenticationChannelBindingDigest : Digest32
  deriving DecidableEq

/-- The hash, the two wire codecs the journal calls, and the manifest check of a request: the stored manifest bytes
verify against their digest and the request's execution commits to that manifest. -/
structure Contracts where
  sha256 : Sha256
  decodeRequest : Bytes → Option ReferenceApplyRequest
  decodeReceipt : Bytes → Option ReferenceApplyTerminalReceipt
  validateManifest : Bytes → Digest32 → ReferenceApplyRequest → Bool

def maxReferenceApplyTerminalReceiptBytes : Nat := 2048
def maxReferenceRuntimePlanSliceBytes : Nat := 10 + 525

end ParaEgox
