import ParaEgox.Contracts

/-!
# ReferenceControl — what the Controller reads of the control contracts

The decoded PXAR, PXRT, PXQR, PXQS and bootstrap values.  Their strict codecs and the verification of an installed
manifest are parameters (`Codecs`).
-/
namespace ParaEgox
namespace Controller

open Check

/-! ## Errors -/

inductive ReferenceControlContractErrorCode
  | digest
  | invalidBuildInstanceId
  | invalidRuntimeStoreInstanceId
  | invalidArtifactLength
  | invalidArtifactDigest
  | invalidTargetTriple
  | invalidCompatibility
  | invalidLifecycleBudget
  | invalidProfile
  | invalidShape
  | domainMismatch
  | fixtureMismatch
  | configMismatch
  | targetMismatch
  | bindingNotAllowed
  | envelopeInvalid
  | requestFrameTooLarge
  | commitmentMismatch
  | invalidBound
  | invalidReason
  | invalidChannelEvidence
  | invalidAdmissionPolicy

inductive ReferenceControlWireErrorCode
  | frameTooLarge
  | truncated
  | invalidMagic
  | unsupportedVersion
  | unknownField
  | duplicateField
  | outOfOrderField
  | missingField
  | invalidFieldLength
  | invalidFieldValue
  | nonCanonicalFrame
  | digestMismatch
  | crossReferenceMismatch
  | unsupportedShape
  | bindingNotAllowed
  | runtimeStoreMismatch
  | targetMismatch
  | fixtureMismatch
  | responseBoundExceeded
  | unknownReason
  | trailingBytes
  | invalidSignatureField
  | invalidPresence
  | artifactMismatch
  | compatibilityMismatch

structure ReferenceControlWireError where
  code : ReferenceControlWireErrorCode
  detail : Option UInt16

inductive ReferenceControlError
  | contract (code : ReferenceControlContractErrorCode)
  | wire (error : ReferenceControlWireError)
  | provenance
  | apply
  | installation
  | digest

/-! ## The values -/

def leadingRef (d : Digest32) : Ref16 :=
  Ref16.fromBytes ⟨d.asBytes.take 16, by rw [List.length_take, d.asBytes_length]; rfl⟩

structure ApplyAuthAlgorithm where
  value : UInt16
  nonzero : value ≠ 0

structure ClockGeneration where
  value : UInt64
  nonzero : value ≠ 0

structure ReferenceExecution where
  mode : ReferenceAssemblyMode
  target : Ref16
  manifestDigest : Digest32

structure SourceProvenance where
  sourceScope : Ref16
  sourcePlan : Ref16
  sourceRevision : UInt64
  sourcePlanDigest : SourcePlanDigest

structure ReferenceApplyRequestV1 where
  canonicalWire : Bytes
  envelopeRequestDigest : Digest32
  expectedRuntimeStoreInstanceId : Id32
  target : Ref16
  provenance : SourceProvenance
  targetSliceDigest : TargetSliceDigest
  operationId : Ref16
  principal : Ref16
  nonce : Bytes
  targetClockGeneration : UInt64
  targetExecution : ReferenceExecution

inductive CanonicalApplyTerminalHead
  | preservedNone
  | preservedExisting (digest : TargetSliceDigest)
  | committedIncoming (digest : TargetSliceDigest)

structure ReferenceApplyTerminalFactsV1 where
  outcome : ReferenceApplyTerminalOutcome
  lifecycleEffect : ReferenceApplyTerminalLifecycleEffect
  head : CanonicalApplyTerminalHead
  completionRuntimeHostEpoch : UInt64
  completionSnapshotSequence : UInt64
  selectionClockGeneration : UInt64
  terminalResultRef : Ref16

structure RuntimeResponseAuthentication where
  runtimePeer : Ref16
  channelBindingDigest : Digest32
  key : Ref16
  algorithm : ApplyAuthAlgorithm
  algorithmVersion : UInt16
  signature : Bytes

structure ReferenceApplyTerminalReceiptV1 where
  canonicalWire : Bytes
  target : Ref16
  runtimeStoreInstanceId : Id32
  sourceScope : Ref16
  operationId : Ref16
  requestDigest : Digest32
  requestNonce : Bytes
  facts : ReferenceApplyTerminalFactsV1
  authentication : RuntimeResponseAuthentication

structure ReferenceBootstrapServingIdentityV1 where
  target : Ref16
  runtimeStoreInstanceId : Id32
  snapshotSequence : UInt64
  runtimeHostEpoch : UInt64
  clockDomain : Ref16
  clockGeneration : ClockGeneration
  store_ne : runtimeStoreInstanceId ≠ 0
  sequence_ne : snapshotSequence ≠ 0
  epoch_ne : runtimeHostEpoch ≠ 0

structure ReferenceBootstrapResponseV1 where
  canonicalWire : Bytes
  responseDigest : Digest32
  serving : ReferenceBootstrapServingIdentityV1
  manifestDigest : Digest32
  authentication : RuntimeResponseAuthentication

structure RequestAuthClaim where
  principal : Ref16
  key : Ref16
  algorithm : ApplyAuthAlgorithm
  algorithmVersion : UInt16
  nonce : Bytes

structure ReferenceQueryRequestV1 where
  canonicalWire : Bytes
  requestDigest : Digest32
  queryId : Ref16
  target : Ref16
  sourceScope : Ref16
  expectedRuntimeStoreInstanceId : Id32
  requestedOperationId : Ref16
  expectedRequestDigest : Option Digest32
  claim : RequestAuthClaim
  signature : Bytes
  maxResponseBytes : UInt32

inductive ReferenceQueryOwnerState
  | operational
  | applyDisabled
  | ownershipUncertain

inductive ReferenceQueryDurablePhase
  | preparedNoEffects
  | firstActionIntent
  | headCommittedRetiringOld
  | terminal

inductive ReferenceOperationalReason
  | recovering
  | activeCompatibilityMismatch
  | recoveryFailed
  | ownershipUncertain
  | historyUnavailable
  | resourceCensusUncertain
  | runtimeBusy
  | ownershipTransferRequired

inductive ReferenceQueryOperationLookup
  | known (requestDigest : Digest32) (durablePhase : ReferenceQueryDurablePhase) (terminalResult : Option Ref16)
  | conflict (existingRequestDigest : Digest32)
  | unknown
  | indeterminate (reason : ReferenceOperationalReason)

inductive ReferenceQueryDesiredHead
  | none
  | oneSourceLoop (sourceRevision : UInt64) (targetSliceDigest : TargetSliceDigest) (manifestDigest : Digest32)
  | emptyDeactivate (sourceRevision : UInt64) (targetSliceDigest : TargetSliceDigest) (manifestDigest : Digest32)

inductive ReferenceQueryLiveState
  | notReady
  | recovering
  | liveReady
  | draining
  | recoveryFailedNotReady
  | exactZero
  | validatedOperationalQuarantine
  | uncertain

/-- The facts of a PXQS response: who served it, the operation it found, the desired head and the live state. -/
structure ReferenceQueryFactsV1 where
  serving : ReferenceBootstrapServingIdentityV1
  ownerState : ReferenceQueryOwnerState
  lookup : ReferenceQueryOperationLookup
  desiredHead : ReferenceQueryDesiredHead
  sourceRevisionHighWater : UInt64
  liveState : ReferenceQueryLiveState

structure ReferenceQueryResponseV1 where
  canonicalWire : Bytes
  responseDigest : Digest32
  queryId : Ref16
  queryRequestDigest : Digest32
  clientNonce : Bytes
  facts : ReferenceQueryFactsV1
  authentication : RuntimeResponseAuthentication

structure VerifiedRuntimeManifestIngressV1 where
  manifestCanonicalWire : Bytes
  projectionCanonicalWire : Bytes
  manifestDigest : Digest32
  target : Ref16
  profileFingerprint : Digest32
  canonicalEmptyConfigDigest : Digest32
  fixtureDefinition : Ref16
  fixtureImplementation : Ref16
  fixtureExport : Ref16
  fixtureDefinitionDigest : Digest32
  fixtureArtifactDigest : Digest32

/-! ## Their codecs -/

/-- The hash, the strict decoders of the contract values, and the verification of manifest bytes against a digest. -/
structure Codecs where
  sha256 : Sha256
  decodeApplyRequest : Bytes → Except ReferenceControlError ReferenceApplyRequestV1
  decodeTerminalReceipt : Bytes → Except ReferenceControlError ReferenceApplyTerminalReceiptV1
  decodeBootstrapResponse : Bytes → Except ReferenceControlError ReferenceBootstrapResponseV1
  decodeQueryRequest : Bytes → Except ReferenceControlError ReferenceQueryRequestV1
  decodeQueryResponse : Bytes → Except ReferenceControlError ReferenceQueryResponseV1
  verifyManifest : Bytes → Digest32 → Option VerifiedRuntimeManifestIngressV1
  verifyProjection : Bytes → Digest32 → Option VerifiedRuntimeManifestIngressV1

end Controller
end ParaEgox
