import ParaEgox.JournalLatch

/-!
# JournalEncode — the canonical payload and envelope of a snapshot

The byte encoding of `RuntimeJournalState` for the payload versions 3, 4 and 5, the envelope around it with its
checksum, and the owner-journal digests that are taken over encoded records.
-/
namespace ParaEgox
namespace Journal

open Check

def runtimeJournalLegacyPayloadVersion : Nat := 3
def runtimeJournalPayloadV4 : Nat := 4
def runtimeJournalPayloadVersion : Nat := 5
def headerWithoutChecksumBytes : Nat := 94
def headerBytes : Nat := headerWithoutChecksumBytes + 32

def JournalActionKind.code : JournalActionKind → Nat
  | startOneSourceLoop => 1
  | drainToEmpty => 2
  | restartReassembly => 3

def DesiredHeadKind.code : DesiredHeadKind → Nat
  | oneSourceLoop => 1
  | emptyDeactivate => 2

def StartupRecoveryEligibility.code : StartupRecoveryEligibility → Nat
  | noActiveHead => 1
  | canonicalEmptyExactZero => 2
  | eligibleOneSourceLoop => 3
  | recoveryFailureLatched => 4
  | reconcileRequired => 5

def RecoveryPhase.code : RecoveryPhase → Nat
  | recoveryPlannedNoEffects => 1
  | startCallIntent => 2
  | startupInvalidatedNoEffects => 3
  | startupReconcileRequired => 4

def TerminalLifecycleEffect.code : TerminalLifecycleEffect → Nat
  | provenNotStarted => 1
  | mayHaveStarted => 2

def RuntimeJournalTransaction.code : RuntimeJournalTransaction → Nat
  | initialized => 1
  | startupInvalidation => 2
  | tenureOnly => 3
  | fullAdmission => 4
  | preparedProgress => 5
  | resourceProgress => 6
  | normalStartTerminal => 7
  | emptyHeadRetire => 8
  | exactZeroTerminal => 9
  | recoveryPlan => 10
  | recoveryProgress => 11
  | recoveryPublish => 12
  | operationTerminalNoEffects => 13
  | quarantine => 14
  | recoveryAbortNoEffects => 15

/-! ## The encoder -/

def encU8 (n : Nat) : Bytes := bytesBE 1 n
def encU16 (n : Nat) : Bytes := bytesBE 2 n
def encU64 (n : U64) : Bytes := bytesBE 8 n
def encBool (b : Bool) : Bytes := encU8 b.toNat

def encOption {α : Type} (f : α → Bytes) : Option α → Bytes
  | none => encBool false
  | some a => encBool true ++ f a

/-- A `u16` count and the records. -/
def encList {α : Type} (f : α → Bytes) (xs : List α) : Bytes := encU16 xs.length ++ xs.flatMap f

def encOpaque (v : OpaqueCanonicalValue) : Bytes :=
  [bytesBE 4 v.canonicalBytes.length, v.canonicalBytes, v.digest.asBytes].flatten

def encodeAction (a : JournalActionRef) : Bytes :=
  [a.actionId.asBytes, encU8 a.kind.code, encU64 a.runtimeHostEpoch, encU64 a.clockGeneration,
    encU64 a.domainGeneration, encU64 a.instanceGeneration, encU64 a.resourceGeneration].flatten

def encodeStorePinnedBuildIdentity (i : StorePinnedBuildIdentity) : Bytes :=
  [i.buildInstanceId.asBytes, i.buildDescriptorDigest.asBytes, i.runtimeArtifactSha256.asBytes,
    i.compiledReferenceCompatibilityDigest.asBytes].flatten

def encodeSliceProvenance (p : DurableSliceProvenance) : Bytes :=
  [p.target.asBytes, p.sourceScope.asBytes, p.sourcePlan.asBytes, encU64 p.sourceRevision,
    p.sourcePlanDigest.asBytes, p.assignmentDigest.asBytes, p.targetSliceDigest.asBytes].flatten

def encodeDurableChannel (c : DurableReferenceChannelBinding) : Bytes :=
  [c.target.asBytes, c.runtimePeer.asBytes, c.localEndpointIdentityDigest.asBytes,
    c.peerCredentialsDigest.asBytes].flatten

def encodeRawOutcome (raw : RawActionOutcomeLatch) : Bytes :=
  [encU8 raw.callback.code, encOption Digest32.asBytes raw.callbackReasonDigest, encU8 raw.deadline.code,
    encU64 raw.observedClockGeneration, encU64 raw.observedAtNanos, encBool raw.hostInterrupted,
    encBool raw.higherTenureTakeover, encU8 raw.cleanup.code,
    encOption Digest32.asBytes raw.cleanupEvidenceDigest].flatten

def encodeTerminalSelection (s : TerminalOutcomeSelection) : Bytes :=
  [encU8 s.primary.code, encodeRawOutcome s.raw, encU64 s.selectionClockGeneration,
    encU64 s.selectionObservedAtNanos, encU8 s.lifecycleEffect.code].flatten

def encodeExpectedActive : ExpectedActiveCas → Bytes
  | .none => encU8 0
  | .exact digest => [encU8 1, digest.asBytes].flatten

def sinceV4 (payloadVersion : Nat) (bytes : Bytes) : Bytes :=
  if runtimeJournalPayloadV4 ≤ payloadVersion then bytes else []

def encodeRecoveryAction (payloadVersion : Nat) (r : RecoveryAction) : Bytes :=
  [encodeAction r.action, r.sourceScope.asBytes, encU64 r.sourceRevision, r.sourcePlanDigest.asBytes,
    sinceV4 payloadVersion (encodeSliceProvenance r.sliceProvenance), r.activeSliceDigest.asBytes,
    r.manifestDigest.asBytes, encodeStorePinnedBuildIdentity r.storePinnedBuildIdentity,
    r.compiledBuildInstanceId.asBytes, r.compiledCompatibilityDigest.asBytes, encU64 r.signedStartBudgetNanos,
    encU64 r.deadlineNanos, r.deadlineEvidenceDigest.asBytes, encU8 r.phase.code,
    encOption encodeRawOutcome r.rawOutcome].flatten

def encodeLiveMaterialization : LiveMaterialization → Bytes
  | .none => encU8 0
  | .startupInvalidated head epoch generation eligibility invalidation failure census =>
    [encU8 1, encOption Digest32.asBytes head, encU64 epoch, encU64 generation, encU8 eligibility.code,
      invalidation.asBytes, encOption Digest32.asBytes failure, census.asBytes].flatten
  | .recovering head actionId generation census =>
    [encU8 2, head.asBytes, actionId.asBytes, encU64 generation, census.asBytes].flatten
  | .liveReady head epoch generation census =>
    [encU8 3, head.asBytes, encU64 epoch, encU64 generation, census.asBytes].flatten
  | .recoveryFailedNotReady head actionId failure census =>
    [encU8 4, head.asBytes, actionId.asBytes, failure.asBytes, census.asBytes].flatten
  | .draining head operationId actionId generation census =>
    [encU8 5, head.asBytes, operationId.asBytes, actionId.asBytes, encU64 generation, census.asBytes].flatten
  | .exactZero head census => [encU8 6, head.asBytes, census.asBytes].flatten
  | .quarantined head reason census =>
    [encU8 7, encOption Digest32.asBytes head, reason.asBytes, census.asBytes].flatten

def encodeReplayRecord (r : ReplayLedgerRecord) : Bytes := [r.identity.asBytes, r.valueDigest.asBytes].flatten

def encodeTemporalRecord (r : TemporalLineageRecord) : Bytes :=
  [r.constraintId.asBytes, r.sourceScope.asBytes, r.targetFingerprint.asBytes, encU64 r.originalBudgetNanos,
    encU64 r.remainingBudgetNanos, encU64 r.clockGeneration, encU64 r.deadlineNanos,
    r.lineageDigest.asBytes].flatten

def encodeFence (f : WriterFenceRecord) : Bytes :=
  [f.sourceScope.asBytes, f.writer.asBytes, encU64 f.epoch, f.proofEnvelopeDigest.asBytes,
    f.tenureNonceIdentity.asBytes, f.principal.asBytes].flatten

def encodeRetiring (payloadVersion : Nat) (r : RetiringLiveFacts) : Bytes :=
  [encOpaque r.oldSlice, sinceV4 payloadVersion (encodeSliceProvenance r.oldSliceProvenance),
    r.oldSourcePlanDigest.asBytes, r.oldManifestDigest.asBytes, encU64 r.signedStartBudgetNanos,
    encU64 r.signedDrainBudgetNanos, encU64 r.signedCleanupBudgetNanos, encU64 r.oldRuntimeHostEpoch,
    encU64 r.oldClockGeneration, encU64 r.oldResourceGeneration, r.oldResourceCensusDigest.asBytes].flatten

def encodePrepared (payloadVersion : Nat) (p : PreparedOperation) : Bytes :=
  [p.sourceScope.asBytes, p.operationId.asBytes, encU64 p.sourceRevision, encOpaque p.request,
    sinceV4 payloadVersion (encodeSliceProvenance p.sliceProvenance), p.requestNonceIdentity.asBytes,
    p.sourcePlanDigest.asBytes, p.incomingSliceDigest.asBytes, encU8 p.incomingKind.code, p.manifestDigest.asBytes,
    encodeExpectedActive p.expectedActive, p.temporalConstraintId.asBytes, p.temporalLineageDigest.asBytes,
    encU64 p.installedClockGeneration, encU64 p.installedDeadlineNanos,
    (if payloadVersion = runtimeJournalPayloadVersion then encodeDurableChannel p.responseChannel else []),
    encU8 p.phase.code, encOption encodeAction p.action, encOption (encodeRetiring payloadVersion) p.retiring,
    encOption encodeRawOutcome p.rawOutcome].flatten

def encodeActive (payloadVersion : Nat) (a : ActiveDesiredHead) : Bytes :=
  [encU8 a.kind.code, a.sourceScope.asBytes, encU64 a.sourceRevision, encOpaque a.slice,
    sinceV4 payloadVersion (encodeSliceProvenance a.sliceProvenance), a.sourcePlanDigest.asBytes,
    a.manifestDigest.asBytes, a.operationId.asBytes, encOption Digest32.asBytes a.committingResultDigest].flatten

def encodeRecoveryTerminal (payloadVersion : Nat) (t : RecoveryTerminalRecord) : Bytes :=
  [encodeRecoveryAction payloadVersion t.recovery, encodeTerminalSelection t.selection,
    t.resourceCensusDigest.asBytes, encOption Digest32.asBytes t.failureLatchDigest,
    encU64 t.completionRuntimeHostEpoch, encU64 t.completionSnapshotSequence].flatten

def encodeResource (r : OwnedResourceRecord) : Bytes :=
  [encU8 r.kind.code, r.logicalRef.asBytes, encU64 r.generation, encU64 r.runtimeHostEpoch, encU8 r.phase.code,
    encOption Ref16.asBytes r.actionId, encOption encOpaque r.osIdentity, encOption encOpaque r.workspaceIdentity,
    encOption encOpaque r.containmentIdentity, encOption encOpaque r.tombstoneEvidence].flatten

def encodeHeadDisposition : TerminalHeadDisposition → Bytes
  | .preserved none => encU8 0
  | .preserved (some digest) => [encU8 1, digest.asBytes].flatten
  | .committedIncoming => encU8 2

def encodeTerminalOperation (payloadVersion : Nat) (t : TerminalOperationRecord) : Bytes :=
  [t.sourceScope.asBytes, t.operationId.asBytes, t.requestDigest.asBytes, t.requestNonceIdentity.asBytes,
    sinceV4 payloadVersion (encodeSliceProvenance t.sliceProvenance), encU64 t.sourceRevision,
    t.sourcePlanDigest.asBytes, t.targetSliceDigest.asBytes, t.temporalConstraintId.asBytes,
    t.temporalLineageDigest.asBytes, encU8 t.incomingKind.code, encU8 t.completionPredecessorPhase.code,
    encU64 t.installedClockGeneration, encU64 t.installedDeadlineNanos, encOption encodeAction t.action,
    encOption encodeRawOutcome t.predecessorRawOutcome, encodeTerminalSelection t.selection,
    encodeHeadDisposition t.headDisposition, t.resourceCensusDigest.asBytes, t.resultDigest.asBytes,
    encOpaque t.canonicalResponse, encU64 t.completionRuntimeHostEpoch, encU64 t.completionSnapshotSequence].flatten

def encodeHost (h : HostClockAdmissionState) : Bytes :=
  [encU64 h.runtimeHostEpochHighWater, h.clockDomain.asBytes, encU64 h.clockGenerationHighWater,
    encOpaque h.buildDescriptor, encOpaque h.singletonManifest,
    encodeStorePinnedBuildIdentity h.storePinnedBuildIdentity, h.compiledBuildInstanceId.asBytes,
    h.compiledCompatibilityDigest.asBytes, h.admissionPolicyFingerprint.asBytes, h.channelPolicyFingerprint.asBytes,
    h.controllerKeyFingerprint.asBytes, encList encodeReplayRecord h.tenureNonces,
    encList encodeReplayRecord h.requestNonces, encList encodeTemporalRecord h.temporalLineages].flatten

def payloadBytes (payloadVersion : Nat) (s : RuntimeJournalState) : Bytes :=
  [encU8 s.lastTransaction.code, encodeHost s.host, encOption encodeFence s.writerFence,
    encOption (fun h : SourceRevisionHighWater => h.sourceScope.asBytes ++ encU64 h.revision) s.sourceRevisionHighWater,
    encOption (encodePrepared payloadVersion) s.prepared, encOption (encodeActive payloadVersion) s.activeDesired,
    encodeLiveMaterialization s.liveMaterialization,
    encOption (encodeRecoveryAction payloadVersion) s.recoveryAction,
    encList (encodeRecoveryTerminal payloadVersion) s.recoveryTerminals, encList encodeResource s.ownedResources,
    encList (encodeTerminalOperation payloadVersion) s.terminalOperations].flatten

/-- Every opaque value the encoder writes with a `u32` length. -/
def RuntimeJournalState.opaqueValues (s : RuntimeJournalState) : List OpaqueCanonicalValue :=
  [s.host.buildDescriptor, s.host.singletonManifest]
    ++ s.prepared.toList.flatMap (fun p => p.request :: p.retiring.toList.map (·.oldSlice))
    ++ s.activeDesired.toList.map (·.slice)
    ++ s.ownedResources.flatMap (fun r => r.osIdentity.toList ++ r.workspaceIdentity.toList
      ++ r.containmentIdentity.toList ++ r.tombstoneEvidence.toList)
    ++ s.terminalOperations.map (·.canonicalResponse)

/-- Every list the encoder writes with a `u16` count. -/
def RuntimeJournalState.listLengths (s : RuntimeJournalState) : List Nat :=
  [s.host.tenureNonces.length, s.host.requestNonces.length, s.host.temporalLineages.length,
    s.recoveryTerminals.length, s.ownedResources.length, s.terminalOperations.length]

/-- `encode_payload_version`.  A count or length that does not fit its prefix is the encoder's only other failure, so
the order in which it meets them does not show. -/
def encodePayloadVersion (s : RuntimeJournalState) (payloadVersion : Nat) : Res Bytes := do
  rejectIf (payloadVersion ≠ runtimeJournalLegacyPayloadVersion ∧ payloadVersion ≠ runtimeJournalPayloadV4
    ∧ payloadVersion ≠ runtimeJournalPayloadVersion) .unsupportedPayloadVersion
  rejectIf (payloadVersion ≠ runtimeJournalPayloadVersion
    ∧ ∃ r ∈ s.ownedResources, r.phase = .reservedAtCrashExactZero) .invalidStateInvariant
  rejectIf ((∃ n ∈ s.listLengths, 2 ^ 16 ≤ n) ∨ ∃ v ∈ s.opaqueValues, 2 ^ 32 ≤ v.canonicalBytes.length)
    .integerOverflow
  let bytes := payloadBytes payloadVersion s
  rejectIf (maxRuntimeJournalSnapshotBytes - headerBytes < bytes.length) .snapshotTooLarge
  pure bytes

def encodePayload (s : RuntimeJournalState) : Res Bytes := encodePayloadVersion s runtimeJournalPayloadVersion

def runtimeJournalChecksumDomain : Bytes :=
  Text.bytes (s := "paraegox.runtime.owner-journal.snapshot.sha256.v1") ⟨_, by conv => rhs; simp [ascii]⟩

def runtimeJournalMagic : Bytes := Text.bytes (s := "PXJR") ⟨_, by conv => rhs; simp [ascii]⟩

def snapshotChecksum (sha256 : Sha256) (header payload : Bytes) : Res Digest32 :=
  journalDigest sha256 runtimeJournalChecksumDomain [header, payload]

/-- `encode_snapshot` at the current payload version. -/
def encodeSnapshot (sha256 : Sha256) (storeInstanceId : Id32) (ownerTargetFingerprint : Digest32) (sequence : U64)
    (payload : Bytes) : Res Bytes := do
  rejectIf (maxRuntimeJournalSnapshotBytes < headerBytes + payload.length) .snapshotTooLarge
  let header := [runtimeJournalMagic, encU16 1, encU16 3, encU16 runtimeJournalPayloadVersion, encU16 1, encU16 1,
    storeInstanceId.asBytes, ownerTargetFingerprint.asBytes, encU64 sequence, encU64 payload.length].flatten
  let checksum ← snapshotChecksum sha256 header payload
  pure (header ++ checksum.asBytes ++ payload)

theorem encodeSnapshot_total (sha256 : Sha256) (store : Id32) (owner : Digest32) (sequence : U64) {payload : Bytes}
    (h : headerBytes + payload.length ≤ maxRuntimeJournalSnapshotBytes) :
    ∃ wire, encodeSnapshot sha256 store owner sequence payload = .ok wire := by
  have hpayload : payload.length < 2 ^ 64 := by
    have : maxRuntimeJournalSnapshotBytes < 2 ^ 64 := by decide
    omega
  simp only [encodeSnapshot, snapshotChecksum, bind_ok, rejectIf_ok, exists_unit, pure_ok]
  refine ⟨_, not_lt.2 h, _, journalDigest_total sha256 (by decide) (by decide) (by simp) ?_, rfl⟩
  simp only [List.mem_cons, List.not_mem_nil, or_false, forall_eq_or_imp, forall_eq]
  refine ⟨?_, hpayload⟩
  simp only [List.flatten_cons, List.flatten_nil, List.length_append, encU16, encU64, Digest32.asBytes,
    bytesBE_length]
  decide

/-! ## Owner-journal digests -/

def runtimeResourceCensusDomain : Bytes :=
  Text.bytes (s := "paraegox.runtime.owner-journal.resource-census.sha256.v1") ⟨_, by conv => rhs; simp [ascii]⟩

def censusEvidenceFields : Option OpaqueCanonicalValue → List Bytes
  | none => [bytesBE 2 0]
  | some e => [bytesBE 2 1, e.canonicalBytes, e.digest.asBytes]

def censusResourceFields (r : OwnedResourceRecord) : List Bytes :=
  [bytesBE 2 r.kind.code, r.logicalRef.asBytes, bytesBE 8 r.generation, bytesBE 8 r.runtimeHostEpoch,
      bytesBE 2 r.phase.code]
    ++ (match r.actionId with
      | none => [bytesBE 2 0]
      | some actionId => [bytesBE 2 1, actionId.asBytes])
    ++ censusEvidenceFields r.osIdentity ++ censusEvidenceFields r.workspaceIdentity
    ++ censusEvidenceFields r.containmentIdentity ++ censusEvidenceFields r.tombstoneEvidence

def censusFields (resources : List OwnedResourceRecord) : List Bytes :=
  bytesBE 8 resources.length :: resources.flatMap censusResourceFields

def computeResourceCensusDigest (sha256 : Sha256) (resources : List OwnedResourceRecord) : Res Digest32 :=
  journalDigest sha256 runtimeResourceCensusDomain (censusFields resources)

def runtimeRawActionOutcomeDomain : Bytes :=
  Text.bytes (s := "paraegox.runtime.owner-journal.raw-action-outcome.sha256.v1") ⟨_, by conv => rhs; simp [ascii]⟩

def optionalDigestFields : Option Digest32 → List Bytes
  | none => [bytesBE 2 0]
  | some digest => [bytesBE 2 1, digest.asBytes]

def runtimeRawActionOutcomeDigest (sha256 : Sha256) (raw : RawActionOutcomeLatch) : Res Digest32 := do
  raw.validate
  journalDigest sha256 runtimeRawActionOutcomeDomain
    ([bytesBE 2 raw.callback.code] ++ optionalDigestFields raw.callbackReasonDigest
      ++ [bytesBE 2 raw.deadline.code, bytesBE 8 raw.observedClockGeneration, bytesBE 8 raw.observedAtNanos,
        bytesBE 2 raw.hostInterrupted.toNat, bytesBE 2 raw.higherTenureTakeover.toNat, bytesBE 2 raw.cleanup.code]
      ++ optionalDigestFields raw.cleanupEvidenceDigest)

def runtimeRecoveryFailureDomain : Bytes :=
  Text.bytes (s := "paraegox.runtime.owner-journal.recovery-failure.sha256.v1") ⟨_, by conv => rhs; simp [ascii]⟩

def recoveryFailureRecord (recovery : RecoveryAction) (selection : TerminalOutcomeSelection)
    (resourceCensusDigest : Digest32) : Bytes :=
  [encodeRecoveryAction runtimeJournalPayloadVersion recovery, encodeTerminalSelection selection,
    resourceCensusDigest.asBytes].flatten

def recoveryFailureEvidenceDigest (sha256 : Sha256) (recovery : RecoveryAction) (selection : TerminalOutcomeSelection)
    (resourceCensusDigest : Digest32) : Res Digest32 :=
  journalDigest sha256 runtimeRecoveryFailureDomain [recoveryFailureRecord recovery selection resourceCensusDigest]

def runtimeStartupInvalidationDomain : Bytes :=
  Text.bytes (s := "paraegox.runtime.owner-journal.startup-invalidation.sha256.v1") ⟨_, by conv => rhs; simp [ascii]⟩
def runtimeStartupReconcileDomain : Bytes :=
  Text.bytes (s := "paraegox.runtime.owner-journal.startup-reconcile.sha256.v1") ⟨_, by conv => rhs; simp [ascii]⟩

def startupInvalidationEvidenceDigest (sha256 : Sha256) (previous current : RuntimeJournalState) : Res Digest32 := do
  let payload ← encodePayload previous
  journalDigest sha256 runtimeStartupInvalidationDomain
    [encU64 previous.host.runtimeHostEpochHighWater, encU64 previous.host.clockGenerationHighWater,
      encU64 current.host.runtimeHostEpochHighWater, encU64 current.host.clockGenerationHighWater, payload]

def startupReconcileEvidenceDigest (sha256 : Sha256) (previous : RuntimeJournalState) : Res Digest32 := do
  let payload ← encodePayload previous
  journalDigest sha256 runtimeStartupReconcileDomain [payload]

end Journal
end ParaEgox
