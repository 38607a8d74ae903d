import ParaEgox.JournalDecode
import ParaEgox.JournalValid

/-!
# JournalCodec — the snapshot codec is exact

Every record the encoder writes is read back by its decoder, whatever bytes follow it, as soon as the record passed the
state validator and its counters are `u64` values.  From there the whole frame: an accepted snapshot decodes to itself,
and an accepted frame is the canonical frame of what it decodes to.
-/
namespace ParaEgox
namespace Journal

open Check Wire Cursor

/-! ## Primitive reads -/

theorem bytesBE_one (n : Nat) : bytesBE 1 n = [UInt8.ofNat n] := by
  rw [bytesBE_succ]
  rfl

variable {maximum n : Nat} {s : RuntimeJournalState} {manifest : Digest32} {c : Contracts} {sequence : U64}

theorem reads_u8 (h : n < 256) : Reads u8 (encU8 n) n := by
  have hread := reads_map (fun bytes : {bs : Bytes // bs.length = 1} =>
    (bytes.val.get ⟨0, by rw [bytes.property]; decide⟩).toNat)
    (reads_take_of_length (bytesBE_length 1 n) RuntimeJournalError.truncated)
  have hvalue : ((bytesBE 1 n).get ⟨0, by rw [bytesBE_length]; decide⟩).toNat = n := by
    simp only [bytesBE_one, List.get_eq_getElem, List.getElem_cons_zero, UInt8.toNat_ofNat']
    omega
  rw [hvalue] at hread
  exact hread

theorem reads_uint {width : Nat} (h : n < 256 ^ width) : Reads (uint width) (bytesBE width n) n := by
  have hread := reads_map (fun bytes : {bs : Bytes // bs.length = width} => fromBE bytes.val)
    (reads_take_of_length (bytesBE_length width n) RuntimeJournalError.truncated)
  rw [fromBE_bytesBE h] at hread
  exact hread

theorem reads_u64 {n : U64} (h : n ≤ u64Max) : Reads u64 (encU64 n) n :=
  reads_uint (lt_of_le_of_lt h (by decide))

theorem reads_ref16 (r : Ref16) : Reads ref16 r.asBytes r := by
  have hread := reads_map Ref16.fromBytes (reads_take_of_length r.asBytes_length RuntimeJournalError.truncated)
  rw [r.fromBytes_asBytes] at hread
  exact hread

theorem reads_digest (d : Digest32) : Reads digest d.asBytes d := by
  have hread := reads_map Digest32.fromBytes (reads_take_of_length d.asBytes_length RuntimeJournalError.truncated)
  rw [d.fromBytes_asBytes] at hread
  exact hread

theorem reads_enumeration {α : Type} {decode : Nat → Res α} {a : α} (hn : n < 256) (h : decode n = .ok a) :
    Reads (enumeration decode) (encU8 n) a :=
  reads_then (reads_u8 hn) h

theorem reads_boolean (b : Bool) : Reads boolean (encBool b) b :=
  reads_enumeration (by cases b <;> decide) (by cases b <;> rfl)

theorem reads_optional {α : Type} {value : Cursor α} {enc : α → Bytes} {x : Option α}
    (h : ∀ a, x = some a → Reads value (enc a) a) : Reads (optional value) (encOption enc x) x := by
  cases x with
  | none => exact reads_whole (reads_boolean false) (reads_pure none)
  | some a => exact reads_bind (reads_boolean true) (reads_map some (h a rfl))

theorem reads_count (hn : n ≤ maximum) (hmax : maximum < 2 ^ 16) : Reads (count maximum) (encU16 n) n :=
  reads_whole (reads_uint (show n < 256 ^ 2 by omega)) (reads_check (rejectIf_neg (by omega)) (reads_pure n))

theorem reads_records {α : Type} {record : Cursor α} {enc : α → Bytes} {xs : List α}
    (hlen : xs.length ≤ maximum) (hmax : maximum < 2 ^ 16) (h : ∀ x ∈ xs, Reads record (enc x) x) :
    Reads (records maximum record) (encList enc xs) xs :=
  reads_bind (reads_count hlen hmax) (reads_times h)

theorem reads_opaqueValue {v : OpaqueCanonicalValue} (h : v.validateBound maximum = .ok ())
    (hmax : maximum < 2 ^ 32) : Reads (opaqueValue maximum) (encOpaque v) v := by
  have hbound := h
  simp only [OpaqueCanonicalValue.validateBound, bind_ok, rejectIf_ok, exists_unit, not_lt] at hbound
  obtain ⟨hne, hle, _⟩ := hbound
  have hlen : v.canonicalBytes.length ≠ 0 := by simpa using hne
  have hnew : OpaqueCanonicalValue.tryNew v.canonicalBytes v.digest maximum = .ok v := by
    simp only [OpaqueCanonicalValue.tryNew, bind_ok, exists_unit, pure_ok]
    exact ⟨h, trivial⟩
  exact reads_field (reads_uint (show v.canonicalBytes.length < 256 ^ 4 by omega)) (reads_check (rejectIf_neg hlen)
    (reads_check (rejectIf_neg (by omega)) (reads_field (reads_take v.canonicalBytes _)
      (reads_last (reads_then (reads_digest v.digest) hnew)))))

theorem JournalActionKind.reads (k : JournalActionKind) : Reads (enumeration decode) (encU8 k.code) k :=
  reads_enumeration (by cases k <;> decide) (by cases k <;> rfl)

theorem CallbackOutcome.reads (k : CallbackOutcome) : Reads (enumeration decode) (encU8 k.code) k :=
  reads_enumeration (by cases k <;> decide) (by cases k <;> rfl)

theorem DeadlineOutcome.reads (k : DeadlineOutcome) : Reads (enumeration decode) (encU8 k.code) k :=
  reads_enumeration (by cases k <;> decide) (by cases k <;> rfl)

theorem CleanupOutcome.reads (k : CleanupOutcome) : Reads (enumeration decode) (encU8 k.code) k :=
  reads_enumeration (by cases k <;> decide) (by cases k <;> rfl)

theorem PreparedPhase.reads (k : PreparedPhase) : Reads (enumeration decode) (encU8 k.code) k :=
  reads_enumeration (by cases k <;> decide) (by cases k <;> rfl)

theorem DesiredHeadKind.reads (k : DesiredHeadKind) : Reads (enumeration decode) (encU8 k.code) k :=
  reads_enumeration (by cases k <;> decide) (by cases k <;> rfl)

theorem StartupRecoveryEligibility.reads (k : StartupRecoveryEligibility) :
    Reads (enumeration decode) (encU8 k.code) k :=
  reads_enumeration (by cases k <;> decide) (by cases k <;> rfl)

theorem RecoveryPhase.reads (k : RecoveryPhase) : Reads (enumeration decode) (encU8 k.code) k :=
  reads_enumeration (by cases k <;> decide) (by cases k <;> rfl)

theorem ResourceKind.reads (k : ResourceKind) : Reads (enumeration decode) (encU8 k.code) k :=
  reads_enumeration (by cases k <;> decide) (by cases k <;> rfl)

variable {payloadVersion : Nat} {sha256 : Sha256}

theorem ResourcePhase.reads (k : ResourcePhase)
    (h : k = .reservedAtCrashExactZero → payloadVersion = runtimeJournalPayloadVersion) :
    Reads (enumeration (decodeForPayloadVersion payloadVersion)) (encU8 k.code) k := by
  have hdecode : ResourcePhase.decode k.code = .ok k := by cases k <;> rfl
  refine reads_enumeration (by cases k <;> decide) ?_
  simp only [decodeForPayloadVersion, bind_ok, rejectIf_ok, exists_unit, pure_ok]
  exact ⟨k, hdecode, fun hbad => hbad.2 (h hbad.1), rfl⟩

theorem TerminalOutcome.reads (k : TerminalOutcome) : Reads (enumeration decode) (encU8 k.code) k :=
  reads_enumeration (by cases k <;> decide) (by cases k <;> rfl)

theorem TerminalLifecycleEffect.reads (k : TerminalLifecycleEffect) : Reads (enumeration decode) (encU8 k.code) k :=
  reads_enumeration (by cases k <;> decide) (by cases k <;> rfl)

theorem RuntimeJournalTransaction.reads (k : RuntimeJournalTransaction) : Reads (enumeration decode) (encU8 k.code) k :=
  reads_enumeration (by cases k <;> decide) (by cases k <;> rfl)

/-! ## The counters of a state

The model's counters are natural numbers; the source's are `u64`, so every state it can hold has all of them in range. -/

/-- Every counter is a `u64`. -/
def Fits (words : List U64) : Prop := ∀ n ∈ words, n ≤ u64Max

@[simp] theorem fits_nil : Fits [] := by simp [Fits]

@[simp] theorem fits_cons (n : U64) (words : List U64) : Fits (n :: words) ↔ n ≤ u64Max ∧ Fits words := by simp [Fits]

@[simp] theorem fits_append (xs ys : List U64) : Fits (xs ++ ys) ↔ Fits xs ∧ Fits ys := by
  simp [Fits, or_imp, forall_and]

@[simp] theorem fits_flatMap {α : Type} (xs : List α) (f : α → List U64) :
    Fits (xs.flatMap f) ↔ ∀ x ∈ xs, Fits (f x) := by
  simp only [Fits, List.mem_flatMap]
  exact ⟨fun h x hx n hn => h n ⟨x, hx, hn⟩, fun h n ⟨x, hx, hn⟩ => h x hx n hn⟩

def JournalActionRef.words (a : JournalActionRef) : List U64 :=
  [a.runtimeHostEpoch, a.clockGeneration, a.domainGeneration, a.instanceGeneration, a.resourceGeneration]

def DurableSliceProvenance.words (p : DurableSliceProvenance) : List U64 := [p.sourceRevision]

def RawActionOutcomeLatch.words (raw : RawActionOutcomeLatch) : List U64 :=
  [raw.observedClockGeneration, raw.observedAtNanos]

def TerminalOutcomeSelection.words (s : TerminalOutcomeSelection) : List U64 :=
  s.raw.words ++ [s.selectionClockGeneration, s.selectionObservedAtNanos]

def RecoveryAction.words (r : RecoveryAction) : List U64 :=
  r.action.words ++ [r.sourceRevision] ++ r.sliceProvenance.words ++ [r.signedStartBudgetNanos, r.deadlineNanos]
    ++ r.rawOutcome.toList.flatMap (·.words)

def LiveMaterialization.words : LiveMaterialization → List U64
  | .startupInvalidated _ epoch generation _ _ _ _ => [epoch, generation]
  | .recovering _ _ generation _ => [generation]
  | .liveReady _ epoch generation _ => [epoch, generation]
  | .draining _ _ _ generation _ => [generation]
  | .none | .recoveryFailedNotReady _ _ _ _ | .exactZero _ _ | .quarantined _ _ _ => []

def TemporalLineageRecord.words (r : TemporalLineageRecord) : List U64 :=
  [r.originalBudgetNanos, r.remainingBudgetNanos, r.clockGeneration, r.deadlineNanos]

def HostClockAdmissionState.words (h : HostClockAdmissionState) : List U64 :=
  [h.runtimeHostEpochHighWater, h.clockGenerationHighWater] ++ h.temporalLineages.flatMap (·.words)

def RetiringLiveFacts.words (r : RetiringLiveFacts) : List U64 :=
  r.oldSliceProvenance.words ++ [r.signedStartBudgetNanos, r.signedDrainBudgetNanos, r.signedCleanupBudgetNanos,
    r.oldRuntimeHostEpoch, r.oldClockGeneration, r.oldResourceGeneration]

def PreparedOperation.words (p : PreparedOperation) : List U64 :=
  [p.sourceRevision] ++ p.sliceProvenance.words ++ [p.installedClockGeneration, p.installedDeadlineNanos]
    ++ p.action.toList.flatMap (·.words) ++ p.retiring.toList.flatMap (·.words) ++ p.rawOutcome.toList.flatMap (·.words)

def ActiveDesiredHead.words (a : ActiveDesiredHead) : List U64 := a.sourceRevision :: a.sliceProvenance.words

def RecoveryTerminalRecord.words (t : RecoveryTerminalRecord) : List U64 :=
  t.recovery.words ++ t.selection.words ++ [t.completionRuntimeHostEpoch, t.completionSnapshotSequence]

def OwnedResourceRecord.words (r : OwnedResourceRecord) : List U64 := [r.generation, r.runtimeHostEpoch]

def TerminalOperationRecord.words (t : TerminalOperationRecord) : List U64 :=
  t.sliceProvenance.words ++ [t.sourceRevision, t.installedClockGeneration, t.installedDeadlineNanos]
    ++ t.action.toList.flatMap (·.words) ++ t.predecessorRawOutcome.toList.flatMap (·.words) ++ t.selection.words
    ++ [t.completionRuntimeHostEpoch, t.completionSnapshotSequence]

def RuntimeJournalState.words (s : RuntimeJournalState) : List U64 :=
  s.host.words ++ s.writerFence.toList.map (·.epoch) ++ s.sourceRevisionHighWater.toList.map (·.revision)
    ++ s.prepared.toList.flatMap (·.words) ++ s.activeDesired.toList.flatMap (·.words) ++ s.liveMaterialization.words
    ++ s.recoveryAction.toList.flatMap (·.words) ++ s.recoveryTerminals.flatMap (·.words)
    ++ s.ownedResources.flatMap (·.words) ++ s.terminalOperations.flatMap (·.words)

/-! ## Records read back -/

theorem reads_action {a : JournalActionRef} (h : Fits a.words) : Reads decodeAction (encodeAction a) a := by
  simp only [JournalActionRef.words, fits_cons, fits_nil, and_true] at h
  obtain ⟨hepoch, hclock, hdomain, hinstance, hresource⟩ := h
  exact reads_field (reads_ref16 _) <| reads_field (JournalActionKind.reads _) <| reads_field (reads_u64 hepoch) <|
    reads_field (reads_u64 hclock) <| reads_field (reads_u64 hdomain) <| reads_field (reads_u64 hinstance) <|
    reads_field (reads_u64 hresource) <| reads_done a

theorem reads_storePinnedBuildIdentity {i : StorePinnedBuildIdentity} (h : i.validate = .ok ()) :
    Reads decodeStorePinnedBuildIdentity (encodeStorePinnedBuildIdentity i) i := by
  have hnew : StorePinnedBuildIdentity.tryNew i.buildInstanceId i.buildDescriptorDigest i.runtimeArtifactSha256
      i.compiledReferenceCompatibilityDigest = .ok i := by
    simp only [StorePinnedBuildIdentity.tryNew, bind_ok, exists_unit, pure_ok]
    exact ⟨h, trivial⟩
  exact reads_field (reads_digest _) <| reads_field (reads_digest _) <| reads_field (reads_digest _) <|
    reads_last (reads_then (reads_digest _) hnew)

theorem reads_sliceProvenance {p : DurableSliceProvenance} (hvalid : p.validate sha256 = .ok ())
    (h : Fits p.words) : Reads (decodeSliceProvenance sha256) (encodeSliceProvenance p) p := by
  simp only [DurableSliceProvenance.words, fits_cons, fits_nil, and_true] at h
  exact reads_field (reads_ref16 _) <| reads_field (reads_ref16 _) <| reads_field (reads_ref16 _) <|
    reads_field (reads_u64 h) <| reads_field (reads_digest _) <| reads_field (reads_digest _) <|
    reads_field (reads_digest _) <| reads_check hvalid <| reads_done p

theorem reads_rawOutcome {raw : RawActionOutcomeLatch} (h : Fits raw.words) :
    Reads decodeRawOutcome (encodeRawOutcome raw) raw := by
  simp only [RawActionOutcomeLatch.words, fits_cons, fits_nil, and_true] at h
  exact reads_field (CallbackOutcome.reads _) <| reads_field (reads_optional fun d _ => reads_digest d) <|
    reads_field (DeadlineOutcome.reads _) <| reads_field (reads_u64 h.1) <| reads_field (reads_u64 h.2) <|
    reads_field (reads_boolean _) <| reads_field (reads_boolean _) <| reads_field (CleanupOutcome.reads _) <|
    reads_field (reads_optional fun d _ => reads_digest d) <| reads_done raw

theorem reads_terminalSelection {s : TerminalOutcomeSelection} (h : Fits s.words) :
    Reads decodeTerminalSelection (encodeTerminalSelection s) s := by
  simp only [TerminalOutcomeSelection.words, fits_append, fits_cons, fits_nil, and_true] at h
  obtain ⟨hraw, hclock, hat⟩ := h
  exact reads_field (TerminalOutcome.reads _) <| reads_field (reads_rawOutcome hraw) <|
    reads_field (reads_u64 hclock) <| reads_field (reads_u64 hat) <| reads_field (TerminalLifecycleEffect.reads _) <|
    reads_done s

theorem reads_expectedActive (e : ExpectedActiveCas) : Reads decodeExpectedActive (encodeExpectedActive e) e := by
  cases e with
  | none => exact reads_whole (reads_u8 (n := 0) (by decide)) (reads_pure _)
  | exact d =>
    exact reads_field (reads_u8 (n := 1) (by decide)) (reads_last (reads_map ExpectedActiveCas.exact (reads_digest d)))

theorem reads_headDisposition (e : TerminalHeadDisposition) :
    Reads decodeHeadDisposition (encodeHeadDisposition e) e := by
  cases e with
  | committedIncoming => exact reads_whole (reads_u8 (n := 2) (by decide)) (reads_pure _)
  | preserved head =>
    cases head with
    | none => exact reads_whole (reads_u8 (n := 0) (by decide)) (reads_pure _)
    | some d =>
      exact reads_field (reads_u8 (n := 1) (by decide))
        (reads_last (reads_map (fun d => TerminalHeadDisposition.preserved (some d)) (reads_digest d)))

theorem reads_live {live : LiveMaterialization} (h : Fits live.words) :
    Reads decodeLiveMaterialization (encodeLiveMaterialization live) live := by
  cases live with
  | none => exact reads_whole (reads_u8 (n := 0) (by decide)) (reads_pure _)
  | startupInvalidated head epoch generation eligibility invalidation failure census =>
    simp only [LiveMaterialization.words, fits_cons, fits_nil, and_true] at h
    exact reads_field (reads_u8 (n := 1) (by decide)) <| reads_field (reads_optional fun d _ => reads_digest d) <|
      reads_field (reads_u64 h.1) <| reads_field (reads_u64 h.2) <|
      reads_field (StartupRecoveryEligibility.reads _) <| reads_field (reads_digest _) <|
      reads_field (reads_optional fun d _ => reads_digest d) <| reads_field (reads_digest _) <| reads_done _
  | recovering head actionId generation census =>
    simp only [LiveMaterialization.words, fits_cons, fits_nil, and_true] at h
    exact reads_field (reads_u8 (n := 2) (by decide)) <| reads_field (reads_digest _) <| reads_field (reads_ref16 _) <|
      reads_field (reads_u64 h) <| reads_field (reads_digest _) <| reads_done _
  | liveReady head epoch generation census =>
    simp only [LiveMaterialization.words, fits_cons, fits_nil, and_true] at h
    exact reads_field (reads_u8 (n := 3) (by decide)) <| reads_field (reads_digest _) <| reads_field (reads_u64 h.1) <|
      reads_field (reads_u64 h.2) <| reads_field (reads_digest _) <| reads_done _
  | recoveryFailedNotReady head actionId failure census =>
    exact reads_field (reads_u8 (n := 4) (by decide)) <| reads_field (reads_digest _) <| reads_field (reads_ref16 _) <|
      reads_field (reads_digest _) <| reads_field (reads_digest _) <| reads_done _
  | draining head operationId actionId generation census =>
    simp only [LiveMaterialization.words, fits_cons, fits_nil, and_true] at h
    exact reads_field (reads_u8 (n := 5) (by decide)) <| reads_field (reads_digest _) <| reads_field (reads_ref16 _) <|
      reads_field (reads_ref16 _) <| reads_field (reads_u64 h) <| reads_field (reads_digest _) <| reads_done _
  | exactZero head census =>
    exact reads_field (reads_u8 (n := 6) (by decide)) <| reads_field (reads_digest _) <|
      reads_field (reads_digest _) <| reads_done _
  | quarantined head reason census =>
    exact reads_field (reads_u8 (n := 7) (by decide)) <| reads_field (reads_optional fun d _ => reads_digest d) <|
      reads_field (reads_digest _) <| reads_field (reads_digest _) <| reads_done _

theorem reads_replayRecord (r : ReplayLedgerRecord) : Reads decodeReplayRecord (encodeReplayRecord r) r :=
  reads_field (reads_digest _) <| reads_field (reads_digest _) <| reads_done r

theorem reads_temporalRecord {r : TemporalLineageRecord} (h : Fits r.words) :
    Reads decodeTemporalRecord (encodeTemporalRecord r) r := by
  simp only [TemporalLineageRecord.words, fits_cons, fits_nil, and_true] at h
  obtain ⟨horiginal, hremaining, hclock, hdeadline⟩ := h
  exact reads_field (reads_ref16 _) <| reads_field (reads_ref16 _) <| reads_field (reads_digest _) <|
    reads_field (reads_u64 horiginal) <| reads_field (reads_u64 hremaining) <| reads_field (reads_u64 hclock) <|
    reads_field (reads_u64 hdeadline) <| reads_field (reads_digest _) <| reads_done r

theorem reads_fence {f : WriterFenceRecord} (h : f.epoch ≤ u64Max) : Reads decodeFence (encodeFence f) f :=
  reads_field (reads_ref16 _) <| reads_field (reads_ref16 _) <| reads_field (reads_u64 h) <|
    reads_field (reads_digest _) <| reads_field (reads_digest _) <| reads_field (reads_ref16 _) <| reads_done f

theorem reads_highWater {w : SourceRevisionHighWater} (h : w.revision ≤ u64Max) :
    Reads decodeHighWater (w.sourceScope.asBytes ++ encU64 w.revision) w :=
  reads_bind (reads_ref16 _) (reads_map (SourceRevisionHighWater.mk w.sourceScope) (reads_u64 h))

/-! ## Records that a decoder checks

Each `Coded` is what the decoder of a record asks of it beyond its bytes; the state validator asks it too. -/

structure RecoveryAction.Coded (sha256 : Sha256) (r : RecoveryAction) : Prop where
  provenance : r.sliceProvenance.validate sha256 = .ok ()
  identity : r.storePinnedBuildIdentity.validate = .ok ()

structure RetiringLiveFacts.Coded (sha256 : Sha256) (r : RetiringLiveFacts) : Prop where
  slice : r.oldSlice.validateBound maxReferenceRuntimePlanSliceBytes = .ok ()
  provenance : r.oldSliceProvenance.validate sha256 = .ok ()

structure PreparedOperation.Coded (sha256 : Sha256) (payloadVersion : Nat) (p : PreparedOperation) : Prop where
  request : p.request.validateBound maxOpaqueRequestOrSliceBytes = .ok ()
  provenance : p.sliceProvenance.validate sha256 = .ok ()
  repeats : checkPreparedProvenance payloadVersion p.sliceProvenance p.sourceScope p.sourceRevision p.sourcePlanDigest
    p.incomingSliceDigest = .ok ()
  channel : payloadVersion ≠ runtimeJournalPayloadVersion → p.responseChannel = zeroChannel
  retiring : ∀ r, p.retiring = some r → r.Coded sha256

structure ActiveDesiredHead.Coded (sha256 : Sha256) (a : ActiveDesiredHead) : Prop where
  slice : a.slice.validateBound maxReferenceRuntimePlanSliceBytes = .ok ()
  provenance : a.sliceProvenance.validate sha256 = .ok ()

structure OwnedResourceRecord.Coded (payloadVersion : Nat) (r : OwnedResourceRecord) : Prop where
  phase : r.phase = .reservedAtCrashExactZero → payloadVersion = runtimeJournalPayloadVersion
  evidence : ∀ e ∈ r.osIdentity.toList ++ r.workspaceIdentity.toList ++ r.containmentIdentity.toList
    ++ r.tombstoneEvidence.toList, e.validateBound maxRuntimeResourceEvidenceBytes = .ok ()

structure TerminalOperationRecord.Coded (sha256 : Sha256) (t : TerminalOperationRecord) : Prop where
  provenance : t.sliceProvenance.validate sha256 = .ok ()
  response : t.canonicalResponse.validateBound maxReferenceApplyTerminalReceiptBytes = .ok ()

structure HostClockAdmissionState.Coded (h : HostClockAdmissionState) : Prop where
  buildDescriptor : h.buildDescriptor.validateBound maxPinnedOpaqueArtifactBytes = .ok ()
  singletonManifest : h.singletonManifest.validateBound maxPinnedOpaqueArtifactBytes = .ok ()
  identity : h.storePinnedBuildIdentity.validate = .ok ()
  tenureNonces : h.tenureNonces.length ≤ maxRuntimeTenureNonces
  requestNonces : h.requestNonces.length ≤ maxRuntimeRequestNonces
  temporalLineages : h.temporalLineages.length ≤ maxRuntimeTemporalLineages

structure RuntimeJournalState.Coded (sha256 : Sha256) (payloadVersion : Nat) (s : RuntimeJournalState) : Prop where
  host : s.host.Coded
  prepared : ∀ p, s.prepared = some p → p.Coded sha256 payloadVersion
  active : ∀ a, s.activeDesired = some a → a.Coded sha256
  recovery : ∀ r, s.recoveryAction = some r → r.Coded sha256
  recoveryCount : s.recoveryTerminals.length ≤ maxRuntimeRecoveryTerminals
  recoveryTerminals : ∀ t ∈ s.recoveryTerminals, t.recovery.Coded sha256
  resourceCount : s.ownedResources.length ≤ maxRuntimeOwnedResources
  resources : ∀ r ∈ s.ownedResources, r.Coded payloadVersion
  terminalCount : s.terminalOperations.length ≤ maxRuntimeTerminalOperations
  terminals : ∀ t ∈ s.terminalOperations, t.Coded sha256

section Versions

variable {sha256 : Sha256} {payloadVersion : Nat} (hv : runtimeJournalPayloadV4 ≤ payloadVersion)
include hv

theorem sinceV4_eq (bytes : Bytes) : sinceV4 payloadVersion bytes = bytes := if_pos hv

theorem rejectLegacy_ok : rejectLegacy payloadVersion = .ok () := by
  refine rejectIf_neg ?_
  unfold runtimeJournalLegacyPayloadVersion
  unfold runtimeJournalPayloadV4 at hv
  omega

theorem reads_recoveryAction {r : RecoveryAction} (hr : r.Coded sha256) (h : Fits r.words) :
    Reads (decodeRecoveryAction sha256) (encodeRecoveryAction payloadVersion r) r := by
  simp only [RecoveryAction.words, fits_append, fits_cons, fits_nil, and_true, fits_flatMap, Option.mem_toList] at h
  obtain ⟨⟨⟨⟨haction, hrevision⟩, hprovenance⟩, hstart, hdeadline⟩, hraw⟩ := h
  rw [encodeRecoveryAction, sinceV4_eq hv]
  exact reads_field (reads_action haction) <| reads_field (reads_ref16 _) <| reads_field (reads_u64 hrevision) <|
    reads_field (reads_digest _) <| reads_field (reads_sliceProvenance hr.provenance hprovenance) <|
    reads_field (reads_digest _) <| reads_field (reads_digest _) <|
    reads_field (reads_storePinnedBuildIdentity hr.identity) <| reads_field (reads_digest _) <|
    reads_field (reads_digest _) <| reads_field (reads_u64 hstart) <| reads_field (reads_u64 hdeadline) <|
    reads_field (reads_digest _) <| reads_field (RecoveryPhase.reads _) <|
    reads_field (reads_optional fun raw h => reads_rawOutcome (hraw raw h)) <| reads_done r

theorem reads_retiring {r : RetiringLiveFacts} (hr : r.Coded sha256) (h : Fits r.words) :
    Reads (decodeRetiring sha256 payloadVersion) (encodeRetiring payloadVersion r) r := by
  simp only [RetiringLiveFacts.words, fits_append, fits_cons, fits_nil, and_true] at h
  obtain ⟨hprovenance, hstart, hdrain, hcleanup, hepoch, hclock, hresource⟩ := h
  rw [encodeRetiring, sinceV4_eq hv]
  exact reads_check (rejectLegacy_ok hv) <| reads_field (reads_opaqueValue hr.slice (by decide)) <|
    reads_field (reads_sliceProvenance hr.provenance hprovenance) <| reads_field (reads_digest _) <|
    reads_field (reads_digest _) <| reads_field (reads_u64 hstart) <| reads_field (reads_u64 hdrain) <|
    reads_field (reads_u64 hcleanup) <| reads_field (reads_u64 hepoch) <| reads_field (reads_u64 hclock) <|
    reads_field (reads_u64 hresource) <| reads_field (reads_digest _) <| reads_done r

theorem reads_active {a : ActiveDesiredHead} (ha : a.Coded sha256) (h : Fits a.words) :
    Reads (decodeActive sha256 payloadVersion) (encodeActive payloadVersion a) a := by
  simp only [ActiveDesiredHead.words, fits_cons] at h
  rw [encodeActive, sinceV4_eq hv]
  exact reads_check (rejectLegacy_ok hv) <| reads_field (DesiredHeadKind.reads _) <| reads_field (reads_ref16 _) <|
    reads_field (reads_u64 h.1) <| reads_field (reads_opaqueValue ha.slice (by decide)) <|
    reads_field (reads_sliceProvenance ha.provenance h.2) <| reads_field (reads_digest _) <|
    reads_field (reads_digest _) <| reads_field (reads_ref16 _) <|
    reads_field (reads_optional fun d _ => reads_digest d) <| reads_done a

theorem reads_recoveryTerminal {t : RecoveryTerminalRecord} (ht : t.recovery.Coded sha256) (h : Fits t.words) :
    Reads (decodeRecoveryTerminal sha256) (encodeRecoveryTerminal payloadVersion t) t := by
  simp only [RecoveryTerminalRecord.words, fits_append, fits_cons, fits_nil, and_true] at h
  obtain ⟨⟨hrecovery, hselection⟩, hepoch, hsequence⟩ := h
  exact reads_field (reads_recoveryAction hv ht hrecovery) <| reads_field (reads_terminalSelection hselection) <|
    reads_field (reads_digest _) <| reads_field (reads_optional fun d _ => reads_digest d) <|
    reads_field (reads_u64 hepoch) <| reads_field (reads_u64 hsequence) <| reads_done t

theorem reads_terminalOperation {t : TerminalOperationRecord} (ht : t.Coded sha256) (h : Fits t.words) :
    Reads (decodeTerminalOperation sha256) (encodeTerminalOperation payloadVersion t) t := by
  simp only [TerminalOperationRecord.words, fits_append, fits_cons, fits_nil, and_true, fits_flatMap,
    Option.mem_toList] at h
  obtain ⟨⟨⟨⟨⟨hprovenance, hrevision, hclock, hdeadline⟩, haction⟩, hraw⟩, hselection⟩, hepoch, hsequence⟩ := h
  rw [encodeTerminalOperation, sinceV4_eq hv]
  exact reads_field (reads_ref16 _) <| reads_field (reads_ref16 _) <| reads_field (reads_digest _) <|
    reads_field (reads_digest _) <| reads_field (reads_sliceProvenance ht.provenance hprovenance) <|
    reads_field (reads_u64 hrevision) <| reads_field (reads_digest _) <| reads_field (reads_digest _) <|
    reads_field (reads_ref16 _) <| reads_field (reads_digest _) <| reads_field (DesiredHeadKind.reads _) <|
    reads_field (PreparedPhase.reads _) <| reads_field (reads_u64 hclock) <| reads_field (reads_u64 hdeadline) <|
    reads_field (reads_optional fun a h => reads_action (haction a h)) <|
    reads_field (reads_optional fun raw h => reads_rawOutcome (hraw raw h)) <|
    reads_field (reads_terminalSelection hselection) <| reads_field (reads_headDisposition _) <|
    reads_field (reads_digest _) <| reads_field (reads_digest _) <|
    reads_field (reads_opaqueValue ht.response (by decide)) <| reads_field (reads_u64 hepoch) <|
    reads_field (reads_u64 hsequence) <| reads_done t

omit hv in
theorem reads_responseChannel {channel : DurableReferenceChannelBinding}
    (h : payloadVersion ≠ runtimeJournalPayloadVersion → channel = zeroChannel) :
    Reads (decodeResponseChannel payloadVersion)
      (if payloadVersion = runtimeJournalPayloadVersion then encodeDurableChannel channel else []) channel := by
  unfold decodeResponseChannel
  by_cases hcurrent : payloadVersion = runtimeJournalPayloadVersion
  · rw [if_pos hcurrent, if_pos hcurrent]
    exact reads_field (reads_ref16 _) <| reads_field (reads_ref16 _) <| reads_field (reads_digest _) <|
      reads_field (reads_digest _) <| reads_done channel
  · rw [if_neg hcurrent, if_neg hcurrent, h hcurrent]
    exact reads_pure zeroChannel

variable {c : Contracts}

theorem reads_preparedProvenance {request : OpaqueCanonicalValue} {p : DurableSliceProvenance}
    (hvalid : p.validate c.sha256 = .ok ()) (h : Fits p.words) :
    Reads (decodePreparedProvenance c payloadVersion request) (sinceV4 payloadVersion (encodeSliceProvenance p)) p := by
  rw [sinceV4_eq hv, decodePreparedProvenance, if_pos hv]
  exact reads_sliceProvenance hvalid h

theorem reads_prepared {p : PreparedOperation} (hp : p.Coded c.sha256 payloadVersion)
    (h : Fits p.words) : Reads (decodePrepared c payloadVersion) (encodePrepared payloadVersion p) p := by
  simp only [PreparedOperation.words, fits_append, fits_cons, fits_nil, and_true, fits_flatMap, Option.mem_toList] at h
  obtain ⟨⟨⟨⟨⟨hrevision, hprovenance⟩, hclock, hdeadline⟩, haction⟩, hretiring⟩, hraw⟩ := h
  exact reads_field (reads_ref16 _) <| reads_field (reads_ref16 _) <| reads_field (reads_u64 hrevision) <|
    reads_field (reads_opaqueValue hp.request (by decide)) <|
    reads_field (reads_preparedProvenance hv hp.provenance hprovenance) <| reads_field (reads_digest _) <|
    reads_field (reads_digest _) <| reads_field (reads_digest _) <| reads_check hp.repeats <|
    reads_field (DesiredHeadKind.reads _) <| reads_field (reads_digest _) <| reads_field (reads_expectedActive _) <|
    reads_field (reads_ref16 _) <| reads_field (reads_digest _) <| reads_field (reads_u64 hclock) <|
    reads_field (reads_u64 hdeadline) <| reads_field (reads_responseChannel hp.channel) <|
    reads_field (PreparedPhase.reads _) <| reads_field (reads_optional fun a h => reads_action (haction a h)) <|
    reads_field (reads_optional fun r h => reads_retiring hv (hp.retiring r h) (hretiring r h)) <|
    reads_field (reads_optional fun raw h => reads_rawOutcome (hraw raw h)) <| reads_done p

omit hv in
theorem reads_resource {r : OwnedResourceRecord} (hr : r.Coded payloadVersion) (h : Fits r.words) :
    Reads (decodeResource payloadVersion) (encodeResource r) r := by
  simp only [OwnedResourceRecord.words, fits_cons, fits_nil, and_true] at h
  have hevidence := hr.evidence
  simp only [List.mem_append, Option.mem_toList, or_imp, forall_and] at hevidence
  obtain ⟨⟨⟨hos, hworkspace⟩, hcontainment⟩, htombstone⟩ := hevidence
  exact reads_field (ResourceKind.reads _) <| reads_field (reads_ref16 _) <| reads_field (reads_u64 h.1) <|
    reads_field (reads_u64 h.2) <| reads_field (ResourcePhase.reads _ hr.phase) <|
    reads_field (reads_optional fun r _ => reads_ref16 r) <|
    reads_field (reads_optional fun e h => reads_opaqueValue (hos e h) (by decide)) <|
    reads_field (reads_optional fun e h => reads_opaqueValue (hworkspace e h) (by decide)) <|
    reads_field (reads_optional fun e h => reads_opaqueValue (hcontainment e h) (by decide)) <|
    reads_field (reads_optional fun e h => reads_opaqueValue (htombstone e h) (by decide)) <| reads_done r

omit hv in
theorem reads_host {host : HostClockAdmissionState} (hh : host.Coded) (h : Fits host.words) :
    Reads decodeHost (encodeHost host) host := by
  simp only [HostClockAdmissionState.words, fits_append, fits_cons, fits_nil, and_true, fits_flatMap] at h
  obtain ⟨⟨hepoch, hclock⟩, htemporal⟩ := h
  exact reads_field (reads_u64 hepoch) <| reads_field (reads_ref16 _) <| reads_field (reads_u64 hclock) <|
    reads_field (reads_opaqueValue hh.buildDescriptor (by decide)) <|
    reads_field (reads_opaqueValue hh.singletonManifest (by decide)) <|
    reads_field (reads_storePinnedBuildIdentity hh.identity) <| reads_field (reads_digest _) <|
    reads_field (reads_digest _) <| reads_field (reads_digest _) <| reads_field (reads_digest _) <|
    reads_field (reads_digest _) <|
    reads_field (reads_records hh.tenureNonces (by decide) fun r _ => reads_replayRecord r) <|
    reads_field (reads_records hh.requestNonces (by decide) fun r _ => reads_replayRecord r) <|
    reads_field (reads_records hh.temporalLineages (by decide) fun r hr => reads_temporalRecord (htemporal r hr)) <|
    reads_done host

theorem reads_completedRecords {α : Type} {record : Cursor α} {enc : α → Bytes} {xs : List α} {maximum : Nat}
    (hlen : xs.length ≤ maximum) (hmax : maximum < 2 ^ 16) (h : ∀ x ∈ xs, Reads record (enc x) x) :
    Reads (completedRecords payloadVersion maximum record) (encList enc xs) xs := by
  have hversion := rejectLegacy_ok hv
  simp only [rejectLegacy, rejectIf_ok] at hversion
  exact reads_bind (reads_count hlen hmax) (reads_check (rejectIf_neg fun hbad => hversion hbad.1) (reads_times h))

/-- **A checked state whose counters are `u64` values is what its payload decodes to.** -/
theorem decodeState_payloadBytes {s : RuntimeJournalState} (hs : s.Coded c.sha256 payloadVersion)
    (h : Fits s.words) : decodeState c payloadVersion (payloadBytes payloadVersion s) = .ok (s, []) := by
  simp only [RuntimeJournalState.words, fits_append, fits_flatMap, Option.mem_toList] at h
  obtain ⟨⟨⟨⟨⟨⟨⟨⟨⟨hhost, hfence⟩, hhigh⟩, hprepared⟩, hactive⟩, hlive⟩, hrecovery⟩, hrecovered⟩, hresources⟩,
    hterminals⟩ := h
  have hfence : ∀ f, s.writerFence = some f → f.epoch ≤ u64Max := by
    intro f hf
    exact hfence f.epoch (List.mem_map_of_mem (Option.mem_toList.2 hf))
  have hhigh : ∀ w, s.sourceRevisionHighWater = some w → w.revision ≤ u64Max := by
    intro w hw
    exact hhigh w.revision (List.mem_map_of_mem (Option.mem_toList.2 hw))
  exact consumes_field (RuntimeJournalTransaction.reads _) <| consumes_field (reads_host hs.host hhost) <|
    consumes_field (reads_optional fun f hf => reads_fence (hfence f hf)) <|
    consumes_field (reads_optional fun w hw => reads_highWater (hhigh w hw)) <|
    consumes_field (reads_optional fun p hp => reads_prepared hv (hs.prepared p hp) (hprepared p hp)) <|
    consumes_field (reads_optional fun a ha => reads_active hv (hs.active a ha) (hactive a ha)) <|
    consumes_field (reads_live hlive) <|
    consumes_field (reads_optional fun r hr => reads_check (rejectLegacy_ok hv)
      (reads_recoveryAction hv (hs.recovery r hr) (hrecovery r hr))) <|
    consumes_field (reads_completedRecords hv hs.recoveryCount (by decide) fun t ht =>
      reads_recoveryTerminal hv (hs.recoveryTerminals t ht) (hrecovered t ht)) <|
    consumes_field (reads_records hs.resourceCount (by decide) fun r hr =>
      reads_resource (hs.resources r hr) (hresources r hr)) <|
    consumes_field (reads_completedRecords hv hs.terminalCount (by decide) fun t ht =>
      reads_terminalOperation hv (hs.terminals t ht) (hterminals t ht)) <|
    consumes_finish _ s

end Versions

/-! ## The validator checks what the decoders check -/

theorem RecoveryAction.coded_of_intrinsic {r : RecoveryAction} {host : HostClockAdmissionState}
    {current : Bool} (h : r.validateIntrinsic sha256 host current = .ok ()) : r.Coded sha256 := by
  simp only [validateIntrinsic, validatePlanned, bind_ok, exists_unit] at h
  obtain ⟨_, _, ⟨hprovenance, _, _, _, _, hidentity, _⟩, _⟩ := h
  exact ⟨hprovenance, hidentity⟩

theorem RetiringLiveFacts.coded_of_validate {r : RetiringLiveFacts}
    (h : r.validate sha256 manifest = .ok ()) : r.Coded sha256 := by
  simp only [validate, bind_ok, exists_unit] at h
  exact ⟨h.1, h.2.1⟩

theorem PreparedOperation.retiring_of_validate {p : PreparedOperation}
    (h : p.validateRetiring sha256 manifest = .ok ()) {r : RetiringLiveFacts} (hr : p.retiring = some r) :
    r.Coded sha256 := by
  unfold validateRetiring at h
  rw [hr] at h
  dsimp only at h
  split at h
  · rw [bind_ok] at h
    obtain ⟨_, hvalid, _⟩ := h
    exact RetiringLiveFacts.coded_of_validate hvalid
  · cases h

theorem PreparedOperation.coded_of_validate {p : PreparedOperation}
    {nonces : List ReplayLedgerRecord} {temporals : List TemporalLineageRecord} {require : Bool}
    (h : p.validate sha256 manifest nonces temporals require = .ok ())
    (hchannel : payloadVersion ≠ runtimeJournalPayloadVersion → p.responseChannel = zeroChannel) :
    p.Coded sha256 payloadVersion := by
  simp only [validate, validateAdmitted, bind_ok, rejectIf_ok, exists_unit] at h
  obtain ⟨⟨hrequest, hprovenance, _, _, _, _, hrepeats, _⟩, hretiring, _⟩ := h
  exact ⟨hrequest, hprovenance, rejectIf_ok.2 hrepeats, hchannel, fun r hr => retiring_of_validate hretiring hr⟩

theorem ActiveDesiredHead.coded_of_validate {a : ActiveDesiredHead}
    (h : a.validate sha256 manifest = .ok ()) : a.Coded sha256 := by
  simp only [validate, bind_ok, exists_unit] at h
  exact ⟨h.1, h.2.1⟩

theorem RuntimeJournalState.terminal_coded
    {t : TerminalOperationRecord} (h : s.validateTerminal c sequence t = .ok ()) : t.Coded c.sha256 := by
  simp only [validateTerminal, bind_ok, exists_unit] at h
  obtain ⟨_, _, _, _, _, _, _, hprovenance, _, _, _, _, _, _, _, _, _, _, _, _, _, _, hresponse, _⟩ := h
  exact ⟨hprovenance, hresponse⟩

theorem RuntimeJournalState.recoveryTerminal_coded (h : s.validateRecoveryTerminals c sequence = .ok ()) :
    s.recoveryTerminals.length ≤ maxRuntimeRecoveryTerminals ∧
      ∀ t ∈ s.recoveryTerminals, t.recovery.Coded c.sha256 := by
  simp only [validateRecoveryTerminals, bind_ok, rejectIf_ok, exists_unit, not_or, not_lt] at h
  obtain ⟨⟨hcount, _⟩, chain, hscan, _⟩ := h
  refine ⟨hcount, fun t ht => ?_⟩
  obtain ⟨_, _, hstep⟩ := scan_ok_mem hscan t ht
  simp only [recoveryTerminalStep, RecoveryTerminalRecord.validate, bind_ok, exists_unit] at hstep
  exact RecoveryAction.coded_of_intrinsic hstep.1.1

structure RuntimeJournalState.Precurrent (s : RuntimeJournalState) : Prop where
  channel : ∀ p, s.prepared = some p → p.responseChannel = zeroChannel
  phase : ∀ r ∈ s.ownedResources, r.phase ≠ .reservedAtCrashExactZero

theorem RuntimeJournalState.coded_of_validate (h : s.validateForPayloadVersion c sequence payloadVersion = .ok ())
    (hold : payloadVersion ≠ runtimeJournalPayloadVersion → s.Precurrent) : s.Coded c.sha256 payloadVersion := by
  simp only [validateForPayloadVersion, bind_ok, exists_unit, validateHost_ok, validateScopeAndHighWater_ok,
    validateActions_ok, validateResources_ok, validateTerminals_ok] at h
  obtain ⟨_, _, hhost, ⟨⟨common, hscope⟩, _⟩, hactions, _, ⟨hresources, _, hresource, _⟩, ⟨hterminals, _, hterminal⟩,
    hrecovered, _⟩ := h
  obtain ⟨hrecoveryCount, hrecoveryTerminals⟩ := recoveryTerminal_coded hrecovered
  have htenure := ((validateReplayRecords_ok _ _).1 hhost.tenureNonces).1
  have hrequest := ((validateReplayRecords_ok _ _).1 hhost.requestNonces).1
  have htemporal := ((validateTemporalRecords_ok _ _).1 hhost.temporalLineages).1
  refine ⟨⟨hhost.pinned.buildDescriptor, hhost.pinned.singletonManifest, hhost.pinned.identity, htenure, hrequest,
    htemporal⟩, ?_, ?_, ?_, hrecoveryCount, hrecoveryTerminals, hresources, ?_, hterminals, ?_⟩
  · intro p hp
    exact PreparedOperation.coded_of_validate (hscope.prepared p hp).valid fun hv => (hold hv).channel p hp
  · intro a ha
    exact ActiveDesiredHead.coded_of_validate (hscope.active a ha).valid
  · intro r hr
    have hvalid := hactions.recovery r hr
    simp only [RecoveryAction.validate, bind_ok, exists_unit] at hvalid
    exact RecoveryAction.coded_of_intrinsic hvalid.1
  · intro r hr
    have hevidence := (hresource r hr).evidence
    simp only [validateResourceEvidence, bind_ok, exists_unit, forEach_ok] at hevidence
    exact ⟨fun hphase => by_contra fun hv => (hold hv).phase r hr hphase, hevidence.1⟩
  · intro t ht
    exact terminal_coded (hterminal t ht)

end Journal
end ParaEgox
