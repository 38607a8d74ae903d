import ParaEgox.JournalFrame

/-!
# JournalMigration — payload migrations keep the state they read

A migration decodes the source version, and builds the target version from the state it decoded.  The decoded counters
are `u64` values because they were read from eight bytes, so the target frame decodes to the same state again.
-/
namespace ParaEgox
namespace Journal

open Check Wire Cursor

/-! ## Decoded counters are in range -/

theorem yields_u64 : Yields u64 (· ≤ u64Max) := by
  intro bs n rest h
  have hlt := (uint_ok h).2
  exact Nat.le_sub_one_of_lt (lt_of_lt_of_eq hlt (by decide))

theorem yields_optional {α : Type} {value : Cursor α} {P : α → Prop} (h : Yields value P) :
    Yields (optional value) fun x => ∀ a, x = some a → P a := by
  refine yields_skip fun present => ?_
  cases present with
  | true =>
    refine yields_bind h fun a ha => yields_pure ?_
    intro b hb
    rwa [← Option.some.inj hb]
  | false => exact yields_pure (by simp)

theorem yields_records {α : Type} {record : Cursor α} {P : α → Prop} {maximum : Nat} (h : Yields record P) :
    Yields (records maximum record) fun xs => ∀ x ∈ xs, P x :=
  yields_skip fun n => yields_times h n

theorem yields_completedRecords {α : Type} {record : Cursor α} {P : α → Prop} {version maximum : Nat}
    (h : Yields record P) : Yields (completedRecords version maximum record) fun xs => ∀ x ∈ xs, P x :=
  yields_skip fun n => yields_skip fun _ => yields_times h n

theorem yields_action : Yields decodeAction fun a => Fits a.words :=
  yields_skip2 fun _ _ => yields_bind yields_u64 fun _ h1 => yields_bind yields_u64 fun _ h2 =>
    yields_bind yields_u64 fun _ h3 => yields_bind yields_u64 fun _ h4 => yields_bind yields_u64 fun _ h5 =>
    yields_pure (by simp [JournalActionRef.words, h1, h2, h3, h4, h5])

theorem yields_sliceProvenance (sha256 : Sha256) : Yields (decodeSliceProvenance sha256) fun p => Fits p.words :=
  yields_skip2 fun _ _ => yields_skip fun _ => yields_bind yields_u64 fun _ h =>
    yields_skip4 fun _ _ _ _ =>
    yields_pure (by simp [DurableSliceProvenance.words, h])

theorem yields_rawOutcome : Yields decodeRawOutcome fun raw => Fits raw.words :=
  yields_skip2 fun _ _ => yields_skip fun _ => yields_bind yields_u64 fun _ h1 =>
    yields_bind yields_u64 fun _ h2 => yields_skip4 fun _ _ _ _ =>
    yields_pure (by simp [RawActionOutcomeLatch.words, h1, h2])

theorem yields_terminalSelection : Yields decodeTerminalSelection fun s => Fits s.words :=
  yields_skip fun _ => yields_bind yields_rawOutcome fun _ hraw => yields_bind yields_u64 fun _ h1 =>
    yields_bind yields_u64 fun _ h2 => yields_skip fun _ =>
    yields_pure (by simp [TerminalOutcomeSelection.words, hraw, h1, h2])

theorem yields_recoveryAction (sha256 : Sha256) : Yields (decodeRecoveryAction sha256) fun r => Fits r.words :=
  yields_bind yields_action fun _ haction => yields_skip fun _ => yields_bind yields_u64 fun _ h1 =>
    yields_skip fun _ => yields_bind (yields_sliceProvenance sha256) fun _ hprovenance => yields_skip4 fun _ _ _ _ =>
    yields_skip fun _ =>
    yields_bind yields_u64 fun _ h2 => yields_bind yields_u64 fun _ h3 => yields_skip2 fun _ _ =>
    yields_bind (yields_optional yields_rawOutcome) fun _ hraw =>
    yields_pure (by simpa [RecoveryAction.words, haction, h1, hprovenance, h2, h3] using hraw)

theorem yields_live : Yields decodeLiveMaterialization fun live => Fits live.words := by
  refine yields_skip fun tag => ?_
  unfold decodeLiveBody
  split
  · exact yields_pure (by simp [LiveMaterialization.words])
  · exact yields_skip fun _ => yields_bind yields_u64 fun _ h1 => yields_bind yields_u64 fun _ h2 =>
      yields_skip4 fun _ _ _ _ =>
      yields_pure (by simp [LiveMaterialization.words, h1, h2])
  · exact yields_skip2 fun _ _ => yields_bind yields_u64 fun _ h => yields_skip fun _ =>
      yields_pure (by simp [LiveMaterialization.words, h])
  · exact yields_skip fun _ => yields_bind yields_u64 fun _ h1 => yields_bind yields_u64 fun _ h2 =>
      yields_skip fun _ => yields_pure (by simp [LiveMaterialization.words, h1, h2])
  · exact yields_skip4 fun _ _ _ _ =>
      yields_pure (by simp [LiveMaterialization.words])
  · exact yields_skip2 fun _ _ => yields_skip fun _ => yields_bind yields_u64 fun _ h =>
      yields_skip fun _ => yields_pure (by simp [LiveMaterialization.words, h])
  · exact yields_skip2 fun _ _ => yields_pure (by simp [LiveMaterialization.words])
  · exact yields_skip2 fun _ _ => yields_skip fun _ =>
      yields_pure (by simp [LiveMaterialization.words])
  · exact yields_lift (by simp)

theorem yields_temporalRecord : Yields decodeTemporalRecord fun r => Fits r.words :=
  yields_skip2 fun _ _ => yields_skip fun _ => yields_bind yields_u64 fun _ h1 =>
    yields_bind yields_u64 fun _ h2 => yields_bind yields_u64 fun _ h3 => yields_bind yields_u64 fun _ h4 =>
    yields_skip fun _ => yields_pure (by simp [TemporalLineageRecord.words, h1, h2, h3, h4])

theorem yields_host : Yields decodeHost fun h => Fits h.words :=
  yields_bind yields_u64 fun _ h1 => yields_skip fun _ => yields_bind yields_u64 fun _ h2 =>
    yields_skip4 fun _ _ _ _ => yields_skip4 fun _ _ _ _ => yields_skip2 fun _ _ =>
    yields_bind (yields_records yields_temporalRecord) fun _ htemporal =>
    yields_pure (by simpa [HostClockAdmissionState.words, h1, h2] using htemporal)

theorem yields_fence : Yields decodeFence fun f => f.epoch ≤ u64Max :=
  yields_skip2 fun _ _ => yields_bind yields_u64 fun _ h => yields_skip2 fun _ _ => yields_skip fun _ => yields_pure h

theorem yields_highWater : Yields decodeHighWater fun w => w.revision ≤ u64Max :=
  yields_skip fun _ => yields_bind yields_u64 fun _ h => yields_pure h

theorem yields_retiring (sha256 : Sha256) (version : Nat) :
    Yields (decodeRetiring sha256 version) fun r => Fits r.words :=
  yields_skip2 fun _ _ => yields_bind (yields_sliceProvenance sha256) fun _ hprovenance =>
    yields_skip2 fun _ _ => yields_bind yields_u64 fun _ h1 => yields_bind yields_u64 fun _ h2 =>
    yields_bind yields_u64 fun _ h3 => yields_bind yields_u64 fun _ h4 => yields_bind yields_u64 fun _ h5 =>
    yields_bind yields_u64 fun _ h6 => yields_skip fun _ =>
    yields_pure (by simp [RetiringLiveFacts.words, hprovenance, h1, h2, h3, h4, h5, h6])

theorem yields_responseChannel (version : Nat) : Yields (decodeResponseChannel version) fun channel =>
    version ≠ runtimeJournalPayloadVersion → channel = zeroChannel := by
  unfold decodeResponseChannel
  split
  next hcurrent =>
    exact yields_skip4 fun _ _ _ _ =>
      yields_pure fun hv => absurd hcurrent hv
  next => exact yields_pure fun _ => rfl

theorem yields_prepared (c : Contracts) (version : Nat) : Yields (decodePrepared c version) fun p =>
    Fits p.words ∧ (version ≠ runtimeJournalPayloadVersion → p.responseChannel = zeroChannel) :=
  yields_skip2 fun _ _ => yields_bind yields_u64 fun _ hrevision => yields_skip fun _ =>
    yields_skip fun provenance => yields_skip2 fun _ _ => yields_skip fun _ =>
    yields_bind (P := fun _ => provenance.sourceRevision ≤ u64Max) (yields_lift fun _ hcheck => by
      simp only [checkPreparedProvenance, rejectIf_ok, not_or, not_not] at hcheck
      rw [hcheck.2.1]
      exact hrevision) fun _ hprovenance => yields_skip4 fun _ _ _ _ => yields_skip fun _ =>
      yields_bind yields_u64 fun _ h1 => yields_bind yields_u64 fun _ h2 =>
    yields_bind (yields_responseChannel version) fun _ hchannel => yields_skip fun _ =>
    yields_bind (yields_optional yields_action) fun _ haction =>
    yields_bind (yields_optional (yields_retiring c.sha256 version)) fun _ hretiring =>
    yields_bind (yields_optional yields_rawOutcome) fun _ hraw => yields_pure ⟨by
      simpa [PreparedOperation.words, DurableSliceProvenance.words, hrevision, hprovenance, h1, h2] using
        ⟨haction, hretiring, hraw⟩, hchannel⟩

theorem yields_active (sha256 : Sha256) (version : Nat) : Yields (decodeActive sha256 version) fun a => Fits a.words :=
  yields_skip2 fun _ _ => yields_skip fun _ => yields_bind yields_u64 fun _ h => yields_skip fun _ =>
    yields_bind (yields_sliceProvenance sha256) fun _ hprovenance => yields_skip4 fun _ _ _ _ =>
    yields_pure (by simp [ActiveDesiredHead.words, h, hprovenance])

theorem yields_recoveryTerminal (sha256 : Sha256) : Yields (decodeRecoveryTerminal sha256) fun t => Fits t.words :=
  yields_bind (yields_recoveryAction sha256) fun _ hrecovery =>
    yields_bind yields_terminalSelection fun _ hselection =>
    yields_skip2 fun _ _ => yields_bind yields_u64 fun _ h1 => yields_bind yields_u64 fun _ h2 =>
    yields_pure (by simp [RecoveryTerminalRecord.words, hrecovery, hselection, h1, h2])

theorem yields_resource (version : Nat) : Yields (decodeResource version) fun r => Fits r.words :=
  yields_skip2 fun _ _ => yields_bind yields_u64 fun _ h1 => yields_bind yields_u64 fun _ h2 =>
    yields_skip4 fun _ _ _ _ => yields_skip2 fun _ _ => yields_pure (by simp [OwnedResourceRecord.words, h1, h2])

theorem yields_terminalOperation (sha256 : Sha256) : Yields (decodeTerminalOperation sha256) fun t => Fits t.words :=
  yields_skip4 fun _ _ _ _ =>
    yields_bind (yields_sliceProvenance sha256) fun _ hprovenance => yields_bind yields_u64 fun _ h1 =>
    yields_skip4 fun _ _ _ _ => yields_skip2 fun _ _ => yields_bind yields_u64 fun _ h2 =>
    yields_bind yields_u64 fun _ h3 =>
    yields_bind (yields_optional yields_action) fun _ haction =>
    yields_bind (yields_optional yields_rawOutcome) fun _ hraw =>
    yields_bind yields_terminalSelection fun _ hselection => yields_skip4 fun _ _ _ _ =>
    yields_bind yields_u64 fun _ h4 => yields_bind yields_u64 fun _ h5 =>
    yields_pure (by
      simpa [TerminalOperationRecord.words, hprovenance, h1, h2, h3, hselection, h4, h5] using ⟨haction, hraw⟩)

/-- **A decoded state has all its counters in range**, and before version 5 no response channel. -/
theorem yields_state (c : Contracts) (version : Nat) : Yields (decodeState c version) fun s => Fits s.words ∧
    (version ≠ runtimeJournalPayloadVersion → ∀ p, s.prepared = some p → p.responseChannel = zeroChannel) := by
  refine yields_skip fun _ => yields_bind yields_host fun host hhost =>
    yields_bind (yields_optional yields_fence) fun fence hfence =>
    yields_bind (yields_optional yields_highWater) fun high hhigh =>
    yields_bind (yields_optional (yields_prepared c version)) fun prepared hprepared =>
    yields_bind (yields_optional (yields_active c.sha256 version)) fun active hactive =>
    yields_bind yields_live fun live hlive =>
    yields_bind (yields_optional (yields_skip fun _ => yields_recoveryAction c.sha256)) fun recovery hrecovery =>
    yields_bind (yields_completedRecords (yields_recoveryTerminal c.sha256)) fun recovered hrecovered =>
    yields_bind (yields_records (yields_resource version)) fun resources hresources =>
    yields_bind (yields_completedRecords (yields_terminalOperation c.sha256)) fun terminals hterminals =>
    yields_skip fun _ => yields_pure ⟨?_, fun hv p hp => (hprepared p hp).2 hv⟩
  have hfence : Fits (fence.toList.map (·.epoch)) := by
    cases fence with
    | none => exact fits_nil
    | some f => simpa using hfence f rfl
  have hhigh : Fits (high.toList.map (·.revision)) := by
    cases high with
    | none => exact fits_nil
    | some w => simpa using hhigh w rfl
  simp only [RuntimeJournalState.words, fits_append, fits_flatMap, Option.mem_toList]
  exact ⟨⟨⟨⟨⟨⟨⟨⟨⟨hhost, hfence⟩, hhigh⟩, fun p hp => (hprepared p hp).1⟩, hactive⟩, hlive⟩, hrecovery⟩, hrecovered⟩,
    hresources⟩, hterminals⟩

namespace RuntimeJournalSnapshot

variable {c : Contracts} {version : Nat} {s : RuntimeJournalState} {frame : Bytes}

theorem decodePayloadVersion_yields {payload : Bytes}
    (h : decodePayloadVersion c payload version = .ok s) : Fits s.words ∧
      (version ≠ runtimeJournalPayloadVersion → ∀ p, s.prepared = some p → p.responseChannel = zeroChannel) := by
  simp only [decodePayloadVersion, bind_ok, exists_unit, pure_ok, Prod.exists] at h
  obtain ⟨_, _, state, rest, hstate, rfl⟩ := h
  exact yields_state c version payload state rest hstate

theorem decodeHeader_sequence {rest : Bytes} {header : SnapshotHeader}
    (h : decodeHeader version frame = .ok (header, rest)) : header.sequence ≤ u64Max := by
  have hyields : Yields (decodeHeader version) fun header => header.sequence ≤ u64Max :=
    yields_skip4 fun _ _ _ _ => yields_skip4 fun _ _ _ _ => yields_skip4 fun _ _ _ _ => yields_skip2 fun _ _ =>
      yields_bind yields_u64 fun _ h => yields_skip4 fun _ _ _ _ => yields_pure h
  exact hyields frame header rest h

/-- **A decoded snapshot is in range**, and before version 5 it has nothing version 5 introduced. -/
theorem decodeForPayloadVersion_range {mismatch : RuntimeJournalError}
    {d : DecodedRuntimeJournalSnapshot} (h : decodeForPayloadVersion c frame version mismatch = .ok d) :
    d.snapshot.InRange ∧ (version ≠ runtimeJournalPayloadVersion → d.snapshot.state.Precurrent) := by
  obtain ⟨_, hframed, _, hstate⟩ := decodeForPayloadVersion_ok h
  obtain ⟨hwords, hchannel⟩ := decodePayloadVersion_yields hstate
  have hphase := (encodePayloadVersion_ok _ _ _ hframed.encoded).2.2
  refine ⟨⟨?_, hwords⟩, fun hv => ⟨hchannel hv, hphase hv⟩⟩
  simp only [decodeForPayloadVersion, bind_ok, exists_unit] at h
  obtain ⟨_, h⟩ := h
  split at h
  next =>
    simp only [decodeFramed, bind_ok, exists_unit, pure_ok, Prod.exists] at h
    obtain ⟨header, rest, hheader, _, _, _, _, _, _, _, _, _, _, _, _, _, _, rfl⟩ := h
    exact decodeHeader_sequence hheader
  next => cases h

/-! ## The mismatch error is only an error -/

theorem validatePreparedRequest_mismatch {store : Id32} {mismatch mismatch' : RuntimeJournalError}
    (h : validatePreparedRequestBusinessInvariants c s store mismatch = .ok ()) :
    validatePreparedRequestBusinessInvariants c s store mismatch' = .ok () := by
  simp only [validatePreparedRequestBusinessInvariants, whenSome_ok, validatePreparedRequest, bind_ok, okOr_ok,
    mapErr_ok, rejectIf_ok] at h ⊢
  exact h

theorem Accepted.mismatch {mismatch : RuntimeJournalError} {s : RuntimeJournalSnapshot}
    (h : s.Accepted c version mismatch) (mismatch' : RuntimeJournalError) : s.Accepted c version mismatch' :=
  { h with request := validatePreparedRequest_mismatch h.request }

/-! ## The source of a migration -/

/-- `frame` is the canonical frame of `source` in exactly this payload version, and these are its header's facts. -/
structure Denotes (c : Contracts) (version : Nat) (mismatch : RuntimeJournalError) (frame : Bytes)
    (source : RuntimeJournalSnapshot) (checksum : Digest32) : Prop where
  decoded : decodeForPayloadVersion c frame version mismatch = .ok ⟨source, checksum⟩
  canonical : tryNewForPayloadVersion c source.storeInstanceId source.ownerTargetFingerprint source.sequence source.state
    version mismatch = .ok source
  wire : source.canonicalWire = frame
  header : frame.take headerWithoutChecksumBytes = snapshotHeader source.storeInstanceId source.ownerTargetFingerprint
    source.sequence (frame.length - headerBytes) version
  checksum : (frame.drop headerWithoutChecksumBytes).take 32 = checksum.asBytes

theorem denotes_of_decode {mismatch : RuntimeJournalError}
    {d : DecodedRuntimeJournalSnapshot} (h : decodeForPayloadVersion c frame version mismatch = .ok d) :
    Denotes c version mismatch frame d.snapshot d.checksum := by
  obtain ⟨haccepted, hframed, hwire, _⟩ := decodeForPayloadVersion_ok h
  have hlength : frame.length - headerBytes = (payloadBytes version d.snapshot.state).length := by
    rw [← hwire, hframed.length]
    omega
  refine ⟨h, (tryNewForPayloadVersion_ok c version mismatch d.snapshot).2 ⟨haccepted, d.checksum, hframed⟩, hwire, ?_, ?_⟩
  · rw [hlength, ← hwire]
    exact hframed.header
  · have hfront := snapshotHeader_length d.snapshot.storeInstanceId d.snapshot.ownerTargetFingerprint
      d.snapshot.sequence (payloadBytes version d.snapshot.state).length version
    rw [← hwire, hframed.wire, List.append_assoc, ← hfront, List.drop_left, List.take_left' (by simp)]

structure Reports (m : RuntimeJournalPayloadMigration) (version : Nat) (source : RuntimeJournalSnapshot)
    (checksum : Digest32) : Prop where
  version : m.sourcePayloadVersion = version
  checksum : m.sourceChecksum = checksum
  store : m.sourceStoreInstanceId = source.storeInstanceId
  target : m.sourceTargetFingerprint = source.ownerTargetFingerprint
  sequence : m.sourceSequence = source.sequence

structure SameContent (s source : RuntimeJournalSnapshot) : Prop where
  store : s.storeInstanceId = source.storeInstanceId
  owner : s.ownerTargetFingerprint = source.ownerTargetFingerprint
  sequence : s.sequence = source.sequence
  state : s.state = source.state

theorem SameContent.inRange {s source : RuntimeJournalSnapshot} (h : SameContent s source) (hrange : source.InRange) :
    s.InRange :=
  ⟨h.sequence ▸ hrange.sequence, h.state ▸ hrange.words⟩

theorem migratePayloadV3_ok {m : RuntimeJournalPayloadMigration}
    (h : migratePayloadV3WithMetadata c frame = .ok m) : ∃ source checksum,
      Denotes c runtimeJournalLegacyPayloadVersion .legacyProvenanceUnavailable frame source checksum ∧
        Reports m runtimeJournalLegacyPayloadVersion source checksum ∧ SameContent m.snapshot source ∧
          decodePayloadV4ForMigration c m.snapshot.canonicalWire = .ok m.snapshot := by
  simp only [migratePayloadV3WithMetadata, bind_ok, pure_ok] at h
  obtain ⟨d, hd, snapshot, hsnapshot, rfl⟩ := h
  obtain ⟨hstore, howner, hsequence, hstate⟩ := tryNewForPayloadVersion_fields hsnapshot
  have hsame : SameContent snapshot d.snapshot := ⟨hstore, howner, hsequence, hstate⟩
  refine ⟨d.snapshot, d.checksum, denotes_of_decode hd, ⟨rfl, rfl, rfl, rfl, rfl⟩, hsame, ?_⟩
  obtain ⟨hrange, hold⟩ := decodeForPayloadVersion_range hd
  rw [← hstore, ← howner, ← hsequence, ← hstate, tryNewForPayloadVersion_ok] at hsnapshot
  obtain ⟨haccepted, checksum, hframed⟩ := hsnapshot
  have hdecoded := decodeForPayloadVersion_wire (le_refl _) (haccepted.mismatch .invalidStateInvariant) hframed
    (hsame.inRange hrange) fun _ => hsame.state ▸ hold (by decide)
  simp only [decodePayloadV4ForMigration, bind_ok, pure_ok]
  exact ⟨_, hdecoded, rfl⟩

theorem migratePayloadV4_ok {m : RuntimeJournalPayloadMigration}
    (h : migratePayloadV4WithMetadata c frame = .ok m) : ∃ source checksum,
      Denotes c runtimeJournalPayloadV4 .invalidStateInvariant frame source checksum ∧
        Reports m runtimeJournalPayloadV4 source checksum ∧ SameContent m.snapshot source ∧
          RuntimeJournalSnapshot.decode c m.snapshot.canonicalWire = .ok m.snapshot ∧
            source.state.prepared = none ∧ source.state.recoveryAction = none := by
  simp only [migratePayloadV4WithMetadata, ensurePayloadV4MigrationIsLossless, bind_ok, rejectIf_ok, exists_unit,
    pure_ok, not_or, Option.not_isSome_iff_eq_none] at h
  obtain ⟨d, hd, ⟨⟨hprepared, hrecovery⟩, _⟩, snapshot, hsnapshot, rfl⟩ := h
  obtain ⟨hbuilt, hstore, howner, hsequence, hstate⟩ := tryNew_built hsnapshot
  have hsame : SameContent snapshot d.snapshot := ⟨hstore, howner, hsequence, hstate⟩
  exact ⟨d.snapshot, d.checksum, denotes_of_decode hd, ⟨rfl, rfl, rfl, rfl, rfl⟩, hsame,
    hbuilt.decode (hsame.inRange (decodeForPayloadVersion_range hd).1), hprepared, hrecovery⟩

/-! ## A quiet version 4 state migrates -/

section Unprepared

variable {c : Contracts} {s : RuntimeJournalState} (hprepared : s.prepared = none)
include hprepared

theorem validate_unprepared (sequence : U64) (version version' : Nat) :
    s.validateForPayloadVersion c sequence version = s.validateForPayloadVersion c sequence version' := by
  simp only [RuntimeJournalState.validateForPayloadVersion, RuntimeJournalState.validateScopeAndHighWater,
    RuntimeJournalState.observePrepared, hprepared]

theorem payloadBytes_unprepared :
    payloadBytes runtimeJournalPayloadVersion s = payloadBytes runtimeJournalPayloadV4 s := by
  have h5 : runtimeJournalPayloadV4 ≤ runtimeJournalPayloadVersion := by decide
  have h4 : runtimeJournalPayloadV4 ≤ runtimeJournalPayloadV4 := le_refl _
  have hrecovery : encodeRecoveryAction runtimeJournalPayloadVersion = encodeRecoveryAction runtimeJournalPayloadV4 := by
    funext r
    simp only [encodeRecoveryAction, sinceV4_eq h5, sinceV4_eq h4]
  have hactive : encodeActive runtimeJournalPayloadVersion = encodeActive runtimeJournalPayloadV4 := by
    funext a
    simp only [encodeActive, sinceV4_eq h5, sinceV4_eq h4]
  have hterminal : encodeTerminalOperation runtimeJournalPayloadVersion =
      encodeTerminalOperation runtimeJournalPayloadV4 := by
    funext t
    simp only [encodeTerminalOperation, sinceV4_eq h5, sinceV4_eq h4]
  have hrecovered : encodeRecoveryTerminal runtimeJournalPayloadVersion =
      encodeRecoveryTerminal runtimeJournalPayloadV4 := by
    funext t
    simp only [encodeRecoveryTerminal, hrecovery]
  simp only [payloadBytes, hprepared, encOption, hactive, hrecovery, hterminal, hrecovered]

theorem encodePayload_unprepared {payload : Bytes}
    (h : encodePayloadVersion s runtimeJournalPayloadV4 = .ok payload) : encodePayload s = .ok payload := by
  simp only [encodePayload, encodePayloadVersion, bind_ok, rejectIf_ok, exists_unit, pure_ok,
    payloadBytes_unprepared hprepared] at h ⊢
  obtain ⟨_, _, hfits, hlength, hbytes⟩ := h
  exact ⟨by decide, fun hbad => hbad.1 rfl, hfits, hlength, hbytes⟩

end Unprepared

theorem expectActive_ok {kind : DesiredHeadKind} {a : ActiveDesiredHead}
    (h : s.expectActive kind = .ok a) : s.activeDesired = some a ∧ a.kind = kind := by
  simp only [RuntimeJournalState.expectActive, bind_ok, okOr_ok, rejectIf_ok, exists_unit, pure_ok, not_not] at h
  obtain ⟨_, hactive, hkind, rfl⟩ := h
  exact ⟨hactive, hkind⟩

theorem active_slice_digest {sha256 : Sha256} {a : ActiveDesiredHead} {manifest : Digest32}
    (h : a.validate sha256 manifest = .ok ()) : a.sliceProvenance.targetSliceDigest = a.slice.digest := by
  simp only [ActiveDesiredHead.validate, bind_ok, rejectIf_ok, exists_unit, not_or, not_not] at h
  exact h.2.2.2.2.1.2.2.2

/-- **Without an operation or a recovery under way, an accepted state is one the migration calls lossless.** -/
theorem lossless_of_validate {sequence : U64}
    (h : s.validateForPayloadVersion c sequence version = .ok ()) (hprepared : s.prepared = none)
    (hrecovery : s.recoveryAction = none) : losslessLive s.activeDesired s.liveMaterialization = true := by
  simp only [RuntimeJournalState.validateForPayloadVersion, bind_ok, exists_unit,
    RuntimeJournalState.validateScopeAndHighWater_ok, RuntimeJournalState.validateLiveCrossReferences] at h
  obtain ⟨_, _, _, ⟨⟨common, hscope⟩, _⟩, _, _, _, _, _, _, ⟨census, _, hlive⟩, _⟩ := h
  have hdigest : ∀ a, s.activeDesired = some a → a.sliceProvenance.targetSliceDigest = a.slice.digest :=
    fun a ha => active_slice_digest (hscope.active a ha).valid
  cases hmaterial : s.liveMaterialization with
  | none =>
    rw [hmaterial] at hlive
    simp only [rejectIf_ok, not_or, Option.not_isSome_iff_eq_none] at hlive
    rw [hlive.1]
    rfl
  | startupInvalidated head epoch generation eligibility invalidation failure recorded =>
    cases s.activeDesired <;> rfl
  | recovering head actionId generation recorded =>
    rw [hmaterial] at hlive
    simp only [RuntimeJournalState.validateRecovering, bind_ok, okOr_ok, hrecovery] at hlive
    obtain ⟨_, _, _, _, _, _, _, _, _, hnone, _⟩ := hlive
    cases hnone
  | liveReady head epoch generation recorded =>
    rw [hmaterial] at hlive
    simp only [RuntimeJournalState.validateLiveReady, bind_ok, rejectIf_ok, exists_unit, not_or, not_not] at hlive
    obtain ⟨a, ha, hfacts, _⟩ := hlive
    obtain ⟨hactive, hkind⟩ := expectActive_ok ha
    rw [hactive]
    simp only [losslessLive, hkind, hdigest a hactive, hfacts.1, decide_true, Bool.and_self]
  | recoveryFailedNotReady head actionId failure recorded =>
    rw [hmaterial] at hlive
    simp only [RuntimeJournalState.validateRecoveryFailedNotReady, bind_ok, rejectIf_ok, exists_unit, not_or,
      not_not] at hlive
    obtain ⟨a, ha, _, _, _, _, hfacts, _⟩ := hlive
    obtain ⟨hactive, hkind⟩ := expectActive_ok ha
    rw [hactive]
    simp only [losslessLive, hkind, hdigest a hactive, hfacts.1, decide_true, Bool.and_self]
  | draining head operationId actionId generation recorded =>
    rw [hmaterial] at hlive
    simp only [RuntimeJournalState.validateDraining, bind_ok, okOr_ok, hprepared] at hlive
    obtain ⟨_, _, _, _, _, _, _, hnone, _⟩ := hlive
    cases hnone
  | exactZero head recorded =>
    rw [hmaterial] at hlive
    simp only [RuntimeJournalState.validateExactZero, bind_ok, rejectIf_ok, exists_unit, not_or, not_not] at hlive
    obtain ⟨a, ha, hfacts, _⟩ := hlive
    obtain ⟨hactive, hkind⟩ := expectActive_ok ha
    rw [hactive]
    simp only [losslessLive, hkind, hdigest a hactive, hfacts.1, decide_true, Bool.and_self]
  | quarantined head reason recorded =>
    cases s.activeDesired <;> rfl

theorem tryNew_of_quiet {d : DecodedRuntimeJournalSnapshot}
    (h : decodeForPayloadVersion c frame runtimeJournalPayloadV4 .invalidStateInvariant = .ok d)
    (hprepared : d.snapshot.state.prepared = none) : ∃ s, tryNew c d.snapshot.storeInstanceId
      d.snapshot.ownerTargetFingerprint d.snapshot.sequence d.snapshot.state = .ok s := by
  obtain ⟨haccepted, hframed, _, _⟩ := decodeForPayloadVersion_ok h
  obtain ⟨wire, hwire⟩ := encodeSnapshot_total c.sha256 d.snapshot.storeInstanceId d.snapshot.ownerTargetFingerprint
    d.snapshot.sequence hframed.room
  have hvalid : d.snapshot.state.validate c d.snapshot.sequence = .ok () := by
    rw [RuntimeJournalState.validate, validate_unprepared hprepared _ _ runtimeJournalPayloadV4]
    exact haccepted.valid
  simp only [tryNew, bind_ok, exists_unit, pure_ok]
  exact ⟨_, haccepted.envelope, hvalid, haccepted.owner, haccepted.request, haccepted.receipts, _,
    encodePayload_unprepared hprepared hframed.encoded, wire, hwire, rfl⟩

/-- **Payload migration preserves meaning.**  A migrated frame is the canonical frame of exactly its source version, the
migration reports the facts in that frame's header, and the migrated snapshot has the content of the source and decodes
from its own frame under the target version.  A version 4 state with an operation or a recovery under way is never
migrated, and every other version 4 snapshot is. -/
theorem migration_preserves_meaning (c : Contracts) (frame : Bytes) :
    (∀ m, migratePayloadV3WithMetadata c frame = .ok m → ∃ source checksum,
      Denotes c runtimeJournalLegacyPayloadVersion .legacyProvenanceUnavailable frame source checksum ∧
        Reports m runtimeJournalLegacyPayloadVersion source checksum ∧ SameContent m.snapshot source ∧
          decodePayloadV4ForMigration c m.snapshot.canonicalWire = .ok m.snapshot) ∧
    (∀ m, migratePayloadV4WithMetadata c frame = .ok m → ∃ source checksum,
      Denotes c runtimeJournalPayloadV4 .invalidStateInvariant frame source checksum ∧
        Reports m runtimeJournalPayloadV4 source checksum ∧ SameContent m.snapshot source ∧
          RuntimeJournalSnapshot.decode c m.snapshot.canonicalWire = .ok m.snapshot) ∧
    (∀ source, decodePayloadV4ForMigration c frame = .ok source →
      (source.state.prepared ≠ none ∨ source.state.recoveryAction ≠ none →
        ∃ e, migratePayloadV4WithMetadata c frame = .error e) ∧
      (source.state.prepared = none → source.state.recoveryAction = none →
        ∃ m, migratePayloadV4WithMetadata c frame = .ok m)) := by
  refine ⟨fun m hm => migratePayloadV3_ok hm, ?_, ?_⟩
  · intro m hm
    obtain ⟨source, checksum, hdenotes, hreports, hsame, hdecode, _⟩ := migratePayloadV4_ok hm
    exact ⟨source, checksum, hdenotes, hreports, hsame, hdecode⟩
  · intro source hsource
    simp only [decodePayloadV4ForMigration, bind_ok, pure_ok] at hsource
    obtain ⟨d, hd, rfl⟩ := hsource
    refine ⟨fun hbusy => ?_, fun hprepared hrecovery => ?_⟩
    · cases hm : migratePayloadV4WithMetadata c frame with
      | error e => exact ⟨e, rfl⟩
      | ok m =>
        obtain ⟨source, checksum, hdenotes, _, _, _, hprepared, hrecovery⟩ := migratePayloadV4_ok hm
        have hsame : d = ⟨source, checksum⟩ := Except.ok.inj (hd.symm.trans hdenotes.decoded)
        subst hsame
        rcases hbusy with hbusy | hbusy
        · exact absurd hprepared hbusy
        · exact absurd hrecovery hbusy
    · obtain ⟨s, hs⟩ := tryNew_of_quiet hd hprepared
      have hlossless := lossless_of_validate (decodeForPayloadVersion_ok hd).1.valid hprepared hrecovery
      simp only [migratePayloadV4WithMetadata, ensurePayloadV4MigrationIsLossless, bind_ok, rejectIf_ok, exists_unit,
        pure_ok, not_or, not_not, Option.not_isSome_iff_eq_none]
      exact ⟨_, d, hd, ⟨⟨hprepared, hrecovery⟩, hlossless⟩, s, hs, rfl⟩

/-- A store written in version 3, fresh or with an admitted operation, and its migration. -/
def legacyRun (busy : Bool) : Res (RuntimeJournalSnapshot × RuntimeJournalPayloadMigration) := do
  let first ← Sample.initialized
  let admitting ← Sample.admission Sample.startWire 5
  let before ← runBuilders Sample.contracts first (if busy then .startupInvalidation :: admitting else [])
  let s ← tryNewForPayloadVersion Sample.contracts Sample.store Sample.owner before.sequence before.state
    runtimeJournalLegacyPayloadVersion .legacyProvenanceUnavailable
  let m ← migratePayloadV3WithMetadata Sample.contracts s.canonicalWire
  rejectIf (m.snapshot.state.prepared.isSome ≠ busy ∨ m.snapshot.state.recoveryAction ≠ none) .migrationStateNotLossless
  pure (s, m)

theorem legacyRun_ok (busy : Bool) : ∃ s m, legacyRun busy = .ok (s, m) ∧
    migratePayloadV3WithMetadata Sample.contracts s.canonicalWire = .ok m ∧
      m.snapshot.state.prepared.isSome = busy ∧ m.snapshot.state.recoveryAction = none := by
  have hok : (legacyRun busy).isOk = true := by
    cases busy
    · decide +kernel
    · decide +kernel
  cases hrun : legacyRun busy with
  | error e => rw [hrun] at hok; cases hok
  | ok run =>
    have hparts := hrun
    simp only [legacyRun, bind_ok, rejectIf_ok, exists_unit, pure_ok, not_or, not_not, ne_eq] at hparts
    obtain ⟨_, _, _, _, _, _, s, _, m, hm, ⟨hprepared, hrecovery⟩, rfl⟩ := hparts
    exact ⟨s, m, rfl, hm, hprepared, hrecovery⟩

/-- A fresh store migrates to version 4 and from there to version 5, keeping its state; a store with an admitted operation
has its provenance derived again on the way to version 4, and is refused there. -/
theorem migration_preserves_meaning_prepared :
    (∃ s m m', legacyRun false = .ok (s, m) ∧ m.sourcePayloadVersion = 3 ∧
      migratePayloadV4WithMetadata Sample.contracts m.snapshot.canonicalWire = .ok m' ∧
        m'.snapshot.state = m.snapshot.state) ∧
    ∃ s m e, legacyRun true = .ok (s, m) ∧ m.sourcePayloadVersion = 3 ∧ m.snapshot.state.prepared.isSome = true ∧
      migratePayloadV4WithMetadata Sample.contracts m.snapshot.canonicalWire = .error e := by
  constructor
  · obtain ⟨s, m, hrun, hm, hprepared, hrecovery⟩ := legacyRun_ok false
    obtain ⟨_, _, _, hreports, _, hdecoded⟩ := (migration_preserves_meaning Sample.contracts s.canonicalWire).1 m hm
    obtain ⟨_, hmigrated, hquiet⟩ := migration_preserves_meaning Sample.contracts m.snapshot.canonicalWire
    obtain ⟨m', hm'⟩ := (hquiet m.snapshot hdecoded).2 (Option.not_isSome_iff_eq_none.1 (by simp [hprepared])) hrecovery
    obtain ⟨source, checksum, hdenotes, _, hsame, _⟩ := hmigrated m' hm'
    refine ⟨s, m, m', hrun, hreports.version, hm', ?_⟩
    simp only [decodePayloadV4ForMigration, bind_ok, pure_ok] at hdecoded
    obtain ⟨d, hd, hsnapshot⟩ := hdecoded
    rw [hsame.state, ← hsnapshot, Except.ok.inj (hd.symm.trans hdenotes.decoded)]
  · obtain ⟨s, m, hrun, hm, hprepared, _⟩ := legacyRun_ok true
    obtain ⟨_, _, _, hreports, _, hdecoded⟩ := (migration_preserves_meaning Sample.contracts s.canonicalWire).1 m hm
    have hquiet := (migration_preserves_meaning Sample.contracts m.snapshot.canonicalWire).2.2 m.snapshot hdecoded
    obtain ⟨e, he⟩ := hquiet.1 (.inl (Option.isSome_iff_ne_none.1 hprepared))
    exact ⟨s, m, e, hrun, hreports.version, hprepared, he⟩

end RuntimeJournalSnapshot
end Journal
end ParaEgox
