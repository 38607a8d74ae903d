import ParaEgox.JournalCodec
import ParaEgox.JournalSample

/-!
# JournalFrame — accepted frames are the canonical frames of snapshots

The envelope around the payload.  A decoder that accepts a frame has read every header field off its front and has
re-encoded the payload, so the frame is the one `try_new` builds from the decoded snapshot; with the payload codec this
makes decoding the inverse of building.
-/
namespace ParaEgox
namespace Journal

open Check Wire Cursor

/-! ## What a header read took -/

theorem uint_ok {width n : Nat} {bs rest : Bytes} (h : uint width bs = .ok (n, rest)) :
    bs = bytesBE width n ++ rest ∧ n < 256 ^ width := by
  simp only [uint, bind_reads_ok, pure_reads_ok] at h
  obtain ⟨taken, _, htake, rfl, rfl⟩ := h
  have hbytes := bytesBE_fromBE taken.val
  have hlt := fromBE_lt taken.val
  rw [taken.property] at hbytes hlt
  rw [hbytes]
  exact ⟨take_reads_ok htake, hlt⟩

theorem digest_ok {d : Digest32} {bs rest : Bytes} (h : digest bs = .ok (d, rest)) : bs = d.asBytes ++ rest := by
  simp only [digest, bind_reads_ok, pure_reads_ok] at h
  obtain ⟨taken, _, htake, rfl, rfl⟩ := h
  rw [Digest32.asBytes_fromBytes]
  exact take_reads_ok htake

theorem snapshotHeader_length (store : Id32) (owner : Digest32) (sequence : U64) (length version : Nat) :
    (snapshotHeader store owner sequence length version).length = headerWithoutChecksumBytes := by
  simp only [snapshotHeader, encU16, encU64, List.flatten_cons, List.flatten_nil, List.length_append, bytesBE_length,
    Digest32.asBytes_length, List.length_nil]
  rfl

theorem decodeHeader_ok {version : Nat} {frame rest : Bytes} {header : SnapshotHeader}
    (h : decodeHeader version frame = .ok (header, rest)) :
    validateEnvelopeIdentity header.storeInstanceId header.ownerTargetFingerprint header.sequence = .ok () ∧
      header.payloadLength ≤ maxRuntimeJournalSnapshotBytes - headerBytes ∧
        frame = snapshotHeader header.storeInstanceId header.ownerTargetFingerprint header.sequence header.payloadLength
          version ++ header.checksum.asBytes ++ rest := by
  simp only [decodeHeader, u16, u64, bind_reads_ok, lift_reads_ok, pure_reads_ok, rejectIf_ok, exists_unit, not_not,
    not_lt, ne_eq] at h
  obtain ⟨magic, _, hmagic, _, ⟨hm, hm'⟩, envelope, _, henvelope, _, ⟨he, he'⟩, kind, _, hkind, _, ⟨hk, hk'⟩,
    payload, _, hpayload, _, ⟨hp, hp'⟩, algorithm, _, halgorithm, _, ⟨ha, ha'⟩, profile, _, hprofile, _, ⟨hf, hf'⟩,
    store, _, hstore, owner, _, howner, sequence, _, hsequence, length, _, hlength, _, ⟨hidentity, hi'⟩, _,
    ⟨hbound, hb'⟩, checksum, _, hchecksum, hheader, hrest⟩ := h
  subst hrest hheader hb' hi' hf hf' ha ha' hp hp' hk hk' he he' hm'
  refine ⟨hidentity, hbound, ?_⟩
  rw [take_reads_ok hmagic, hm, (uint_ok henvelope).1, (uint_ok hkind).1, (uint_ok hpayload).1, (uint_ok halgorithm).1,
    (uint_ok hprofile).1, digest_ok hstore, digest_ok howner, (uint_ok hsequence).1, (uint_ok hlength).1,
    digest_ok hchecksum]
  simp only [snapshotHeader, encU16, encU64, List.flatten_cons, List.flatten_nil, List.append_assoc, List.append_nil]

theorem reads_header {store : Id32} {owner checksum : Digest32} {sequence : U64} {length version : Nat}
    (hidentity : validateEnvelopeIdentity store owner sequence = .ok ()) (hsequence : sequence ≤ u64Max)
    (hlength : length ≤ maxRuntimeJournalSnapshotBytes - headerBytes) (hversion : version < 2 ^ 16) :
    Reads (decodeHeader version) (snapshotHeader store owner sequence length version ++ checksum.asBytes)
      ⟨store, owner, sequence, length, checksum⟩ := by
  have hfits : length ≤ u64Max := le_trans hlength (by decide)
  have hfields : snapshotHeader store owner sequence length version ++ checksum.asBytes =
      [runtimeJournalMagic, encU16 1, encU16 3, encU16 version, encU16 1, encU16 1, store.asBytes, owner.asBytes,
        encU64 sequence, encU64 length, checksum.asBytes].flatten := by
    simp only [snapshotHeader, List.flatten_cons, List.flatten_nil, List.append_assoc, List.append_nil]
  rw [hfields]
  refine reads_field (reads_take runtimeJournalMagic _) <| reads_check (rejectIf_neg (not_not.2 rfl)) ?_
  iterate 2 refine reads_field (reads_uint (by decide)) <| reads_check (rejectIf_neg (not_not.2 rfl)) ?_
  refine reads_field (reads_uint hversion) <| reads_check (rejectIf_neg (not_not.2 rfl)) ?_
  iterate 2 refine reads_field (reads_uint (by decide)) <| reads_check (rejectIf_neg (not_not.2 rfl)) ?_
  exact reads_field (reads_digest _) <| reads_field (reads_digest _) <| reads_field (reads_u64 hsequence) <|
    reads_field (reads_u64 hfits) <| reads_check hidentity <| reads_check (rejectIf_neg (not_lt.2 hlength)) <|
    reads_field (reads_digest _) <| reads_done _

/-! ## Frames of a payload version -/

theorem encodePayloadVersion_ok (s : RuntimeJournalState) (version : Nat) (bytes : Bytes)
    (h : encodePayloadVersion s version = .ok bytes) : bytes = payloadBytes version s ∧
      bytes.length ≤ maxRuntimeJournalSnapshotBytes - headerBytes ∧
        (version ≠ runtimeJournalPayloadVersion → ∀ r ∈ s.ownedResources, r.phase ≠ .reservedAtCrashExactZero) := by
  simp only [encodePayloadVersion, bind_ok, rejectIf_ok, exists_unit, pure_ok, not_and, not_exists, not_lt] at h
  obtain ⟨_, hphase, _, hlength, rfl⟩ := h
  exact ⟨rfl, hlength, fun hv r hr => hphase hv r hr⟩

namespace RuntimeJournalSnapshot

/-- The checks `try_new` and `decode` share. -/
structure Accepted (c : Contracts) (version : Nat) (mismatch : RuntimeJournalError) (s : RuntimeJournalSnapshot) :
    Prop where
  envelope : validateEnvelopeIdentity s.storeInstanceId s.ownerTargetFingerprint s.sequence = .ok ()
  valid : s.state.validateForPayloadVersion c s.sequence version = .ok ()
  owner : s.state.validateOwnerTargetBinding s.ownerTargetFingerprint = .ok ()
  request : validatePreparedRequestBusinessInvariants c s.state s.storeInstanceId mismatch = .ok ()
  receipts : validateTerminalReceipts c s.storeInstanceId s.state = .ok ()

structure Framed (c : Contracts) (version : Nat) (s : RuntimeJournalSnapshot) (checksum : Digest32) : Prop where
  known : knownPayloadVersion version = true
  encoded : encodePayloadVersion s.state version = .ok (payloadBytes version s.state)
  room : headerBytes + (payloadBytes version s.state).length ≤ maxRuntimeJournalSnapshotBytes
  sealed : snapshotChecksum c.sha256 (snapshotHeader s.storeInstanceId s.ownerTargetFingerprint s.sequence
    (payloadBytes version s.state).length version) (payloadBytes version s.state) = .ok checksum
  wire : s.canonicalWire = snapshotHeader s.storeInstanceId s.ownerTargetFingerprint s.sequence
    (payloadBytes version s.state).length version ++ checksum.asBytes ++ payloadBytes version s.state

section Framed

variable {c : Contracts} {version : Nat} {s : RuntimeJournalSnapshot} {checksum : Digest32}

theorem sealedHeader_length (store : Id32) (owner checksum : Digest32) (sequence : U64) (length version : Nat) :
    (snapshotHeader store owner sequence length version ++ checksum.asBytes).length = headerBytes := by
  rw [List.length_append, snapshotHeader_length, Digest32.asBytes_length]
  rfl

theorem Framed.length (h : s.Framed c version checksum) :
    s.canonicalWire.length = headerBytes + (payloadBytes version s.state).length := by
  rw [h.wire, List.length_append, sealedHeader_length]

theorem Framed.payload (h : s.Framed c version checksum) :
    s.canonicalWire.drop headerBytes = payloadBytes version s.state := by
  rw [h.wire, ← sealedHeader_length s.storeInstanceId s.ownerTargetFingerprint checksum s.sequence
    (payloadBytes version s.state).length version, List.drop_left]

theorem Framed.header (h : s.Framed c version checksum) :
    s.canonicalWire.take headerWithoutChecksumBytes = snapshotHeader s.storeInstanceId s.ownerTargetFingerprint
      s.sequence (payloadBytes version s.state).length version := by
  rw [h.wire, List.append_assoc, ← snapshotHeader_length s.storeInstanceId s.ownerTargetFingerprint s.sequence
    (payloadBytes version s.state).length version, List.take_left]

theorem Framed.fits (h : s.Framed c version checksum) : (payloadBytes version s.state).length ≤ u64Max := by
  have hbound : maxRuntimeJournalSnapshotBytes ≤ u64Max := by decide
  have hroom := h.room
  omega

end Framed

variable {version : Nat} {c : Contracts} {s : RuntimeJournalSnapshot} {frame : Bytes}

theorem snapshotHeader_payload {store store' : Id32} {owner owner' : Digest32} {sequence sequence' : U64}
    {length length' version' : Nat} (hlength : length ≤ u64Max) (hlength' : length' ≤ u64Max)
    (h : snapshotHeader store owner sequence length version = snapshotHeader store' owner' sequence' length' version') :
    length = length' := by
  have hsplit : ∀ (store : Id32) (owner : Digest32) (sequence : U64) (length version : Nat),
      snapshotHeader store owner sequence length version =
        [runtimeJournalMagic, encU16 1, encU16 3, encU16 version, encU16 1, encU16 1, store.asBytes, owner.asBytes,
          encU64 sequence].flatten ++ encU64 length := by
    intro store owner sequence length version
    simp only [snapshotHeader, List.flatten_cons, List.flatten_nil, List.append_assoc, List.append_nil]
  rw [hsplit, hsplit] at h
  have hlast := (List.append_inj' h (by rw [encU64, encU64, bytesBE_length, bytesBE_length])).2
  exact bytesBE_inj (lt_of_le_of_lt hlength (by decide)) (lt_of_le_of_lt hlength' (by decide)) hlast

/-- **`try_new` of a version returns exactly the accepted snapshots with their frame.** -/
theorem tryNewForPayloadVersion_ok (c : Contracts) (version : Nat) (mismatch : RuntimeJournalError)
    (s : RuntimeJournalSnapshot) :
    tryNewForPayloadVersion c s.storeInstanceId s.ownerTargetFingerprint s.sequence s.state version mismatch = .ok s ↔
      s.Accepted c version mismatch ∧ ∃ checksum, s.Framed c version checksum := by
  simp only [tryNewForPayloadVersion, encodeSnapshotVersion, bind_ok, rejectIf_ok, exists_unit, pure_ok, not_not,
    not_lt]
  constructor
  · rintro ⟨henvelope, hvalid, howner, hrequest, hreceipts, payload, hpayload, wire, ⟨hknown, hroom, checksum, hsealed,
      rfl⟩, hs⟩
    obtain ⟨rfl, _⟩ := encodePayloadVersion_ok _ _ _ hpayload
    have hwire := congrArg canonicalWire hs
    exact ⟨⟨henvelope, hvalid, howner, hrequest, hreceipts⟩, checksum, hknown, hpayload, hroom, hsealed, hwire.symm⟩
  · rintro ⟨⟨henvelope, hvalid, howner, hrequest, hreceipts⟩, checksum, hknown, hpayload, hroom, hsealed, hwire⟩
    exact ⟨henvelope, hvalid, howner, hrequest, hreceipts, _, hpayload, _, ⟨hknown, hroom, checksum, hsealed, rfl⟩,
      by rw [← hwire]⟩

theorem tryNewForPayloadVersion_fields {store owner sequence state version mismatch}
    (h : tryNewForPayloadVersion c store owner sequence state version mismatch = .ok s) :
    s.storeInstanceId = store ∧ s.ownerTargetFingerprint = owner ∧ s.sequence = sequence ∧ s.state = state := by
  simp only [tryNewForPayloadVersion, bind_ok, exists_unit, pure_ok] at h
  obtain ⟨_, _, _, _, _, _, _, _, _, rfl⟩ := h
  exact ⟨rfl, rfl, rfl, rfl⟩

/-- **An accepted frame is the frame of the snapshot it decodes to**, with the checksum in its header. -/
theorem decodeForPayloadVersion_ok {mismatch : RuntimeJournalError}
    {d : DecodedRuntimeJournalSnapshot} (h : decodeForPayloadVersion c frame version mismatch = .ok d) :
    d.snapshot.Accepted c version mismatch ∧ d.snapshot.Framed c version d.checksum ∧
      d.snapshot.canonicalWire = frame ∧
        decodePayloadVersion c (payloadBytes version d.snapshot.state) version = .ok d.snapshot.state := by
  simp only [decodeForPayloadVersion, bind_ok, rejectIf_ok, exists_unit, not_lt] at h
  obtain ⟨hsize, h⟩ := h
  split at h
  next long =>
    simp only [decodeFramed, bind_ok, rejectIf_ok, exists_unit, pure_ok, not_not, not_lt, Prod.exists, ne_eq] at h
    obtain ⟨header, rest, hheader, hlong, hlength, computed, hcomputed, hsealed, state, hstate, hvalid, howner,
      hrequest, hreceipts, encoded, hencoded, rfl, rfl⟩ := h
    subst hsealed
    obtain ⟨hidentity, hbound, hframe⟩ := decodeHeader_ok hheader
    have hrest : frame.drop headerBytes = rest := by
      rw [hframe, ← sealedHeader_length header.storeInstanceId header.ownerTargetFingerprint header.checksum
        header.sequence header.payloadLength version, List.drop_left]
    have hfront : frame.take headerWithoutChecksumBytes = snapshotHeader header.storeInstanceId
        header.ownerTargetFingerprint header.sequence header.payloadLength version := by
      rw [hframe, List.append_assoc, ← snapshotHeader_length header.storeInstanceId header.ownerTargetFingerprint
        header.sequence header.payloadLength version, List.take_left]
    have hpayload : sliceFrom frame headerBytes long = payloadBytes version state :=
      (encodePayloadVersion_ok _ _ _ hencoded).1
    rw [hpayload] at hencoded hcomputed hstate
    have hrestLength : header.payloadLength = (payloadBytes version state).length := by
      rw [← hpayload, sliceFrom, List.length_drop]
      omega
    have hknown : knownPayloadVersion version = true := by
      simp only [decodePayloadVersion, bind_ok, rejectIf_ok, exists_unit, not_not] at hstate
      exact hstate.1
    rw [sliceTo, hfront, hrestLength] at hcomputed
    refine ⟨⟨hidentity, hvalid, howner, hrequest, hreceipts⟩, ⟨hknown, hencoded, ?_, hcomputed, ?_⟩, rfl, hstate⟩
    · rw [← hrestLength]
      omega
    · rw [hframe, ← hrest, ← hrestLength]
      rw [sliceFrom] at hpayload
      rw [hpayload]
  next => cases h

/-- The counters of a snapshot are `u64` values, as the source's types promise. -/
structure InRange (s : RuntimeJournalSnapshot) : Prop where
  sequence : s.sequence ≤ u64Max
  words : Fits s.state.words

theorem decodePayloadVersion_payloadBytes {s : RuntimeJournalState}
    (hv : runtimeJournalPayloadV4 ≤ version) (hknown : knownPayloadVersion version = true)
    (hlength : (payloadBytes version s).length ≤ maxRuntimeJournalSnapshotBytes - headerBytes)
    (hcoded : s.Coded c.sha256 version) (hwords : Fits s.words) :
    decodePayloadVersion c (payloadBytes version s) version = .ok s := by
  simp only [decodePayloadVersion, bind_ok, rejectIf_ok, exists_unit, pure_ok, not_not, not_lt]
  exact ⟨hknown, hlength, (s, []), decodeState_payloadBytes hv hcoded hwords, rfl⟩

/-- **The frame of an accepted snapshot decodes to it**, in the versions whose records are complete. -/
theorem decodeForPayloadVersion_wire
    {mismatch : RuntimeJournalError} {checksum : Digest32} (hv : runtimeJournalPayloadV4 ≤ version)
    (haccepted : s.Accepted c version mismatch) (hframed : s.Framed c version checksum) (hrange : s.InRange)
    (hold : version ≠ runtimeJournalPayloadVersion → s.state.Precurrent) :
    decodeForPayloadVersion c s.canonicalWire version mismatch = .ok ⟨s, checksum⟩ := by
  have hlength := (encodePayloadVersion_ok _ _ _ hframed.encoded).2.1
  have hversion : version < 2 ^ 16 := by
    have hknown := hframed.known
    simp only [knownPayloadVersion, Bool.or_eq_true, decide_eq_true_eq] at hknown
    rcases hknown with (rfl | rfl) | rfl <;> decide
  have hstate := decodePayloadVersion_payloadBytes hv hframed.known hlength
    (RuntimeJournalState.coded_of_validate haccepted.valid hold) hrange.words
  have hheader : decodeHeader version s.canonicalWire = .ok (⟨s.storeInstanceId, s.ownerTargetFingerprint, s.sequence,
      (payloadBytes version s.state).length, checksum⟩, payloadBytes version s.state) := by
    rw [hframed.wire]
    exact reads_header haccepted.envelope hrange.sequence hlength hversion _
  have htotal := hframed.length
  have long : headerBytes ≤ s.canonicalWire.length := htotal ▸ Nat.le_add_right _ _
  simp only [decodeForPayloadVersion, bind_ok, rejectIf_ok, exists_unit, not_lt]
  refine ⟨htotal ▸ hframed.room, ?_⟩
  rw [dif_pos long]
  simp only [decodeFramed, sliceFrom, sliceTo, bind_ok, rejectIf_ok, exists_unit, pure_ok, not_not, not_lt, ne_eq,
    Prod.exists, hframed.payload, hframed.header]
  exact ⟨_, _, hheader, htotal.le, htotal.symm, checksum, hframed.sealed, rfl, s.state, hstate, haccepted.valid,
    haccepted.owner, haccepted.request, haccepted.receipts, _, hframed.encoded, rfl, rfl⟩

theorem tryNew_eq (c : Contracts) (store : Id32) (owner : Digest32) (sequence : U64) (state : RuntimeJournalState) :
    tryNew c store owner sequence state =
      tryNewForPayloadVersion c store owner sequence state runtimeJournalPayloadVersion .invalidStateInvariant := rfl

theorem decode_ok (c : Contracts) (frame : Bytes) (s : RuntimeJournalSnapshot) :
    decode c frame = .ok s ↔ ∃ checksum, decodeForPayloadVersion c frame runtimeJournalPayloadVersion
      .invalidStateInvariant = .ok ⟨s, checksum⟩ := by
  simp only [decode, bind_ok, pure_ok]
  constructor
  · rintro ⟨d, hd, rfl⟩
    exact ⟨d.checksum, hd⟩
  · rintro ⟨checksum, hd⟩
    exact ⟨_, hd, rfl⟩

theorem Built.decode (h : s.Built c) (hrange : s.InRange) :
    decode c s.canonicalWire = .ok s := by
  unfold Built at h
  rw [tryNew_eq] at h
  obtain ⟨haccepted, checksum, hframed⟩ := (tryNewForPayloadVersion_ok c _ _ s).1 h
  exact (decode_ok c _ s).2 ⟨checksum, decodeForPayloadVersion_wire (by decide) haccepted hframed hrange
    fun hv => absurd rfl hv⟩

theorem decode_built (h : RuntimeJournalSnapshot.decode c frame = .ok s) : s.Built c ∧ s.canonicalWire = frame := by
  obtain ⟨checksum, hd⟩ := (decode_ok c frame s).1 h
  obtain ⟨haccepted, hframed, hwire, _⟩ := decodeForPayloadVersion_ok hd
  unfold Built
  rw [tryNew_eq]
  exact ⟨(tryNewForPayloadVersion_ok c _ _ s).2 ⟨haccepted, checksum, hframed⟩, hwire⟩

/-- **No accepted frame is a proper part of another**: the first bytes announce the length. -/
theorem decode_part {frame' : Bytes} {s' : RuntimeJournalSnapshot}
    (h : RuntimeJournalSnapshot.decode c frame = .ok s) (h' : RuntimeJournalSnapshot.decode c frame' = .ok s')
    (hpart : frame <+: frame') : frame = frame' := by
  obtain ⟨checksum, hd⟩ := (decode_ok c frame s).1 h
  obtain ⟨checksum', hd'⟩ := (decode_ok c frame' s').1 h'
  obtain ⟨_, hframed, hwire, _⟩ := decodeForPayloadVersion_ok hd
  obtain ⟨_, hframed', hwire', _⟩ := decodeForPayloadVersion_ok hd'
  dsimp only at hframed hwire hframed' hwire'
  subst hwire hwire'
  obtain ⟨t, ht⟩ := hpart
  have hheaders : s.canonicalWire.take headerWithoutChecksumBytes = s'.canonicalWire.take headerWithoutChecksumBytes := by
    have hlong : headerWithoutChecksumBytes ≤ s.canonicalWire.length :=
      le_trans (by decide) (le_trans (Nat.le_add_right headerBytes _) hframed.length.ge)
    rw [← ht, List.take_append_of_le_length hlong]
  rw [hframed.header, hframed'.header] at hheaders
  have hlength := snapshotHeader_payload hframed.fits hframed'.fits hheaders
  refine List.IsPrefix.eq_of_length ⟨t, ht⟩ ?_
  rw [hframed.length, hframed'.length, hlength]

theorem decode_error_of_not_ok
    (h : ∀ s, RuntimeJournalSnapshot.decode c frame ≠ .ok s) : ∃ e, RuntimeJournalSnapshot.decode c frame = .error e := by
  cases hd : RuntimeJournalSnapshot.decode c frame with
  | error e => exact ⟨e, rfl⟩
  | ok s => exact absurd hd (h s)

/-- **The journal codec is exact.**  A snapshot `try_new` accepts decodes from its own frame to itself; an accepted frame
is the canonical frame of what it decodes to; so two frames of one snapshot are equal, no frame is a proper part of
another, and every frame that is not canonical is refused with an error. -/
theorem snapshot_codec_exact (c : Contracts) :
    (∀ store owner sequence state s, sequence ≤ u64Max → Fits state.words →
      tryNew c store owner sequence state = .ok s →
        ∃ decoded, RuntimeJournalSnapshot.decode c s.canonicalWire = .ok decoded ∧ decoded.storeInstanceId = store ∧
          decoded.ownerTargetFingerprint = owner ∧ decoded.sequence = sequence ∧ decoded.state = state) ∧
    (∀ frame s, RuntimeJournalSnapshot.decode c frame = .ok s →
      ∃ built, tryNew c s.storeInstanceId s.ownerTargetFingerprint s.sequence s.state = .ok built ∧
        built.canonicalWire = frame) ∧
    (∀ frame frame' s s', RuntimeJournalSnapshot.decode c frame = .ok s →
      RuntimeJournalSnapshot.decode c frame' = .ok s' → s.storeInstanceId = s'.storeInstanceId →
        s.ownerTargetFingerprint = s'.ownerTargetFingerprint → s.sequence = s'.sequence → s.state = s'.state →
          frame = frame') ∧
    (∀ frame frame' s, RuntimeJournalSnapshot.decode c frame = .ok s → frame ≠ frame' →
      frame <+: frame' ∨ frame' <+: frame → ∃ e, RuntimeJournalSnapshot.decode c frame' = .error e) ∧
    (∀ frame, (∀ store owner sequence state s, tryNew c store owner sequence state = .ok s → s.canonicalWire ≠ frame) →
      ∃ e, RuntimeJournalSnapshot.decode c frame = .error e) := by
  refine ⟨?_, ?_, ?_, ?_, ?_⟩
  · intro store owner sequence state s hsequence hwords hs
    obtain ⟨hbuilt, rfl, rfl, rfl, rfl⟩ := tryNew_built hs
    exact ⟨s, hbuilt.decode ⟨hsequence, hwords⟩, rfl, rfl, rfl, rfl⟩
  · intro frame s hs
    obtain ⟨hbuilt, hwire⟩ := decode_built hs
    exact ⟨s, hbuilt, hwire⟩
  · intro frame frame' s s' hs hs' hstore howner hsequence hstate
    obtain ⟨hbuilt, rfl⟩ := decode_built hs
    obtain ⟨hbuilt', rfl⟩ := decode_built hs'
    unfold Built at hbuilt hbuilt'
    rw [hstore, howner, hsequence, hstate, hbuilt'] at hbuilt
    rw [Except.ok.inj hbuilt]
  · intro frame frame' s hs hne hpart
    refine decode_error_of_not_ok fun s' hs' => hne ?_
    rcases hpart with hpart | hpart
    · exact decode_part hs hs' hpart
    · exact (decode_part hs' hs hpart).symm
  · intro frame hcanonical
    refine decode_error_of_not_ok fun s hs => ?_
    obtain ⟨hbuilt, hwire⟩ := decode_built hs
    exact hcanonical _ _ _ _ s hbuilt hwire

theorem interrupted_inRange {run : Sample.InterruptedRun} (hrun : Sample.interruptedRun = .ok run) :
    run.cut.sequence ≤ u64Max ∧ Fits run.cut.state.words := by
  have hall : (match Sample.interruptedRun with
      | .ok run => decide (run.cut.sequence ≤ u64Max) && run.cut.state.words.all (decide <| · ≤ u64Max)
      | .error _ => false) = true := by decide +kernel
  rw [hrun] at hall
  simp only [Bool.and_eq_true, decide_eq_true_eq, List.all_eq_true] at hall
  exact hall

/-- The interrupted snapshot, with its prepared operation and latched facts, decodes from its frame. -/
theorem snapshot_codec_exact_interrupted : ∃ run, Sample.interruptedRun = .ok run ∧
    (∃ decoded, RuntimeJournalSnapshot.decode Sample.contracts run.cut.canonicalWire = .ok decoded ∧
      decoded.state = run.cut.state) ∧
    ∃ e, RuntimeJournalSnapshot.decode Sample.contracts (run.cut.canonicalWire ++ [0]) = .error e := by
  obtain ⟨run, hrun, hfirst, hmid, hcut, _⟩ := Sample.interruptedRun_ok
  have hbuilt : run.cut.Built Sample.contracts := (Builder.call_step hcut).built
  obtain ⟨hsequence, hwords⟩ := interrupted_inRange hrun
  obtain ⟨hforward, _, _, hparts, _⟩ := snapshot_codec_exact Sample.contracts
  obtain ⟨decoded, hdecoded, _, _, _, hstate⟩ := hforward _ _ _ _ run.cut hsequence hwords hbuilt
  refine ⟨run, hrun, ⟨decoded, hdecoded, hstate⟩, hparts _ _ decoded hdecoded ?_ (.inl (List.prefix_append _ _))⟩
  intro heq
  simpa using congrArg List.length heq

end RuntimeJournalSnapshot
end Journal
end ParaEgox
