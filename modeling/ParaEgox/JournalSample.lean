import ParaEgox.JournalTerminal

/-!
# JournalSample — one concrete instance of the contracts

A polynomial stand-in for the hash, request wires of eight bytes and receipts of fixed-width fields, and the inputs a
small Runtime run hands to the builders.  The results are witnessed on runs over this instance.
-/
namespace ParaEgox
namespace Sample

open Check Journal RuntimeJournalSnapshot

/-! ## The hash -/

def modulus : Nat := 0x8000000000000000000000000000000000000000000000000000000000000000

def mix (acc byte : Nat) : Nat := Nat.mod (Nat.add (Nat.mul acc 257) (Nat.succ byte)) modulus

def absorb : Bytes → Nat → Nat
  | [], acc => acc
  | b :: bytes, 0 => absorb bytes (mix 0 b.toNat)
  | b :: bytes, acc + 1 => absorb bytes (mix (acc + 1) b.toNat)

def hash (bytes : Bytes) : Digest32 := .ofNat (absorb bytes 1 % modulus + 1)

theorem hash_ne_zero (bytes : Bytes) : hash bytes ≠ 0 := by
  intro h
  have hval : (absorb bytes 1 % modulus + 1) % 2 ^ 256 = 0 := congrArg Fin.val h
  have hlt : absorb bytes 1 % modulus < modulus := Nat.mod_lt _ (by decide)
  have hbound : absorb bytes 1 % modulus + 1 < 2 ^ 256 := lt_of_le_of_lt hlt (by decide)
  rw [Nat.mod_eq_of_lt hbound] at hval
  cases hval

/-! ## Requests -/

def store : Id32 := .ofNat 7
def owner : Digest32 := .ofNat 8
def scope : Ref16 := .ofNat 9
def target : Ref16 := .ofNat 10
def clockDomain : Ref16 := .ofNat 11
def runtimePeer : Ref16 := .ofNat 26
def manifest : OpaqueCanonicalValue := ⟨[1], .ofNat 12⟩
def descriptor : OpaqueCanonicalValue := ⟨[2], .ofNat 13⟩

def sequenceOne : RuntimeJournalSequenceOne where
  clockDomain := clockDomain
  buildDescriptor := descriptor
  singletonManifest := manifest
  storePinnedBuildIdentity := ⟨.ofNat 14, .ofNat 13, .ofNat 15, .ofNat 16⟩
  compiledBuildInstanceId := .ofNat 14
  compiledCompatibilityDigest := .ofNat 16
  admissionPolicyFingerprint := .ofNat 17
  channelPolicyFingerprint := .ofNat 18
  controllerKeyFingerprint := .ofNat 19

def modeOf (n : Nat) : ReferenceAssemblyMode := if n = 0 then .oneSourceLoop else .emptyDeactivate

def provenance (revision : Nat) : PlanProvenance := ⟨scope, .ofNat 20, revision, .ofNat (100 + revision)⟩

def sliceDigest (revision mode : Nat) : TargetSliceDigest :=
  match runtimeSliceCommitment hash ⟨target, provenance revision, .ofNat (200 + mode)⟩ with
  | .ok d => d
  | .error _ => 0

def casOfBytes (revision mode : Nat) : ExpectedActive :=
  if revision = 0 then .none else .exact (sliceDigest revision mode)

def tenureProof (epoch supersedes : Nat) : Option WriterTenureProof :=
  if h : epoch ≠ 0 ∧ supersedes < epoch then
    some ⟨.ofNat 21, .ofNat 22, 1, 1, scope, .ofNat 23, epoch, supersedes, [UInt8.ofNat epoch], [3], h.1, h.2⟩
  else none

def execution (mode : Nat) : ReferenceTargetExecution where
  mode := modeOf mode
  target := target
  manifestDigest := manifest.digest
  loopFacts := if mode = 0 then some ⟨.ofNat 30, .ofNat 31, ⟨100, 200, 300⟩⟩ else none

/-- A request wire: operation, mode, revision, tenure epoch, superseded epoch, expected revision and mode, clock
generation. -/
def decodeRequest : Bytes → Option ReferenceApplyRequest
  | [operation, mode, revision, epoch, supersedes, casRevision, casMode, generation] => do
    let proof ← tenureProof epoch.toNat supersedes.toNat
    some
      { canonicalWire := [operation, mode, revision, epoch, supersedes, casRevision, casMode, generation]
        canonicalSliceWire := [revision, mode]
        envelopeRequestDigest := hash [operation, mode, revision, epoch, supersedes, casRevision, casMode, generation]
        expectedRuntimeStoreInstanceId := store
        target := target
        provenance := provenance revision.toNat
        assignmentDigest := .ofNat (200 + mode.toNat)
        targetSliceDigest := sliceDigest revision.toNat mode.toNat
        operationId := .ofNat operation.toNat
        expectedActive := casOfBytes casRevision.toNat casMode.toNat
        proof := proof
        authentication := ⟨.ofNat 24, .ofNat 25, 1, 1, [operation]⟩
        temporal := ⟨.ofNat (300 + operation.toNat), clockDomain, generation.toNat, 1000, 1000⟩
        execution := execution mode.toNat }
  | _ => none

/-! ## Receipts -/

/-- A big-endian number of `width` bytes and the rest. -/
def readNat (width : Nat) (bytes : Bytes) : Nat × Bytes :=
  ((bytes.take width).foldl (fun acc b => acc * 256 + b.toNat) 0, bytes.drop width)

def outcomeOf : Nat → ReferenceApplyTerminalOutcome
  | 1 => .oneSourceLoopActive
  | 2 => .emptyDeactivateExactZero
  | 3 => .startTimedOutBeforeIntentNoEffects
  | 4 => .stopTimedOutBeforeHeadCommitNoEffects
  | 5 => .startFailedBeforeHeadCommitExactZero
  | 6 => .startTimedOutBeforeHeadCommitExactZero
  | 7 => .stopFailedButExactZero
  | 8 => .timedOutButExactZero
  | 9 => .abortedBeforeIntentNoEffects
  | 10 => .abortedBeforeHeadCommitExactZero
  | 11 => .supersededAfterIntentExactZero
  | _ => .interruptedButNowExactZero

def lifecycleOf (n : Nat) : ReferenceApplyTerminalLifecycleEffect :=
  if n = 1 then .provenNotStarted else .mayHaveStarted

def headOf (tag digest : Nat) : ReferenceApplyTerminalHead :=
  if tag = 0 then .preservedNone else if tag = 1 then .preservedExisting (.ofNat digest) else .committedIncoming

/-- A receipt wire: the previewed facts, the operation and the response channel, in fixed-width fields. -/
def encodeReceipt (preview : RuntimeTerminalPreview) (incoming : TargetSliceDigest) (operation : Ref16)
    (requestDigest channel : Digest32) : Bytes :=
  let head : Nat × Digest32 := match preview.headDisposition with
    | .preserved none => (0, 0)
    | .preserved (some d) => (1, d)
    | .committedIncoming => (2, incoming)
  bytesBE 1 preview.outcome.code ++ bytesBE 1 preview.lifecycleEffect.code ++ bytesBE 1 head.1 ++ head.2.asBytes
    ++ preview.resourceCensusDigest.asBytes ++ preview.rawOutcomeDigest.asBytes
    ++ bytesBE 8 preview.completionRuntimeHostEpoch ++ bytesBE 8 preview.completionSnapshotSequence
    ++ bytesBE 8 preview.selectionClockGeneration ++ bytesBE 8 preview.selectionObservedAtNanos
    ++ operation.asBytes ++ requestDigest.asBytes ++ channel.asBytes

def decodeReceipt (bytes : Bytes) : Option ReferenceApplyTerminalReceipt :=
  let (outcome, rest) := readNat 1 bytes
  let (lifecycle, rest) := readNat 1 rest
  let (tag, rest) := readNat 1 rest
  let (head, rest) := readNat 32 rest
  let (census, rest) := readNat 32 rest
  let (raw, rest) := readNat 32 rest
  let (epoch, rest) := readNat 8 rest
  let (completion, rest) := readNat 8 rest
  let (generation, rest) := readNat 8 rest
  let (observed, rest) := readNat 8 rest
  let (operation, rest) := readNat 16 rest
  let (request, rest) := readNat 32 rest
  let (channel, rest) := readNat 32 rest
  if rest = [] ∧ bytes.length = 211 then
    some
      { canonicalWire := bytes
        receiptDigest := hash bytes
        runtimeStoreInstanceId := store
        sourceScope := scope
        operationId := .ofNat operation
        requestDigest := .ofNat request
        target := target
        requestNonce := [UInt8.ofNat operation]
        facts :=
          { outcome := outcomeOf outcome
            lifecycleEffect := lifecycleOf lifecycle
            head := headOf tag head
            desiredHeadDigest := if tag = 0 then none else some (.ofNat head)
            resourceCensusDigest := .ofNat census
            rawOutcomeDigest := .ofNat raw
            completionRuntimeHostEpoch := epoch
            completionSnapshotSequence := completion
            selectionClockGeneration := generation
            selectionObservedAtNanos := observed }
        authenticationRuntimePeer := runtimePeer
        authenticationChannelBindingDigest := .ofNat channel }
  else none

def contracts : Contracts :=
  ⟨hash, decodeRequest, decodeReceipt, fun bytes digest r => bytes = manifest.canonicalBytes ∧ digest = manifest.digest
    ∧ r.execution.manifestDigest = digest⟩

/-! ## The inputs of a run -/

/-- The response channel of a socket. -/
def channelAt (endpoint : Nat) : ReferenceChannelBinding :=
  match ReferenceChannelBinding.tryNew hash target runtimePeer (.ofNat endpoint) (.ofNat 28) with
  | .ok binding => binding
  | .error _ => ⟨0, 0, 0, 0, 0⟩

def channel : ReferenceChannelBinding := channelAt 27

def ingress (request : ReferenceApplyRequest) : ReferenceApplyIngressIdentities :=
  match referenceApplyIngressIdentities hash request with
  | .ok identities => identities
  | .error _ => ⟨0, 0, 0⟩

def proofDigest (request : ReferenceApplyRequest) : Digest32 :=
  match request.proof.envelopeDigest hash with
  | .ok d => d
  | .error _ => 0

def tenureInput (request : ReferenceApplyRequest) : RuntimeTenureAdmissionInput where
  expectedStoreInstanceId := store
  ownerTargetFingerprint := owner
  sourceScope := scope
  writer := request.proof.writer
  epoch := request.proof.epoch
  supersedesThroughEpoch := request.proof.supersedesThroughEpoch
  proofEnvelopeDigest := proofDigest request
  tenureNonceIdentity := (ingress request).tenureNonceIdentity
  principal := request.authentication.principal

def admissionInput (request : ReferenceApplyRequest) (now : U64) : RuntimeApplyAdmissionInput where
  tenure := tenureInput request
  request := ⟨request.canonicalWire, request.envelopeRequestDigest⟩
  requestNonceIdentity := (ingress request).requestNonceIdentity
  operationId := request.operationId
  sliceProvenance := ⟨request.target, request.provenance.sourceScope, request.provenance.sourcePlan,
    request.provenance.sourceRevision, request.provenance.sourcePlanDigest, request.assignmentDigest,
    request.targetSliceDigest⟩
  sourceRevision := request.provenance.sourceRevision
  sourcePlanDigest := request.provenance.sourcePlanDigest
  incomingSliceDigest := request.targetSliceDigest
  incomingKind := kindOf request.execution.mode
  manifestDigest := request.execution.manifestDigest
  expectedActive := casOf request.expectedActive
  temporal :=
    { constraintId := request.temporal.constraintId
      originalBudgetNanos := request.temporal.originalBudget
      remainingBudgetNanos := request.temporal.remainingBudget
      installedClockGeneration := request.temporal.targetClockGeneration
      installedDeadlineNanos := now + request.temporal.remainingBudget
      lineageDigest := (ingress request).temporalLineageDigest }
  responseChannel := channel

def slice (request : ReferenceApplyRequest) : OpaqueCanonicalValue :=
  ⟨request.canonicalSliceWire, request.targetSliceDigest⟩

def refs : RuntimeOneSourceResourceRefs := ⟨.ofNat 30, .ofNat 31⟩

def evidence (n : Nat) : OpaqueCanonicalValue := ⟨[UInt8.ofNat n], .ofNat (400 + n)⟩

def ownership : RuntimeOneSourceOwnershipInput :=
  ⟨⟨refs.loopDomain, evidence 1, evidence 2, evidence 3⟩, ⟨refs.cardInstance, evidence 4, evidence 5, evidence 6⟩⟩

def tombstones : RuntimeOneSourceTombstonesInput := ⟨⟨refs.loopDomain, evidence 7⟩, ⟨refs.cardInstance, evidence 8⟩⟩

def startInput (actionId generation : Nat) (observation : RuntimeDeadlineObservation) : RuntimeStartActionInput :=
  ⟨.ofNat actionId, generation, generation, generation, observation⟩

def terminalInput (request : ReferenceApplyRequest) (observation : RuntimeDeadlineObservation)
    (preview : RuntimeTerminalPreview) : RuntimeTerminalInput :=
  let wire := encodeReceipt preview request.targetSliceDigest request.operationId request.envelopeRequestDigest
    channel.bindingDigest
  ⟨⟨wire, hash wire⟩, observation⟩

/-! ## Runs -/

def initialized : Res RuntimeJournalSnapshot := tryInitialize contracts store owner sequenceOne

def request (wire : Bytes) : Res ReferenceApplyRequest := okOr (decodeRequest wire) .danglingReference

def admission (wire : Bytes) (now : U64) : Res (List Builder) := do
  let r ← request wire
  pure [.tenureOnly (tenureInput r), .fullAdmission (admissionInput r now)]

def start (actionId generation : Nat) (observation : RuntimeDeadlineObservation) : List Builder :=
  [.oneSourceIntent (startInput actionId generation observation), .reserveOneSourceResources refs]

/-- The request of the runs: operation 1 starts revision 1 over no head, in tenure 1 and clock generation 1. -/
def startWire : Bytes := [1, 0, 1, 1, 0, 0, 0, 1]

/-- A start with reserved resources, the restart that interrupts it, and its closing terminal. -/
structure InterruptedRun where
  first : RuntimeJournalSnapshot
  builders : List Builder
  mid : RuntimeJournalSnapshot
  cut : RuntimeJournalSnapshot
  closing : Builder
  last : RuntimeJournalSnapshot

def interruptedRun : Res InterruptedRun := do
  let first ← initialized
  let admitting ← admission startWire 5
  let builders := .startupInvalidation :: admitting ++ start 50 1 ⟨1, 10⟩
  let mid ← runBuilders contracts first builders
  let cut ← mid.tryStartupInvalidationSuccessor contracts
  rejectIf (mid.state.prepared.isNone ∨ cut.state.lastTransaction ≠ .startupInvalidation
    ∨ ¬ cut.state.prepared.any fun p => p.action.isSome && p.rawOutcome.isSome) .danglingReference
  let r ← request startWire
  let preview ← cut.tryPreviewStartupInterruptedStartTerminal contracts (some tombstones) ⟨2, 20⟩
  let closing : Builder := .startupInterruptedStart (some tombstones) (terminalInput r ⟨2, 20⟩ preview)
  let last ← closing.call contracts cut
  pure ⟨first, builders, mid, cut, closing, last⟩

/-- **The interrupted run succeeds**: the restart finds an open start and leaves it latched. -/
theorem interruptedRun_ok : ∃ run, interruptedRun = .ok run ∧ Initial contracts run.first ∧
    runBuilders contracts run.first run.builders = .ok run.mid ∧
    Builder.call contracts run.mid .startupInvalidation = .ok run.cut ∧
    run.closing.call contracts run.cut = .ok run.last ∧
    (∃ p, run.mid.state.prepared = some p) ∧ run.cut.state.lastTransaction = .startupInvalidation ∧
    ∃ p action raw, run.cut.state.prepared = some p ∧ p.action = some action ∧ p.rawOutcome = some raw := by
  have hok : interruptedRun.isOk = true := by decide +kernel
  cases hrun : interruptedRun with
  | error e => rw [hrun] at hok; cases hok
  | ok run =>
    refine ⟨run, rfl, ?_⟩
    simp only [interruptedRun, bind_ok, rejectIf_ok, exists_unit, pure_ok, not_or, not_not, ne_eq,
      Option.isNone_iff_eq_none, Option.ne_none_iff_exists'] at hrun
    obtain ⟨first, hfirst, admitting, hadmitting, mid, hmid, cut, hcut, ⟨hopen, htransaction, hlatch⟩, r, hr, preview,
      hpreview, last, hlast, rfl⟩ := hrun
    refine ⟨⟨store, owner, sequenceOne, hfirst⟩, hmid, hcut, hlast, hopen, htransaction, ?_⟩
    obtain ⟨p, hp, hboth⟩ := (Option.any_eq_true _ _).1 hlatch
    rw [Bool.and_eq_true, Option.isSome_iff_exists, Option.isSome_iff_exists] at hboth
    obtain ⟨⟨action, haction⟩, raw, hraw⟩ := hboth
    exact ⟨p, action, raw, hp, haction, hraw⟩

def emptyWire : Bytes := [1, 1, 1, 1, 0, 0, 0, 1]

/-- A run up to the terminal that commits a head. -/
structure HeadRun where
  first : RuntimeJournalSnapshot
  builders : List Builder
  mid : RuntimeJournalSnapshot
  closing : Builder
  last : RuntimeJournalSnapshot

/-- An empty deactivation over no head, admitted and closed on the exact-zero fast path. -/
def emptyHeadRun : Res HeadRun := do
  let first ← initialized
  let admitting ← admission emptyWire 5
  let builders := .startupInvalidation :: admitting
  let mid ← runBuilders contracts first builders
  let r ← request emptyWire
  let preview ← mid.tryPreviewEmptyExactZeroFastPath contracts ⟨1, 20⟩
  let closing : Builder := .emptyExactZeroFastPath (slice r) (terminalInput r ⟨1, 20⟩ preview)
  let last ← closing.call contracts mid
  pure ⟨first, builders, mid, closing, last⟩

/-- Operation 2 starts revision 2 over exactly the empty head. -/
def replacingWire : Bytes := [2, 0, 2, 1, 0, 1, 1, 1]

def replacingRun : Res HeadRun := do
  let run ← emptyHeadRun
  let r ← request replacingWire
  let builders := run.builders ++ run.closing :: .fullAdmission (admissionInput r 30) :: start 50 1 ⟨1, 40⟩
    ++ [.ownOneSourceResources ownership]
  let mid ← runBuilders contracts run.first builders
  let preview ← mid.tryPreviewOneSourceSuccessTerminal contracts (.ofNat 50) ⟨1, 50⟩
  let closing : Builder := .oneSourceSuccess (slice r) (.ofNat 50) (terminalInput r ⟨1, 50⟩ preview)
  let last ← closing.call contracts mid
  rejectIf (mid.state.activeHead = none ∨ last.state.activeHead = mid.state.activeHead) .danglingReference
  pure ⟨run.first, builders, mid, closing, last⟩

/-- **The replacing run succeeds**: the start commits its slice over the head that the empty deactivation left. -/
theorem replacingRun_ok : ∃ run, replacingRun = .ok run ∧ Initial contracts run.first ∧
    runBuilders contracts run.first run.builders = .ok run.mid ∧ run.closing.call contracts run.mid = .ok run.last ∧
    run.mid.state.activeHead ≠ none ∧ run.last.state.activeHead ≠ run.mid.state.activeHead := by
  have hok : replacingRun.isOk = true := by decide +kernel
  cases hrun : replacingRun with
  | error e => rw [hrun] at hok; cases hok
  | ok run =>
    refine ⟨run, rfl, ?_⟩
    simp only [replacingRun, emptyHeadRun, bind_ok, rejectIf_ok, exists_unit, pure_ok, not_or] at hrun
    obtain ⟨_, ⟨first, hfirst, _, _, _, _, _, _, _, _, _, _, rfl⟩, r, hr, mid, hmid, preview, hpreview, last, hlast,
      ⟨hhead, hmoved⟩, rfl⟩ := hrun
    exact ⟨⟨store, owner, sequenceOne, hfirst⟩, hmid, hlast, hhead, hmoved⟩

end Sample
end ParaEgox
