import ParaEgox.Contracts
import ParaEgox.TaggedFrame

/-!
# TerminalReceipt — the signed terminal receipt of an apply operation

The facts a receipt carries and the tables of which outcome goes with which mode, lifecycle effect and desired head; the
draft that is signed, the receipt, and its strict decoder.
-/
namespace ParaEgox
namespace Receipt

open Check Tlv Tagged
open Frames (Fault Res)

inductive ReferenceContractError
  | invalidShape
  | invalidBound
  | invalidCompatibility
  | targetMismatch
  | requestFrameTooLarge
  | digest (e : DigestBuildError)

inductive ReferenceWireErrorCode
  | frameTooLarge
  | truncated
  | invalidMagic
  | unsupportedVersion
  | missingField
  | unknownField
  | duplicateField
  | outOfOrderField
  | invalidFieldLength
  | trailingBytes
  | invalidFieldValue
  | invalidPresence
  | invalidSignatureField
  | digestMismatch
  | targetMismatch
  | runtimeStoreMismatch
  | crossReferenceMismatch
  | nonCanonicalFrame

structure ReferenceWireError where
  code : ReferenceWireErrorCode
  detail : Option Nat

def ReferenceWireError.new (code : ReferenceWireErrorCode) : ReferenceWireError := ⟨code, none⟩
def ReferenceWireError.detailed (code : ReferenceWireErrorCode) (detail : Nat) : ReferenceWireError := ⟨code, some detail⟩

def maxApplyAuthNonceV2Bytes : Nat := 64
def maxControlReadSignatureBytes : Nat := 512
def maxRuntimeApplyTerminalReceiptBytes : Nat := 2048
def runtimeApplyTerminalReceiptMagic : Bytes := Text.bytes (s := "PXRT") ⟨_, by conv => rhs; simp [ascii]⟩
def runtimeApplyTerminalReceiptVersion : Nat := 1
def applyTerminalReceiptFieldCount : Nat := 23
def applyTerminalReceiptSigningTranscriptVersion : Nat := 1
def applyTerminalReceiptSigningFieldCount : Nat := 22

def signingTranscriptMagic : Bytes :=
  Text.bytes (s := "ParaEGOX\x00canonical-signing-transcript") ⟨_, by conv => rhs; simp [ascii]⟩
def applyTerminalReceiptSigningDomain : Bytes :=
  Text.bytes (s := "paraegox.runtime.apply-terminal-receipt.response-auth.signing.v1") ⟨_, by conv => rhs; simp [ascii]⟩
def applyTerminalReceiptDigestDomain : Bytes :=
  Text.bytes (s := "paraegox.runtime.apply-terminal-receipt.sha256.v1") ⟨_, by conv => rhs; simp [ascii]⟩
def applyTerminalResultRefDomain : Bytes :=
  Text.bytes (s := "paraegox.runtime.apply-terminal-result-ref.sha256.v1") ⟨_, by conv => rhs; simp [ascii]⟩

def digestOf (sha256 : Sha256) (domain : Bytes) (fields : List Bytes) : Except ReferenceContractError Digest32 :=
  wrapErr .digest (digest32 sha256 domain fields)

theorem front16_length (d : Digest32) : (d.asBytes.take 16).length = 16 := by simp

def front16 (d : Digest32) : {bs : Bytes // bs.length = 16} := ⟨d.asBytes.take 16, front16_length d⟩

def deriveForApply (sha256 : Sha256) (target : Ref16) (store : Id32) (sourceScope operationId : Ref16)
    (requestDigest : Digest32) : Except ReferenceContractError Ref16 := do
  let digest ← digestOf sha256 applyTerminalResultRefDomain
    [bytesBE 2 runtimeApplyTerminalReceiptVersion, target.asBytes, store.asBytes, sourceScope.asBytes,
      operationId.asBytes, requestDigest.asBytes]
  rejectIf ((front16 digest).val.all (· = 0) = true) .invalidCompatibility
  pure (Ref16.fromBytes (front16 digest))

/-! ## The shape tables -/

inductive RuntimeApplyTerminalHead
  | preservedNone
  | preservedExisting (digest : TargetSliceDigest)
  | committedIncoming (digest : TargetSliceDigest)

namespace RuntimeApplyTerminalHead

def disposition : RuntimeApplyTerminalHead → Nat
  | preservedNone => 1
  | preservedExisting _ => 2
  | committedIncoming _ => 3

def desiredHeadDigest : RuntimeApplyTerminalHead → Option TargetSliceDigest
  | preservedNone => none
  | preservedExisting digest | committedIncoming digest => some digest

def commitsIncoming : RuntimeApplyTerminalHead → Bool
  | committedIncoming _ => true
  | _ => false

end RuntimeApplyTerminalHead

def applyTerminalOutcomeAcceptsMode (outcome : ReferenceApplyTerminalOutcome) : ReferenceAssemblyMode → Bool
  | .oneSourceLoop => match outcome with
    | .oneSourceLoopActive
    | .startTimedOutBeforeIntentNoEffects
    | .startFailedBeforeHeadCommitExactZero
    | .startTimedOutBeforeHeadCommitExactZero
    | .abortedBeforeIntentNoEffects
    | .abortedBeforeHeadCommitExactZero
    | .supersededAfterIntentExactZero => true
    | _ => false
  | .emptyDeactivate => match outcome with
    | .emptyDeactivateExactZero
    | .stopTimedOutBeforeHeadCommitNoEffects
    | .stopFailedButExactZero
    | .timedOutButExactZero
    | .abortedBeforeIntentNoEffects
    | .supersededAfterIntentExactZero
    | .interruptedButNowExactZero => true
    | _ => false

def applyTerminalOutcomeCommitsIncoming (outcome : ReferenceApplyTerminalOutcome) : ReferenceAssemblyMode → Bool
  | .oneSourceLoop => match outcome with
    | .oneSourceLoopActive => true
    | _ => false
  | .emptyDeactivate => match outcome with
    | .emptyDeactivateExactZero
    | .stopFailedButExactZero
    | .timedOutButExactZero
    | .supersededAfterIntentExactZero
    | .interruptedButNowExactZero => true
    | _ => false

def applyTerminalLifecycleIsValid (outcome : ReferenceApplyTerminalOutcome)
    (lifecycle : ReferenceApplyTerminalLifecycleEffect) : Bool :=
  match outcome with
  | .oneSourceLoopActive
  | .startFailedBeforeHeadCommitExactZero
  | .stopFailedButExactZero => lifecycle = .mayHaveStarted
  | .startTimedOutBeforeIntentNoEffects
  | .stopTimedOutBeforeHeadCommitNoEffects
  | .abortedBeforeIntentNoEffects => lifecycle = .provenNotStarted
  | .emptyDeactivateExactZero
  | .startTimedOutBeforeHeadCommitExactZero
  | .timedOutButExactZero
  | .abortedBeforeHeadCommitExactZero
  | .supersededAfterIntentExactZero
  | .interruptedButNowExactZero => true

def applyTerminalHeadIsPotentiallyValid (outcome : ReferenceApplyTerminalOutcome) (commitsIncoming : Bool) : Bool :=
  match outcome with
  | .oneSourceLoopActive
  | .emptyDeactivateExactZero
  | .stopFailedButExactZero
  | .timedOutButExactZero
  | .interruptedButNowExactZero => commitsIncoming
  | .startTimedOutBeforeIntentNoEffects
  | .stopTimedOutBeforeHeadCommitNoEffects
  | .startFailedBeforeHeadCommitExactZero
  | .startTimedOutBeforeHeadCommitExactZero
  | .abortedBeforeIntentNoEffects
  | .abortedBeforeHeadCommitExactZero => !commitsIncoming
  | .supersededAfterIntentExactZero => true

/-- The checks that name the mode: its outcomes, what they commit, and that only the incoming slice is committed. -/
def validateTerminalMode (outcome : ReferenceApplyTerminalOutcome) (head : RuntimeApplyTerminalHead)
    (incomingSliceDigest : Option TargetSliceDigest) (mode : ReferenceAssemblyMode) : Except ReferenceContractError Unit := do
  rejectIf (applyTerminalOutcomeAcceptsMode outcome mode = false
    ∨ applyTerminalOutcomeCommitsIncoming outcome mode ≠ head.commitsIncoming) .invalidShape
  match head with
  | .committedIncoming committed => rejectIf (incomingSliceDigest ≠ some committed) .invalidShape
  | _ => .ok ()

def validateApplyTerminalShape (outcome : ReferenceApplyTerminalOutcome) (lifecycle : ReferenceApplyTerminalLifecycleEffect)
    (head : RuntimeApplyTerminalHead) (mode : Option ReferenceAssemblyMode) (incomingSliceDigest : Option TargetSliceDigest) :
    Except ReferenceContractError Unit := do
  rejectIf (applyTerminalLifecycleIsValid outcome lifecycle = false
    ∨ applyTerminalHeadIsPotentiallyValid outcome head.commitsIncoming = false
    ∨ head.desiredHeadDigest = some 0) .invalidShape
  whenSome mode (validateTerminalMode outcome head incomingSliceDigest)

/-! ## Facts -/

structure RuntimeApplyTerminalFacts where
  outcome : ReferenceApplyTerminalOutcome
  lifecycleEffect : ReferenceApplyTerminalLifecycleEffect
  head : RuntimeApplyTerminalHead
  resourceCensusDigest : Digest32
  rawOutcomeDigest : Digest32
  completionRuntimeHostEpoch : U64
  completionSnapshotSequence : U64
  selectionClockGeneration : U64
  selectionObservedAtNanos : U64
  terminalResultRef : Ref16

structure ReceiptSubject where
  target : Ref16
  store : Id32
  sourceScope : Ref16
  operationId : Ref16
  requestDigest : Digest32
  requestNonce : Bytes

/-- `apply_terminal_request_binding`, without the mode and the slice. -/
def requestSubject (request : ReferenceApplyRequest) : ReceiptSubject where
  target := request.target
  store := request.expectedRuntimeStoreInstanceId
  sourceScope := request.provenance.sourceScope
  operationId := request.operationId
  requestDigest := request.envelopeRequestDigest
  requestNonce := request.authentication.nonce

def deriveApplyTerminalResultRef (sha256 : Sha256) (subject : ReceiptSubject) : Except ReferenceContractError Ref16 :=
  deriveForApply sha256 subject.target subject.store subject.sourceScope subject.operationId subject.requestDigest

/-- `RuntimeHostEpoch::try_new` and `RuntimeSnapshotSequence::try_new`. -/
def nonzeroNumber (value : U64) : Except ReferenceContractError U64 := do
  rejectIf (value = 0) .invalidBound
  pure value

/-- `ReferenceApplyTerminalFactsV1::try_new`: an incoming head is the slice of the request. -/
def canonicalHead (request : ReferenceApplyRequest) : ReferenceApplyTerminalHead → RuntimeApplyTerminalHead
  | .preservedNone => .preservedNone
  | .preservedExisting digest => .preservedExisting digest
  | .committedIncoming => .committedIncoming request.targetSliceDigest

def RuntimeApplyTerminalFacts.tryNew (sha256 : Sha256) (request : ReferenceApplyRequest)
    (outcome : ReferenceApplyTerminalOutcome) (lifecycleEffect : ReferenceApplyTerminalLifecycleEffect)
    (head : ReferenceApplyTerminalHead) (resourceCensusDigest rawOutcomeDigest : Digest32)
    (completionRuntimeHostEpoch completionSnapshotSequence selectionClockGeneration selectionObservedAtNanos : U64) :
    Except ReferenceContractError RuntimeApplyTerminalFacts := do
  let completionRuntimeHostEpoch ← nonzeroNumber completionRuntimeHostEpoch
  let completionSnapshotSequence ← nonzeroNumber completionSnapshotSequence
  validateApplyTerminalShape outcome lifecycleEffect (canonicalHead request head) (some request.execution.mode)
    (some request.targetSliceDigest)
  rejectIf (resourceCensusDigest = 0 ∨ rawOutcomeDigest = 0 ∨ selectionObservedAtNanos = 0
    ∨ selectionClockGeneration < request.temporal.targetClockGeneration) .invalidShape
  let terminalResultRef ← deriveApplyTerminalResultRef sha256 (requestSubject request)
  pure { outcome, lifecycleEffect, head := canonicalHead request head, resourceCensusDigest, rawOutcomeDigest,
         completionRuntimeHostEpoch, completionSnapshotSequence, selectionClockGeneration, selectionObservedAtNanos,
         terminalResultRef }

/-! ## Authentication -/

structure RuntimeResponseAuthClaim where
  runtimePeer : Ref16
  channelBindingDigest : Digest32
  key : Ref16
  algorithm : Nat
  algorithmVersion : Nat

def RuntimeResponseAuthClaim.tryNew (runtimePeer : Ref16) (channelBindingDigest : Digest32) (key : Ref16)
    (algorithm algorithmVersion : Nat) : Except ReferenceContractError RuntimeResponseAuthClaim := do
  rejectIf (algorithmVersion = 0 ∨ channelBindingDigest = 0) .invalidBound
  pure ⟨runtimePeer, channelBindingDigest, key, algorithm, algorithmVersion⟩

structure RuntimeResponseAuthentication where
  claim : RuntimeResponseAuthClaim
  signature : Bytes

/-- `validate_nonce` and `validate_signature`. -/
def validateBounded (bytes : Bytes) (maximum : Nat) : Except ReferenceContractError Unit :=
  rejectIf (bytes = [] ∨ maximum < bytes.length) .invalidBound

def RuntimeResponseAuthentication.tryNew (claim : RuntimeResponseAuthClaim) (signature : Bytes) :
    Except ReferenceContractError RuntimeResponseAuthentication := do
  validateBounded signature maxControlReadSignatureBytes
  pure ⟨claim, signature⟩

/-! ## The draft and the receipt -/

def outcomeCode : ReferenceApplyTerminalOutcome → Nat
  | .oneSourceLoopActive => 1
  | .emptyDeactivateExactZero => 2
  | .startTimedOutBeforeIntentNoEffects => 3
  | .stopTimedOutBeforeHeadCommitNoEffects => 4
  | .startFailedBeforeHeadCommitExactZero => 5
  | .startTimedOutBeforeHeadCommitExactZero => 6
  | .stopFailedButExactZero => 7
  | .timedOutButExactZero => 8
  | .abortedBeforeIntentNoEffects => 9
  | .abortedBeforeHeadCommitExactZero => 10
  | .supersededAfterIntentExactZero => 11
  | .interruptedButNowExactZero => 12

def lifecycleCode : ReferenceApplyTerminalLifecycleEffect → Nat
  | .provenNotStarted => 1
  | .mayHaveStarted => 2

/-- `append_apply_terminal_receipt_fields`, without the signature. -/
def receiptValues (subject : ReceiptSubject) (facts : RuntimeApplyTerminalFacts) (claim : RuntimeResponseAuthClaim) :
    List Bytes :=
  [subject.target.asBytes, subject.store.asBytes, subject.sourceScope.asBytes, subject.operationId.asBytes,
    subject.requestDigest.asBytes, subject.requestNonce, bytesBE 2 (outcomeCode facts.outcome),
    bytesBE 2 (lifecycleCode facts.lifecycleEffect), bytesBE 2 facts.head.disposition,
    (facts.head.desiredHeadDigest.getD 0).asBytes, facts.resourceCensusDigest.asBytes, facts.rawOutcomeDigest.asBytes,
    bytesBE 8 facts.completionRuntimeHostEpoch, bytesBE 8 facts.completionSnapshotSequence,
    bytesBE 8 facts.selectionClockGeneration, bytesBE 8 facts.selectionObservedAtNanos, facts.terminalResultRef.asBytes,
    claim.runtimePeer.asBytes, claim.channelBindingDigest.asBytes, claim.key.asBytes, bytesBE 2 claim.algorithm,
    bytesBE 2 claim.algorithmVersion]

def buildSigningTranscript (subject : ReceiptSubject) (facts : RuntimeApplyTerminalFacts) (claim : RuntimeResponseAuthClaim) :
    Except ReferenceContractError Bytes := do
  let encoded := [signingTranscriptMagic, bytesBE 2 applyTerminalReceiptSigningTranscriptVersion,
    bytesBE 2 applyTerminalReceiptSigningDomain.length, applyTerminalReceiptSigningDomain,
    bytesBE 2 applyTerminalReceiptSigningFieldCount, tlvs 0 (receiptValues subject facts claim)].flatten
  rejectIf (maxRuntimeApplyTerminalReceiptBytes < encoded.length) .requestFrameTooLarge
  pure encoded

def validFieldLength (tag length : Nat) : Bool :=
  if tag ∈ [1, 3, 4, 17, 18, 20] then length = 16
  else if tag ∈ [2, 5, 10, 11, 12, 19] then length = 32
  else if tag = 6 then 1 ≤ length ∧ length ≤ maxApplyAuthNonceV2Bytes
  else if tag ∈ [7, 8, 9, 21, 22] then length = 2
  else if tag ∈ [13, 14, 15, 16] then length = 8
  else if tag = 23 then 1 ≤ length ∧ length ≤ maxControlReadSignatureBytes
  else false

def receiptFormat : Format where
  magic := runtimeApplyTerminalReceiptMagic
  version := runtimeApplyTerminalReceiptVersion
  fieldCount := applyTerminalReceiptFieldCount
  maximum := maxRuntimeApplyTerminalReceiptBytes
  validLength := validFieldLength

/-- `build_apply_terminal_receipt_wire`. -/
def buildReceiptWire (subject : ReceiptSubject) (facts : RuntimeApplyTerminalFacts)
    (authentication : RuntimeResponseAuthentication) : Bytes :=
  build receiptFormat (receiptValues subject facts authentication.claim ++ [authentication.signature])

structure RuntimeApplyTerminalReceipt where
  subject : ReceiptSubject
  facts : RuntimeApplyTerminalFacts
  authentication : RuntimeResponseAuthentication
  canonicalWire : Bytes
  receiptDigest : Digest32

namespace RuntimeApplyTerminalReceipt

def tryNew (sha256 : Sha256) (subject : ReceiptSubject) (facts : RuntimeApplyTerminalFacts)
    (authentication : RuntimeResponseAuthentication) : Except ReferenceContractError RuntimeApplyTerminalReceipt := do
  validateBounded subject.requestNonce maxApplyAuthNonceV2Bytes
  validateApplyTerminalShape facts.outcome facts.lifecycleEffect facts.head none none
  rejectIf (subject.requestDigest = 0 ∨ facts.resourceCensusDigest = 0 ∨ facts.rawOutcomeDigest = 0
    ∨ facts.selectionObservedAtNanos = 0) .invalidShape
  let expectedResultRef ← deriveApplyTerminalResultRef sha256 subject
  rejectIf (facts.terminalResultRef ≠ expectedResultRef ∨ facts.terminalResultRef = 0) .invalidCompatibility
  let canonicalWire := buildReceiptWire subject facts authentication
  rejectIf (maxRuntimeApplyTerminalReceiptBytes < canonicalWire.length) .requestFrameTooLarge
  let receiptDigest ← digestOf sha256 applyTerminalReceiptDigestDomain [canonicalWire]
  pure { subject, facts, authentication, canonicalWire, receiptDigest }

def signingTranscript (r : RuntimeApplyTerminalReceipt) : Except ReferenceContractError Bytes :=
  buildSigningTranscript r.subject r.facts r.authentication.claim

end RuntimeApplyTerminalReceipt

/-- `RuntimeApplyTerminalReceiptDraftV1`. -/
structure RuntimeApplyTerminalReceiptDraft where
  subject : ReceiptSubject
  facts : RuntimeApplyTerminalFacts
  authClaim : RuntimeResponseAuthClaim

namespace RuntimeApplyTerminalReceiptDraft

def tryNew (sha256 : Sha256) (request : ReferenceApplyRequest) (facts : RuntimeApplyTerminalFacts)
    (channel : ReferenceChannelBinding) (authClaim : RuntimeResponseAuthClaim) :
    Except ReferenceContractError RuntimeApplyTerminalReceiptDraft := do
  let subject := requestSubject request
  validateApplyTerminalShape facts.outcome facts.lifecycleEffect facts.head (some request.execution.mode)
    (some request.targetSliceDigest)
  let expectedResultRef ← deriveApplyTerminalResultRef sha256 subject
  rejectIf (facts.terminalResultRef ≠ expectedResultRef ∨ subject.target ≠ channel.target
    ∨ authClaim.runtimePeer ≠ channel.runtimePeer ∨ authClaim.channelBindingDigest ≠ channel.bindingDigest)
    .targetMismatch
  pure ⟨subject, facts, authClaim⟩

def signingTranscript (d : RuntimeApplyTerminalReceiptDraft) : Except ReferenceContractError Bytes :=
  buildSigningTranscript d.subject d.facts d.authClaim

def finalize (sha256 : Sha256) (d : RuntimeApplyTerminalReceiptDraft) (signature : Bytes) :
    Except ReferenceContractError RuntimeApplyTerminalReceipt := do
  let authentication ← RuntimeResponseAuthentication.tryNew d.authClaim signature
  RuntimeApplyTerminalReceipt.tryNew sha256 d.subject d.facts authentication

end RuntimeApplyTerminalReceiptDraft

/-! ## The decoder -/

def receiptErrors : Errors ReferenceWireError where
  frameTooLarge := .new .frameTooLarge
  truncated := .new .truncated
  invalidMagic := .new .invalidMagic
  unsupportedVersion := .new .unsupportedVersion
  trailingBytes := .new .trailingBytes
  missingField := .detailed .missingField
  unknownField := .detailed .unknownField
  duplicateField := .detailed .duplicateField
  outOfOrderField := .detailed .outOfOrderField
  invalidFieldLength := .detailed .invalidFieldLength
  truncatedField := .detailed .truncated

def decodeApplyTerminalOutcome : Nat → Except ReferenceWireError ReferenceApplyTerminalOutcome
  | 1 => .ok .oneSourceLoopActive
  | 2 => .ok .emptyDeactivateExactZero
  | 3 => .ok .startTimedOutBeforeIntentNoEffects
  | 4 => .ok .stopTimedOutBeforeHeadCommitNoEffects
  | 5 => .ok .startFailedBeforeHeadCommitExactZero
  | 6 => .ok .startTimedOutBeforeHeadCommitExactZero
  | 7 => .ok .stopFailedButExactZero
  | 8 => .ok .timedOutButExactZero
  | 9 => .ok .abortedBeforeIntentNoEffects
  | 10 => .ok .abortedBeforeHeadCommitExactZero
  | 11 => .ok .supersededAfterIntentExactZero
  | 12 => .ok .interruptedButNowExactZero
  | _ => .error (.detailed .invalidFieldValue 7)

def decodeApplyTerminalLifecycle : Nat → Except ReferenceWireError ReferenceApplyTerminalLifecycleEffect
  | 1 => .ok .provenNotStarted
  | 2 => .ok .mayHaveStarted
  | _ => .error (.detailed .invalidFieldValue 8)

def decodeApplyTerminalHead (disposition : Nat) (digest : Digest32) : Except ReferenceWireError RuntimeApplyTerminalHead :=
  if disposition = 1 ∧ digest = 0 then .ok .preservedNone
  else if disposition = 2 ∧ digest ≠ 0 then .ok (.preservedExisting digest)
  else if disposition = 3 ∧ digest ≠ 0 then .ok (.committedIncoming digest)
  else if disposition = 1 ∨ disposition = 2 ∨ disposition = 3 then .error (.detailed .invalidPresence 9)
  else .error (.detailed .invalidFieldValue 9)

def nonzeroAt (zero : Prop) [Decidable zero] (tag : Nat) : Res ReferenceWireError Unit :=
  rejectIf zero (.error (.detailed .invalidFieldValue tag))

def checkedAs {α : Type} (x : Except ReferenceContractError α) (e : ReferenceWireError) : Res ReferenceWireError α :=
  mapErr x (Fault.error e)

def decodeFacts (sha256 : Sha256) (values : List Bytes) (store : Id32) (requestDigest : Digest32) :
    Res ReferenceWireError (ReceiptSubject × RuntimeApplyTerminalFacts) := do
  let errors := receiptErrors
  let outcomeValue ← uint errors 2 values 7
  let outcome ← wrapErr Fault.error (decodeApplyTerminalOutcome outcomeValue)
  let lifecycleValue ← uint errors 2 values 8
  let lifecycleEffect ← wrapErr Fault.error (decodeApplyTerminalLifecycle lifecycleValue)
  let disposition ← uint errors 2 values 9
  let headDigest ← digest errors values 10
  let head ← wrapErr Fault.error (decodeApplyTerminalHead disposition headDigest)
  checkedAs (validateApplyTerminalShape outcome lifecycleEffect head none none) (.detailed .invalidFieldValue 7)
  let resourceCensusDigest ← digest errors values 11
  nonzeroAt (resourceCensusDigest = 0) 11
  let rawOutcomeDigest ← digest errors values 12
  nonzeroAt (rawOutcomeDigest = 0) 12
  let completionRuntimeHostEpoch ← uint errors 8 values 13
  nonzeroAt (completionRuntimeHostEpoch = 0) 13
  let completionSnapshotSequence ← uint errors 8 values 14
  nonzeroAt (completionSnapshotSequence = 0) 14
  let selectionClockGeneration ← uint errors 8 values 15
  nonzeroAt (selectionClockGeneration = 0) 15
  let selectionObservedAtNanos ← uint errors 8 values 16
  nonzeroAt (selectionObservedAtNanos = 0) 16
  let target ← ref16 errors values 1
  let sourceScope ← ref16 errors values 3
  let operationId ← ref16 errors values 4
  let terminalResultRef ← checkedAs (deriveForApply sha256 target store sourceScope operationId requestDigest)
    (.detailed .digestMismatch 17)
  let declaredResultRef ← get values 17
  rejectIf (terminalResultRef.asBytes ≠ declaredResultRef) (.error (.detailed .digestMismatch 17))
  let requestNonce ← get values 6
  pure (⟨target, store, sourceScope, operationId, requestDigest, requestNonce⟩,
    { outcome, lifecycleEffect, head, resourceCensusDigest, rawOutcomeDigest, completionRuntimeHostEpoch,
      completionSnapshotSequence, selectionClockGeneration, selectionObservedAtNanos, terminalResultRef })

def decodeAuthentication (values : List Bytes) : Res ReferenceWireError RuntimeResponseAuthentication := do
  let errors := receiptErrors
  let channelBindingDigest ← digest errors values 19
  nonzeroAt (channelBindingDigest = 0) 19
  let algorithm ← uint errors 2 values 21
  nonzeroAt (algorithm = 0) 21
  let algorithmVersion ← uint errors 2 values 22
  nonzeroAt (algorithmVersion = 0) 22
  let runtimePeer ← ref16 errors values 18
  let key ← ref16 errors values 20
  let claim ← checkedAs (RuntimeResponseAuthClaim.tryNew runtimePeer channelBindingDigest key algorithm algorithmVersion)
    (.detailed .invalidFieldValue 22)
  let signature ← get values 23
  checkedAs (RuntimeResponseAuthentication.tryNew claim signature) (.detailed .invalidSignatureField 23)

/-- `decode_apply_terminal_receipt`. -/
def RuntimeApplyTerminalReceipt.decode (sha256 : Sha256) (frame : Bytes) :
    Res ReferenceWireError RuntimeApplyTerminalReceipt := do
  let values ← wrapErr Fault.error (parse receiptFormat receiptErrors frame)
  let store ← digest receiptErrors values 2
  nonzeroAt (store = 0) 2
  let requestDigest ← digest receiptErrors values 5
  nonzeroAt (requestDigest = 0) 5
  let (subject, facts) ← decodeFacts sha256 values store requestDigest
  let authentication ← decodeAuthentication values
  let decoded ← checkedAs (RuntimeApplyTerminalReceipt.tryNew sha256 subject facts authentication)
    (.new .invalidFieldValue)
  rejectIf (decoded.canonicalWire ≠ frame) (.error (.new .nonCanonicalFrame))
  pure decoded

/-! ## Against the request -/

/-- `validate_against_request`: the exact request and the live channel. -/
def RuntimeApplyTerminalReceipt.validateAgainstRequest (sha256 : Sha256) (r : RuntimeApplyTerminalReceipt)
    (request : ReferenceApplyRequest) (channel : ReferenceChannelBinding) : Except ReferenceWireError Unit := do
  let binding := requestSubject request
  rejectIf (r.subject.target ≠ binding.target ∨ channel.target ≠ binding.target) (.detailed .targetMismatch 1)
  rejectIf (r.subject.store ≠ binding.store) (.detailed .runtimeStoreMismatch 2)
  rejectIf (r.subject.sourceScope ≠ binding.sourceScope) (.detailed .crossReferenceMismatch 3)
  rejectIf (r.subject.operationId ≠ binding.operationId) (.detailed .crossReferenceMismatch 4)
  rejectIf (r.subject.requestDigest ≠ binding.requestDigest) (.detailed .crossReferenceMismatch 5)
  rejectIf (r.subject.requestNonce ≠ binding.requestNonce) (.detailed .crossReferenceMismatch 6)
  mapErr (validateApplyTerminalShape r.facts.outcome r.facts.lifecycleEffect r.facts.head (some request.execution.mode)
    (some request.targetSliceDigest)) (.detailed .crossReferenceMismatch 7)
  rejectIf (r.facts.selectionClockGeneration < request.temporal.targetClockGeneration)
    (.detailed .crossReferenceMismatch 15)
  let expectedResultRef ← mapErr (deriveApplyTerminalResultRef sha256 binding) (.detailed .digestMismatch 17)
  rejectIf (r.facts.terminalResultRef ≠ expectedResultRef) (.detailed .digestMismatch 17)
  rejectIf (r.authentication.claim.runtimePeer ≠ channel.runtimePeer) (.detailed .targetMismatch 18)
  rejectIf (r.authentication.claim.channelBindingDigest ≠ channel.bindingDigest) (.detailed .targetMismatch 19)

end Receipt
end ParaEgox
