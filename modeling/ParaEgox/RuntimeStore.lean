import ParaEgox.Names
import ParaEgox.JournalFrame

/-!
# RuntimeStore — the runtime's snapshot file

Opening the store of a runtime, reading its active snapshot back, and replacing it.  A commit writes and syncs a temporary
file beside the active one, renames it over it, syncs the directory and reads the result back.  Opening reads the active
file first and only then removes the temporaries, and it always syncs the directory.

The files of the store are regular, have one name each and stay on one device, so the checks of the file type and the link
count are left out, and the identity of a file is its inode.  Owner and group of a file are one account, and the umask takes
nothing from its owner.  What is inspected of the directory's path and mount is an answer of the host.
-/
namespace ParaEgox
namespace RuntimeFiles

open Check Disk Disk.Calls Journal

/-! ## Names -/

def lockFileName : Bytes := Text.bytes (s := "runtime.lock") ⟨_, by conv => rhs; simp [ascii]⟩
def activeFileName : Bytes := Text.bytes (s := "runtime.snapshot") ⟨_, by conv => rhs; simp [ascii]⟩
def tempFilePrefix : Bytes := Text.bytes (s := ".runtime.snapshot.tmp-") ⟨_, by conv => rhs; simp [ascii]⟩

def tempTokenBytes : Nat := 16
def tempHexBytes : Nat := tempTokenBytes * 2
def maxOrphanTempFiles : Nat := 32
/-- `0o600`. -/
def privateFileModeBits : Nat := 384

abbrev Token := { bytes : Bytes // bytes.length = tempTokenBytes }

def tempName (token : Token) : Bytes := tempFilePrefix ++ lowerHex token.val

def validTempName (name : Bytes) : Bool :=
  tempFilePrefix.isPrefixOf name && (let suffix := name.drop tempFilePrefix.length
    decide (suffix.length = tempHexBytes) && isLowerHex suffix)

/-! ## Errors -/

inductive RuntimeFileStage
  | openLock
  | acquireLock
  | validateDirectoryIdentity
  | validateLockIdentity
  | scanDirectory
  | openActive
  | readActive
  | validateActiveIdentity
  | inspectOrphanTemp
  | removeOrphanTemp
  | syncOrphanCleanup
  | generateTempName
  | validateEncodedSnapshot
  | requireMissingActive
  | createTemp
  | inspectTemp
  | writeTemp
  | syncTemp
  | rename
  | syncDirectory
  | readBackPublished
  | returnDurableCommit

structure RuntimeIoFailure where
  stage : RuntimeFileStage
  kind : ErrorKind

structure RuntimePublishFault where
  stage : RuntimeFileStage
  kind : Option ErrorKind

inductive RuntimePublishFailure
  | rejectedBeforePublish (fault : RuntimePublishFault)
  | uncertainAfterPublish (fault : RuntimePublishFault)

inductive RuntimeStoreOpenError
  | invalidExpectedStoreInstanceId
  | invalidExpectedTargetFingerprint
  | unsafeServiceIdentity
  | pathMustBeAbsolute
  | unsafeDirectoryPath
  | unsafeAncestorType
  | untrustedAncestor
  | unsafeDirectoryType
  | unsafeDirectoryMode
  | directoryOwnerMismatch
  | directoryIdentityChanged
  | unsupportedFilesystem
  | unsafeFileMode
  | fileOwnerMismatch
  | namedFileIdentityChanged
  | unknownDirectoryEntry
  | tooManyOrphanTemps
  | lockContended
  | activeEmpty
  | activeTooLarge
  | activeAllocationFailed
  | activeChangedDuringRead
  | storeInstanceMismatch
  | targetFingerprintMismatch
  | io (failure : RuntimeIoFailure)
  | journal (e : RuntimeJournalError)

inductive RuntimeStoreError
  | stopped
  | lockOrDirectoryIdentityChanged
  | activeSnapshotChanged
  | open (e : RuntimeStoreOpenError)
  | journal (e : RuntimeJournalError)
  | publish (e : RuntimePublishFailure)

def openIo (stage : RuntimeFileStage) (kind : ErrorKind) : RuntimeStoreOpenError := .io ⟨stage, kind⟩
def rejectedIo (stage : RuntimeFileStage) (kind : ErrorKind) : RuntimePublishFailure :=
  .rejectedBeforePublish ⟨stage, some kind⟩
def rejectedInjected (stage : RuntimeFileStage) : RuntimePublishFailure := .rejectedBeforePublish ⟨stage, none⟩
def uncertainInjected (stage : RuntimeFileStage) : RuntimePublishFailure := .uncertainAfterPublish ⟨stage, none⟩

def publishFaultFromOpen (stage : RuntimeFileStage) : RuntimeStoreOpenError → RuntimePublishFault
  | .io failure => ⟨failure.stage, some failure.kind⟩
  | _ => ⟨stage, none⟩

def rejectedOpenError (stage : RuntimeFileStage) (e : RuntimeStoreOpenError) : RuntimePublishFailure :=
  .rejectedBeforePublish (publishFaultFromOpen stage e)

/-- What the active file has to be for a publication: missing, or the file of that identity. -/
inductive RuntimePublishMode
  | requireMissing
  | replaceExisting (identity : Nat)

inductive RuntimeCommitFailpoint
  | none
  | beforeTempCreate
  | afterTempCreate
  | afterPartialWrite
  | beforeFileSync
  | afterFileSync
  | beforeRename
  | afterRename
  | beforeDirectorySync
  | afterDirectorySyncBeforeReturn
  deriving DecidableEq

/-! ## Reading -/

def validateRegularFile (file : File) (owner : Nat) : Except RuntimeStoreOpenError Unit := do
  rejectIf (file.uid ≠ owner) .fileOwnerMismatch
  rejectIf (file.mode ≠ privateFileModeBits) .unsafeFileMode

section Store

variable {σ : Type} (p : Place σ Bytes) (owner : Nat)

def openExistingRegular (name : Bytes) (stage : RuntimeFileStage) : Calls σ RuntimeStoreOpenError Nat :=
  p.openChecked (openIo stage) (validateRegularFile · owner) name

def validateNamedFileIdentity (name : Bytes) (expected : Nat) (stage : RuntimeFileStage) :
    Calls σ RuntimeStoreOpenError Unit := do
  let current ← openExistingRegular p owner name stage
  check (rejectIf (current ≠ expected) .namedFileIdentityChanged)

def validateHeldLock (expected : Nat) : Calls σ RuntimeStoreOpenError Unit := do
  let metadata ← p.stat (openIo .validateLockIdentity) expected
  check (validateRegularFile metadata owner)
  validateNamedFileIdentity p owner lockFileName expected .validateLockIdentity

/-- `validate_runtime_directory_handle`, as the host answers it. -/
def validateRuntimeDirectoryHandle : Calls σ RuntimeStoreOpenError Unit :=
  ask (fun _ => .ok ()) (openIo .validateDirectoryIdentity)

structure ActiveSnapshotBytes where
  encoded : Bytes
  identity : Nat

structure ActiveSnapshot where
  snapshot : RuntimeJournalSnapshot
  identity : Nat

def checkActiveLength (length : Nat) : Except RuntimeStoreOpenError Unit := do
  rejectIf (length = 0) .activeEmpty
  rejectIf (maxRuntimeJournalSnapshotBytes < length) .activeTooLarge

def readActiveSnapshotBytes : Calls σ RuntimeStoreOpenError ActiveSnapshotBytes := do
  let identity ← openExistingRegular p owner activeFileName .openActive
  let before ← p.stat (openIo .readActive) identity
  check (checkActiveLength before.bytes.length)
  ask (fun _ => .ok ()) fun _ => .activeAllocationFailed
  let file ← p.stat (openIo .readActive) identity
  check (rejectIf (file.bytes.length < before.bytes.length) (openIo .readActive .other))
  let trailing ← p.stat (openIo .readActive) identity
  check (rejectIf (trailing.bytes.drop before.bytes.length ≠ []) .activeChangedDuringRead)
  let after ← p.stat (openIo .readActive) identity
  check (validateRegularFile after owner)
  check (rejectIf (after.bytes.length ≠ before.bytes.length) .activeChangedDuringRead)
  validateNamedFileIdentity p owner activeFileName identity .validateActiveIdentity
  pure ⟨file.bytes.take before.bytes.length, identity⟩

def decodeActive (c : Contracts) (active : ActiveSnapshotBytes) : Except RuntimeStoreOpenError ActiveSnapshot := do
  let snapshot ← wrapErr .journal (RuntimeJournalSnapshot.decode c active.encoded)
  rejectIf (snapshot.canonicalWire ≠ active.encoded) (.journal .nonCanonicalEncoding)
  pure ⟨snapshot, active.identity⟩

def readActiveSnapshot (c : Contracts) : Calls σ RuntimeStoreOpenError ActiveSnapshot := do
  let active ← readActiveSnapshotBytes p owner
  check (decodeActive c active)

def classifyEntry (orphans : List Bytes) (name : Bytes) : Except RuntimeStoreOpenError (List Bytes) :=
  if name = lockFileName ∨ name = activeFileName then .ok orphans
  else do
    rejectIf (validTempName name = false) .unknownDirectoryEntry
    rejectIf (maxOrphanTempFiles < orphans.length + 1) .tooManyOrphanTemps
    pure (orphans ++ [name])

def removeOrphan (name : Bytes) : Calls σ RuntimeStoreOpenError Unit := do
  let orphan ← openExistingRegular p owner name .inspectOrphanTemp
  validateNamedFileIdentity p owner name orphan .inspectOrphanTemp
  p.unlinkFile (openIo .removeOrphanTemp) name
  let _ ← p.stat (openIo .removeOrphanTemp) orphan
  pure ()

def cleanValidOrphanTemps : Calls σ RuntimeStoreOpenError Unit := do
  let names ← p.list (openIo .scanDirectory)
  let orphans ← check (scan classifyEntry [] names)
  each orphans (removeOrphan p owner)
  p.syncAll (openIo .syncOrphanCleanup)

/-! ## Publishing -/

def ensureRuntimeActiveMissing : Calls σ RuntimePublishFailure Unit := do
  let there ← ask (fun s => .ok ((p.dir s).lookup activeFileName)) (rejectedIo .requireMissingActive)
  check (rejectIf (there ≠ none) (rejectedInjected .requireMissingActive))

def validateRuntimePublishPrecondition : RuntimePublishMode → Calls σ RuntimePublishFailure Unit
  | .requireMissing => ensureRuntimeActiveMissing p
  | .replaceExisting identity => onFailure id (rejectedOpenError .validateActiveIdentity)
      (validateNamedFileIdentity p owner activeFileName identity .validateActiveIdentity)

def inject (failpoint : RuntimeCommitFailpoint) (points : List RuntimeCommitFailpoint) (failure : RuntimePublishFailure) :
    Calls σ RuntimePublishFailure Unit :=
  check (rejectIf (failpoint ∈ points) failure)

def injectPartialWrite (failpoint : RuntimeCommitFailpoint) (temp : Nat) (encoded : Bytes) :
    Calls σ RuntimePublishFailure Unit :=
  if failpoint = .afterPartialWrite then do
    p.writeAll (rejectedIo .writeTemp) temp (encoded.take (max (encoded.length - 1) 1))
    check (.error (rejectedInjected .writeTemp))
  else pure ()

def publishTempName (temp : Bytes) : RuntimePublishMode → Calls σ RuntimePublishFailure Unit
  | .requireMissing => p.renameNoReplace (rejectedIo .requireMissingActive) temp activeFileName
  | .replaceExisting _ => p.renameFile (rejectedIo .rename) temp activeFileName

def publishAtomic (encoded : Bytes) (mode : RuntimePublishMode) (token : Token) (failpoint : RuntimeCommitFailpoint) :
    Calls σ RuntimePublishFailure Unit := do
  check (rejectIf (encoded = [] ∨ maxRuntimeJournalSnapshotBytes < encoded.length)
    (rejectedInjected .validateEncodedSnapshot))
  inject failpoint [.beforeTempCreate] (rejectedInjected .createTemp)
  validateRuntimePublishPrecondition p owner mode
  let temp ← p.createFile (rejectedIo .createTemp) (tempName token) owner privateFileModeBits
  p.chmodFile (rejectedIo .inspectTemp) temp privateFileModeBits
  let metadata ← p.stat (rejectedIo .inspectTemp) temp
  check (wrapErr (rejectedOpenError .inspectTemp) (validateRegularFile metadata owner))
  inject failpoint [.afterTempCreate] (rejectedInjected .createTemp)
  injectPartialWrite p failpoint temp encoded
  p.writeAll (rejectedIo .writeTemp) temp encoded
  inject failpoint [.beforeFileSync] (rejectedInjected .syncTemp)
  p.syncFile (rejectedIo .syncTemp) temp
  inject failpoint [.afterFileSync, .beforeRename] (rejectedInjected .rename)
  validateRuntimePublishPrecondition p owner mode
  publishTempName p (tempName token) mode
  inject failpoint [.afterRename, .beforeDirectorySync] (uncertainInjected .syncDirectory)
  p.syncAll fun kind => .uncertainAfterPublish ⟨.syncDirectory, some kind⟩
  inject failpoint [.afterDirectorySyncBeforeReturn] (uncertainInjected .returnDurableCommit)

def systemRandomToken (random : Token) : Calls σ ErrorKind Token := do
  ask (fun _ => .ok ()) id
  check (rejectIf (random.val.all (· = 0) = true) .other)
  pure random

end Store

/-! ## The open store -/

inductive RuntimeStoreState
  | operational
  | stopped
  deriving DecidableEq

structure RuntimeStore where
  lockIdentity : Nat
  active : ActiveSnapshot
  state : RuntimeStoreState

structure Held where
  dir : Directory Bytes
  store : RuntimeStore

def heldDirectory : Place Held Bytes where
  dir := Held.dir
  put d h := { h with dir := d }
  dir_put _ _ := rfl
  put_put _ _ _ := rfl

def bareDirectory : Place (Directory Bytes) Bytes where
  dir := id
  put d _ := d
  dir_put _ _ := rfl
  put_put _ _ _ := rfl

def Held.stop (h : Held) : Held := { h with store := { h.store with state := .stopped } }

/-- What a store is opened with: what the host says of the directory's path and mount, and what the caller expects. -/
structure Launch where
  inspection : Except RuntimeStoreOpenError Unit
  expectedStoreInstanceId : Id32
  expectedTargetFingerprint : Digest32

namespace RuntimeStore

/-- `open_with_policy`; `contended` says whether another process has the lock. -/
def openStore (c : Contracts) (owner : Nat) (launch : Launch) (contended : Bool) :
    Calls (Directory Bytes) RuntimeStoreOpenError RuntimeStore := do
  check (rejectIf (launch.expectedStoreInstanceId.asBytes.all (· = 0) = true) .invalidExpectedStoreInstanceId)
  check (rejectIf (launch.expectedTargetFingerprint.asBytes.all (· = 0) = true) .invalidExpectedTargetFingerprint)
  check launch.inspection
  let lockIdentity ← openExistingRegular bareDirectory owner lockFileName .openLock
  ask (fun _ => .ok ()) (openIo .acquireLock)
  check (rejectIf (contended = true) .lockContended)
  validateNamedFileIdentity bareDirectory owner lockFileName lockIdentity .validateLockIdentity
  let active ← readActiveSnapshot bareDirectory owner c
  check (rejectIf (active.snapshot.storeInstanceId ≠ launch.expectedStoreInstanceId) .storeInstanceMismatch)
  check (rejectIf (active.snapshot.ownerTargetFingerprint ≠ launch.expectedTargetFingerprint) .targetFingerprintMismatch)
  cleanValidOrphanTemps bareDirectory owner
  pure ⟨lockIdentity, active, .operational⟩

def ensureOperational : Calls Held RuntimeStoreError Unit := do
  let held ← get
  check (rejectIf (held.store.state = .stopped) .stopped)

def snapshot : Calls Held RuntimeStoreError RuntimeJournalSnapshot := do
  ensureOperational
  let held ← get
  pure held.store.active.snapshot

def revalidateCurrent (c : Contracts) (owner : Nat) : Calls Held RuntimeStoreError RuntimeJournalSnapshot := do
  ensureOperational
  let held ← get
  onFailure Held.stop (fun _ => .lockOrDirectoryIdentityChanged) (do
    validateRuntimeDirectoryHandle
    validateHeldLock heldDirectory owner held.store.lockIdentity)
  let disk ← onFailure Held.stop .open (readActiveSnapshot heldDirectory owner c)
  onFailure Held.stop id (check (rejectIf (disk.identity ≠ held.store.active.identity
    ∨ disk.snapshot ≠ held.store.active.snapshot) .activeSnapshotChanged))
  pure held.store.active.snapshot

def prepareCommit (c : Contracts) (owner : Nat) (next : RuntimeJournalSnapshot) : Calls Held RuntimeStoreError Unit := do
  ensureOperational
  let held ← get
  onFailure Held.stop .journal (check (next.validateSuccessorOf c held.store.active.snapshot))
  let _ ← revalidateCurrent c owner
  pure ()

def publishPrevalidated (c : Contracts) (owner : Nat) (next : RuntimeJournalSnapshot) (token : Token)
    (failpoint : RuntimeCommitFailpoint) : Calls Held RuntimeStoreError Unit := do
  let held ← get
  onFailure Held.stop .publish (publishAtomic heldDirectory owner next.canonicalWire
    (.replaceExisting held.store.active.identity) token failpoint)
  let readBack ← onFailure Held.stop
    (fun e => .publish (.uncertainAfterPublish (publishFaultFromOpen .readBackPublished e)))
    (readActiveSnapshot heldDirectory owner c)
  onFailure Held.stop id (check (rejectIf (readBack.snapshot ≠ next)
    (.publish (uncertainInjected .readBackPublished))))
  modify fun h => { h with store := { h.store with active := readBack } }

/-- `commit_with_entropy`. -/
def commit (c : Contracts) (owner : Nat) (next : RuntimeJournalSnapshot) (failpoint : RuntimeCommitFailpoint)
    (random : Token) : Calls Held RuntimeStoreError Unit := do
  prepareCommit c owner next
  let token ← onFailure Held.stop (fun kind => .publish (rejectedIo .generateTempName kind)) (systemRandomToken random)
  publishPrevalidated c owner next token failpoint

end RuntimeStore
end RuntimeFiles
end ParaEgox
