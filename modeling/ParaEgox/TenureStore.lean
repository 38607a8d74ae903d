import ParaEgox.Disk
import ParaEgox.TenureSnapshot

/-!
# TenureStore — the authority's snapshot file

Opening the store of an authority, reading its active snapshot back, and replacing it: a temporary file is written and
synced beside the active one and renamed over it.  What fails before the rename left the active file as it was; what fails
after it may have replaced it, and after either the store stops.

The files of the store are regular and have one name each, so the checks of the file type and the link count are left out.
What is inspected of the directory's path and mount is an answer of the host.
-/
namespace ParaEgox
namespace Tenure

open Check Disk Disk.Calls

/-! ## Names -/

def lockFileName : Bytes := Text.bytes (s := "authority.lock") ⟨_, by conv => rhs; simp [ascii]⟩
def activeFileName : Bytes := Text.bytes (s := "authority.snapshot") ⟨_, by conv => rhs; simp [ascii]⟩
def tempFilePrefix : Bytes := Text.bytes (s := ".authority.snapshot.tmp-") ⟨_, by conv => rhs; simp [ascii]⟩

def tempTokenBytes : Nat := 16
def tempHexBytes : Nat := tempTokenBytes * 2
def maxOrphanTempFiles : Nat := 32
/-- `0o600`. -/
def privateFileModeBits : Nat := 384

def tempName (token : Bytes) : Bytes := tempFilePrefix ++ lowerHex token

def validTempName (name : Bytes) : Bool :=
  tempFilePrefix.isPrefixOf name && (let suffix := name.drop tempFilePrefix.length
    decide (suffix.length = tempHexBytes) && isLowerHex suffix)

/-! ## Errors -/

inductive FileStage
  | inspectDirectory
  | openDirectory
  | inspectFilesystem
  | scanDirectory
  | openLock
  | acquireLock
  | openActive
  | readActive
  | inspectOrphanTemp
  | removeOrphanTemp
  | syncOrphanCleanup
  | generateTempName
  | validateEncodedSnapshot
  | requireMissingActive
  | createTemp
  | inspectTemp
  | writeTemp
  | syncTemp
  | rename
  | syncDirectory
  | returnDurableCommit

structure IoFailure where
  stage : FileStage
  kind : ErrorKind

structure PublishFault where
  stage : FileStage
  kind : Option ErrorKind

def PublishFault.injected (stage : FileStage) : PublishFault := ⟨stage, none⟩
def PublishFault.io (stage : FileStage) (kind : ErrorKind) : PublishFault := ⟨stage, some kind⟩

inductive PublishFailure
  | rejectedBeforePublish (fault : PublishFault)
  | uncertainAfterPublish (fault : PublishFault)

inductive StoreOpenError
  | pathMustBeAbsolute
  | unsafeDirectoryPath
  | symlinkInDirectoryPath
  | unsafeDirectoryType
  | unsafeDirectoryMode
  | directoryIdentityChanged
  | unsupportedFilesystem
  | unsafeFileMode
  | fileOwnerMismatch
  | unknownDirectoryEntry
  | tooManyOrphanTemps
  | lockContended
  | activeEmpty
  | activeTooLarge
  | activeAllocationFailed
  | activeChangedDuringRead
  | storeInstanceMismatch
  | provisioningMismatch
  | io (failure : IoFailure)
  | codec (e : CodecError)

inductive StoreError
  | stopped
  | activeSnapshotChanged
  | immutableIdentityChanged
  | sequenceOverflow
  | sequenceTransitionMismatch
  | open (e : StoreOpenError)
  | codec (e : CodecError)
  | publish (e : PublishFailure)

def openIo (stage : FileStage) (kind : ErrorKind) : StoreOpenError := .io ⟨stage, kind⟩
def rejectedIo (stage : FileStage) (kind : ErrorKind) : PublishFailure := .rejectedBeforePublish (.io stage kind)
def rejectedInjected (stage : FileStage) : PublishFailure := .rejectedBeforePublish (.injected stage)
def uncertainInjected (stage : FileStage) : PublishFailure := .uncertainAfterPublish (.injected stage)

def rejectedOpenError (stage : FileStage) : StoreOpenError → PublishFailure
  | .io failure => .rejectedBeforePublish ⟨failure.stage, some failure.kind⟩
  | _ => .rejectedBeforePublish (.injected stage)

inductive PublishMode
  | requireMissing
  | replaceExisting
  deriving DecidableEq

inductive CommitFailpoint
  | none
  | beforeTempCreate
  | afterTempCreate
  | afterPartialWrite
  | beforeFileSync
  | afterFileSync
  | beforeRename
  | afterRename
  | beforeDirectorySync
  | afterDirectorySyncBeforeReturn
  deriving DecidableEq

/-! ## Reading -/

structure Accounts where
  ownerUid : Nat
  processUid : Nat

def validateRegularFile (file : File) (ownerUid : Nat) : Except StoreOpenError Unit := do
  rejectIf (file.uid ≠ ownerUid) .fileOwnerMismatch
  rejectIf (file.mode ≠ privateFileModeBits) .unsafeFileMode

section Store

variable {σ : Type} (p : Place σ Bytes) (accounts : Accounts)

def openExistingRegular (name : Bytes) (stage : FileStage) : Calls σ StoreOpenError Nat :=
  p.openChecked (openIo stage) (validateRegularFile · accounts.ownerUid) name

def checkActiveLength (length : Nat) : Except StoreOpenError Unit := do
  rejectIf (length = 0) .activeEmpty
  rejectIf (authoritySnapshotMaxBytes < length) .activeTooLarge

def readActiveSnapshot (sha256 : Sha256) (ed : Ed25519) : Calls σ StoreOpenError AuthoritySnapshot := do
  let inode ← openExistingRegular p accounts activeFileName .openActive
  let metadata ← p.stat (openIo .readActive) inode
  check (checkActiveLength metadata.bytes.length)
  ask (fun _ => .ok ()) fun _ => .activeAllocationFailed
  let file ← p.stat (openIo .readActive) inode
  check (rejectIf (file.bytes.length < metadata.bytes.length) (openIo .readActive .other))
  let trailing ← p.stat (openIo .readActive) inode
  check (rejectIf (trailing.bytes.drop metadata.bytes.length ≠ []) .activeChangedDuringRead)
  check (wrapErr .codec (decodeSnapshot sha256 ed (file.bytes.take metadata.bytes.length)))

def classifyEntry (orphans : List Bytes) (name : Bytes) : Except StoreOpenError (List Bytes) :=
  if name = lockFileName ∨ name = activeFileName then .ok orphans
  else do
    rejectIf (validTempName name = false) .unknownDirectoryEntry
    rejectIf (maxOrphanTempFiles < orphans.length + 1) .tooManyOrphanTemps
    pure (orphans ++ [name])

def removeOrphan (name : Bytes) : Calls σ StoreOpenError Unit := do
  let _ ← openExistingRegular p accounts name .inspectOrphanTemp
  p.unlinkFile (openIo .removeOrphanTemp) name

def cleanValidOrphanTemps : Calls σ StoreOpenError Unit := do
  let names ← p.list (openIo .scanDirectory)
  let orphans ← check (scan classifyEntry [] names)
  if orphans = [] then pure ()
  else do
    each orphans (removeOrphan p accounts)
    p.syncAll (openIo .syncOrphanCleanup)

/-! ## Publishing -/

def ensureActiveMissing : Calls σ PublishFailure Unit := do
  let there ← ask (fun s => .ok ((p.dir s).lookup activeFileName)) (rejectedIo .requireMissingActive)
  check (rejectIf (there ≠ none) (rejectedInjected .requireMissingActive))

def publishPrecondition : PublishMode → Calls σ PublishFailure Unit
  | .requireMissing => ensureActiveMissing p
  | .replaceExisting => do
    let _ ← onFailure id (rejectedOpenError .openActive) (openExistingRegular p accounts activeFileName .openActive)
    pure ()

def inject (failpoint : CommitFailpoint) (points : List CommitFailpoint) (failure : PublishFailure) :
    Calls σ PublishFailure Unit :=
  check (rejectIf (failpoint ∈ points) failure)

def injectPartialWrite (failpoint : CommitFailpoint) (temp : Nat) (encoded : Bytes) : Calls σ PublishFailure Unit :=
  if failpoint = .afterPartialWrite then do
    p.writeAll (rejectedIo .writeTemp) temp (encoded.take (max (encoded.length - 1) 1))
    check (.error (rejectedInjected .writeTemp))
  else pure ()

def publishAtomic (encoded token : Bytes) (mode : PublishMode) (failpoint : CommitFailpoint) :
    Calls σ PublishFailure Unit := do
  check (rejectIf (encoded = [] ∨ authoritySnapshotMaxBytes < encoded.length) (rejectedInjected .validateEncodedSnapshot))
  inject failpoint [.beforeTempCreate] (rejectedInjected .createTemp)
  publishPrecondition p accounts mode
  let temp ← p.createFile (rejectedIo .createTemp) (tempName token) accounts.processUid privateFileModeBits
  p.chmodFile (rejectedIo .inspectTemp) temp privateFileModeBits
  let metadata ← p.stat (rejectedIo .inspectTemp) temp
  check (mapErr (validateRegularFile metadata accounts.ownerUid) (rejectedInjected .inspectTemp))
  inject failpoint [.afterTempCreate] (rejectedInjected .createTemp)
  injectPartialWrite p failpoint temp encoded
  p.writeAll (rejectedIo .writeTemp) temp encoded
  inject failpoint [.beforeFileSync] (rejectedInjected .syncTemp)
  p.syncFile (rejectedIo .syncTemp) temp
  inject failpoint [.afterFileSync, .beforeRename] (rejectedInjected .rename)
  if mode = .requireMissing then ensureActiveMissing p else pure ()
  p.renameFile (rejectedIo .rename) (tempName token) activeFileName
  inject failpoint [.afterRename, .beforeDirectorySync] (uncertainInjected .syncDirectory)
  p.syncAll fun kind => .uncertainAfterPublish (.io .syncDirectory kind)
  inject failpoint [.afterDirectorySyncBeforeReturn] (uncertainInjected .returnDurableCommit)

def systemRandomToken (random : Bytes) : Calls σ ErrorKind Bytes := do
  ask (fun _ => .ok ()) id
  check (rejectIf (random.all (· = 0) = true) .other)
  pure random

end Store

/-! ## The open store -/

inductive StoreState
  | operational
  | stopped
  deriving DecidableEq

structure AuthorityStore where
  snapshot : AuthoritySnapshot
  state : StoreState

structure Held where
  dir : Directory Bytes
  store : AuthorityStore

def heldDirectory : Place Held Bytes where
  dir := Held.dir
  put d h := { h with dir := d }
  dir_put _ _ := rfl
  put_put _ _ _ := rfl

theorem bare_dir_put (d _h : Directory Bytes) : id d = d := rfl

theorem bare_put_put (d _d' _h : Directory Bytes) : d = d := rfl

def bareDirectory : Place (Directory Bytes) Bytes where
  dir := id
  put d _ := d
  dir_put := bare_dir_put
  put_put := bare_put_put

def Held.stop (h : Held) : Held := { h with store := { h.store with state := .stopped } }

/-- What the host says while a store is opened: of the path and the mount of its directory, and whether another process has
its lock. -/
structure Surroundings where
  inspection : Except StoreOpenError Unit
  contended : Bool

namespace AuthorityStore

/-- `open_with_policy`. -/
def openStore (sha256 : Sha256) (ed : Ed25519) (accounts : Accounts) (surroundings : Surroundings)
    (expectedStoreInstanceId : StoreInstanceId) (expectedProvisioning : AuthorityProvisioning) :
    Calls (Directory Bytes) StoreOpenError AuthorityStore := do
  check surroundings.inspection
  let _ ← openExistingRegular bareDirectory accounts lockFileName .openLock
  ask (fun _ => .ok ()) (openIo .acquireLock)
  check (rejectIf (surroundings.contended = true) .lockContended)
  let snapshot ← readActiveSnapshot bareDirectory accounts sha256 ed
  check (rejectIf (snapshot.provisioning ≠ expectedProvisioning
    ∨ snapshot.ownerIdentityFingerprint ≠ expectedProvisioning.fingerprints.ownerIdentity) .provisioningMismatch)
  cleanValidOrphanTemps bareDirectory accounts
  check (rejectIf (snapshot.storeInstanceId ≠ expectedStoreInstanceId) .storeInstanceMismatch)
  pure ⟨snapshot, .operational⟩

def ensureOperational : Calls Held StoreError Unit := do
  let held ← get
  check (rejectIf (held.store.state = .stopped) .stopped)

def revalidateCurrent (sha256 : Sha256) (ed : Ed25519) (accounts : Accounts) : Calls Held StoreError AuthoritySnapshot := do
  ensureOperational
  let disk ← onFailure Held.stop .open (readActiveSnapshot heldDirectory accounts sha256 ed)
  let held ← get
  onFailure Held.stop id (check (rejectIf (disk ≠ held.store.snapshot) .activeSnapshotChanged))
  pure held.store.snapshot

/-- What `commit` checks of the next snapshot against the one it holds. -/
def checkSuccessor (sha256 : Sha256) (ed : Ed25519) (current next : AuthoritySnapshot) : Except StoreError Unit := do
  rejectIf (next.storeInstanceId ≠ current.storeInstanceId ∨ next.provisioning ≠ current.provisioning
    ∨ next.ownerIdentityFingerprint ≠ current.ownerIdentityFingerprint) .immutableIdentityChanged
  rejectIf (2 ^ 64 ≤ current.snapshotSequence.toNat + 1) .sequenceOverflow
  rejectIf (next.snapshotSequence ≠ current.snapshotSequence + 1) .sequenceTransitionMismatch
  wrapErr (fun e => .codec (.model e)) (next.validate sha256 ed)

def commit (sha256 : Sha256) (ed : Ed25519) (accounts : Accounts) (next : AuthoritySnapshot) (failpoint : CommitFailpoint)
    (random : Bytes) : Calls Held StoreError Unit := do
  ensureOperational
  let held ← get
  onFailure Held.stop id (check (checkSuccessor sha256 ed held.store.snapshot next))
  let _ ← revalidateCurrent sha256 ed accounts
  let encoded ← onFailure Held.stop .codec (check (encodeSnapshot sha256 ed next))
  let token ← onFailure Held.stop (fun kind => .publish (rejectedIo .generateTempName kind)) (systemRandomToken random)
  onFailure Held.stop .publish (publishAtomic heldDirectory accounts encoded token .replaceExisting failpoint)
  modify fun h => { h with store := { h.store with snapshot := next } }

end AuthorityStore
end Tenure
end ParaEgox
