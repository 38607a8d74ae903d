import ParaEgox.ControlState
import ParaEgox.Program

/-!
# ApplyPorts — the store, clock and owner an apply process calls

The narrow ports of the durable apply owner: the journal store, the monotonic clock and the materialization owner.  The
store keeps the durable snapshot and stops at its first failed commit.  Owner answers and clock readings are
unconstrained.
-/
namespace ParaEgox
namespace Control

open Check Journal RuntimeJournalSnapshot Program

inductive RuntimeReferenceApplyStoreError
  | unavailable
  deriving DecidableEq

inductive RuntimeReferenceApplyClockError
  | unavailable
  deriving DecidableEq

inductive RuntimeReferenceMaterializationOwnerError
  | unavailable
  | missingInMemoryToken
  | conflictingEvidence
  | callbackFailed
  | cleanupFailed
  deriving DecidableEq

def RuntimeReferenceMaterializationOwnerError.code : RuntimeReferenceMaterializationOwnerError → Nat
  | .unavailable => 0
  | .missingInMemoryToken => 1
  | .conflictingEvidence => 2
  | .callbackFailed => 3
  | .cleanupFailed => 4

structure RuntimeOneSourceOwnerPlan where
  actionId : Ref16
  domainGeneration : U64
  instanceGeneration : U64
  resourceGeneration : U64
  resources : RuntimeOneSourceResourceRefs
  signedBudgets : ReferenceLifecycleBudgets
  deriving DecidableEq

structure RuntimeEmptyRetireOwnerPlan where
  actionId : Ref16
  signedBudgets : ReferenceLifecycleBudgets

inductive PortCall
  | currentSnapshot
  | commitSnapshot (next : RuntimeJournalSnapshot)
  | observe (expectedClockGeneration : U64)
  | prepareOneSource (request : ReferenceApplyRequest) (durableAction : Option JournalActionRef)
  | materializeOneSource (action : JournalActionRef) (resources : RuntimeOneSourceResourceRefs)
  | startOneSourceOnce (action : JournalActionRef)
  | prepareEmptyRetire (activeSliceDigest : TargetSliceDigest) (resourceGeneration : U64)
      (durableAction : Option JournalActionRef)
  | stopOneSourceOnce (action : JournalActionRef)
  | cleanupOneSourceOnce (action : JournalActionRef)
  | proveRestartExactZero (execution : ReferenceTargetExecution) (provenance : PlanProvenance)
      (targetSliceDigest : TargetSliceDigest) (resources : List OwnedResourceRecord)
  | proveRestartActionExactZero (execution : ReferenceTargetExecution) (provenance : PlanProvenance)
      (targetSliceDigest : TargetSliceDigest) (action : JournalActionRef)
  | proveInterruptedNormalActionExactZero (execution : ReferenceTargetExecution) (provenance : PlanProvenance)
      (targetSliceDigest : TargetSliceDigest) (action : JournalActionRef)
  | prepareRecoveryOneSource (execution : ReferenceTargetExecution) (provenance : PlanProvenance)
      (targetSliceDigest : TargetSliceDigest) (durableAction : Option JournalActionRef)
  | cleanupRecoveryOneSourceOnce (action : JournalActionRef)

def PortCall.Answer : PortCall → Type
  | currentSnapshot => Except RuntimeReferenceApplyStoreError RuntimeJournalSnapshot
  | commitSnapshot _ => Except RuntimeReferenceApplyStoreError Unit
  | observe _ => Except RuntimeReferenceApplyClockError RuntimeDeadlineObservation
  | prepareOneSource .. => Except RuntimeReferenceMaterializationOwnerError RuntimeOneSourceOwnerPlan
  | materializeOneSource .. => Except RuntimeReferenceMaterializationOwnerError RuntimeOneSourceOwnershipInput
  | startOneSourceOnce _ => Except RuntimeReferenceMaterializationOwnerError Unit
  | prepareEmptyRetire .. => Except RuntimeReferenceMaterializationOwnerError RuntimeEmptyRetireOwnerPlan
  | stopOneSourceOnce _ => Except RuntimeReferenceMaterializationOwnerError Unit
  | cleanupOneSourceOnce _ => Except RuntimeReferenceMaterializationOwnerError RuntimeOneSourceTombstonesInput
  | proveRestartExactZero .. => Except RuntimeReferenceMaterializationOwnerError RuntimeOneSourceTombstonesInput
  | proveRestartActionExactZero .. => Except RuntimeReferenceMaterializationOwnerError Unit
  | proveInterruptedNormalActionExactZero .. => Except RuntimeReferenceMaterializationOwnerError Unit
  | prepareRecoveryOneSource .. => Except RuntimeReferenceMaterializationOwnerError RuntimeOneSourceOwnerPlan
  | cleanupRecoveryOneSourceOnce _ => Except RuntimeReferenceMaterializationOwnerError RuntimeOneSourceTombstonesInput

def ports : Interface := ⟨PortCall, PortCall.Answer⟩

/-! ## The store -/

/-- What outlives a call: the durable snapshot, and whether the store of this process has stopped. -/
structure Store where
  durable : RuntimeJournalSnapshot
  stopped : Bool

/-- `RuntimeStore::commit`.  A failed commit stops the store, and may have published the snapshot all the same. -/
inductive Commits (c : Contracts) (next : RuntimeJournalSnapshot) :
    Store → Except RuntimeReferenceApplyStoreError Unit → Store → Prop
  | published (d : RuntimeJournalSnapshot) (accepted : next.validateSuccessorOf c d = .ok ()) :
      Commits c next ⟨d, false⟩ (.ok ()) ⟨next, false⟩
  | refused (store : Store) : Commits c next store (.error .unavailable) ⟨store.durable, true⟩
  | uncertain (d : RuntimeJournalSnapshot) (accepted : next.validateSuccessorOf c d = .ok ()) :
      Commits c next ⟨d, false⟩ (.error .unavailable) ⟨next, true⟩

/-- How the ports answer: the store as above, everything else arbitrarily and without touching the journal. -/
def answers (c : Contracts) : (call : PortCall) → Store → call.Answer → Store → Prop
  | .currentSnapshot, store, answer, store' =>
    store' = store ∧ answer = if store.stopped then .error .unavailable else .ok store.durable
  | .commitSnapshot next, store, answer, store' => Commits c next store answer store'
  | _, store, _, store' => store' = store

end Control
end ParaEgox
