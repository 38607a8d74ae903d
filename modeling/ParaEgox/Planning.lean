import ParaEgox.Deck
import ParaEgox.PlanContent

/-!
# Planning — one plan of the deployment planner

The planner refuses service dependencies, checks that the previous state of the target allows the desired one and agrees with
the active allocations, and builds the content of the plan with the delta of allocations that goes with it.
-/
namespace ParaEgox
namespace Controller

open Check

inductive PreviousTargetEligibility
  | uninitializedNoneExactZero
  | oneSourceLoopLiveReady
  | oneSourceLoopRecoveryFailedExactZero
  | emptyDeactivateRetiring
  | emptyDeactivateTerminalExactZero
  | busy
  | ineligible

structure ValidatedReferenceLifecycleBudgets where
  start : UInt64
  drain : UInt64
  cleanup : UInt64

inductive PlannerDesired
  | oneSourceLoop (deckLock : Deck.DeckLock) (lifecycle : ValidatedReferenceLifecycleBudgets) (configDigest : Digest32)
  | emptyTarget
  | omitted

structure PlannerInput where
  target : Ref16
  desired : PlannerDesired
  previous : PreviousTargetEligibility
  manifest : Option VerifiedRuntimeManifestIngressV1
  allocation : StableAllocationSnapshot
  serviceDependencies : List ServiceGraph.ServiceDependency

inductive PlannerOutcome
  | candidate (value : DeploymentPlanCandidate)
  | omitted

inductive PlannerFault
  | error (e : PlannerError)
  | panic
  deriving DecidableEq

def PlannerFault.ofService : ServiceGraph.ServiceFault → PlannerFault
  | .error e => .error (.serviceDependency e)
  | .panic => .panic

/-! ## What may follow what -/

def validateTransition (previous : PreviousTargetEligibility) (desired : PlannerDesired) : Except PlannerError Unit :=
  match previous with
  | .busy => .error .previousTargetBusy
  | .ineligible => .error .previousTargetIneligible
  | .emptyDeactivateRetiring => .error .previousTargetNotTerminal
  | .uninitializedNoneExactZero => match desired with
    | .emptyTarget => .error .emptyBootstrapRejected
    | _ => .ok ()
  | .emptyDeactivateTerminalExactZero => .ok ()
  | .oneSourceLoopLiveReady => match desired with
    | .oneSourceLoop .. => .error .loopToLoopRejected
    | .emptyTarget => .ok ()
    | .omitted => .error .explicitEmptyRequiredBeforeOmit
  | .oneSourceLoopRecoveryFailedExactZero => match desired with
    | .oneSourceLoop .. => .error .explicitEmptyRequiredBeforeLoop
    | .emptyTarget => .ok ()
    | .omitted => .error .explicitEmptyRequiredBeforeOmit

namespace StableAllocationSnapshot

def active (snapshot : StableAllocationSnapshot) : List StableAllocationRecord :=
  snapshot.records.filter fun record => record.state = .active

end StableAllocationSnapshot

/-- The active records a previous state comes with; the states without a count were rejected before. -/
def expectedActiveCount : PreviousTargetEligibility → Option Nat
  | .uninitializedNoneExactZero | .emptyDeactivateTerminalExactZero => some 0
  | .oneSourceLoopLiveReady | .oneSourceLoopRecoveryFailedExactZero => some 1
  | .emptyDeactivateRetiring | .busy | .ineligible => none

def validatePreviousAllocation (previous : PreviousTargetEligibility) (snapshot : StableAllocationSnapshot) :
    Except PlannerFault Unit := do
  let expected ← okOr (expectedActiveCount previous) .panic
  rejectIf (snapshot.active.length ≠ expected) (.error .previousAllocationMismatch)

/-! ## The delta of a plan -/

def advanceGeneration (base : UInt64) (changed : Bool) : Except PlannerError UInt64 :=
  if changed then okOr (succU64 base) .allocationExhausted else .ok base

def advanceLiveGeneration (base : UInt64) (changed : Bool) : Except PlannerError UInt64 := do
  rejectIf (base = UInt64.ofNat u64Max) .allocationExhausted
  let next ← advanceGeneration base changed
  rejectIf (changed ∧ next = UInt64.ofNat u64Max) .allocationExhausted
  pure next

def StableAllocationRecord.tombstoned (record : StableAllocationRecord) : StableAllocationRecord :=
  { record with state := .tombstone }

structure Allocation where
  record : StableAllocationRecord
  delta : StableAllocationDelta
  diagnostics : List PlannerDiagnostic

/-- The allocation of a key that has no active one, beside the tombstones of the others. -/
def allocateFresh (sha256 : Sha256) (target key : Ref16) (snapshot : StableAllocationSnapshot)
    (extras : List StableAllocationRecord) : Except PlannerError Allocation := do
  let ordinal ← okOr (succU64 snapshot.highWater) .allocationExhausted
  let cardInstance ← deriveId sha256 instanceAllocationDomain target key ordinal
  let loopDomain ← deriveId sha256 domainAllocationDomain target key ordinal
  let record : StableAllocationRecord := { key, ordinal, cardInstance, loopDomain, state := .active }
  let nextGeneration ← advanceLiveGeneration snapshot.generation true
  pure { record,
         delta := { baseGeneration := snapshot.generation, nextGeneration, resultingHighWater := ordinal,
                    records := Keyed.sortBy StableAllocationRecord.key (extras ++ [record]) },
         diagnostics := .freshStableAllocation :: (if extras = [] then [] else [.stableAllocationTombstoned]) }

def allocateReused (snapshot : StableAllocationSnapshot) (record : StableAllocationRecord)
    (extras : List StableAllocationRecord) : Except PlannerError Allocation := do
  let nextGeneration ← advanceLiveGeneration snapshot.generation (extras ≠ [])
  pure { record,
         delta := { baseGeneration := snapshot.generation, nextGeneration, resultingHighWater := snapshot.highWater,
                    records := extras },
         diagnostics := .reusedStableAllocation :: (if extras = [] then [] else [.stableAllocationTombstoned]) }

def allocateActive (sha256 : Sha256) (target key : Ref16) (snapshot : StableAllocationSnapshot) :
    Except PlannerError Allocation :=
  let extras := (snapshot.active.filter fun record => record.key ≠ key).map (·.tombstoned)
  match Keyed.find StableAllocationRecord.key key snapshot.records with
  | none => do
    rejectIf (snapshot.records.length = maxStableAllocationRecords) .allocationCapacityExceeded
    allocateFresh sha256 target key snapshot extras
  | some record =>
    if record.state = .active then allocateReused snapshot record extras
    else allocateFresh sha256 target key snapshot extras

/-! ## The plan -/

def candidate (sha256 : Sha256) (content : PlanContent) (allocationDelta : StableAllocationDelta)
    (diagnostics : List PlannerDiagnostic) : Except PlannerError DeploymentPlanCandidate := do
  let contentDigest ← content.digest sha256
  pure { content, allocationDelta, diagnostics, contentDigest }

def supportedCard (deckLock : Deck.DeckLock) : Except PlannerError Deck.ResolvedCardUse := do
  rejectIf (deckLock.topology.links ≠ []) .unsupportedLink
  rejectIf (deckLock.topology.requirements ≠ []) .unsupportedRequirement
  match deckLock.topology.cardKeys, deckLock.resolvedClosure.cards with
  | [key], [card] => do
    rejectIf (card.ports ≠ []) .unsupportedPort
    rejectIf (card.config ≠ .canonicalEmpty) .unsupportedPerUseConfig
    rejectIf card.refinement.isSome .unsupportedRefinement
    rejectIf (card.role ≠ .referenceSubject) .unsupportedGeneralCard
    rejectIf (key ≠ card.key) .unsupportedDeckShape
    pure card
  | _, _ => .error .unsupportedDeckShape

def planLoop (sha256 : Sha256) (input : PlannerInput) (manifest : VerifiedRuntimeManifestIngressV1)
    (deckLock : Deck.DeckLock) (lifecycle : ValidatedReferenceLifecycleBudgets) (configDigest : Digest32) :
    Except PlannerError DeploymentPlanCandidate := do
  rejectIf (configDigest ≠ manifest.canonicalEmptyConfigDigest) .configMismatch
  let card ← supportedCard deckLock
  rejectIf (manifest.fixtureDefinition ≠ card.definition ∨ manifest.fixtureImplementation ≠ card.implementation
    ∨ manifest.fixtureExport ≠ card.artifactExport ∨ manifest.fixtureDefinitionDigest ≠ card.definitionDigest
    ∨ manifest.fixtureArtifactDigest ≠ card.artifactDigest) .manifestFixtureMismatch
  let allocation ← allocateActive sha256 input.target card.key input.allocation
  let content ← buildLoopContent input.target manifest
    { deckLockDigest := deckLock.digest, key := card.key, cardInstance := allocation.record.cardInstance,
      loopDomain := allocation.record.loopDomain, start := lifecycle.start, drain := lifecycle.drain,
      cleanup := lifecycle.cleanup }
  candidate sha256 content allocation.delta allocation.diagnostics

def planEmpty (sha256 : Sha256) (input : PlannerInput) (manifest : VerifiedRuntimeManifestIngressV1) :
    Except PlannerError DeploymentPlanCandidate := do
  let records := input.allocation.active.map (·.tombstoned)
  let nextGeneration ← advanceGeneration input.allocation.generation (records ≠ [])
  let content ← buildEmptyContent input.target manifest
  candidate sha256 content
    { baseGeneration := input.allocation.generation, nextGeneration,
      resultingHighWater := input.allocation.highWater, records }
    (if records = [] then [] else [.stableAllocationTombstoned])

def plannedManifest (input : PlannerInput) : Except PlannerError VerifiedRuntimeManifestIngressV1 := do
  let manifest ← okOr input.manifest .missingManifestProjection
  rejectIf (manifest.target ≠ input.target) .manifestTargetMismatch
  pure manifest

def planDesired (sha256 : Sha256) (input : PlannerInput) : Except PlannerError PlannerOutcome :=
  match input.desired with
  | .omitted => .ok .omitted
  | .oneSourceLoop deckLock lifecycle configDigest => do
    let manifest ← plannedManifest input
    let candidate ← planLoop sha256 input manifest deckLock lifecycle configDigest
    pure (.candidate candidate)
  | .emptyTarget => do
    let manifest ← plannedManifest input
    let candidate ← planEmpty sha256 input manifest
    pure (.candidate candidate)

def plan (sha256 : Sha256) (input : PlannerInput) : Except PlannerFault PlannerOutcome := do
  let order ← wrapErr .ofService (ServiceGraph.validateServiceDependencies input.serviceDependencies)
  rejectIf (order.startup ≠ []) (.error .unsupportedServiceDependency)
  wrapErr .error (validateTransition input.previous input.desired)
  rejectIf (input.allocation.target ≠ input.target) (.error .allocationTargetMismatch)
  validatePreviousAllocation input.previous input.allocation
  wrapErr .error (planDesired sha256 input)

end Controller
end ParaEgox
