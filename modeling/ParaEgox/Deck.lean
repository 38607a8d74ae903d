import ParaEgox.Assignment
import ParaEgox.Assoc
import ParaEgox.Keyed
import Mathlib.Data.List.Lex
import Mathlib.Data.Prod.Lex

/-!
# Deck — compiling a deck specification to its lock

The compiler sorts every declared collection by its key, refuses duplicates, resolves card uses, requirements and links
against a resolver snapshot, refuses cyclic decks with a concrete cycle, and encodes what it resolved.  The precedence of its
errors is part of its result.
-/
namespace ParaEgox
namespace Deck

open Check

/-! ## Specifications -/

inductive DeckOwnershipRequest
  | deck
  | application
  deriving DecidableEq

inductive DeckLifetimeRequest
  | deck
  | installation
  deriving DecidableEq

inductive DeckCardRole
  | referenceSubject
  | general
  deriving DecidableEq

inductive DeckCardConfig
  | canonicalEmpty
  | digest (d : Digest32)
  deriving DecidableEq

structure CardDefinitionVersionRequirement where
  minimum : UInt32
  maximumInclusive : UInt32
  deriving DecidableEq

namespace CardDefinitionVersionRequirement

def admits (r : CardDefinitionVersionRequirement) (version : UInt32) : Bool :=
  r.minimum ≠ 0 ∧ r.minimum ≤ r.maximumInclusive ∧ r.minimum ≤ version ∧ version ≤ r.maximumInclusive

def isValid (r : CardDefinitionVersionRequirement) : Bool := r.minimum ≠ 0 ∧ r.minimum ≤ r.maximumInclusive

end CardDefinitionVersionRequirement

structure ResolvedCardRefinementCommitment where
  reference : Ref16
  payloadDigest : Digest32
  deriving DecidableEq

structure DeckDisplayMetadata where
  label : Bytes
  canvasX : Int
  canvasY : Int

structure DeckCardSpec where
  key : Ref16
  definition : Ref16
  role : DeckCardRole
  requestedVersion : CardDefinitionVersionRequirement
  refinement : Option Ref16
  config : DeckCardConfig

structure DeckEndpointSpec where
  card : Ref16
  port : Ref16
  deriving DecidableEq

structure DeckRequirementSpec where
  key : Ref16
  reference : Ref16

structure DeckLinkSpec where
  key : Ref16
  source : DeckEndpointSpec
  target : DeckEndpointSpec
  deliveryProfile : Option Ref16

structure DeckSpec where
  deckKey : Ref16
  cards : List DeckCardSpec
  links : List DeckLinkSpec
  requirements : List DeckRequirementSpec
  display : List DeckDisplayMetadata
  ownership : DeckOwnershipRequest
  lifetime : DeckLifetimeRequest

structure ResolvedDeckPort where
  key : Ref16
  spec : PortSpec
  deriving DecidableEq

structure ResolvedCardDefinition where
  definition : Ref16
  version : UInt32
  definitionDigest : Digest32
  implementation : Ref16
  artifactExport : Ref16
  artifactDigest : Digest32
  ports : List ResolvedDeckPort
  refinements : List ResolvedCardRefinementCommitment

structure ResolvedDeliveryProfileCommitment where
  reference : Ref16
  payloadDigest : Digest32
  deriving DecidableEq

structure ResolvedRequirementCommitment where
  reference : Ref16
  payloadDigest : Digest32
  deriving DecidableEq

structure DeckResolverSnapshot where
  definitions : List ResolvedCardDefinition
  deliveryProfiles : List ResolvedDeliveryProfileCommitment
  requirements : List ResolvedRequirementCommitment

/-! ## Locks -/

structure DeckLink where
  key : Ref16
  source : DeckEndpointSpec
  target : DeckEndpointSpec
  deliveryProfile : Ref16
  deriving DecidableEq

structure DeckRequirement where
  key : Ref16
  reference : Ref16
  deriving DecidableEq

structure DeckTopology where
  cardKeys : List Ref16
  links : List DeckLink
  requirements : List DeckRequirement
  deriving DecidableEq

structure ResolvedCardUse where
  key : Ref16
  definition : Ref16
  requestedVersion : CardDefinitionVersionRequirement
  definitionVersion : UInt32
  definitionDigest : Digest32
  implementation : Ref16
  artifactExport : Ref16
  artifactDigest : Digest32
  role : DeckCardRole
  refinement : Option ResolvedCardRefinementCommitment
  config : DeckCardConfig
  ports : List ResolvedDeckPort
  deriving DecidableEq

structure ResolvedDeckClosure where
  cards : List ResolvedCardUse
  deliveryProfiles : List ResolvedDeliveryProfileCommitment
  requirements : List ResolvedRequirementCommitment
  deriving DecidableEq

structure DeckCycleWitness where
  component : List Ref16
  cards : List Ref16
  links : List Ref16
  deriving DecidableEq

structure DeckLock where
  deckKey : Ref16
  topology : DeckTopology
  resolvedClosure : ResolvedDeckClosure
  canonicalWire : Bytes
  digest : Digest32
  deriving DecidableEq

inductive DeckCompileError
  | applicationOwnershipUnsupported
  | installationLifetimeUnsupported
  | tooManyCards
  | tooManyLinks
  | tooManyRequirements
  | tooManyResolverDefinitions
  | tooManyPorts (definition : Ref16)
  | tooManyRefinements (definition : Ref16)
  | tooManyDeliveryProfiles
  | tooManyResolvedRequirements
  | tooManyDisplayEntries
  | displayLabelTooLong
  | emptyDeck
  | duplicateCardUse (key : Ref16)
  | invalidRequestedDefinitionVersion (key : Ref16)
  | duplicateResolvedDefinition (definition : Ref16)
  | invalidDefinitionVersion (definition : Ref16)
  | duplicateResolvedPort (definition port : Ref16)
  | duplicateResolvedRefinement (definition refinement : Ref16)
  | missingResolvedDefinition (definition : Ref16)
  | resolvedDefinitionVersionMismatch (card : Ref16)
  | missingResolvedRefinement (card refinement : Ref16)
  | duplicateRequirement (key : Ref16)
  | duplicateRequirementRef (reference : Ref16)
  | duplicateResolvedRequirement (reference : Ref16)
  | missingResolvedRequirement (reference : Ref16)
  | duplicateLink (key : Ref16)
  | duplicateResolvedDeliveryProfile (reference : Ref16)
  | missingDeliveryProfileRef (link : Ref16)
  | missingResolvedDeliveryProfile (reference : Ref16)
  | danglingSourceCard (link card : Ref16)
  | danglingTargetCard (link card : Ref16)
  | danglingSourcePort (link port : Ref16)
  | danglingTargetPort (link port : Ref16)
  | sourcePortIsNotOutput (link : Ref16)
  | targetPortIsNotInput (link : Ref16)
  | portSchemaMismatch (link : Ref16)
  | portInteractionMismatch (link : Ref16)
  | cyclicDeck (witness : DeckCycleWitness)
  | canonicalLengthOverflow
  | digest (e : DigestBuildError)
  deriving DecidableEq

def maxDeckCards : Nat := 256
def maxDeckLinks : Nat := 1024
def maxDeckRequirements : Nat := 256
def maxResolverDefinitions : Nat := 256
def maxPortsPerDefinition : Nat := 256
def maxRefinementsPerDefinition : Nat := 64
def maxResolvedDeliveryProfiles : Nat := 256
def maxResolvedRequirements : Nat := 256
def maxDisplayEntries : Nat := 256
def maxDisplayLabelBytes : Nat := 256

/-! ## Sorted collections -/

def firstDuplicate {κ : Type} [DecidableEq κ] : List κ → Option κ
  | a :: b :: rest => if a = b then some b else firstDuplicate (b :: rest)
  | _ => none

/-- `first_duplicate` as an early return. -/
def rejectDuplicate {κ : Type} [DecidableEq κ] (keys : List κ) (duplicate : κ → DeckCompileError) :
    Except DeckCompileError Unit :=
  whenSome (firstDuplicate keys) fun key => .error (duplicate key)

def sortDistinct {α : Type} (key : α → Ref16) (duplicate : Ref16 → DeckCompileError) (xs : List α) :
    Except DeckCompileError (List α) := do
  rejectDuplicate ((Keyed.sortBy key xs).map key) duplicate
  pure (Keyed.sortBy key xs)

/-- `min_by_key`: the first of the least entries. -/
def minByKey {α : Type} (key : α → Ref16) : List α → Option α
  | [] => none
  | x :: xs => match minByKey key xs with
    | none => some x
    | some y => if key x ≤ key y then some x else some y

/-! ## Cycles -/

/-- The edges a card has: the card at the other end and the link, in the order of the links. -/
def edgesOf (links : List DeckLink) (reverse : Bool) (card : Ref16) : List (Ref16 × Ref16) :=
  let ends := links.map fun link =>
    if reverse then (link.target.card, link.source.card, link.key) else (link.source.card, link.target.card, link.key)
  Keyed.sortBy (fun edge : Ref16 × Ref16 => toLex (edge.2, edge.1)) ((ends.filter (·.1 = card)).map (·.2))

structure Visit where
  visited : List Ref16
  finish : List Ref16

/-- `visit_finish`: a card is left behind after every card below it.  The fuel bounds the depth, which no visit takes past
the number of cards. -/
def visitFinish (links : List DeckLink) : Nat → Ref16 → Visit → Visit
  | 0, _, s => s
  | fuel + 1, card, s =>
    if card ∈ s.visited then s
    else
      let below := (edgesOf links false card).foldl (fun s edge => visitFinish links fuel edge.1 s)
        { s with visited := card :: s.visited }
      { below with finish := below.finish ++ [card] }

/-- `visit_component`: a card is left behind before the cards that reach it. -/
def visitComponent (links : List DeckLink) : Nat → Ref16 → Visit → Visit
  | 0, _, s => s
  | fuel + 1, card, s =>
    if card ∈ s.visited then s
    else
      (edgesOf links true card).foldl (fun s edge => visitComponent links fuel edge.1 s)
        ⟨card :: s.visited, s.finish ++ [card]⟩

def componentsFrom (links : List DeckLink) (fuel : Nat) : List Ref16 → List Ref16 → List (List Ref16)
  | _, [] => []
  | visited, card :: rest =>
    if card ∈ visited then componentsFrom links fuel visited rest
    else
      let found := visitComponent links fuel card ⟨visited, []⟩
      Keyed.sortBy id found.finish :: componentsFrom links fuel found.visited rest

structure CycleSearch where
  colors : List (Ref16 × Nat)
  stackCards : List Ref16
  stackLinks : List Ref16

/-- How a loop over edges ends: it runs out of them, or the function returns from inside it. -/
inductive EdgeLoop
  | finished (s : CycleSearch)
  | returned (witness : Option (List Ref16 × List Ref16)) (s : CycleSearch)

def closeCycle (s : CycleSearch) (target link : Ref16) : Option (List Ref16 × List Ref16) :=
  (s.stackCards.findIdx? (· = target)).map fun start =>
    (s.stackCards.drop start ++ [target], s.stackLinks.drop start ++ [link])

/-- The loop of `visit_cycle` over the edges of a card. -/
def edgeLoop (visit : Ref16 → CycleSearch → Option (List Ref16 × List Ref16) × CycleSearch) :
    List (Ref16 × Ref16) → CycleSearch → EdgeLoop
  | [], s => .finished s
  | (target, link) :: rest, s =>
    match (Assoc.get target s.colors).getD 0 with
    | 0 =>
      let out := visit target { s with stackLinks := s.stackLinks ++ [link] }
      match out.1 with
      | some witness => .returned (some witness) out.2
      | none => edgeLoop visit rest { out.2 with stackLinks := out.2.stackLinks.dropLast }
    | 1 => .returned (closeCycle s target link) s
    | _ => edgeLoop visit rest s

def visitCycle (outgoing : Ref16 → List (Ref16 × Ref16)) : Nat → Ref16 → CycleSearch →
    Option (List Ref16 × List Ref16) × CycleSearch
  | 0, _, s => (none, s)
  | fuel + 1, card, s =>
    let entered := { s with colors := Assoc.put card 1 s.colors, stackCards := s.stackCards ++ [card] }
    match edgeLoop (visitCycle outgoing fuel) (outgoing card) entered with
    | .returned witness s => (witness, s)
    | .finished s => (none, { s with stackCards := s.stackCards.dropLast, colors := Assoc.put card 2 s.colors })

def searchFrom (outgoing : Ref16 → List (Ref16 × Ref16)) (fuel : Nat) : List Ref16 → CycleSearch →
    Option (List Ref16 × List Ref16)
  | [], _ => none
  | card :: rest, s =>
    if (Assoc.get card s.colors).getD 0 = 0 then
      match visitCycle outgoing fuel card s with
      | (some witness, _) => some witness
      | (none, s) => searchFrom outgoing fuel rest s
    else searchFrom outgoing fuel rest s

/-- `concrete_cycle`, over the links inside a component. -/
def concreteCycle (component : List Ref16) (links : List DeckLink) (fuel : Nat) : Option (List Ref16 × List Ref16) :=
  let inside := links.filter fun link => link.source.card ∈ component ∧ link.target.card ∈ component
  searchFrom (edgesOf inside false) fuel component ⟨[], [], []⟩

def componentIsCyclic (component : List Ref16) (links : List DeckLink) : Bool :=
  1 < component.length ∨
    component.head?.any fun card => links.any fun link => link.source.card = card ∧ link.target.card = card

def cycleWitness (cards : List Ref16) (links : List DeckLink) : Option DeckCycleWitness :=
  let fuel := cards.length + 1
  let finish := (cards.foldl (fun s card => visitFinish links fuel card s) ⟨[], []⟩).finish
  let components := (componentsFrom links fuel [] finish.reverse).insertionSort (· ≤ ·)
  components.findSome? fun component =>
    if componentIsCyclic component links then
      (concreteCycle component links fuel).map fun cycle => ⟨component, cycle.1, cycle.2⟩
    else none

/-! ## Encoding -/

def deckLockMagic : Bytes := Text.bytes (s := "PXDL") ⟨_, by conv => rhs; simp [ascii]⟩
def deckLockDigestDomain : Bytes :=
  Text.bytes (s := "paraegox.deployment.deck-lock.sha256.v1") ⟨_, by conv => rhs; simp [ascii]⟩

def appendCount (value : Nat) : Except DeckCompileError Bytes := do
  rejectIf (u32Max < value) .canonicalLengthOverflow
  pure (bytesBE 4 value)

def roleByte : DeckCardRole → UInt8
  | .referenceSubject => 1
  | .general => 2

def directionByte : PortDirection → UInt8
  | .outgoing => 1
  | .incoming => 2

def interactionByte : InteractionKind → UInt8
  | .signal => 1
  | .event => 2

def cardinalityByte : PortCardinality → UInt8
  | .one => 1

def endpointBytes (endpoint : DeckEndpointSpec) : Bytes := endpoint.card.asBytes ++ endpoint.port.asBytes

def portBytes (port : ResolvedDeckPort) : Bytes :=
  [port.key.asBytes, [directionByte port.spec.direction], port.spec.schema.id.asBytes,
    bytesBE 4 port.spec.schema.version.toNat, port.spec.schema.contentDigest.asBytes,
    [interactionByte port.spec.interaction], [cardinalityByte port.spec.cardinality]].flatten

def linkBytes (link : DeckLink) : Bytes :=
  [link.key.asBytes, endpointBytes link.source, endpointBytes link.target, link.deliveryProfile.asBytes].flatten

def requirementBytes (requirement : DeckRequirement) : Bytes :=
  requirement.key.asBytes ++ requirement.reference.asBytes

def refinementBytes : Option ResolvedCardRefinementCommitment → Bytes
  | none => [0]
  | some refinement => [[1], refinement.reference.asBytes, refinement.payloadDigest.asBytes].flatten

def configBytes : DeckCardConfig → Bytes
  | .canonicalEmpty => [0]
  | .digest d => 1 :: d.asBytes

def cardFields (card : ResolvedCardUse) : Bytes :=
  [card.key.asBytes, card.definition.asBytes, bytesBE 4 card.requestedVersion.minimum.toNat,
    bytesBE 4 card.requestedVersion.maximumInclusive.toNat, bytesBE 4 card.definitionVersion.toNat,
    card.definitionDigest.asBytes, card.implementation.asBytes, card.artifactExport.asBytes,
    card.artifactDigest.asBytes, [roleByte card.role], refinementBytes card.refinement, configBytes card.config].flatten

def encodeCard (card : ResolvedCardUse) : Except DeckCompileError Bytes := do
  let count ← appendCount card.ports.length
  pure (cardFields card ++ (count ++ card.ports.flatMap portBytes))

def encodeLock (deckKey : Ref16) (topology : DeckTopology) (closure : ResolvedDeckClosure) :
    Except DeckCompileError Bytes := do
  let cardKeys ← appendCount topology.cardKeys.length
  let links ← appendCount topology.links.length
  let requirements ← appendCount topology.requirements.length
  let cards ← appendCount closure.cards.length
  let cardBodies ← collect encodeCard closure.cards
  let profiles ← appendCount closure.deliveryProfiles.length
  let resolved ← appendCount closure.requirements.length
  pure [deckLockMagic, bytesBE 2 1, deckKey.asBytes, cardKeys, topology.cardKeys.flatMap Ref16.asBytes, links,
    topology.links.flatMap linkBytes, requirements, topology.requirements.flatMap requirementBytes, cards,
    cardBodies.flatten, profiles, closure.deliveryProfiles.flatMap (fun p => p.reference.asBytes ++ p.payloadDigest.asBytes),
    resolved, closure.requirements.flatMap (fun r => r.reference.asBytes ++ r.payloadDigest.asBytes)].flatten

/-! ## Compilation -/

def checkDeclared (spec : DeckSpec) (resolver : DeckResolverSnapshot) : Except DeckCompileError Unit := do
  rejectIf (spec.ownership = .application) .applicationOwnershipUnsupported
  rejectIf (spec.lifetime = .installation) .installationLifetimeUnsupported
  rejectIf (maxDeckCards < spec.cards.length) .tooManyCards
  rejectIf (maxDeckLinks < spec.links.length) .tooManyLinks
  rejectIf (maxDeckRequirements < spec.requirements.length) .tooManyRequirements
  rejectIf (maxResolverDefinitions < resolver.definitions.length) .tooManyResolverDefinitions
  rejectIf (maxResolvedDeliveryProfiles < resolver.deliveryProfiles.length) .tooManyDeliveryProfiles
  rejectIf (maxResolvedRequirements < resolver.requirements.length) .tooManyResolvedRequirements
  rejectIf (maxDisplayEntries < spec.display.length) .tooManyDisplayEntries
  rejectIf (spec.display.any fun entry => maxDisplayLabelBytes < entry.label.length) .displayLabelTooLong
  rejectIf (spec.cards = []) .emptyDeck

def orderCards (cards : List DeckCardSpec) : Except DeckCompileError (List DeckCardSpec) := do
  let cards ← sortDistinct DeckCardSpec.key .duplicateCardUse cards
  whenSome (cards.find? fun card => !card.requestedVersion.isValid) fun card =>
    .error (.invalidRequestedDefinitionVersion card.key)
  pure cards

def preflightError (definition : ResolvedCardDefinition) : Option (Ref16 × DeckCompileError) :=
  if definition.version = 0 then some (definition.definition, .invalidDefinitionVersion definition.definition)
  else if maxPortsPerDefinition < definition.ports.length then
    some (definition.definition, .tooManyPorts definition.definition)
  else if maxRefinementsPerDefinition < definition.refinements.length then
    some (definition.definition, .tooManyRefinements definition.definition)
  else none

def orderDefinition (definition : ResolvedCardDefinition) : Except DeckCompileError ResolvedCardDefinition := do
  let ports ← sortDistinct ResolvedDeckPort.key (.duplicateResolvedPort definition.definition) definition.ports
  let refinements ← sortDistinct ResolvedCardRefinementCommitment.reference
    (.duplicateResolvedRefinement definition.definition) definition.refinements
  pure { definition with ports, refinements }

def orderDefinitions (definitions : List ResolvedCardDefinition) :
    Except DeckCompileError (List ResolvedCardDefinition) := do
  rejectDuplicate (Keyed.sortBy id (definitions.map (·.definition))) .duplicateResolvedDefinition
  whenSome (minByKey Prod.fst (definitions.filterMap preflightError)) fun found => .error found.2
  collect orderDefinition (Keyed.sortBy ResolvedCardDefinition.definition definitions)

def resolveRefinement (definition : ResolvedCardDefinition) (card : DeckCardSpec) :
    Except DeckCompileError (Option ResolvedCardRefinementCommitment) :=
  match card.refinement with
  | none => .ok none
  | some reference => do
    let found ← okOr (Keyed.find ResolvedCardRefinementCommitment.reference reference definition.refinements)
      (.missingResolvedRefinement card.key reference)
    pure (some found)

def resolveCard (definitions : List ResolvedCardDefinition) (card : DeckCardSpec) :
    Except DeckCompileError ResolvedCardUse := do
  let definition ← okOr (Keyed.find ResolvedCardDefinition.definition card.definition definitions)
    (.missingResolvedDefinition card.definition)
  rejectIf (card.requestedVersion.admits definition.version = false) (.resolvedDefinitionVersionMismatch card.key)
  let refinement ← resolveRefinement definition card
  pure {
    key := card.key, definition := definition.definition, requestedVersion := card.requestedVersion
    definitionVersion := definition.version, definitionDigest := definition.definitionDigest
    implementation := definition.implementation, artifactExport := definition.artifactExport
    artifactDigest := definition.artifactDigest, role := card.role, refinement := refinement, config := card.config
    ports := definition.ports }

def resolveRequirement (available : List ResolvedRequirementCommitment) (requirement : DeckRequirementSpec) :
    Except DeckCompileError ResolvedRequirementCommitment :=
  okOr (Keyed.find ResolvedRequirementCommitment.reference requirement.reference available)
    (.missingResolvedRequirement requirement.reference)

/-- The requirements in the order of their keys, and their commitments in the order of the references. -/
def resolveRequirements (declared : List DeckRequirementSpec) (available : List ResolvedRequirementCommitment) :
    Except DeckCompileError (List DeckRequirement × List ResolvedRequirementCommitment) := do
  let requirements ← sortDistinct DeckRequirementSpec.key .duplicateRequirement declared
  rejectDuplicate (Keyed.sortBy id (requirements.map (·.reference))) .duplicateRequirementRef
  let available ← sortDistinct ResolvedRequirementCommitment.reference .duplicateResolvedRequirement available
  let resolved ← collect (resolveRequirement available) requirements
  pure (requirements.map (fun r => ⟨r.key, r.reference⟩),
    Keyed.sortBy ResolvedRequirementCommitment.reference resolved)

def findPort (card : ResolvedCardUse) (key : Ref16) : Option ResolvedDeckPort :=
  Keyed.find ResolvedDeckPort.key key card.ports

def resolveLink (profiles : List ResolvedDeliveryProfileCommitment) (cards : List ResolvedCardUse)
    (link : DeckLinkSpec) : Except DeckCompileError DeckLink := do
  let deliveryProfile ← okOr link.deliveryProfile (.missingDeliveryProfileRef link.key)
  rejectIf ((Keyed.find ResolvedDeliveryProfileCommitment.reference deliveryProfile profiles).isNone)
    (.missingResolvedDeliveryProfile deliveryProfile)
  let source ← okOr (Keyed.find ResolvedCardUse.key link.source.card cards)
    (.danglingSourceCard link.key link.source.card)
  let target ← okOr (Keyed.find ResolvedCardUse.key link.target.card cards)
    (.danglingTargetCard link.key link.target.card)
  let sourcePort ← okOr (findPort source link.source.port) (.danglingSourcePort link.key link.source.port)
  let targetPort ← okOr (findPort target link.target.port) (.danglingTargetPort link.key link.target.port)
  rejectIf (sourcePort.spec.direction ≠ .outgoing) (.sourcePortIsNotOutput link.key)
  rejectIf (targetPort.spec.direction ≠ .incoming) (.targetPortIsNotInput link.key)
  rejectIf (sourcePort.spec.schema ≠ targetPort.spec.schema) (.portSchemaMismatch link.key)
  rejectIf (sourcePort.spec.interaction ≠ targetPort.spec.interaction) (.portInteractionMismatch link.key)
  pure ⟨link.key, link.source, link.target, deliveryProfile⟩

def resolveProfile (profiles : List ResolvedDeliveryProfileCommitment) (reference : Ref16) :
    Except DeckCompileError ResolvedDeliveryProfileCommitment :=
  okOr (Keyed.find ResolvedDeliveryProfileCommitment.reference reference profiles)
    (.missingResolvedDeliveryProfile reference)

/-- The links in the order of their keys, and the profiles they use in the order of the references. -/
def resolveLinks (declared : List DeckLinkSpec) (available : List ResolvedDeliveryProfileCommitment)
    (cards : List ResolvedCardUse) :
    Except DeckCompileError (List DeckLink × List ResolvedDeliveryProfileCommitment) := do
  let links ← sortDistinct DeckLinkSpec.key .duplicateLink declared
  let profiles ← sortDistinct ResolvedDeliveryProfileCommitment.reference .duplicateResolvedDeliveryProfile available
  let canonical ← collect (resolveLink profiles cards) links
  let used := Keyed.sortBy id (canonical.map (·.deliveryProfile)).dedup
  let resolved ← collect (resolveProfile profiles) used
  pure (canonical, resolved)

def sealLock (sha256 : Sha256) (deckKey : Ref16) (topology : DeckTopology) (closure : ResolvedDeckClosure) :
    Except DeckCompileError DeckLock := do
  whenSome (cycleWitness topology.cardKeys topology.links) fun witness => .error (.cyclicDeck witness)
  let canonicalWire ← encodeLock deckKey topology closure
  let digest ← wrapErr .digest (digest32 sha256 deckLockDigestDomain [canonicalWire])
  pure ⟨deckKey, topology, closure, canonicalWire, digest⟩

def compile (sha256 : Sha256) (spec : DeckSpec) (resolver : DeckResolverSnapshot) : Except DeckCompileError DeckLock := do
  checkDeclared spec resolver
  let cards ← orderCards spec.cards
  let definitions ← orderDefinitions resolver.definitions
  let resolvedCards ← collect (resolveCard definitions) cards
  let requirements ← resolveRequirements spec.requirements resolver.requirements
  let links ← resolveLinks spec.links resolver.deliveryProfiles resolvedCards
  sealLock sha256 spec.deckKey ⟨cards.map (·.key), links.1, requirements.1⟩ ⟨resolvedCards, links.2, requirements.2⟩

end Deck
end ParaEgox
