import ParaEgox.DeckClosure
import ParaEgox.Peel

/-!
# DeckLock — the bytes of a lock determine what was locked

Every field is of fixed width, tagged, or counted, so the canonical bytes of a lock are read back in one way.
-/
namespace ParaEgox
namespace Deck

open Check Peel

theorem roleByte_inj : ∀ a b, roleByte a = roleByte b → a = b := by
  intro a b h
  cases a <;> cases b <;> first | rfl | cases h

theorem directionByte_inj : ∀ a b, directionByte a = directionByte b → a = b := by
  intro a b h
  cases a <;> cases b <;> first | rfl | cases h

theorem interactionByte_inj : ∀ a b, interactionByte a = interactionByte b → a = b := by
  intro a b h
  cases a <;> cases b <;> first | rfl | cases h

theorem cardinalityByte_inj : ∀ a b, cardinalityByte a = cardinalityByte b → a = b := by
  intro a b _
  cases a
  cases b
  rfl

theorem peel_endpoint {a b : DeckEndpointSpec} {r s : Bytes} (h : endpointBytes a ++ r = endpointBytes b ++ s) :
    a = b ∧ r = s := by
  simp only [endpointBytes, List.append_assoc] at h
  obtain ⟨hcard, h⟩ := ref16 h
  obtain ⟨hport, hrest⟩ := ref16 h
  obtain ⟨_, _⟩ := a
  obtain ⟨_, _⟩ := b
  subst hcard hport
  exact ⟨rfl, hrest⟩

theorem peels_port : Peels (fun _ => True) portBytes := by
  intro a b r s _ _ h
  simp only [portBytes, List.flatten_cons, List.flatten_nil, List.append_nil, List.append_assoc] at h
  obtain ⟨hkey, h⟩ := ref16 h
  obtain ⟨hdirection, h⟩ := byte directionByte_inj h
  obtain ⟨hid, h⟩ := ref16 h
  obtain ⟨hversion, h⟩ := u32 h
  obtain ⟨hcontent, h⟩ := digest h
  obtain ⟨hinteraction, h⟩ := byte interactionByte_inj h
  obtain ⟨hcardinality, hrest⟩ := byte cardinalityByte_inj h
  obtain ⟨_, ⟨_, ⟨_, _, _, _⟩, _, _⟩⟩ := a
  obtain ⟨_, ⟨_, ⟨_, _, _, _⟩, _, _⟩⟩ := b
  subst hkey hdirection hid hversion hcontent hinteraction hcardinality
  exact ⟨rfl, hrest⟩

theorem peels_link : Peels (fun _ => True) linkBytes := by
  intro a b r s _ _ h
  simp only [linkBytes, List.flatten_cons, List.flatten_nil, List.append_nil, List.append_assoc] at h
  obtain ⟨hkey, h⟩ := ref16 h
  obtain ⟨hsource, h⟩ := peel_endpoint h
  obtain ⟨htarget, h⟩ := peel_endpoint h
  obtain ⟨hprofile, hrest⟩ := ref16 h
  obtain ⟨_, _, _, _⟩ := a
  obtain ⟨_, _, _, _⟩ := b
  subst hkey hsource htarget hprofile
  exact ⟨rfl, hrest⟩

theorem peels_requirement : Peels (fun _ => True) requirementBytes := by
  intro a b r s _ _ h
  simp only [requirementBytes, List.append_assoc] at h
  obtain ⟨hkey, h⟩ := ref16 h
  obtain ⟨hreference, hrest⟩ := ref16 h
  obtain ⟨_, _⟩ := a
  obtain ⟨_, _⟩ := b
  subst hkey hreference
  exact ⟨rfl, hrest⟩

theorem peels_profile :
    Peels (fun _ => True) fun p : ResolvedDeliveryProfileCommitment => p.reference.asBytes ++ p.payloadDigest.asBytes := by
  intro a b r s _ _ h
  simp only [List.append_assoc] at h
  obtain ⟨hreference, h⟩ := ref16 h
  obtain ⟨hdigest, hrest⟩ := digest h
  obtain ⟨_, _⟩ := a
  obtain ⟨_, _⟩ := b
  subst hreference hdigest
  exact ⟨rfl, hrest⟩

theorem peels_resolved :
    Peels (fun _ => True) fun q : ResolvedRequirementCommitment => q.reference.asBytes ++ q.payloadDigest.asBytes := by
  intro a b r s _ _ h
  simp only [List.append_assoc] at h
  obtain ⟨hreference, h⟩ := ref16 h
  obtain ⟨hdigest, hrest⟩ := digest h
  obtain ⟨_, _⟩ := a
  obtain ⟨_, _⟩ := b
  subst hreference hdigest
  exact ⟨rfl, hrest⟩

theorem peel_refinement : ∀ {a b : Option ResolvedCardRefinementCommitment} {r s : Bytes},
    refinementBytes a ++ r = refinementBytes b ++ s → a = b ∧ r = s
  | none, none, _, _, h => ⟨rfl, (List.cons.inj h).2⟩
  | none, some _, _, _, h => absurd (List.cons.inj h).1 (by decide)
  | some _, none, _, _, h => absurd (List.cons.inj h).1 (by decide)
  | some a, some b, r, s, h => by
    simp only [refinementBytes, List.flatten_cons, List.flatten_nil, List.append_nil, List.append_assoc,
      List.append_cancel_left_eq] at h
    obtain ⟨hreference, h⟩ := ref16 h
    obtain ⟨hdigest, hrest⟩ := digest h
    obtain ⟨_, _⟩ := a
    obtain ⟨_, _⟩ := b
    subst hreference hdigest
    exact ⟨rfl, hrest⟩

theorem peel_config : ∀ {a b : DeckCardConfig} {r s : Bytes}, configBytes a ++ r = configBytes b ++ s → a = b ∧ r = s
  | .canonicalEmpty, .canonicalEmpty, _, _, h => ⟨rfl, (List.cons.inj h).2⟩
  | .canonicalEmpty, .digest _, _, _, h => absurd (List.cons.inj h).1 (by decide)
  | .digest _, .canonicalEmpty, _, _, h => absurd (List.cons.inj h).1 (by decide)
  | .digest a, .digest b, r, s, h => by
    obtain ⟨rfl, hrest⟩ := digest (List.cons.inj h).2
    exact ⟨rfl, hrest⟩

def cardBytes (card : ResolvedCardUse) : Bytes :=
  cardFields card ++ (bytesBE 4 card.ports.length ++ card.ports.flatMap portBytes)

theorem appendCount_ok {n : Nat} {bytes : Bytes} : appendCount n = .ok bytes ↔ n ≤ u32Max ∧ bytes = bytesBE 4 n := by
  simp only [appendCount, bind_ok, rejectIf_ok, exists_unit, pure_ok, Nat.not_lt]
  exact and_congr_right fun _ => eq_comm

theorem encodeCard_ok {card : ResolvedCardUse} {bytes : Bytes} :
    encodeCard card = .ok bytes ↔ card.ports.length ≤ u32Max ∧ bytes = cardBytes card := by
  simp only [encodeCard, bind_ok, appendCount_ok, pure_ok]
  constructor
  · rintro ⟨_, ⟨hle, rfl⟩, rfl⟩
    exact ⟨hle, rfl⟩
  · rintro ⟨hle, rfl⟩
    exact ⟨_, ⟨hle, rfl⟩, rfl⟩

theorem collect_encodeCard {cards : List ResolvedCardUse} {bodies : List Bytes} (h : collect encodeCard cards = .ok bodies) :
    (∀ card ∈ cards, card.ports.length ≤ u32Max) ∧ bodies.flatten = cards.flatMap cardBytes := by
  have hall : ∀ card ∈ cards, card.ports.length ≤ u32Max := by
    intro card hcard
    obtain ⟨bytes, hbytes⟩ := collect_ok_mem h card hcard
    exact (encodeCard_ok.1 hbytes).1
  rw [collect_map fun card hcard => encodeCard_ok.2 ⟨hall card hcard, rfl⟩] at h
  refine ⟨hall, ?_⟩
  rw [← Except.ok.inj h, List.flatMap_def]

theorem peels_card : Peels (fun card : ResolvedCardUse => card.ports.length ≤ u32Max) cardBytes := by
  intro a b r s ha hb h
  simp only [cardBytes, cardFields, List.flatten_cons, List.flatten_nil, List.append_nil, List.append_assoc] at h
  obtain ⟨hkey, h⟩ := ref16 h
  obtain ⟨hdefinition, h⟩ := ref16 h
  obtain ⟨hminimum, h⟩ := u32 h
  obtain ⟨hmaximum, h⟩ := u32 h
  obtain ⟨hversion, h⟩ := u32 h
  obtain ⟨hdigest, h⟩ := digest h
  obtain ⟨himplementation, h⟩ := ref16 h
  obtain ⟨hexport, h⟩ := ref16 h
  obtain ⟨hartifact, h⟩ := digest h
  obtain ⟨hrole, h⟩ := byte roleByte_inj h
  obtain ⟨hrefinement, h⟩ := peel_refinement h
  obtain ⟨hconfig, h⟩ := peel_config h
  obtain ⟨hports, hrest⟩ := peels_port.counted ha hb (fun _ _ => trivial) (fun _ _ => trivial) h
  obtain ⟨_, _, ⟨_, _⟩, _, _, _, _, _, _, _, _, _⟩ := a
  obtain ⟨_, _, ⟨_, _⟩, _, _, _, _, _, _, _, _, _⟩ := b
  subst hkey hdefinition hminimum hmaximum hversion hdigest himplementation hexport hartifact hrole hrefinement hconfig
    hports
  exact ⟨rfl, hrest⟩

/-- **The canonical bytes determine the deck key, the topology and the closure.** -/
theorem encodeLock_inj {deckKey deckKey' : Ref16} {topology topology' : DeckTopology}
    {closure closure' : ResolvedDeckClosure} {wire : Bytes} (h : encodeLock deckKey topology closure = .ok wire)
    (h' : encodeLock deckKey' topology' closure' = .ok wire) :
    deckKey = deckKey' ∧ topology = topology' ∧ closure = closure' := by
  simp only [encodeLock, bind_ok, appendCount_ok, pure_ok] at h h'
  obtain ⟨_, ⟨hkeys, rfl⟩, _, ⟨hlinks, rfl⟩, _, ⟨hreqs, rfl⟩, _, ⟨hcards, rfl⟩, bodies, hbodies, _, ⟨hprofiles, rfl⟩, _,
    ⟨hresolved, rfl⟩, rfl⟩ := h
  obtain ⟨_, ⟨hkeys', rfl⟩, _, ⟨hlinks', rfl⟩, _, ⟨hreqs', rfl⟩, _, ⟨hcards', rfl⟩, bodies', hbodies', _,
    ⟨hprofiles', rfl⟩, _, ⟨hresolved', rfl⟩, hwire⟩ := h'
  obtain ⟨hports, hflat⟩ := collect_encodeCard hbodies
  obtain ⟨hports', hflat'⟩ := collect_encodeCard hbodies'
  have hrefs : Peels (fun _ => True) Ref16.asBytes := fun a b r s _ _ heq => ref16 heq
  have hwire := hwire.symm
  simp only [List.flatten_cons, List.flatten_nil, List.append_nil, List.append_cancel_left_eq, hflat, hflat'] at hwire
  obtain ⟨hdeck, hwire⟩ := ref16 hwire
  obtain ⟨h1, hwire⟩ := hrefs.counted hkeys hkeys' (fun _ _ => trivial) (fun _ _ => trivial) hwire
  obtain ⟨h2, hwire⟩ := peels_link.counted hlinks hlinks' (fun _ _ => trivial) (fun _ _ => trivial) hwire
  obtain ⟨h3, hwire⟩ := peels_requirement.counted hreqs hreqs' (fun _ _ => trivial) (fun _ _ => trivial) hwire
  obtain ⟨h4, hwire⟩ := peels_card.counted hcards hcards' hports hports' hwire
  obtain ⟨h5, hwire⟩ := peels_profile.counted hprofiles hprofiles' (fun _ _ => trivial) (fun _ _ => trivial) hwire
  rw [← List.append_nil (List.flatMap _ closure.requirements),
    ← List.append_nil (List.flatMap _ closure'.requirements)] at hwire
  obtain ⟨h6, _⟩ := peels_resolved.counted hresolved hresolved' (fun _ _ => trivial) (fun _ _ => trivial) hwire
  obtain ⟨_, _, _⟩ := topology
  obtain ⟨_, _, _⟩ := topology'
  obtain ⟨_, _, _⟩ := closure
  obtain ⟨_, _, _⟩ := closure'
  subst h1 h2 h3 h4 h5 h6
  exact ⟨hdeck, rfl, rfl⟩

theorem compile_encodes {sha256 : Sha256} {spec : DeckSpec} {resolver : DeckResolverSnapshot} {lock : DeckLock}
    (h : compile sha256 spec resolver = .ok lock) :
    encodeLock lock.deckKey lock.topology lock.resolvedClosure = .ok lock.canonicalWire := by
  simp only [compile, sealLock, bind_ok, exists_unit, wrapErr_ok, pure_ok] at h
  obtain ⟨_, _, _, _, _, _, _, _, _, _, _, _, wire, hwire, _, _, rfl⟩ := h
  exact hwire

/-- **Compilation depends only on the declared sets**, a further well-formed entry that nothing refers to leaves a lock as it
is, and the bytes of two locks agree only when what they lock does. -/
theorem deck_compile_depends_on_declared_sets (sha256 : Sha256) :
    (∀ spec spec' resolver resolver', Rearranged spec spec' resolver resolver' →
      compile sha256 spec resolver = compile sha256 spec' resolver') ∧
    (∀ spec resolver resolver' lock, Extends spec resolver resolver' → compile sha256 spec resolver = .ok lock →
      compile sha256 spec resolver' = .ok lock) ∧
    (∀ spec resolver lock spec' resolver' lock', compile sha256 spec resolver = .ok lock →
      compile sha256 spec' resolver' = .ok lock' → lock.canonicalWire = lock'.canonicalWire →
        lock.deckKey = lock'.deckKey ∧ lock.topology = lock'.topology
          ∧ lock.resolvedClosure = lock'.resolvedClosure) := by
  refine ⟨fun _ _ _ _ h => h.compile sha256, fun _ _ _ _ hext h => hext.compile h, ?_⟩
  intro spec resolver lock spec' resolver' lock' h h' hwire
  have hencode := compile_encodes h
  rw [hwire] at hencode
  exact encodeLock_inj hencode (compile_encodes h')

/-! ## A definition without a version -/

def sampleDefinition (reference : Nat) (version : UInt32) : ResolvedCardDefinition :=
  ⟨.ofNat reference, version, .ofNat 1, .ofNat 2, .ofNat 3, .ofNat 4, [], []⟩

def sampleDeck : DeckSpec where
  deckKey := .ofNat 5
  cards := [⟨.ofNat 6, .ofNat 7, .referenceSubject, ⟨1, 1⟩, none, .canonicalEmpty⟩]
  links := []
  requirements := []
  display := []
  ownership := .deck
  lifetime := .deck

/-- A further definition that no card refers to, under a new reference and within the limits, is refused for its version. -/
theorem unreferenced_definition_refused :
    (compile (fun _ => 0) sampleDeck ⟨[sampleDefinition 7 1], [], []⟩).isOk = true ∧
    (∀ card ∈ sampleDeck.cards, card.definition ≠ (sampleDefinition 8 0).definition) ∧
    (sampleDefinition 8 0).definition ∉ [(sampleDefinition 7 1).definition] ∧
    [sampleDefinition 8 0, sampleDefinition 7 1].length ≤ maxResolverDefinitions ∧
    compile (fun _ => 0) sampleDeck ⟨[sampleDefinition 8 0, sampleDefinition 7 1], [], []⟩
      = .error (.invalidDefinitionVersion (.ofNat 8)) := by
  refine ⟨by decide +kernel, by decide +kernel, by decide +kernel, by decide +kernel, by decide +kernel⟩

end Deck
end ParaEgox
