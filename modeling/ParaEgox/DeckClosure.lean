import ParaEgox.DeckOrder
import Mathlib.Data.List.Dedup

/-!
# DeckClosure — what a deck does not refer to does not reach its lock

A resolver entry is read only through the references of the deck.  A further entry that is well formed on its own and that
nothing refers to leaves the lock as it is.
-/
namespace ParaEgox
namespace Deck

open Check

/-! ## The index of definitions -/

def ordered (d : ResolvedCardDefinition) : ResolvedCardDefinition :=
  { d with
    ports := Keyed.sortBy ResolvedDeckPort.key d.ports
    refinements := Keyed.sortBy ResolvedCardRefinementCommitment.reference d.refinements }

structure WellFormed (d : ResolvedCardDefinition) : Prop where
  version : d.version ≠ 0
  ports_le : d.ports.length ≤ maxPortsPerDefinition
  refinements_le : d.refinements.length ≤ maxRefinementsPerDefinition
  ports : (d.ports.map (·.key)).Nodup
  refinements : (d.refinements.map (·.reference)).Nodup

variable {d : ResolvedCardDefinition} {ds : List ResolvedCardDefinition}

theorem preflightError_none : preflightError d = none ↔
    d.version ≠ 0 ∧ d.ports.length ≤ maxPortsPerDefinition ∧ d.refinements.length ≤ maxRefinementsPerDefinition := by
  unfold preflightError
  by_cases hversion : d.version = 0
  · simp [hversion]
  · rw [if_neg hversion]
    by_cases hports : maxPortsPerDefinition < d.ports.length
    · simp [hports]
    · rw [if_neg hports]
      by_cases hrefinements : maxRefinementsPerDefinition < d.refinements.length
      · simp [hrefinements]
      · simp only [if_neg hrefinements, true_iff]
        exact ⟨hversion, Nat.not_lt.1 hports, Nat.not_lt.1 hrefinements⟩

theorem orderDefinition_ok {d' : ResolvedCardDefinition} : orderDefinition d = .ok d' ↔
    (d.ports.map (·.key)).Nodup ∧ (d.refinements.map (·.reference)).Nodup ∧ d' = ordered d := by
  simp only [orderDefinition, bind_ok, sortDistinct_ok, pure_ok]
  constructor
  · rintro ⟨_, ⟨hports, rfl⟩, _, ⟨hrefinements, rfl⟩, rfl⟩
    exact ⟨hports, hrefinements, rfl⟩
  · rintro ⟨hports, hrefinements, rfl⟩
    exact ⟨_, ⟨hports, rfl⟩, _, ⟨hrefinements, rfl⟩, rfl⟩

theorem orderDefinitions_ok {index : List ResolvedCardDefinition} : orderDefinitions ds = .ok index ↔
    (ds.map (·.definition)).Nodup ∧ (∀ d ∈ ds, WellFormed d)
      ∧ index = (Keyed.sortBy ResolvedCardDefinition.definition ds).map ordered := by
  simp only [orderDefinitions, bind_ok, rejectDuplicate_ok (sortBy_id_pairwise _), exists_unit, whenSome_ok,
    (Keyed.sortBy_perm id (ds.map (·.definition))).nodup_iff]
  constructor
  · rintro ⟨hnodup, hpreflight, hcollect⟩
    have hnone : ds.filterMap preflightError = [] := by
      cases hmin : minByKey Prod.fst (ds.filterMap preflightError) with
      | none => exact minByKey_none.1 hmin
      | some found => cases hpreflight found hmin
    have hfine : ∀ d ∈ ds, WellFormed d := by
      intro d hd
      obtain ⟨hversion, hports, hrefinements⟩ := preflightError_none.1 (List.filterMap_eq_nil_iff.1 hnone d hd)
      obtain ⟨d', hd'⟩ := collect_ok_mem hcollect d ((Keyed.mem_sortBy _).2 hd)
      obtain ⟨hp, hr, _⟩ := orderDefinition_ok.1 hd'
      exact ⟨hversion, hports, hrefinements, hp, hr⟩
    refine ⟨hnodup, hfine, ?_⟩
    rw [collect_map fun d hd => orderDefinition_ok.2
      ⟨(hfine d ((Keyed.mem_sortBy _).1 hd)).ports, (hfine d ((Keyed.mem_sortBy _).1 hd)).refinements, rfl⟩] at hcollect
    exact (Except.ok.inj hcollect).symm
  · rintro ⟨hnodup, hfine, rfl⟩
    refine ⟨hnodup, fun found hmin => ?_, collect_map fun d hd => orderDefinition_ok.2
      ⟨(hfine d ((Keyed.mem_sortBy _).1 hd)).ports, (hfine d ((Keyed.mem_sortBy _).1 hd)).refinements, rfl⟩⟩
    obtain ⟨d, hd, hfound⟩ := List.mem_filterMap.1 (minByKey_some hmin).1
    have hd' := hfine d hd
    rw [preflightError_none.2 ⟨hd'.version, hd'.ports_le, hd'.refinements_le⟩] at hfound
    cases hfound

theorem find_index (k : Ref16) (ds : List ResolvedCardDefinition) :
    Keyed.find ResolvedCardDefinition.definition k (ds.map ordered)
      = (Keyed.find ResolvedCardDefinition.definition k ds).map ordered := by
  unfold Keyed.find
  rw [List.find?_map]
  rfl

theorem resolveCard_of_find {index index' : List ResolvedCardDefinition} {d' : ResolvedCardDefinition}
    {card : DeckCardSpec} (h : Keyed.find ResolvedCardDefinition.definition card.definition index = some d)
    (h' : Keyed.find ResolvedCardDefinition.definition card.definition index' = some d')
    (hsame : d' = { d with refinements := d'.refinements })
    (hrefinement : resolveRefinement d' card = resolveRefinement d card) :
    resolveCard index' card = resolveCard index card := by
  obtain ⟨refinements, rfl⟩ : ∃ refinements, d' = { d with refinements := refinements } := ⟨_, hsame⟩
  unfold resolveCard
  rw [h, h']
  dsimp only [okOr, bind, Except.bind]
  rw [hrefinement]

/-! ## Further entries -/

/-- **One further resolver entry that nothing of the deck refers to**, under a new key and within the limits.  A further
definition is well formed on its own. -/
inductive Extends (spec : DeckSpec) (resolver : DeckResolverSnapshot) : DeckResolverSnapshot → Prop
  | definition (d : ResolvedCardDefinition) (ds : List ResolvedCardDefinition) (wellFormed : WellFormed d)
      (new : d.definition ∉ resolver.definitions.map (·.definition))
      (unused : ∀ card ∈ spec.cards, card.definition ≠ d.definition)
      (limit : resolver.definitions.length < maxResolverDefinitions) (perm : ds.Perm (d :: resolver.definitions)) :
      Extends spec resolver { resolver with definitions := ds }
  | refinement (before after : List ResolvedCardDefinition) (d : ResolvedCardDefinition)
      (r : ResolvedCardRefinementCommitment) (rs : List ResolvedCardRefinementCommitment)
      (owner : resolver.definitions = before ++ d :: after) (new : r.reference ∉ d.refinements.map (·.reference))
      (unused : ∀ card ∈ spec.cards, card.definition = d.definition → card.refinement ≠ some r.reference)
      (limit : d.refinements.length < maxRefinementsPerDefinition) (perm : rs.Perm (r :: d.refinements)) :
      Extends spec resolver { resolver with definitions := before ++ { d with refinements := rs } :: after }
  | profile (p : ResolvedDeliveryProfileCommitment) (ps : List ResolvedDeliveryProfileCommitment)
      (new : p.reference ∉ resolver.deliveryProfiles.map (·.reference))
      (unused : ∀ link ∈ spec.links, link.deliveryProfile ≠ some p.reference)
      (limit : resolver.deliveryProfiles.length < maxResolvedDeliveryProfiles)
      (perm : ps.Perm (p :: resolver.deliveryProfiles)) : Extends spec resolver { resolver with deliveryProfiles := ps }
  | requirement (q : ResolvedRequirementCommitment) (qs : List ResolvedRequirementCommitment)
      (new : q.reference ∉ resolver.requirements.map (·.reference))
      (unused : ∀ requirement ∈ spec.requirements, requirement.reference ≠ q.reference)
      (limit : resolver.requirements.length < maxResolvedRequirements)
      (perm : qs.Perm (q :: resolver.requirements)) : Extends spec resolver { resolver with requirements := qs }

section Entries

variable {α : Type} {key : α → Ref16}

theorem nodup_of_new {xs ys : List α} {x : α} (hp : ys.Perm (x :: xs)) (hnew : key x ∉ xs.map key)
    (h : (xs.map key).Nodup) : (ys.map key).Nodup := by
  refine (hp.map key).nodup_iff.2 ?_
  exact List.nodup_cons.2 ⟨hnew, h⟩

theorem find_sortBy_of_new {xs ys : List α} {x : α} (hp : ys.Perm (x :: xs)) (hnew : key x ∉ xs.map key)
    (h : (xs.map key).Nodup) {k : Ref16} (hk : k ≠ key x) :
    Keyed.find key k (Keyed.sortBy key ys) = Keyed.find key k (Keyed.sortBy key xs) := by
  refine (Keyed.ascending_sortBy key (nodup_of_new hp hnew h)).find_congr key (Keyed.ascending_sortBy key h) fun a ha => ?_
  rw [Keyed.mem_sortBy, Keyed.mem_sortBy, hp.mem_iff, List.mem_cons]
  refine ⟨fun hmem => hmem.resolve_left fun heq => hk ?_, .inr⟩
  rw [← ha, heq]

end Entries

variable {sha256 : Sha256} {spec : DeckSpec} {resolver : DeckResolverSnapshot} {lock : DeckLock}

theorem orderCards_mem {declared cards : List DeckCardSpec} (h : orderCards declared = .ok cards) :
    ∀ card ∈ cards, card ∈ declared := by
  simp only [orderCards, bind_ok, sortDistinct_ok, exists_unit, pure_ok] at h
  obtain ⟨_, ⟨_, rfl⟩, _, rfl⟩ := h
  exact fun card hcard => (Keyed.mem_sortBy _).1 hcard

theorem checkDeclared_of_sizes {resolver' : DeckResolverSnapshot} (h : checkDeclared spec resolver = .ok ())
    (hdefinitions : resolver'.definitions.length ≤ maxResolverDefinitions)
    (hprofiles : resolver'.deliveryProfiles.length ≤ maxResolvedDeliveryProfiles)
    (hrequirements : resolver'.requirements.length ≤ maxResolvedRequirements) : checkDeclared spec resolver' = .ok () := by
  simp only [checkDeclared, bind_ok, rejectIf_ok, exists_unit, Nat.not_lt] at h ⊢
  obtain ⟨h1, h2, h3, h4, h5, _, _, _, h9⟩ := h
  exact ⟨h1, h2, h3, h4, h5, hdefinitions, hprofiles, hrequirements, h9⟩

theorem checkDeclared_sizes (h : checkDeclared spec resolver = .ok ()) :
    resolver.definitions.length ≤ maxResolverDefinitions
      ∧ resolver.deliveryProfiles.length ≤ maxResolvedDeliveryProfiles
      ∧ resolver.requirements.length ≤ maxResolvedRequirements := by
  simp only [checkDeclared, bind_ok, rejectIf_ok, exists_unit, Nat.not_lt] at h
  obtain ⟨_, _, _, _, _, h6, h7, h8, _⟩ := h
  exact ⟨h6, h7, h8⟩

theorem compile_of_definitions (h : compile sha256 spec resolver = .ok lock)
    (hlimit : ds.length ≤ maxResolverDefinitions)
    (hindex : ∀ index, orderDefinitions resolver.definitions = .ok index →
      ∃ index', orderDefinitions ds = .ok index' ∧ ∀ card ∈ spec.cards, resolveCard index' card = resolveCard index card) :
    compile sha256 spec { resolver with definitions := ds } = .ok lock := by
  simp only [compile, bind_ok, exists_unit] at h
  obtain ⟨hdeclared, cards, hcards, index, hordered, resolved, hresolved, requirements, hrequirements, links, hlinks,
    hseal⟩ := h
  obtain ⟨index', hordered', hsame⟩ := hindex index hordered
  obtain ⟨_, hprofiles, hreqs⟩ := checkDeclared_sizes hdeclared
  have hresolved' : collect (resolveCard index') cards = .ok resolved := by
    rw [collect_congr fun card hcard => hsame card (orderCards_mem hcards card hcard)]
    exact hresolved
  exact ok_bind (checkDeclared_of_sizes hdeclared hlimit hprofiles hreqs) <| ok_bind hcards <| ok_bind hordered' <|
    ok_bind hresolved' <| ok_bind hrequirements <| ok_bind hlinks hseal

theorem compile_definition (h : compile sha256 spec resolver = .ok lock) (hfine : WellFormed d)
    (hnew : d.definition ∉ resolver.definitions.map (·.definition))
    (hunused : ∀ card ∈ spec.cards, card.definition ≠ d.definition)
    (hlimit : resolver.definitions.length < maxResolverDefinitions) (hperm : ds.Perm (d :: resolver.definitions)) :
    compile sha256 spec { resolver with definitions := ds } = .ok lock := by
  have hlength : ds.length ≤ maxResolverDefinitions := by
    rw [hperm.length_eq, List.length_cons]
    exact hlimit
  refine compile_of_definitions h hlength fun index hindex => ?_
  obtain ⟨hnodup, hall, rfl⟩ := orderDefinitions_ok.1 hindex
  refine ⟨_, orderDefinitions_ok.2 ⟨nodup_of_new hperm hnew hnodup, fun x hx => ?_, rfl⟩, fun card hcard => ?_⟩
  · rcases List.mem_cons.1 (hperm.mem_iff.1 hx) with rfl | hx
    · exact hfine
    · exact hall x hx
  · unfold resolveCard
    rw [find_index, find_index, find_sortBy_of_new hperm hnew hnodup (hunused card hcard)]

theorem compile_refinement {before after : List ResolvedCardDefinition}
    {r : ResolvedCardRefinementCommitment} {rs : List ResolvedCardRefinementCommitment}
    (h : compile sha256 spec resolver = .ok lock) (howner : resolver.definitions = before ++ d :: after)
    (hnew : r.reference ∉ d.refinements.map (·.reference))
    (hunused : ∀ card ∈ spec.cards, card.definition = d.definition → card.refinement ≠ some r.reference)
    (hlimit : d.refinements.length < maxRefinementsPerDefinition) (hperm : rs.Perm (r :: d.refinements)) :
    compile sha256 spec { resolver with definitions := before ++ { d with refinements := rs } :: after } = .ok lock := by
  have hdeclared : checkDeclared spec resolver = .ok () := by
    simp only [compile, bind_ok, exists_unit] at h
    exact h.1
  have hsizes := (checkDeclared_sizes hdeclared).1
  have hkeys : (before ++ { d with refinements := rs } :: after).map (·.definition)
      = resolver.definitions.map (·.definition) := by
    rw [howner]
    simp
  refine compile_of_definitions h ?_ fun index hindex => ?_
  · have hlength := congrArg List.length hkeys
    rw [List.length_map, List.length_map] at hlength
    rw [hlength]
    exact hsizes
  obtain ⟨hnodup, hall, rfl⟩ := orderDefinitions_ok.1 hindex
  have hnodup' : ((before ++ { d with refinements := rs } :: after).map (·.definition)).Nodup := by
    rw [hkeys]
    exact hnodup
  have hd : d ∈ resolver.definitions := by
    rw [howner]
    exact List.mem_append_right _ List.mem_cons_self
  have hfine := hall d hd
  have hfine' : WellFormed { d with refinements := rs } := by
    refine ⟨hfine.version, hfine.ports_le, ?_, hfine.ports, nodup_of_new hperm hnew hfine.refinements⟩
    change rs.length ≤ _
    rw [hperm.length_eq, List.length_cons]
    exact hlimit
  refine ⟨_, orderDefinitions_ok.2 ⟨hnodup', fun x hx => ?_, rfl⟩, fun card hcard => ?_⟩
  · rcases List.mem_append.1 hx with hx | hx
    · exact hall x (howner ▸ List.mem_append_left _ hx)
    · rcases List.mem_cons.1 hx with rfl | hx
      · exact hfine'
      · exact hall x (howner ▸ List.mem_append_right _ (List.mem_cons_of_mem _ hx))
  · have hasc := Keyed.ascending_sortBy ResolvedCardDefinition.definition hnodup
    have hasc' := Keyed.ascending_sortBy ResolvedCardDefinition.definition hnodup'
    by_cases hk : card.definition = d.definition
    · have hfind : Keyed.find ResolvedCardDefinition.definition card.definition
          (Keyed.sortBy ResolvedCardDefinition.definition resolver.definitions) = some d :=
        (hasc.find_iff ..).2 ⟨(Keyed.mem_sortBy _).2 hd, hk.symm⟩
      have hfind' : Keyed.find ResolvedCardDefinition.definition card.definition
          (Keyed.sortBy ResolvedCardDefinition.definition (before ++ { d with refinements := rs } :: after))
          = some { d with refinements := rs } :=
        (hasc'.find_iff ..).2 ⟨(Keyed.mem_sortBy _).2 (List.mem_append_right _ List.mem_cons_self), hk.symm⟩
      have hread := find_index card.definition (Keyed.sortBy ResolvedCardDefinition.definition resolver.definitions)
      have hread' := find_index card.definition
        (Keyed.sortBy ResolvedCardDefinition.definition (before ++ { d with refinements := rs } :: after))
      rw [hfind, Option.map_some] at hread
      rw [hfind', Option.map_some] at hread'
      refine resolveCard_of_find hread hread' rfl ?_
      unfold resolveRefinement
      cases hreq : card.refinement with
      | none => rfl
      | some reference =>
        have hne : reference ≠ r.reference := fun heq => hunused card hcard hk (by rw [hreq, heq])
        dsimp only [ordered]
        rw [find_sortBy_of_new hperm hnew hfine.refinements hne]
    · unfold resolveCard
      have hfind := hasc'.find_congr _ hasc (k := card.definition) fun a ha => by
        rw [Keyed.mem_sortBy, Keyed.mem_sortBy, howner, List.mem_append, List.mem_append, List.mem_cons, List.mem_cons]
        have hne : a ≠ d := fun heq => hk (by rw [← ha, heq])
        have hne' : a ≠ { d with refinements := rs } := fun heq => hk (by rw [← ha, heq])
        simp only [hne, hne', false_or]
      rw [find_index, find_index, hfind]

theorem compile_profile {p : ResolvedDeliveryProfileCommitment} {ps : List ResolvedDeliveryProfileCommitment}
    (h : compile sha256 spec resolver = .ok lock) (hnew : p.reference ∉ resolver.deliveryProfiles.map (·.reference))
    (hunused : ∀ link ∈ spec.links, link.deliveryProfile ≠ some p.reference)
    (hlimit : resolver.deliveryProfiles.length < maxResolvedDeliveryProfiles)
    (hperm : ps.Perm (p :: resolver.deliveryProfiles)) :
    compile sha256 spec { resolver with deliveryProfiles := ps } = .ok lock := by
  simp only [compile, bind_ok, exists_unit] at h
  obtain ⟨hdeclared, cards, hcards, index, hordered, resolved, hresolved, requirements, hrequirements, links, hlinks,
    hseal⟩ := h
  obtain ⟨hdefinitions, _, hreqs⟩ := checkDeclared_sizes hdeclared
  have hlength : ps.length ≤ maxResolvedDeliveryProfiles := by
    rw [hperm.length_eq, List.length_cons]
    exact hlimit
  have hlinks' : resolveLinks spec.links ps resolved = .ok links := by
    simp only [resolveLinks, bind_ok, sortDistinct_ok, pure_ok] at hlinks ⊢
    obtain ⟨_, ⟨hkeys, rfl⟩, _, ⟨hnodup, rfl⟩, canonical, hcanonical, profiles, hprofiles, rfl⟩ := hlinks
    have hfind : ∀ reference, reference ≠ p.reference → Keyed.find ResolvedDeliveryProfileCommitment.reference reference
        (Keyed.sortBy ResolvedDeliveryProfileCommitment.reference ps) = Keyed.find
          ResolvedDeliveryProfileCommitment.reference reference
          (Keyed.sortBy ResolvedDeliveryProfileCommitment.reference resolver.deliveryProfiles) :=
      fun reference hne => find_sortBy_of_new hperm hnew hnodup hne
    refine ⟨_, ⟨hkeys, rfl⟩, _, ⟨nodup_of_new hperm hnew hnodup, rfl⟩, canonical, ?_, profiles, ?_, rfl⟩
    · rw [← hcanonical]
      refine collect_congr fun link hlink => ?_
      unfold resolveLink
      cases hprofile : link.deliveryProfile with
      | none => rfl
      | some reference =>
        have hne : reference ≠ p.reference := fun heq =>
          hunused link ((Keyed.mem_sortBy _).1 hlink) (by rw [hprofile, heq])
        dsimp only [okOr, bind, Except.bind]
        rw [hfind reference hne]
    · rw [← hprofiles]
      refine collect_congr fun reference hreference => ?_
      obtain ⟨link, hlink, rfl⟩ := List.mem_map.1 (List.mem_dedup.1 ((Keyed.mem_sortBy id).1 hreference))
      obtain ⟨declared, hdeclared, hresolve⟩ := collect_mem_ok hcanonical link hlink
      have hused : declared.deliveryProfile = some link.deliveryProfile := by
        simp only [resolveLink, bind_ok, okOr_ok, pure_ok] at hresolve
        obtain ⟨profile, hprofile, _, _, _, _, _, _, _, _, _, _, _, _, _, _, _, _, _, _, hlink⟩ := hresolve
        rw [hprofile, ← hlink]
      unfold resolveProfile
      rw [hfind link.deliveryProfile fun heq =>
        hunused declared ((Keyed.mem_sortBy _).1 hdeclared) (by rw [hused, heq])]
  exact ok_bind (checkDeclared_of_sizes hdeclared hdefinitions hlength hreqs) <| ok_bind hcards <| ok_bind hordered <|
    ok_bind hresolved <| ok_bind hrequirements <| ok_bind hlinks' hseal

theorem compile_requirement {q : ResolvedRequirementCommitment} {qs : List ResolvedRequirementCommitment}
    (h : compile sha256 spec resolver = .ok lock) (hnew : q.reference ∉ resolver.requirements.map (·.reference))
    (hunused : ∀ requirement ∈ spec.requirements, requirement.reference ≠ q.reference)
    (hlimit : resolver.requirements.length < maxResolvedRequirements)
    (hperm : qs.Perm (q :: resolver.requirements)) :
    compile sha256 spec { resolver with requirements := qs } = .ok lock := by
  simp only [compile, bind_ok, exists_unit] at h
  obtain ⟨hdeclared, cards, hcards, index, hordered, resolved, hresolved, requirements, hrequirements, links, hlinks,
    hseal⟩ := h
  obtain ⟨hdefinitions, hprofiles, _⟩ := checkDeclared_sizes hdeclared
  have hlength : qs.length ≤ maxResolvedRequirements := by
    rw [hperm.length_eq, List.length_cons]
    exact hlimit
  have hrequirements' : resolveRequirements spec.requirements qs = .ok requirements := by
    simp only [resolveRequirements, bind_ok, sortDistinct_ok, exists_unit, pure_ok] at hrequirements ⊢
    obtain ⟨_, ⟨hkeys, rfl⟩, hrefs, _, ⟨hnodup, rfl⟩, found, hfound, rfl⟩ := hrequirements
    refine ⟨_, ⟨hkeys, rfl⟩, hrefs, _, ⟨nodup_of_new hperm hnew hnodup, rfl⟩, found, ?_, rfl⟩
    rw [← hfound]
    refine collect_congr fun requirement hrequirement => ?_
    unfold resolveRequirement
    rw [find_sortBy_of_new hperm hnew hnodup (hunused requirement ((Keyed.mem_sortBy _).1 hrequirement))]
  exact ok_bind (checkDeclared_of_sizes hdeclared hdefinitions hprofiles hlength) <| ok_bind hcards <| ok_bind hordered <|
    ok_bind hresolved <| ok_bind hrequirements' <| ok_bind hlinks hseal

theorem Extends.compile {resolver' : DeckResolverSnapshot} (hext : Extends spec resolver resolver')
    (h : compile sha256 spec resolver = .ok lock) : compile sha256 spec resolver' = .ok lock := by
  cases hext with
  | definition d ds hfine hnew hunused hlimit hperm => exact compile_definition h hfine hnew hunused hlimit hperm
  | refinement before after d r rs howner hnew hunused hlimit hperm =>
    exact compile_refinement h howner hnew hunused hlimit hperm
  | profile p ps hnew hunused hlimit hperm => exact compile_profile h hnew hunused hlimit hperm
  | requirement q qs hnew hunused hlimit hperm => exact compile_requirement h hnew hunused hlimit hperm

end Deck
end ParaEgox
