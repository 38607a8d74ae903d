import ParaEgox.Deck

/-!
# DeckOrder — compilation depends on the declared sets

Each collection is used only after it has been sorted by distinct keys, and its first duplicate is read off the sorted keys.
So the order of a declaration is forgotten before anything is resolved, on the paths that fail as on the one that succeeds.
-/
namespace ParaEgox
namespace Deck

open Check

/-! ## Sorted collections -/

theorem firstDuplicate_none {κ : Type} [LinearOrder κ] : ∀ {keys : List κ}, keys.Pairwise (· ≤ ·) →
    (firstDuplicate keys = none ↔ keys.Nodup)
  | [], _ => by simp [firstDuplicate]
  | [a], _ => by simp [firstDuplicate]
  | a :: b :: rest, h => by
    obtain ⟨ha, hrest⟩ := List.pairwise_cons.1 h
    obtain ⟨hb, _⟩ := List.pairwise_cons.1 hrest
    rw [firstDuplicate]
    by_cases heq : a = b
    · subst heq
      simp
    · rw [if_neg heq, firstDuplicate_none hrest, List.nodup_cons (a := a)]
      have hlt : a < b := lt_of_le_of_ne (ha b List.mem_cons_self) heq
      refine ⟨fun hn => ⟨fun hmem => ?_, hn⟩, And.right⟩
      rcases List.mem_cons.1 hmem with hab | hmem
      · exact heq hab
      · exact absurd (hb a hmem) (not_le_of_gt hlt)

theorem rejectDuplicate_ok {κ : Type} [LinearOrder κ] {keys : List κ} (h : keys.Pairwise (· ≤ ·))
    (duplicate : κ → DeckCompileError) (u : Unit) : rejectDuplicate keys duplicate = .ok u ↔ keys.Nodup := by
  rw [← firstDuplicate_none h, rejectDuplicate, whenSome_ok]
  constructor
  · intro hall
    cases hf : firstDuplicate keys with
    | none => rfl
    | some k => cases hall k hf
  · intro hnone k hk
    rw [hnone] at hk
    cases hk

theorem sortBy_id_pairwise (keys : List Ref16) : (Keyed.sortBy id keys).Pairwise (· ≤ ·) := Keyed.sortBy_pairwise id keys

section Sorted

variable {α : Type} {key : α → Ref16} {duplicate : Ref16 → DeckCompileError}

theorem sortDistinct_ok {xs ys : List α} :
    sortDistinct key duplicate xs = .ok ys ↔ (xs.map key).Nodup ∧ ys = Keyed.sortBy key xs := by
  have hsorted : ((Keyed.sortBy key xs).map key).Pairwise (· ≤ ·) := List.pairwise_map.2 (Keyed.sortBy_pairwise key xs)
  simp only [sortDistinct, bind_ok, rejectDuplicate_ok hsorted, exists_unit, pure_ok,
    ((Keyed.sortBy_perm key xs).map key).nodup_iff]
  exact and_congr_right fun _ => eq_comm

/-- **A sorted collection does not know the order it was declared in**, and neither does its duplicate. -/
theorem sortDistinct_perm {xs ys : List α} (h : xs.Perm ys) :
    sortDistinct key duplicate xs = sortDistinct key duplicate ys := by
  unfold sortDistinct
  rw [Keyed.map_sortBy_of_perm key h]
  refine bind_congr_ok fun u hu => ?_
  have hsorted : ((Keyed.sortBy key ys).map key).Pairwise (· ≤ ·) := List.pairwise_map.2 (Keyed.sortBy_pairwise key ys)
  have hnodup := ((Keyed.sortBy_perm key ys).map key).nodup_iff.1 ((rejectDuplicate_ok hsorted duplicate u).1 hu)
  rw [Keyed.sortBy_of_perm key h ((h.map key).nodup_iff.2 hnodup)]

theorem minByKey_none : ∀ {xs : List α}, minByKey key xs = none ↔ xs = []
  | [] => by simp [minByKey]
  | x :: xs => by
    rw [minByKey]
    cases minByKey key xs with
    | none => simp
    | some y =>
      dsimp only
      split <;> simp

theorem minByKey_some : ∀ {xs : List α} {y : α}, minByKey key xs = some y → y ∈ xs ∧ ∀ x ∈ xs, key y ≤ key x
  | [], _, h => by cases h
  | x :: xs, y, h => by
    rw [minByKey] at h
    cases hmin : minByKey key xs with
    | none =>
      rw [hmin] at h
      cases h
      rw [minByKey_none.1 hmin]
      exact ⟨List.mem_cons_self, fun z hz => le_of_eq (congrArg key (List.mem_singleton.1 hz).symm)⟩
    | some z =>
      obtain ⟨hz, hle⟩ := minByKey_some hmin
      rw [hmin] at h
      dsimp only at h
      split at h
      · rename_i hxz
        cases h
        refine ⟨List.mem_cons_self, fun w hw => ?_⟩
        rcases List.mem_cons.1 hw with rfl | hw
        · exact le_refl _
        · exact le_trans hxz (hle w hw)
      · rename_i hzx
        cases h
        refine ⟨List.mem_cons_of_mem _ hz, fun w hw => ?_⟩
        rcases List.mem_cons.1 hw with rfl | hw
        · exact le_of_lt (lt_of_not_ge hzx)
        · exact hle w hw

theorem minByKey_perm {xs ys : List α} (h : xs.Perm ys) (hnodup : (xs.map key).Nodup) :
    minByKey key xs = minByKey key ys := by
  cases hx : minByKey key xs with
  | none =>
    rw [minByKey_none.1 hx] at h
    rw [h.symm.eq_nil]
    rfl
  | some a =>
    cases hy : minByKey key ys with
    | none =>
      rw [minByKey_none.1 hy] at h
      rw [h.eq_nil] at hx
      cases hx
    | some b =>
      obtain ⟨ha, hale⟩ := minByKey_some hx
      obtain ⟨hb, hble⟩ := minByKey_some hy
      have hkey : key a = key b := le_antisymm (hale b (h.mem_iff.2 hb)) (hble a (h.mem_iff.1 ha))
      rw [List.inj_on_of_nodup_map hnodup ha (h.mem_iff.2 hb) hkey]

theorem forall₂_sortBy {R : α → α → Prop} (hkey : ∀ a b, R a b → key a = key b) : ∀ {xs ys : List α},
    List.Forall₂ R xs ys → List.Forall₂ R (Keyed.sortBy key xs) (Keyed.sortBy key ys)
  | [], [], _ => .nil
  | x :: xs, y :: ys, h => by
    obtain ⟨hxy, hrest⟩ := List.forall₂_cons.1 h
    have ih := forall₂_sortBy hkey hrest
    have hinsert : ∀ {us vs : List α}, List.Forall₂ R us vs →
        List.Forall₂ R (us.orderedInsert (fun a b => key a ≤ key b) x) (vs.orderedInsert (fun a b => key a ≤ key b) y) := by
      intro us vs huv
      induction huv with
      | nil => exact .cons hxy .nil
      | @cons u v us vs hu hus ihu =>
        rw [List.orderedInsert_cons, List.orderedInsert_cons, hkey x y hxy, hkey u v hu]
        split
        · exact .cons hxy (.cons hu hus)
        · exact .cons hu ihu
    exact hinsert ih

end Sorted

/-! ## Definitions -/

structure SameDefinition (d d' : ResolvedCardDefinition) : Prop where
  fields : d' = { d with ports := d'.ports, refinements := d'.refinements }
  ports : d.ports.Perm d'.ports
  refinements : d.refinements.Perm d'.refinements

def SameDefinitions (ds ds' : List ResolvedCardDefinition) : Prop :=
  ∃ mid, ds.Perm mid ∧ List.Forall₂ SameDefinition mid ds'

variable {d d' : ResolvedCardDefinition}

theorem SameDefinition.definition (h : SameDefinition d d') :
    d.definition = d'.definition := by rw [h.fields]

theorem SameDefinition.version (h : SameDefinition d d') : d.version = d'.version := by
  rw [h.fields]

theorem SameDefinition.preflightError (h : SameDefinition d d') :
    preflightError d = preflightError d' := by
  unfold Deck.preflightError
  rw [h.definition, h.version, h.ports.length_eq, h.refinements.length_eq]

theorem SameDefinition.orderDefinition (h : SameDefinition d d') :
    orderDefinition d = orderDefinition d' := by
  unfold Deck.orderDefinition
  rw [sortDistinct_perm h.ports, sortDistinct_perm h.refinements, h.definition, h.fields]

theorem preflightError_fst {found : Ref16 × DeckCompileError}
    (h : preflightError d = some found) : found.1 = d.definition := by
  unfold preflightError at h
  repeat' split at h
  all_goals cases h <;> rfl

theorem forall₂_map_eq {α β : Type} {R : α → α → Prop} {f : α → β} (hf : ∀ a b, R a b → f a = f b) :
    ∀ {xs ys : List α}, List.Forall₂ R xs ys → xs.map f = ys.map f
  | [], [], _ => rfl
  | x :: xs, y :: ys, h => by
    obtain ⟨hxy, hrest⟩ := List.forall₂_cons.1 h
    rw [List.map_cons, List.map_cons, hf x y hxy, forall₂_map_eq hf hrest]

theorem forall₂_filterMap_eq {α β : Type} {R : α → α → Prop} {f : α → Option β} (hf : ∀ a b, R a b → f a = f b) :
    ∀ {xs ys : List α}, List.Forall₂ R xs ys → xs.filterMap f = ys.filterMap f
  | [], [], _ => rfl
  | x :: xs, y :: ys, h => by
    obtain ⟨hxy, hrest⟩ := List.forall₂_cons.1 h
    rw [List.filterMap_cons, List.filterMap_cons, hf x y hxy, forall₂_filterMap_eq hf hrest]

theorem forall₂_collect_eq {α β : Type} {R : α → α → Prop} {f : α → Except DeckCompileError β}
    (hf : ∀ a b, R a b → f a = f b) : ∀ {xs ys : List α}, List.Forall₂ R xs ys → collect f xs = collect f ys
  | [], [], _ => rfl
  | x :: xs, y :: ys, h => by
    obtain ⟨hxy, hrest⟩ := List.forall₂_cons.1 h
    rw [collect, collect, hf x y hxy, forall₂_collect_eq hf hrest]

variable {ds : List ResolvedCardDefinition} {spec spec' : DeckSpec} {resolver resolver' : DeckResolverSnapshot}

theorem preflight_nodup (h : (ds.map (·.definition)).Nodup) :
    ((ds.filterMap preflightError).map Prod.fst).Nodup := by
  have hsub : ∀ xs : List ResolvedCardDefinition,
      ((xs.filterMap preflightError).map Prod.fst).Sublist (xs.map (·.definition)) := by
    intro xs
    induction xs with
    | nil => exact .slnil
    | cons d xs ih =>
      rw [List.filterMap_cons, List.map_cons]
      cases hfound : preflightError d with
      | none => exact ih.cons _
      | some found =>
        rw [List.map_cons, preflightError_fst hfound]
        exact ih.cons_cons _
  exact (hsub ds).nodup h

theorem SameDefinitions.orderDefinitions {ds' : List ResolvedCardDefinition} (h : SameDefinitions ds ds') :
    orderDefinitions ds = orderDefinitions ds' := by
  obtain ⟨mid, hperm, hsame⟩ := h
  have hrefs : (ds.map (·.definition)).Perm (ds'.map (·.definition)) := by
    rw [← forall₂_map_eq (fun _ _ hd => SameDefinition.definition hd) hsame]
    exact hperm.map _
  have hsorted : Keyed.sortBy id (ds.map (·.definition)) = Keyed.sortBy id (ds'.map (·.definition)) := by
    have := Keyed.map_sortBy_of_perm id hrefs
    rwa [List.map_id, List.map_id] at this
  unfold Deck.orderDefinitions
  rw [hsorted]
  refine bind_congr_ok fun u hu => ?_
  have hnodup' := ((Keyed.sortBy_perm id _).nodup_iff.1 ((rejectDuplicate_ok (sortBy_id_pairwise _) _ u).1 hu))
  have hnodup : (ds.map (·.definition)).Nodup := hrefs.nodup_iff.2 hnodup'
  have hpreflight : minByKey Prod.fst (ds.filterMap preflightError) = minByKey Prod.fst (ds'.filterMap preflightError) := by
    rw [← forall₂_filterMap_eq (fun _ _ hd => SameDefinition.preflightError hd) hsame]
    exact minByKey_perm (hperm.filterMap _) (preflight_nodup hnodup)
  rw [hpreflight, Keyed.sortBy_of_perm _ hperm hnodup]
  refine bind_congr_ok fun _ _ => ?_
  exact forall₂_collect_eq (fun _ _ hd => SameDefinition.orderDefinition hd)
    (forall₂_sortBy (fun _ _ hd => SameDefinition.definition hd) hsame)

/-! ## Rearranged declarations -/

def DisplayWithinLimits (display : List DeckDisplayMetadata) : Prop :=
  display.length ≤ maxDisplayEntries ∧ ∀ entry ∈ display, entry.label.length ≤ maxDisplayLabelBytes

/-- **The same declared sets**: every collection in another order, and other display metadata. -/
structure Rearranged (spec spec' : DeckSpec) (resolver resolver' : DeckResolverSnapshot) : Prop where
  deckKey : spec.deckKey = spec'.deckKey
  ownership : spec.ownership = spec'.ownership
  lifetime : spec.lifetime = spec'.lifetime
  cards : spec.cards.Perm spec'.cards
  links : spec.links.Perm spec'.links
  requirements : spec.requirements.Perm spec'.requirements
  definitions : SameDefinitions resolver.definitions resolver'.definitions
  profiles : resolver.deliveryProfiles.Perm resolver'.deliveryProfiles
  resolved : resolver.requirements.Perm resolver'.requirements
  display : spec.display = spec'.display ∨ DisplayWithinLimits spec.display ∧ DisplayWithinLimits spec'.display

theorem SameDefinitions.length_eq {ds' : List ResolvedCardDefinition} (h : SameDefinitions ds ds') :
    ds.length = ds'.length := by
  obtain ⟨mid, hperm, hsame⟩ := h
  exact hperm.length_eq.trans hsame.length_eq

theorem displayWithin_checks {display : List DeckDisplayMetadata} (h : DisplayWithinLimits display) :
    ¬ maxDisplayEntries < display.length ∧
      ¬ (display.any (fun entry => decide (maxDisplayLabelBytes < entry.label.length)) = true) := by
  refine ⟨Nat.not_lt.2 h.1, fun hany => ?_⟩
  obtain ⟨entry, hentry, hlong⟩ := List.any_eq_true.1 hany
  exact absurd (of_decide_eq_true hlong) (Nat.not_lt.2 (h.2 entry hentry))

theorem Rearranged.display_checks (h : Rearranged spec spec' resolver resolver') :
    (maxDisplayEntries < spec.display.length ↔ maxDisplayEntries < spec'.display.length) ∧
      (spec.display.any (fun entry => decide (maxDisplayLabelBytes < entry.label.length)) = true ↔
        spec'.display.any (fun entry => decide (maxDisplayLabelBytes < entry.label.length)) = true) := by
  rcases h.display with heq | ⟨hin, hin'⟩
  · rw [heq]
    exact ⟨Iff.rfl, Iff.rfl⟩
  · obtain ⟨hlen, hlabel⟩ := displayWithin_checks hin
    obtain ⟨hlen', hlabel'⟩ := displayWithin_checks hin'
    exact ⟨iff_of_false hlen hlen', iff_of_false hlabel hlabel'⟩

theorem Rearranged.checkDeclared
    (h : Rearranged spec spec' resolver resolver') : checkDeclared spec resolver = checkDeclared spec' resolver' := by
  have hempty : spec.cards = [] ↔ spec'.cards = [] := by
    rw [← List.length_eq_zero_iff, ← List.length_eq_zero_iff, h.cards.length_eq]
  unfold Deck.checkDeclared
  rw [h.ownership, h.lifetime, h.cards.length_eq, h.links.length_eq, h.requirements.length_eq, h.definitions.length_eq,
    h.profiles.length_eq, h.resolved.length_eq, rejectIf_congr _ h.display_checks.1,
    rejectIf_congr _ h.display_checks.2, rejectIf_congr _ hempty]

/-- **The order of the declarations does not reach the result**: the lock, or the error with its witness. -/
theorem Rearranged.compile (h : Rearranged spec spec' resolver resolver') (sha256 : Sha256) :
    compile sha256 spec resolver = compile sha256 spec' resolver' := by
  have hcards : orderCards spec.cards = orderCards spec'.cards := by
    unfold orderCards
    rw [sortDistinct_perm h.cards]
  have hrequirements : resolveRequirements spec.requirements resolver.requirements
      = resolveRequirements spec'.requirements resolver'.requirements := by
    unfold resolveRequirements
    rw [sortDistinct_perm h.requirements, sortDistinct_perm h.resolved]
  have hlinks : ∀ cards, resolveLinks spec.links resolver.deliveryProfiles cards
      = resolveLinks spec'.links resolver'.deliveryProfiles cards := by
    intro cards
    unfold resolveLinks
    rw [sortDistinct_perm h.links, sortDistinct_perm h.profiles]
  unfold Deck.compile
  rw [h.checkDeclared, hcards, h.definitions.orderDefinitions, hrequirements, h.deckKey]
  simp only [hlinks]

end Deck
end ParaEgox
