import ParaEgox.DeckCycle
import ParaEgox.DeckOrder
import ParaEgox.Failures

/-!
# DeckComponents — the cyclic deck that is refused

The two passes over the cards find the strongly connected components of the links.  The first of them, in their order, that
holds a cycle is searched for one, and that search names a walk along its links.
-/
namespace ParaEgox
namespace Deck

open Check Digraphs Relation

/-! ## The two passes -/

def next (links : List DeckLink) (reverse : Bool) (card : Ref16) : List Ref16 :=
  (edgesOf links reverse card).map Prod.fst

def Visit.general (s : Visit) : Digraphs.Visit Ref16 := ⟨s.visited, s.finish⟩

theorem general_foldl {go : Ref16 → Visit → Visit} {go' : Ref16 → Digraphs.Visit Ref16 → Digraphs.Visit Ref16}
    (hgo : ∀ v s, (go v s).general = go' v s.general) : ∀ (cards : List Ref16) (s : Visit),
    (cards.foldl (fun s v => go v s) s).general = cards.foldl (fun s v => go' v s) s.general
  | [], _ => rfl
  | card :: cards, s => by rw [List.foldl_cons, general_foldl hgo cards, List.foldl_cons, hgo]

theorem visitFinish_general (links : List DeckLink) : ∀ (fuel : Nat) (card : Ref16) (s : Visit),
    (visitFinish links fuel card s).general = visit (next links false) false fuel card s.general
  | 0, _, _ => rfl
  | fuel + 1, card, s => by
    rw [visitFinish, visit]
    by_cases hseen : card ∈ s.visited
    · rw [if_pos hseen, if_pos (show card ∈ s.general.visited from hseen)]
    · rw [if_neg hseen, if_neg (show card ∉ s.general.visited from hseen)]
      have hbelow := general_foldl (visitFinish_general links fuel) (next links false card)
        { s with visited := card :: s.visited }
      unfold next at hbelow
      rw [List.foldl_map] at hbelow
      change Digraphs.Visit.mk (Visit.general _).visited ((Visit.general _).order ++ [card]) = _
      rw [hbelow]
      rfl

theorem visitComponent_general (links : List DeckLink) : ∀ (fuel : Nat) (card : Ref16) (s : Visit),
    (visitComponent links fuel card s).general = visit (next links true) true fuel card s.general
  | 0, _, _ => rfl
  | fuel + 1, card, s => by
    rw [visitComponent, visit]
    by_cases hseen : card ∈ s.visited
    · rw [if_pos hseen, if_pos (show card ∈ s.general.visited from hseen)]
    · rw [if_neg hseen, if_neg (show card ∉ s.general.visited from hseen)]
      have hbelow := general_foldl (visitComponent_general links fuel) (next links true card)
        ⟨card :: s.visited, s.finish ++ [card]⟩
      unfold next at hbelow
      rw [List.foldl_map] at hbelow
      exact hbelow

theorem componentsFrom_general (links : List DeckLink) (fuel : Nat) : ∀ (pops seen : List Ref16),
    componentsFrom links fuel seen pops = (components (next links true) fuel seen pops).map (Keyed.sortBy id)
  | [], _ => rfl
  | card :: pops, seen => by
    rw [componentsFrom, components]
    split
    · exact componentsFrom_general links fuel pops seen
    · have hfound := visitComponent_general links fuel card ⟨seen, []⟩
      rw [List.map_cons, ← componentsFrom_general links fuel pops]
      dsimp only
      rw [show visit (next links true) true fuel card ⟨seen, []⟩ = _ from hfound.symm]
      rfl

theorem edge_next (links : List DeckLink) : Edge (next links false) = Linked links := by
  funext u v
  refine propext ⟨fun h => ?_, fun h => ?_⟩
  · obtain ⟨⟨w, key⟩, hmem, rfl⟩ := List.mem_map.1 h
    obtain ⟨link, hlink, hsource, htarget, _⟩ := mem_edgesOf_false.1 hmem
    exact ⟨link, hlink, hsource, htarget⟩
  · obtain ⟨link, hlink, hsource, htarget⟩ := h
    exact List.mem_map.2 ⟨(v, link.key), mem_edgesOf_false.2 ⟨link, hlink, hsource, htarget, rfl⟩, rfl⟩

theorem mem_next_true {links : List DeckLink} {u v : Ref16} : v ∈ next links true u ↔ Linked links v u := by
  constructor
  · intro h
    obtain ⟨⟨w, key⟩, hmem, rfl⟩ := List.mem_map.1 h
    obtain ⟨link, hlink, htarget, hsource, _⟩ := mem_edgesOf_true.1 hmem
    exact ⟨link, hlink, hsource, htarget⟩
  · rintro ⟨link, hlink, hsource, htarget⟩
    exact List.mem_map.2 ⟨(v, link.key), mem_edgesOf_true.2 ⟨link, hlink, htarget, hsource, rfl⟩, rfl⟩

def Connected (links : List DeckLink) (u v : Ref16) : Prop :=
  ReflTransGen (Linked links) u v ∧ ReflTransGen (Linked links) v u

structure IsComponent (cards : List Ref16) (links : List DeckLink) (component : List Ref16) : Prop where
  ascending : Keyed.Ascending id component
  connected : ∃ v ∈ cards, ∀ u, u ∈ component ↔ Connected links v u

def EndsIn (links : List DeckLink) (cards : List Ref16) : Prop :=
  ∀ link ∈ links, link.source.card ∈ cards ∧ link.target.card ∈ cards

theorem componentsFrom_exact {cards : List Ref16} {links : List DeckLink} (hends : EndsIn links cards) :
    let finish := (cards.foldl (fun s card => visitFinish links (cards.length + 1) card s) ⟨[], []⟩).finish
    (∀ c ∈ componentsFrom links (cards.length + 1) [] finish.reverse, IsComponent cards links c) ∧
      ∀ v ∈ cards, ∃ c ∈ componentsFrom links (cards.length + 1) [] finish.reverse, v ∈ c := by
  intro finish
  have hclosed : ∀ v ∈ cards, ∀ w ∈ next links false v, w ∈ cards := by
    intro v _ w hw
    have hedge : Edge (next links false) v w := hw
    rw [edge_next] at hedge
    obtain ⟨link, hlink, _, rfl⟩ := hedge
    exact (hends link hlink).2
  have hpred : ∀ u ∈ cards, ∀ w, w ∈ next links true u ↔ w ∈ cards ∧ u ∈ next links false w := by
    intro u _ w
    have hedge : u ∈ next links false w ↔ Linked links w u := by
      rw [← edge_next]
      rfl
    rw [mem_next_true, hedge]
    refine ⟨fun h => ⟨?_, h⟩, And.right⟩
    obtain ⟨link, hlink, rfl, _⟩ := h
    exact (hends link hlink).1
  have hfuel : cards.length < cards.length + 1 := Nat.lt_succ_self _
  obtain ⟨hsettled, hall⟩ := settled_foldl hclosed hfuel
  have hfinish : (cards.foldl (fun s v => visit (next links false) false (cards.length + 1) v s) ⟨[], []⟩).order = finish := by
    have hgeneral := general_foldl (visitFinish_general links (cards.length + 1)) cards ⟨[], []⟩
    exact (congrArg Digraphs.Visit.order hgeneral).symm
  rw [hfinish] at hsettled hall
  obtain ⟨hfound, hcover⟩ := components_exact hpred hclosed hfuel finish.reverse [] []
    (by rwa [List.reverse_reverse, List.append_nil]) (by rwa [List.reverse_reverse, List.append_nil]) nofun nofun
  rw [componentsFrom_general]
  constructor
  · intro c hc
    obtain ⟨c', hc', rfl⟩ := List.mem_map.1 hc
    obtain ⟨hnodup, v, hv, hclass⟩ := hfound c' hc'
    refine ⟨Keyed.ascending_sortBy id (by rwa [List.map_id]), v, hv, fun u => ?_⟩
    rw [Keyed.mem_sortBy, hclass u]
    unfold Mutual Connected
    rw [edge_next]
  · intro v hv
    have hpop : v ∈ finish.reverse := List.mem_reverse.2 ((hall v).2 hv)
    obtain ⟨c, hc, hvc⟩ := (hcover v hpop).resolve_left nofun
    exact ⟨_, List.mem_map.2 ⟨c, hc, rfl⟩, (Keyed.mem_sortBy id).2 hvc⟩

/-! ## Components that hold a cycle -/

section Component

variable {cards : List Ref16} {links : List DeckLink} {component : List Ref16}

theorem IsComponent.mutual (h : IsComponent cards links component) {u v : Ref16} (hu : u ∈ component) :
    v ∈ component ↔ Connected links u v := by
  obtain ⟨w, _, hclass⟩ := h.connected
  have hwu := (hclass u).1 hu
  rw [hclass]
  exact ⟨fun hwv => ⟨hwu.2.trans hwv.1, hwv.2.trans hwu.1⟩, fun huv => ⟨hwu.1.trans huv.1, huv.2.trans hwu.2⟩⟩

def Cyclic (links : List DeckLink) (component : List Ref16) : Prop := ∃ v ∈ component, TransGen (Linked links) v v

/-- **The test for a cycle is exact**: more than one card, or a link from the only card to itself. -/
theorem IsComponent.cyclic_iff (h : IsComponent cards links component) :
    componentIsCyclic component links = true ↔ Cyclic links component := by
  have hnodup : component.Nodup := h.ascending.imp ne_of_lt
  unfold componentIsCyclic
  rw [decide_eq_true_eq]
  constructor
  · rintro (hmany | hself)
    · obtain ⟨a, b, rest, rfl⟩ : ∃ a b rest, component = a :: b :: rest := by
        match component, hmany with
        | a :: b :: rest, _ => exact ⟨a, b, rest, rfl⟩
      have hab : Connected links a b := (h.mutual (by simp)).1 (by simp)
      have hne : a ≠ b := fun hab => (List.nodup_cons.1 hnodup).1 (hab ▸ List.mem_cons_self ..)
      refine ⟨a, by simp, ?_⟩
      exact ((reflTransGen_iff_eq_or_transGen.1 hab.1).resolve_left hne.symm).trans_left hab.2
    · cases component with
      | nil => cases hself
      | cons a rest =>
        obtain ⟨link, hlink, hends⟩ := List.any_eq_true.1 hself
        have hends : link.source.card = a ∧ link.target.card = a := of_decide_eq_true hends
        exact ⟨a, List.mem_cons_self .., .single ⟨link, hlink, hends⟩⟩
  · rintro ⟨v, hv, hcycle⟩
    obtain ⟨w, hvw, hwv⟩ := TransGen.head'_iff.1 hcycle
    have hw : w ∈ component := (h.mutual hv).2 ⟨.single hvw, hwv⟩
    by_cases hne : w = v
    · obtain ⟨link, hlink, hsource, htarget⟩ := hvw
      cases component with
      | nil => cases hv
      | cons a rest =>
        cases rest with
        | nil =>
          obtain rfl := List.mem_singleton.1 hv
          exact .inr (List.any_eq_true.2 ⟨link, hlink, decide_eq_true ⟨hsource, htarget.trans hne⟩⟩)
        | cons b rest => exact .inl (by simp)
    · refine .inl ?_
      have hsub : [v, w].Subperm component := by
        refine List.Nodup.subperm (by simpa using fun h => hne h.symm) fun x hx => ?_
        rcases List.mem_cons.1 hx with rfl | hx
        · exact hv
        · rwa [List.mem_singleton.1 hx]
      exact hsub.length_le

def insideLinks (links : List DeckLink) (component : List Ref16) : List DeckLink :=
  links.filter fun link => link.source.card ∈ component ∧ link.target.card ∈ component

theorem mem_insideLinks {link : DeckLink} : link ∈ insideLinks links component ↔
    link ∈ links ∧ link.source.card ∈ component ∧ link.target.card ∈ component := by
  unfold insideLinks
  rw [List.mem_filter, decide_eq_true_eq]

theorem leads_inside {u v : Ref16} : Leads (edgesOf (insideLinks links component) false) u v ↔
    ∃ link ∈ links, link.source.card = u ∧ link.target.card = v ∧ u ∈ component ∧ v ∈ component := by
  constructor
  · rintro ⟨key, hkey⟩
    obtain ⟨link, hlink, rfl, rfl, _⟩ := mem_edgesOf_false.1 hkey
    obtain ⟨hmem, hin⟩ := mem_insideLinks.1 hlink
    exact ⟨link, hmem, rfl, rfl, hin⟩
  · rintro ⟨link, hlink, rfl, rfl, hin⟩
    exact ⟨link.key, mem_edgesOf_false.2 ⟨link, mem_insideLinks.2 ⟨hlink, hin⟩, rfl, rfl, rfl⟩⟩

theorem IsComponent.cycle_inside (h : IsComponent cards links component) {v : Ref16} (hv : v ∈ component)
    (hcycle : TransGen (Linked links) v v) : TransGen (Leads (edgesOf (insideLinks links component) false)) v v := by
  have hwalk : ∀ x, TransGen (Linked links) v x → ReflTransGen (Linked links) x v →
      TransGen (Leads (edgesOf (insideLinks links component) false)) v x := by
    intro x hvx
    induction hvx with
    | single hvx =>
      intro hxv
      have hx := (h.mutual hv).2 ⟨.single hvx, hxv⟩
      obtain ⟨link, hlink, hsource, htarget⟩ := hvx
      exact .single (leads_inside.2 ⟨link, hlink, hsource, htarget, hv, hx⟩)
    | tail hvx hxy ih =>
      intro hyv
      have hxv : ReflTransGen (Linked links) _ v := .head hxy hyv
      have hx := (h.mutual hv).2 ⟨hvx.to_reflTransGen, hxv⟩
      have hy := (h.mutual hv).2 ⟨hvx.to_reflTransGen.tail hxy, hyv⟩
      obtain ⟨link, hlink, hsource, htarget⟩ := hxy
      exact (ih hxv).tail (leads_inside.2 ⟨link, hlink, hsource, htarget, hx, hy⟩)
  exact hwalk v hcycle .refl

/-- **A cyclic component is never dropped**: the search inside it names a cycle. -/
theorem IsComponent.concreteCycle (h : IsComponent cards links component) (hends : EndsIn links cards)
    (hcyclic : Cyclic links component) :
    ∃ cycle, concreteCycle component links (cards.length + 1) = some cycle ∧
      IsCycle (edgesOf (insideLinks links component) false) cycle := by
  have hnodup : component.Nodup := h.ascending.imp ne_of_lt
  have hcards : ∀ v ∈ component, v ∈ cards := by
    intro v hv
    obtain ⟨w, hw, hclass⟩ := h.connected
    rcases ReflTransGen.cases_tail ((hclass v).1 hv).1 with rfl | ⟨u, _, link, hlink, _, rfl⟩
    · exact hw
    · exact (hends link hlink).2
  have hfuel : component.length < cards.length + 1 := Nat.lt_succ_of_le (hnodup.subperm hcards).length_le
  have hclosed : ∀ v, ∀ edge ∈ edgesOf (insideLinks links component) false v, edge.1 ∈ component := by
    rintro v ⟨w, key⟩ hedge
    obtain ⟨_, _, _, _, _, hw⟩ := leads_inside.1 ⟨key, hedge⟩
    exact hw
  have hfirst : Colored (edgesOf (insideLinks links component) false) ⟨[], [], []⟩ [] := by
    refine ⟨fun v => ⟨nofun, nofun⟩, fun v => ⟨nofun, nofun⟩, fun v => Nat.zero_le 2, .nil, rfl, ?_⟩
    intro before v after heq
    cases before <;> cases heq
  rcases searchFrom_colored hclosed hfuel component ⟨[], [], []⟩ [] hfirst rfl fun _ => id with
    hfound | ⟨left, hdone, _, hall⟩
  · exact hfound
  · obtain ⟨v, hv, hcycle⟩ := hcyclic
    exact absurd (transGen_swap.2 (h.cycle_inside hv hcycle)) (hdone.not_transGen (hall v hv))

/-! ## The witness -/

/-- **What the witness of a cyclic deck says**: the least component that holds a cycle, and a closed walk through it along
its links. -/
structure Genuine (cards : List Ref16) (links : List DeckLink) (witness : DeckCycleWitness) : Prop where
  component : IsComponent cards links witness.component
  cyclic : Cyclic links witness.component
  least : ∀ other, IsComponent cards links other → Cyclic links other → witness.component ≤ other
  closes : ∃ v inner, witness.cards = v :: inner ++ [v]
  simple : witness.cards.dropLast.Nodup
  inside : ∀ v ∈ witness.cards, v ∈ witness.component
  length : witness.links.length + 1 = witness.cards.length
  steps : ∀ (i : Nat) (u v key : Ref16), witness.cards[i]? = some u → witness.cards[i + 1]? = some v →
    witness.links[i]? = some key → ∃ link ∈ links, link.source.card = u ∧ link.target.card = v ∧ link.key = key

theorem mem_of_isChain {R : Ref16 → Ref16 → Prop} : ∀ {u v : Ref16} {rest : List Ref16}, (u :: v :: rest).IsChain R →
    ∀ x ∈ u :: v :: rest, ∃ y, R x y ∨ R y x
  | u, v, rest, h, x, hx => by
    obtain ⟨huv, hrest⟩ := List.isChain_cons_cons.1 h
    rcases List.mem_cons.1 hx with rfl | hx
    · exact ⟨v, .inl huv⟩
    · cases rest with
      | nil =>
        rw [List.mem_singleton.1 hx]
        exact ⟨u, .inr huv⟩
      | cons w rest => exact mem_of_isChain hrest x hx

theorem IsCycle.genuine {cycle : List Ref16 × List Ref16} (h : IsComponent cards links component)
    (hcycle : IsCycle (edgesOf (insideLinks links component) false) cycle) (hcyclic : Cyclic links component)
    (hleast : ∀ other, IsComponent cards links other → Cyclic links other → component ≤ other) :
    Genuine cards links ⟨component, cycle.1, cycle.2⟩ where
  component := h
  cyclic := hcyclic
  least := hleast
  closes := hcycle.closes
  simple := hcycle.simple
  inside x hx := by
    obtain ⟨v, inner, hwalk⟩ := hcycle.closes
    have hchain := hcycle.follows.isChain
    obtain ⟨w, rest, hsplit⟩ : ∃ w rest, inner ++ [v] = w :: rest := by
      cases inner with
      | nil => exact ⟨v, [], rfl⟩
      | cons w inner => exact ⟨w, inner ++ [v], rfl⟩
    rw [hwalk, List.cons_append, hsplit] at hchain
    have hmem : x ∈ v :: w :: rest := by
      rw [← hsplit, ← List.cons_append, ← hwalk]
      exact hx
    obtain ⟨y, hxy | hyx⟩ := mem_of_isChain hchain x hmem
    · obtain ⟨_, _, _, _, hin, _⟩ := leads_inside.1 hxy
      exact hin
    · obtain ⟨_, _, _, _, _, hin⟩ := leads_inside.1 hyx
      exact hin
  length := by
    obtain ⟨v, inner, hwalk⟩ := hcycle.closes
    have hlength := hcycle.follows.length
    have hpositive : 0 < cycle.1.length := by
      rw [hwalk]
      simp
    change cycle.2.length + 1 = cycle.1.length
    omega
  steps i u v key hu hv hkey := by
    obtain ⟨link, hlink, hends⟩ := mem_edgesOf_false.1 (hcycle.follows.edge i hu hv hkey)
    exact ⟨link, (mem_insideLinks.1 hlink).1, hends⟩

end Component

/-- **The cycle check is exact**: it says nothing of an acyclic deck and names a genuine cycle of any other. -/
theorem cycleWitness_cases {cards : List Ref16} {links : List DeckLink} (hends : EndsIn links cards) :
    (cycleWitness cards links = none ∧ Acyclic (Linked links)) ∨
      ∃ witness, cycleWitness cards links = some witness ∧ Genuine cards links witness := by
  obtain ⟨hfound, hcover⟩ := componentsFrom_exact hends
  have hcard : ∀ {v}, TransGen (Linked links) v v → v ∈ cards := by
    intro v hcycle
    obtain ⟨u, _, link, hlink, _, rfl⟩ := TransGen.tail'_iff.1 hcycle
    exact (hends link hlink).2
  unfold cycleWitness
  dsimp only
  generalize componentsFrom links (cards.length + 1) [] _ = found at hfound hcover ⊢
  have hmem : ∀ c, c ∈ found.insertionSort (· ≤ ·) ↔ c ∈ found := fun c => (List.perm_insertionSort _ _).mem_iff
  -- What the loop returns at a component.
  have hat : ∀ c ∈ found, Cyclic links c → ∃ cycle, IsCycle (edgesOf (insideLinks links c) false) cycle ∧
      (if componentIsCyclic c links then
        (concreteCycle c links (cards.length + 1)).map fun cycle => DeckCycleWitness.mk c cycle.1 cycle.2
      else none) = some ⟨c, cycle.1, cycle.2⟩ := by
    intro c hc hcyclic
    obtain ⟨cycle, hcycle, hgenuine⟩ := (hfound c hc).concreteCycle hends hcyclic
    refine ⟨cycle, hgenuine, ?_⟩
    rw [if_pos ((hfound c hc).cyclic_iff.2 hcyclic), hcycle]
    rfl
  cases hout : (found.insertionSort (· ≤ ·)).findSome? _ with
  | none =>
    refine .inl ⟨rfl, fun v hcycle => ?_⟩
    obtain ⟨c, hc, hvc⟩ := hcover v (hcard hcycle)
    obtain ⟨cycle, _, hsome⟩ := hat c hc ⟨v, hvc, hcycle⟩
    have hnone := List.findSome?_eq_none_iff.1 hout c ((hmem c).2 hc)
    rw [hsome] at hnone
    cases hnone
  | some witness =>
    refine .inr ⟨witness, rfl, ?_⟩
    obtain ⟨before, c, after, hsplit, hsome, hbefore⟩ := List.findSome?_eq_some_iff.1 hout
    have hc : c ∈ found := (hmem c).1 (by rw [hsplit]; simp)
    have hcyclic : Cyclic links c := by
      refine (hfound c hc).cyclic_iff.1 ?_
      by_contra hnot
      rw [if_neg hnot] at hsome
      cases hsome
    obtain ⟨cycle, hcycle, hsome'⟩ := hat c hc hcyclic
    obtain rfl := Option.some.inj (hsome'.symm.trans hsome)
    refine hcycle.genuine (hfound c hc) hcyclic fun other hother hcyclic' => ?_
    obtain ⟨v, hv, hcycle'⟩ := hcyclic'
    obtain ⟨c', hc', hvc'⟩ := hcover v (hcard hcycle')
    obtain rfl : c' = other := by
      refine (hfound c' hc').ascending.ext id hother.ascending fun u => ?_
      rw [(hfound c' hc').mutual hvc', hother.mutual hv]
    have hsorted : (found.insertionSort (· ≤ ·)).Pairwise (· ≤ ·) := List.pairwise_insertionSort _ _
    have hin := (hmem c').2 hc'
    rw [hsplit] at hsorted hin
    rcases List.mem_append.1 hin with hin | hin
    · obtain ⟨_, _, hsome''⟩ := hat c' hc' ⟨v, hv, hcycle'⟩
      rw [hbefore c' hin] at hsome''
      cases hsome''
    · rcases List.mem_cons.1 hin with rfl | hin
      · exact le_refl _
      · exact (List.pairwise_cons.1 (List.pairwise_append.1 hsorted).2.1).1 c' hin

/-! ## Compilation -/

def resolveDeck (spec : DeckSpec) (resolver : DeckResolverSnapshot) :
    Except DeckCompileError (DeckTopology × ResolvedDeckClosure) := do
  checkDeclared spec resolver
  let cards ← orderCards spec.cards
  let definitions ← orderDefinitions resolver.definitions
  let resolvedCards ← collect (resolveCard definitions) cards
  let requirements ← resolveRequirements spec.requirements resolver.requirements
  let links ← resolveLinks spec.links resolver.deliveryProfiles resolvedCards
  pure (⟨cards.map (·.key), links.1, requirements.1⟩, ⟨resolvedCards, links.2, requirements.2⟩)

theorem compile_eq (sha256 : Sha256) (spec : DeckSpec) (resolver : DeckResolverSnapshot) :
    compile sha256 spec resolver = (do
      let resolved ← resolveDeck spec resolver
      sealLock sha256 spec.deckKey resolved.1 resolved.2) := by
  simp only [compile, resolveDeck, bind_assoc, pure_bind]

theorem encodeLock_fails (deckKey : Ref16) (topology : DeckTopology) (closure : ResolvedDeckClosure) :
    FailsWith [.canonicalLengthOverflow] (encodeLock deckKey topology closure) := by
  have hcount : ∀ value, FailsWith [.canonicalLengthOverflow] (appendCount value) := fun value =>
    (FailsWith.rejectIf fun _ => List.mem_singleton_self _).bind fun _ _ => .pure _
  have hcard : ∀ card, FailsWith [.canonicalLengthOverflow] (encodeCard card) := fun card =>
    (hcount _).bind fun _ _ => .pure _
  refine (hcount _).bind fun _ _ => (hcount _).bind fun _ _ => (hcount _).bind fun _ _ => (hcount _).bind fun _ _ => ?_
  exact (FailsWith.collect hcard).bind fun _ _ => (hcount _).bind fun _ _ => (hcount _).bind fun _ _ => .pure _

/-- **A resolved deck is refused as cyclic exactly with the witness of the check.** -/
theorem sealLock_cyclic {sha256 : Sha256} {deckKey : Ref16} {topology : DeckTopology} {closure : ResolvedDeckClosure}
    {witness : DeckCycleWitness} :
    sealLock sha256 deckKey topology closure = .error (.cyclicDeck witness) ↔
      cycleWitness topology.cardKeys topology.links = some witness := by
  unfold sealLock
  cases hcycle : cycleWitness topology.cardKeys topology.links with
  | some found =>
    constructor
    · intro h
      cases h
      rfl
    · intro h
      cases h
      rfl
  | none =>
    refine ⟨fun h => ?_, nofun⟩
    change (encodeLock deckKey topology closure >>= _) = _ at h
    cases hwire : encodeLock deckKey topology closure with
    | error error =>
      rw [hwire] at h
      cases h
      have herror := encodeLock_fails deckKey topology closure _ hwire
      cases List.mem_singleton.1 herror
    | ok wire =>
      rw [hwire] at h
      change (wrapErr _ _ >>= _) = _ at h
      cases hdigest : digest32 sha256 deckLockDigestDomain [wire] with
      | error error =>
        rw [hdigest] at h
        cases h
      | ok digest =>
        rw [hdigest] at h
        cases h

def Declared (spec : DeckSpec) (u v : Ref16) : Prop :=
  ∃ link ∈ spec.links, link.source.card = u ∧ link.target.card = v

theorem collect_mem {ε α β : Type} {f : α → Except ε β} : ∀ {xs : List α} {ys : List β}, collect f xs = .ok ys →
    ∀ x ∈ xs, ∃ y ∈ ys, f x = .ok y
  | [], _, _, x, hx => by cases hx
  | z :: zs, ys, h, x, hx => by
    simp only [collect, bind_ok, pure_ok] at h
    obtain ⟨w, hw, rest, hrest, rfl⟩ := h
    rcases List.mem_cons.1 hx with rfl | hx
    · exact ⟨w, List.mem_cons_self .., hw⟩
    · obtain ⟨y, hy, hfx⟩ := collect_mem hrest x hx
      exact ⟨y, List.mem_cons_of_mem _ hy, hfx⟩

theorem resolveLink_ok {profiles : List ResolvedDeliveryProfileCommitment} {cards : List ResolvedCardUse}
    {declared : DeckLinkSpec} {link : DeckLink} (h : resolveLink profiles cards declared = .ok link) :
    link.source = declared.source ∧ link.target = declared.target ∧
      link.source.card ∈ cards.map (·.key) ∧ link.target.card ∈ cards.map (·.key) := by
  simp only [resolveLink, bind_ok, okOr_ok, exists_unit, pure_ok] at h
  obtain ⟨_, _, _, source, hsource, target, htarget, _, _, _, _, _, _, _, _, rfl⟩ := h
  obtain ⟨hmem, hkey⟩ := Keyed.find_mem _ hsource
  obtain ⟨hmem', hkey'⟩ := Keyed.find_mem _ htarget
  exact ⟨rfl, rfl, List.mem_map.2 ⟨source, hmem, hkey⟩, List.mem_map.2 ⟨target, hmem', hkey'⟩⟩

/-- **The resolved links are the declared ones**, and end at cards of the deck. -/
theorem resolveDeck_links {spec : DeckSpec} {resolver : DeckResolverSnapshot} {topology : DeckTopology}
    {closure : ResolvedDeckClosure} (h : resolveDeck spec resolver = .ok (topology, closure)) :
    Linked topology.links = Declared spec ∧ EndsIn topology.links topology.cardKeys := by
  simp only [resolveDeck, bind_ok, exists_unit, pure_ok, Prod.mk.injEq] at h
  obtain ⟨_, cards, _, definitions, _, resolvedCards, hcards, requirements, _, links, hlinks, rfl, rfl⟩ := h
  simp only [resolveLinks, bind_ok, sortDistinct_ok, pure_ok] at hlinks
  obtain ⟨_, ⟨_, rfl⟩, profiles, _, canonical, hcanonical, _, _, rfl⟩ := hlinks
  have hkeys : ∀ key ∈ resolvedCards.map (·.key), key ∈ cards.map (·.key) := by
    intro key hkey
    obtain ⟨card, hcard, rfl⟩ := List.mem_map.1 hkey
    obtain ⟨declared, hdeclared, hresolve⟩ := collect_mem_ok hcards card hcard
    simp only [resolveCard, bind_ok, exists_unit, pure_ok] at hresolve
    obtain ⟨_, _, _, _, _, rfl⟩ := hresolve
    exact List.mem_map.2 ⟨declared, hdeclared, rfl⟩
  constructor
  · funext u v
    refine propext ⟨?_, ?_⟩
    · rintro ⟨link, hlink, rfl, rfl⟩
      obtain ⟨declared, hdeclared, hresolve⟩ := collect_mem_ok hcanonical link hlink
      obtain ⟨hsource, htarget, _⟩ := resolveLink_ok hresolve
      exact ⟨declared, (Keyed.mem_sortBy _).1 hdeclared, by rw [hsource], by rw [htarget]⟩
    · rintro ⟨declared, hdeclared, rfl, rfl⟩
      obtain ⟨link, hlink, hresolve⟩ := collect_mem hcanonical declared ((Keyed.mem_sortBy _).2 hdeclared)
      obtain ⟨hsource, htarget, _⟩ := resolveLink_ok hresolve
      exact ⟨link, hlink, by rw [hsource], by rw [htarget]⟩
  · intro link hlink
    obtain ⟨declared, _, hresolve⟩ := collect_mem_ok hcanonical link hlink
    obtain ⟨_, _, hsource, htarget⟩ := resolveLink_ok hresolve
    exact ⟨hkeys _ hsource, hkeys _ htarget⟩

/-- **The cycle detection of the compiler is exact.**  A deck that resolves is refused as cyclic exactly when its declared
links have a cycle, and then the witness is genuine: the least strongly connected component that holds a cycle, a closed
walk through distinct cards of it, and the links of that walk in order. -/
theorem deck_cycle_exact (sha256 : Sha256) (spec : DeckSpec) (resolver : DeckResolverSnapshot) (topology : DeckTopology)
    (closure : ResolvedDeckClosure) (hresolved : resolveDeck spec resolver = .ok (topology, closure)) :
    ((∃ witness, compile sha256 spec resolver = .error (.cyclicDeck witness)) ↔
      ∃ card, TransGen (Declared spec) card card) ∧
    ∀ witness, compile sha256 spec resolver = .error (.cyclicDeck witness) →
      Genuine topology.cardKeys topology.links witness := by
  obtain ⟨hlinked, hends⟩ := resolveDeck_links hresolved
  have hcompile : ∀ witness, compile sha256 spec resolver = .error (.cyclicDeck witness) ↔
      cycleWitness topology.cardKeys topology.links = some witness := by
    intro witness
    rw [compile_eq, hresolved]
    exact sealLock_cyclic
  simp only [hcompile]
  rw [← hlinked]
  rcases cycleWitness_cases hends with ⟨hnone, hacyclic⟩ | ⟨witness, hsome, hgenuine⟩
  · rw [hnone]
    exact ⟨⟨nofun, fun ⟨card, hcycle⟩ => absurd hcycle (hacyclic card)⟩, nofun⟩
  · rw [hsome]
    obtain ⟨card, _, hcycle⟩ := hgenuine.cyclic
    refine ⟨⟨fun _ => ⟨card, hcycle⟩, fun _ => ⟨witness, rfl⟩⟩, fun witness' h => ?_⟩
    rw [← Option.some.inj h]
    exact hgenuine

/-! ## Two cards linked in a ring, and a third behind them -/

def ringPort (key : Nat) (direction : PortDirection) : ResolvedDeckPort :=
  ⟨.ofNat key, ⟨direction, ⟨.ofNat 1, 1, .ofNat 2, by decide⟩, .signal, .one⟩⟩

def ringResolver : DeckResolverSnapshot :=
  ⟨[⟨.ofNat 7, 1, .ofNat 1, .ofNat 2, .ofNat 3, .ofNat 4, [ringPort 1 .outgoing, ringPort 2 .incoming], []⟩],
    [⟨.ofNat 9, .ofNat 1⟩], []⟩

def ringCard (key : Nat) : DeckCardSpec := ⟨.ofNat key, .ofNat 7, .general, ⟨1, 1⟩, none, .canonicalEmpty⟩

def ringLink (key source target : Nat) : DeckLinkSpec :=
  ⟨.ofNat key, ⟨.ofNat source, .ofNat 1⟩, ⟨.ofNat target, .ofNat 2⟩, some (.ofNat 9)⟩

def ringDeck : DeckSpec where
  deckKey := .ofNat 5
  cards := [ringCard 10, ringCard 20, ringCard 30]
  links := [ringLink 1 20 30, ringLink 2 30 20, ringLink 3 20 10]
  requirements := []
  display := []
  ownership := .deck
  lifetime := .deck

theorem deck_cycle_exact_ring : ∃ topology closure witness,
    resolveDeck ringDeck ringResolver = .ok (topology, closure) ∧
    compile (fun _ => 0) ringDeck ringResolver = .error (.cyclicDeck witness) ∧
    Genuine topology.cardKeys topology.links witness := by
  have hok : (resolveDeck ringDeck ringResolver).isOk = true := by decide +kernel
  cases hresolved : resolveDeck ringDeck ringResolver with
  | error error =>
    rw [hresolved] at hok
    cases hok
  | ok resolved =>
    obtain ⟨hiff, hgenuine⟩ := deck_cycle_exact (fun _ => 0) ringDeck ringResolver resolved.1 resolved.2 hresolved
    have hthere : Declared ringDeck (.ofNat 20) (.ofNat 30) := ⟨ringLink 1 20 30, List.mem_cons_self, rfl, rfl⟩
    have hback : Declared ringDeck (.ofNat 30) (.ofNat 20) :=
      ⟨ringLink 2 30 20, List.mem_cons_of_mem _ List.mem_cons_self, rfl, rfl⟩
    obtain ⟨witness, hwitness⟩ := hiff.2 ⟨.ofNat 20, .tail (.single hthere) hback⟩
    exact ⟨resolved.1, resolved.2, witness, rfl, hwitness, hgenuine witness hwitness⟩

end Deck
end ParaEgox
