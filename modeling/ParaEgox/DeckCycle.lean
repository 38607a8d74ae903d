import ParaEgox.DigraphVisits
import ParaEgox.Deck

/-!
# DeckCycle — the search for a cycle of links

The path of cards and the path of links of the search move together, the second one link shorter.  A card is left only after
every card it links to, so the search of a component that holds a cycle names one.
-/
namespace ParaEgox
namespace Deck

open Digraphs Relation

/-! ## Links as edges -/

def Linked (links : List DeckLink) (u v : Ref16) : Prop := ∃ link ∈ links, link.source.card = u ∧ link.target.card = v

theorem mem_edgesOf_false {links : List DeckLink} {u v key : Ref16} :
    (v, key) ∈ edgesOf links false u ↔ ∃ link ∈ links, link.source.card = u ∧ link.target.card = v ∧ link.key = key := by
  unfold edgesOf
  simp only [Keyed.mem_sortBy, List.mem_map, List.mem_filter, Bool.false_eq_true, if_false, decide_eq_true_eq]
  constructor
  · rintro ⟨_, ⟨⟨link, hlink, rfl⟩, hsource⟩, heq⟩
    obtain ⟨rfl, rfl⟩ := Prod.mk.inj heq
    exact ⟨link, hlink, hsource, rfl, rfl⟩
  · rintro ⟨link, hlink, hsource, rfl, rfl⟩
    exact ⟨_, ⟨⟨link, hlink, rfl⟩, hsource⟩, rfl⟩

theorem mem_edgesOf_true {links : List DeckLink} {u v key : Ref16} :
    (v, key) ∈ edgesOf links true u ↔ ∃ link ∈ links, link.target.card = u ∧ link.source.card = v ∧ link.key = key := by
  unfold edgesOf
  simp only [Keyed.mem_sortBy, List.mem_map, List.mem_filter, if_true, decide_eq_true_eq]
  constructor
  · rintro ⟨_, ⟨⟨link, hlink, rfl⟩, htarget⟩, heq⟩
    obtain ⟨rfl, rfl⟩ := Prod.mk.inj heq
    exact ⟨link, hlink, htarget, rfl, rfl⟩
  · rintro ⟨link, hlink, htarget, rfl, rfl⟩
    exact ⟨_, ⟨⟨link, hlink, rfl⟩, htarget⟩, rfl⟩

/-! ## Walks along labelled edges -/

section Search

variable {outgoing : Ref16 → List (Ref16 × Ref16)}

variable (outgoing) in
def Leads (u v : Ref16) : Prop := ∃ key, (v, key) ∈ outgoing u

variable (outgoing) in
def Follows : List Ref16 → List Ref16 → Prop
  | [], links => links = []
  | [_], links => links = []
  | u :: v :: cards, link :: links => (v, link) ∈ outgoing u ∧ Follows (v :: cards) links
  | _ :: _ :: _, [] => False

theorem Follows.length : ∀ {cards links : List Ref16}, Follows outgoing cards links → links.length = cards.length - 1
  | [], _, h => by rw [show _ = [] from h]; rfl
  | [_], _, h => by rw [show _ = [] from h]; rfl
  | _ :: v :: cards, _ :: links, h => by
    have ih := h.2.length
    simp only [List.length_cons] at ih ⊢
    omega

theorem Follows.snoc {v link last : Ref16} : ∀ {cards links : List Ref16}, Follows outgoing cards links →
    cards.getLast? = some last → (v, link) ∈ outgoing last → Follows outgoing (cards ++ [v]) (links ++ [link])
  | [], _, _, hlast, _ => by cases hlast
  | [u], links, h, hlast, hedge => by
    obtain rfl : links = [] := h
    obtain rfl : u = last := Option.some.inj hlast
    exact ⟨hedge, rfl⟩
  | _ :: w :: cards, _ :: links, h, hlast, hedge =>
    ⟨h.1, h.2.snoc (by rwa [List.getLast?_cons_cons] at hlast) hedge⟩

theorem Follows.drop {v : Ref16} {after : List Ref16} : ∀ {before links : List Ref16},
    Follows outgoing (before ++ v :: after) links → Follows outgoing (v :: after) (links.drop before.length)
  | [], _, h => h
  | [u], link :: links, h => h.2
  | u :: w :: before, link :: links, h => by
    have hrest : Follows outgoing (w :: before ++ v :: after) links := h.2
    exact hrest.drop

theorem Follows.edge : ∀ {cards links : List Ref16}, Follows outgoing cards links → ∀ (i : Nat) {u v link : Ref16},
    cards[i]? = some u → cards[i + 1]? = some v → links[i]? = some link → (v, link) ∈ outgoing u
  | [], _, _, i, _, _, _, hu, _, _ => by cases hu
  | [_], _, _, i, _, _, _, _, hv, _ => by simp at hv
  | _ :: _ :: _, _ :: _, h, 0, _, _, _, hu, hv, hlink => by
    cases hu
    cases hv
    cases hlink
    exact h.1
  | _ :: _ :: _, _ :: _, h, i + 1, _, _, _, hu, hv, hlink => h.2.edge i hu hv hlink

theorem Follows.isChain : ∀ {cards links : List Ref16}, Follows outgoing cards links → cards.IsChain (Leads outgoing)
  | [], _, _ => .nil
  | [_], _, _ => .singleton _
  | _ :: _ :: _, link :: _, h => List.isChain_cons_cons.2 ⟨⟨link, h.1⟩, h.2.isChain⟩

variable (outgoing) in
structure IsCycle (cycle : List Ref16 × List Ref16) : Prop where
  follows : Follows outgoing cycle.1 cycle.2
  closes : ∃ v inner, cycle.1 = v :: inner ++ [v]
  simple : cycle.1.dropLast.Nodup

/-! ## The search -/

def CycleSearch.color (s : CycleSearch) (v : Ref16) : Nat := (Assoc.get v s.colors).getD 0

variable (outgoing) in
/-- **What the search keeps**: `left` are the cards it has left, in that order. -/
structure Colored (s : CycleSearch) (left : List Ref16) : Prop where
  entered : ∀ v, s.color v = 1 ↔ v ∈ s.stackCards
  gone : ∀ v, s.color v = 2 ↔ v ∈ left
  colors : ∀ v, s.color v ≤ 2
  nodup : s.stackCards.Nodup
  follows : Follows outgoing s.stackCards s.stackLinks
  done : Ordered (flip (Leads outgoing)) left

theorem Colored.new_iff {s : CycleSearch} {left : List Ref16} (h : Colored outgoing s left) (v : Ref16) :
    s.color v = 0 ↔ v ∉ s.stackCards ++ left := by
  rw [List.mem_append, ← h.entered v, ← h.gone v]
  have hle := h.colors v
  omega

theorem Colored.close {s : CycleSearch} {left : List Ref16} {target link last : Ref16} (h : Colored outgoing s left)
    (hlast : s.stackCards.getLast? = some last) (hedge : (target, link) ∈ outgoing last) (hopen : s.color target = 1) :
    ∃ cycle, closeCycle s target link = some cycle ∧ IsCycle outgoing cycle := by
  obtain ⟨before, after, hsplit, hfirst⟩ := List.eq_append_cons_of_mem ((h.entered target).1 hopen)
  have hbefore : before.findIdx? (· = target) = none := by
    refine List.findIdx?_eq_none_iff.2 fun x hx => decide_eq_false fun hxt => hfirst ?_
    rwa [← hxt]
  have hindex : s.stackCards.findIdx? (· = target) = some before.length := by
    rw [hsplit, List.findIdx?_append, hbefore]
    simp [List.findIdx?_cons]
  have hfollows := h.follows
  have hnodup := h.nodup
  rw [hsplit] at hfollows hnodup hlast
  rw [List.getLast?_append_cons] at hlast
  refine ⟨(target :: after ++ [target], s.stackLinks.drop before.length ++ [link]), ?_, ?_⟩
  · rw [closeCycle, hindex, hsplit]
    change some (List.drop before.length (before ++ target :: after) ++ [target], _) = _
    rw [List.drop_left]
  refine ⟨hfollows.drop.snoc hlast hedge, ⟨target, after, rfl⟩, ?_⟩
  rw [List.dropLast_concat]
  exact (List.nodup_append.1 hnodup).2.1

theorem color_put (s : CycleSearch) (card v : Ref16) (n : Nat) (cards links : List Ref16) :
    CycleSearch.color ⟨Assoc.put card n s.colors, cards, links⟩ v = if v = card then n else s.color v := by
  unfold CycleSearch.color
  split
  · rename_i hv
    rw [hv, Assoc.get_put_self]
    rfl
  · rename_i hv
    rw [Assoc.get_put_of_ne hv]

theorem Colored.enter {s : CycleSearch} {left links : List Ref16} {card : Ref16} (h : Colored outgoing s left)
    (hnew : s.color card = 0) (hfollows : Follows outgoing (s.stackCards ++ [card]) links) :
    Colored outgoing ⟨Assoc.put card 1 s.colors, s.stackCards ++ [card], links⟩ left := by
  have hout := (h.new_iff card).1 hnew
  rw [List.mem_append, not_or] at hout
  refine ⟨fun v => ?_, fun v => ?_, fun v => ?_, ?_, hfollows, h.done⟩
  · rw [color_put]
    by_cases hv : v = card
    · simp [hv]
    · rw [if_neg hv, h.entered v]
      simp [hv]
  · rw [color_put]
    by_cases hv : v = card
    · simp [hv, hout.2]
    · rw [if_neg hv, h.gone v]
  · rw [color_put]
    split
    · exact Nat.le_succ 1
    · exact h.colors v
  · refine List.nodup_append.2 ⟨h.nodup, List.nodup_singleton card, fun a ha b hb hab => ?_⟩
    rw [List.mem_singleton.1 hb] at hab
    exact hout.1 (hab ▸ ha)

theorem Colored.leave {s : CycleSearch} {left cards links : List Ref16} {card : Ref16} (h : Colored outgoing s left)
    (hcards : s.stackCards = cards ++ [card]) (hfollows : Follows outgoing cards links)
    (hbelow : ∀ v, Leads outgoing card v → v ∈ left) :
    Colored outgoing ⟨Assoc.put card 2 s.colors, cards, links⟩ (left ++ [card]) := by
  have hnodup := h.nodup
  rw [hcards] at hnodup
  have hout : card ∉ cards := fun hin => (List.nodup_append.1 hnodup).2.2 card hin card (List.mem_singleton_self _) rfl
  refine ⟨fun v => ?_, fun v => ?_, fun v => ?_, (List.nodup_append.1 hnodup).1, hfollows, h.done.snoc hbelow⟩
  · rw [color_put]
    by_cases hv : v = card
    · simp [hv, hout]
    · rw [if_neg hv, h.entered v, hcards]
      simp [hv]
  · rw [color_put]
    by_cases hv : v = card
    · simp [hv]
    · rw [if_neg hv, h.gone v]
      simp [hv]
  · rw [color_put]
    split
    · exact Nat.le_refl 2
    · exact h.colors v

structure Leaves (outgoing : Ref16 → List (Ref16 × Ref16)) (s s' : CycleSearch) (left left' : List Ref16) : Prop where
  colored : Colored outgoing s' left'
  cards : s'.stackCards = s.stackCards
  links : s'.stackLinks = s.stackLinks
  grows : ∀ v ∈ left, v ∈ left'

def Visits (outgoing : Ref16 → List (Ref16 × Ref16)) (vertices : List Ref16) (fuel : Nat) : Prop :=
  ∀ (card : Ref16) (s : CycleSearch) (left links : List Ref16), Colored outgoing s left → s.color card = 0 →
    card ∈ vertices → Follows outgoing (s.stackCards ++ [card]) links → unseen vertices (s.stackCards ++ left) < fuel →
      (∃ cycle, (visitCycle outgoing fuel card { s with stackLinks := links }).1 = some cycle ∧ IsCycle outgoing cycle) ∨
        ∃ s' left', visitCycle outgoing fuel card { s with stackLinks := links } = (none, { s' with stackLinks := links })
          ∧ Leaves outgoing s s' left left' ∧ card ∈ left'

/-- **The loop over the edges of a card** names a cycle or leaves every card they lead to. -/
theorem edgeLoop_colored {vertices : List Ref16} {fuel : Nat} (hvisit : Visits outgoing vertices fuel) {last : Ref16}
    (hclosed : ∀ edge ∈ outgoing last, edge.1 ∈ vertices) :
    ∀ (edges : List (Ref16 × Ref16)) (s : CycleSearch) (left : List Ref16), Colored outgoing s left →
      s.stackCards.getLast? = some last → (∀ edge ∈ edges, edge ∈ outgoing last) →
      unseen vertices (s.stackCards ++ left) < fuel →
      (∃ cycle s', edgeLoop (visitCycle outgoing fuel) edges s = .returned (some cycle) s' ∧ IsCycle outgoing cycle) ∨
        ∃ s' left', edgeLoop (visitCycle outgoing fuel) edges s = .finished s' ∧ Leaves outgoing s s' left left' ∧
          ∀ edge ∈ edges, edge.1 ∈ left'
  | [], s, left, h, _, _, _ => .inr ⟨s, left, rfl, ⟨h, rfl, rfl, fun _ => id⟩, nofun⟩
  | (target, link) :: edges, s, left, h, hlast, hedges, hfuel => by
    have hedge := hedges _ (List.mem_cons_self ..)
    have hrest : ∀ edge ∈ edges, edge ∈ outgoing last := fun edge he => hedges edge (List.mem_cons_of_mem _ he)
    -- The loop goes on from a state that has left the target.
    have hgo : ∀ (s₁ : CycleSearch) (left₁ : List Ref16), Leaves outgoing s s₁ left left₁ → target ∈ left₁ →
        edgeLoop (visitCycle outgoing fuel) ((target, link) :: edges) s = edgeLoop (visitCycle outgoing fuel) edges s₁ →
        (∃ cycle s', edgeLoop (visitCycle outgoing fuel) ((target, link) :: edges) s = .returned (some cycle) s' ∧
          IsCycle outgoing cycle) ∨
        ∃ s' left', edgeLoop (visitCycle outgoing fuel) ((target, link) :: edges) s = .finished s' ∧
          Leaves outgoing s s' left left' ∧ ∀ edge ∈ (target, link) :: edges, edge.1 ∈ left' := by
      intro s₁ left₁ h₁ htarget heq
      have hless : unseen vertices (s₁.stackCards ++ left₁) < fuel := by
        refine Nat.lt_of_le_of_lt (unseen_le fun v hv => ?_) hfuel
        rw [h₁.cards]
        exact (List.mem_append.1 hv).elim (List.mem_append_left _) fun hin => List.mem_append_right _ (h₁.grows v hin)
      rcases edgeLoop_colored hvisit hclosed edges s₁ left₁ h₁.colored (h₁.cards ▸ hlast) hrest hless with
        ⟨cycle, s', hout, hcycle⟩ | ⟨s', left', hout, h', hall⟩
      · exact .inl ⟨cycle, s', heq.trans hout, hcycle⟩
      · refine .inr ⟨s', left', heq.trans hout, ⟨h'.colored, h'.cards.trans h₁.cards, h'.links.trans h₁.links,
          fun v hv => h'.grows v (h₁.grows v hv)⟩, fun edge he => ?_⟩
        rcases List.mem_cons.1 he with rfl | he
        · exact h'.grows _ htarget
        · exact hall edge he
    have hle := h.colors target
    have hcases : s.color target = 0 ∨ s.color target = 1 ∨ s.color target = 2 := by omega
    rcases hcases with hnew | hopen | hgone
    · have hfollows := h.follows.snoc hlast hedge
      have hget : (Assoc.get target s.colors).getD 0 = 0 := hnew
      rcases hvisit target s left _ h hnew (hclosed _ hedge) hfollows hfuel with
        ⟨cycle, hout, hcycle⟩ | ⟨s₁, left₁, hout, h₁, htarget⟩
      · refine .inl ⟨cycle, (visitCycle outgoing fuel target { s with stackLinks := s.stackLinks ++ [link] }).2, ?_, hcycle⟩
        rw [edgeLoop, hget]
        dsimp only
        rw [hout]
        rfl
      · refine hgo s₁ left₁ h₁ htarget ?_
        rw [edgeLoop, hget]
        dsimp only
        rw [hout]
        dsimp only
        rw [List.dropLast_concat, ← h₁.links]
        rfl
    · left
      have hget : (Assoc.get target s.colors).getD 0 = 1 := hopen
      obtain ⟨cycle, hclose, hcycle⟩ := h.close hlast hedge hopen
      refine ⟨cycle, s, ?_, hcycle⟩
      rw [edgeLoop, hget]
      dsimp only
      rw [hclose]
      rfl
    · have hget : (Assoc.get target s.colors).getD 0 = 2 := hgone
      refine hgo s left ⟨h, rfl, rfl, fun _ => id⟩ ((h.gone target).1 hgone) ?_
      rw [edgeLoop, hget]
      rfl

theorem visitCycle_visits {vertices : List Ref16} (hclosed : ∀ v, ∀ edge ∈ outgoing v, edge.1 ∈ vertices) :
    ∀ fuel, Visits outgoing vertices fuel
  | 0 => fun _ _ _ _ _ _ _ _ hfuel => absurd hfuel (Nat.not_lt_zero _)
  | fuel + 1 => by
    intro card s left links h hnew hcard hfollows hfuel
    have hentered := h.enter hnew hfollows
    have hout := (h.new_iff card).1 hnew
    have hsame : unseen vertices (s.stackCards ++ [card] ++ left) ≤ unseen vertices (card :: (s.stackCards ++ left)) :=
      unseen_le fun v hv => by simpa [or_assoc, or_left_comm] using hv
    have hless : unseen vertices (s.stackCards ++ [card] ++ left) < fuel :=
      Nat.lt_of_le_of_lt hsame (Nat.lt_of_lt_of_le (unseen_cons_lt hcard hout) (Nat.le_of_lt_succ hfuel))
    have hlast : (s.stackCards ++ [card]).getLast? = some card := List.getLast?_concat ..
    rw [visitCycle]
    rcases edgeLoop_colored (visitCycle_visits hclosed fuel) (hclosed card) (outgoing card) _ left hentered hlast
      (fun _ => id) hless with ⟨cycle, s', hloop, hcycle⟩ | ⟨s', left', hloop, h', hall⟩
    · left
      refine ⟨cycle, ?_, hcycle⟩
      dsimp only
      rw [hloop]
    · right
      have hcards : s'.stackCards = s.stackCards ++ [card] := h'.cards
      refine ⟨⟨Assoc.put card 2 s'.colors, s.stackCards, s.stackLinks⟩, left' ++ [card], ?_,
        ⟨h'.colored.leave hcards h.follows fun v ⟨key, hkey⟩ => hall _ hkey, rfl, rfl, fun v hv =>
          List.mem_append_left _ (h'.grows v hv)⟩, List.mem_append_right _ (List.mem_singleton_self _)⟩
      dsimp only
      rw [hloop]
      dsimp only
      rw [hcards, List.dropLast_concat]
      exact congrArg (fun l => (none, CycleSearch.mk _ s.stackCards l)) h'.links

theorem searchFrom_colored {vertices : List Ref16} (hclosed : ∀ v, ∀ edge ∈ outgoing v, edge.1 ∈ vertices) {fuel : Nat}
    (hfuel : vertices.length < fuel) :
    ∀ (roots : List Ref16) (s : CycleSearch) (left : List Ref16), Colored outgoing s left → s.stackCards = [] →
      (∀ v ∈ roots, v ∈ vertices) →
      (∃ cycle, searchFrom outgoing fuel roots s = some cycle ∧ IsCycle outgoing cycle) ∨
        ∃ left', Ordered (flip (Leads outgoing)) left' ∧ (∀ v ∈ left, v ∈ left') ∧ ∀ v ∈ roots, v ∈ left'
  | [], s, left, h, _, _ => .inr ⟨left, h.done, fun _ => id, nofun⟩
  | root :: roots, s, left, h, hcards, hroots => by
    have hrest : ∀ v ∈ roots, v ∈ vertices := fun v hv => hroots v (List.mem_cons_of_mem _ hv)
    have hgo : ∀ (s₁ : CycleSearch) (left₁ : List Ref16), Leaves outgoing s s₁ left left₁ → root ∈ left₁ →
        searchFrom outgoing fuel (root :: roots) s = searchFrom outgoing fuel roots s₁ →
        (∃ cycle, searchFrom outgoing fuel (root :: roots) s = some cycle ∧ IsCycle outgoing cycle) ∨
          ∃ left', Ordered (flip (Leads outgoing)) left' ∧ (∀ v ∈ left, v ∈ left') ∧ ∀ v ∈ root :: roots, v ∈ left' := by
      intro s₁ left₁ h₁ hroot heq
      rcases searchFrom_colored hclosed hfuel roots s₁ left₁ h₁.colored (h₁.cards.trans hcards) hrest with
        ⟨cycle, hout, hcycle⟩ | ⟨left', hdone, hgrows, hall⟩
      · exact .inl ⟨cycle, heq.trans hout, hcycle⟩
      · refine .inr ⟨left', hdone, fun v hv => hgrows v (h₁.grows v hv), fun v hv => ?_⟩
        rcases List.mem_cons.1 hv with rfl | hv
        · exact hgrows v hroot
        · exact hall v hv
    by_cases hnew : s.color root = 0
    · have hget : (Assoc.get root s.colors).getD 0 = 0 := hnew
      have hlinks : s.stackLinks = [] := by
        have hfollows := h.follows
        rw [hcards] at hfollows
        exact hfollows
      have hfollows : Follows outgoing (s.stackCards ++ [root]) s.stackLinks := by
        rw [hcards, hlinks]
        rfl
      have hless : unseen vertices (s.stackCards ++ left) < fuel :=
        Nat.lt_of_le_of_lt (List.length_filter_le _ _) hfuel
      rcases visitCycle_visits hclosed fuel root s left s.stackLinks h hnew (hroots root (List.mem_cons_self ..)) hfollows
        hless with ⟨cycle, hout, hcycle⟩ | ⟨s₁, left₁, hout, h₁, hroot⟩
      · refine .inl ⟨cycle, ?_, hcycle⟩
        rw [searchFrom, if_pos hget]
        change (visitCycle outgoing fuel root s).1 = some cycle at hout
        generalize visitCycle outgoing fuel root s = out at hout ⊢
        obtain ⟨witness, s'⟩ := out
        cases hout
        rfl
      · refine hgo s₁ left₁ h₁ hroot ?_
        rw [searchFrom, if_pos hget]
        change visitCycle outgoing fuel root s = _ at hout
        rw [hout, ← h₁.links]
    · have hget : ¬ (Assoc.get root s.colors).getD 0 = 0 := hnew
      have hgone : s.color root = 2 := by
        have hle := h.colors root
        have hopen : s.color root ≠ 1 := fun hopen => by
          have hin := (h.entered root).1 hopen
          rw [hcards] at hin
          cases hin
        omega
      refine hgo s left ⟨h, rfl, rfl, fun _ => id⟩ ((h.gone root).1 hgone) ?_
      rw [searchFrom, if_neg hget]

end Search

end Deck
end ParaEgox
