import ParaEgox.ServiceStartup
import Mathlib.Algebra.BigOperators.Group.List.Basic

/-!
# ServiceCycle — the search that names a cycle

The path of the search is a walk along the dependencies, and a vertex is left only after every vertex it leads to.  So an
edge back onto the path closes a walk, and a search that leaves every vertex has ordered them all: it names a cycle where
there is one.
-/
namespace ParaEgox
namespace ServiceGraph

open Check Digraphs

def Search.mark (s : Search) (v : Ref16) : Nat := (Assoc.get v s.state).getD 0

/-- The edges a frame has taken lead to vertices that are left, or to the frame above. -/
def Explored (edges : List ServiceDependency) (left : List Ref16) (frame : Frame) (above : Option Ref16) : Prop :=
  ∀ i < frame.nextIndex, ∀ v, (outgoing edges frame.node)[i]? = some v → v ∈ left ∨ above = some v

def Stacked (edges : List ServiceDependency) (left : List Ref16) : Option Ref16 → List Frame → Prop
  | _, [] => True
  | above, frame :: frames => Explored edges left frame above ∧ Stacked edges left (some frame.node) frames

/-- **What the search keeps**: `left` are the vertices it has left, in that order. -/
structure Searching (edges : List ServiceDependency) (s : Search) (left : List Ref16) : Prop where
  entered : ∀ v, s.mark v = 1 ↔ v ∈ s.path
  gone : ∀ v, s.mark v = 2 ↔ v ∈ left
  marks : ∀ v, s.mark v ≤ 2
  positions : ∀ before v after, s.path = before ++ v :: after → Assoc.get v s.pathPositions = some before.length
  nodup : s.path.Nodup
  frames : s.frames.map Frame.node = s.path.reverse
  chain : s.path.IsChain (Depends edges)
  done : Ordered (flip (Depends edges)) left
  stacked : Stacked edges left none s.frames

variable {edges : List ServiceDependency} {left nodes : List Ref16} {node : Ref16}

theorem Explored.mono {left' : List Ref16} {frame : Frame} {above : Option Ref16}
    (h : Explored edges left frame above) (hsub : ∀ v ∈ left, v ∈ left') : Explored edges left' frame above :=
  fun i hi v hv => (h i hi v hv).imp_left (hsub v)

theorem Stacked.mono {left' : List Ref16} (hsub : ∀ v ∈ left, v ∈ left') :
    ∀ {frames : List Frame} {above : Option Ref16}, Stacked edges left above frames → Stacked edges left' above frames
  | [], _, _ => trivial
  | _ :: _, _, h => ⟨h.1.mono hsub, h.2.mono hsub⟩

theorem Stacked.pop {frames : List Frame}
    (h : Stacked edges left (some node) frames) : Stacked edges (left ++ [node]) none frames := by
  have hsub : ∀ v ∈ left, v ∈ left ++ [node] := fun v hv => List.mem_append_left _ hv
  cases frames with
  | nil => trivial
  | cons frame frames =>
    refine ⟨fun i hi v hv => .inl ?_, h.2.mono hsub⟩
    rcases h.1 i hi v hv with hleft | habove
    · exact hsub v hleft
    · rw [Option.some.inj habove]
      exact List.mem_append_right _ (List.mem_singleton_self _)

theorem depends_of_outgoing {next : Ref16} (h : next ∈ outgoing edges node) :
    Depends edges node next := by
  obtain ⟨d, hd, rfl⟩ := List.mem_map.1 h
  obtain ⟨hmem, hprovider⟩ := List.mem_filter.1 hd
  have hprovider : d.provider = node := by simpa using hprovider
  exact hprovider ▸ hmem

theorem outgoing_of_depends {next : Ref16} (h : Depends edges node next) :
    next ∈ outgoing edges node :=
  List.mem_map.2 ⟨⟨node, next⟩, List.mem_filter.2 ⟨h, by simp⟩, rfl⟩

theorem Search.mark_enter (s : Search) (node v : Ref16) : (s.enter node).mark v = if v = node then 1 else s.mark v := by
  unfold Search.mark Search.enter
  split
  · rename_i h
    rw [h, Assoc.get_put_self]
    rfl
  · rename_i h
    rw [Assoc.get_put_of_ne h]

section Searching

variable {s : Search} {frames : List Frame} {frame : Frame}

theorem Searching.path_eq (h : Searching edges s left) (hframes : s.frames = frame :: frames) :
    s.path = (frames.map Frame.node).reverse ++ [frame.node] := by
  have heq := h.frames
  rw [hframes, List.map_cons] at heq
  rw [← List.reverse_reverse s.path, ← heq, List.reverse_cons]

theorem Searching.move (h : Searching edges s left)
    (hnodes : frames.map Frame.node = s.frames.map Frame.node) (hstacked : Stacked edges left none frames) :
    Searching edges { s with frames } left :=
  ⟨h.entered, h.gone, h.marks, h.positions, h.nodup, hnodes.trans h.frames, h.chain, h.done, hstacked⟩

/-- **A vertex that was never seen is entered**, from the vertex at the end of the path. -/
theorem Searching.enter (h : Searching edges s left) {next : Ref16} (hnew : s.mark next = 0)
    (hback : ∀ last, s.path.getLast? = some last → Depends edges last next)
    (hnodes : frames.map Frame.node = s.frames.map Frame.node) (hstacked : Stacked edges left (some next) frames) :
    Searching edges (Search.enter { s with frames } next) left := by
  have hout : next ∉ s.path := fun hin => by
    rw [(h.entered next).2 hin] at hnew
    cases hnew
  have hleft : next ∉ left := fun hin => by
    rw [(h.gone next).2 hin] at hnew
    cases hnew
  have hmark : ∀ v, (Search.enter { s with frames } next).mark v = if v = next then 1 else s.mark v :=
    Search.mark_enter _ next
  refine ⟨fun v => ?_, fun v => ?_, fun v => ?_, ?_, ?_, ?_, ?_, h.done, ?_⟩
  · rw [hmark]
    by_cases hv : v = next
    · simp [hv, Search.enter]
    · rw [if_neg hv, h.entered v]
      simp [hv, Search.enter]
  · rw [hmark]
    by_cases hv : v = next
    · simp [hv, hleft]
    · rw [if_neg hv, h.gone v]
  · rw [hmark]
    split
    · exact Nat.le_succ 1
    · exact h.marks v
  · intro before v after heq
    rcases snoc_cases heq with ⟨rfl, rfl⟩ | ⟨after', hpath⟩
    · exact Assoc.get_put_self ..
    · have hv : v ≠ next := by
        rintro rfl
        exact hout (hpath ▸ by simp)
      exact (Assoc.get_put_of_ne hv ..).trans (h.positions before v after' hpath)
  · refine List.nodup_append.2 ⟨h.nodup, List.nodup_singleton next, fun a ha b hb => ?_⟩
    rw [List.mem_singleton.1 hb]
    exact fun hab => hout (hab ▸ ha)
  · change next :: frames.map Frame.node = (s.path ++ [next]).reverse
    rw [hnodes, h.frames, List.reverse_append]
    rfl
  · refine List.isChain_append.2 ⟨h.chain, List.isChain_singleton next, fun x hx y hy => ?_⟩
    obtain rfl : next = y := Option.some.inj hy
    exact hback x hx
  · exact ⟨fun i hi => absurd hi (Nat.not_lt_zero i), hstacked⟩

/-- **A vertex with no edge left to take is left**: every vertex it leads to was left before. -/
theorem Searching.leave (h : Searching edges s left)
    (hframes : s.frames = frame :: frames) (hend : (outgoing edges frame.node)[frame.nextIndex]? = none) :
    Searching edges { state := Assoc.put frame.node 2 s.state, path := s.path.dropLast,
                      pathPositions := Assoc.erase frame.node s.pathPositions, frames } (left ++ [frame.node]) := by
  have hpath := h.path_eq hframes
  have hstacked := h.stacked
  rw [hframes] at hstacked
  have hdrop : s.path.dropLast = (frames.map Frame.node).reverse := by rw [hpath, List.dropLast_concat]
  have hin : frame.node ∈ s.path := hpath ▸ List.mem_append_right _ (List.mem_singleton_self _)
  have hnodup := h.nodup
  rw [hpath] at hnodup
  have hout : frame.node ∉ s.path.dropLast := by
    rw [hdrop]
    exact fun hmem => (List.nodup_append.1 hnodup).2.2 _ hmem _ (List.mem_singleton_self _) rfl
  have hmark : ∀ v, (Assoc.get v (Assoc.put frame.node 2 s.state)).getD 0 = if v = frame.node then 2 else s.mark v := by
    intro v
    split
    · rename_i hv
      rw [hv, Assoc.get_put_self]
      rfl
    · rename_i hv
      rw [Assoc.get_put_of_ne hv]
      rfl
  refine ⟨fun v => ?_, fun v => ?_, fun v => ?_, ?_, ?_, ?_, ?_, ?_, hstacked.2.pop⟩
  · change (Assoc.get v (Assoc.put frame.node 2 s.state)).getD 0 = 1 ↔ v ∈ s.path.dropLast
    rw [hmark]
    by_cases hv : v = frame.node
    · simp [hv, hout]
    · rw [if_neg hv, h.entered v, hdrop, hpath]
      simp [hv]
  · change (Assoc.get v (Assoc.put frame.node 2 s.state)).getD 0 = 2 ↔ v ∈ left ++ [frame.node]
    rw [hmark]
    by_cases hv : v = frame.node
    · simp [hv]
    · rw [if_neg hv, h.gone v]
      simp [hv]
  · change (Assoc.get v (Assoc.put frame.node 2 s.state)).getD 0 ≤ 2
    rw [hmark]
    split
    · exact Nat.le_refl 2
    · exact h.marks v
  · intro before v after heq
    have hwhole : s.path = before ++ v :: (after ++ [frame.node]) := by
      rw [hpath, ← hdrop, show s.path.dropLast = before ++ v :: after from heq]
      simp
    have hv : v ≠ frame.node := by
      rintro rfl
      exact hout ((show s.path.dropLast = _ from heq) ▸ by simp)
    exact (Assoc.get_erase_of_ne hv _).trans (h.positions before v _ hwhole)
  · exact (List.dropLast_sublist _).nodup h.nodup
  · change frames.map Frame.node = s.path.dropLast.reverse
    rw [hdrop, List.reverse_reverse]
  · exact h.chain.dropLast
  · refine h.done.snoc fun u hu => ?_
    obtain ⟨i, hi⟩ := List.mem_iff_getElem?.1 (outgoing_of_depends hu)
    have hlt : i < frame.nextIndex := by
      by_contra hge
      have hlen := List.getElem?_eq_none_iff.1 hend
      obtain ⟨hlt, _⟩ := List.getElem?_eq_some_iff.1 hi
      omega
    exact (hstacked.1 i hlt u hi).resolve_right (by rintro ⟨⟩)

/-! ## One turn -/

/-- The turns the search has left: every edge of a vertex that was not taken, and every vertex that was not left. -/
def budget (edges : List ServiceDependency) (nodes : List Ref16) (s : Search) : Nat :=
  ((nodes.filter (s.mark · = 0)).map fun v => 1 + (outgoing edges v).length).sum
    + (s.frames.map fun frame => 1 + ((outgoing edges frame.node).length - frame.nextIndex)).sum

theorem unseen_enter (edges : List ServiceDependency) (hnodes : nodes.Nodup) {next : Ref16} (hnext : next ∈ nodes)
    (hnew : s.mark next = 0) (frames : List Frame) :
    ((nodes.filter (s.mark · = 0)).map fun v => 1 + (outgoing edges v).length).sum
      = (1 + (outgoing edges next).length)
        + ((nodes.filter ((Search.enter { s with frames } next).mark · = 0)).map fun v => 1 + (outgoing edges v).length).sum := by
  have hmem : next ∈ nodes.filter (s.mark · = 0) := List.mem_filter.2 ⟨hnext, by simpa using hnew⟩
  have herase : nodes.filter ((Search.enter { s with frames } next).mark · = 0)
      = (nodes.filter (s.mark · = 0)).erase next := by
    rw [(hnodes.filter _).erase_eq_filter, List.filter_filter]
    refine List.filter_congr fun v _ => ?_
    rw [Search.mark_enter]
    by_cases hv : v = next
    · simp [hv]
    · rw [if_neg hv, bne_iff_ne.2 hv, Bool.true_and]
      rfl
  rw [herase]
  exact (List.sum_map_erase _ hmem).symm

theorem sum_filter_le {p q : Ref16 → Bool} {f : Ref16 → Nat} (h : ∀ v, q v = true → p v = true) :
    ∀ nodes : List Ref16, ((nodes.filter q).map f).sum ≤ ((nodes.filter p).map f).sum
  | [] => Nat.le_refl _
  | v :: nodes => by
    have ih := sum_filter_le (f := f) h nodes
    by_cases hq : q v = true
    · rw [List.filter_cons_of_pos hq, List.filter_cons_of_pos (h v hq), List.map_cons, List.map_cons, List.sum_cons,
        List.sum_cons]
      exact Nat.add_le_add_left ih _
    · rw [List.filter_cons_of_neg hq, List.filter_cons]
      split
      · rw [List.map_cons, List.sum_cons]
        exact Nat.le_trans ih (Nat.le_add_left _ _)
      · exact ih

/-- **One turn of the search**: it names a cycle, or goes on with fewer turns left. -/
theorem Searching.turn (h : Searching edges s left)
    (hframes : s.frames = frame :: frames) (hnodes : nodes.Nodup) (hedges : ∀ d ∈ edges, d.consumer ∈ nodes) :
    (∃ witness, s.turn edges frame frames = .ok (.inl witness) ∧ ClosedWalk (Depends edges) witness) ∨
      ∃ s' left', s.turn edges frame frames = .ok (.inr s') ∧ Searching edges s' left' ∧
        budget edges nodes s' < budget edges nodes s ∧ ∀ v, s.mark v ≠ 0 → s'.mark v ≠ 0 := by
  have hpath := h.path_eq hframes
  have hlast : s.path.getLast? = some frame.node := by rw [hpath, List.getLast?_concat]
  have hstacked := h.stacked
  rw [hframes] at hstacked
  unfold Search.turn
  cases hnext : (outgoing edges frame.node)[frame.nextIndex]? with
  | none =>
    right
    have hne : s.path ≠ [] := by
      rw [hpath]
      exact List.append_ne_nil_of_right_ne_nil _ (List.cons_ne_nil _ _)
    have hmark : ∀ v, s.mark v ≠ 0 → (Assoc.get v (Assoc.put frame.node 2 s.state)).getD 0 ≠ 0 := by
      intro v hv
      by_cases hnode : v = frame.node
      · rw [hnode, Assoc.get_put_self]
        exact Nat.succ_ne_zero 1
      · rw [Assoc.get_put_of_ne hnode]
        exact hv
    refine ⟨_, _, ok_check hne rfl, h.leave hframes hnext, ?_, hmark⟩
    refine Nat.add_lt_add_of_le_of_lt (sum_filter_le (fun v hv => ?_) nodes) ?_
    · have hzero : (Assoc.get v (Assoc.put frame.node 2 s.state)).getD 0 = 0 := of_decide_eq_true hv
      have hseen : s.mark v = 0 := by
        by_contra hseen
        exact hmark v hseen hzero
      simpa using hseen
    · dsimp only
      rw [hframes, List.map_cons, List.sum_cons]
      omega
  | some next =>
    have hmem : next ∈ outgoing edges frame.node := List.mem_of_getElem? hnext
    obtain ⟨hlt, _⟩ := List.getElem?_eq_some_iff.1 hnext
    have hdepends := depends_of_outgoing hmem
    have hnode : next ∈ nodes := hedges _ hdepends
    have hmoved : ({ frame with nextIndex := frame.nextIndex + 1 } :: frames).map Frame.node
        = s.frames.map Frame.node := by rw [hframes]; rfl
    have hexplored : ∀ above, (next ∈ left ∨ above = some next) →
        Stacked edges left above ({ frame with nextIndex := frame.nextIndex + 1 } :: frames) := by
      refine fun above habove => ⟨fun i hi v hv => ?_, hstacked.2⟩
      rcases Nat.lt_succ_iff_lt_or_eq.1 hi with hbefore | rfl
      · exact .inl ((hstacked.1 i hbefore v hv).resolve_right nofun)
      · obtain rfl : next = v := Option.some.inj (hnext.symm.trans hv)
        exact habove
    dsimp only
    have htaken : ∀ t : Search, t.frames = { frame with nextIndex := frame.nextIndex + 1 } :: frames →
        (t.frames.map fun f => 1 + ((outgoing edges f.node).length - f.nextIndex)).sum
          < (s.frames.map fun f => 1 + ((outgoing edges f.node).length - f.nextIndex)).sum := by
      intro t ht
      rw [ht, hframes, List.map_cons, List.map_cons, List.sum_cons, List.sum_cons]
      dsimp only
      omega
    have hcases : s.mark next = 0 ∨ s.mark next = 1 ∨ s.mark next = 2 := by
      have hmarks := h.marks next
      omega
    rcases hcases with hnew | hopen | hgone
    · right
      refine ⟨_, left, ?_, h.enter hnew ?_ hmoved (hexplored (some next) (.inr rfl)), ?_, fun v hv => ?_⟩
      · rw [show (Assoc.get next s.state).getD 0 = 0 from hnew]
        rfl
      · intro last hl
        obtain rfl : frame.node = last := Option.some.inj (hlast.symm.trans hl)
        exact hdepends
      · have hunseen := unseen_enter edges hnodes hnode hnew ({ frame with nextIndex := frame.nextIndex + 1 } :: frames)
        unfold budget
        rw [hunseen]
        change _ + (1 + ((outgoing edges next).length - 0) + List.sum (List.map _ (_ :: frames))) < _
        have hless := htaken { s with frames := { frame with nextIndex := frame.nextIndex + 1 } :: frames } rfl
        dsimp only at hless
        omega
      · rw [Search.mark_enter]
        split
        · exact Nat.one_ne_zero
        · exact hv
    · left
      obtain ⟨before, after, hsplit, _⟩ := List.eq_append_cons_of_mem ((h.entered next).1 hopen)
      have hchain := h.chain
      have hnodup := h.nodup
      rw [hsplit] at hchain hnodup hlast
      refine ⟨next :: after ++ [next], ?_, ClosedWalk.of_path hchain hnodup hlast hdepends⟩
      rw [show (Assoc.get next s.state).getD 0 = 1 from hopen]
      refine ok_bind (okOr_ok.2 (h.positions before next after hsplit)) ?_
      rw [hsplit, List.drop_left]
      rfl
    · right
      refine ⟨_, left, ?_, h.move hmoved (hexplored none (.inl ((h.gone next).1 hgone))), ?_, fun v => id⟩
      · rw [show (Assoc.get next s.state).getD 0 = 2 from hgone]
        rfl
      · exact Nat.add_lt_add_left (htaken _ rfl) _

/-! ## The whole search -/

/-- **The walk from one root names a cycle or leaves everything it entered.** -/
theorem Searching.walk (hnodes : nodes.Nodup) (hedges : ∀ d ∈ edges, d.consumer ∈ nodes) :
    ∀ (fuel : Nat) {s : Search} {left : List Ref16}, Searching edges s left → budget edges nodes s ≤ fuel →
      (∃ witness, s.walk edges fuel = .ok (.inl witness) ∧ ClosedWalk (Depends edges) witness) ∨
        ∃ s' left', s.walk edges fuel = .ok (.inr s') ∧ Searching edges s' left' ∧ s'.frames = [] ∧
          budget edges nodes s' ≤ budget edges nodes s ∧ ∀ v, s.mark v ≠ 0 → s'.mark v ≠ 0
  | 0, s, left, h, hfuel => by
    refine .inr ⟨s, left, rfl, h, ?_, Nat.le_refl _, fun _ => id⟩
    cases hframes : s.frames with
    | nil => rfl
    | cons frame frames =>
      unfold budget at hfuel
      rw [hframes, List.map_cons, List.sum_cons] at hfuel
      omega
  | fuel + 1, s, left, h, hfuel => by
    cases hframes : s.frames with
    | nil => exact .inr ⟨s, left, by rw [Search.walk, hframes], h, hframes, Nat.le_refl _, fun _ => id⟩
    | cons frame frames =>
      rw [Search.walk, hframes]
      rcases h.turn hframes hnodes hedges with ⟨witness, hturn, hwitness⟩ | ⟨s₁, left₁, hturn, h₁, hless, hmark₁⟩
      · exact .inl ⟨witness, ok_bind hturn rfl, hwitness⟩
      · rcases h₁.walk hnodes hedges fuel (by omega) with
          ⟨witness, hwalk, hwitness⟩ | ⟨s₂, left₂, hwalk, h₂, hempty, hle, hmark₂⟩
        · exact .inl ⟨witness, ok_bind hturn hwalk, hwitness⟩
        · exact .inr ⟨s₂, left₂, ok_bind hturn hwalk, h₂, hempty, by omega, fun v hv => hmark₂ v (hmark₁ v hv)⟩

theorem Searching.seen_left (h : Searching edges s left) (hframes : s.frames = []) {v : Ref16} (hv : s.mark v ≠ 0) :
    v ∈ left := by
  have hpath : s.path = [] := by
    have heq := h.frames
    rw [hframes, List.map_nil] at heq
    exact List.reverse_eq_nil_iff.1 heq.symm
  have hopen : s.mark v ≠ 1 := fun hone => by
    have hin := (h.entered v).1 hone
    rw [hpath] at hin
    cases hin
  have hmark := h.marks v
  exact (h.gone v).1 (by omega)

theorem Searching.fromRoots (hnodes : nodes.Nodup) (hedges : ∀ d ∈ edges, d.consumer ∈ nodes)
    {fuel : Nat} : ∀ (roots : List Ref16) {s : Search} {left : List Ref16}, Searching edges s left → s.frames = [] →
      budget edges nodes s ≤ fuel → (∀ v ∈ roots, v ∈ nodes) →
      (∃ witness, s.fromRoots edges fuel roots = .ok witness ∧ ClosedWalk (Depends edges) witness) ∨
        ∃ s' left', Searching edges s' left' ∧ s'.frames = [] ∧ (∀ v, s.mark v ≠ 0 → s'.mark v ≠ 0) ∧
          ∀ v ∈ roots, s'.mark v ≠ 0
  | [], s, left, h, hframes, _, _ => .inr ⟨s, left, h, hframes, fun _ => id, nofun⟩
  | root :: roots, s, left, h, hframes, hfuel, hroots => by
    have hrest : ∀ v ∈ roots, v ∈ nodes := fun v hv => hroots v (List.mem_cons_of_mem _ hv)
    rw [Search.fromRoots]
    by_cases hseen : s.mark root ≠ 0
    · rw [if_pos (show (Assoc.get root s.state).getD 0 ≠ 0 from hseen)]
      rcases h.fromRoots hnodes hedges roots hframes hfuel hrest with hfound | ⟨s', left', h', hframes', hmark, hall⟩
      · exact .inl hfound
      · refine .inr ⟨s', left', h', hframes', hmark, fun v hv => ?_⟩
        rcases List.mem_cons.1 hv with rfl | hv
        · exact hmark v hseen
        · exact hall v hv
    · have hnew : s.mark root = 0 := not_not.1 hseen
      rw [if_neg (show ¬ (Assoc.get root s.state).getD 0 ≠ 0 from hseen)]
      have hpath : s.path = [] := by
        have heq := h.frames
        rw [hframes, List.map_nil] at heq
        exact List.reverse_eq_nil_iff.1 heq.symm
      have hstacked : Stacked edges left (some root) s.frames := by
        rw [hframes]
        trivial
      have henter : Searching edges (Search.enter { s with frames := s.frames } root) left :=
        h.enter hnew (fun last hl => by rw [hpath] at hl; cases hl) rfl hstacked
      have hbudget : budget edges nodes (s.enter root) = budget edges nodes s := by
        have hunseen : ((nodes.filter (s.mark · = 0)).map fun v => 1 + (outgoing edges v).length).sum
            = (1 + (outgoing edges root).length)
              + ((nodes.filter ((s.enter root).mark · = 0)).map fun v => 1 + (outgoing edges v).length).sum :=
          unseen_enter edges hnodes (hroots root (List.mem_cons_self ..)) hnew s.frames
        unfold budget
        rw [hunseen, hframes]
        change _ + (1 + ((outgoing edges root).length - 0) + List.sum (List.map _ s.frames)) = _
        rw [hframes, List.map_nil, List.sum_nil]
        omega
      have hroot : (s.enter root).mark root ≠ 0 := by
        rw [Search.mark_enter, if_pos rfl]
        exact Nat.one_ne_zero
      have hkeep : ∀ v, s.mark v ≠ 0 → (s.enter root).mark v ≠ 0 := by
        intro v hv
        rw [Search.mark_enter]
        split
        · exact Nat.one_ne_zero
        · exact hv
      rcases henter.walk hnodes hedges fuel (hbudget.trans_le hfuel) with
        ⟨witness, hwalk, hwitness⟩ | ⟨s₁, left₁, hwalk, h₁, hframes₁, hle, hmark₁⟩
      · exact .inl ⟨witness, ok_bind hwalk rfl, hwitness⟩
      · rcases h₁.fromRoots hnodes hedges roots hframes₁ (Nat.le_trans hle (hbudget.trans_le hfuel)) hrest with
          ⟨witness, hfound, hwitness⟩ | ⟨s₂, left₂, h₂, hframes₂, hmark₂, hall⟩
        · exact .inl ⟨witness, ok_bind hwalk hfound, hwitness⟩
        · refine .inr ⟨s₂, left₂, h₂, hframes₂, fun v hv => hmark₂ v (hmark₁ v (hkeep v hv)), fun v hv => ?_⟩
          rcases List.mem_cons.1 hv with rfl | hv
          · exact hmark₂ v (hmark₁ v hroot)
          · exact hall v hv

end Searching

/-! ## A cycle is named -/

theorem sum_outgoing_le (hnodes : nodes.Nodup) : ∀ edges : List ServiceDependency,
    (nodes.map fun v => (outgoing edges v).length).sum ≤ edges.length
  | [] => by
    have hzero : ∀ v, (outgoing [] v).length = 0 := fun _ => rfl
    simp [hzero]
  | d :: edges => by
    have ih := sum_outgoing_le hnodes edges
    have hcons : ∀ v, (outgoing (d :: edges) v).length = (outgoing edges v).length + if d.provider = v then 1 else 0 := by
      intro v
      unfold outgoing
      by_cases hp : d.provider = v <;> simp [hp]
    have hsplit : ∀ vs : List Ref16, (vs.map fun v => (outgoing (d :: edges) v).length).sum
        = (vs.map fun v => (outgoing edges v).length).sum + vs.count d.provider := by
      intro vs
      induction vs with
      | nil => rfl
      | cons v vs ihv =>
        rw [List.map_cons, List.sum_cons, ihv, hcons, List.map_cons, List.sum_cons, List.count_cons]
        by_cases hp : d.provider = v
        · simp [hp]
          omega
        · have hp' : ¬ v = d.provider := fun h => hp h.symm
          simp [hp, hp']
          omega
    have hcount := List.nodup_iff_count_le_one.1 hnodes d.provider
    rw [hsplit, List.length_cons]
    omega

theorem budget_first (hnodes : nodes.Nodup) (edges : List ServiceDependency) :
    budget edges nodes ⟨[], [], [], []⟩ ≤ nodes.length + edges.length + 1 := by
  have hall : nodes.filter (fun v => Search.mark ⟨[], [], [], []⟩ v = 0) = nodes :=
    List.filter_eq_self.2 fun v _ => decide_eq_true rfl
  have hsum : ∀ vs : List Ref16, (vs.map fun v => 1 + (outgoing edges v).length).sum
      = vs.length + (vs.map fun v => (outgoing edges v).length).sum := by
    intro vs
    induction vs with
    | nil => rfl
    | cons v vs ih =>
      rw [List.map_cons, List.sum_cons, ih, List.map_cons, List.sum_cons, List.length_cons]
      omega
  have hle := sum_outgoing_le hnodes edges
  unfold budget
  rw [hall, hsum]
  change _ + 0 ≤ _
  omega

/-- **Where there is a cycle, the search names one**; it never runs out of roots. -/
theorem stableCycleWitness_ok (hnodes : nodes.Nodup)
    (hproviders : ∀ d ∈ edges, d.provider ∈ nodes) (hconsumers : ∀ d ∈ edges, d.consumer ∈ nodes)
    (hcyclic : ¬ Acyclic (Depends edges)) :
    ∃ witness, stableCycleWitness nodes edges = .ok witness ∧ ClosedWalk (Depends edges) witness := by
  have hfirst : Searching edges ⟨[], [], [], []⟩ [] := by
    refine ⟨fun v => ?_, fun v => ?_, fun v => Nat.zero_le 2, ?_, .nil, rfl, .nil, .nil, trivial⟩
    · exact ⟨nofun, nofun⟩
    · exact ⟨nofun, nofun⟩
    · intro before v after h
      cases before <;> cases h
  rcases hfirst.fromRoots hnodes hconsumers nodes rfl (budget_first hnodes edges) fun _ => id with
    hfound | ⟨s, left, h, hframes, _, hall⟩
  · exact hfound
  · refine absurd (fun v hcycle => ?_) hcyclic
    have hleft : Acyclic (flip (Depends edges)) :=
      h.done.acyclic fun u v hvu => h.seen_left hframes (hall v (hproviders _ hvu))
    exact hleft v (Relation.transGen_swap.2 hcycle)

end ServiceGraph
end ParaEgox
