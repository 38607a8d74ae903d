import ParaEgox.Digraphs

/-!
# DigraphVisits — depth-first visits, and the components they find

A visit sees what is reached without passing a vertex seen before, and puts down each vertex either before or after what
lies below it.  Vertices put down late are put down after everything they reach that was not open; so the visits against
the edges, from the vertex put down last, find the strongly connected components.
-/
namespace Digraphs

open Relation

structure Visit (α : Type) where
  visited : List α
  order : List α

section Visit

variable {α : Type} (succ : α → List α)

/-- A visit puts its vertex down before or after those below it.  The fuel bounds its depth. -/
def visit [DecidableEq α] (early : Bool) : Nat → α → Visit α → Visit α
  | 0, _, s => s
  | fuel + 1, v, s =>
    if v ∈ s.visited then s
    else
      let below := (succ v).foldl (fun s w => visit early fuel w s)
        ⟨v :: s.visited, if early then s.order ++ [v] else s.order⟩
      if early then below else { below with order := below.order ++ [v] }

def Edge (u v : α) : Prop := v ∈ succ u

def Fresh (seen : List α) (u v : α) : Prop := v ∈ succ u ∧ v ∉ seen

def Reaches (seen : List α) (start v : α) : Prop := start ∉ seen ∧ ReflTransGen (Fresh succ seen) start v

variable {succ} {seen vertices : List α} {fuel : Nat}

theorem Reaches.start {v : α} (h : v ∉ seen) : Reaches succ seen v v := ⟨h, .refl⟩

theorem Reaches.notMem {start v : α} (h : Reaches succ seen start v) : v ∉ seen := by
  rcases ReflTransGen.cases_tail h.2 with rfl | ⟨u, _, huv⟩
  · exact h.1
  · exact huv.2

theorem Reaches.mono {seen' : List α} {start v : α} (hsub : ∀ x ∈ seen, x ∈ seen') (h : Reaches succ seen' start v) :
    Reaches succ seen start v :=
  ⟨fun hin => h.1 (hsub _ hin), h.2.lift id fun _ _ huv => ⟨huv.1, fun hin => huv.2 (hsub _ hin)⟩⟩

theorem Reaches.edges {start v : α} (h : Reaches succ seen start v) :
    ReflTransGen (Edge succ) start v :=
  h.2.lift id fun _ _ huv => huv.1

/-- **What visits from some starts do**: they put down exactly the vertices newly seen, all reached from a start, and see
everything below them. -/
structure Explores (succ : α → List α) (starts : List α) (s s' : Visit α) (new : List α) : Prop where
  order : s'.order = s.order ++ new
  nodup : new.Nodup
  visited : ∀ v, v ∈ s'.visited ↔ v ∈ s.visited ∨ v ∈ new
  reached : ∀ v ∈ new, ∃ start ∈ starts, Reaches succ s.visited start v
  closed : ∀ v ∈ new, ∀ w ∈ succ v, w ∈ s'.visited
  started : ∀ start ∈ starts, start ∈ s'.visited

theorem Explores.nil (s : Visit α) : Explores succ [] s s [] :=
  ⟨(List.append_nil _).symm, .nil, fun v => by simp, nofun, nofun, nofun⟩

theorem Explores.trans {starts starts' new new' : List α} {s s' s'' : Visit α} (h : Explores succ starts s s' new)
    (h' : Explores succ starts' s' s'' new') : Explores succ (starts ++ starts') s s'' (new ++ new') where
  order := by rw [h'.order, h.order, List.append_assoc]
  nodup := by
    refine List.nodup_append.2 ⟨h.nodup, h'.nodup, fun a ha b hb hab => ?_⟩
    obtain ⟨start, _, hreach⟩ := h'.reached b hb
    exact hreach.notMem ((h.visited b).2 (.inr (hab ▸ ha)))
  visited v := by rw [h'.visited, h.visited, List.mem_append, or_assoc]
  reached v hv := by
    rcases List.mem_append.1 hv with hv | hv
    · obtain ⟨start, hstart, hreach⟩ := h.reached v hv
      exact ⟨start, List.mem_append_left _ hstart, hreach⟩
    · obtain ⟨start, hstart, hreach⟩ := h'.reached v hv
      exact ⟨start, List.mem_append_right _ hstart, hreach.mono fun x hx => (h.visited x).2 (.inl hx)⟩
  closed v hv w hw := by
    rcases List.mem_append.1 hv with hv | hv
    · exact (h'.visited w).2 (.inl (h.closed v hv w hw))
    · exact h'.closed v hv w hw
  started start hstart := by
    rcases List.mem_append.1 hstart with hstart | hstart
    · exact (h'.visited start).2 (.inl (h.started start hstart))
    · exact h'.started start hstart

theorem Explores.mem_iff {start : α} {s s' : Visit α} {new : List α} (h : Explores succ [start] s s' new) (v : α) :
    v ∈ new ↔ Reaches succ s.visited start v := by
  constructor
  · intro hv
    obtain ⟨start', hstart, hreach⟩ := h.reached v hv
    rwa [List.mem_singleton.1 hstart] at hreach
  · rintro ⟨hout, hpath⟩
    induction hpath with
    | refl => exact ((h.visited start).1 (h.started start (List.mem_singleton_self _))).resolve_left hout
    | tail _ huv ih => exact ((h.visited _).1 (h.closed _ ih _ huv.1)).resolve_left huv.2

variable [DecidableEq α]

def unseen (vertices seen : List α) : Nat := (vertices.filter (· ∉ seen)).length

theorem unseen_cons_lt {v : α} (hv : v ∈ vertices) (hout : v ∉ seen) :
    unseen vertices (v :: seen) < unseen vertices seen := by
  unfold unseen
  have hsub : vertices.filter (· ∉ v :: seen) = (vertices.filter (· ∉ seen)).filter (· ≠ v) := by
    rw [List.filter_filter]
    refine List.filter_congr fun x _ => ?_
    simp [not_or]
  rw [hsub]
  exact List.length_filter_lt_length_iff_exists.2 ⟨v, List.mem_filter.2 ⟨hv, by simpa using hout⟩, by simp⟩

theorem unseen_le {seen' : List α} (hsub : ∀ x ∈ seen, x ∈ seen') :
    unseen vertices seen' ≤ unseen vertices seen := by
  unfold unseen
  refine (List.monotone_filter_right vertices fun x hx => ?_).length_le
  have hx' : x ∉ seen' := by simpa using hx
  simpa using fun hin => hx' (hsub x hin)

theorem explores_foldl {go : α → Visit α → Visit α} {P : Visit α → Prop}
    (hgo : ∀ (v : α) (s : Visit α), v ∈ vertices → unseen vertices s.visited < fuel → P s →
      ∃ new, Explores succ [v] s (go v s) new ∧ P (go v s)) :
    ∀ (starts : List α) (s : Visit α), (∀ v ∈ starts, v ∈ vertices) → unseen vertices s.visited < fuel → P s →
      ∃ new, Explores succ starts s (starts.foldl (fun s w => go w s) s) new ∧ P (starts.foldl (fun s w => go w s) s)
  | [], s, _, _, hs => ⟨[], .nil s, hs⟩
  | start :: starts, s, hstarts, hfuel, hs => by
    obtain ⟨new, hnew, hs'⟩ := hgo start s (hstarts start (List.mem_cons_self ..)) hfuel hs
    have hless : unseen vertices (go start s).visited < fuel :=
      Nat.lt_of_le_of_lt (unseen_le fun x hx => (hnew.visited x).2 (.inl hx)) hfuel
    obtain ⟨rest, hrest, hs''⟩ :=
      explores_foldl hgo starts (go start s) (fun v hv => hstarts v (List.mem_cons_of_mem _ hv)) hless hs'
    exact ⟨new ++ rest, hnew.trans hrest, hs''⟩

theorem visit_explores (hvertices : ∀ v ∈ vertices, ∀ w ∈ succ v, w ∈ vertices) (early : Bool) :
    ∀ (fuel : Nat) (v : α) (s : Visit α), v ∈ vertices → unseen vertices s.visited < fuel →
      ∃ new, Explores succ [v] s (visit succ early fuel v s) new
  | 0, v, s, _, hfuel => absurd hfuel (Nat.not_lt_zero _)
  | fuel + 1, v, s, hv, hfuel => by
    rw [visit]
    split
    · rename_i hseen
      refine ⟨[], (List.append_nil _).symm, .nil, fun w => by simp, nofun, nofun, fun w hw => ?_⟩
      rwa [List.mem_singleton.1 hw]
    · rename_i hout
      have hless := unseen_cons_lt hv hout
      have hgo : ∀ (w : α) (s : Visit α), w ∈ vertices → unseen vertices s.visited < fuel → True →
          ∃ new, Explores succ [w] s (visit succ early fuel w s) new ∧ True := fun w s hw hfuel _ =>
        (visit_explores hvertices early fuel w s hw hfuel).imp fun _ h => ⟨h, trivial⟩
      obtain ⟨below, hbelow, -⟩ := explores_foldl hgo (succ v)
        ⟨v :: s.visited, if early then s.order ++ [v] else s.order⟩ (hvertices v hv)
        (Nat.lt_of_lt_of_le hless (Nat.le_of_lt_succ hfuel)) trivial
      dsimp only
      generalize (succ v).foldl (fun s w => visit succ early fuel w s)
        ⟨v :: s.visited, if early then s.order ++ [v] else s.order⟩ = out at hbelow ⊢
      have hfresh : ∀ w ∈ below, w ∉ s.visited ∧ w ≠ v := by
        intro w hw
        obtain ⟨start, _, hreach⟩ := hbelow.reached w hw
        have hnot := hreach.notMem
        exact ⟨fun hin => hnot (List.mem_cons_of_mem _ hin), fun hwv => hnot (hwv ▸ List.mem_cons_self ..)⟩
      have hreached : ∀ w ∈ below, Reaches succ s.visited v w := by
        intro w hw
        obtain ⟨start, hstart, hreach⟩ := hbelow.reached w hw
        have hmono : Reaches succ s.visited start w := hreach.mono fun x hx => List.mem_cons_of_mem _ hx
        exact ⟨hout, .head ⟨hstart, hmono.1⟩ hmono.2⟩
      have hseen : ∀ w, w ∈ out.visited ↔ w ∈ s.visited ∨ w = v ∨ w ∈ below := by
        intro w
        rw [hbelow.visited, List.mem_cons, or_comm (a := w = v), or_assoc]
      have hnodup : (v :: below).Nodup := List.nodup_cons.2 ⟨fun hin => (hfresh v hin).2 rfl, hbelow.nodup⟩
      -- Whether `v` is put down first or last, the same vertices are.
      have hput : ∀ new order, new.Perm (v :: below) → order = s.order ++ new →
          Explores succ [v] s ⟨out.visited, order⟩ new := by
        intro new order hperm horder
        refine ⟨horder, hperm.nodup_iff.2 hnodup, fun w => ?_, fun w hw => ?_, fun w hw u hu => ?_, fun w hw => ?_⟩
        · rw [hperm.mem_iff, List.mem_cons]
          exact hseen w
        · refine ⟨v, List.mem_singleton_self v, ?_⟩
          rcases List.mem_cons.1 (hperm.mem_iff.1 hw) with rfl | hw
          · exact .start hout
          · exact hreached w hw
        · rcases List.mem_cons.1 (hperm.mem_iff.1 hw) with rfl | hw
          · exact hbelow.started u hu
          · exact hbelow.closed w hw u hu
        · rw [List.mem_singleton.1 hw]
          exact (hseen v).2 (.inr (.inl rfl))
      cases early with
      | true => exact ⟨v :: below, hput _ _ (.refl _) (by rw [hbelow.order]; simp)⟩
      | false =>
        refine ⟨below ++ [v], hput _ _ (List.perm_append_singleton v below) ?_⟩
        have horder : out.order = s.order ++ below := hbelow.order
        rw [horder, List.append_assoc]

/-! ## Put down late -/

variable (succ) in
def Through (inside : List α) (u v : α) : Prop := u ∈ inside ∧ ReflTransGen (fun x y => y ∈ succ x ∧ y ∈ inside) u v

variable (succ) in
def Settled (order : List α) : Prop :=
  ∀ before v after, order = before ++ v :: after → ∀ u, Through succ (before ++ [v]) u v → ReflTransGen (Edge succ) v u

variable (succ) in
structure Late (s : Visit α) : Prop where
  seen : ∀ v ∈ s.order, v ∈ s.visited
  closed : ∀ v ∈ s.order, ∀ w ∈ succ v, w ∈ s.visited
  settled : Settled succ s.order

omit [DecidableEq α] in
theorem Settled.snoc {order : List α} {v : α} (h : Settled succ order)
    (hv : ∀ u, Through succ (order ++ [v]) u v → ReflTransGen (Edge succ) v u) : Settled succ (order ++ [v]) := by
  intro before w after heq u hu
  rcases snoc_cases heq with ⟨rfl, rfl⟩ | ⟨after', rfl⟩
  · exact hv u hu
  · exact h before w after' rfl u hu

omit [DecidableEq α] in
/-- **A late visit settles its vertex**: from a vertex put down before the visit no path leads to it but through one that
was open. -/
theorem Late.put {s out : Visit α} {v : α} {below : List α} (hs : Late succ s) (hv : v ∉ s.visited)
    (hbelow : Explores succ (succ v) ⟨v :: s.visited, s.order⟩ out below) (hout : Late succ out) :
    Late succ { out with order := out.order ++ [v] } where
  seen w hw := by
    rcases List.mem_append.1 hw with hw | hw
    · exact hout.seen w hw
    · rw [List.mem_singleton.1 hw]
      exact (hbelow.visited v).2 (.inl (List.mem_cons_self ..))
  closed w hw u hu := by
    rcases List.mem_append.1 hw with hw | hw
    · exact hout.closed w hw u hu
    · rw [List.mem_singleton.1 hw] at hu
      exact hbelow.started u hu
  settled := by
    refine hout.settled.snoc fun u hu => ?_
    have horder : out.order = s.order ++ below := hbelow.order
    have hfresh : ∀ w ∈ below, w ∉ v :: s.visited := by
      intro w hw
      obtain ⟨start, _, hreach⟩ := hbelow.reached w hw
      exact hreach.notMem
    rcases List.mem_append.1 hu.1 with hin | hin
    · rw [horder] at hin
      rcases List.mem_append.1 hin with hold | hnew
      · -- The path never leaves what was put down before the visit.
        have hstay : ∀ w, ReflTransGen (fun x y => y ∈ succ x ∧ y ∈ out.order ++ [v]) u w → w ∈ s.order := by
          intro w hpath
          induction hpath with
          | refl => exact hold
          | tail _ hxy ih =>
            have hseen := hs.closed _ ih _ hxy.1
            have hmem := hxy.2
            rw [horder, List.append_assoc, List.mem_append, List.mem_append, List.mem_singleton] at hmem
            rcases hmem with hmem | hmem | rfl
            · exact hmem
            · exact absurd (List.mem_cons_of_mem _ hseen) (hfresh _ hmem)
            · exact absurd hseen hv
        exact absurd (hs.seen v (hstay v hu.2)) hv
      · obtain ⟨start, hstart, hreach⟩ := hbelow.reached u hnew
        exact .head hstart hreach.edges
    · rw [List.mem_singleton.1 hin]

theorem visit_late (hvertices : ∀ v ∈ vertices, ∀ w ∈ succ v, w ∈ vertices) :
    ∀ (fuel : Nat) (v : α) (s : Visit α), v ∈ vertices → unseen vertices s.visited < fuel → Late succ s →
      Late succ (visit succ false fuel v s)
  | 0, v, s, _, hfuel, _ => absurd hfuel (Nat.not_lt_zero _)
  | fuel + 1, v, s, hv, hfuel, hs => by
    rw [visit]
    split
    · exact hs
    · rename_i hout
      have hless := Nat.lt_of_lt_of_le (unseen_cons_lt hv hout) (Nat.le_of_lt_succ hfuel)
      have hentered : Late succ ⟨v :: s.visited, s.order⟩ :=
        ⟨fun w hw => List.mem_cons_of_mem _ (hs.seen w hw), fun w hw u hu => List.mem_cons_of_mem _ (hs.closed w hw u hu),
          hs.settled⟩
      have hgo : ∀ (w : α) (s : Visit α), w ∈ vertices → unseen vertices s.visited < fuel → Late succ s →
          ∃ new, Explores succ [w] s (visit succ false fuel w s) new ∧ Late succ (visit succ false fuel w s) := by
        intro w s hw hfuel hs
        obtain ⟨new, hnew⟩ := visit_explores hvertices false fuel w s hw hfuel
        exact ⟨new, hnew, visit_late hvertices fuel w s hw hfuel hs⟩
      obtain ⟨below, hbelow, hlate⟩ := explores_foldl hgo (succ v) ⟨v :: s.visited, s.order⟩ (hvertices v hv) hless hentered
      exact hs.put hout hbelow hlate

theorem settled_foldl (hvertices : ∀ v ∈ vertices, ∀ w ∈ succ v, w ∈ vertices) (hfuel : vertices.length < fuel) :
    Settled succ (vertices.foldl (fun s v => visit succ false fuel v s) ⟨[], []⟩).order ∧
      ∀ v, v ∈ (vertices.foldl (fun s v => visit succ false fuel v s) ⟨[], []⟩).order ↔ v ∈ vertices := by
  have hgo : ∀ (w : α) (s : Visit α), w ∈ vertices → unseen vertices s.visited < fuel → Late succ s →
      ∃ new, Explores succ [w] s (visit succ false fuel w s) new ∧ Late succ (visit succ false fuel w s) := by
    intro w s hw hless hs
    obtain ⟨new, hnew⟩ := visit_explores hvertices false fuel w s hw hless
    exact ⟨new, hnew, visit_late hvertices fuel w s hw hless hs⟩
  have hfirst : Late succ ⟨[], []⟩ := by
    refine ⟨nofun, nofun, fun before v after h => ?_⟩
    cases before <;> cases h
  have hless : unseen vertices (⟨[], []⟩ : Visit α).visited < fuel :=
    Nat.lt_of_le_of_lt (List.length_filter_le _ _) hfuel
  obtain ⟨new, hnew, hlate⟩ := explores_foldl hgo vertices ⟨[], []⟩ (fun _ => id) hless hfirst
  refine ⟨hlate.settled, fun v => ?_⟩
  rw [hnew.order, List.nil_append]
  constructor
  · intro hv
    obtain ⟨start, hstart, hreach⟩ := hnew.reached v hv
    have hpath := hreach.edges
    clear hreach hv
    induction hpath with
    | refl => exact hstart
    | tail _ hxy ih => exact hvertices _ ih _ hxy
  · exact fun hv => ((hnew.visited v).1 (hnew.started v hv)).resolve_left nofun

/-! ## Components -/

/-- The vertices put down by early visits against the edges, from each of these that is not seen yet. -/
def components (pred : α → List α) (fuel : Nat) : List α → List α → List (List α)
  | _, [] => []
  | seen, v :: rest =>
    if v ∈ seen then components pred fuel seen rest
    else
      let found := visit pred true fuel v ⟨seen, []⟩
      found.order :: components pred fuel found.visited rest

variable (succ) in
def Mutual (u v : α) : Prop := ReflTransGen (Edge succ) u v ∧ ReflTransGen (Edge succ) v u

omit [DecidableEq α] in
theorem Mutual.refl (v : α) : Mutual succ v v := ⟨.refl, .refl⟩

omit [DecidableEq α] in
theorem Mutual.symm {u v : α} (h : Mutual succ u v) : Mutual succ v u := ⟨h.2, h.1⟩

omit [DecidableEq α] in
theorem Mutual.trans {u v w : α} (h : Mutual succ u v) (h' : Mutual succ v w) : Mutual succ u w :=
  ⟨h.1.trans h'.1, h'.2.trans h.2⟩

variable {pred : α → List α}

omit [DecidableEq α] in
/-- **Against the edges, what is reached from a vertex put down last is its component**, where the vertices seen are whole
components. -/
theorem Settled.reaches_iff {before after : List α} {v : α}
    (hpred : ∀ u ∈ vertices, ∀ w, w ∈ pred u ↔ w ∈ vertices ∧ u ∈ succ w)
    (hclosed : ∀ u ∈ vertices, ∀ w ∈ succ u, w ∈ vertices)
    (horder : Settled succ (before ++ v :: after)) (hall : ∀ u, u ∈ before ++ v :: after ↔ u ∈ vertices)
    (hafter : ∀ u ∈ after, u ∈ seen) (hwhole : ∀ u ∈ seen, ∀ w, Mutual succ u w → w ∈ seen) (hv : v ∉ seen) (u : α) :
    Reaches pred seen v u ↔ Mutual succ v u := by
  have hvertex : v ∈ vertices := (hall v).1 (by simp)
  have hin : ∀ w, w ∈ vertices → w ∉ seen → w ∈ before ++ [v] := by
    intro w hw hout
    have hmem := (hall w).2 hw
    rw [List.mem_append, List.mem_cons] at hmem
    rcases hmem with hmem | rfl | hmem
    · exact List.mem_append_left _ hmem
    · exact List.mem_append_right _ (List.mem_singleton_self _)
    · exact absurd (hafter w hmem) hout
  constructor
  · rintro ⟨_, hpath⟩
    have hthrough : u ∈ vertices ∧ Through succ (before ++ [v]) u v := by
      induction hpath with
      | refl => exact ⟨hvertex, hin v hvertex hv, .refl⟩
      | @tail x y _ hxy ih =>
        obtain ⟨hx, hxin, hrest⟩ := ih
        obtain ⟨hy, hedge⟩ := (hpred x hx y).1 hxy.1
        exact ⟨hy, hin y hy hxy.2, .head ⟨hedge, hxin⟩ hrest⟩
    refine ⟨horder before v after rfl u hthrough.2, ?_⟩
    exact hthrough.2.2.lift id fun _ _ hxy => hxy.1
  · rintro ⟨hforth, hback⟩
    refine ⟨hv, ?_⟩
    have hvertices : ∀ x, ReflTransGen (Edge succ) v x → x ∈ vertices := by
      intro x hx
      induction hx with
      | refl => exact hvertex
      | tail _ hxy ih => exact hclosed _ ih _ hxy
    induction hback using ReflTransGen.head_induction_on with
    | refl => exact .refl
    | @head x y hxy hyv ih =>
      have hx : x ∈ vertices := hvertices x hforth
      have hy : y ∈ vertices := hvertices y (hforth.tail hxy)
      have hout : x ∉ seen := fun hseen => hv (hwhole x hseen v ⟨.head hxy hyv, hforth⟩)
      exact (ih (hforth.tail hxy)).tail ⟨(hpred y hy x).2 ⟨hx, hxy⟩, hout⟩

/-- **The components found are the classes of mutual reach**, each once, and every vertex is in one of them. -/
theorem components_exact (hpred : ∀ u ∈ vertices, ∀ w, w ∈ pred u ↔ w ∈ vertices ∧ u ∈ succ w)
    (hclosed : ∀ u ∈ vertices, ∀ w ∈ succ u, w ∈ vertices) (hfuel : vertices.length < fuel) :
    ∀ (pops done seen : List α), Settled succ (pops.reverse ++ done) → (∀ u, u ∈ pops.reverse ++ done ↔ u ∈ vertices) →
      (∀ u ∈ done, u ∈ seen) → (∀ u ∈ seen, ∀ w, Mutual succ u w → w ∈ seen) →
      (∀ c ∈ components pred fuel seen pops, c.Nodup ∧ ∃ v ∈ vertices, ∀ u, u ∈ c ↔ Mutual succ v u) ∧
        ∀ v ∈ pops, v ∈ seen ∨ ∃ c ∈ components pred fuel seen pops, v ∈ c
  | [], _, _, _, _, _, _ => ⟨nofun, nofun⟩
  | v :: pops, done, seen, horder, hall, hdone, hwhole => by
    rw [List.reverse_cons, List.append_assoc, List.singleton_append] at horder hall
    have hvertex : v ∈ vertices := (hall v).1 (by simp)
    rw [components]
    split
    · rename_i hseen
      have hdone' : ∀ u ∈ v :: done, u ∈ seen := by
        intro u hu
        rcases List.mem_cons.1 hu with rfl | hu
        · exact hseen
        · exact hdone u hu
      obtain ⟨hfound, hcover⟩ := components_exact hpred hclosed hfuel pops (v :: done) seen horder hall hdone' hwhole
      refine ⟨hfound, fun u hu => ?_⟩
      rcases List.mem_cons.1 hu with rfl | hu
      · exact .inl hseen
      · exact hcover u hu
    · rename_i hout
      have hpredclosed : ∀ u ∈ vertices, ∀ w ∈ pred u, w ∈ vertices := fun u hu w hw => ((hpred u hu w).1 hw).1
      have hless : unseen vertices seen < fuel := Nat.lt_of_le_of_lt (List.length_filter_le _ _) hfuel
      obtain ⟨new, hnew⟩ := visit_explores hpredclosed true fuel v ⟨seen, []⟩ hvertex hless
      generalize visit pred true fuel v ⟨seen, []⟩ = found at hnew ⊢
      have hclass : ∀ u, u ∈ new ↔ Mutual succ v u := fun u =>
        (hnew.mem_iff u).trans (horder.reaches_iff hpred hclosed hall hdone hwhole hout u)
      have hvisited : ∀ u, u ∈ found.visited ↔ u ∈ seen ∨ u ∈ new := hnew.visited
      have horder' : found.order = new := by rw [hnew.order, List.nil_append]
      have hdone' : ∀ u ∈ v :: done, u ∈ found.visited := by
        intro u hu
        rcases List.mem_cons.1 hu with rfl | hu
        · exact hnew.started u (List.mem_singleton_self u)
        · exact (hvisited u).2 (.inl (hdone u hu))
      have hwhole' : ∀ u ∈ found.visited, ∀ w, Mutual succ u w → w ∈ found.visited := by
        intro u hu w huw
        rcases (hvisited u).1 hu with hu | hu
        · exact (hvisited w).2 (.inl (hwhole u hu w huw))
        · exact (hvisited w).2 (.inr ((hclass w).2 (((hclass u).1 hu).trans huw)))
      obtain ⟨hrest, hcover⟩ :=
        components_exact hpred hclosed hfuel pops (v :: done) found.visited horder hall hdone' hwhole'
      refine ⟨fun c hc => ?_, fun u hu => ?_⟩
      · rcases List.mem_cons.1 hc with rfl | hc
        · exact ⟨horder' ▸ hnew.nodup, v, hvertex, horder' ▸ hclass⟩
        · exact hrest c hc
      · have hfound : ∀ w ∈ new, ∃ c ∈ found.order :: components pred fuel found.visited pops, w ∈ c := fun w hw =>
          ⟨found.order, List.mem_cons_self .., horder' ▸ hw⟩
        rcases List.mem_cons.1 hu with rfl | hu
        · exact .inr (hfound u ((hclass u).2 (.refl u)))
        · rcases hcover u hu with hin | ⟨c, hc, huc⟩
          · exact ((hvisited u).1 hin).imp_right (hfound u)
          · exact .inr ⟨c, List.mem_cons_of_mem _ hc, huc⟩

end Visit

end Digraphs
