import ParaEgox.Digraphs
import ParaEgox.ServiceGraph
import Mathlib.Data.List.Lex

/-!
# ServiceStartup — the services that get ready, one by one

The degree of a service counts the edges from providers that have not started, and it is ready when there are none left.  So
what has started is an order along the dependencies, the least that can go next goes next, and what never starts has a
provider that never starts.
-/
namespace ParaEgox
namespace ServiceGraph

open Check Digraphs

def Depends (edges : List ServiceDependency) (provider consumer : Ref16) : Prop := ⟨provider, consumer⟩ ∈ edges

def waiting (edges : List ServiceDependency) (started : List Ref16) (service : Ref16) : Nat :=
  edges.countP fun d => d.consumer = service ∧ d.provider ∉ started

theorem waiting_eq_zero {edges : List ServiceDependency} {started : List Ref16} {service : Ref16} :
    waiting edges started service = 0 ↔ ∀ u, Depends edges u service → u ∈ started := by
  unfold waiting Depends
  rw [List.countP_eq_zero]
  constructor
  · intro h u hu
    have hedge := h ⟨u, service⟩ hu
    simpa using hedge
  · intro h d hd
    simp only [decide_eq_true_eq, not_and, not_not]
    rintro rfl
    exact h d.provider hd

theorem waiting_cons (d : ServiceDependency) (edges : List ServiceDependency) (started : List Ref16) (service : Ref16) :
    waiting (d :: edges) started service
      = waiting edges started service + if d.consumer = service ∧ d.provider ∉ started then 1 else 0 := by
  unfold waiting
  rw [List.countP_cons]
  simp only [decide_eq_true_eq]

theorem count_outgoing_cons (d : ServiceDependency) (edges : List ServiceDependency) (node service : Ref16) :
    (outgoing (d :: edges) node).count service
      = (outgoing edges node).count service + if d.consumer = service ∧ d.provider = node then 1 else 0 := by
  unfold outgoing
  by_cases hp : d.provider = node
  · rw [List.filter_cons_of_pos (by simpa using hp), List.map_cons, List.count_cons]
    simp [hp]
  · rw [List.filter_cons_of_neg (by simpa using hp)]
    simp [hp]

theorem waiting_snoc {started : List Ref16} {node : Ref16} (hnode : node ∉ started) (service : Ref16) :
    ∀ edges : List ServiceDependency, waiting edges started service
      = waiting edges (started ++ [node]) service + (outgoing edges node).count service
  | [] => rfl
  | d :: edges => by
    rw [waiting_cons, waiting_cons, count_outgoing_cons, waiting_snoc hnode service edges]
    by_cases hp : d.provider = node
    · have hin : node ∈ started ++ [node] := List.mem_append_right _ (List.mem_singleton_self node)
      simp only [hp, hin, hnode, not_true_eq_false, not_false_eq_true, and_false, and_true, if_false]
      omega
    · have hsame : d.provider ∉ started ++ [node] ↔ d.provider ∉ started := by simp [hp]
      simp only [hsame, hp, and_false, if_false]
      omega

/-! ## Vertices and degrees -/

theorem mem_nodesOf {dependencies : List ServiceDependency} {v : Ref16} :
    v ∈ nodesOf dependencies ↔ ∃ d ∈ dependencies, v = d.provider ∨ v = d.consumer := by
  simp [nodesOf, setOf, Keyed.mem_sortBy]

theorem nodesOf_ascending (dependencies : List ServiceDependency) : Keyed.Ascending id (nodesOf dependencies) :=
  Keyed.ascending_sortBy id (by rw [List.map_id]; exact List.nodup_dedup _)

theorem ascending_nodup {xs : List Ref16} (h : Keyed.Ascending id xs) : xs.Nodup := h.imp ne_of_lt

theorem mem_edgesOf {dependencies : List ServiceDependency} {d : ServiceDependency} :
    d ∈ edgesOf dependencies ↔ d ∈ dependencies := by
  simp [edgesOf, Keyed.mem_sortBy]

theorem get_of_mem_keys {k : Ref16} {xs : List (Ref16 × Nat)} (h : k ∈ Assoc.keys xs) : ∃ v, Assoc.get k xs = some v :=
  Option.ne_none_iff_exists'.1 fun hnone => Assoc.get_eq_none.1 hnone h

theorem keys_put_of_mem {k : Ref16} {xs : List (Ref16 × Nat)} (v : Nat) (h : k ∈ Assoc.keys xs) :
    Assoc.keys (Assoc.put k v xs) = Assoc.keys xs := by
  unfold Assoc.put
  rw [if_pos h, Assoc.keys_adjust]

theorem scan_countEdge : ∀ {edges : List ServiceDependency} {indegree : List (Ref16 × Nat)},
    (∀ d ∈ edges, d.consumer ∈ Assoc.keys indegree) →
      ∃ counted, scan countEdge indegree edges = .ok counted ∧ Assoc.keys counted = Assoc.keys indegree ∧
        ∀ v, Assoc.get v counted = (Assoc.get v indegree).map (· + waiting edges [] v)
  | [], indegree, _ => ⟨indegree, rfl, rfl, fun v => by simp [waiting]⟩
  | d :: edges, indegree, hkeys => by
    have hd := hkeys d (List.mem_cons_self ..)
    obtain ⟨value, hvalue⟩ := get_of_mem_keys hd
    have hkeys' := keys_put_of_mem (value + 1) hd
    have hrest : ∀ e ∈ edges, e.consumer ∈ Assoc.keys (Assoc.put d.consumer (value + 1) indegree) := fun e he =>
      hkeys' ▸ hkeys e (List.mem_cons_of_mem _ he)
    obtain ⟨counted, hscan, hcounted, hget⟩ := scan_countEdge hrest
    refine ⟨counted, (scan_ok_cons ..).2 ⟨_, ?_, hscan⟩, hcounted.trans hkeys', fun v => ?_⟩
    · unfold countEdge
      rw [hvalue]
      rfl
    · rw [hget v, waiting_cons]
      by_cases hv : d.consumer = v
      · subst hv
        rw [Assoc.get_put_self, hvalue]
        simp
        omega
      · rw [Assoc.get_put_of_ne fun h => hv h.symm]
        simp [hv]

/-! ## Starting -/

def Leads (started other : List Ref16) : Prop :=
  started <+: other ∨ ∃ common a b xs ys, started = common ++ a :: xs ∧ other = common ++ b :: ys ∧ a < b

structure StartOrder (edges : List ServiceDependency) (nodes order : List Ref16) : Prop where
  nodup : order.Nodup
  complete : ∀ v, v ∈ order ↔ v ∈ nodes
  ordered : Ordered (Depends edges) order

/-- **How far the services have started**: `rest` are the edges of the last one that are not released yet. -/
structure Progress (edges : List ServiceDependency) (nodes : List Ref16) (s : Startup) (rest : List Ref16) : Prop where
  keys : Assoc.keys s.indegree = nodes
  degree : ∀ v ∈ nodes, Assoc.get v s.indegree = some (waiting edges s.startup v + rest.count v)
  sorted : Keyed.Ascending id s.ready
  ready : ∀ v, v ∈ s.ready ↔ v ∈ nodes ∧ v ∉ s.startup ∧ waiting edges s.startup v + rest.count v = 0
  started : ∀ v ∈ s.startup, v ∈ nodes ∧ waiting edges s.startup v + rest.count v = 0
  nodup : s.startup.Nodup
  ordered : Ordered (Depends edges) s.startup
  least : ∀ other, StartOrder edges nodes other → Leads s.startup other

section Progress

variable {edges : List ServiceDependency} {nodes rest : List Ref16} {s : Startup} {consumer : Ref16}

/-- **Releasing an edge never takes a degree below zero**, and a service whose last edge it is gets ready. -/
theorem Progress.release (h : Progress edges nodes s (consumer :: rest)) (hconsumer : consumer ∈ nodes) :
    ∃ s', release s consumer = .ok s' ∧ s'.startup = s.startup ∧ Progress edges nodes s' rest := by
  have hdegree := h.degree consumer hconsumer
  have hkeys : consumer ∈ Assoc.keys s.indegree := h.keys ▸ hconsumer
  rw [List.count_cons_self] at hdegree
  have hout : consumer ∉ s.startup := by
    intro hin
    have hzero := (h.started consumer hin).2
    rw [List.count_cons_self] at hzero
    omega
  have hunready : consumer ∉ s.ready := by
    intro hin
    have hzero := ((h.ready consumer).1 hin).2.2
    rw [List.count_cons_self] at hzero
    omega
  have hother : ∀ v, v ≠ consumer → (consumer :: rest).count v = rest.count v := fun v hv =>
    List.count_cons_of_ne (Ne.symm hv)
  refine ⟨{ s with
      indegree := Assoc.put consumer (waiting edges s.startup consumer + rest.count consumer) s.indegree
      ready := if waiting edges s.startup consumer + rest.count consumer = 0 then insertSet consumer s.ready
        else s.ready }, ?_, rfl, ⟨?_, ?_, ?_, ?_, ?_, h.nodup, h.ordered, h.least⟩⟩
  · unfold ServiceGraph.release
    rw [hdegree]
    rfl
  · exact (keys_put_of_mem _ hkeys).trans h.keys
  · intro v hv
    by_cases hc : v = consumer
    · rw [hc]
      exact Assoc.get_put_self ..
    · refine (Assoc.get_put_of_ne hc ..).trans ?_
      rw [h.degree v hv, hother v hc]
  · dsimp only
    split
    · unfold insertSet
      rw [if_neg hunready]
      exact h.sorted.insert id fun y hy (hyc : y = consumer) => hunready (hyc ▸ hy)
    · exact h.sorted
  · intro v
    dsimp only
    by_cases hc : v = consumer
    · subst hc
      split
      · rename_i hzero
        refine ⟨fun _ => ⟨hconsumer, hout, hzero⟩, fun _ => ?_⟩
        unfold insertSet
        rw [if_neg hunready]
        exact (Keyed.mem_insert id).2 (.inl rfl)
      · rename_i hpositive
        exact ⟨fun hin => absurd hin hunready, fun hin => absurd hin.2.2 hpositive⟩
    · rw [← hother v hc, ← h.ready v]
      split
      · unfold insertSet
        rw [if_neg hunready, Keyed.mem_insert]
        exact ⟨fun hin => hin.resolve_left hc, .inr⟩
      · rfl
  · intro v hv
    obtain ⟨hnode, hzero⟩ := h.started v hv
    refine ⟨hnode, ?_⟩
    rw [hother v fun hc => hout (hc ▸ hv)] at hzero
    exact hzero

theorem Progress.releaseAll : ∀ {rest : List Ref16} {s : Startup}, Progress edges nodes s rest → (∀ v ∈ rest, v ∈ nodes) →
    ∃ s', scan ServiceGraph.release s rest = .ok s' ∧ s'.startup = s.startup ∧ Progress edges nodes s' []
  | [], s, h, _ => ⟨s, rfl, rfl, h⟩
  | consumer :: rest, s, h, hrest => by
    obtain ⟨s₁, hs₁, hstartup₁, h₁⟩ := h.release (hrest consumer (List.mem_cons_self ..))
    obtain ⟨s₂, hs₂, hstartup₂, h₂⟩ := h₁.releaseAll fun v hv => hrest v (List.mem_cons_of_mem _ hv)
    exact ⟨s₂, (scan_ok_cons ..).2 ⟨s₁, hs₁, hs₂⟩, hstartup₂.trans hstartup₁, h₂⟩

theorem Leads.snoc {started ready other : List Ref16} {node : Ref16} (h : Leads started other)
    (hsorted : Keyed.Ascending id (node :: ready)) (hother : StartOrder edges nodes other) (hnode : node ∈ nodes)
    (hout : node ∉ started)
    (hready : ∀ v ∈ nodes, v ∉ started → (∀ u, Depends edges u v → u ∈ started) → v ∈ node :: ready) :
    Leads (started ++ [node]) other := by
  rcases h with ⟨tail, rfl⟩ | ⟨common, a, b, xs, ys, rfl, rfl, hlt⟩
  · cases tail with
    | nil => exact absurd (by simpa using (hother.complete node).2 hnode) hout
    | cons b ys =>
      have hb : b ∈ nodes := (hother.complete b).1 (by simp)
      have hbout : b ∉ started := fun hin => by
        have hdisjoint := (List.nodup_append.1 hother.nodup).2.2
        exact hdisjoint b hin b (List.mem_cons_self ..) rfl
      have hmem := hready b hb hbout (hother.ordered started b ys rfl)
      rcases List.mem_cons.1 hmem with rfl | hlater
      · exact .inl ⟨ys, by simp⟩
      · exact .inr ⟨started, node, b, [], ys, rfl, rfl, (List.pairwise_cons.1 hsorted).1 b hlater⟩
  · exact .inr ⟨common, a, b, xs ++ [node], ys, by simp, rfl, hlt⟩

theorem Progress.start {node : Ref16} {ready : List Ref16} (h : Progress edges nodes s [])
    (hready : s.ready = node :: ready) :
    Progress edges nodes { s with ready, startup := s.startup ++ [node] } (outgoing edges node) := by
  obtain ⟨hnode, hout, hzero⟩ := (h.ready node).1 (hready ▸ List.mem_cons_self ..)
  rw [List.count_nil, Nat.add_zero] at hzero
  have hsorted : Keyed.Ascending id (node :: ready) := hready ▸ h.sorted
  have hdegree : ∀ v, waiting edges (s.startup ++ [node]) v + (outgoing edges node).count v
      = waiting edges s.startup v + ([] : List Ref16).count v := fun v => (waiting_snoc hout v edges).symm
  refine ⟨h.keys, fun v hv => ?_, (List.pairwise_cons.1 hsorted).2, fun v => ?_, fun v hv => ?_, ?_, ?_, ?_⟩
  · rw [hdegree]
    exact h.degree v hv
  · rw [hdegree, List.mem_append, List.mem_singleton, not_or]
    have hmem := h.ready v
    rw [hready, List.mem_cons] at hmem
    constructor
    · intro hin
      obtain ⟨hv, hvout, hvzero⟩ := hmem.1 (.inr hin)
      exact ⟨hv, ⟨hvout, ne_of_gt ((List.pairwise_cons.1 hsorted).1 v hin)⟩, hvzero⟩
    · rintro ⟨hv, ⟨hvout, hne⟩, hvzero⟩
      exact (hmem.2 ⟨hv, hvout, hvzero⟩).resolve_left hne
  · rw [hdegree]
    rcases List.mem_append.1 hv with hin | hin
    · exact h.started v hin
    · rw [List.mem_singleton.1 hin]
      exact ⟨hnode, hzero⟩
  · exact List.nodup_append.2 ⟨h.nodup, List.nodup_singleton node, fun a ha b hb => by
      rw [List.mem_singleton.1 hb]
      exact fun hab => hout (hab ▸ ha)⟩
  · exact h.ordered.snoc (waiting_eq_zero.1 hzero)
  · intro other hother
    refine (h.least other hother).snoc hsorted hother hnode hout fun v hv hvout hproviders => ?_
    rw [← hready]
    exact (h.ready v).2 ⟨hv, hvout, waiting_eq_zero.2 hproviders⟩

theorem startReady_ok (hedges : ∀ d ∈ edges, d.consumer ∈ nodes) : ∀ (fuel : Nat) {s : Startup},
    Progress edges nodes s [] → nodes.length ≤ s.startup.length + fuel →
      ∃ s', startReady edges fuel s = .ok s' ∧ Progress edges nodes s' [] ∧ s'.ready = []
  | 0, s, h, hfuel => by
    refine ⟨s, rfl, h, List.eq_nil_iff_forall_not_mem.2 fun v hv => ?_⟩
    obtain ⟨hnode, hout, _⟩ := (h.ready v).1 hv
    have hsub : s.startup.Subperm nodes := h.nodup.subperm fun u hu => (h.started u hu).1
    have hperm := hsub.perm_of_length_le hfuel
    exact hout (hperm.mem_iff.2 hnode)
  | fuel + 1, s, h, hfuel => by
    cases hready : s.ready with
    | nil => exact ⟨s, by rw [startReady, hready], h, hready⟩
    | cons node ready =>
      have hout : ∀ v ∈ outgoing edges node, v ∈ nodes := by
        intro v hv
        obtain ⟨d, hd, rfl⟩ := List.mem_map.1 hv
        exact hedges d (List.mem_filter.1 hd).1
      obtain ⟨s', hs', hstartup, h'⟩ := (h.start hready).releaseAll hout
      obtain ⟨s'', hs'', hfinal⟩ := startReady_ok hedges fuel h'
        (by rw [hstartup, List.length_append, List.length_singleton]; omega)
      refine ⟨s'', ?_, hfinal⟩
      rw [startReady, hready]
      exact ok_bind hs' hs''

/-! ## The end of the loop -/

theorem Progress.first {indegree : List (Ref16 × Nat)} (hnodes : Keyed.Ascending id nodes)
    (hkeys : Assoc.keys indegree = nodes) (hdegree : ∀ v ∈ nodes, Assoc.get v indegree = some (waiting edges [] v)) :
    Progress edges nodes ⟨(indegree.filter fun entry => entry.2 = 0).map Prod.fst, indegree, []⟩ [] := by
  have hnodup : (Assoc.keys indegree).Nodup := hkeys ▸ ascending_nodup hnodes
  refine ⟨hkeys, hdegree, ?_, fun v => ?_, fun v hv => (by cases hv), .nil, .nil,
    fun other _ => .inl ⟨other, rfl⟩⟩
  · have hsub : ((indegree.filter fun entry => entry.2 = 0).map Prod.fst).Sublist nodes :=
      hkeys ▸ List.filter_sublist.map Prod.fst
    exact List.Pairwise.sublist hsub hnodes
  · simp only [List.mem_map, List.mem_filter, decide_eq_true_eq, List.not_mem_nil, not_false_eq_true, true_and,
      List.count_nil, Nat.add_zero]
    constructor
    · rintro ⟨⟨w, n⟩, ⟨hmem, rfl⟩, rfl⟩
      have hget := Assoc.get_of_mem hnodup hmem
      have hv : w ∈ nodes := hkeys ▸ Assoc.key_of_get hget
      exact ⟨hv, Option.some.inj ((hdegree w hv).symm.trans hget)⟩
    · rintro ⟨hv, hzero⟩
      refine ⟨(v, 0), ⟨Assoc.mem_of_get ?_, rfl⟩, rfl⟩
      rw [hdegree v hv, hzero]

theorem Progress.startOrder (h : Progress edges nodes s []) (hlength : s.startup.length = nodes.length) :
    StartOrder edges nodes s.startup where
  nodup := h.nodup
  complete v := by
    have hsub : s.startup.Subperm nodes := h.nodup.subperm fun u hu => (h.started u hu).1
    exact (hsub.perm_of_length_le (Nat.le_of_eq hlength.symm)).mem_iff
  ordered := h.ordered

/-- **What never starts has a provider that never starts**, so some services lie on a cycle. -/
theorem Progress.cyclic (h : Progress edges nodes s []) (hnodes : nodes.Nodup) (hready : s.ready = [])
    (hproviders : ∀ d ∈ edges, d.provider ∈ nodes) (hlength : s.startup.length ≠ nodes.length) :
    ¬ Acyclic (Depends edges) := by
  refine cycle_of_no_source (nodes.filter (· ∉ s.startup)) ?_ fun v hv => ?_
  · intro hnone
    have hsub : nodes.Subperm s.startup := hnodes.subperm fun v hv => by
      by_contra hout
      have hmem : v ∈ nodes.filter (· ∉ s.startup) := List.mem_filter.2 ⟨hv, by simpa using hout⟩
      rw [hnone] at hmem
      cases hmem
    have hsub' : s.startup.Subperm nodes := h.nodup.subperm fun u hu => (h.started u hu).1
    exact hlength (hsub'.perm_of_length_le hsub.length_le).length_eq
  · obtain ⟨hnode, hout⟩ := List.mem_filter.1 hv
    have hout : v ∉ s.startup := by simpa using hout
    have hwaits : waiting edges s.startup v ≠ 0 := by
      intro hzero
      have hin := (h.ready v).2 ⟨hnode, hout, hzero⟩
      rw [hready] at hin
      cases hin
    rw [Ne, waiting_eq_zero] at hwaits
    push Not at hwaits
    obtain ⟨u, hu, huout⟩ := hwaits
    exact ⟨u, List.mem_filter.2 ⟨hproviders _ hu, by simpa using huout⟩, hu⟩

theorem Leads.le {started other : List Ref16} (h : Leads started other) (hlength : started.length = other.length) :
    started ≤ other := by
  rcases h with hpre | ⟨common, a, b, xs, ys, rfl, rfl, hlt⟩
  · exact le_of_eq (hpre.eq_of_length hlength)
  · refine le_of_lt ?_
    exact List.Lex.append_left _ (List.Lex.rel hlt) common

end Progress

end ServiceGraph
end ParaEgox
