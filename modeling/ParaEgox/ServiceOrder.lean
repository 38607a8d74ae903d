import ParaEgox.ServiceCycle

/-!
# ServiceOrder — the validator of service dependencies

Dependencies without a cycle are given the least order in which every provider starts before its consumers; dependencies
with one are refused with a closed walk along them.  Neither depends on the order in which they are listed.
-/
namespace ParaEgox
namespace ServiceGraph

open Check Digraphs

theorem depends_edgesOf (dependencies : List ServiceDependency) :
    Depends (edgesOf dependencies) = Depends dependencies := by
  funext provider consumer
  exact propext mem_edgesOf

variable {dependencies other : List ServiceDependency}

theorem StartOrder.of_edgesOf {nodes order : List Ref16} :
    StartOrder (edgesOf dependencies) nodes order ↔ StartOrder dependencies nodes order := by
  constructor
  · rintro ⟨hnodup, hcomplete, hordered⟩
    exact ⟨hnodup, hcomplete, depends_edgesOf dependencies ▸ hordered⟩
  · rintro ⟨hnodup, hcomplete, hordered⟩
    exact ⟨hnodup, hcomplete, (depends_edgesOf dependencies).symm ▸ hordered⟩

theorem edgesOf_length (h : dependencies.Nodup) : (edgesOf dependencies).length = dependencies.length := by
  unfold edgesOf
  rw [(Keyed.sortBy_perm _ _).length_eq, h.dedup]

/-! ## The order of the input -/

theorem nodesOf_perm (h : other.Perm dependencies) : nodesOf other = nodesOf dependencies := by
  refine (nodesOf_ascending other).ext id (nodesOf_ascending dependencies) fun v => ?_
  simp only [mem_nodesOf, h.mem_iff]

theorem edgesOf_perm (h : other.Perm dependencies) : edgesOf other = edgesOf dependencies := by
  refine Keyed.sortBy_of_perm _ h.dedup (List.Nodup.map (fun a b hab => ?_) (List.nodup_dedup other))
  cases a
  cases b
  simpa using hab

theorem validate_perm (h : other.Perm dependencies) :
    validateServiceDependencies other = validateServiceDependencies dependencies := by
  unfold validateServiceDependencies
  rw [nodesOf_perm h, edgesOf_perm h, h.length_eq]

/-! ## Its verdict -/

theorem bind_of_ok {α β : Type} {x : Res α} {f : α → Res β} {a : α} (hx : x = .ok a) : (x >>= f) = f a := by
  rw [hx]
  rfl

structure LeastOrder (dependencies : List ServiceDependency) (order : ServiceDependencyOrder) : Prop where
  startup : StartOrder dependencies (nodesOf dependencies) order.startup
  least : ∀ other, StartOrder dependencies (nodesOf dependencies) other → order.startup ≤ other
  shutdown : order.shutdown = order.startup.reverse

theorem LeastOrder.acyclic {order : ServiceDependencyOrder}
    (h : LeastOrder dependencies order) : Acyclic (Depends dependencies) :=
  h.startup.ordered.acyclic fun _ _ huv => (h.startup.complete _).2 (mem_nodesOf.2 ⟨_, huv, .inr rfl⟩)

theorem validate_cases (hdistinct : dependencies.Nodup) (hedges : dependencies.length ≤ maxServiceDependencyEdges)
    (hvertices : (nodesOf dependencies).length ≤ maxServiceDependencyVertices) :
    (∃ order, validateServiceDependencies dependencies = .ok order ∧ LeastOrder dependencies order) ∨
      ∃ witness, validateServiceDependencies dependencies = .error (.error (.cycle witness)) ∧
        ClosedWalk (Depends dependencies) witness := by
  have hproviders : ∀ d ∈ edgesOf dependencies, d.provider ∈ nodesOf dependencies := fun d hd =>
    mem_nodesOf.2 ⟨d, mem_edgesOf.1 hd, .inl rfl⟩
  have hconsumers : ∀ d ∈ edgesOf dependencies, d.consumer ∈ nodesOf dependencies := fun d hd =>
    mem_nodesOf.2 ⟨d, mem_edgesOf.1 hd, .inr rfl⟩
  have hnodes := nodesOf_ascending dependencies
  have hzero : Assoc.keys ((nodesOf dependencies).map fun node => (node, 0)) = nodesOf dependencies := by
    unfold Assoc.keys
    rw [List.map_map]
    exact List.map_id _
  obtain ⟨indegree, hcount, hkeys, hdegree⟩ := scan_countEdge fun d hd => hzero ▸ hconsumers d hd
  have hfirst : Progress (edgesOf dependencies) (nodesOf dependencies)
      ⟨(indegree.filter fun entry => entry.2 = 0).map Prod.fst, indegree, []⟩ [] := by
    refine Progress.first hnodes (hkeys.trans hzero) fun v hv => ?_
    have hget : Assoc.get v ((nodesOf dependencies).map fun node => (node, 0)) = some 0 := by
      refine Assoc.get_of_mem ?_ (List.mem_map.2 ⟨v, hv, rfl⟩)
      rw [hzero]
      exact ascending_nodup hnodes
    rw [hdegree, hget]
    simp
  obtain ⟨s, hs, hprogress, hready⟩ := startReady_ok hconsumers (nodesOf dependencies).length hfirst (Nat.le_add_left _ _)
  have hlead : validateServiceDependencies dependencies
      = if s.startup.length ≠ (nodesOf dependencies).length then do
          let witness ← stableCycleWitness (nodesOf dependencies) (edgesOf dependencies)
          .error (.error (.cycle witness))
        else pure { startup := s.startup, shutdown := s.startup.reverse } := by
    unfold validateServiceDependencies
    refine (bind_of_ok (rejectIf_neg (Nat.not_lt.2 hedges))).trans ?_
    refine (bind_of_ok (rejectIf_neg (Nat.not_lt.2 hvertices))).trans ?_
    refine (bind_of_ok (rejectIf_neg (not_not.2 (edgesOf_length hdistinct)))).trans ?_
    exact (bind_of_ok hcount).trans (bind_of_ok hs)
  rw [hlead]
  by_cases hlength : s.startup.length = (nodesOf dependencies).length
  · left
    rw [if_neg (not_not.2 hlength)]
    have hstartup := hprogress.startOrder hlength
    refine ⟨_, rfl, StartOrder.of_edgesOf.1 hstartup, fun other hother => ?_, rfl⟩
    have hother := StartOrder.of_edgesOf.2 hother
    refine (hprogress.least other hother).le ?_
    refine ((List.perm_ext_iff_of_nodup hstartup.nodup hother.nodup).2 fun v => ?_).length_eq
    rw [hstartup.complete, hother.complete]
  · right
    have hcyclic := hprogress.cyclic (ascending_nodup hnodes) hready hproviders hlength
    obtain ⟨witness, hwitness, hclosed⟩ :=
      stableCycleWitness_ok (ascending_nodup hnodes) hproviders hconsumers hcyclic
    rw [if_pos hlength, hwitness]
    exact ⟨witness, rfl, depends_edgesOf dependencies ▸ hclosed⟩

/-- **The validation of service dependencies is exact.**  Distinct dependencies within the bounds are accepted exactly when
they have no cycle; then every service is listed once, each provider before its consumers, in the least such order, and
the shutdown is its reverse; otherwise the error names a closed walk that repeats no other vertex.  Nothing panics, and the
order of the input does not matter. -/
theorem service_dependencies_exact (dependencies : List ServiceDependency) (hdistinct : dependencies.Nodup)
    (hedges : dependencies.length ≤ maxServiceDependencyEdges)
    (hvertices : (nodesOf dependencies).length ≤ maxServiceDependencyVertices) :
    ((∃ order, validateServiceDependencies dependencies = .ok order) ↔ Acyclic (Depends dependencies)) ∧
    (∀ order, validateServiceDependencies dependencies = .ok order → LeastOrder dependencies order) ∧
    (¬ Acyclic (Depends dependencies) →
      ∃ witness, validateServiceDependencies dependencies = .error (.error (.cycle witness)) ∧
        ClosedWalk (Depends dependencies) witness) ∧
    validateServiceDependencies dependencies ≠ .error .panic ∧
    ∀ other, other.Perm dependencies → validateServiceDependencies other = validateServiceDependencies dependencies := by
  rcases validate_cases hdistinct hedges hvertices with ⟨order, hok, hleast⟩ | ⟨witness, herror, hclosed⟩
  · refine ⟨⟨fun _ => hleast.acyclic, fun _ => ⟨order, hok⟩⟩, fun order' hok' => ?_, fun hcyclic => ?_, ?_, fun _ => validate_perm⟩
    · rw [← Except.ok.inj (hok.symm.trans hok')]
      exact hleast
    · exact absurd hleast.acyclic hcyclic
    · rw [hok]
      exact nofun
  · refine ⟨⟨fun ⟨order, hok⟩ => ?_, fun hacyclic => absurd hacyclic hclosed.not_acyclic⟩, fun order hok => ?_,
      fun _ => ⟨witness, herror, hclosed⟩, ?_, fun _ => validate_perm⟩
    · rw [herror] at hok
      cases hok
    · rw [herror] at hok
      cases hok
    · rw [herror]
      exact nofun

theorem service_dependencies_exact_two :
    let dependencies : List ServiceDependency := [⟨.ofNat 3, .ofNat 1⟩, ⟨.ofNat 2, .ofNat 1⟩]
    let order : ServiceDependencyOrder := ⟨[.ofNat 2, .ofNat 3, .ofNat 1], [.ofNat 1, .ofNat 3, .ofNat 2]⟩
    validateServiceDependencies dependencies = .ok order ∧ LeastOrder dependencies order := by
  intro dependencies order
  have hok : validateServiceDependencies dependencies = .ok order := by decide +kernel
  have hexact := service_dependencies_exact dependencies (by decide) (by decide) (by decide +kernel)
  exact ⟨hok, hexact.2.1 order hok⟩

end ServiceGraph
end ParaEgox
