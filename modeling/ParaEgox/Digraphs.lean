import Mathlib.Data.List.Chain
import Mathlib.Data.List.Nodup
import Mathlib.Logic.Relation
import Mathlib.Order.WellFounded
import Mathlib.Data.Set.Finite.Basic

/-!
# Digraphs — orders along a relation, and its cycles

A list is ordered along a relation when the predecessors of every entry stand before it.  A vertex of such a list lies on
no cycle; a finite set without a source has one.  A search names a cycle as a walk that closes on its first vertex.
-/
namespace Digraphs

open Relation

variable {α : Type} {R : α → α → Prop}

def Acyclic (R : α → α → Prop) : Prop := ∀ v, ¬ TransGen R v v

def Ordered (R : α → α → Prop) (order : List α) : Prop :=
  ∀ before v after, order = before ++ v :: after → ∀ u, R u v → u ∈ before

structure ClosedWalk (R : α → α → Prop) (walk : List α) : Prop where
  chain : walk.IsChain R
  closes : ∃ v inner, walk = v :: inner ++ [v]
  simple : walk.dropLast.Nodup

/-! ## Orders -/

theorem Ordered.nil : Ordered R [] := by
  intro before v after h
  cases before <;> cases h

/-- A place in a list with one more element is that element's, or a place in the list. -/
theorem snoc_cases {order before after : List α} {v w : α} (h : order ++ [v] = before ++ w :: after) :
    (order = before ∧ v = w) ∨ ∃ after', order = before ++ w :: after' := by
  rcases List.eq_nil_or_concat after with rfl | ⟨after', last, rfl⟩
  · obtain ⟨rfl, hlast⟩ := List.append_inj' h rfl
    exact .inl ⟨rfl, (List.cons.inj hlast).1⟩
  · rw [List.concat_eq_append, ← List.cons_append, ← List.append_assoc] at h
    exact .inr ⟨after', (List.append_inj' h rfl).1⟩

theorem Ordered.snoc {order : List α} {v : α} (h : Ordered R order) (hv : ∀ u, R u v → u ∈ order) :
    Ordered R (order ++ [v]) := by
  intro before w after heq u hu
  rcases snoc_cases heq with ⟨rfl, rfl⟩ | ⟨after', rfl⟩
  · exact hv u hu
  · exact h before w after' rfl u hu

theorem Ordered.transGen {order : List α} (h : Ordered R order) {u v : α} (huv : TransGen R u v) :
    ∀ before after, order = before ++ v :: after → u ∈ before := by
  induction huv with
  | single huv => exact fun before after heq => h before _ after heq u huv
  | @tail w v _ hwv ih =>
    intro before after heq
    have hw := h before v after heq w hwv
    obtain ⟨before', after', rfl, _⟩ := List.eq_append_cons_of_mem hw
    have hu := ih before' (after' ++ v :: after) (by rw [heq]; simp)
    exact List.mem_append_left _ hu

theorem Ordered.not_transGen {order : List α} (h : Ordered R order) {v : α} (hv : v ∈ order) : ¬ TransGen R v v := by
  intro hcycle
  obtain ⟨before, after, rfl, hfirst⟩ := List.eq_append_cons_of_mem hv
  exact hfirst (h.transGen hcycle before after rfl)

theorem Ordered.acyclic {order : List α} (h : Ordered R order) (hall : ∀ u v, R u v → v ∈ order) : Acyclic R := by
  intro v hcycle
  obtain ⟨u, _, huv⟩ := TransGen.tail'_iff.1 hcycle
  exact h.not_transGen (hall u v huv) hcycle

theorem cycle_of_no_source (vertices : List α) (hne : vertices ≠ [])
    (hsource : ∀ v ∈ vertices, ∃ u ∈ vertices, R u v) : ¬ Acyclic R := by
  intro hacyclic
  let S : {v // v ∈ vertices} → {v // v ∈ vertices} → Prop := fun u v => TransGen R u.1 v.1
  have htrans : IsTrans {v // v ∈ vertices} S := ⟨fun _ _ _ => TransGen.trans⟩
  have hirrefl : Std.Irrefl S := ⟨fun v => hacyclic v.1⟩
  have hfinite : Finite {v // v ∈ vertices} := (List.finite_toSet vertices).to_subtype
  have hwf : WellFounded S := Finite.wellFounded_of_trans_of_irrefl S
  obtain ⟨v, hv⟩ := List.exists_mem_of_ne_nil vertices hne
  obtain ⟨least, _, hleast⟩ := hwf.has_min Set.univ ⟨⟨v, hv⟩, trivial⟩
  obtain ⟨u, hu, hul⟩ := hsource least.1 least.2
  exact hleast ⟨u, hu⟩ trivial (.single hul)

/-! ## Closed walks -/

theorem transGen_of_isChain {u v : α} : ∀ {inner : List α}, (u :: inner ++ [v]).IsChain R → TransGen R u v
  | [], h => .single (List.isChain_pair.1 h)
  | w :: inner, h => by
    obtain ⟨huw, hrest⟩ := List.isChain_cons_cons.1 h
    exact .head huw (transGen_of_isChain hrest)

theorem ClosedWalk.not_acyclic {walk : List α} (h : ClosedWalk R walk) : ¬ Acyclic R := by
  obtain ⟨v, inner, rfl⟩ := h.closes
  exact fun hacyclic => hacyclic v (transGen_of_isChain h.chain)

theorem ClosedWalk.of_path {before after : List α} {v last : α} (hchain : (before ++ v :: after).IsChain R)
    (hnodup : (before ++ v :: after).Nodup) (hlast : (before ++ v :: after).getLast? = some last) (hback : R last v) :
    ClosedWalk R (v :: after ++ [v]) where
  chain := by
    have htail := (List.isChain_append.1 hchain).2.1
    refine List.isChain_append.2 ⟨htail, List.isChain_singleton v, fun x hx y hy => ?_⟩
    rw [List.getLast?_append_cons] at hlast
    obtain rfl : last = x := Option.some.inj (hlast.symm.trans hx)
    obtain rfl : v = y := Option.some.inj hy
    exact hback
  closes := ⟨v, after, rfl⟩
  simple := by
    rw [List.dropLast_concat]
    exact (List.nodup_append.1 hnodup).2.1

end Digraphs
