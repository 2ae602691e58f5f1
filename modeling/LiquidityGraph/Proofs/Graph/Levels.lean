import LiquidityGraph.Proofs.Graph.MapEdges

/-!
The levels of the edges. No operation leaves a level that holds nothing, so that the edges of a
graph are what their look-ups say.
-/
namespace LiquidityGraph

open Std (ExtTreeMap)

section Level

variable {κ ν : Type} [Ord κ] [Std.TransOrd κ]

private theorem occupied_ne (m : ExtTreeMap κ ν) : occupied m ≠ some ∅ := by
  unfold occupied
  split_ifs with hempty
  · simp
  · intro h
    have hm : m = ∅ := Option.some.inj h
    exact hempty (ExtTreeMap.isEmpty_iff.mpr hm)

private theorem some_insert_ne (m : ExtTreeMap κ ν) (k : κ) (v : ν) :
    some (m.insert k v) ≠ some ∅ := by
  intro h
  exact ExtTreeMap.insert_ne_empty (Option.some.inj h)

private theorem map_ne {ν' : Type} {o : Option (ExtTreeMap κ ν)} (h : o ≠ some ∅) (f : κ → ν → ν') :
    o.map (·.map f) ≠ some ∅ := by
  cases o with
  | none => simp
  | some m =>
    intro hmap
    have hempty : m.map f = ∅ := Option.some.inj hmap
    exact h (congrArg some (ExtTreeMap.map_eq_empty_iff.mp hempty))

theorem level_eq_none_iff [Std.LawfulEqOrd κ] {o : Option (ExtTreeMap κ ν)} (h : o ≠ some ∅) :
    o = none ↔ ∀ k : κ, o.bind (·[k]?) = none := by
  constructor
  · rintro rfl k
    rfl
  · intro hlookup
    cases o with
    | none => rfl
    | some m =>
      have hempty : m = ∅ := by
        refine ExtTreeMap.ext_getElem? fun k => ?_
        rw [ExtTreeMap.getElem?_empty]
        exact hlookup k
      exact absurd (congrArg some hempty) h

/-- Levels that hold something are what their look-ups say. -/
theorem level_ext [Std.LawfulEqOrd κ] {o o' : Option (ExtTreeMap κ ν)} (h : o ≠ some ∅)
    (h' : o' ≠ some ∅) (hlookup : ∀ k : κ, o.bind (·[k]?) = o'.bind (·[k]?)) : o = o' := by
  cases o with
  | none => exact ((level_eq_none_iff h').mpr fun k => (hlookup k).symm).symm
  | some m =>
    cases o' with
    | none => exact (level_eq_none_iff h).mpr hlookup
    | some m' => exact congrArg some (ExtTreeMap.ext_getElem? hlookup)

end Level

namespace Graph

/-- Every level of the edges holds something. -/
structure Occupied (g : Graph) : Prop where
  targets (s : TokenId) : g.neighbors s ≠ some ∅
  pools (s t : TokenId) : g.poolsBetween s t ≠ some ∅
  chains (s t : TokenId) (p : PoolId) : (g.poolsBetween s t).bind (·[p]?) ≠ some ∅

theorem edges_ext {g g' : Graph} (h : g.Occupied) (h' : g'.Occupied)
    (hedge : ∀ k, g.edge? k = g'.edge? k) : g.edges = g'.edges := by
  refine ExtTreeMap.ext_getElem? fun s => ?_
  refine level_ext (h.targets s) (h'.targets s) fun t => ?_
  refine level_ext (h.pools s t) (h'.pools s t) fun p => ?_
  refine level_ext (h.chains s t p) (h'.chains s t p) fun c => ?_
  have hkey := hedge ⟨s, t, p, c⟩
  rwa [edge?_eq_bind, edge?_eq_bind] at hkey

theorem poolsBetween_eq_bind (g : Graph) (s t : TokenId) :
    g.poolsBetween s t = g.edges[s]?.bind (·[t]?) := rfl

namespace Occupied

theorem empty (fee : Nat) : (Graph.empty fee).Occupied := by
  constructor <;> simp [Graph.empty, neighbors, poolsBetween]

/-- Only the edges matter. -/
theorem of_edges {g g' : Graph} (h : g.Occupied) (hedges : g'.edges = g.edges) : g'.Occupied := by
  obtain ⟨htargets, hpools, hchains⟩ := h
  simp only [neighbors, poolsBetween_eq_bind, ← hedges] at htargets hpools hchains
  exact ⟨htargets, hpools, hchains⟩

theorem setEdge {g : Graph} (h : g.Occupied) (key : EdgeKey) (edge : Edge) :
    (g.setEdge key edge).Occupied := by
  obtain ⟨source, target, pool, chain⟩ := key
  constructor
  · intro s
    simp only [neighbors, Graph.setEdge, ExtTreeMap.getElem?_insert]
    split_ifs
    · exact some_insert_ne _ _ _
    · exact h.targets s
  · intro s t
    simp only [poolsBetween_eq_bind, Graph.setEdge, ExtTreeMap.getElem?_insert,
      ExtTreeMap.getD_eq_getD_getElem?, Std.LawfulEqCmp.compare_eq_iff_eq]
    by_cases hs : source = s
    · subst hs
      simp only [if_true, Option.bind_some, ExtTreeMap.getElem?_insert, getElem?_getD_empty]
      split_ifs
      · exact some_insert_ne _ _ _
      · exact h.pools source t
    · rw [if_neg hs]
      exact h.pools s t
  · intro s t p
    simp only [poolsBetween_eq_bind, Graph.setEdge, ExtTreeMap.getElem?_insert,
      ExtTreeMap.getD_eq_getD_getElem?, Std.LawfulEqCmp.compare_eq_iff_eq]
    by_cases hs : source = s
    · subst hs
      simp only [if_true, Option.bind_some, ExtTreeMap.getElem?_insert, getElem?_getD_empty,
        Std.LawfulEqCmp.compare_eq_iff_eq]
      by_cases ht : target = t
      · subst ht
        simp only [if_true, Option.bind_some, ExtTreeMap.getElem?_insert, getElem?_getD_empty]
        split_ifs
        · exact some_insert_ne _ _ _
        · exact h.chains source target p
      · rw [if_neg ht]
        exact h.chains source t p
    · rw [if_neg hs]
      exact h.chains s t p

theorem cut {g : Graph} (h : g.Occupied) (source target : TokenId) (pool : PoolId) :
    (g.cut source target pool).Occupied := by
  constructor
  · intro s
    simp only [neighbors, Graph.cut, ExtTreeMap.getElem?_alter, Std.LawfulEqCmp.compare_eq_iff_eq]
    split_ifs with hs
    · subst hs
      cases g.edges[source]? with
      | none => simp
      | some targets => exact occupied_ne _
    · exact h.targets s
  · intro s t
    simp only [poolsBetween_eq_bind, Graph.cut, ExtTreeMap.getElem?_alter,
      Std.LawfulEqCmp.compare_eq_iff_eq]
    split_ifs with hs
    · subst hs
      cases hs : g.edges[source]? with
      | none => simp
      | some targets =>
        simp only [Option.bind_some, occupied_bind_getElem?, ExtTreeMap.getElem?_alter,
          Std.LawfulEqCmp.compare_eq_iff_eq]
        split_ifs with ht
        · subst ht
          cases targets[target]? with
          | none => simp
          | some pools => exact occupied_ne _
        · have hpools := h.pools source t
          simpa [poolsBetween_eq_bind, hs] using hpools
    · exact h.pools s t
  · intro s t p
    simp only [poolsBetween_eq_bind, Graph.cut, ExtTreeMap.getElem?_alter,
      Std.LawfulEqCmp.compare_eq_iff_eq]
    split_ifs with hs
    · subst hs
      cases hs : g.edges[source]? with
      | none => simp
      | some targets =>
        have hchains := h.chains source t p
        simp only [poolsBetween_eq_bind, hs, Option.bind_some, occupied_bind_getElem?,
          ExtTreeMap.getElem?_alter, Std.LawfulEqCmp.compare_eq_iff_eq] at hchains ⊢
        split_ifs with ht
        · subst ht
          cases ht : targets[target]? with
          | none => simp
          | some pools =>
            simp only [ht, Option.bind_some, occupied_bind_getElem?,
              ExtTreeMap.getElem?_erase] at hchains ⊢
            split_ifs
            · simp
            · exact hchains
        · exact hchains
    · exact h.chains s t p

theorem deleteEdge {g : Graph} (h : g.Occupied) (a b : TokenId) (pool : PoolId) :
    (g.deleteEdge a b pool).2.Occupied :=
  (h.cut a b pool).cut b a pool

theorem deletePool {g g' : Graph} (h : g.Occupied) {pool : PoolId} {p : Pool}
    (hdelete : g.deletePool pool = .ok (p, g')) : g'.Occupied := by
  unfold Graph.deletePool at hdelete
  split at hdelete
  · cases hdelete
  · cases hdelete
    exact (h.deleteEdge p.token0 p.token1 pool).of_edges rfl

theorem mapEdges {g : Graph} (h : g.Occupied) (f : EdgeKey → Edge → Edge) :
    (g.mapEdges f).Occupied := by
  have hpools : ∀ s t, (g.mapEdges f).poolsBetween s t =
      (g.poolsBetween s t).map (·.map fun p chains => chains.map fun c => f ⟨s, t, p, c⟩) := by
    intro s t
    simp only [poolsBetween_eq_bind, Graph.mapEdges, ExtTreeMap.getElem?_map]
    cases g.edges[s]? with
    | none => rfl
    | some targets => exact ExtTreeMap.getElem?_map
  constructor
  · intro s
    simp only [neighbors, Graph.mapEdges, ExtTreeMap.getElem?_map]
    exact map_ne (h.targets s) _
  · intro s t
    rw [hpools]
    exact map_ne (h.pools s t) _
  · intro s t p
    have hchains := map_ne (h.chains s t p) fun c => f ⟨s, t, p, c⟩
    rw [hpools]
    cases hlevel : g.poolsBetween s t with
    | none => simp
    | some pools =>
      rw [hlevel] at hchains
      simpa [ExtTreeMap.getElem?_map] using hchains

end Occupied

end Graph

end LiquidityGraph
