import LiquidityGraph.Proofs.Graph.Edges

/-!
All edges of a graph replaced at once, with their keys kept. Replacing one stored edge is a case
of it.
-/
namespace LiquidityGraph

open Std (ExtTreeMap)

section Level

variable {κ ν ν' : Type} [Ord κ] [Std.TransOrd κ] [Std.LawfulEqOrd κ]

theorem map_congr {m : ExtTreeMap κ ν} {f f' : κ → ν → ν'}
    (h : ∀ k v, m[k]? = some v → f k v = f' k v) : m.map f = m.map f' := by
  refine ExtTreeMap.ext_getElem? fun k => ?_
  rw [ExtTreeMap.getElem?_map, ExtTreeMap.getElem?_map]
  exact Option.map_congr fun v hv => h k v hv

private theorem map_eq_self {m : ExtTreeMap κ ν} {f : κ → ν → ν}
    (h : ∀ k v, m[k]? = some v → f k v = v) :
    m.map f = m := by
  refine (map_congr h).trans ?_
  exact ExtTreeMap.map_id

private theorem insert_eq_map [DecidableEq κ] {m : ExtTreeMap κ ν} {k : κ} {v : ν}
    (h : m[k]? = some v)
    (w : ν) : m.insert k w = m.map fun k' v' => if k = k' then w else v' := by
  refine ExtTreeMap.ext_getElem? fun k' => ?_
  rw [ExtTreeMap.getElem?_insert, ExtTreeMap.getElem?_map]
  by_cases hk : k = k'
  · subst hk
    simp [h]
  · simp [hk]

end Level

namespace Graph

/-- Every edge replaced by what a function makes of its key and itself. -/
def mapEdges (f : EdgeKey → Edge → Edge) (g : Graph) : Graph :=
  let edges := g.edges.map fun source targets => targets.map fun target pools =>
    pools.map fun pool chains => chains.map fun chain edge => f ⟨source, target, pool, chain⟩ edge
  { g with edges }

theorem edge?_mapEdges (f : EdgeKey → Edge → Edge) (g : Graph) (k : EdgeKey) :
    (g.mapEdges f).edge? k = (g.edge? k).map (f k) := by
  simp only [edge?_eq_bind, mapEdges, ExtTreeMap.getElem?_map]
  cases g.edges[k.source]? with
  | none => rfl
  | some targets =>
    simp only [Option.map_some, Option.bind_some, ExtTreeMap.getElem?_map]
    cases targets[k.target]? with
    | none => rfl
    | some pools =>
      simp only [Option.map_some, Option.bind_some, ExtTreeMap.getElem?_map]
      cases pools[k.pool]? with
      | none => rfl
      | some chains => simp only [Option.map_some, Option.bind_some, ExtTreeMap.getElem?_map]

theorem mapEdges_mapEdges (f f' : EdgeKey → Edge → Edge) (g : Graph) :
    (g.mapEdges f).mapEdges f' = g.mapEdges fun k e => f' k (f k e) := by
  simp [mapEdges, ExtTreeMap.map_map]

theorem mapEdges_congr {f f' : EdgeKey → Edge → Edge} {g : Graph}
    (h : ∀ k e, g.edge? k = some e → f k e = f' k e) : g.mapEdges f = g.mapEdges f' := by
  simp only [mapEdges, Graph.mk.injEq, and_true, true_and]
  refine map_congr fun source targets hs => ?_
  refine map_congr fun target pools ht => ?_
  refine map_congr fun pool chains hp => ?_
  refine map_congr fun chain edge hc => ?_
  exact h _ _ (edge?_eq_some.mpr ⟨targets, pools, chains, hs, ht, hp, hc⟩)

theorem mapEdges_eq_self {g : Graph} {f : EdgeKey → Edge → Edge}
    (h : ∀ k e, g.edge? k = some e → f k e = e) : g.mapEdges f = g := by
  rw [mapEdges_congr h]
  simp [mapEdges]

/-- Replacing a stored edge leaves the key set as it is. -/
theorem setEdge_eq_mapEdges {g : Graph} {key : EdgeKey} {edge : Edge}
    (h : (g.edge? key).isSome) :
    g.setEdge key edge = g.mapEdges fun k e => if key = k then edge else e := by
  obtain ⟨old, hold⟩ := Option.isSome_iff_exists.mp h
  obtain ⟨targets, pools, chains, hs, ht, hp, hc⟩ := edge?_eq_some.mp hold
  have hs : g.edges[key.source]? = some targets := hs
  have htargets : g.edges.getD key.source ∅ = targets := by
    rw [ExtTreeMap.getD_eq_getD_getElem?, hs]
    rfl
  have hpools : targets.getD key.target ∅ = pools := by
    rw [ExtTreeMap.getD_eq_getD_getElem?, ht]
    rfl
  have hchains : pools.getD key.pool ∅ = chains := by
    rw [ExtTreeMap.getD_eq_getD_getElem?, hp]
    rfl
  simp only [setEdge, mapEdges, htargets, hpools, hchains, Graph.mk.injEq, and_true, true_and]
  rw [insert_eq_map hs, insert_eq_map ht, insert_eq_map hp, insert_eq_map hc]
  -- at each level the entry on the way to the key is replaced, and the others are kept
  refine map_congr fun source targets' hs' => ?_
  split_ifs with hsource
  · obtain rfl : targets = targets' := by simpa [← hsource, hs] using hs'
    refine map_congr fun target pools' ht' => ?_
    split_ifs with htarget
    · obtain rfl : pools = pools' := by simpa [← htarget, ht] using ht'
      refine map_congr fun pool chains' hp' => ?_
      split_ifs with hpool
      · obtain rfl : chains = chains' := by simpa [← hpool, hp] using hp'
        refine map_congr fun chain edge' hc' => ?_
        cases key
        simp_all
      · exact (map_eq_self fun chain edge' hc' => by grind).symm
    · exact (map_eq_self fun pool chains' hp' => map_eq_self fun chain edge' hc' => by grind).symm
  · exact (map_eq_self fun target pools' ht' => map_eq_self fun pool chains' hp' =>
      map_eq_self fun chain edge' hc' => by grind).symm

end Graph

end LiquidityGraph
