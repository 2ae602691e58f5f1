import LiquidityGraph.Proofs.Graph.MapEdges
import LiquidityGraph.Route.Search
import Mathlib.Data.List.Basic

/-! A search asks an edge for its quotes only, so that edges that quote the same give one route. -/
namespace LiquidityGraph.Search

open Std (ExtTreeMap)

/-- Edges replaced by others that quote the same. -/
def SameQuotes (f : EdgeKey → Edge → Edge) : Prop :=
  ∀ k e amount, (f k e).quote amount = e.quote amount

variable {f : EdgeKey → Edge → Edge}

private theorem offers_map (hf : SameQuotes f) (source target : TokenId) (visited : List PoolId)
    (amount : Nat) (pools : PoolEdges) :
    offers visited amount
        (pools.map fun pool chains => chains.map fun chain e => f ⟨source, target, pool, chain⟩ e) =
      offers visited amount pools := by
  simp only [offers, ExtTreeMap.toList_map, List.flatMap_map, List.filterMap_map]
  refine congrArg (fun offer => pools.toList.flatMap offer) (funext fun entry => ?_)
  split_ifs
  · rfl
  · refine List.filterMap_congr fun chain _ => ?_
    simp only [Function.comp_apply, hf _ _ _]

theorem Query.expand_mapEdges (hf : SameQuotes f) (q : Query) (g : Graph) :
    q.expand (g.mapEdges f) = q.expand g := by
  funext s token
  unfold Query.expand
  cases q.amountAt s token with
  | none => rfl
  | some amount =>
    simp only [Graph.neighbors, Graph.mapEdges, ExtTreeMap.getElem?_map]
    cases g.edges[token]? with
    | none => rfl
    | some targets =>
      simp only [Option.map_some, ExtTreeMap.toList_map, List.foldl_map]
      refine congrArg (fun step => targets.toList.foldl step s) ?_
      funext s entry
      simp only [relax, offers_map hf]

theorem Query.drain_mapEdges (hf : SameQuotes f) (q : Query) (g : Graph) (fuel : Nat) (s : State) :
    q.drain (g.mapEdges f) fuel s = q.drain g fuel s := by
  induction fuel generalizing s with
  | zero => rfl
  | succ fuel ih =>
    unfold Query.drain
    split
    · rfl
    · rw [q.expand_mapEdges hf, ih]

theorem edgeList_mapEdges (f : EdgeKey → Edge → Edge) (g : Graph) :
    (g.mapEdges f).edgeList = g.edgeList.map fun entry => (entry.1, f entry.1 entry.2) := by
  simp [Graph.edgeList, Graph.mapEdges, ExtTreeMap.toList_map, List.flatMap_map, List.map_flatMap,
    Function.comp_def]

/-- Every route is the same. -/
theorem Query.hops_mapEdges (hf : SameQuotes f) (q : Query) (g : Graph) :
    q.hops (g.mapEdges f) = q.hops g := by
  have hrun : q.run (g.mapEdges f) = q.run g := by
    rw [run, run, edgeList_mapEdges, List.length_map, q.drain_mapEdges hf]
  simp only [hops, hrun]

end LiquidityGraph.Search
