import LiquidityGraph.Discovery.Found
import LiquidityGraph.Graph.Basic

/-!
The outcome of a discovery: for each pool id the first acceptable pool found, both directions of
its edges, and its ticks.
-/
namespace LiquidityGraph

open Std (ExtTreeMap)

structure Findings where
  pools : ExtTreeMap PoolId Pool
  edges : ExtTreeMap EdgeKey Edge
  ticks : ExtTreeMap PoolId TickList

namespace Findings

def empty : Findings := ⟨∅, ∅, ∅⟩

def record (f : Findings) (p : Pool) (forward backward : Edge) : Findings :=
  { f with
    pools := f.pools.insert p.id p
    edges := (f.edges.insert ⟨p.token0, p.token1, p.id, p.chain⟩ forward).insert
      ⟨p.token1, p.token0, p.id, p.chain⟩ backward }

/-- The ticks of a concentrated pool that can be priced: its fee leaves something over, and its
tick and ticks are valid. -/
def priceable? (fee : Nat) (tick spacing : Int) (ticks : List Tick) : Option TickList :=
  if fee < Price.feeUnit ∧ Price.minTick ≤ tick ∧ tick ≤ Price.maxTick then
    (TickList.ofList ticks spacing).toOption
  else none

/-- Takes over a pool, unless its id is known or it cannot be priced. -/
def add (f : Findings) (found : FoundPool) : Findings :=
  if f.pools.contains found.pool.id then f
  else
    match found with
    | .constantProduct p reserve0 reserve1 =>
      let (forward, backward) := ConstantProduct.pair p.token0 p.token1 reserve0 reserve1
      f.record p (.constantProduct forward) (.constantProduct backward)
    | .concentrated p fee price liquidity tick spacing ticks =>
      match priceable? fee tick spacing ticks with
      | none => f
      | some ticks =>
        let (forward, backward) :=
          Concentrated.pair p.token0 p.token1 fee price liquidity tick ticks
        { f.record p (.concentrated forward) (.concentrated backward) with
          ticks := f.ticks.insert p.id ticks }

def ofList (found : List FoundPool) : Findings := found.foldl add empty

/-- Writes everything into a graph; pool records that it has already are kept. -/
def install (f : Findings) (g : Graph) : Graph :=
  let g := f.ticks.toList.foldl (fun g (pool, ticks) => g.setTicks pool ticks) g
  let g := f.edges.toList.foldl (fun g (key, edge) => g.setEdge key edge) g
  f.pools.toList.foldl (fun g (_, p) => g.addPool p) g

end Findings

end LiquidityGraph
