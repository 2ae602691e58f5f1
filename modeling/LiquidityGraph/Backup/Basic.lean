import LiquidityGraph.Graph.Basic
import LiquidityGraph.Store.EdgeRecord

/-! A whole graph as lists of records, from which it can be rebuilt. -/
namespace LiquidityGraph

structure TickSet where
  pool : PoolId
  spacing : Int
  ticks : List Tick
  deriving DecidableEq, Repr

structure PoolFee where
  pool : PoolId
  fee : Nat
  deriving DecidableEq, Repr

structure Backup where
  defaultFee : Nat
  pools : List Pool
  edges : List EdgeRecord
  ticks : List TickSet
  fees : List PoolFee
  deriving DecidableEq, Repr

namespace Backup

/-- Everything that a graph holds, in the order of its keys. -/
def ofGraph (g : Graph) : Backup where
  defaultFee := g.defaultFee
  pools := g.pools.toList.map (·.2)
  edges := g.edgeList.map fun (key, edge) => EdgeRecord.ofEdge key edge
  ticks := g.ticks.toList.map fun (pool, l) => ⟨pool, l.spacing, l.ticks⟩
  fees := g.fees.toList.map fun (pool, fee) => ⟨pool, fee⟩

/-- Ticks are checked again before they are stored. -/
def restoreTicks (g : Graph) (s : TickSet) : Except GraphError Graph :=
  match TickList.ofList s.ticks s.spacing with
  | .error cause => .error (.edge s.pool (.ticks cause))
  | .ok ticks => .ok (g.setTicks s.pool ticks)

def restoreEdge (g : Graph) (r : EdgeRecord) : Except GraphError Graph :=
  match r.snapshot? with
  | none => .error (.corruptSnapshot r.key.pool)
  | some s =>
    match Edge.ofSnapshot s g.ticks[r.key.pool]? with
    | .error cause => .error (.edge r.key.pool cause)
    | .ok edge => .ok (g.setEdge r.key edge)

/-- Rebuilds a graph: pools, then ticks, then fees, then edges. -/
def toGraph (b : Backup) : Except GraphError Graph := do
  let g := b.pools.foldl Graph.addPool (Graph.empty b.defaultFee)
  let g ← b.ticks.foldlM restoreTicks g
  let g := b.fees.foldl (fun g f => g.setPoolFee f.pool f.fee) g
  b.edges.foldlM restoreEdge g

/-- Replaces a graph by the one that a backup holds, unless it cannot be rebuilt. -/
def restore (b : Backup) : ExceptT GraphError (StateM Graph) Unit := do
  let g ← b.toGraph
  set g

end Backup

end LiquidityGraph
