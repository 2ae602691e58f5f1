import LiquidityGraph.Pool
import LiquidityGraph.Store.EdgeRecord

/-!
What is kept between runs: pools, edges, ticks, the last block processed on each chain, and the
price observations made.
-/
namespace LiquidityGraph

open Std (ExtTreeMap)

structure Store where
  pools : ExtTreeMap PoolId Pool
  edges : List EdgeRecord
  ticks : ExtTreeMap PoolId (List Tick)
  checkpoints : ExtTreeMap ChainId Nat
  observations : List Observation

namespace Store

def empty : Store := ⟨∅, [], ∅, ∅, []⟩

/-- Replaces the record that a pool has already. -/
def savePool (s : Store) (p : Pool) : Store :=
  { s with pools := s.pools.insert p.id p }

def poolsOn (s : Store) (chain : ChainId) : List Pool :=
  s.pools.values.filter (·.chain = chain)

/-- A record takes the last place and drops the one that had its key. -/
def putEdge (records : List EdgeRecord) (r : EdgeRecord) : List EdgeRecord :=
  records.filter (·.key ≠ r.key) ++ [r]

def saveEdges (s : Store) (records : List EdgeRecord) : Store :=
  { s with edges := records.foldl putEdge s.edges }

def saveTicks (s : Store) (pool : PoolId) (ticks : List Tick) : Store :=
  { s with ticks := s.ticks.insert pool ticks }

def setCheckpoint (s : Store) (chain : ChainId) (block : Nat) : Store :=
  { s with checkpoints := s.checkpoints.insert chain block }

def record (s : Store) (o : Observation) : Store :=
  { s with observations := s.observations ++ [o] }

end Store

end LiquidityGraph
