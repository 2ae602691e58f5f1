import LiquidityGraph.Discovery.Findings
import LiquidityGraph.Store.Access
import Std.Data.ExtTreeSet

/-! Findings saved to a store. -/
namespace LiquidityGraph

structure PoolStore (m : Type → Type) where
  loadPools : ChainId → m (List Pool)
  savePool : Pool → m Unit
  saveEdges : List EdgeRecord → m Unit

def Access.poolStore : PoolStore Access := ⟨loadPools, savePool, saveEdges⟩

namespace Findings

def chains (f : Findings) : List ChainId :=
  (Std.ExtTreeSet.ofList (f.pools.values.map (·.chain))).toList

def records (f : Findings) : List EdgeRecord :=
  f.edges.toList.map fun (key, edge) => EdgeRecord.ofEdge key edge

/-- Saves pools, then edges, and returns how many pools the store did not know before. -/
def persistTo {m : Type → Type} [Monad m] (store : PoolStore m) (f : Findings) : m Nat := do
  let known ← f.chains.mapM store.loadPools
  let ids := known.flatten.map (·.id)
  let pools := f.pools.values
  pools.forM store.savePool
  store.saveEdges f.records
  return (pools.filter fun p => !ids.contains p.id).length

def persist (f : Findings) : Access Nat := f.persistTo Access.poolStore

end Findings

end LiquidityGraph
