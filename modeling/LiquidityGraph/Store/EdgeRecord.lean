import LiquidityGraph.Edge.Key
import LiquidityGraph.Edge.Snapshot

/-! Rows of stored edges: the key of an edge, and its snapshot as text. -/
namespace LiquidityGraph

structure EdgeRecord where
  key : EdgeKey
  data : String
  deriving DecidableEq, Repr

namespace EdgeRecord

def ofEdge (key : EdgeKey) (edge : Edge) : EdgeRecord :=
  ⟨key, edge.snapshot.render⟩

def snapshot? (r : EdgeRecord) : Option Snapshot :=
  Snapshot.parse? r.data

end EdgeRecord

end LiquidityGraph
