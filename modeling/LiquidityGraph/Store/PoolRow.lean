import LiquidityGraph.Pool

/-! Rows of stored pools, in text. -/
namespace LiquidityGraph

structure PoolRow where
  pair : String
  token0 : String
  token1 : String
  factory : String
  chain : String
  status : String
  deriving DecidableEq, Repr

namespace PoolRow

def ofPool (p : Pool) : PoolRow :=
  ⟨p.id.text, p.token0.text, p.token1.text, p.factory, p.chain.text, "active"⟩

def toPool (r : PoolRow) : Pool :=
  ⟨⟨r.token0⟩, ⟨r.token1⟩, ⟨r.pair⟩, r.factory, ⟨r.chain⟩⟩

end PoolRow

end LiquidityGraph
