import LiquidityGraph.Edge.Key

/-! Records of pools. A record is made when its pool is found and does not change. -/
namespace LiquidityGraph

/-- The tokens stand in the pool's own order. -/
structure Pool where
  token0 : TokenId
  token1 : TokenId
  id : PoolId
  factory : String
  chain : ChainId
  deriving DecidableEq, Repr

namespace Pool

/-- Where the two directions between the pool's tokens stand, under a name and on a chain. -/
def keys (p : Pool) (pool : PoolId) (chain : ChainId) : List EdgeKey :=
  [⟨p.token0, p.token1, pool, chain⟩, ⟨p.token1, p.token0, pool, chain⟩]

end Pool

end LiquidityGraph
