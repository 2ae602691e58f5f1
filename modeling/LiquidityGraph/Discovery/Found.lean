import LiquidityGraph.Pool
import LiquidityGraph.Tick.List

/-! Pools as they are found on a chain, with the state read from their contracts. -/
namespace LiquidityGraph

inductive FoundPool where
  | constantProduct (pool : Pool) (reserve0 reserve1 : Nat)
  | concentrated (pool : Pool) (fee price liquidity : Nat) (tick spacing : Int)
      (ticks : List Tick)
  deriving DecidableEq, Repr

def FoundPool.pool : FoundPool → Pool
  | .constantProduct pool .. => pool
  | .concentrated pool .. => pool

end LiquidityGraph
