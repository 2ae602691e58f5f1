import LiquidityGraph.Bytes
import LiquidityGraph.Id
import LiquidityGraph.Price.Approx

/-! Event logs of a chain, and the price observations that they give rise to. -/
namespace LiquidityGraph

structure Log where
  address : Address
  topics : List Nat
  data : List UInt8
  block : Option Nat
  index : Option Nat
  deriving DecidableEq, Repr

/-- The event of constant-product pools that reports their reserves. -/
def syncTopic : Nat := Keccak.ofText "Sync(uint112,uint112)"

/-- The event of concentrated-liquidity pools that reports their price. -/
def swapTopic : Nat :=
  Keccak.ofText "Swap(address,address,int256,int256,uint160,uint128,int24)"

/-- How the logs of a chain are applied; each update is priced at the reference amount. -/
structure LogContext where
  chain : ChainId
  reference : Nat
  sync : Nat
  swap : Nat
  deriving DecidableEq, Repr

def Log.hasTopic (log : Log) (topic : Nat) : Bool :=
  log.topics.head? == some topic

/-- What an edge pays out for an amount after an update. -/
structure Observation where
  tokenIn : TokenId
  tokenOut : TokenId
  chain : ChainId
  amountIn : Nat
  amountOut : Nat
  deriving DecidableEq, Repr

def Observation.price (o : Observation) : Float :=
  Price.quotient o.amountOut o.amountIn

end LiquidityGraph
