import LiquidityGraph.Id
import LiquidityGraph.Json.Value

/-! Routes: the hops from one token to another, and the answer to a route query. -/
namespace LiquidityGraph

/-- The bridge contracts of a token on a chain, empty for a token that is not bridged. -/
structure Mapping where
  home : String
  remote : String
  deriving DecidableEq, Repr

abbrev Mappings := TokenId → ChainId → Mapping

def Mapping.none : Mapping := ⟨"", ""⟩

structure Hop where
  tokenIn : TokenId
  pool : PoolId
  amountOut : Nat
  chain : ChainId
  tokenOut : TokenId
  mapping : Mapping
  deriving DecidableEq, Repr

def Hop.toJson (h : Hop) : Json.Value :=
  .record [("TokenIn", .str h.tokenIn.text), ("Pool", .str h.pool.text),
    ("AmountOut", .str (Decimal.ofNat h.amountOut)), ("Chain", .str h.chain.text),
    ("TokenOut", .str h.tokenOut.text), ("TokenHome", .str h.mapping.home),
    ("TokenRemote", .str h.mapping.remote)]

/-- A route for an amount; no hops mean that there is no route. -/
structure Route where
  amountIn : Nat
  hops : List Hop
  deriving DecidableEq, Repr

namespace Route

def amountOut? (r : Route) : Option Nat := r.hops.getLast?.map (·.amountOut)

def noPath : String := "no valid path found"

def toJson (r : Route) : Json.Value :=
  .record <| [("path", .array (r.hops.map Hop.toJson)),
    ("amountIn", .str (Decimal.ofNat r.amountIn))] ++
    match r.amountOut? with
    | some out => [("amountOut", .str (Decimal.ofNat out)), ("success", .bool true)]
    | none => [("amountOut", .str ""), ("success", .bool false), ("error", .str noPath)]

end Route

end LiquidityGraph
