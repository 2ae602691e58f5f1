import LiquidityGraph.Log
import LiquidityGraph.Tick.List

/-! One direction of a concentrated-liquidity pool. -/
namespace LiquidityGraph

/-- The tokens stand in the pool's order; `rate` is the last observed amount out and in. -/
structure Concentrated where
  token0 : TokenId
  token1 : TokenId
  fee : Nat
  price : Nat
  liquidity : Nat
  tick : Int
  ticks : TickList
  zeroForOne : Bool
  rate : Option (Nat × Nat)
  deriving DecidableEq, Repr

namespace Concentrated

/-- The direction from `a` to `b`, whichever of them comes first in the pool's order. -/
def between (a b : TokenId) (fee price liquidity : Nat) (tick : Int) (ticks : TickList) :
    Concentrated :=
  if a.sortsBefore b then ⟨a, b, fee, price, liquidity, tick, ticks, true, none⟩
  else ⟨b, a, fee, price, liquidity, tick, ticks, false, none⟩

def pair (a b : TokenId) (fee price liquidity : Nat) (tick : Int) (ticks : TickList) :
    Concentrated × Concentrated :=
  (between a b fee price liquidity tick ticks, between b a fee price liquidity tick ticks)

def tokenIn (e : Concentrated) : TokenId := if e.zeroForOne then e.token0 else e.token1

def tokenOut (e : Concentrated) : TokenId := if e.zeroForOne then e.token1 else e.token0

/-- The tick, when the price arithmetic supports it. -/
def tickInRange (tick : Int) : Except ReadError Int :=
  if Price.minTick ≤ tick ∧ tick ≤ Price.maxTick then .ok tick else .error (.tickOutOfRange tick)

def reprice (e : Concentrated) (log : Log) : Except ReadError Concentrated := do
  let price ← Bytes.word log.data 2
  let liquidity ← Bytes.toUInt128 (← Bytes.word log.data 3)
  let tick ← tickInRange (← Bytes.toInt32 (← Bytes.signedWord log.data 4))
  return { e with price, liquidity, tick }

/-- The price of the input token in the output token. -/
def spot (e : Concentrated) : Float :=
  let price := Price.spot e.price
  if e.zeroForOne then price else if price > 0.0 then 1.0 / price else 0.0

def weight (e : Concentrated) : Float :=
  match e.rate with
  | some (out, reference) => Price.quotient out reference
  | none => 0.0

end Concentrated

end LiquidityGraph
