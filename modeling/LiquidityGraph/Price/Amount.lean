import LiquidityGraph.Price.MulDiv
import LiquidityGraph.Price.TickRatio

/-! Token amounts held between two square root prices by a constant liquidity. -/
namespace LiquidityGraph.Price

/-- The amount of token 0 between two prices: `liquidity * 2^96 * (b - a) / (a * b)`. -/
def amount0 (a b liquidity : Nat) (roundUp : Bool) : Except PriceError Nat :=
  let low := min a b
  let high := max a b
  if low = 0 then .error .zeroPrice
  else if roundUp then do
    let inner ← mulDivUp (liquidity * q96) (high - low) high
    mulDivUp inner 1 low
  else do
    let inner ← mulDiv (liquidity * q96) (high - low) high
    return inner / low

/-- The amount of token 1 between two prices: `liquidity * (b - a) / 2^96`. -/
def amount1 (a b liquidity : Nat) (roundUp : Bool) : Except PriceError Nat :=
  let delta := max a b - min a b
  if roundUp then mulDivUp liquidity delta q96 else mulDiv liquidity delta q96

end LiquidityGraph.Price
