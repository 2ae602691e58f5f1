import LiquidityGraph.Text.Decimal

/-! The ways in which price arithmetic can fail. -/
namespace LiquidityGraph

inductive PriceError where
  | divisionByZero
  | overflow
  | underflow
  | tickOutOfBounds (tick : Int)
  | priceOutOfBounds (price : Nat)
  | zeroLiquidity
  | zeroPrice
  | priceOverflow
  | liquidityDelta (liquidity : Nat) (delta : Int)
  deriving DecidableEq, Repr

def PriceError.message : PriceError → String
  | .divisionByZero => "division by zero"
  | .overflow => "result does not fit in 256 bits"
  | .underflow => "arithmetic underflow"
  | .tickOutOfBounds tick => "tick " ++ Decimal.ofInt tick ++ " outside [-887272, 887272]"
  | .priceOutOfBounds price =>
    "sqrt price " ++ Decimal.ofNat price ++ " outside [MIN_SQRT_RATIO, MAX_SQRT_RATIO)"
  | .zeroLiquidity => "liquidity is zero"
  | .zeroPrice => "sqrt price is zero"
  | .priceOverflow => "next sqrt price leaves the representable range"
  | .liquidityDelta liquidity delta =>
    "liquidity delta " ++ Decimal.ofInt delta ++ " cannot be applied to " ++
      Decimal.ofNat liquidity

end LiquidityGraph
