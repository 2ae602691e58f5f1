import LiquidityGraph.Price.TickRatio
import LiquidityGraph.Word

/-! Advisory floating-point views of exact amounts; only ratios are taken from them. -/
namespace LiquidityGraph.Price

/-- A 256-bit word as a float: its 64-bit limbs are folded from the top, rounding each time. -/
def toFloat (n : Nat) : Float :=
  let limb (i : Nat) : Float := (n / Word.size (64 * i)).toUInt64.toFloat
  [3, 2, 1, 0].foldl (fun acc i => acc * 18446744073709551616.0 + limb i) 0.0

def quotient (numerator denominator : Nat) : Float :=
  if denominator = 0 then 0.0 else toFloat numerator / toFloat denominator

/-- The spot price of token 0 in token 1 at a square root price. -/
def spot (sqrtPrice : Nat) : Float :=
  let root := toFloat sqrtPrice / 79228162514264337593543950336.0
  root * root

end LiquidityGraph.Price
