import LiquidityGraph.Price.Error
import LiquidityGraph.Word

/-! Products divided at full precision, then narrowed to 256 bits. -/
namespace LiquidityGraph.Price

def ceilDiv (n d : Nat) : Nat :=
  (n + d - 1) / d

def narrow (n : Nat) : Except PriceError Nat :=
  if n < Word.size 256 then .ok n else .error .overflow

def mulDiv (a b d : Nat) : Except PriceError Nat :=
  if d = 0 then .error .divisionByZero else narrow (a * b / d)

def mulDivUp (a b d : Nat) : Except PriceError Nat :=
  if d = 0 then .error .divisionByZero else narrow (ceilDiv (a * b) d)

def addDelta (liquidity : Nat) (delta : Int) : Except PriceError Nat :=
  match (liquidity : Int) + delta with
  | .ofNat next =>
    if next < Word.size 128 then .ok next else .error (.liquidityDelta liquidity delta)
  | .negSucc _ => .error (.liquidityDelta liquidity delta)

end LiquidityGraph.Price
