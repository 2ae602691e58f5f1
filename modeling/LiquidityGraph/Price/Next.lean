import LiquidityGraph.Price.Amount
import LiquidityGraph.Word

/-! The square root price after a token amount enters or leaves a constant liquidity. -/
namespace LiquidityGraph.Price

/-- Adds token 0, rounding the price up; a sum beyond 256 bits is divided at lower precision. -/
def add0 (price liquidity amount : Nat) : Except PriceError Nat :=
  let numerator := liquidity * q96
  let denominator := numerator + amount * price
  if amount = 0 then .ok price
  else if denominator < Word.size 256 then mulDivUp numerator price denominator
  else narrow (ceilDiv numerator (numerator / price + amount))

def remove0 (price liquidity amount : Nat) : Except PriceError Nat :=
  let numerator := liquidity * q96
  if amount = 0 then .ok price
  else if numerator ≤ amount * price then .error .priceOverflow
  else mulDivUp numerator price (numerator - amount * price)

def add1 (price liquidity amount : Nat) : Except PriceError Nat := do
  let rise ← mulDiv amount q96 liquidity
  if price + rise < Word.size 256 then return price + rise else throw .priceOverflow

def remove1 (price liquidity amount : Nat) : Except PriceError Nat := do
  let fall ← mulDivUp amount q96 liquidity
  if price ≤ fall then throw .priceOverflow else return price - fall

/-- The price after `amount` of the input token has been paid in. -/
def nextFromInput (price liquidity amount : Nat) (zeroForOne : Bool) : Except PriceError Nat :=
  if price = 0 then .error .zeroPrice
  else if liquidity = 0 then .error .zeroLiquidity
  else if zeroForOne then add0 price liquidity amount
  else add1 price liquidity amount

/-- The price after `amount` of the output token has been paid out. -/
def nextFromOutput (price liquidity amount : Nat) (zeroForOne : Bool) : Except PriceError Nat :=
  if price = 0 then .error .zeroPrice
  else if liquidity = 0 then .error .zeroLiquidity
  else if zeroForOne then remove1 price liquidity amount
  else remove0 price liquidity amount

end LiquidityGraph.Price
