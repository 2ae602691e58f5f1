import LiquidityGraph.Price.Next

/-! One step of a swap: the price moves towards a target while the liquidity is constant. -/
namespace LiquidityGraph.Price

/-- The whole of an amount, in the unit of fees. -/
def feeUnit : Nat := 1000000

structure Step where
  next : Nat
  amountIn : Nat
  amountOut : Nat
  fee : Nat
  deriving DecidableEq, Repr

def stepInput (zeroForOne : Bool) (a b liquidity : Nat) : Except PriceError Nat :=
  if zeroForOne then amount0 a b liquidity true else amount1 a b liquidity true

def stepOutput (zeroForOne : Bool) (a b liquidity : Nat) : Except PriceError Nat :=
  if zeroForOne then amount1 a b liquidity false else amount0 a b liquidity false

/-- Spends at most `remaining`; short of the target, what the move leaves over is the fee. -/
def stepExactIn (current target liquidity remaining fee : Nat) : Except PriceError Step := do
  let zeroForOne : Bool := target ≤ current
  let complement := feeUnit - fee
  let budget ← mulDiv remaining complement feeUnit
  let full ← stepInput zeroForOne current target liquidity
  let next ← if full ≤ budget then pure target
    else nextFromInput current liquidity budget zeroForOne
  let amountIn ← if target = next then pure full
    else stepInput zeroForOne current next liquidity
  let amountOut ← stepOutput zeroForOne current next liquidity
  let feeAmount ← if next = target then mulDivUp amountIn fee complement
    else if amountIn ≤ remaining then pure (remaining - amountIn) else throw .underflow
  return ⟨next, amountIn, amountOut, feeAmount⟩

/-- Pays out at most `remaining`; the fee is added to the input that the move needs. -/
def stepExactOut (current target liquidity remaining fee : Nat) : Except PriceError Step := do
  let zeroForOne : Bool := target ≤ current
  let complement := feeUnit - fee
  let full ← stepOutput zeroForOne current target liquidity
  let next ← if full ≤ remaining then pure target
    else nextFromOutput current liquidity remaining zeroForOne
  let amountIn ← stepInput zeroForOne current next liquidity
  let amountOut ← if target = next then pure full
    else stepOutput zeroForOne current next liquidity
  let feeAmount ← mulDivUp amountIn fee complement
  return ⟨next, amountIn, min amountOut remaining, feeAmount⟩

/-- A step with a non-negative amount spends exactly, one with a negative amount earns exactly. -/
def step (current target liquidity : Nat) (remaining : Int) (fee : Nat) :
    Except PriceError Step :=
  match remaining with
  | .ofNat amount => stepExactIn current target liquidity amount fee
  | .negSucc _ => stepExactOut current target liquidity remaining.natAbs fee

end LiquidityGraph.Price
