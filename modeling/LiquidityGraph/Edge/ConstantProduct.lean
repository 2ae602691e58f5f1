import LiquidityGraph.Log
import LiquidityGraph.Word

/-! One direction of a pool that keeps the product of its reserves, with a fee of 0.3 %. -/
namespace LiquidityGraph

structure ConstantProduct where
  token0 : TokenId
  token1 : TokenId
  reserve0 : Nat
  reserve1 : Nat
  zeroForOne : Bool
  deriving DecidableEq, Repr

namespace ConstantProduct

/--
`amountIn * 997 * reserveOut / (reserveIn * 1000 + amountIn * 997)`, rounded down; zero when the
numerator needs more than 512 bits, the quotient more than 256, or the denominator is zero.
-/
def amountOut (amountIn reserveIn reserveOut : Nat) : Nat :=
  let paid := amountIn * 997
  let numerator := paid * reserveOut
  let denominator := reserveIn * 1000 + paid
  let out := numerator / denominator
  if numerator < Word.size 512 ∧ out < Word.size 256 then out else 0

def pair (token0 token1 : TokenId) (reserve0 reserve1 : Nat) : ConstantProduct × ConstantProduct :=
  (⟨token0, token1, reserve0, reserve1, true⟩, ⟨token0, token1, reserve0, reserve1, false⟩)

def tokenIn (e : ConstantProduct) : TokenId := if e.zeroForOne then e.token0 else e.token1

def tokenOut (e : ConstantProduct) : TokenId := if e.zeroForOne then e.token1 else e.token0

def reserveIn (e : ConstantProduct) : Nat := if e.zeroForOne then e.reserve0 else e.reserve1

def reserveOut (e : ConstantProduct) : Nat := if e.zeroForOne then e.reserve1 else e.reserve0

def quote (e : ConstantProduct) (amountIn : Nat) : Nat :=
  amountOut amountIn e.reserveIn e.reserveOut

def sync (e : ConstantProduct) (log : Log) : Except ReadError ConstantProduct := do
  let reserve0 ← Bytes.word log.data 0
  let reserve1 ← Bytes.word log.data 1
  return { e with reserve0, reserve1 }

def spot (e : ConstantProduct) : Float := Price.quotient e.reserveOut e.reserveIn

end ConstantProduct

end LiquidityGraph
