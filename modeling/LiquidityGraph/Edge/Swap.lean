import LiquidityGraph.Edge.Concentrated
import LiquidityGraph.Price.Step
import LiquidityGraph.Word

/-!
A swap through a concentrated-liquidity pool: the price moves from tick to tick, and the
liquidity changes where an initialized tick is crossed, until the amount is used up or the
price limit is reached.
-/
namespace LiquidityGraph

/-- A swap is trapped where an operation that nothing checks leaves its type. That is not returned
to a caller as the other failures are: it ends the program. -/
inductive SwapError where
  | limitTooLow
  | limitTooHigh
  | price (error : PriceError)
  | trapped
  deriving DecidableEq, Repr

def SwapError.message : SwapError → String
  | .limitTooLow => "SqrtPriceLimitX96 too low"
  | .limitTooHigh => "SqrtPriceLimitX96 too high"
  | .price error => error.message
  | .trapped => "attempt to negate with overflow"

instance : MonadLift (Except PriceError) (Except SwapError) := ⟨Except.mapError .price⟩

namespace Swap

structure Terms where
  zeroForOne : Bool
  exactInput : Bool
  limit : Nat
  fee : Nat
  ticks : TickList

structure State where
  remaining : Int
  calculated : Int
  price : Nat
  tick : Int
  liquidity : Nat
  deriving DecidableEq, Repr

/-- Neither the amount nor the way to the limit is used up. -/
def Terms.live (t : Terms) (s : State) : Bool :=
  s.remaining != 0 && s.price != t.limit

def signed (n : Nat) : Except PriceError Int :=
  if n < Word.size 255 then .ok n else .error .overflow

def checked (i : Int) : Except PriceError Int :=
  match Word.signed? 256 i with
  | some v => .ok v
  | none => .error .overflow

/-- Books a step: input counts up and output counts down. -/
def Terms.book (t : Terms) (s : State) (step : Price.Step) : Except PriceError (Int × Int) := do
  if t.exactInput then
    let remaining ← checked (s.remaining - (← signed (step.amountIn + step.fee)))
    let calculated ← checked (s.calculated - (← signed step.amountOut))
    return (remaining, calculated)
  else
    let remaining ← checked (s.remaining + (← signed step.amountOut))
    let calculated ← checked (s.calculated + (← signed (step.amountIn + step.fee)))
    return (remaining, calculated)

/-- The net change of liquidity at a tick, in the direction of the swap. Nothing checks the
negation, which traps the swap where it does not fit. -/
def Terms.crossing (t : Terms) (tick : Int) : Except SwapError Int :=
  let net := (t.ticks.get tick).net
  if t.zeroForOne then
    match Word.signed? 128 (-net) with
    | some delta => .ok delta
    | none => .error .trapped
  else .ok net

def Terms.cross (t : Terms) (liquidity : Nat) (tick : Int) : Except SwapError Nat := do
  let delta ← t.crossing tick
  Price.addDelta liquidity delta

def Terms.advance (t : Terms) (s : State) : Except SwapError State := do
  let (found, initialized) := t.ticks.next s.tick t.zeroForOne t.ticks.spacing
  let tickNext := max Price.minTick (min found Price.maxTick)
  let priceNext ← Price.ratioAt tickNext
  let target := if t.zeroForOne then max priceNext t.limit else min priceNext t.limit
  let step ← Price.step s.price target s.liquidity s.remaining t.fee
  let (remaining, calculated) ← t.book s step
  if step.next = priceNext then
    let liquidity ← if initialized then t.cross s.liquidity tickNext else pure s.liquidity
    let tick := if t.zeroForOne then tickNext - 1 else tickNext
    return ⟨remaining, calculated, step.next, tick, liquidity⟩
  else
    let tick ← if step.next = s.price then pure s.tick else Price.tickAt step.next
    return ⟨remaining, calculated, step.next, tick, s.liquidity⟩

def Terms.run (t : Terms) : Nat → State → Except SwapError State
  | 0, s => .ok s
  | fuel + 1, s => if t.live s then t.advance s >>= t.run fuel else .ok s

/-- More advances than there are ticks: each one that goes on moves to another tick. -/
def maxAdvances : Nat := (Price.maxTick - Price.minTick).toNat + 4

/-- The limit must lie ahead of the price and inside the supported range. -/
def checkLimit (zeroForOne : Bool) (price limit : Nat) : Except SwapError Unit :=
  if zeroForOne then
    if limit ≤ Price.minRatio then .error .limitTooLow
    else if price ≤ limit then .error .limitTooHigh
    else .ok ()
  else if Price.maxRatio ≤ limit then .error .limitTooHigh
  else if limit ≤ price then .error .limitTooLow
  else .ok ()

def defaultLimit (zeroForOne : Bool) : Nat :=
  if zeroForOne then Price.minRatio + 1 else Price.maxRatio - 1

end Swap

namespace Concentrated

/-- Swaps a signed amount, positive as exact input and negative as exact output. -/
def swap (e : Concentrated) (zeroForOne : Bool) (amount : Int) (limit : Option Nat) :
    Except SwapError Swap.State := do
  let limit := limit.getD (Swap.defaultLimit zeroForOne)
  Swap.checkLimit zeroForOne e.price limit
  let terms : Swap.Terms := ⟨zeroForOne, 0 ≤ amount, limit, e.fee, e.ticks⟩
  terms.run Swap.maxAdvances ⟨amount, 0, e.price, e.tick, e.liquidity⟩

/-- The output for an exact input, zero when the swap fails, and none when it is trapped. -/
def quote? (e : Concentrated) (amountIn : Nat) : Option Nat :=
  if amountIn < Word.size 255 then
    match e.swap e.zeroForOne amountIn none with
    | .ok s => some (-s.calculated).toNat
    | .error .trapped => none
    | .error _ => some 0
  else some 0

/-- A trapped quote counts as nothing paid. -/
def quote (e : Concentrated) (amountIn : Nat) : Nat := (e.quote? amountIn).getD 0

end Concentrated

end LiquidityGraph
