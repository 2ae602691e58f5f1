import LiquidityGraph.Edge.ConstantProduct
import LiquidityGraph.Edge.Swap

/-!
An edge prices one direction between two tokens, through a pool on a chain or through a bridge
between two chains. `Edge.update` is the only change to an edge; it takes over what a log says.
-/
namespace LiquidityGraph

/-- The same asset on two chains, exchanged one for one. -/
structure Bridge where
  token0 : TokenId
  token1 : TokenId
  deriving DecidableEq, Repr

inductive Edge where
  | constantProduct (edge : ConstantProduct)
  | concentrated (edge : Concentrated)
  | bridge (edge : Bridge)
  deriving DecidableEq, Repr

inductive EdgeError where
  | malformedLog (event : String) (cause : ReadError)
  | malformedSnapshot (fee : Nat) (cause : ReadError)
  | missingTicks (fee : Nat)
  | unknownFeeTier (fee : Nat)
  | ticks (error : TickError)
  deriving DecidableEq, Repr

def EdgeError.message : EdgeError → String
  | .malformedLog event cause => "malformed " ++ event ++ " log: " ++ cause.message
  | .malformedSnapshot fee cause =>
    "malformed concentrated-liquidity snapshot for fee " ++ Decimal.ofNat fee ++ ": " ++
      cause.message
  | .missingTicks fee =>
    "concentrated-liquidity snapshot for fee " ++ Decimal.ofNat fee ++ " has no tick data"
  | .unknownFeeTier fee => "fee tier " ++ Decimal.ofNat fee ++ " has no tick spacing"
  | .ticks error => error.message

namespace Edge

def kind : Edge → String
  | .constantProduct _ => "constant_product"
  | .concentrated _ => "concentrated_liquidity"
  | .bridge _ => "bridge"

def tokenIn : Edge → TokenId
  | .constantProduct e => e.tokenIn
  | .concentrated e => e.tokenIn
  | .bridge e => e.token0

def tokenOut : Edge → TokenId
  | .constantProduct e => e.tokenOut
  | .concentrated e => e.tokenOut
  | .bridge e => e.token1

/-- What the edge pays out for an amount, zero when it cannot price it. -/
def quote : Edge → Nat → Nat
  | .constantProduct e, amount => e.quote amount
  | .concentrated e, amount => e.quote amount
  | .bridge _, amount => amount

/-- A quote that can be trapped. -/
def quote? : Edge → Nat → Option Nat
  | .constantProduct e, amount => some (e.quote amount)
  | .concentrated e, amount => e.quote? amount
  | .bridge _, amount => some amount

@[simp] theorem getD_quote? (e : Edge) (amount : Nat) :
    (e.quote? amount).getD 0 = e.quote amount := by
  cases e <;> simp only [quote?, quote, Concentrated.quote, Option.getD_some]

/-- The last observed rate, zero when there is none. -/
def weight : Edge → Float
  | .concentrated e => e.weight
  | _ => 0.0

/-- The shortfall of a price against the spot price, as a fraction between zero and one. -/
def shortfall (spot price : Float) : Float :=
  let impact := 1.0 - price / spot
  let impact := if impact < 0.0 then 0.0 else impact
  if impact > 1.0 then 1.0 else impact

def impactAt (spot : Float) (quote : Nat → Nat) (amount : Nat) : Float :=
  if spot <= 0.0 || amount == 0 then 0.0
  else shortfall spot (Price.quotient (quote amount) amount)

/-- How much worse an amount is priced than a very small one. -/
def impact : Edge → Nat → Float
  | .constantProduct e, amount => impactAt e.spot e.quote amount
  | .concentrated e, amount => impactAt e.spot e.quote amount
  | .bridge _, _ => 0.0

def observe (tokenIn tokenOut : TokenId) (ctx : LogContext) (amountOut : Nat) : Observation :=
  ⟨tokenIn, tokenOut, ctx.chain, ctx.reference, amountOut⟩

/-- Applies a log; an edge that does not know its event is left as it is. -/
def update (edge : Edge) (log : Log) (ctx : LogContext) :
    Except EdgeError (Edge × Option Observation) :=
  match edge with
  | .constantProduct e =>
    if log.hasTopic ctx.sync then
      match e.sync log with
      | .error cause => .error (.malformedLog "Sync" cause)
      | .ok e =>
        .ok (.constantProduct e, some (observe e.tokenIn e.tokenOut ctx (e.quote ctx.reference)))
    else .ok (edge, none)
  | .concentrated e =>
    if log.hasTopic ctx.swap then
      match e.reprice log with
      | .error cause => .error (.malformedLog "Swap" cause)
      | .ok e =>
        let out := e.quote ctx.reference
        .ok (.concentrated { e with rate := some (out, ctx.reference) },
          some (observe e.tokenIn e.tokenOut ctx out))
    else .ok (edge, none)
  | .bridge _ => .ok (edge, none)

end Edge

end LiquidityGraph
