import LiquidityGraph.Edge.Basic
import LiquidityGraph.Json.Reader
import LiquidityGraph.Record

/-!
The stored form of an edge. The ticks of a concentrated-liquidity pool are stored once for the
pool, so that its snapshot does not hold them.
-/
namespace LiquidityGraph

structure ConcentratedState where
  token0 : TokenId
  token1 : TokenId
  price : Nat
  liquidity : Nat
  tick : Int
  fee : Nat
  zeroForOne : Bool
  deriving DecidableEq, Repr

inductive Snapshot where
  | constantProduct (edge : ConstantProduct)
  | concentrated (state : ConcentratedState)
  | bridge (edge : Bridge)
  deriving DecidableEq, Repr

namespace Snapshot

def token (t : TokenId) : Json.Value := .str t.text

def word (n : Nat) : Json.Value := .str (Decimal.ofNat n)

def toJson : Snapshot → Json.Value
  | .constantProduct e => .record [("constant_product", .record [
      ("token0", token e.token0), ("token1", token e.token1),
      ("reserve0", word e.reserve0), ("reserve1", word e.reserve1),
      ("zeroForOne", .bool e.zeroForOne)])]
  | .concentrated s => .record [("concentrated_liquidity", .record [
      ("token0", token s.token0), ("token1", token s.token1),
      ("sqrtRatioX96", word s.price), ("liquidity", word s.liquidity),
      ("tickCurrent", .int s.tick), ("fee", .nat s.fee), ("zeroForOne", .bool s.zeroForOne)])]
  | .bridge e => .record [("bridge", .record [
      ("token0", token e.token0), ("token1", token e.token1)])]

def render (s : Snapshot) : String := s.toJson.compactText

def token? (v : Json.Value) : Option TokenId := (Format.text? v).map TokenId.mk

def constantProduct? (v : Json.Value) : Option ConstantProduct := do
  let r ← Record.read? ["token0", "token1", "reserve0", "reserve1", "zeroForOne"] v
  return {
    token0 := ← r.need "token0" token?
    token1 := ← r.need "token1" token?
    reserve0 := ← r.need "reserve0" Record.word?
    reserve1 := ← r.need "reserve1" Record.word?
    zeroForOne := ← r.need "zeroForOne" Json.Value.flag? }

def concentrated? (v : Json.Value) : Option ConcentratedState := do
  let r ← Record.read?
    ["token0", "token1", "sqrtRatioX96", "liquidity", "tickCurrent", "fee", "zeroForOne"] v
  return {
    token0 := ← r.need "token0" token?
    token1 := ← r.need "token1" token?
    price := ← r.need "sqrtRatioX96" Record.word?
    liquidity := ← r.need "liquidity" Record.uint128?
    tick := ← r.need "tickCurrent" (Json.Value.integer? 32)
    fee := ← r.need "fee" (Format.natural? 32)
    zeroForOne := ← r.need "zeroForOne" Json.Value.flag? }

def bridge? (v : Json.Value) : Option Bridge := do
  let r ← Record.read? ["token0", "token1"] v
  return { token0 := ← r.need "token0" token?, token1 := ← r.need "token1" token? }

/-- An object with one member, named for the kind of edge. -/
def ofJson? : Json.Value → Option Snapshot
  | .object [(some "constant_product", v)] => (constantProduct? v).map .constantProduct
  | .object [(some "concentrated_liquidity", v)] => (concentrated? v).map .concentrated
  | .object [(some "bridge", v)] => (bridge? v).map .bridge
  | _ => none

def parse? (s : String) : Option Snapshot := (Json.read? s).bind ofJson?

end Snapshot

def Concentrated.state (e : Concentrated) : ConcentratedState :=
  ⟨e.token0, e.token1, e.price, e.liquidity, e.tick, e.fee, e.zeroForOne⟩

def Concentrated.ofState (s : ConcentratedState) (ticks : TickList) :
    Except EdgeError Concentrated :=
  match tickInRange s.tick with
  | .error cause => .error (.malformedSnapshot s.fee cause)
  | .ok tick =>
    .ok ⟨s.token0, s.token1, s.fee, s.price, s.liquidity, tick, ticks, s.zeroForOne, none⟩

namespace Edge

def snapshot : Edge → Snapshot
  | .constantProduct e => .constantProduct e
  | .concentrated e => .concentrated e.state
  | .bridge e => .bridge e

/-- Without known ticks, only a pool without liquidity in a standard fee tier can be priced. -/
def ticksFor (s : ConcentratedState) : Option TickList → Except EdgeError TickList
  | some ticks => .ok ticks
  | none =>
    match Price.spacingOfFee s.fee with
    | none => .error (.unknownFeeTier s.fee)
    | some spacing =>
      if s.liquidity ≠ 0 then .error (.missingTicks s.fee)
      else (TickList.empty spacing).mapError .ticks

def ofSnapshot (s : Snapshot) (ticks : Option TickList) : Except EdgeError Edge :=
  match s with
  | .constantProduct e => .ok (.constantProduct e)
  | .bridge e => .ok (.bridge e)
  | .concentrated s => do
    let ticks ← ticksFor s ticks
    return .concentrated (← Concentrated.ofState s ticks)

end Edge

end LiquidityGraph
