import LiquidityGraph.Id
import LiquidityGraph.Tick.List

/-! Rows of stored ticks, with the liquidity as decimal text. -/
namespace LiquidityGraph

structure TickRow where
  pool : PoolId
  index : Int
  gross : String
  net : String
  deriving DecidableEq, Repr

inductive TickRowError where
  | gross (index : Int)
  | net (index : Int)
  deriving DecidableEq, Repr

def TickRowError.message : TickRowError → String
  | .gross index => "bad liquidity_gross at tick " ++ Decimal.ofInt index
  | .net index => "bad liquidity_net at tick " ++ Decimal.ofInt index

namespace TickRow

def ofTick (pool : PoolId) (t : Tick) : TickRow :=
  ⟨pool, t.index, Decimal.ofNat t.gross, Decimal.ofInt t.net⟩

def toTick (r : TickRow) : Except TickRowError Tick :=
  match Decimal.unsigned? 128 r.gross, Decimal.signed? 128 r.net with
  | none, _ => .error (.gross r.index)
  | _, none => .error (.net r.index)
  | some gross, some net => .ok ⟨r.index, gross, net⟩

end TickRow

end LiquidityGraph
