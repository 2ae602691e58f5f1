import LiquidityGraph.Text.Decimal
import LiquidityGraph.Word

/-!
The initialized ticks of a pool, in ascending order. A price that crosses a tick changes the
liquidity by the tick's net; a search moves from tick to tick within words of 256 spacings.
-/
namespace LiquidityGraph

structure Tick where
  index : Int
  gross : Nat
  net : Int
  deriving DecidableEq, Repr

inductive TickError where
  | invalidSpacing (spacing : Int)
  | notOnSpacing (index spacing : Int)
  | repeated (index : Int)
  | nonZeroNet (net : Int)
  deriving DecidableEq, Repr

def TickError.message : TickError → String
  | .invalidSpacing spacing => "tick spacing must be positive, got " ++ Decimal.ofInt spacing
  | .notOnSpacing index spacing =>
    "tick " ++ Decimal.ofInt index ++ " is not a multiple of spacing " ++ Decimal.ofInt spacing
  | .repeated index =>
    "ticks are not sorted and unique around index " ++ Decimal.ofInt index
  | .nonZeroNet net =>
    "liquidity net of all ticks sums to " ++ Decimal.ofInt net ++ ", expected zero"

structure TickList where
  spacing : Int
  ticks : List Tick
  deriving DecidableEq, Repr

namespace TickList

/-- Walks ticks in order behind `previous`; the nets are summed up with saturation. -/
def check (spacing : Int) : Option Int → Int → List Tick → Except TickError Unit
  | _, sum, [] => if sum = 0 then .ok () else .error (.nonZeroNet sum)
  | previous, sum, t :: ts =>
    if t.index % spacing ≠ 0 then .error (.notOnSpacing t.index spacing)
    else if previous = some t.index then .error (.repeated t.index)
    else check spacing (some t.index) (Word.saturate 128 (sum + t.net)) ts

/-- Accepts ticks in any order. -/
def ofList (ticks : List Tick) (spacing : Int) : Except TickError TickList := do
  if spacing ≤ 0 then throw (.invalidSpacing spacing)
  let sorted := ticks.mergeSort fun a b => a.index ≤ b.index
  check spacing none 0 sorted
  return ⟨spacing, sorted⟩

def empty (spacing : Int) : Except TickError TickList :=
  ofList [] spacing

/-- The tick at an index, which is zero when it is not initialized. -/
def get (l : TickList) (index : Int) : Tick :=
  (l.ticks.find? (·.index == index)).getD ⟨index, 0, 0⟩

def lastUpTo (l : TickList) (index : Int) : Option Tick :=
  (l.ticks.takeWhile (·.index ≤ index)).getLast?

def firstAbove (l : TickList) (index : Int) : Option Tick :=
  (l.ticks.dropWhile (·.index ≤ index)).head?

/-- The lowest tick of the word that holds `tick`. -/
def wordStart (spacing tick : Int) : Int :=
  Word.saturate 32 (tick / spacing / 256 * 256 * spacing)

/-- The last tick before the word behind the one that holds the spacing after `tick`. -/
def wordEnd (spacing tick : Int) : Int :=
  Word.saturate 32 (((tick / spacing + 1) / 256 + 1) * 256 * spacing - 1)

/-- The next tick down from and including `tick`, or up from it, and whether it is initialized. -/
def next (l : TickList) (tick : Int) (down : Bool) (spacing : Int) : Int × Bool :=
  if down then
    let bound := wordStart spacing tick
    match l.lastUpTo tick with
    | some t => if bound ≤ t.index then (t.index, true) else (bound, false)
    | none => (bound, false)
  else
    let bound := wordEnd spacing tick
    match l.firstAbove tick with
    | some t => if t.index ≤ bound then (t.index, true) else (bound, false)
    | none => (bound, false)

end TickList

end LiquidityGraph
