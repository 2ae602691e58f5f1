import LiquidityGraph.Record
import LiquidityGraph.Text.Blank
import LiquidityGraph.Text.Shortest
import LiquidityGraph.Word

/-!
Values of a configuration. They come from files and from variables, where a number may be written
as text and text as a number, so that scalars are converted to what a field needs.
-/
namespace LiquidityGraph.Config

/-- The keys of a table are distinct. -/
inductive Value where
  | nil
  | bool (value : Bool)
  | int (value : Int)
  | float (value : Float)
  | text (value : String)
  | list (items : List Value)
  | table (entries : List (String × Value))
  deriving Inhabited

namespace Value

def empty : Value := .table []

def text? : Value → Option String
  | .bool b => some (if b then "true" else "false")
  | .int i => some (Decimal.ofInt i)
  | .float x => some (Shortest.ofFloat x)
  | .text s => some s
  | _ => none

def wordOfText? (s : String) : Option Nat :=
  let word := Text.lowerAscii s
  if ["true", "on", "yes"].contains word then some 1
  else if ["false", "off", "no"].contains word then some 0
  else Decimal.unsigned? 64 s

def word? : Value → Option Nat
  | .bool b => some b.toNat
  | .int i => if 0 ≤ i then some i.toNat else none
  | .float x => some (Binary64.toWord x)
  | .text s => wordOfText? s
  | _ => none

/-- Shorter words drop the high bits. -/
instance : Format Value where
  text? := text?
  natural? bits v := v.word?.map (· % Word.size bits)
  isNull
    | .nil => true
    | _ => false
  items?
    | .list items => some items
    | _ => none
  members?
    | .table entries => some (entries.map fun (k, v) => (some k, v))
    | _ => none
  exact := false

end Value

end LiquidityGraph.Config
