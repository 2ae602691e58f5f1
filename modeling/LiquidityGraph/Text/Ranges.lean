import LiquidityGraph.Text.Hex
import LiquidityGraph.Text.Parts

/-!
Sets of characters, written as words with blanks between them. A word is a code point in
hexadecimal, or a first and a last one with a hyphen between them.
-/
namespace LiquidityGraph.Text

/-- Ranges of code points, each with a first and a last one. -/
abbrev Ranges := List (Nat × Nat)

namespace Ranges

def ofWord (word : List Char) : Nat × Nat :=
  let ends := (parts '-' word).map Hex.value
  (ends.head?.getD 0, ends.getLast?.getD 0)

def ofLine (line : String) : Ranges :=
  (parts ' ' line.toList).map ofWord

def ofLines (lines : List String) : Ranges :=
  lines.flatMap ofLine

def contains (ranges : Ranges) (c : Char) : Bool :=
  ranges.any fun (first, last) => first ≤ c.toNat && c.toNat ≤ last

end Ranges

end LiquidityGraph.Text
