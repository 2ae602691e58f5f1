import LiquidityGraph.Price.TickRatio

/-!
A pool's initialized ticks as bitmap words: a tick that is `n` spacings from zero is bit
`n mod 256` of word `n / 256`.
-/
namespace LiquidityGraph.Bitmap

def wordOf (spacing tick : Int) : Int :=
  tick / spacing / 256

def wordRange (spacing : Int) : Int × Int :=
  (wordOf spacing Price.minTick, wordOf spacing Price.maxTick)

def words (spacing : Int) : List Int :=
  let (first, last) := wordRange spacing
  (List.range (last - first + 1).toNat).map fun (i : Nat) => first + i

/-- The ticks whose bits are set in a word, in ascending order. -/
def ticksIn (word : Int) (bitmap : Nat) (spacing : Int) : List Int :=
  ((List.range 256).filter bitmap.testBit).map fun (bit : Nat) => (word * 256 + bit) * spacing

end LiquidityGraph.Bitmap
