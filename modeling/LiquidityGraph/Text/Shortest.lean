import LiquidityGraph.Text.Binary64
import LiquidityGraph.Text.Decimal

/-!
The shortest decimal text of a floating-point number: of the decimals that round to it those with
the fewest digits, of these the nearest, written without an exponent.
-/
namespace LiquidityGraph.Shortest

/-- A number and the ends of the interval that rounds to it, over one denominator. -/
structure Interval where
  low : Nat
  mid : Nat
  high : Nat
  denominator : Nat
  /-- Whether the ends round to the number too. -/
  closed : Bool

/--
The neighbours of `m · 2 ^ e` are half a unit away, but a quarter below a power of two that is
not the smallest; in quarters of a unit.
-/
def intervalOf (m : Nat) (e : Int) : Interval :=
  let below := if m = Word.size 52 ∧ Binary64.smallestExponent < e then 1 else 2
  let up := Word.size (e - 2).toNat
  let down := Word.size (2 - e).toNat
  ⟨(4 * m - below) * up, 4 * m * up, (4 * m + 2) * up, down, m % 2 = 0⟩

namespace Interval

def inUnits (i : Interval) (scale : Int) : Interval :=
  let up := Decimal.unit (-scale).toNat
  ⟨i.low * up, i.mid * up, i.high * up, i.denominator * Decimal.unit scale.toNat, i.closed⟩

def contains (i : Interval) (d : Nat) : Bool :=
  let p := d * i.denominator
  if i.closed then i.low ≤ p && p ≤ i.high else i.low < p && p < i.high

/-- The integer in the interval that is nearest to its number, the larger of two. -/
def integer? (i : Interval) : Option Nat :=
  let d := i.mid / i.denominator
  let r := i.mid % i.denominator
  if i.contains (d + 1) && (!i.contains d || i.denominator ≤ 2 * r) then some (d + 1)
  else if i.contains d then some d
  else none

end Interval

/-- Every power of ten that the digits of a number can end at, the largest first. -/
def scales : List Int :=
  (List.range 635).map fun (k : Nat) => 309 - (k : Int)

def decimal (m : Nat) (e : Int) : Nat × Int :=
  let i := intervalOf m e
  (scales.findSome? fun s => (i.inUnits s).integer?.map (·, s)).getD (0, 0)

/-- The number `digits · 10 ^ scale` with a point where one is needed. -/
def positional (digits : Nat) (scale : Int) : List Char :=
  let cs := Decimal.digits digits
  if 0 ≤ scale then cs ++ List.replicate scale.toNat '0'
  else
    let places := (-scale).toNat
    let padded := List.replicate (places + 1 - cs.length) '0' ++ cs
    let whole := padded.length - places
    padded.take whole ++ '.' :: padded.drop whole

def signed (negative : Bool) (cs : List Char) : String :=
  String.ofList (if negative then '-' :: cs else cs)

def ofFloat (x : Float) : String :=
  match Binary64.read x with
  | .nan => "NaN"
  | .infinite negative => signed negative ['i', 'n', 'f']
  | .finite negative m e =>
    if m = 0 then signed negative ['0']
    else
      let (digits, scale) := decimal m e
      signed negative (positional digits scale)

end LiquidityGraph.Shortest
