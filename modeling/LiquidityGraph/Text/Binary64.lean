import LiquidityGraph.Text.Decimal

/-!
Binary floating-point numbers of 64 bits as exact binary fractions, and the nearest of them to an
exact quotient.
-/
namespace LiquidityGraph.Binary64

inductive Reading where
  | nan
  | infinite (negative : Bool)
  /-- `mantissa · 2 ^ exponent` -/
  | finite (negative : Bool) (mantissa : Nat) (exponent : Int)

def smallestExponent : Int := -1074

def read (x : Float) : Reading :=
  let bits := x.toBits.toNat
  let negative := Word.size 63 ≤ bits
  let exponent : Nat := bits / Word.size 52 % Word.size 11
  let fraction := bits % Word.size 52
  if exponent = 2047 then (if fraction = 0 then .infinite negative else .nan)
  else if exponent = 0 then .finite negative fraction smallestExponent
  else .finite negative (Word.size 52 + fraction) ((exponent : Int) - 1075)

/-- The quotient rounded to the nearest integer, a tie going to the even one. -/
def divEven (n d : Nat) : Nat :=
  let q := n / d
  let r := n % d
  if 2 * r < d ∨ (2 * r = d ∧ q % 2 = 0) then q else q + 1

def scaled (n d : Nat) (exponent : Int) : Nat × Nat :=
  (n * Word.size (-exponent).toNat, d * Word.size exponent.toNat)

/-- The exponent with which a quotient has a mantissa of 53 bits, or the smallest one. -/
def exponentOf (n d : Nat) : Int :=
  let guess : Int := (n.log2 : Int) - d.log2 - 53
  let (a, b) := scaled n d guess
  if n = 0 then smallestExponent
  else max smallestExponent (if a / b < Word.size 53 then guess else guess + 1)

def bits? (n d : Nat) : Option Nat :=
  let exponent := exponentOf n d
  let (a, b) := scaled n d exponent
  let bits := (exponent - smallestExponent).toNat * Word.size 52 + divEven a b
  if bits < 2047 * Word.size 52 then some bits else none

def ofQuotient? (negative : Bool) (n d : Nat) : Option Float :=
  (bits? n d).map fun bits =>
    Float.ofBits (UInt64.ofNat (if negative then Word.size 63 + bits else bits))

/-- The number nearest to `digits · 10 ^ exponent`; beyond 400 places it is too large or zero. -/
def ofDecimal? (negative : Bool) (digits : Nat) (exponent : Int) : Option Float :=
  let places : Int := Nat.log2 digits / 3
  if digits = 0 ∨ places + exponent < -400 then ofQuotient? negative 0 1
  else if 400 < exponent then none
  else ofQuotient? negative (digits * Decimal.unit exponent.toNat)
    (Decimal.unit (-exponent).toNat)

def roundHalfUp (mantissa : Nat) (exponent : Int) : Nat :=
  let (a, b) := scaled mantissa 1 (-exponent)
  (2 * a + b) / (2 * b)

/-- The nearest unsigned word of 64 bits; what is below zero or no number becomes zero. -/
def toWord (x : Float) : Nat :=
  match read x with
  | .nan => 0
  | .infinite negative => if negative then 0 else Word.size 64 - 1
  | .finite negative m e => if negative then 0 else min (roundHalfUp m e) (Word.size 64 - 1)

end LiquidityGraph.Binary64
