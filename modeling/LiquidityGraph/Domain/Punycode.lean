import LiquidityGraph.Word

/-!
Text in which the characters outside ASCII are spelled by letters and digits behind the others:
numbers tell how far each one is from the one before it, by code point first and then by place.
The digits of a number have weights that follow the size of the numbers so far.
-/
namespace LiquidityGraph.Domain.Punycode

def digit? (c : Char) : Option Nat :=
  if 'a' ≤ c ∧ c ≤ 'z' then some (c.toNat - 'a'.toNat)
  else if '0' ≤ c ∧ c ≤ '9' then some (c.toNat - '0'.toNat + 26)
  else none

/-- A digit below this ends its number; the number's digits are counted in steps of 36. -/
def threshold (bias count : Nat) : Nat :=
  max 1 (min 26 (count - bias))

def sum? (bias : Nat) : Nat → Nat → Nat → List Char → Option (Nat × List Char)
  | _, _, _, [] => none
  | count, weight, n, c :: rest => do
    let d ← digit? c
    let n := n + d * weight
    guard (n < Word.size 32)
    let t := threshold bias count
    if d < t then return (n, rest)
    else
      guard (weight * (36 - t) < Word.size 32)
      sum? bias (count + 36) (weight * (36 - t)) n rest

/-- Each division by 35 adds the number of digits to the bias. -/
def settle (bias n : Nat) : Nat :=
  if 455 < n then settle (bias + 36) (n / 35) else bias + 36 * n / (n + 38)
termination_by n
decreasing_by exact Nat.div_lt_self (by omega) (by omega)

def adapt (first : Bool) (n length : Nat) : Nat :=
  let n := if first then n / 700 else n / 2
  settle 0 (n + n / length)

/--
Inserts the characters that digits spell, from a code point, a bias and a place on. The fuel is
the number of digits.
-/
def insert? : Nat → Nat → Nat → Nat → List Char → List Char → Option (List Char)
  | _, _, _, _, text, [] => some text
  | 0, _, _, _, _, _ => none
  | fuel + 1, point, bias, n, text, digits => do
    let (m, rest) ← sum? bias 36 1 n digits
    let length := text.length + 1
    let point := point + m / length
    guard (point.isValidChar)
    let place := m % length
    let text := text.take place ++ Char.ofNat point :: text.drop place
    insert? fuel point (adapt (n == 0) (m - n) length) (place + 1) text rest

/-- Decodes lower-case text. The last hyphen, if there is one, ends a part that is not empty. -/
def decode? (cs : List Char) : Option (List Char) :=
  let digits := (cs.reverse.takeWhile (· != '-')).reverse
  let plain := cs.take (cs.length - digits.length)
  if plain == ['-'] then none
  else insert? digits.length 128 72 0 plain.dropLast digits

end LiquidityGraph.Domain.Punycode
