import LiquidityGraph.Word

/-! Decimal integers as text: the shortest form is written, and two reading rules are offered. -/
namespace LiquidityGraph.Decimal

def digitChar (d : Nat) : Char :=
  Char.ofNat ('0'.toNat + d)

def digit? (c : Char) : Option Nat :=
  if '0' ≤ c ∧ c ≤ '9' then some (c.toNat - '0'.toNat) else none

def digits (n : Nat) : List Char :=
  if n < 10 then [digitChar n] else digits (n / 10) ++ [digitChar (n % 10)]

/-- A one with a number of zeros behind it. -/
def unit (zeros : Nat) : Nat := Nat.pow 10 zeros

/-- The value of a run of digits; the empty run is zero. -/
def value? (cs : List Char) : Option Nat :=
  cs.foldlM (fun n c => (digit? c).map (10 * n + ·)) 0

def ofNat (n : Nat) : String :=
  String.ofList (digits n)

def ofInt (i : Int) : String :=
  if i < 0 then String.ofList ('-' :: digits i.natAbs) else ofNat i.natAbs

/-- Reads an unsigned word written in digits alone, the empty text being zero. -/
def word? (bits : Nat) (s : String) : Option Nat :=
  (value? s.toList).filter (· < Word.size bits)

def run? (cs : List Char) : Option Nat :=
  if cs.isEmpty then none else value? cs

/-- Reads an unsigned word: a plus sign is allowed and a digit is required. -/
def unsigned? (bits : Nat) (s : String) : Option Nat :=
  (match s.toList with
    | '+' :: r => run? r
    | cs => run? cs).filter (· < Word.size bits)

/-- Reads a two's complement word: a sign is allowed and a digit is required. -/
def signed? (bits : Nat) (s : String) : Option Int :=
  (match s.toList with
    | '+' :: r => (run? r).map Int.ofNat
    | '-' :: r => (run? r).map (fun n => -Int.ofNat n)
    | cs => (run? cs).map Int.ofNat).bind (Word.signed? bits)

end LiquidityGraph.Decimal
