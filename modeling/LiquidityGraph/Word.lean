/-! Machine words: exact integers read from, and narrowed to, a fixed number of bits. -/
namespace LiquidityGraph.Word

def size (bits : Nat) : Nat := Nat.pow 2 bits

/-- The integer as an unsigned word, when it fits. -/
def unsigned? (bits : Nat) (i : Int) : Option Nat :=
  if 0 ≤ i ∧ i < size bits then some i.toNat else none

/-- The integer as a two's complement word, when it fits. -/
def signed? (bits : Nat) (i : Int) : Option Int :=
  if -(size (bits - 1) : Int) ≤ i ∧ i < size (bits - 1) then some i else none

/-- Reads the bits of an unsigned word as two's complement. -/
def toSigned (bits n : Nat) : Int :=
  if n < size (bits - 1) then n else (n : Int) - size bits

/-- The bits of a two's complement word, read as unsigned. -/
def ofSigned (bits : Nat) (i : Int) : Nat :=
  (i % size bits).toNat

/-- The nearest integer that a two's complement word can hold. -/
def saturate (bits : Nat) (i : Int) : Int :=
  max (-(size (bits - 1) : Int)) (min i (size (bits - 1) - 1))

end LiquidityGraph.Word
