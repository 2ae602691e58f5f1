/-! Ranges of blocks, taken one behind the other. -/
namespace LiquidityGraph

structure BlockRange where
  first : Nat
  last : Nat
  deriving DecidableEq, Repr

/-- The next range behind `last`: at most `max` blocks but at least one, up to the head. -/
def BlockRange.next (last head max : Nat) : Option BlockRange :=
  if head ≤ last then none else some ⟨last + 1, min head (last + Nat.max max 1)⟩

end LiquidityGraph
