import LiquidityGraph.Domain.Composition
import LiquidityGraph.Domain.MarkOrder

/-!
The normal form of text, in which letters and their marks are single characters where there are
such, and other marks are in order.
-/
namespace LiquidityGraph.Domain

/-- Takes marks off a character, of which it has at most two or three. -/
def decompose : Nat → Char → List Char
  | 0, c => [c]
  | depth + 1, c =>
    match decompose? c with
    | some (a, b) => decompose depth a ++ [b]
    | none => [c]

/--
Adds to a character what composes with it. A mark is hidden from it by one of the same or a
higher class that is left between them.
-/
def composeOn (starter : Char) (left : List Char) : List Char → List Char
  | [] => starter :: left
  | c :: rest =>
    let visible := left.getLast?.all fun d => markClass d < markClass c
    match if visible then compose? starter c else none with
    | some whole => composeOn whole left rest
    | none =>
      if markClass c == 0 then starter :: left ++ composeOn c [] rest
      else composeOn starter (left ++ [c]) rest

def compose : List Char → List Char
  | [] => []
  | c :: rest => if markClass c == 0 then composeOn c [] rest else c :: compose rest

def normal (cs : List Char) : List Char :=
  compose (inOrder (cs.flatMap (decompose 3)))

end LiquidityGraph.Domain
