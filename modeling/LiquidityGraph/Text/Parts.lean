/-! Texts cut into parts. -/
namespace LiquidityGraph.Text

/-- The parts of a text between separators, one more than there are separators. -/
def parts (separator : Char) : List Char → List (List Char)
  | [] => [[]]
  | c :: cs =>
    if c = separator then [] :: parts separator cs
    else
      match parts separator cs with
      | part :: more => (c :: part) :: more
      | [] => [[c]]

end LiquidityGraph.Text
