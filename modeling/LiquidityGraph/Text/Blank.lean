/-! White space as text formats see it, and text without it at its ends. -/
namespace LiquidityGraph.Text

/-- The characters with the Unicode property White_Space. -/
def isBlank (c : Char) : Bool :=
  let n := c.toNat
  (0x9 ≤ n && n ≤ 0xd) || n == 0x20 || n == 0x85 || n == 0xa0 || n == 0x1680 ||
    (0x2000 ≤ n && n ≤ 0x200a) || n == 0x2028 || n == 0x2029 || n == 0x202f || n == 0x205f ||
    n == 0x3000

def trimStart (cs : List Char) : List Char :=
  cs.dropWhile isBlank

def trimEnd (cs : List Char) : List Char :=
  (cs.reverse.dropWhile isBlank).reverse

def trim (s : String) : String :=
  String.ofList (trimEnd (trimStart s.toList))

/-- Equality up to the case of ASCII letters. -/
def sameIgnoringCase (a b : String) : Bool :=
  a.toList.map Char.toLower == b.toList.map Char.toLower

def lowerAscii (s : String) : String :=
  String.ofList (s.toList.map Char.toLower)

def upperAscii (s : String) : String :=
  String.ofList (s.toList.map Char.toUpper)

end LiquidityGraph.Text
