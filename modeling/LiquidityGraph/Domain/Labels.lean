import LiquidityGraph.Domain.Direction
import LiquidityGraph.Domain.Joiner
import LiquidityGraph.Domain.Mapping
import LiquidityGraph.Domain.Normal
import LiquidityGraph.Domain.Punycode

/-!
The labels of a domain, in letters of any language. Many spellings of a domain are the same one:
each is brought to the same labels, unless it is not allowed.
-/
namespace LiquidityGraph.Domain

def spelled? (cs : List Char) : Option (List Char) :=
  (cs.mapM mapped?).map fun texts => normal texts.flatten

/-- What is not allowed even where it is what other characters stand for. -/
def isForbidden (c : Char) : Bool :=
  c.toNat ≤ 32 || "#%/:<>?@[\\]^|\x7f".toList.contains c

def isAscii (c : Char) : Bool := c.toNat < 128

/-- A label that begins like this spells others by letters and digits. -/
def codeMark : List Char := "xn--".toList

/-- Only text in its final spelling may be spelled by letters and digits, none of it in vain. -/
def decoded? (label : List Char) : Option (List Char) :=
  if codeMark.isPrefixOf label then do
    let code := label.drop codeMark.length
    guard (label.all isAscii && label.getLast? != some '-' && code.length ≤ 2000)
    let text ← Punycode.decode? code
    guard (spelled? text == some text)
    return text
  else some label

def isLabel (label : List Char) : Bool :=
  !label.head?.any isMark && joinersStand [] label && (label.all isAscii || label.length ≤ 1000)

/-- The labels of a domain, of which the last is empty when a point ends the domain. -/
def labels? (domain : List Char) : Option (List (List Char)) := do
  let text ← spelled? domain
  guard (!text.any isForbidden)
  let labels ← (Text.parts '.' text).mapM decoded?
  guard (labels.all isLabel && (!labels.any isTwoWay || labels.all keepsTogether))
  return labels

end LiquidityGraph.Domain
