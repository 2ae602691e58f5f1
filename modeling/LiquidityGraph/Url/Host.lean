import LiquidityGraph.Domain.Labels
import LiquidityGraph.Text.Decimal

/-!
Hosts of URLs. The schemes of the web need a host that is a domain or an address; other schemes
take any text as a host that does not end it.
-/
namespace LiquidityGraph.Url

def radixValue? (radix : Nat) (cs : List Char) : Option Nat :=
  cs.foldlM (fun n c => do
    let d ← Hex.digit? c
    if d < radix then return radix * n + d else none) 0

/-- A part of an address of four bytes, in any of three radices. -/
def number? : List Char → Option Nat
  | [] => none
  | '0' :: 'x' :: r => radixValue? 16 r
  | '0' :: 'X' :: r => radixValue? 16 r
  | ['0'] => some 0
  | '0' :: r => radixValue? 8 r
  | cs => radixValue? 10 cs

def named (labels : List (List Char)) : List (List Char) :=
  if 1 < labels.length ∧ labels.getLast? = some [] then labels.dropLast else labels

/-- A domain whose last label is a number has to be an address. -/
def endsInNumber (labels : List (List Char)) : Bool :=
  match (named labels).getLast? with
  | some last => (!last.isEmpty && last.all Char.isDigit) || (number? last).isSome
  | none => false

/-- Up to four numbers; the last one fills the bytes that the others leave. -/
def isAddress (labels : List (List Char)) : Bool :=
  match (named labels).mapM number? with
  | none => false
  | some numbers =>
    numbers.length ≤ 4 && numbers.dropLast.all (· < 256) &&
      numbers.getLast?.any (· < Word.size (8 * (5 - numbers.length)))

def isGroup (cs : List Char) : Bool :=
  !cs.isEmpty && cs.length ≤ 4 && cs.all fun c => (Hex.digit? c).isSome

/-- Four bytes in decimal, which may stand for the last two words. -/
def isQuad (cs : List Char) : Bool :=
  let parts := Text.parts '.' cs
  parts.length == 4 && parts.all fun part =>
    (Decimal.run? part).any (· < 256) && (part.length == 1 || part.head? != some '0') &&
      part.length ≤ 3

/-- How many words some groups stand for; only the last may be a quad. -/
def width? : List (List Char) → Bool → Option Nat
  | [], _ => some 0
  | [part], quad => if isGroup part then some 1 else if quad && isQuad part then some 2 else none
  | part :: parts, quad => if isGroup part then (width? parts quad).map (· + 1) else none

def splitPair : List Char → Option (List Char × List Char)
  | ':' :: ':' :: r => some ([], r)
  | c :: r => (splitPair r).map fun (before, behind) => (c :: before, behind)
  | [] => none

/-- Eight words, of which one run of zeros may be left out. -/
def isLongAddress (cs : List Char) : Bool :=
  let groups (cs : List Char) : List (List Char) := if cs.isEmpty then [] else Text.parts ':' cs
  match splitPair cs with
  | none => width? (groups cs) true == some 8
  | some (before, behind) =>
    match width? (groups before) false, width? (groups behind) true with
    | some m, some n => m + n < 8
    | _, _ => false

def bytes : List Char → List UInt8
  | '%' :: a :: b :: rest =>
    match Hex.digit? a, Hex.digit? b with
    | some x, some y => UInt8.ofNat (16 * x + y) :: bytes rest
    | _, _ => '%'.toUInt8 :: bytes (a :: b :: rest)
  | c :: rest => c.toString.toUTF8.toList ++ bytes rest
  | [] => []

def unescape? (cs : List Char) : Option (List Char) :=
  (String.fromUTF8? ⟨(bytes cs).toArray⟩).map String.toList

def bracketed? : List Char → Option (List Char)
  | '[' :: r => some r
  | _ => none

def isClosedAddress (cs : List Char) : Bool :=
  cs.getLast? == some ']' && isLongAddress cs.dropLast

def isWebHost (cs : List Char) : Bool :=
  match bracketed? cs with
  | some r => isClosedAddress r
  | none =>
    match (unescape? cs).bind Domain.labels? with
    | none => false
    | some labels => labels != [[]] && (!endsInNumber labels || isAddress labels)

def isOpaqueHost (cs : List Char) : Bool :=
  match bracketed? cs with
  | some r => isClosedAddress r
  | none => !cs.any fun c => c.toNat == 0 || " #/:<>?@[\\]^|".toList.contains c

end LiquidityGraph.Url
