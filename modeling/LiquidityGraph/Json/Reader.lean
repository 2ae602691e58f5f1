import LiquidityGraph.Json.Value

/-! Strict reading of JSON text: one value, with nothing but blanks around it. -/
namespace LiquidityGraph.Json

def isSpace (c : Char) : Bool :=
  c == ' ' || c == '\n' || c == '\t' || c == '\r'

def skipSpace (cs : List Char) : List Char :=
  cs.dropWhile isSpace

/-- The value of four hexadecimal digits. -/
def unit? (a b c d : Char) : Option Nat := do
  return (((← Hex.digit? a) * 16 + (← Hex.digit? b)) * 16 + (← Hex.digit? c)) * 16 +
    (← Hex.digit? d)

def isHigh (n : Nat) : Bool := 0xd800 ≤ n && n ≤ 0xdbff

def isLow (n : Nat) : Bool := 0xdc00 ≤ n && n ≤ 0xdfff

def pairChar (high low : Nat) : Char :=
  Char.ofNat (0x10000 + (high - 0xd800) * 0x400 + (low - 0xdc00))

def simpleEscape? : Char → Option Char
  | '"' => some '"'
  | '\\' => some '\\'
  | '/' => some '/'
  | 'b' => some '\x08'
  | 'f' => some '\x0c'
  | 'n' => some '\n'
  | 'r' => some '\r'
  | 't' => some '\t'
  | _ => none

def push (c : Char) : Option (List Char) × List Char → Option (List Char) × List Char
  | (chars, rest) => (chars.map (c :: ·), rest)

/--
The characters up to the closing quote, and what follows it. They are absent when half of a
surrogate pair is escaped without the other.
-/
def literal : List Char → Option (Option (List Char) × List Char)
  | [] => none
  | '"' :: rest => some (some [], rest)
  | '\\' :: 'u' :: a :: b :: c :: d :: rest => do
    let n ← unit? a b c d
    if isHigh n then
      match rest with
      | '\\' :: 'u' :: e :: f :: g :: h :: rest =>
        let m ← unit? e f g h
        let tail ← literal rest
        if isLow m then return push (pairChar n m) tail else return (none, tail.2)
      | rest => return (none, (← literal rest).2)
    else
      let tail ← literal rest
      if isLow n then return (none, tail.2) else return push (Char.ofNat n) tail
  | '\\' :: c :: rest => do return push (← simpleEscape? c) (← literal rest)
  | c :: rest => if c.toNat < 32 || c == '\\' then none else return push c (← literal rest)

def text? (cs : List Char) : Option (Option String × List Char) :=
  (literal cs).map fun (chars, rest) => (chars.map String.ofList, rest)

def afterDigits? (cs : List Char) : Option (List Char) :=
  if (cs.takeWhile Char.isDigit).isEmpty then none else some (cs.dropWhile Char.isDigit)

def fraction? : List Char → Option (Bool × List Char)
  | '.' :: r => (afterDigits? r).map (true, ·)
  | cs => some (false, cs)

def skipSign : List Char → List Char
  | '+' :: r => r
  | '-' :: r => r
  | cs => cs

def exponent? : List Char → Option (Bool × List Char)
  | 'e' :: r => (afterDigits? (skipSign r)).map (true, ·)
  | 'E' :: r => (afterDigits? (skipSign r)).map (true, ·)
  | cs => some (false, cs)

/-- An integer has no leading zero; with a fraction or exponent it has no integer value. -/
def number? (negative : Bool) (cs : List Char) : Option (Value × List Char) := do
  let digits := cs.takeWhile Char.isDigit
  let magnitude ← Decimal.run? digits
  guard (digits.head? != some '0' || digits.length == 1)
  let (broken, rest) ← fraction? (cs.dropWhile Char.isDigit)
  let (scaled, rest) ← exponent? rest
  return (.number negative (if broken || scaled then none else some magnitude), rest)

def keyword? (word : List Char) (v : Value) (cs : List Char) : Option (Value × List Char) :=
  if word.isPrefixOf cs then some (v, cs.drop word.length) else none

mutual

def value? : Nat → List Char → Option (Value × List Char)
  | 0, _ => none
  | fuel + 1, cs =>
    match skipSpace cs with
    | '{' :: r =>
      match skipSpace r with
      | '}' :: r => some (.object [], r)
      | r => (members? fuel r).map fun (ms, r) => (.object ms, r)
    | '[' :: r =>
      match skipSpace r with
      | ']' :: r => some (.array [], r)
      | r => (items? fuel r).map fun (vs, r) => (.array vs, r)
    | '"' :: r => (text? r).map fun (s, r) => (.text s, r)
    | '-' :: r => number? true r
    | 'n' :: r => keyword? ['u', 'l', 'l'] .null r
    | 't' :: r => keyword? ['r', 'u', 'e'] (.bool true) r
    | 'f' :: r => keyword? ['a', 'l', 's', 'e'] (.bool false) r
    | r => number? false r

def items? : Nat → List Char → Option (List Value × List Char)
  | 0, _ => none
  | fuel + 1, cs => do
    let (v, r) ← value? fuel cs
    match skipSpace r with
    | ',' :: r =>
      let (vs, r) ← items? fuel r
      return (v :: vs, r)
    | ']' :: r => return ([v], r)
    | _ => none

def members? : Nat → List Char → Option (List (Option String × Value) × List Char)
  | 0, _ => none
  | fuel + 1, cs =>
    match skipSpace cs with
    | '"' :: r => do
      let (k, r) ← text? r
      match skipSpace r with
      | ':' :: r =>
        let (v, r) ← value? fuel r
        match skipSpace r with
        | ',' :: r =>
          let (ms, r) ← members? fuel r
          return ((k, v) :: ms, r)
        | '}' :: r => return ([(k, v)], r)
        | _ => none
      | _ => none
    | _ => none

end

/-- Each nesting level and each item needs a character of its own, which bounds the recursion. -/
def read? (s : String) : Option Value := do
  let cs := s.toList
  let (v, rest) ← value? (2 * cs.length + 2) cs
  if (skipSpace rest).isEmpty then return v else none

end LiquidityGraph.Json
