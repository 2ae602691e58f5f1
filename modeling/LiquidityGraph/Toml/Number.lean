import LiquidityGraph.Toml.Table
import LiquidityGraph.Toml.Token
import LiquidityGraph.Word

/-!
Numbers and dates of TOML. Both begin with a word, and go on over the tokens that the word could
not hold.
-/
namespace LiquidityGraph.Toml

open Config (Value)

def isDigit (radix : Nat) (c : Char) : Bool :=
  (Hex.digit? c).any (· < radix)

/-- Underscores stand between two digits each. -/
def separated : List Char → Bool
  | [] => false
  | [c] => c != '_'
  | c :: '_' :: r => c != '_' && separated r
  | c :: r => c != '_' && separated r

/-- The digits at the start of a word, and the rest of it. -/
def digits? (radix : Nat) (leadingZeros : Bool) (cs : List Char) :
    Option (List Char × List Char) :=
  let inside (c : Char) : Bool := isDigit radix c || c == '_'
  let body := cs.takeWhile inside
  if separated body && (leadingZeros || body.head? != some '0' || body.length == 1) then
    some (body.filter (· != '_'), cs.dropWhile inside)
  else none

def value (radix : Nat) (digits : List Char) : Nat :=
  digits.foldl (fun n c => radix * n + (Hex.digit? c).getD 0) 0

def sign : List Char → Bool × List Char
  | '-' :: r => (true, r)
  | cs => (false, cs)

def integer? (negative : Bool) (radix : Nat) (leadingZeros : Bool) (cs : List Char) :
    Option Value := do
  let (digits, rest) ← digits? radix leadingZeros cs
  guard rest.isEmpty
  let n := value radix digits
  let i : Int := if negative then -(n : Int) else n
  return .int (← Word.signed? 64 i)

/-- An exponent begins in the rest of a word and may go on behind a plus sign. -/
def exponent? : List Char → List Token → Option (Int × List Token)
  | [], rest => some (0, rest)
  | e :: cs, rest => do
    guard (e == 'e' || e == 'E')
    match cs, rest with
    | [], .plus :: .word w :: rest => unsigned w rest
    | [], .word w :: rest => unsigned w rest
    | cs, rest =>
      let (negative, cs) := sign cs
      let (n, rest) ← unsigned cs rest
      return (if negative then -n else n, rest)
where
  unsigned (cs : List Char) (rest : List Token) : Option (Int × List Token) := do
    let (digits, more) ← digits? 10 true cs
    guard more.isEmpty
    return ((value 10 digits : Int), rest)

def float? (negative : Bool) (whole fraction suffix : List Char) (rest : List Token) :
    Option (Value × List Token) := do
  let (exponent, rest) ← exponent? suffix rest
  let x ← Binary64.ofDecimal? negative (value 10 (whole ++ fraction)) (exponent - fraction.length)
  return (.float x, rest)

def number? (cs : List Char) (rest : List Token) : Option (Value × List Token) :=
  let (negative, body) := sign cs
  match cs with
  | '0' :: 'x' :: r => (integer? false 16 true r).map (·, rest)
  | '0' :: 'o' :: r => (integer? false 8 true r).map (·, rest)
  | '0' :: 'b' :: r => (integer? false 2 true r).map (·, rest)
  | _ =>
    if cs.any fun c => c == 'e' || c == 'E' then do
      let (whole, suffix) ← digits? 10 false body
      float? negative whole [] suffix rest
    else
      match rest with
      | .period :: .word w :: rest => do
        let (whole, suffix) ← digits? 10 false body
        guard suffix.isEmpty
        let (fraction, suffix) ← digits? 10 true w
        float? negative whole fraction suffix rest
      | .period :: _ => none
      | rest =>
        if body == ['i', 'n', 'f'] then
          some (.float (if negative then -1.0 / 0.0 else 1.0 / 0.0), rest)
        else if body == ['n', 'a', 'n'] then some (.float (0.0 / 0.0), rest)
        else (integer? negative 10 false body).map (·, rest)

/-- Whether a word begins a date by itself. -/
def isDate (cs : List Char) : Bool :=
  cs.contains 'T' || cs.contains 't' ||
    (cs.tail.contains '-' && !(cs.zip cs.tail).any fun (a, b) => (a == 'e' || a == 'E') && b == '-')

abbrev Taken := Option (List Char × List Token)

def withWord (text : List Char) (mark : Char) : List Token → Taken
  | .word w :: rest => some (text ++ mark :: w, rest)
  | _ => none

def optionally (mark : Token) (c : Char) : List Char × List Token → Taken
  | (text, token :: rest) =>
    if token = mark then withWord text c rest else some (text, token :: rest)
  | (text, []) => some (text, [])

def clock (hour : List Char) (rest : List Token) : Taken := do
  let (text, rest) ← withWord hour ':' rest
  match rest with
  | .colon :: rest =>
    let taken ← withWord text ':' rest
    let taken ← optionally .period '.' taken
    let taken ← optionally .plus '+' taken
    optionally .colon ':' taken
  | _ => none

/-- A single blank may stand between a date and its time. -/
def dateText (cs : List Char) (rest : List Token) : Taken :=
  let (text, rest) :=
    match rest with
    | .blank [' '] :: .word w :: rest => (cs ++ ' ' :: w, rest)
    | rest => (cs, rest)
  match rest with
  | .colon :: rest => clock text rest
  | rest => some (text, rest)

def numberOrDate? (cs : List Char) (rest : List Token) : Option (Item × List Token) :=
  let date (taken : Taken) : Option (Item × List Token) :=
    taken.map fun (text, rest) => (.date text, rest)
  if isDate cs then date (dateText cs rest)
  else
    match rest with
    | .colon :: rest => date (clock cs rest)
    | rest => (number? cs rest).map fun (v, rest) => (.leaf v, rest)

end LiquidityGraph.Toml
