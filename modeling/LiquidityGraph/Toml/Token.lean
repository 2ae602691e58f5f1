import LiquidityGraph.Text.Hex

/-! The tokens of TOML text. -/
namespace LiquidityGraph.Toml

inductive Token where
  /-- A run of spaces and tabs. -/
  | blank (text : List Char)
  | newline
  | comment
  | equals
  | period
  | comma
  | colon
  | plus
  | openBrace
  | closeBrace
  | openBracket
  | closeBracket
  /-- A run of letters, digits, dashes and underscores. -/
  | word (text : List Char)
  | string (text : List Char) (multiline : Bool)
  deriving DecidableEq

def unifyLines : List Char → List Char
  | '\r' :: '\n' :: r => '\n' :: unifyLines r
  | c :: r => c :: unifyLines r
  | [] => []

def isBlank (c : Char) : Bool := c == ' ' || c == '\t'

def isWord (c : Char) : Bool := c.isAlphanum || c == '-' || c == '_'

/-- Tabs are the only control characters of a comment. -/
def isComment (c : Char) : Bool := c == '\t' || 32 ≤ c.toNat

/-- Tabs are the only control characters of a string, newlines apart. -/
def isString (c : Char) : Bool := isComment c && c != '\x7f'

def simpleEscape? : Char → Option Char
  | '"' => some '"'
  | '\\' => some '\\'
  | 'b' => some '\x08'
  | 'f' => some '\x0c'
  | 'n' => some '\n'
  | 'r' => some '\r'
  | 't' => some '\t'
  | _ => none

def escaped? (digits : List Char) : Option Char := do
  let n ← digits.foldlM (fun n c => (Hex.digit? c).map (16 * n + ·)) 0
  if n.isValidChar then return Char.ofNat n else none

abbrev Cut := Option (List Char × List Char)

def push (c : Char) (tail : Cut) : Cut :=
  tail.map fun (text, rest) => (c :: text, rest)

/-- Behind the three quotes that close a string, two more may belong to it. -/
def closing (quote : Char) : List Char → List Char × List Char
  | a :: b :: r =>
    if a == quote && b == quote then ([a, b], r)
    else if a == quote then ([a], b :: r)
    else ([], a :: b :: r)
  | [a] => if a == quote then ([a], []) else ([], [a])
  | [] => ([], [])

/--
The text of a string up to its closing quotes, and what follows them. Double quotes allow
escapes; an escaped line end takes the blanks and line ends behind it with it, which is when the
flag is set.
-/
def stringBody (quote : Char) (multiline : Bool) : Bool → List Char → Cut
  | _, [] => none
  | skipping, c :: r =>
    if skipping && (isBlank c || c == '\n') then stringBody quote multiline true r
    else if c == quote then
      if !multiline then some ([], r)
      else if [quote, quote].isPrefixOf r then some (closing quote (r.drop 2))
      else push c (stringBody quote multiline false r)
    else if c == '\n' then
      if multiline then push c (stringBody quote multiline false r) else none
    else if c == '\\' && quote == '"' then
      match r with
      | 'u' :: d1 :: d2 :: d3 :: d4 :: r =>
        (escaped? [d1, d2, d3, d4]).bind fun e => push e (stringBody quote multiline false r)
      | 'U' :: d1 :: d2 :: d3 :: d4 :: d5 :: d6 :: d7 :: d8 :: r =>
        (escaped? [d1, d2, d3, d4, d5, d6, d7, d8]).bind fun e =>
          push e (stringBody quote multiline false r)
      | e :: r =>
        if multiline && ((e :: r).dropWhile isBlank).head? == some '\n' then
          stringBody quote multiline true r
        else (simpleEscape? e).bind fun e => push e (stringBody quote multiline false r)
      | [] => none
    else if isString c then push c (stringBody quote multiline false r)
    else none

/-- A string behind its first quote. A line end right after three quotes does not count. -/
def string? (quote : Char) (cs : List Char) : Option (Token × List Char) :=
  let token (multiline : Bool) : List Char × List Char → Token × List Char :=
    fun (text, rest) => (.string text multiline, rest)
  if [quote, quote].isPrefixOf cs then
    let body :=
      match cs.drop 2 with
      | '\n' :: r => r
      | r => r
    (stringBody quote true false body).map (token true)
  else (stringBody quote false false cs).map (token false)

namespace Token

def next? (c : Char) (cs : List Char) : Option (Token × List Char) :=
  match c with
  | '\n' => some (.newline, cs)
  | '#' => some (.comment, cs.dropWhile isComment)
  | '=' => some (.equals, cs)
  | '.' => some (.period, cs)
  | ',' => some (.comma, cs)
  | ':' => some (.colon, cs)
  | '+' => some (.plus, cs)
  | '{' => some (.openBrace, cs)
  | '}' => some (.closeBrace, cs)
  | '[' => some (.openBracket, cs)
  | ']' => some (.closeBracket, cs)
  | '"' => string? '"' cs
  | '\'' => string? '\'' cs
  | c =>
    if isBlank c then some (.blank (c :: cs.takeWhile isBlank), cs.dropWhile isBlank)
    else if isWord c then some (.word (c :: cs.takeWhile isWord), cs.dropWhile isWord)
    else none

/-- Each token needs a character of its own, which bounds the recursion. -/
def run? : Nat → List Char → Option (List Token)
  | _, [] => some []
  | 0, _ => none
  | fuel + 1, c :: cs => do
    let (token, rest) ← next? c cs
    return token :: (← run? fuel rest)

def ofText? (s : String) : Option (List Token) :=
  let cs := unifyLines s.toList
  let cs :=
    match cs with
    | '\ufeff' :: r => r
    | cs => cs
  run? cs.length cs

end Token

end LiquidityGraph.Toml
