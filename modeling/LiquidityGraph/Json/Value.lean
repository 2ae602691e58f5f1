import LiquidityGraph.Text.Decimal
import LiquidityGraph.Text.Hex

/-! JSON values and their text, compact or indented. -/
namespace LiquidityGraph.Json

/--
A text or key is absent when it escapes half of a surrogate pair: such a value can be passed
over, but not used. A number keeps its value only if it is written as an integer.
-/
inductive Value where
  | null
  | bool (value : Bool)
  | number (negative : Bool) (magnitude : Option Nat)
  | text (value : Option String)
  | array (items : List Value)
  | object (members : List (Option String × Value))
  deriving Inhabited

namespace Value

def str (s : String) : Value := .text (some s)

def nat (n : Nat) : Value := .number false (some n)

def int (i : Int) : Value := .number (i < 0) (some i.natAbs)

def record (members : List (String × Value)) : Value :=
  .object (members.map fun (k, v) => (some k, v))

def escapeChar (c : Char) : List Char :=
  match c with
  | '"' => ['\\', '"']
  | '\\' => ['\\', '\\']
  | '\n' => ['\\', 'n']
  | '\r' => ['\\', 'r']
  | '\t' => ['\\', 't']
  | '\x08' => ['\\', 'b']
  | '\x0c' => ['\\', 'f']
  | c => if c.toNat < 32 then ['\\', 'u'] ++ Hex.fixed 4 c.toNat else [c]

def quoted (s : String) : List Char :=
  '"' :: (s.toList.flatMap escapeChar ++ ['"'])

def numberText (negative : Bool) (magnitude : Option Nat) : List Char :=
  (if negative then ['-'] else []) ++ Decimal.digits (magnitude.getD 0)

mutual

def compact : Value → List Char
  | .null => "null".toList
  | .bool b => (if b then "true" else "false").toList
  | .number negative magnitude => numberText negative magnitude
  | .text s => quoted (s.getD "")
  | .array items => '[' :: (compactItems items ++ [']'])
  | .object members => '{' :: (compactMembers members ++ ['}'])

def compactItems : List Value → List Char
  | [] => []
  | [v] => compact v
  | v :: vs => compact v ++ ',' :: compactItems vs

def compactMembers : List (Option String × Value) → List Char
  | [] => []
  | [(k, v)] => quoted (k.getD "") ++ ':' :: compact v
  | (k, v) :: ms => quoted (k.getD "") ++ ':' :: (compact v ++ ',' :: compactMembers ms)

end

def newline (depth : Nat) : List Char :=
  '\n' :: List.replicate (2 * depth) ' '

mutual

/-- The text with one item a line, indented by two blanks a level. -/
def pretty (depth : Nat) : Value → List Char
  | .array [] => ['[', ']']
  | .array items => '[' :: (prettyItems (depth + 1) items ++ newline depth ++ [']'])
  | .object [] => ['{', '}']
  | .object members => '{' :: (prettyMembers (depth + 1) members ++ newline depth ++ ['}'])
  | v => compact v

def prettyItems (depth : Nat) : List Value → List Char
  | [] => []
  | [v] => newline depth ++ pretty depth v
  | v :: vs => newline depth ++ pretty depth v ++ ',' :: prettyItems depth vs

def prettyMembers (depth : Nat) : List (Option String × Value) → List Char
  | [] => []
  | [(k, v)] => newline depth ++ quoted (k.getD "") ++ [':', ' '] ++ pretty depth v
  | (k, v) :: ms =>
    newline depth ++ quoted (k.getD "") ++ [':', ' '] ++ pretty depth v ++
      ',' :: prettyMembers depth ms

end

def compactText (v : Value) : String := String.ofList v.compact

def prettyText (v : Value) : String := String.ofList (v.pretty 0)

end Value

end LiquidityGraph.Json
