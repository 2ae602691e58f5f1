/-! Hexadecimal text. -/
namespace LiquidityGraph.Hex

def digitChar (d : Nat) : Char :=
  if d < 10 then Char.ofNat ('0'.toNat + d) else Char.ofNat ('a'.toNat + (d - 10))

def digit? (c : Char) : Option Nat :=
  if '0' ≤ c ∧ c ≤ '9' then some (c.toNat - '0'.toNat)
  else if 'a' ≤ c ∧ c ≤ 'f' then some (c.toNat - 'a'.toNat + 10)
  else if 'A' ≤ c ∧ c ≤ 'F' then some (c.toNat - 'A'.toNat + 10)
  else none

def value (cs : List Char) : Nat :=
  cs.foldl (fun n c => 16 * n + (digit? c).getD 0) 0

/-- The last `width` digits of a number, most significant first. -/
def fixed : Nat → Nat → List Char
  | 0, _ => []
  | width + 1, n => fixed width (n / 16) ++ [digitChar (n % 16)]

def digits (n : Nat) : List Char :=
  if n < 16 then [digitChar n] else digits (n / 16) ++ [digitChar (n % 16)]

def ofBytes (bytes : List UInt8) : String :=
  String.ofList (bytes.flatMap fun b => fixed 2 b.toNat)

inductive Fault where
  | oddLength
  | unexpected (byte : UInt8) (position : Nat)
  deriving DecidableEq, Repr

/-- Digits come in pairs, and the first character that is none is reported. -/
def pairs (position : Nat) : List UInt8 → Except Fault (List UInt8)
  | [] => .ok []
  | [_] => .error .oddLength
  | a :: b :: rest =>
    match digit? (Char.ofNat a.toNat), digit? (Char.ofNat b.toNat) with
    | none, _ => .error (.unexpected a position)
    | _, none => .error (.unexpected b (position + 1))
    | some x, some y => (pairs (position + 2) rest).map (UInt8.ofNat (16 * x + y) :: ·)

/-- The bytes written by a text; an odd length is reported before any character. -/
def toBytes (s : String) : Except Fault (List UInt8) :=
  let bytes := s.toUTF8.toList
  if bytes.length % 2 = 1 then .error .oddLength else pairs 0 bytes

/-- A character in single quotes, escaped when it would not be seen. -/
def quoted (byte : UInt8) : String :=
  let inner : String :=
    match byte.toNat with
    | 0 => "\\0"
    | 9 => "\\t"
    | 10 => "\\n"
    | 13 => "\\r"
    | 39 => "\\'"
    | 92 => "\\\\"
    | n =>
      if n < 32 || (127 ≤ n && n ≤ 160) || n == 173 then
        "\\u\x7b" ++ String.ofList (digits n) ++ "\x7d"
      else String.singleton (Char.ofNat n)
  "'" ++ inner ++ "'"

end LiquidityGraph.Hex
