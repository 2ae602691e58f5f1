import LiquidityGraph.Keccak
import LiquidityGraph.ReadError
import LiquidityGraph.Text.Blank
import LiquidityGraph.Word

/-!
Twenty-byte account addresses. They are read from hexadecimal text in any case and written with
the mixed-case checksum of EIP-55.
-/
namespace LiquidityGraph

structure Address where
  toNat : Nat
  isLt : toNat < Word.size 160
  deriving DecidableEq, Repr

namespace Address

def ofWord (n : Nat) : Address :=
  ⟨n % Word.size 160, Nat.mod_lt _ (by decide)⟩

def zero : Address := ofWord 0

def digits (a : Address) : List Char :=
  Hex.fixed 40 a.toNat

def toLower (a : Address) : String :=
  String.ofList ('0' :: 'x' :: a.digits)

/-- The half bytes of a hash, most significant first. -/
def nibbles (bytes : List UInt8) : List Nat :=
  bytes.flatMap fun b => [b.toNat / 16, b.toNat % 16]

/-- A letter is raised where the hash of the lower-case digits has a half byte of eight or more. -/
def checksumDigits (a : Address) : List Char :=
  let hash := nibbles (Keccak.hash (a.digits.map fun c => UInt8.ofNat c.toNat))
  List.zipWith (fun c h => if 8 ≤ h then c.toUpper else c) a.digits hash

def checksum (a : Address) : String :=
  String.ofList ('0' :: 'x' :: a.checksumDigits)

/-- The characters that may stand between digits. -/
def isGap (c : Char) : Bool :=
  c == ' ' || c == '\t' || c == '\n' || c == '\r'

/-- Reads `left` more digits, skipping gaps; nothing but gaps may follow the last one. -/
def scan (acc position : Nat) : Nat → List Char → Except AddressFault Nat
  | 0, cs => if cs.all isGap then .ok acc else .error .length
  | _ + 1, [] => .error .length
  | left + 1, c :: cs =>
    if isGap c then scan acc (position + 1) (left + 1) cs
    else
      match Hex.digit? c with
      | some d => scan (16 * acc + d) (position + 1) left cs
      | none => .error (.unexpected c position)

/-- The text behind an optional `0x`. -/
def stripMark : List Char → List Char
  | '0' :: 'x' :: r => r
  | cs => cs

def readDigits (cs : List Char) : Except AddressFault Address :=
  (scan 0 0 40 (stripMark cs)).map ofWord

def read (s : String) : Except ReadError Address :=
  (readDigits (Text.trimEnd (Text.trimStart s.toList))).mapError .address

def read? (s : String) : Option Address :=
  (read s).toOption

end Address

end LiquidityGraph
