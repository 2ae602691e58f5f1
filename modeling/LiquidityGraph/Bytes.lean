import LiquidityGraph.ReadError
import LiquidityGraph.Text.Blank
import LiquidityGraph.Word

/-! Byte strings: big-endian words within them, and 32-byte words as text. -/
namespace LiquidityGraph.Bytes

def toNat (bytes : List UInt8) : Nat :=
  bytes.foldl (fun acc b => 256 * acc + b.toNat) 0

/-- The last bytes of a number, most significant first. -/
def ofNat : Nat → Nat → List UInt8
  | 0, _ => []
  | size + 1, n => ofNat size (n / 256) ++ [UInt8.ofNat (n % 256)]

def word (data : List UInt8) (index : Nat) : Except ReadError Nat :=
  let stop := index * 32 + 32
  if stop ≤ data.length then .ok (toNat ((data.drop (index * 32)).take 32))
  else .error (.shortData stop data.length)

def signedWord (data : List UInt8) (index : Nat) : Except ReadError Int :=
  (word data index).map (Word.toSigned 256)

def toInt32 (i : Int) : Except ReadError Int :=
  match Word.signed? 32 i with
  | some v => .ok v
  | none => .error .overflow

def toUInt128 (n : Nat) : Except ReadError Nat :=
  if n < Word.size 128 then .ok n else .error .overflow

/-- Drops every leading `0x`. -/
def stripMarks : List Char → List Char
  | '0' :: 'x' :: r => stripMarks r
  | cs => cs

/-- Reads a word written as 64 digits behind any number of `0x` marks. -/
def readWord (raw : String) : Except ReadError Nat :=
  let text := String.ofList (stripMarks (Text.trim raw).toList)
  match Hex.toBytes text with
  | .error fault => .error (.word (.digits fault))
  | .ok bytes =>
    if bytes.length = 32 then .ok (toNat bytes) else .error (.word (.size bytes.length raw))

def wordText (n : Nat) : String :=
  String.ofList ('0' :: 'x' :: Hex.fixed 64 n)

end LiquidityGraph.Bytes
