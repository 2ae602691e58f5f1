import LiquidityGraph.Address
import LiquidityGraph.Bytes
import LiquidityGraph.Word

/-!
Functions of contracts: arguments are written as 32-byte words behind the function's selector,
and results are read back from such words.
-/
namespace LiquidityGraph

/-- How a word of a result is checked: a flag is zero but for its last byte. -/
inductive WordKind where
  | any
  | flag
  deriving DecidableEq, Repr

structure Function where
  selector : List UInt8
  returns : List WordKind

namespace Function

def ofSignature (signature : String) (returns : List WordKind) : Function :=
  ⟨Bytes.ofNat 4 (Keccak.ofText signature / Word.size 224), returns⟩

def addressWord (a : Address) : List UInt8 := Bytes.ofNat 32 a.toNat

def natWord (n : Nat) : List UInt8 := Bytes.ofNat 32 n

def intWord (i : Int) : List UInt8 := Bytes.ofNat 32 (Word.ofSigned 256 i)

def callData (f : Function) (arguments : List (List UInt8)) : List UInt8 :=
  f.selector ++ arguments.flatten

def readWords : List WordKind → List UInt8 → Option (List Nat)
  | [], _ => some []
  | kind :: kinds, data => do
    if data.length < 32 then none
    let n := Bytes.toNat (data.take 32)
    if kind = .flag ∧ 256 ≤ n then none
    return n :: (← readWords kinds (data.drop 32))

/-- The words of a result; what follows them is ignored. -/
def result? (f : Function) (data : List UInt8) : Option (List Nat) :=
  readWords f.returns data

def pairOf : Function := ofSignature "getPair(address,address)" [.any]

def poolOf : Function := ofSignature "getPool(address,address,uint24)" [.any]

def token0 : Function := ofSignature "token0()" [.any]

def token1 : Function := ofSignature "token1()" [.any]

def reserves : Function := ofSignature "getReserves()" [.any, .any, .any]

def fee : Function := ofSignature "fee()" [.any]

/-- The price, the tick, and what is known about observations. -/
def slot0 : Function :=
  ofSignature "slot0()" [.any, .any, .any, .any, .any, .any, .flag]

def liquidity : Function := ofSignature "liquidity()" [.any]

def tickBitmap : Function := ofSignature "tickBitmap(int16)" [.any]

def tick : Function :=
  ofSignature "ticks(int24)" [.any, .any, .any, .any, .any, .any, .any, .flag]

end Function

end LiquidityGraph
