import LiquidityGraph.Backup.Basic

/-!
Backups as bytes. Lengths are eight bytes and integers four, little-endian; exact amounts are
decimal text. A reader takes what it needs and leaves the rest.
-/
namespace LiquidityGraph.Binary

/-- A number in a fixed count of bytes, least significant first. -/
def littleEndian : Nat → Nat → List UInt8
  | 0, _ => []
  | size + 1, n => UInt8.ofNat (n % 256) :: littleEndian size (n / 256)

def readLittleEndian : Nat → List UInt8 → Option (Nat × List UInt8)
  | 0, bs => some (0, bs)
  | _ + 1, [] => none
  | size + 1, b :: bs => do
    let (n, rest) ← readLittleEndian size bs
    return (b.toNat + 256 * n, rest)

def length (n : Nat) : List UInt8 := littleEndian 8 n

def readLength : List UInt8 → Option (Nat × List UInt8) := readLittleEndian 8

def int32 (i : Int) : List UInt8 := littleEndian 4 (Word.ofSigned 32 i)

def readInt32 (bs : List UInt8) : Option (Int × List UInt8) := do
  let (n, rest) ← readLittleEndian 4 bs
  return (Word.toSigned 32 n, rest)

/-- The length in bytes, then the characters in UTF-8. -/
def text (s : String) : List UInt8 :=
  length s.utf8ByteSize ++ s.toUTF8.toList

def readText (bs : List UInt8) : Option (String × List UInt8) := do
  let (n, rest) ← readLength bs
  if n ≤ rest.length then
    let s ← String.fromUTF8? ⟨(rest.take n).toArray⟩
    return (s, rest.drop n)
  else none

def readDecimal {α : Type} (parse : String → Option α) (bs : List UInt8) :
    Option (α × List UInt8) := do
  let (s, rest) ← readText bs
  return (← parse s, rest)

def list {α : Type} (write : α → List UInt8) (items : List α) : List UInt8 :=
  length items.length ++ items.flatMap write

def readItems {α : Type} (read : List UInt8 → Option (α × List UInt8)) :
    Nat → List UInt8 → Option (List α × List UInt8)
  | 0, bs => some ([], bs)
  | n + 1, bs => do
    let (item, rest) ← read bs
    let (items, rest) ← readItems read n rest
    return (item :: items, rest)

def readList {α : Type} (read : List UInt8 → Option (α × List UInt8)) (bs : List UInt8) :
    Option (List α × List UInt8) := do
  let (n, rest) ← readLength bs
  readItems read n rest

def pool (p : Pool) : List UInt8 :=
  text p.token0.text ++ text p.token1.text ++ text p.id.text ++ text p.factory ++
    text p.chain.text

def readPool (bs : List UInt8) : Option (Pool × List UInt8) := do
  let (token0, bs) ← readText bs
  let (token1, bs) ← readText bs
  let (id, bs) ← readText bs
  let (factory, bs) ← readText bs
  let (chain, bs) ← readText bs
  return (⟨⟨token0⟩, ⟨token1⟩, ⟨id⟩, factory, ⟨chain⟩⟩, bs)

def edge (r : EdgeRecord) : List UInt8 :=
  text r.key.chain.text ++ text r.key.source.text ++ text r.key.target.text ++
    text r.key.pool.text ++ text r.data

def readEdge (bs : List UInt8) : Option (EdgeRecord × List UInt8) := do
  let (chain, bs) ← readText bs
  let (source, bs) ← readText bs
  let (target, bs) ← readText bs
  let (pool, bs) ← readText bs
  let (data, bs) ← readText bs
  return (⟨⟨⟨source⟩, ⟨target⟩, ⟨pool⟩, ⟨chain⟩⟩, data⟩, bs)

def tick (t : Tick) : List UInt8 :=
  int32 t.index ++ text (Decimal.ofNat t.gross) ++ text (Decimal.ofInt t.net)

def readTick (bs : List UInt8) : Option (Tick × List UInt8) := do
  let (index, bs) ← readInt32 bs
  let (gross, bs) ← readDecimal (Decimal.unsigned? 128) bs
  let (net, bs) ← readDecimal (Decimal.signed? 128) bs
  return (⟨index, gross, net⟩, bs)

def tickSet (s : TickSet) : List UInt8 :=
  text s.pool.text ++ int32 s.spacing ++ list tick s.ticks

def readTickSet (bs : List UInt8) : Option (TickSet × List UInt8) := do
  let (pool, bs) ← readText bs
  let (spacing, bs) ← readInt32 bs
  let (ticks, bs) ← readList readTick bs
  return (⟨⟨pool⟩, spacing, ticks⟩, bs)

def poolFee (f : PoolFee) : List UInt8 :=
  text f.pool.text ++ text (Decimal.ofNat f.fee)

def readPoolFee (bs : List UInt8) : Option (PoolFee × List UInt8) := do
  let (pool, bs) ← readText bs
  let (fee, bs) ← readDecimal (Decimal.word? 256) bs
  return (⟨⟨pool⟩, fee⟩, bs)

end LiquidityGraph.Binary

namespace LiquidityGraph.Backup

open Binary

def encode (b : Backup) : List UInt8 :=
  text (Decimal.ofNat b.defaultFee) ++ list pool b.pools ++ list edge b.edges ++
    list tickSet b.ticks ++ list poolFee b.fees

def read (bs : List UInt8) : Option (Backup × List UInt8) := do
  let (defaultFee, bs) ← readDecimal (Decimal.word? 256) bs
  let (pools, bs) ← readList readPool bs
  let (edges, bs) ← readList readEdge bs
  let (ticks, bs) ← readList readTickSet bs
  let (fees, bs) ← readList readPoolFee bs
  return (⟨defaultFee, pools, edges, ticks, fees⟩, bs)

/-- Bytes behind the backup are ignored. -/
def decode (bs : List UInt8) : Option Backup := (read bs).map (·.1)

inductive FileError where
  | missing
  | undecodable
  deriving DecidableEq, Repr

def FileError.message : FileError → String
  | .missing => "Failed to open backup"
  | .undecodable => "Failed to decode backup"

def ofFile : Option (List UInt8) → Except FileError Backup
  | none => .error .missing
  | some bs => (decode bs).elim (.error .undecodable) .ok

end LiquidityGraph.Backup
