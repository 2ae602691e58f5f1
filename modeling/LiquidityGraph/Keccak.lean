/-! The Keccak-256 hash of byte strings, padded by the bits `1`, `0 … 0`, `1`. -/
namespace LiquidityGraph.Keccak

/-- Lane `(x, y)` stands at index `x + 5 y`. -/
abbrev State := Vector UInt64 25

def State.lane (s : State) (i : Nat) : UInt64 :=
  s.get ⟨i % 25, Nat.mod_lt _ (by decide)⟩

def State.at (s : State) (x y : Nat) : UInt64 :=
  s.lane (x % 5 + 5 * (y % 5))

def rotate (w : UInt64) (n : Nat) : UInt64 :=
  (w <<< UInt64.ofNat n) ||| (w >>> UInt64.ofNat (64 - n))

/-- Rotation amounts, by lane index. -/
def offsets : List Nat := [
  0, 1, 62, 28, 27, 36, 44, 6, 55, 20, 3, 10, 43, 25, 39, 41, 45, 15, 21, 8, 18, 2, 61, 56, 14]

def roundConstants : List UInt64 := [
  0x0000000000000001, 0x0000000000008082, 0x800000000000808a, 0x8000000080008000,
  0x000000000000808b, 0x0000000080000001, 0x8000000080008081, 0x8000000000008009,
  0x000000000000008a, 0x0000000000000088, 0x0000000080008009, 0x000000008000000a,
  0x000000008000808b, 0x800000000000008b, 0x8000000000008089, 0x8000000000008003,
  0x8000000000008002, 0x8000000000000080, 0x000000000000800a, 0x800000008000000a,
  0x8000000080008081, 0x8000000000008080, 0x0000000080000001, 0x8000000080008008]

def build (f : Nat → Nat → UInt64) : State :=
  Vector.ofFn fun i => f (i.val % 5) (i.val / 5)

def theta (s : State) : State :=
  let column (x : Nat) := s.at x 0 ^^^ s.at x 1 ^^^ s.at x 2 ^^^ s.at x 3 ^^^ s.at x 4
  let parity : State := build fun x _ => column (x + 4) ^^^ rotate (column (x + 1)) 1
  build fun x y => s.at x y ^^^ parity.at x 0

def rhoPi (s : State) : State :=
  build fun x y =>
    let source := (x + 3 * y) % 5
    rotate (s.at source x) (offsets.getD (source + 5 * x) 0)

def chi (s : State) : State :=
  build fun x y => s.at x y ^^^ (~~~(s.at (x + 1) y) &&& s.at (x + 2) y)

def iota (constant : UInt64) (s : State) : State :=
  build fun x y => if x = 0 ∧ y = 0 then s.at 0 0 ^^^ constant else s.at x y

def permute (s : State) : State :=
  roundConstants.foldl (fun s c => iota c (chi (rhoPi (theta s)))) s

/-- Bytes absorbed at a time. -/
def rate : Nat := 136

def littleEndian (bytes : List UInt8) : UInt64 :=
  bytes.foldr (fun b acc => (acc <<< 8) ||| b.toUInt64) 0

def absorb (s : State) (block : List UInt8) : State :=
  permute <| Vector.ofFn fun i =>
    if i.val < 17 then s.lane i.val ^^^ littleEndian ((block.drop (8 * i.val)).take 8)
    else s.lane i.val

def pad (tail : List UInt8) : List UInt8 :=
  if tail.length + 1 = rate then tail ++ [0x81]
  else tail ++ 0x01 :: (List.replicate (rate - 2 - tail.length) 0 ++ [0x80])

def sponge (s : State) (input : List UInt8) : State :=
  if input.length < rate then absorb s (pad input)
  else sponge (absorb s (input.take rate)) (input.drop rate)
termination_by input.length
decreasing_by
  have : 0 < rate := by decide
  simp only [List.length_drop]
  omega

def bytesOf (w : UInt64) : List UInt8 :=
  (List.range 8).map fun i => (w >>> UInt64.ofNat (8 * i)).toUInt8

def hash (input : List UInt8) : List UInt8 :=
  let s := sponge (Vector.replicate 25 0) input
  (List.range 4).flatMap fun i => bytesOf (s.lane i)

/-- The hash of a text's UTF-8 bytes, as a number. -/
def ofText (s : String) : Nat :=
  (hash s.toUTF8.toList).foldl (fun acc b => 256 * acc + b.toNat) 0

end LiquidityGraph.Keccak
