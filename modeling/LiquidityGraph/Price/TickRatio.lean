import LiquidityGraph.Price.Error
import LiquidityGraph.Word

/-!
Square root prices at ticks, in 96-bit binary fixed point: `ratio t` is near `1.0001 ^ (t / 2)`,
and `tickAt` is its floor inverse.
-/
namespace LiquidityGraph.Price

def minTick : Int := -887272

def maxTick : Int := 887272

def minRatio : Nat := 4295128739

def maxRatio : Nat := 1461446703485210103287273052203988822378723970342

def q96 : Nat := Word.size 96

/-- The reciprocals of `1.0001 ^ (2 ^ i / 2)`, in 128-bit binary fixed point. -/
def ladder : List Nat := [
  0xfffcb933bd6fad37aa2d162d1a594001,
  0xfff97272373d413259a46990580e213a,
  0xfff2e50f5f656932ef12357cf3c7fdcc,
  0xffe5caca7e10e4e61c3624eaa0941cd0,
  0xffcb9843d60f6159c9db58835c926644,
  0xff973b41fa98c081472e6896dfb254c0,
  0xff2ea16466c96a3843ec78b326b52861,
  0xfe5dee046a99a2a811c461f1969c3053,
  0xfcbe86c7900a88aedcffc83b479aa3a4,
  0xf987a7253ac413176f2b074cf7815e54,
  0xf3392b0822b70005940c7a398e4b70f3,
  0xe7159475a2c29b7443b29c7fa6e889d9,
  0xd097f3bdfd2022b8845ad8f792aa5825,
  0xa9f746462d870fdf8a65dc1f90e061e5,
  0x70d869a156d2a1b890bb3df62baf32f7,
  0x31be135f97d08fd981231505542fcfa6,
  0x9aa508b5b7a84e1c677de54f3e99bc9,
  0x5d6af8dedb81196699c329225ee604,
  0x2216e584f5fa1ea926041bedfe98,
  0x48a170391f7dc42444e8fa2]

def climb : List Nat → Nat → Nat → Nat
  | [], _, acc => acc
  | f :: fs, n, acc => climb fs (n / 2) (if n % 2 = 1 then acc * f / Word.size 128 else acc)

/-- The ratio at a tick, rounded up from 128-bit precision. -/
def ratio (tick : Int) : Nat :=
  let down := climb ladder tick.natAbs (Word.size 128)
  let wide := if 0 < tick then (Word.size 256 - 1) / down else down
  (wide + (Word.size 32 - 1)) / Word.size 32

def ratioAt (tick : Int) : Except PriceError Nat :=
  if minTick ≤ tick ∧ tick ≤ maxTick then .ok (ratio tick) else .error (.tickOutOfBounds tick)

/-- The greatest tick below `tick + Word.size bits` whose ratio is at most `price`, bit by bit. -/
def raiseTick (price : Nat) : Nat → Int → Int
  | 0, tick => tick
  | bits + 1, tick =>
    let next := tick + Word.size bits
    if next ≤ maxTick ∧ ratio next ≤ price then raiseTick price bits next
    else raiseTick price bits tick

def tickAt (price : Nat) : Except PriceError Int :=
  if minRatio ≤ price ∧ price < maxRatio then .ok (raiseTick price 21 minTick)
  else .error (.priceOutOfBounds price)

/-- The tick spacing of a fee tier, in hundredths of a basis point. -/
def spacingOfFee : Nat → Option Int
  | 100 => some 1
  | 500 => some 10
  | 3000 => some 60
  | 10000 => some 200
  | _ => none

end LiquidityGraph.Price
