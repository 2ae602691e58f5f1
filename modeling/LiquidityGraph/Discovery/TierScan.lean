import LiquidityGraph.Discovery.Reading
import LiquidityGraph.Tick.Bitmap
import LiquidityGraph.Word

/-!
Concentrated-liquidity pools, one for each pair of tokens, fee tier and factory. Ticks come from
the store; otherwise the pool's whole bitmap is read, and the ticks found are stored.
-/
namespace LiquidityGraph.Discovery

/-- The fee tiers to look at, and how often a failed reading of ticks is repeated. -/
structure TierScan where
  scope : Scope
  fees : List Nat
  retries : Nat

namespace TierScan

def readTick (t : TierScan) (pool : Address) (index : Int) : Reading Tick := do
  let words ← Reading.retry (Reading.call Function.tick pool [Function.intWord index]) t.retries
  match words with
  | gross :: net :: _ =>
    return ⟨index, gross % Word.size 128, Word.toSigned 128 (net % Word.size 128)⟩
  | _ => failure

def readWord (t : TierScan) (pool : Address) (spacing word : Int) : Reading (List Tick) := do
  let bitmap ← Reading.retry (Reading.word Function.tickBitmap pool [Function.intWord word])
    t.retries
  (Bitmap.ticksIn word bitmap spacing).mapM (t.readTick pool)

def readTicks (t : TierScan) (pool : Address) (spacing : Int) : Reading (List Tick) := do
  return (← (Bitmap.words spacing).mapM (t.readWord pool spacing)).flatten

/-- The ticks in the store, or else those on the chain. -/
def ticksOf (t : TierScan) (pool : Address) (spacing : Int) : Reading (List Tick) := do
  match ← Reading.access (Access.loadTicks (PoolId.ofAddress pool)) with
  | some ticks => return ticks
  | none =>
    let ticks ← t.readTicks pool spacing
    Reading.access (Access.saveTicks (PoolId.ofAddress pool) ticks)
    return ticks

def loadPool (t : TierScan) (factory a b : Address) (fee : Nat) (spacing : Int) :
    Reading (Option FoundPool) := do
  let pool ← Reading.address Function.poolOf factory
    [Function.addressWord a, Function.addressWord b, Function.natWord fee]
  if pool = Address.zero then return none
  let record ← t.scope.record factory pool
  let fee ← Reading.word Function.fee pool []
  match ← Reading.call Function.slot0 pool [] with
  | price :: tick :: _ =>
    let liquidity ← Reading.word Function.liquidity pool []
    let ticks ← t.ticksOf pool spacing
    return some (.concentrated record (fee % Word.size 32) price (liquidity % Word.size 128)
      (Word.toSigned 32 (tick % Word.size 32)) spacing ticks)
  | _ => failure

def tiers (t : TierScan) : List (Nat × Int) :=
  t.fees.filterMap fun fee => (Price.spacingOfFee fee).map (fee, ·)

def scan (t : TierScan) : StateM Source (List FoundPool) := do
  let found ← t.scope.queries.mapM fun (factory, a, b) =>
    t.tiers.mapM fun (fee, spacing) => (t.loadPool factory a b fee spacing).attempt
  return found.flatten.flatten

end TierScan

end LiquidityGraph.Discovery
