import LiquidityGraph.Discovery.Reading
import LiquidityGraph.Word

/-! Constant-product pools, one for each pair of tokens and factory. -/
namespace LiquidityGraph.Discovery

def Scope.loadPair (s : Scope) (factory a b : Address) : Reading (Option FoundPool) := do
  let pool ← Reading.address Function.pairOf factory
    [Function.addressWord a, Function.addressWord b]
  if pool = Address.zero then return none
  let record ← s.record factory pool
  match ← Reading.call Function.reserves pool [] with
  | reserve0 :: reserve1 :: _ =>
    return some (.constantProduct record (reserve0 % Word.size 128) (reserve1 % Word.size 128))
  | _ => failure

def Scope.scanPairs (s : Scope) : StateM Source (List FoundPool) := do
  let found ← s.queries.mapM fun (factory, a, b) => (s.loadPair factory a b).attempt
  return found.flatten

end LiquidityGraph.Discovery
