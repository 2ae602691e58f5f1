import LiquidityGraph.Contract.Function
import LiquidityGraph.Contract.Node
import LiquidityGraph.Discovery.Found
import LiquidityGraph.Discovery.Pairs
import LiquidityGraph.Store.Access

/-! Reading pools from a chain. A pool of which something cannot be read is left out. -/
namespace LiquidityGraph.Discovery

structure Source where
  node : Node
  connection : Connection

/-- A reading that keeps its effects when it fails. -/
abbrev Reading (α : Type) := OptionT (StateM Source) α

namespace Reading

def call (f : Function) (target : Address) (arguments : List (List UInt8)) :
    Reading (List Nat) :=
  fun s =>
    let (reply, node) := s.node.call target (f.callData arguments)
    (reply.bind f.result?, { s with node })

def access {α : Type} (a : Access α) : Reading α :=
  fun s =>
    let (r, connection) := a.run.run s.connection
    (r.toOption, { s with connection })

def retry {α : Type} (r : Reading α) : Nat → Reading α
  | 0 => r
  | n + 1 => r <|> retry r n

def word (f : Function) (target : Address) (arguments : List (List UInt8)) : Reading Nat := do
  match ← call f target arguments with
  | n :: _ => return n
  | [] => failure

def address (f : Function) (target : Address) (arguments : List (List UInt8)) :
    Reading Address := do
  return Address.ofWord (← word f target arguments)

def attempt (r : Reading (Option FoundPool)) : StateM Source (List FoundPool) := do
  return (← r.run).join.toList

end Reading

structure Scope where
  chain : ChainId
  factories : List Address
  tokens : List TokenId

namespace Scope

/-- The addresses of a pair of tokens, if both have one. -/
def addresses? (pair : TokenId × TokenId) : Option (Address × Address) := do
  return (← pair.1.address?, ← pair.2.address?)

def queries (s : Scope) : List (Address × Address × Address) :=
  s.factories.flatMap fun factory =>
    ((tokenPairs s.tokens).filterMap addresses?).map fun (a, b) => (factory, a, b)

/-- The record of a pool, by its contract's own tokens. -/
def record (s : Scope) (factory pool : Address) : Reading Pool := do
  let token0 ← Reading.address Function.token0 pool []
  let token1 ← Reading.address Function.token1 pool []
  return ⟨TokenId.ofAddress token0, TokenId.ofAddress token1, PoolId.ofAddress pool,
    factory.checksum, s.chain⟩

end Scope

end LiquidityGraph.Discovery
