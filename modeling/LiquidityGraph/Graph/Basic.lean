import LiquidityGraph.Edge.Basic
import LiquidityGraph.Pool

/-!
The graph of tokens, joined by directed edges through pools on chains. Edges are nested by
source, target, pool and chain, and no level is kept when it holds nothing.
-/
namespace LiquidityGraph

open Std (ExtTreeMap)

abbrev ChainEdges := ExtTreeMap ChainId Edge

abbrev PoolEdges := ExtTreeMap PoolId ChainEdges

abbrev TargetEdges := ExtTreeMap TokenId PoolEdges

structure Graph where
  defaultFee : Nat
  edges : ExtTreeMap TokenId TargetEdges
  pools : ExtTreeMap PoolId Pool
  fees : ExtTreeMap PoolId Nat
  ticks : ExtTreeMap PoolId TickList

inductive GraphError where
  | unknownPool (pool : PoolId)
  | edge (pool : PoolId) (cause : EdgeError)
  | corruptSnapshot (pool : PoolId)
  deriving DecidableEq, Repr

def GraphError.message : GraphError → String
  | .unknownPool pool => "unknown pool " ++ pool.text
  | .edge pool cause => "edge update failed for pool " ++ pool.text ++ ": " ++ cause.message
  | .corruptSnapshot pool => "corrupt edge snapshot for pool " ++ pool.text

/-- A map, unless it holds nothing. -/
def occupied {κ ν : Type} [Ord κ] [Std.TransOrd κ] (m : ExtTreeMap κ ν) :
    Option (ExtTreeMap κ ν) :=
  if m.isEmpty then none else some m

namespace Graph

def empty (defaultFee : Nat) : Graph := ⟨defaultFee, ∅, ∅, ∅, ∅⟩

def neighbors (g : Graph) (source : TokenId) : Option TargetEdges := g.edges[source]?

def poolsBetween (g : Graph) (source target : TokenId) : Option PoolEdges := do
  (← g.neighbors source)[target]?

def edge? (g : Graph) (key : EdgeKey) : Option Edge := do
  (← (← g.poolsBetween key.source key.target)[key.pool]?)[key.chain]?

/-- All edges, in the order of their keys. -/
def edgeList (g : Graph) : List (EdgeKey × Edge) :=
  g.edges.toList.flatMap fun (source, targets) =>
    targets.toList.flatMap fun (target, pools) =>
      pools.toList.flatMap fun (pool, chains) =>
        chains.toList.map fun (chain, edge) => (⟨source, target, pool, chain⟩, edge)

def setEdge (g : Graph) (key : EdgeKey) (edge : Edge) : Graph :=
  let targets := g.edges.getD key.source ∅
  let pools := targets.getD key.target ∅
  let chains := pools.getD key.pool ∅
  let pools := pools.insert key.pool (chains.insert key.chain edge)
  { g with edges := g.edges.insert key.source (targets.insert key.target pools) }

/-- Whether a pool leads from one token to another, on any chain. -/
def joins (g : Graph) (source target : TokenId) (pool : PoolId) : Bool :=
  ((g.poolsBetween source target).bind (·[pool]?)).isSome

/-- Removes the edges from one token to another through a pool, on all chains. -/
def cut (g : Graph) (source target : TokenId) (pool : PoolId) : Graph :=
  { g with edges := g.edges.alter source fun targets => targets.bind fun targets =>
      occupied (targets.alter target fun pools => pools.bind fun pools =>
        occupied (pools.erase pool)) }

/-- Removes both directions of a pool between two tokens, and says whether there was one. -/
def deleteEdge (g : Graph) (a b : TokenId) (pool : PoolId) : Bool × Graph :=
  (g.joins a b pool || g.joins b a pool, (g.cut a b pool).cut b a pool)

/-- Keeps the record that a pool already has. -/
def addPool (g : Graph) (p : Pool) : Graph :=
  { g with pools := g.pools.insertIfNew p.id p }

/-- Removes a pool's record, the edges between its tokens, its fee and its ticks. -/
def deletePool (g : Graph) (pool : PoolId) : Except GraphError (Pool × Graph) :=
  match g.pools[pool]? with
  | none => .error (.unknownPool pool)
  | some p =>
    let (_, g) := g.deleteEdge p.token0 p.token1 pool
    .ok (p, { g with
      pools := g.pools.erase pool, fees := g.fees.erase pool, ticks := g.ticks.erase pool })

def poolFee (g : Graph) (pool : PoolId) : Nat := g.fees.getD pool g.defaultFee

def setPoolFee (g : Graph) (pool : PoolId) (fee : Nat) : Graph :=
  { g with fees := g.fees.insert pool fee }

def setTicks (g : Graph) (pool : PoolId) (ticks : TickList) : Graph :=
  { g with ticks := g.ticks.insert pool ticks }

end Graph

end LiquidityGraph
