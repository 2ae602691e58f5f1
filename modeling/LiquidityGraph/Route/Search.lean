import LiquidityGraph.Graph.Basic
import LiquidityGraph.Route.Hop

/-!
The search for a route. Tokens are labelled with the hop that brings them the greatest amount,
breadth first from the source; a pool is used once in a search. The route is read back from the
labels.
-/
namespace LiquidityGraph.Search

open Std (ExtTreeMap)

structure Query where
  source : TokenId
  dest : TokenId
  amount : Nat
  mappings : Mappings

structure State where
  labels : ExtTreeMap TokenId Hop
  visited : List PoolId
  queue : List TokenId

structure Offer where
  amount : Nat
  pool : PoolId
  chain : ChainId
  deriving DecidableEq, Repr

/-- The offers of unvisited pools, by pool and then by chain. -/
def offers (visited : List PoolId) (amount : Nat) (pools : PoolEdges) : List Offer :=
  pools.toList.flatMap fun (pool, chains) =>
    if visited.contains pool then []
    else chains.toList.filterMap fun (chain, edge) =>
      if edge.quote amount = 0 then none else some ⟨edge.quote amount, pool, chain⟩

/-- Of two offers the first, unless the second pays more. -/
def better : Option Offer → Offer → Option Offer
  | none, o => some o
  | some best, o => if best.amount < o.amount then some o else some best

/-- The first of the offers that pay most. -/
def best (os : List Offer) : Option Offer := os.foldl better none

/-- The amount that has reached a token. -/
def Query.amountAt (q : Query) (s : State) (token : TokenId) : Option Nat :=
  match s.labels[token]? with
  | some hop => some hop.amountOut
  | none => if token = q.source then some q.amount else none

def Query.hop (q : Query) (token target : TokenId) (o : Offer) : Hop :=
  ⟨token, o.pool, o.amount, o.chain, target, q.mappings target o.chain⟩

/-- Takes an offer: its pool is used up, and the target is labelled if it gets more. -/
def Query.take (q : Query) (token target : TokenId) (s : State) (o : Offer) : State :=
  let improves : Bool :=
    match q.amountAt s target with
    | some amount => amount < o.amount
    | none => true
  { labels := if improves then s.labels.insert target (q.hop token target o) else s.labels
    visited := o.pool :: s.visited
    queue := s.queue ++ [target] }

def Query.relax (q : Query) (token : TokenId) (amount : Nat) (s : State)
    (entry : TokenId × PoolEdges) : State :=
  match best (offers s.visited amount entry.2) with
  | some o => q.take token entry.1 s o
  | none => s

/-- Visits the targets of a token, in ascending order. -/
def Query.expand (q : Query) (g : Graph) (s : State) (token : TokenId) : State :=
  match q.amountAt s token, g.neighbors token with
  | some amount, some targets => targets.toList.foldl (q.relax token amount) s
  | _, _ => s

/-- Expands the tokens of the queue, at most `fuel` of them. -/
def Query.drain (q : Query) (g : Graph) : Nat → State → State
  | 0, s => s
  | fuel + 1, s =>
    match s.queue with
    | [] => s
    | token :: queue => q.drain g fuel (q.expand g { s with queue } token)

def Query.start (q : Query) : State := ⟨∅, [], [q.source]⟩

/-- Each token of the queue but the source is there for a pool of its own. -/
def Query.run (q : Query) (g : Graph) : State :=
  q.drain g (g.edgeList.length + 1) q.start

/-- Follows the labels back from a token, until the source or a token already seen. -/
def readBack (labels : ExtTreeMap TokenId Hop) (source : TokenId) :
    Nat → List TokenId → TokenId → List Hop → List Hop
  | 0, _, _, path => path
  | fuel + 1, seen, token, path =>
    if token = source ∨ token ∈ seen then path
    else
      match labels[token]? with
      | none => path
      | some hop => readBack labels source fuel (token :: seen) hop.tokenIn (hop :: path)

/-- The hops from the source to the destination, none when it was not reached. -/
def Query.hops (q : Query) (g : Graph) : List Hop :=
  if q.source = q.dest then []
  else
    let labels := (q.run g).labels
    readBack labels q.source (labels.size + 1) [] q.dest []

end LiquidityGraph.Search
