import LiquidityGraph.Proofs.Graph.Edges
import LiquidityGraph.Route.Hop

/-! Walks through the stored edges of a graph, and what an amount becomes on them. -/
namespace LiquidityGraph

/-- Where the edge that a hop takes is stored. -/
def Hop.key (h : Hop) : EdgeKey := ⟨h.tokenIn, h.tokenOut, h.pool, h.chain⟩

namespace Graph

/-- `g.Walk s a t b`: stored edges in a row exchange `a` of token `s` for `b` of token `t`. -/
inductive Walk (g : Graph) (s : TokenId) (a : Nat) : TokenId → Nat → Prop
  | stay : Walk g s a s a
  | step {b : Nat} {key : EdgeKey} {edge : Edge} :
      Walk g s a key.source b → g.edge? key = some edge → Walk g s a key.target (edge.quote b)

/-- What an amount becomes after each of some hops, each priced by its stored edge. -/
def feed (g : Graph) : Nat → List Hop → Option (List Nat)
  | _, [] => some []
  | amount, h :: hs => do
    let edge ← g.edge? h.key
    let rest ← g.feed (edge.quote amount) hs
    return edge.quote amount :: rest

end Graph

end LiquidityGraph
