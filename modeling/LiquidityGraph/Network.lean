import LiquidityGraph.Graph.Update
import LiquidityGraph.Route.Search

/-! A graph together with what is configured for its queries. -/
namespace LiquidityGraph

structure Network where
  graph : Graph
  mappings : Mappings := fun _ _ => .none
  origin : ChainId := ⟨"avalanche"⟩

namespace Network

def route (n : Network) (source dest : TokenId) (amount : Nat) : Route :=
  ⟨amount, Search.Query.hops ⟨source, dest, amount, n.mappings⟩ n.graph⟩

end Network

end LiquidityGraph
