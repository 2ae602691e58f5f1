import LiquidityGraph.Graph.Basic

/-! Bridges between chains, given by links of token labels. -/
namespace LiquidityGraph

structure BridgeLink where
  fromChain : String
  fromToken : String
  toChain : String
  toToken : String
  forwardPool : String := "pool"
  backwardPool : String := "pool1"
  deriving DecidableEq, Repr

namespace BridgeLink

def source (l : BridgeLink) : TokenId := TokenId.ofConfig l.fromToken

def target (l : BridgeLink) : TokenId := TokenId.ofConfig l.toToken

/-- Each direction stands on the chain that it leads to. -/
def entries (l : BridgeLink) : List (EdgeKey × Edge) :=
  [(⟨l.source, l.target, ⟨l.forwardPool⟩, ChainId.normalized l.toChain⟩,
      .bridge ⟨l.source, l.target⟩),
    (⟨l.target, l.source, ⟨l.backwardPool⟩, ChainId.normalized l.fromChain⟩,
      .bridge ⟨l.target, l.source⟩)]

end BridgeLink

/-- Inserts both directions of every link. Bridges have no pool record. -/
def Graph.addBridges (g : Graph) (links : List BridgeLink) : Graph :=
  (links.flatMap BridgeLink.entries).foldl (fun g (key, edge) => g.setEdge key edge) g

end LiquidityGraph
