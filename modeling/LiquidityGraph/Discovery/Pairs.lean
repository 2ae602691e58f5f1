import LiquidityGraph.Id

/-! The pairs of tokens among which pools are looked for. -/
namespace LiquidityGraph.Discovery

/-- Each element once, where it stands first. -/
def distinct {α : Type} [DecidableEq α] : List α → List α
  | [] => []
  | a :: as => a :: (distinct as).filter (· ≠ a)

def pairsOf {α : Type} : List α → List (α × α)
  | [] => []
  | a :: as => as.map (a, ·) ++ pairsOf as

/-- Every pair of different tokens, in the order in which the tokens first appear. -/
def tokenPairs (tokens : List TokenId) : List (TokenId × TokenId) :=
  pairsOf (distinct tokens)

end LiquidityGraph.Discovery
