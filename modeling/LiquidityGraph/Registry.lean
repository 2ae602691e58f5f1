import LiquidityGraph.Route.Hop
import LiquidityGraph.Text.Upcase

/-! Configured tokens by chain. Chains are found in any case, and so are token addresses. -/
namespace LiquidityGraph

open Std (ExtTreeMap)

structure TokenInfo where
  address : String
  symbol : String := ""
  name : String := ""
  home : String := ""
  remote : String := ""
  deriving DecidableEq, Repr

/-- The tokens of each chain, under its upper-case name and in the order of insertion. -/
structure Registry where
  chains : ExtTreeMap String (List TokenInfo)

namespace Registry

def empty : Registry := ⟨∅⟩

def entries (r : Registry) (chain : String) : List TokenInfo :=
  r.chains.getD (Text.upcase chain) []

def insert (r : Registry) (chain : String) (token : TokenInfo) : Registry :=
  ⟨r.chains.insert (Text.upcase chain) (r.entries chain ++ [token])⟩

def setChain (r : Registry) (chain : String) (tokens : List TokenInfo) : Registry :=
  ⟨r.chains.insert (Text.upcase chain) tokens⟩

def tokens (r : Registry) (chain : String) : List TokenId :=
  (r.entries chain).map fun t => TokenId.ofConfig t.address

def chainNames (r : Registry) : List String := r.chains.keys

/-- The first token of a chain whose configured address is the given text, in any case. -/
def lookup (r : Registry) (token chain : String) : Option TokenInfo :=
  (r.entries chain).find? fun t => Text.sameIgnoringCase t.address token

/-- The bridge contracts configured for a token. -/
def mapping (r : Registry) (token : TokenId) (chain : ChainId) : Mapping :=
  match r.lookup token.text chain.text with
  | some t => ⟨t.home, t.remote⟩
  | none => .none

end Registry

end LiquidityGraph
