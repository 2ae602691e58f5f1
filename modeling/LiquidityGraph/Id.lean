import LiquidityGraph.Address
import Std.Data.ExtTreeMap

/-!
Names of tokens, pools and chains. A token or pool on a chain is named by its checksummed
address, any other by a label; names are ordered by their characters.
-/
namespace LiquidityGraph

/-- The same asset on two chains is two tokens. -/
structure TokenId where
  text : String
  deriving DecidableEq, Repr

/-- Shared by the two directions of a pool. -/
structure PoolId where
  text : String
  deriving DecidableEq, Repr

structure ChainId where
  text : String
  deriving DecidableEq, Repr

instance : Ord TokenId := ⟨compareOn TokenId.text⟩
instance : Ord PoolId := ⟨compareOn PoolId.text⟩
instance : Ord ChainId := ⟨compareOn ChainId.text⟩

instance : Std.TransOrd TokenId := inferInstanceAs (Std.TransCmp (compareOn TokenId.text))
instance : Std.TransOrd PoolId := inferInstanceAs (Std.TransCmp (compareOn PoolId.text))
instance : Std.TransOrd ChainId := inferInstanceAs (Std.TransCmp (compareOn ChainId.text))

theorem text_eq_of_compare {α : Type} {text : α → String} {a b : α}
    (h : compareOn text a b = .eq) : text a = text b := by
  have h : compare (text a) (text b) = .eq := h
  exact Std.LawfulEqCmp.eq_of_compare h

instance : Std.LawfulEqOrd TokenId where
  eq_of_compare {a b} h := by
    cases a
    cases b
    exact congrArg TokenId.mk (text_eq_of_compare h)

instance : Std.LawfulEqOrd PoolId where
  eq_of_compare {a b} h := by
    cases a
    cases b
    exact congrArg PoolId.mk (text_eq_of_compare h)

instance : Std.LawfulEqOrd ChainId where
  eq_of_compare {a b} h := by
    cases a
    cases b
    exact congrArg ChainId.mk (text_eq_of_compare h)

namespace TokenId

def ofAddress (a : Address) : TokenId := ⟨a.checksum⟩

def address? (t : TokenId) : Option Address := Address.read? t.text

def isEmpty (t : TokenId) : Bool := t.text.isEmpty

/-- Names a token from configured text: an address is checksummed and a label trimmed. -/
def ofConfig (raw : String) : TokenId :=
  match Address.read? raw with
  | some a => ofAddress a
  | none => ⟨Text.trim raw⟩

/-- The order of a pool's tokens: by address if both have one, by name otherwise. -/
def sortsBefore (a b : TokenId) : Bool :=
  match a.address?, b.address? with
  | some x, some y => x.toNat < y.toNat
  | _, _ => a.text < b.text

end TokenId

namespace PoolId

def ofAddress (a : Address) : PoolId := ⟨a.checksum⟩

def address? (p : PoolId) : Option Address := Address.read? p.text

end PoolId

namespace ChainId

/-- Chains are named in lower case. -/
def normalized (raw : String) : ChainId := ⟨Text.lowerAscii (Text.trim raw)⟩

def configKey (c : ChainId) : String := Text.upperAscii c.text

def isEmpty (c : ChainId) : Bool := c.text.isEmpty

end ChainId

end LiquidityGraph
