import LiquidityGraph.Address

/-! What a chain's node returns when functions of contracts are called. -/
namespace LiquidityGraph

/-- The replies to one call, in turn; the last one is repeated. An absent reply is a refusal. -/
structure CallReplies where
  target : Address
  data : List UInt8
  replies : List (Option (List UInt8))
  deriving DecidableEq, Repr

structure Node where
  entries : List CallReplies
  calls : Nat
  deriving DecidableEq, Repr

namespace Node

def ofEntries (entries : List CallReplies) : Node := ⟨entries, 0⟩

def silent : Node := ofEntries []

def CallReplies.next (e : CallReplies) : Option (List UInt8) × CallReplies :=
  match e.replies with
  | [] => (none, e)
  | [reply] => (reply, e)
  | reply :: replies => (reply, { e with replies })

def has (n : Node) (target : Address) (data : List UInt8) : Bool :=
  n.entries.any fun e => e.target = target && e.data == data

def take (target : Address) (data : List UInt8) :
    List CallReplies → Option (List UInt8) × List CallReplies
  | [] => (none, [])
  | e :: es =>
    if e.target = target ∧ e.data = data then
      let (reply, e) := CallReplies.next e
      (reply, e :: es)
    else
      let (reply, es) := take target data es
      (reply, e :: es)

/-- Calls a contract; an entry for the selector alone stands for all calls not listed. -/
def call (n : Node) (target : Address) (data : List UInt8) : Option (List UInt8) × Node :=
  let key := if n.has target data then data else data.take 4
  let (reply, entries) := take target key n.entries
  (reply, ⟨entries, n.calls + 1⟩)

end Node

end LiquidityGraph
