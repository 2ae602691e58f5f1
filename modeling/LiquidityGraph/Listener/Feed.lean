import LiquidityGraph.Log

/-!
What a chain's node answers, reply by reply. A request without a reply is refused and closes the
feed.
-/
namespace LiquidityGraph

inductive Reply where
  | head (block : Nat)
  | logs (logs : List Log)
  | refused
  deriving DecidableEq, Repr

inductive Request where
  | head
  | logs (first last : Nat) (topics : List Nat)
  deriving DecidableEq, Repr

/-- The replies to come, and the requests that took a reply. -/
structure Feed where
  replies : List Reply
  asked : List Request
  closed : Bool
  deriving DecidableEq, Repr

namespace Feed

def ofReplies (replies : List Reply) : Feed := ⟨replies, [], false⟩

def ask (f : Feed) (request : Request) : Reply × Feed :=
  match f.replies with
  | [] => (.refused, { f with closed := true })
  | reply :: replies => (reply, { f with replies, asked := f.asked ++ [request] })

def head (f : Feed) : Option Nat × Feed :=
  match f.ask .head with
  | (.head block, f) => (some block, f)
  | (_, f) => (none, f)

def logs (f : Feed) (first last : Nat) (topics : List Nat) : Option (List Log) × Feed :=
  match f.ask (.logs first last topics) with
  | (.logs logs, f) => (some logs, f)
  | (_, f) => (none, f)

end Feed

end LiquidityGraph
