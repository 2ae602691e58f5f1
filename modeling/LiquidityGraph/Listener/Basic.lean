import LiquidityGraph.Graph.Update
import LiquidityGraph.Listener.Feed
import LiquidityGraph.Listener.Range
import LiquidityGraph.Store.Access

/-!
A listener follows one chain: it fetches the logs of each range of new blocks, applies them to
the graph, records the observations, and checkpoints the last block of the range.
-/
namespace LiquidityGraph

structure Listener where
  context : LogContext
  start : Option Nat
  maxRange : Nat
  poll : Nat
  retry : Nat

inductive ListenError where
  | store (error : StoreError)
  | head
  | logs (range : BlockRange)
  | checkpoint (block : Nat)
  deriving DecidableEq, Repr

def ListenError.message : ListenError → String
  | .store error => error.message
  | .head => "Failed to get latest block"
  | .logs range =>
    "Failed to get logs for blocks " ++ Decimal.ofNat range.first ++ "..=" ++
      Decimal.ofNat range.last
  | .checkpoint block => "Failed to update last block to " ++ Decimal.ofNat block

structure Station where
  feed : Feed
  connection : Connection
  graph : Graph

/-- Work that keeps its effects when it fails. -/
abbrev Work (α : Type) := ExceptT ListenError (StateM Station) α

namespace Work

def access {α : Type} (a : Access α) (wrap : StoreError → ListenError) : Work α :=
  fun s =>
    let (r, connection) := a.run.run s.connection
    (r.mapError wrap, { s with connection })

def request {α : Type} (ask : Feed → Option α × Feed) (error : ListenError) : Work α :=
  fun s =>
    let (r, feed) := ask s.feed
    (match r with
      | some a => .ok a
      | none => .error error, { s with feed })

end Work

/-- By block and place in it; a log without a block or a place comes first. -/
def Log.notAfter (a b : Log) : Bool :=
  (compare a.block b.block).then (compare a.index b.index) != .gt

def Graph.dispatchAll (ctx : LogContext) : Graph → List Log → Graph × List Observation
  | g, [] => (g, [])
  | g, log :: logs =>
    let (g, os) := g.dispatch log ctx
    let (g, rest) := dispatchAll ctx g logs
    (g, os ++ rest)

namespace Listener

def head : Work Nat := Work.request Feed.head .head

/-- The last block processed: the checkpoint, or else the one before the start, or the head. -/
def resume (l : Listener) : Work Nat := do
  match ← Work.access (Access.checkpoint l.context.chain) .store with
  | some block => return block
  | none =>
    match l.start with
    | some block => return block - 1
    | none => head

def topics (l : Listener) : List Nat := [l.context.sync, l.context.swap]

def fetch (l : Listener) (range : BlockRange) : Work (List Log) := do
  let logs ← Work.request (·.logs range.first range.last l.topics) (.logs range)
  return logs.mergeSort Log.notAfter

def applyLogs (l : Listener) (logs : List Log) : Work (List Observation) :=
  fun s =>
    let (graph, os) := s.graph.dispatchAll l.context logs
    (.ok os, { s with graph })

/-- A record that is refused is lost. -/
def record (o : Observation) : Work Unit :=
  fun s => (.ok (), { s with connection := ((Access.record o).run.run s.connection).2 })

def process (l : Listener) (range : BlockRange) : Work Nat := do
  let os ← l.applyLogs (← l.fetch range)
  os.forM record
  Work.access (Access.setCheckpoint l.context.chain range.last) fun _ => .checkpoint range.last
  return os.length

/-- Polls once; returns the last block processed and the head, if there was something new. -/
def step (l : Listener) (last : Nat) : Work (Option (Nat × Nat)) := do
  let head ← head
  match BlockRange.next last head l.maxRange with
  | none => return none
  | some range =>
    let _ ← l.process range
    return some (range.last, head)

/-- The block to go on from, and the time to wait, after a step. -/
def pause (l : Listener) (last : Nat) : Except ListenError (Option (Nat × Nat)) → Nat × Nat
  | .ok (some (processed, head)) => (processed, if processed < head then 0 else l.poll)
  | .ok none => (last, l.poll)
  | .error _ => (last, l.retry)

def follow (l : Listener) : Nat → Nat → Nat → Station → Nat × Station
  | 0, _, elapsed, s => (elapsed, s)
  | fuel + 1, last, elapsed, s =>
    let (outcome, s) := (l.step last).run.run s
    let (last, wait) := l.pause last outcome
    if s.feed.closed then (elapsed, s) else l.follow fuel last (elapsed + wait) s

def awaitStart (l : Listener) : Nat → Nat → Station → Option Nat × Nat × Station
  | 0, elapsed, s => (none, elapsed, s)
  | fuel + 1, elapsed, s =>
    match l.resume.run.run s with
    | (.ok last, s) => (some last, elapsed, s)
    | (.error _, s) =>
      if s.feed.closed then (none, elapsed, s) else l.awaitStart fuel (elapsed + l.retry) s

/-- More attempts than the feed and the store can make fail. -/
def attempts (s : Station) : Nat :=
  s.feed.replies.length + s.connection.outages .checkpoint + 1

/-- Follows the chain until the feed closes, and returns the time waited. -/
def run (l : Listener) (s : Station) : Nat × Station :=
  let s := { s with feed := { s.feed with closed := false } }
  match l.awaitStart (attempts s) 0 s with
  | (none, elapsed, s) => (elapsed, s)
  | (some last, elapsed, s) => l.follow (attempts s) last elapsed s

end Listener

end LiquidityGraph
