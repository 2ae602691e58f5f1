import LiquidityGraph.Store.Basic

/-! A store behind a connection: each operation can be refused a number of times. -/
namespace LiquidityGraph

inductive StoreOp where
  | savePool
  | loadPools
  | saveEdges
  | saveTicks
  | loadTicks
  | checkpoint
  | setCheckpoint
  | record
  deriving DecidableEq, Repr

inductive StoreError where
  | down
  deriving DecidableEq, Repr

def StoreError.message : StoreError → String
  | .down => "store down"

/-- The store, and how many of the next calls of each operation are refused. -/
structure Connection where
  store : Store
  outages : StoreOp → Nat

/-- A sequence of store operations that ends with the first one refused. -/
abbrev Access (α : Type) := ExceptT StoreError (StateM Connection) α

namespace Connection

def ofStore (store : Store) : Connection := ⟨store, fun _ => 0⟩

def retry (c : Connection) (op : StoreOp) : Connection :=
  { c with outages := fun o => if o = op then c.outages o - 1 else c.outages o }

def call {α : Type} (op : StoreOp) (f : Store → α × Store) : Access α :=
  fun c =>
    if c.outages op = 0 then
      let (a, store) := f c.store
      (.ok a, { c with store })
    else (.error .down, c.retry op)

end Connection

namespace Access

def query {α : Type} (op : StoreOp) (f : Store → α) : Access α :=
  Connection.call op fun s => (f s, s)

def command (op : StoreOp) (f : Store → Store) : Access Unit :=
  Connection.call op fun s => ((), f s)

def savePool (p : Pool) : Access Unit := command .savePool (·.savePool p)

def loadPools (chain : ChainId) : Access (List Pool) := query .loadPools (·.poolsOn chain)

def saveEdges (records : List EdgeRecord) : Access Unit := command .saveEdges (·.saveEdges records)

def saveTicks (pool : PoolId) (ticks : List Tick) : Access Unit :=
  command .saveTicks (·.saveTicks pool ticks)

/-- Absent when no ticks were saved for the pool. -/
def loadTicks (pool : PoolId) : Access (Option (List Tick)) := query .loadTicks (·.ticks[pool]?)

def checkpoint (chain : ChainId) : Access (Option Nat) := query .checkpoint (·.checkpoints[chain]?)

def setCheckpoint (chain : ChainId) (block : Nat) : Access Unit :=
  command .setCheckpoint (·.setCheckpoint chain block)

def record (o : Observation) : Access Unit := command .record (·.record o)

end Access

end LiquidityGraph
