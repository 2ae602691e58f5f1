import LiquidityGraph.Graph.Basic

/-!
Logs applied to a graph: both directions of the logging pool on the chain are updated, or
neither is.
-/
namespace LiquidityGraph.Graph

/-- The stored directions of a pool on a chain, with their keys. -/
def directions (g : Graph) (pool : PoolId) (chain : ChainId) :
    Except GraphError (List (EdgeKey × Edge)) :=
  match g.pools[pool]? with
  | none => .error (.unknownPool pool)
  | some p => .ok ((p.keys pool chain).filterMap fun key => (g.edge? key).map (key, ·))

/-- An edge with a new state, and what it pays in that state. -/
structure Revision where
  key : EdgeKey
  edge : Edge
  observation : Observation

/-- What a log makes of an edge, absent when the edge does not know the event. -/
def revise (log : Log) (ctx : LogContext) (entry : EdgeKey × Edge) :
    Except GraphError (Option Revision) :=
  match entry.2.update log ctx with
  | .error cause => .error (.edge entry.1.pool cause)
  | .ok (edge, observation) => .ok (observation.map (⟨entry.1, edge, ·⟩))

def commit (g : Graph) (revisions : List Revision) : Graph :=
  revisions.foldl (fun g r => g.setEdge r.key r.edge) g

def applyLog (g : Graph) (log : Log) (ctx : LogContext) :
    Except GraphError (Graph × List Observation) := do
  let current ← g.directions (PoolId.ofAddress log.address) ctx.chain
  let revisions := (← current.mapM (revise log ctx)).filterMap id
  return (g.commit revisions, revisions.map (·.observation))

def dispatch (g : Graph) (log : Log) (ctx : LogContext) : Graph × List Observation :=
  match g.applyLog log ctx with
  | .ok r => r
  | .error _ => (g, [])

end LiquidityGraph.Graph
