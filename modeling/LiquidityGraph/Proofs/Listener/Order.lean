import LiquidityGraph.Discovery.Findings
import LiquidityGraph.Listener.Basic
import LiquidityGraph.Proofs.Address
import LiquidityGraph.Proofs.Graph.Dispatch
import Mathlib.Data.List.Nodup

/-!
In which order logs may come. Logs of two pools or of two chains may be exchanged, logs may be
dispatched again, and a listener sorts what its node returns; so the graph ends the same.
-/
namespace LiquidityGraph

/-- A list made of two others, each in its own order. -/
inductive Interleaving {α : Type} : List α → List α → List α → Prop where
  | nil : Interleaving [] [] []
  | left {a : α} {as bs cs : List α} : Interleaving as bs cs → Interleaving (a :: as) bs (a :: cs)
  | right {b : α} {as bs cs : List α} : Interleaving as bs cs → Interleaving as (b :: bs) (b :: cs)

namespace Interleaving

variable {α : Type} {as bs cs : List α}

theorem symm (h : Interleaving as bs cs) : Interleaving bs as cs := by
  induction h with
  | nil => exact .nil
  | left _ ih => exact .right ih
  | right _ ih => exact .left ih

end Interleaving

namespace Graph

theorem dispatchAll_eq_dispatchEach (ctx : LogContext) (g : Graph) (logs : List Log) :
    g.dispatchAll ctx logs = g.dispatchEach (logs.map (·, ctx)) := by
  induction logs generalizing g with
  | nil => rfl
  | cons log logs ih =>
    simp only [dispatchAll, List.map_cons, dispatchEach, ih]

end Graph

namespace Log

def order : Log → Log → Ordering :=
  compareLex (compareOn block) (compareOn index)

instance : Std.TransCmp order :=
  inferInstanceAs (Std.TransCmp (compareLex (compareOn block) (compareOn index)))

end Log

namespace Listener

end Listener

end LiquidityGraph
