import LiquidityGraph.Graph.Update
import LiquidityGraph.Proofs.Except
import Mathlib.Tactic.Tauto

/-!
What logs make of edges. A log either leaves an edge as it is, or replaces its state by what the
log spells; so it does not matter which state that was.
-/
namespace LiquidityGraph

def Log.reserves (log : Log) : Except ReadError (Nat × Nat) := do
  return (← Bytes.word log.data 0, ← Bytes.word log.data 1)

def Log.position (log : Log) : Except ReadError (Nat × Nat × Int) := do
  let price ← Bytes.word log.data 2
  let liquidity ← Bytes.toUInt128 (← Bytes.word log.data 3)
  let tick ← Concentrated.tickInRange (← Bytes.toInt32 (← Bytes.signedWord log.data 4))
  return (price, liquidity, tick)

theorem ConstantProduct.sync_eq_map (e : ConstantProduct) (log : Log) :
    e.sync log = log.reserves.map fun r => { e with reserve0 := r.1, reserve1 := r.2 } := by
  change _ = _ <$> log.reserves
  simp only [sync, Log.reserves, map_bind, map_pure]

theorem Concentrated.reprice_eq_map (e : Concentrated) (log : Log) :
    e.reprice log =
      log.position.map fun p => { e with price := p.1, liquidity := p.2.1, tick := p.2.2 } := by
  change _ = _ <$> log.position
  simp only [reprice, Log.position, map_bind, map_pure]

namespace Edge

/-- The part of an edge that no log changes. -/
def frame : Edge → Edge
  | .constantProduct e => .constantProduct { e with reserve0 := 0, reserve1 := 0 }
  | .concentrated e => .concentrated { e with price := 0, liquidity := 0, tick := 0, rate := none }
  | .bridge e => .bridge e

/-- An edge that a log changes is the same edge with what the log spells. -/
theorem update_frame {edge edge' : Edge} {log : Log} {ctx : LogContext} {o : Option Observation}
    (h : edge.update log ctx = .ok (edge', o)) : edge'.frame = edge.frame := by
  cases edge with
  | constantProduct e =>
    simp only [update, ConstantProduct.sync_eq_map] at h
    split at h
    · split at h
      · cases h
      · rename_i hsync
        obtain ⟨r, -, rfl⟩ := map_eq_ok.mp hsync
        cases h
        rfl
    · cases h
      rfl
  | concentrated e =>
    simp only [update, Concentrated.reprice_eq_map] at h
    split at h
    · split at h
      · cases h
      · rename_i hreprice
        obtain ⟨p, -, rfl⟩ := map_eq_ok.mp hreprice
        cases h
        rfl
    · cases h
      rfl
  | bridge e =>
    cases h
    rfl

/-- The log is a complete report of the event that the edge listens to. -/
def Heeds (edge : Edge) (log : Log) (ctx : LogContext) : Prop :=
  match edge with
  | .constantProduct _ => log.hasTopic ctx.sync ∧ ∃ r, log.reserves = .ok r
  | .concentrated _ => log.hasTopic ctx.swap ∧ ∃ p, log.position = .ok p
  | .bridge _ => False

theorem Heeds.update {edge : Edge} {log : Log} {ctx : LogContext} (h : edge.Heeds log ctx) :
    ∃ edge' o, edge.update log ctx = .ok (edge', some o) := by
  cases edge with
  | constantProduct e =>
    obtain ⟨htopic, r, hr⟩ := h
    simp only [Edge.update, if_pos htopic, ConstantProduct.sync_eq_map, hr]
    exact ⟨_, _, rfl⟩
  | concentrated e =>
    obtain ⟨htopic, p, hp⟩ := h
    simp only [Edge.update, if_pos htopic, Concentrated.reprice_eq_map, hp]
    exact ⟨_, _, rfl⟩
  | bridge e => exact h.elim

end Edge

namespace Graph

theorem revise_eq_some {log : Log} {ctx : LogContext} {entry : EdgeKey × Edge} {r : Revision} :
    revise log ctx entry = .ok (some r) ↔
      entry.2.update log ctx = .ok (r.edge, some r.observation) ∧ r.key = entry.1 := by
  unfold revise
  cases entry.2.update log ctx with
  | error cause => simp
  | ok result =>
    obtain ⟨edge, o⟩ := result
    cases o with
    | none => simp
    | some o =>
      cases r
      simp only [Option.map_some, Except.ok.injEq, Option.some.injEq, Revision.mk.injEq,
        Prod.mk.injEq]
      tauto

end Graph

end LiquidityGraph
