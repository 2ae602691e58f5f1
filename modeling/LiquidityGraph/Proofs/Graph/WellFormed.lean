import LiquidityGraph.Proofs.Edge.Snapshot
import LiquidityGraph.Proofs.Graph.Levels
import LiquidityGraph.Proofs.Tick.List

/-!
Well-formed graphs: what the types of a graph's parts promise, and every operation on a graph
keeps. The operations are the only way to make a graph.
-/
namespace LiquidityGraph

namespace TickList

/-- Tick lists come from accepted ticks only. -/
def Accepted (l : TickList) : Prop :=
  ∃ ticks spacing, ofList ticks spacing = .ok l

theorem Accepted.ofList {l : TickList} (h : l.Accepted) :
    TickList.ofList l.ticks l.spacing = .ok l := by
  obtain ⟨ticks, spacing, h⟩ := h
  have hordered := (ofList_eq_ok h).1
  unfold TickList.ofList at h ⊢
  split_ifs at h with hspacing
  · cases h
  obtain ⟨⟨⟩, hcheck, h⟩ := bind_eq_ok.mp h
  cases h
  have hsorted : (ticks.mergeSort fun a b => a.index ≤ b.index).mergeSort
      (fun a b => a.index ≤ b.index) = ticks.mergeSort fun a b => a.index ≤ b.index :=
    List.mergeSort_of_pairwise
      (hordered.ascending.imp fun hlt => decide_eq_true (Int.le_of_lt hlt))
  simp only [hspacing, if_false, hsorted, hcheck]
  rfl

end TickList

namespace Graph

structure WellFormed (g : Graph) : Prop where
  /-- A record stands under its own id. -/
  pools (id : PoolId) (p : Pool) : g.pools[id]? = some p → p.id = id
  ticks (id : PoolId) (l : TickList) : g.ticks[id]? = some l → l.Accepted
  /-- The numbers of an edge are machine words. -/
  edges (key : EdgeKey) (edge : Edge) : g.edge? key = some edge → edge.snapshot.Sized
  occupied : g.Occupied

namespace WellFormed

theorem empty (fee : Nat) : (Graph.empty fee).WellFormed where
  pools _ _ h := by simp [Graph.empty] at h
  ticks _ _ h := by simp [Graph.empty] at h
  edges _ _ h := by simp [Graph.empty, edge?_eq_bind] at h
  occupied := .empty fee

theorem addPool {g : Graph} (h : g.WellFormed) (p : Pool) : (g.addPool p).WellFormed where
  pools id q hq := by
    simp only [Graph.addPool, Std.ExtTreeMap.getElem?_insertIfNew,
      Std.LawfulEqCmp.compare_eq_iff_eq] at hq
    split_ifs at hq with hid
    · cases hq
      exact hid.1
    · exact h.pools id q hq
  ticks := h.ticks
  edges := h.edges
  occupied := h.occupied.of_edges rfl

theorem setEdge {g : Graph} (h : g.WellFormed) (key : EdgeKey) {edge : Edge}
    (hedge : edge.snapshot.Sized) : (g.setEdge key edge).WellFormed where
  pools := h.pools
  ticks := h.ticks
  edges k e he := by
    rw [edge?_setEdge] at he
    split_ifs at he
    · cases he
      exact hedge
    · exact h.edges k e he
  occupied := h.occupied.setEdge key edge

theorem deleteEdge {g : Graph} (h : g.WellFormed) (a b : TokenId) (pool : PoolId) :
    (g.deleteEdge a b pool).2.WellFormed where
  pools := h.pools
  ticks := h.ticks
  edges k e he := by
    rw [edge?_deleteEdge] at he
    split_ifs at he
    exact h.edges k e he
  occupied := h.occupied.deleteEdge a b pool

theorem deletePool {g g' : Graph} (h : g.WellFormed) {pool : PoolId} {p : Pool}
    (hg : g.deletePool pool = .ok (p, g')) : g'.WellFormed := by
  obtain ⟨-, hwithout⟩ := deletePool_eq_ok hg
  exact {
    pools := fun id q hq => by
      rw [hwithout.pools] at hq
      split_ifs at hq
      exact h.pools id q hq
    ticks := fun id l hl => by
      rw [hwithout.ticks] at hl
      split_ifs at hl
      exact h.ticks id l hl
    edges := fun k e he => by
      rw [hwithout.edges] at he
      split_ifs at he
      exact h.edges k e he
    occupied := h.occupied.deletePool hg }

theorem setPoolFee {g : Graph} (h : g.WellFormed) (pool : PoolId) (fee : Nat) :
    (g.setPoolFee pool fee).WellFormed :=
  ⟨h.pools, h.ticks, h.edges, h.occupied.of_edges rfl⟩

theorem setTicks {g : Graph} (h : g.WellFormed) (pool : PoolId) {l : TickList} (hl : l.Accepted) :
    (g.setTicks pool l).WellFormed where
  pools := h.pools
  ticks id l' hl' := by
    simp only [Graph.setTicks, Std.ExtTreeMap.getElem?_insert] at hl'
    split_ifs at hl'
    · cases hl'
      exact hl
    · exact h.ticks id l' hl'
  edges := h.edges
  occupied := h.occupied.of_edges rfl

end WellFormed

/-- The graphs that the operations make. -/
inductive Built : Graph → Prop where
  | empty (fee : Nat) : Built (Graph.empty fee)
  | addPool {g : Graph} (p : Pool) : Built g → Built (g.addPool p)
  | setEdge {g : Graph} (key : EdgeKey) (edge : Edge) :
    edge.snapshot.Sized → Built g → Built (g.setEdge key edge)
  | deleteEdge {g : Graph} (a b : TokenId) (pool : PoolId) : Built g → Built (g.deleteEdge a b pool).2
  | deletePool {g g' : Graph} {pool : PoolId} {p : Pool} :
    g.deletePool pool = .ok (p, g') → Built g → Built g'
  | setPoolFee {g : Graph} (pool : PoolId) (fee : Nat) : Built g → Built (g.setPoolFee pool fee)
  | setTicks {g : Graph} (pool : PoolId) (l : TickList) :
    l.Accepted → Built g → Built (g.setTicks pool l)

theorem Built.wellFormed {g : Graph} (h : g.Built) : g.WellFormed := by
  induction h with
  | empty fee => exact .empty fee
  | addPool p _ ih => exact ih.addPool p
  | setEdge key edge hedge _ ih => exact ih.setEdge key hedge
  | deleteEdge a b pool _ ih => exact ih.deleteEdge a b pool
  | deletePool hdelete _ ih => exact ih.deletePool hdelete
  | setPoolFee pool fee _ ih => exact ih.setPoolFee pool fee
  | setTicks pool l hl _ ih => exact ih.setTicks pool hl

end Graph

end LiquidityGraph
