import LiquidityGraph.Proofs.Fold
import LiquidityGraph.Proofs.Graph.Levels

/-! Many pools, tick lists, fees or edges put into a graph one behind the other. -/
namespace LiquidityGraph.Graph

theorem foldl_addPool (ps : List Pool) (g : Graph) :
    ps.foldl addPool g = { g with
      pools := (ps.map fun p => (p.id, p)).foldl (fun m x => m.insertIfNew x.1 x.2) g.pools } := by
  rw [List.foldl_map]
  refine List.foldl_hom (fun m => { g with pools := m }) ?_
  exact fun _ _ => rfl

theorem foldl_setTicks (xs : List (PoolId × TickList)) (g : Graph) :
    xs.foldl (fun g x => g.setTicks x.1 x.2) g =
      { g with ticks := xs.foldl (fun m x => m.insert x.1 x.2) g.ticks } := by
  refine List.foldl_hom (fun m => { g with ticks := m }) ?_
  exact fun _ _ => rfl

theorem foldl_setPoolFee (xs : List (PoolId × Nat)) (g : Graph) :
    xs.foldl (fun g x => g.setPoolFee x.1 x.2) g =
      { g with fees := xs.foldl (fun m x => m.insert x.1 x.2) g.fees } := by
  refine List.foldl_hom (fun m => { g with fees := m }) ?_
  exact fun _ _ => rfl

theorem foldl_setEdge (xs : List (EdgeKey × Edge)) (g : Graph) :
    xs.foldl (fun g x => g.setEdge x.1 x.2) g =
      { g with edges := (xs.foldl (fun g x => g.setEdge x.1 x.2) g).edges } := by
  refine List.foldl_hom (fun g' : Graph => { g with edges := g'.edges }) ?_
  exact fun _ _ => rfl

@[simp] theorem edge?_foldl_setEdge (xs : List (EdgeKey × Edge)) (g : Graph) (k : EdgeKey) :
    (xs.foldl (fun g x => g.setEdge x.1 x.2) g).edge? k =
      (xs.reverse.lookup k).or (g.edge? k) :=
  foldl_set edge? (fun g x => g.setEdge x.1 x.2) (fun g x k => edge?_setEdge g x.1 x.2 k) xs g k

theorem Occupied.foldl_setEdge {g : Graph} (h : g.Occupied) (xs : List (EdgeKey × Edge)) :
    (xs.foldl (fun g x => g.setEdge x.1 x.2) g).Occupied := by
  induction xs generalizing g with
  | nil => exact h
  | cons x xs ih => exact ih (h.setEdge x.1 x.2)

end LiquidityGraph.Graph
