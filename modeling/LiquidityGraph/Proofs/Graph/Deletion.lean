import LiquidityGraph.Proofs.Graph.Levels

/-!
Edits of a graph. However they are mixed, no level of the edges is left empty, so that a level is
missing only where there is no edge; and a deletion takes away what it names and nothing else.
-/
namespace LiquidityGraph

namespace Graph

variable {g : Graph}

namespace Occupied

private theorem chains_eq_none_iff (h : g.Occupied) {a b : TokenId} {pool : PoolId} :
    (g.poolsBetween a b).bind (·[pool]?) = none ↔ ∀ chain, g.edge? ⟨a, b, pool, chain⟩ = none := by
  rw [level_eq_none_iff (h.chains a b pool)]
  exact forall_congr' fun chain => by rw [edge?_eq_bind, poolsBetween_eq_bind]

theorem poolsBetween_eq_none_iff (h : g.Occupied) {a b : TokenId} :
    g.poolsBetween a b = none ↔ ∀ pool chain, g.edge? ⟨a, b, pool, chain⟩ = none := by
  rw [level_eq_none_iff (h.pools a b)]
  exact forall_congr' fun pool => h.chains_eq_none_iff

theorem neighbors_eq_none_iff (h : g.Occupied) {a : TokenId} :
    g.neighbors a = none ↔ ∀ b pool chain, g.edge? ⟨a, b, pool, chain⟩ = none := by
  rw [level_eq_none_iff (h.targets a)]
  exact forall_congr' fun b => h.poolsBetween_eq_none_iff

theorem joins_iff (h : g.Occupied) {a b : TokenId} {pool : PoolId} :
    g.joins a b pool ↔ ∃ chain, (g.edge? ⟨a, b, pool, chain⟩).isSome := by
  rw [joins, Option.isSome_iff_ne_none, ne_eq, h.chains_eq_none_iff, Classical.not_forall]
  exact exists_congr fun chain => Option.isSome_iff_ne_none.symm

theorem deleteEdge_iff (h : g.Occupied) {a b : TokenId} {pool : PoolId} :
    (g.deleteEdge a b pool).1 ↔ ∃ k : EdgeKey, k.Between a b pool ∧ (g.edge? k).isSome := by
  rw [Graph.deleteEdge, Bool.or_eq_true, h.joins_iff, h.joins_iff]
  constructor
  · rintro (⟨chain, hedge⟩ | ⟨chain, hedge⟩)
    · exact ⟨_, ⟨rfl, .inl ⟨rfl, rfl⟩⟩, hedge⟩
    · exact ⟨_, ⟨rfl, .inr ⟨rfl, rfl⟩⟩, hedge⟩
  · rintro ⟨⟨s, t, p, chain⟩, ⟨rfl, ⟨rfl, rfl⟩ | ⟨rfl, rfl⟩⟩, hedge⟩
    · exact .inl ⟨chain, hedge⟩
    · exact .inr ⟨chain, hedge⟩

end Occupied

end Graph

/-- What is done to a graph, one thing at a time. -/
inductive Edit where
  | addPool (p : Pool)
  | setEdge (key : EdgeKey) (edge : Edge)
  | deleteEdge (a b : TokenId) (pool : PoolId)
  | deletePool (pool : PoolId)
  | setPoolFee (pool : PoolId) (fee : Nat)
  | setTicks (pool : PoolId) (ticks : TickList)

namespace Edit

/-- The graph after an edit, which is the same when the edit is refused. -/
def apply (g : Graph) : Edit → Graph
  | .addPool p => g.addPool p
  | .setEdge key edge => g.setEdge key edge
  | .deleteEdge a b pool => (g.deleteEdge a b pool).2
  | .deletePool pool =>
    match g.deletePool pool with
    | .ok (_, g) => g
    | .error _ => g
  | .setPoolFee pool fee => g.setPoolFee pool fee
  | .setTicks pool ticks => g.setTicks pool ticks

def run (fee : Nat) (edits : List Edit) : Graph := edits.foldl apply (.empty fee)

end Edit

namespace Graph

variable {g : Graph}

theorem Occupied.apply (h : g.Occupied) (edit : Edit) : (edit.apply g).Occupied := by
  cases edit with
  | addPool p => exact h.of_edges rfl
  | setEdge key edge => exact h.setEdge key edge
  | deleteEdge a b pool => exact h.deleteEdge a b pool
  | deletePool pool =>
    simp only [Edit.apply]
    split
    · rename_i hdelete
      exact h.deletePool hdelete
    · exact h
  | setPoolFee pool fee => exact h.of_edges rfl
  | setTicks pool ticks => exact h.of_edges rfl

theorem Occupied.run (fee : Nat) (edits : List Edit) : (Edit.run fee edits).Occupied :=
  List.foldlRecOn edits Edit.apply (.empty fee) fun _ h edit _ => h.apply edit

/-- However an empty graph is edited, no level of its edges is left empty: nothing is found between
two tokens, or next to a token, only where there is no edge. Deleting a pool's edges between two
tokens takes away those and no others, and says whether there was one; deleting a pool on record
takes away what is its own, and a pool that is not on record is refused. -/
theorem deletion_after_edits (fee : Nat) (edits : List Edit) :
    let g := Edit.run fee edits
    g.Occupied ∧
    (∀ a b, g.poolsBetween a b = none ↔ ∀ pool chain, g.edge? ⟨a, b, pool, chain⟩ = none) ∧
    (∀ a, g.neighbors a = none ↔ ∀ b pool chain, g.edge? ⟨a, b, pool, chain⟩ = none) ∧
    (∀ a b pool,
      (∀ k : EdgeKey, (g.deleteEdge a b pool).2.edge? k =
        if k.Between a b pool then none else g.edge? k) ∧
      ((g.deleteEdge a b pool).1 ↔ ∃ k : EdgeKey, k.Between a b pool ∧ (g.edge? k).isSome) ∧
      (g.deleteEdge a b pool).2 = { g with edges := (g.deleteEdge a b pool).2.edges }) ∧
    (∀ pool p, g.pools[pool]? = some p →
      ∃ g', g.deletePool pool = .ok (p, g') ∧ g'.Without g pool p) ∧
    ∀ pool, g.pools[pool]? = none →
      g.deletePool pool = .error (.unknownPool pool) ∧ (Edit.deletePool pool).apply g = g := by
  intro g
  have h : g.Occupied := .run fee edits
  refine ⟨h, fun a b => h.poolsBetween_eq_none_iff, fun a => h.neighbors_eq_none_iff, ?_, ?_, ?_⟩
  · intro a b pool
    exact ⟨edge?_deleteEdge g a b pool, h.deleteEdge_iff, rfl⟩
  · intro pool p hp
    exact deletePool_of_pools hp
  · intro pool hp
    have hrefused := deletePool_unknown hp
    exact ⟨hrefused, by rw [Edit.apply, hrefused]⟩

end Graph

/-- Two pools between `A` and `B`, one of them on two chains and between `B` and `C` as well. -/
def parallelPools : List Edit :=
  let edge : Edge := .constantProduct ⟨⟨"A"⟩, ⟨"B"⟩, 10, 20, true⟩
  [.addPool ⟨⟨"A"⟩, ⟨"B"⟩, ⟨"P"⟩, "factory", ⟨"coqnet"⟩⟩, .setPoolFee ⟨"P"⟩ 5,
    .setEdge ⟨⟨"A"⟩, ⟨"B"⟩, ⟨"P"⟩, ⟨"coqnet"⟩⟩ edge, .setEdge ⟨⟨"B"⟩, ⟨"A"⟩, ⟨"P"⟩, ⟨"avalanche"⟩⟩ edge,
    .setEdge ⟨⟨"B"⟩, ⟨"C"⟩, ⟨"P"⟩, ⟨"coqnet"⟩⟩ edge, .setEdge ⟨⟨"A"⟩, ⟨"B"⟩, ⟨"Q"⟩, ⟨"coqnet"⟩⟩ edge]

theorem deletion_after_edits_parallel :
    let g := Edit.run 0 parallelPools
    let p : Pool := ⟨⟨"A"⟩, ⟨"B"⟩, ⟨"P"⟩, "factory", ⟨"coqnet"⟩⟩
    g.pools[p.id]? = some p ∧ (g.deleteEdge ⟨"B"⟩ ⟨"A"⟩ p.id).1 ∧
      ∃ g', g.deletePool p.id = .ok (p, g') ∧ g'.Without g p.id p ∧
        (g'.edge? ⟨⟨"B"⟩, ⟨"A"⟩, ⟨"P"⟩, ⟨"avalanche"⟩⟩).isNone ∧
        (g'.edge? ⟨⟨"B"⟩, ⟨"C"⟩, ⟨"P"⟩, ⟨"coqnet"⟩⟩).isSome ∧
        (g'.edge? ⟨⟨"A"⟩, ⟨"B"⟩, ⟨"Q"⟩, ⟨"coqnet"⟩⟩).isSome := by
  intro g p
  have hp : g.pools[p.id]? = some p := by decide +kernel
  obtain ⟨-, -, -, hedge, hpool, -⟩ := Graph.deletion_after_edits 0 parallelPools
  obtain ⟨-, hwhether, -⟩ := hedge ⟨"B"⟩ ⟨"A"⟩ p.id
  obtain ⟨g', hdelete, hwithout⟩ := hpool p.id p hp
  refine ⟨hp, hwhether.mpr ?_, g', hdelete, hwithout, ?_, ?_, ?_⟩
  · exact ⟨⟨⟨"A"⟩, ⟨"B"⟩, ⟨"P"⟩, ⟨"coqnet"⟩⟩, by decide, by decide +kernel⟩
  · rw [hwithout.edges]
    decide +kernel
  · rw [hwithout.edges]
    decide +kernel
  · rw [hwithout.edges]
    decide +kernel

end LiquidityGraph
