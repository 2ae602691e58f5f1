import LiquidityGraph.Graph.Basic
import Mathlib.Tactic.SplitIfs

/-!
The edges of a graph, looked up by key and listed. Setting an edge changes the look-up of its key
only, and deleting a pool's edges between two tokens that of those edges only; with a pool go its
record, its fee and its ticks as well.
-/
namespace LiquidityGraph

open Std (ExtTreeMap)

section Level

variable {κ ν : Type} [Ord κ] [Std.TransOrd κ]

@[simp] theorem getElem?_getD_empty (m : Option (ExtTreeMap κ ν)) (k : κ) :
    (m.getD ∅)[k]? = m.bind (·[k]?) := by
  cases m with
  | none => exact ExtTreeMap.getElem?_empty
  | some m => rfl

@[simp] theorem occupied_bind_getElem? (m : ExtTreeMap κ ν) (k : κ) :
    (occupied m).bind (·[k]?) = m[k]? := by
  unfold occupied
  split_ifs with hempty
  · rw [ExtTreeMap.isEmpty_iff.mp hempty]
    exact ExtTreeMap.getElem?_empty.symm
  · rfl

end Level

/-- The edge leads through the pool from one of the tokens to the other, on any chain. -/
def EdgeKey.Between (k : EdgeKey) (a b : TokenId) (pool : PoolId) : Prop :=
  k.pool = pool ∧ (k.source = a ∧ k.target = b ∨ k.source = b ∧ k.target = a)

instance (k : EdgeKey) (a b : TokenId) (pool : PoolId) : Decidable (k.Between a b pool) :=
  inferInstanceAs (Decidable (_ ∧ _))

namespace Graph

theorem edge?_eq_some {g : Graph} {key : EdgeKey} {edge : Edge} :
    g.edge? key = some edge ↔ ∃ targets pools chains, g.neighbors key.source = some targets ∧
      targets[key.target]? = some pools ∧ pools[key.pool]? = some chains ∧
      chains[key.chain]? = some edge := by
  simp only [edge?, poolsBetween, Option.bind_eq_bind, Option.bind_eq_some_iff]
  constructor
  · rintro ⟨pools, ⟨targets, ht, hp⟩, chains, hc, he⟩
    exact ⟨targets, pools, chains, ht, hp, hc, he⟩
  · rintro ⟨targets, pools, chains, ht, hp, hc, he⟩
    exact ⟨pools, ⟨targets, ht, hp⟩, chains, hc, he⟩

theorem poolsBetween_of_mem {g : Graph} {source : TokenId} {targets : TargetEdges}
    (h : g.neighbors source = some targets) {entry : TokenId × PoolEdges}
    (hentry : entry ∈ targets.toList) : g.poolsBetween source entry.1 = some entry.2 := by
  simp [poolsBetween, h, ExtTreeMap.mem_toList_iff_getElem?_eq_some.mp hentry]

@[simp] theorem mem_edgeList {g : Graph} {key : EdgeKey} {edge : Edge} :
    (key, edge) ∈ g.edgeList ↔ g.edge? key = some edge := by
  simp only [edge?_eq_some, edgeList, List.mem_flatMap, List.mem_map, Prod.exists,
    Std.ExtTreeMap.mem_toList_iff_getElem?_eq_some, Prod.mk.injEq]
  constructor
  · rintro ⟨source, targets, hs, target, pools, ht, pool, chains, hp, chain, edge', hc, rfl, rfl⟩
    exact ⟨targets, pools, chains, hs, ht, hp, hc⟩
  · rintro ⟨targets, pools, chains, hs, ht, hp, hc⟩
    exact ⟨_, targets, hs, _, pools, ht, _, chains, hp, _, edge, hc, rfl, rfl⟩

theorem edge?_eq_bind (g : Graph) (key : EdgeKey) :
    g.edge? key = (((g.edges[key.source]?.bind (·[key.target]?)).bind (·[key.pool]?)).bind
      (·[key.chain]?)) := by
  simp only [edge?, poolsBetween, neighbors, Option.bind_eq_bind, Option.bind_assoc]

@[simp] theorem edge?_setEdge (g : Graph) (key : EdgeKey) (edge : Edge) (k : EdgeKey) :
    (g.setEdge key edge).edge? k = if key = k then some edge else g.edge? k := by
  obtain ⟨source, target, pool, chain⟩ := key
  obtain ⟨s, t, p, c⟩ := k
  simp only [edge?_eq_bind, setEdge, ExtTreeMap.getElem?_insert, ExtTreeMap.getD_eq_getD_getElem?,
    Std.LawfulEqCmp.compare_eq_iff_eq, EdgeKey.mk.injEq]
  by_cases hs : source = s
  · by_cases ht : target = t
    · by_cases hp : pool = p
      · simp [hs, ht, hp, ExtTreeMap.getElem?_insert]
      · simp [hs, ht, hp, ExtTreeMap.getElem?_insert]
    · simp [hs, ht, ExtTreeMap.getElem?_insert]
  · simp [hs]

theorem edge?_cut (g : Graph) (source target : TokenId) (pool : PoolId) (k : EdgeKey) :
    (g.cut source target pool).edge? k =
      if k.source = source ∧ k.target = target ∧ k.pool = pool then none else g.edge? k := by
  obtain ⟨s, t, p, c⟩ := k
  simp only [edge?_eq_bind, cut, ExtTreeMap.getElem?_alter, Std.LawfulEqCmp.compare_eq_iff_eq,
    eq_comm (a := s), eq_comm (a := t), eq_comm (a := p)]
  by_cases hs : source = s
  · simp only [hs, if_true, true_and]
    cases g.edges[s]? with
    | none => simp
    | some targets =>
      simp only [Option.bind_some, occupied_bind_getElem?, ExtTreeMap.getElem?_alter,
        Std.LawfulEqCmp.compare_eq_iff_eq]
      by_cases ht : target = t
      · simp only [ht, if_true, true_and]
        cases targets[t]? with
        | none => simp
        | some pools =>
          simp only [Option.bind_some, occupied_bind_getElem?, ExtTreeMap.getElem?_erase,
            Std.LawfulEqCmp.compare_eq_iff_eq]
          by_cases hp : pool = p <;> simp [hp]
      · simp [ht]
  · simp [hs]

/-- Both directions of the pool are removed between the two tokens, on all chains. -/
@[simp] theorem edge?_deleteEdge (g : Graph) (a b : TokenId) (pool : PoolId) (k : EdgeKey) :
    (g.deleteEdge a b pool).2.edge? k = if k.Between a b pool then none else g.edge? k := by
  simp only [deleteEdge, edge?_cut, EdgeKey.Between]
  grind

/-- What is left when a pool on record is deleted from a graph: the record, the fee and the ticks of
the pool are gone, and its edges between the two tokens of the record. -/
structure Without (g' g : Graph) (pool : PoolId) (p : Pool) : Prop where
  pools (id : PoolId) : g'.pools[id]? = if pool = id then none else g.pools[id]?
  fees (id : PoolId) : g'.fees[id]? = if pool = id then none else g.fees[id]?
  ticks (id : PoolId) : g'.ticks[id]? = if pool = id then none else g.ticks[id]?
  edges (k : EdgeKey) : g'.edge? k = if k.Between p.token0 p.token1 pool then none else g.edge? k
  defaultFee : g'.defaultFee = g.defaultFee

theorem deletePool_of_pools {g : Graph} {pool : PoolId} {p : Pool} (hp : g.pools[pool]? = some p) :
    ∃ g', g.deletePool pool = .ok (p, g') ∧ g'.Without g pool p := by
  have herase : ∀ {ν : Type} (m : ExtTreeMap PoolId ν) (id : PoolId),
      (m.erase pool)[id]? = if pool = id then none else m[id]? := by
    intro ν m id
    simp only [ExtTreeMap.getElem?_erase, Std.LawfulEqCmp.compare_eq_iff_eq]
  unfold deletePool
  rw [hp]
  refine ⟨_, rfl, herase g.pools, herase g.fees, herase g.ticks, ?_, rfl⟩
  exact edge?_deleteEdge g p.token0 p.token1 pool

theorem deletePool_unknown {g : Graph} {pool : PoolId} (hp : g.pools[pool]? = none) :
    g.deletePool pool = .error (.unknownPool pool) := by
  rw [deletePool, hp]

theorem deletePool_eq_ok {g g' : Graph} {pool : PoolId} {p : Pool}
    (h : g.deletePool pool = .ok (p, g')) : g.pools[pool]? = some p ∧ g'.Without g pool p := by
  cases hp : g.pools[pool]? with
  | none =>
    rw [deletePool_unknown hp] at h
    cases h
  | some q =>
    obtain ⟨g'', hdelete, hwithout⟩ := deletePool_of_pools hp
    rw [hdelete] at h
    cases h
    exact ⟨rfl, hwithout⟩

end Graph

end LiquidityGraph
