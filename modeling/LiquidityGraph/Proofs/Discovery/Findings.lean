import LiquidityGraph.Discovery.Findings
import LiquidityGraph.Proofs.Graph.Bulk

/-!
What a discovery finds. Of the pools with one id the first acceptable one is recorded, with both
directions of its edges and with its ticks; and an installation writes just that into a graph.
-/
namespace LiquidityGraph

open Std (ExtTreeMap)

/-- What is taken over of an acceptable pool: its two directions, and its ticks if it has any. -/
structure FoundPool.Parts where
  forward : Edge
  backward : Edge
  ticks : Option TickList

namespace FoundPool

/-- The parts of a pool, none when it cannot be priced. -/
def parts? : FoundPool → Option Parts
  | .constantProduct p reserve0 reserve1 =>
    let (forward, backward) := ConstantProduct.pair p.token0 p.token1 reserve0 reserve1
    some ⟨.constantProduct forward, .constantProduct backward, none⟩
  | .concentrated p fee price liquidity tick spacing ticks =>
    (Findings.priceable? fee tick spacing ticks).map fun ticks =>
      let (forward, backward) := Concentrated.pair p.token0 p.token1 fee price liquidity tick ticks
      ⟨.concentrated forward, .concentrated backward, some ticks⟩

def forwardKey (x : FoundPool) : EdgeKey := ⟨x.pool.token0, x.pool.token1, x.pool.id, x.pool.chain⟩

def backwardKey (x : FoundPool) : EdgeKey := ⟨x.pool.token1, x.pool.token0, x.pool.id, x.pool.chain⟩

def edge? (x : FoundPool) (k : EdgeKey) : Option Edge :=
  x.parts?.bind fun parts =>
    if x.backwardKey = k then some parts.backward
    else if x.forwardKey = k then some parts.forward
    else none

def ticks? (x : FoundPool) : Option TickList := x.parts?.bind (·.ticks)

end FoundPool

namespace Findings

def take (f : Findings) (x : FoundPool) (parts : FoundPool.Parts) : Findings :=
  { f.record x.pool parts.forward parts.backward with
    ticks := parts.ticks.elim f.ticks (f.ticks.insert x.pool.id) }

theorem add_eq (f : Findings) (x : FoundPool) :
    f.add x = if f.pools.contains x.pool.id then f else x.parts?.elim f (f.take x) := by
  unfold add
  split_ifs with hknown
  · rfl
  · cases x with
    | constantProduct p reserve0 reserve1 => rfl
    | concentrated p fee price liquidity tick spacing ticks =>
      simp only [FoundPool.parts?]
      cases priceable? fee tick spacing ticks <;> rfl

section Take

variable (f : Findings) (x : FoundPool) (parts : FoundPool.Parts)

@[simp] theorem pools_take (id : PoolId) :
    (f.take x parts).pools[id]? = if x.pool.id = id then some x.pool else f.pools[id]? := by
  simp only [take, record, ExtTreeMap.getElem?_insert, Std.LawfulEqCmp.compare_eq_iff_eq]

@[simp] theorem edges_take (k : EdgeKey) :
    (f.take x parts).edges[k]? =
      if x.backwardKey = k then some parts.backward
      else if x.forwardKey = k then some parts.forward
      else f.edges[k]? := by
  change ((f.edges.insert x.forwardKey parts.forward).insert x.backwardKey parts.backward)[k]? = _
  simp only [ExtTreeMap.getElem?_insert, Std.LawfulEqCmp.compare_eq_iff_eq]

@[simp] theorem ticks_take (id : PoolId) :
    (f.take x parts).ticks[id]? =
      if x.pool.id = id then parts.ticks.or f.ticks[id]? else f.ticks[id]? := by
  cases hticks : parts.ticks with
  | none => simp [take, hticks]
  | some l =>
    simp only [take, hticks, Option.elim_some, ExtTreeMap.getElem?_insert,
      Std.LawfulEqCmp.compare_eq_iff_eq, Option.some_or]

end Take

/-- The findings hold one found pool for each id. -/
structure Records (f : Findings) (found : PoolId → Option FoundPool) : Prop where
  id (id : PoolId) (x : FoundPool) : found id = some x → x.pool.id = id
  acceptable (id : PoolId) (x : FoundPool) : found id = some x → x.parts?.isSome
  pools (id : PoolId) : f.pools[id]? = (found id).map FoundPool.pool
  edges (k : EdgeKey) : f.edges[k]? = (found k.pool).bind (·.edge? k)
  ticks (id : PoolId) : f.ticks[id]? = (found id).bind FoundPool.ticks?

theorem Records.own {f : Findings} {found : PoolId → Option FoundPool} (h : f.Records found)
    {id : PoolId} {p : Pool} (hp : f.pools[id]? = some p) : p.id = id := by
  rw [h.pools, Option.map_eq_some_iff] at hp
  obtain ⟨x, hx, rfl⟩ := hp
  exact h.id id x hx

/-- The first acceptable pool with an id. -/
def first (found : List FoundPool) (id : PoolId) : Option FoundPool :=
  found.find? fun x => x.pool.id = id && x.parts?.isSome

theorem first_singleton (x : FoundPool) (id : PoolId) :
    first [x] id = if x.pool.id = id ∧ x.parts?.isSome then some x else none := by
  by_cases hid : x.pool.id = id
  · by_cases hparts : x.parts?.isSome
    · simp [first, hid, hparts]
    · simp [first, hid, hparts]
  · simp [first, hid]

theorem first_cons (x : FoundPool) (found : List FoundPool) (id : PoolId) :
    first (x :: found) id = (first [x] id).or (first found id) := by
  by_cases hx : (x.pool.id = id && x.parts?.isSome) = true
  · simp [first, hx]
  · simp [first, hx]

private theorem Records.isSome_of_contains {f : Findings} {found : PoolId → Option FoundPool}
    (h : f.Records found) {id : PoolId} (hknown : f.pools.contains id) : (found id).isSome := by
  rw [← Option.isSome_map (f := FoundPool.pool), ← h.pools]
  simpa using hknown

theorem Records.take {f : Findings} {found : PoolId → Option FoundPool} (h : f.Records found)
    {x : FoundPool} {parts : FoundPool.Parts} (hparts : x.parts? = some parts)
    (hnew : found x.pool.id = none) :
    (f.take x parts).Records fun id => if x.pool.id = id then some x else found id where
  id id y hy := by
    split_ifs at hy with hid
    · cases hy
      exact hid
    · exact h.id id y hy
  acceptable id y hy := by
    split_ifs at hy with hid
    · cases hy
      rw [hparts, Option.isSome_some]
    · exact h.acceptable id y hy
  pools id := by
    rw [pools_take, h.pools]
    split_ifs <;> rfl
  edges k := by
    rw [edges_take, h.edges]
    by_cases hid : x.pool.id = k.pool
    · simp only [← hid, hnew, FoundPool.edge?, hparts, if_true, Option.bind_some, Option.bind_none]
    · have hforward : x.forwardKey ≠ k := fun hk => hid (hk ▸ rfl)
      have hbackward : x.backwardKey ≠ k := fun hk => hid (hk ▸ rfl)
      simp only [hid, hforward, hbackward, if_false]
  ticks id := by
    rw [ticks_take, h.ticks]
    split_ifs with hid
    · rw [← hid, hnew, Option.bind_none, Option.or_none, Option.bind_some, FoundPool.ticks?, hparts,
        Option.bind_some]
    · rfl

/-- A pool with a known id is passed over, and so is one that cannot be priced. -/
theorem Records.add {f : Findings} {found : PoolId → Option FoundPool} (h : f.Records found)
    (x : FoundPool) : (f.add x).Records fun id => (found id).or (first [x] id) := by
  rw [add_eq]
  split_ifs with hknown
  · have hkept : (fun id => (found id).or (first [x] id)) = found := by
      funext id
      rw [first_singleton]
      split_ifs with hx
      · obtain ⟨y, hy⟩ := Option.isSome_iff_exists.mp (h.isSome_of_contains (hx.1 ▸ hknown))
        rw [hy, Option.some_or]
      · exact Option.or_none
    rwa [hkept]
  · cases hparts : x.parts? with
    | none =>
      have hkept : (fun id => (found id).or (first [x] id)) = found := by
        simp [first_singleton, hparts]
      rwa [hkept]
    | some parts =>
      have hnew : found x.pool.id = none := by
        have hnone : f.pools[x.pool.id]? = none := by simpa using hknown
        rwa [h.pools, Option.map_eq_none_iff] at hnone
      have hadded : (fun id => (found id).or (first [x] id)) =
          fun id => if x.pool.id = id then some x else found id := by
        funext id
        by_cases hid : x.pool.id = id
        · simp [first_singleton, hparts, ← hid, hnew]
        · simp [first_singleton, hid]
      rw [hadded]
      exact h.take hparts hnew

theorem Records.foldl_add {f : Findings} {known : PoolId → Option FoundPool} (h : f.Records known)
    (found : List FoundPool) :
    (found.foldl Findings.add f).Records fun id => (known id).or (first found id) := by
  induction found generalizing f known with
  | nil => simpa [first] using h
  | cons x found ih =>
    have hrest := ih (h.add x)
    simp only [Option.or_assoc, ← first_cons] at hrest
    exact hrest

/-- For each id the first acceptable pool is recorded. -/
theorem records_ofList (found : List FoundPool) : (ofList found).Records (first found) := by
  have hempty : empty.Records fun _ => none := by
    constructor <;> simp [empty]
  exact hempty.foldl_add found

section Install

variable (f : Findings) (g : Graph)

theorem install_eq : f.install g = f.pools.toList.foldl (fun g x => g.addPool x.2)
    (f.edges.toList.foldl (fun g x => g.setEdge x.1 x.2)
      (f.ticks.toList.foldl (fun g x => g.setTicks x.1 x.2) g)) := rfl

theorem foldl_addPool_toList (m : ExtTreeMap PoolId Pool) :
    m.toList.foldl (fun g x => g.addPool x.2) g = { g with
      pools := (m.toList.map fun x => (x.2.id, x.2)).foldl (fun m x => m.insertIfNew x.1 x.2)
        g.pools } := by
  have hfold := Graph.foldl_addPool (m.toList.map (·.2)) g
  rwa [List.foldl_map, List.map_map] at hfold

@[simp] theorem edge?_install (k : EdgeKey) :
    (f.install g).edge? k = f.edges[k]?.or (g.edge? k) := by
  have hticks : ∀ g' : Graph, (f.ticks.toList.foldl (fun g x => g.setTicks x.1 x.2) g').edge? k =
      g'.edge? k := by
    intro g'
    rw [Graph.foldl_setTicks]
    rfl
  rw [install_eq, foldl_addPool_toList]
  change (f.edges.toList.foldl (fun (g : Graph) x => g.setEdge x.1 x.2) _).edge? k = _
  simp [hticks]

@[simp] theorem ticks_install (id : PoolId) :
    (f.install g).ticks[id]? = f.ticks[id]?.or g.ticks[id]? := by
  rw [install_eq, foldl_addPool_toList, Graph.foldl_setEdge, Graph.foldl_setTicks]
  change (f.ticks.toList.foldl (fun m x => m.insert x.1 x.2) g.ticks)[id]? = _
  simp

theorem pools_install {found : PoolId → Option FoundPool} (h : f.Records found) (id : PoolId) :
    (f.install g).pools[id]? = g.pools[id]?.or f.pools[id]? := by
  have hkeys : f.pools.toList.map (fun x => (x.2.id, x.2)) = f.pools.toList := by
    refine (List.map_congr_left fun x hx => ?_).trans (List.map_id _)
    have hx : f.pools[x.1]? = some x.2 := ExtTreeMap.mem_toList_iff_getElem?_eq_some.mp hx
    rw [h.own hx]
    rfl
  rw [install_eq, foldl_addPool_toList, Graph.foldl_setEdge, Graph.foldl_setTicks, hkeys]
  change (f.pools.toList.foldl (fun m x => m.insertIfNew x.1 x.2) g.pools)[id]? = _
  simp

@[simp] theorem fees_install : (f.install g).fees = g.fees := by
  rw [install_eq, foldl_addPool_toList, Graph.foldl_setEdge, Graph.foldl_setTicks]

@[simp] theorem defaultFee_install : (f.install g).defaultFee = g.defaultFee := by
  rw [install_eq, foldl_addPool_toList, Graph.foldl_setEdge, Graph.foldl_setTicks]

variable {g} in
theorem occupied_install (h : g.Occupied) : (f.install g).Occupied := by
  have hticks : (f.ticks.toList.foldl (fun g x => g.setTicks x.1 x.2) g).Occupied := by
    rw [Graph.foldl_setTicks]
    exact h.of_edges rfl
  rw [install_eq, foldl_addPool_toList]
  exact (hticks.foldl_setEdge f.edges.toList).of_edges rfl

end Install

end Findings

end LiquidityGraph
