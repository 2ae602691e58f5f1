import LiquidityGraph.Proofs.Discovery.Directions

/-!
Which of the pools found are taken over. Of those with one id it is the first that can be priced,
and only that one: a pool that is passed over leaves nothing behind. An empty graph becomes just
what was taken over.
-/
namespace LiquidityGraph

open Std (ExtTreeMap)

namespace FoundPool

/-- A pool can be priced, unless it is a concentrated one whose fee leaves nothing over, whose tick
is out of range or whose ticks are refused. -/
def Acceptable : FoundPool → Prop
  | .constantProduct .. => True
  | .concentrated _ fee _ _ tick spacing ticks =>
    fee < Price.feeUnit ∧ Price.minTick ≤ tick ∧ tick ≤ Price.maxTick ∧
      ∃ l, TickList.ofList ticks spacing = .ok l

def tickList? : FoundPool → Option TickList
  | .constantProduct .. => none
  | .concentrated _ _ _ _ _ spacing ticks => (TickList.ofList ticks spacing).toOption

/-- The pool is the first one in a list that has its id and can be priced. -/
def FirstIn (x : FoundPool) (found : List FoundPool) : Prop :=
  ∃ before after, found = before ++ x :: after ∧ x.Acceptable ∧
    ∀ y ∈ before, y.pool.id = x.pool.id → ¬ y.Acceptable

variable {x : FoundPool} {found : List FoundPool}

theorem FirstIn.acceptable (h : x.FirstIn found) : x.Acceptable := by
  obtain ⟨-, -, -, haccepted, -⟩ := h
  exact haccepted

@[simp] theorem isSome_parts? : x.parts?.isSome ↔ x.Acceptable := by
  cases x with
  | constantProduct p reserve0 reserve1 => exact iff_of_true rfl trivial
  | concentrated p fee price liquidity tick spacing ticks =>
    have hticks : (TickList.ofList ticks spacing).toOption.isSome ↔
        ∃ l, TickList.ofList ticks spacing = .ok l := by
      cases TickList.ofList ticks spacing <;> simp [Except.toOption]
    simp only [parts?, Findings.priceable?, Option.isSome_map, Acceptable]
    split_ifs with hterms
    · rw [hticks]
      exact ⟨fun h => ⟨hterms.1, hterms.2.1, hterms.2.2, h⟩, fun h => h.2.2.2⟩
    · exact iff_of_false (by simp) fun h => hterms ⟨h.1, h.2.1, h.2.2.1⟩

theorem ticks?_eq_tickList? (h : x.Acceptable) : x.ticks? = x.tickList? := by
  cases x with
  | constantProduct p reserve0 reserve1 => rfl
  | concentrated p fee price liquidity tick spacing ticks =>
    obtain ⟨hfee, hmin, hmax, l, hl⟩ := h
    simp only [ticks?, parts?, Findings.priceable?, hfee, hmin, hmax, and_self, if_true, tickList?,
      hl]
    rfl

end FoundPool

namespace Findings

variable {found before : List FoundPool} {x : FoundPool} {f : Findings}

theorem first_eq_some {id : PoolId} :
    first found id = some x ↔ x.pool.id = id ∧ x.FirstIn found := by
  simp only [first, List.find?_eq_some_iff_append, Bool.and_eq_true, decide_eq_true_eq,
    FoundPool.isSome_parts?, Bool.not_eq_true', Bool.eq_false_iff, ne_eq, not_and]
  constructor
  · rintro ⟨⟨rfl, hx⟩, before, after, hfound, hbefore⟩
    exact ⟨rfl, before, after, hfound, hx, hbefore⟩
  · rintro ⟨rfl, before, after, hfound, hx, hbefore⟩
    exact ⟨⟨rfl, hx⟩, before, after, hfound, hbefore⟩

theorem Records.add_of_rejected (hf : f.Records (first before))
    (h : ¬ x.Acceptable ∨ ∃ y ∈ before, y.pool.id = x.pool.id ∧ y.Acceptable) : f.add x = f := by
  rw [add_eq]
  split_ifs with hknown
  · rfl
  · obtain hx | ⟨y, hy, hid, haccepted⟩ := h
    · rw [← FoundPool.isSome_parts?, Option.not_isSome_iff_eq_none] at hx
      rw [hx, Option.elim_none]
    · refine absurd ?_ hknown
      have hfirst : (first before x.pool.id).isSome := by
        refine List.find?_isSome.mpr ⟨y, hy, ?_⟩
        simp [hid, FoundPool.isSome_parts?.mpr haccepted]
      rw [ExtTreeMap.contains_eq_isSome_getElem?, hf.pools, Option.isSome_map, hfirst]

theorem pools_ofList {id : PoolId} {p : Pool} : (ofList found).pools[id]? = some p ↔
    ∃ x : FoundPool, x.FirstIn found ∧ x.pool = p ∧ p.id = id := by
  simp only [(records_ofList found).pools, Option.map_eq_some_iff, first_eq_some]
  constructor
  · rintro ⟨x, ⟨hid, hx⟩, rfl⟩
    exact ⟨x, hx, rfl, hid⟩
  · rintro ⟨x, hx, rfl, hid⟩
    exact ⟨x, ⟨hid, hx⟩, rfl⟩

theorem edges_ofList {k : EdgeKey} {e : Edge} : (ofList found).edges[k]? = some e ↔
    ∃ x : FoundPool, x.FirstIn found ∧ x.edge? k = some e := by
  simp only [(records_ofList found).edges, Option.bind_eq_some_iff, first_eq_some]
  constructor
  · rintro ⟨x, ⟨-, hx⟩, he⟩
    exact ⟨x, hx, he⟩
  · rintro ⟨x, hx, he⟩
    obtain ⟨-, hkey⟩ := FoundPool.isSome_edge?.mp (Option.isSome_of_mem he)
    refine ⟨x, ⟨?_, hx⟩, he⟩
    obtain rfl | rfl := hkey <;> rfl

/-- Both directions of a recorded pool have an edge, and nothing else has one. -/
theorem mem_edges_ofList {k : EdgeKey} :
    k ∈ (ofList found).edges ↔ ∃ (id : PoolId) (p : Pool), (ofList found).pools[id]? = some p ∧
      (k = ⟨p.token0, p.token1, p.id, p.chain⟩ ∨ k = ⟨p.token1, p.token0, p.id, p.chain⟩) := by
  simp only [ExtTreeMap.mem_iff_isSome_getElem?, Option.isSome_iff_exists, edges_ofList,
    pools_ofList]
  constructor
  · rintro ⟨e, x, hx, he⟩
    obtain ⟨-, hkey⟩ := FoundPool.isSome_edge?.mp (Option.isSome_of_mem he)
    exact ⟨x.pool.id, x.pool, ⟨x, hx, rfl, rfl⟩, hkey.symm.imp Eq.symm Eq.symm⟩
  · rintro ⟨-, -, ⟨x, hx, rfl, -⟩, hkey⟩
    have hparts : x.parts?.isSome := FoundPool.isSome_parts?.mpr hx.acceptable
    have hedge : (x.edge? k).isSome :=
      FoundPool.isSome_edge?.mpr ⟨hparts, hkey.symm.imp Eq.symm Eq.symm⟩
    obtain ⟨e, he⟩ := Option.isSome_iff_exists.mp hedge
    exact ⟨e, x, hx, he⟩

theorem ticks_ofList {id : PoolId} {l : TickList} : (ofList found).ticks[id]? = some l ↔
    ∃ x : FoundPool, x.FirstIn found ∧ x.pool.id = id ∧ x.tickList? = some l := by
  simp only [(records_ofList found).ticks, Option.bind_eq_some_iff, first_eq_some]
  constructor
  · rintro ⟨x, ⟨hid, hx⟩, hl⟩
    rw [FoundPool.ticks?_eq_tickList? hx.acceptable] at hl
    exact ⟨x, hx, hid, hl⟩
  · rintro ⟨x, hx, hid, hl⟩
    rw [← FoundPool.ticks?_eq_tickList? hx.acceptable] at hl
    exact ⟨x, ⟨hid, hx⟩, hl⟩

/-- What findings take over of the pools found: for each id the first pool that can be priced, with
both of its directions, and its ticks if it is a concentrated one. -/
structure TakesOver (f : Findings) (found : List FoundPool) : Prop where
  pools (id : PoolId) (p : Pool) :
    f.pools[id]? = some p ↔ ∃ x : FoundPool, x.FirstIn found ∧ x.pool = p ∧ p.id = id
  edges (k : EdgeKey) (e : Edge) :
    f.edges[k]? = some e ↔ ∃ x : FoundPool, x.FirstIn found ∧ x.edge? k = some e
  keys (k : EdgeKey) : k ∈ f.edges ↔ ∃ (id : PoolId) (p : Pool), f.pools[id]? = some p ∧
    (k = ⟨p.token0, p.token1, p.id, p.chain⟩ ∨ k = ⟨p.token1, p.token0, p.id, p.chain⟩)
  ticks (id : PoolId) (l : TickList) : f.ticks[id]? = some l ↔
    ∃ x : FoundPool, x.FirstIn found ∧ x.pool.id = id ∧ x.tickList? = some l

/-- Of the pools found with one id the first that can be priced is taken over, a pool that is passed
over leaves nothing behind, and an empty graph becomes just what is taken over. -/
theorem ofList_first_acceptable (found : List FoundPool) (fee : Nat) :
    (ofList found).TakesOver found ∧
    (∀ before x after, found = before ++ x :: after →
      (¬ x.Acceptable ∨ ∃ y ∈ before, y.pool.id = x.pool.id ∧ y.Acceptable) →
      ofList (before ++ after) = ofList found) ∧
    let f := ofList found
    let g := f.install (Graph.empty fee)
    g.pools = f.pools ∧ (∀ k, g.edge? k = f.edges[k]?) ∧ g.Occupied ∧ g.ticks = f.ticks ∧
      g.fees = ∅ ∧ g.defaultFee = fee := by
  refine ⟨⟨fun _ _ => pools_ofList, fun _ _ => edges_ofList, fun _ => mem_edges_ofList,
    fun _ _ => ticks_ofList⟩, ?_, ?_⟩
  · rintro before x after rfl hrejected
    have hadd := (records_ofList before).add_of_rejected hrejected
    unfold ofList at hadd ⊢
    rw [List.foldl_append, List.foldl_append, List.foldl_cons, hadd]
  · intro f g
    have hedge : ∀ k, (Graph.empty fee).edge? k = none := by
      simp [Graph.empty, Graph.edge?_eq_bind]
    refine ⟨?_, ?_, f.occupied_install (.empty fee), ?_, f.fees_install _, f.defaultFee_install _⟩
    · refine ExtTreeMap.ext_getElem? fun id => ?_
      rw [f.pools_install _ (records_ofList found)]
      simp [Graph.empty]
    · intro k
      rw [f.edge?_install, hedge, Option.or_none]
    · refine ExtTreeMap.ext_getElem? fun id => ?_
      rw [f.ticks_install]
      simp [Graph.empty]

end Findings

/-- A pool whose fee leaves nothing over, found again with a fee that does and then with two
reserves, and a pool of another id. -/
def foundTwice : List FoundPool :=
  let pool (id : String) : Pool := ⟨⟨"A"⟩, ⟨"B"⟩, ⟨id⟩, "factory", ⟨"coqnet"⟩⟩
  [.concentrated (pool "P") Price.feeUnit Price.q96 0 5 60 [],
    .concentrated (pool "P") 3000 Price.q96 0 5 60 [], .constantProduct (pool "P") 10 20,
    .constantProduct (pool "Q") 10 20]

theorem ofList_first_acceptable_twice :
    (Findings.ofList foundTwice).ticks.toList = [(⟨"P"⟩, ⟨60, []⟩)] ∧
    (Findings.ofList foundTwice).edges.size = 4 ∧
    (Findings.ofList foundTwice).TakesOver foundTwice ∧
    Findings.ofList foundTwice.tail = Findings.ofList foundTwice ∧
    ((Findings.ofList foundTwice).install (.empty 7)).pools =
      (Findings.ofList foundTwice).pools := by
  obtain ⟨htakes, hrejected, hpools, -⟩ := Findings.ofList_first_acceptable foundTwice 7
  refine ⟨by decide +kernel, by decide +kernel, htakes, ?_, hpools⟩
  refine hrejected [] _ foundTwice.tail rfl (.inl fun h => ?_)
  exact absurd h.1 (by decide)

end LiquidityGraph
