import LiquidityGraph.Backup.Basic
import LiquidityGraph.Proofs.Graph.Bulk
import LiquidityGraph.Proofs.Graph.WellFormed
import LiquidityGraph.Proofs.Route.Quotes

/-!
A graph rebuilt from its backup is the graph without the observed rates, in whatever order the
backup lists its records.
-/
namespace LiquidityGraph

open Std (ExtTreeMap)

namespace Backup

/-- The same records, listed in another order. -/
structure Reorders (b b' : Backup) : Prop where
  defaultFee : b.defaultFee = b'.defaultFee
  pools : b.pools.Perm b'.pools
  edges : b.edges.Perm b'.edges
  ticks : b.ticks.Perm b'.ticks
  fees : b.fees.Perm b'.fees

section Capture

variable {b : Backup} {g : Graph}

theorem Reorders.mem_pools (h : b.Reorders (ofGraph g)) (hg : g.WellFormed) {p : Pool} :
    p ∈ b.pools ↔ g.pools[p.id]? = some p := by
  simp only [h.pools.mem_iff, ofGraph, List.mem_map, Prod.exists,
    ExtTreeMap.mem_toList_iff_getElem?_eq_some]
  constructor
  · rintro ⟨id, p, hp, rfl⟩
    rwa [hg.pools id p hp]
  · exact fun hp => ⟨p.id, p, hp, rfl⟩

theorem Reorders.mem_ticks (h : b.Reorders (ofGraph g)) {pool : PoolId} {spacing : Int}
    {ticks : List Tick} :
    ⟨pool, spacing, ticks⟩ ∈ b.ticks ↔ g.ticks[pool]? = some ⟨spacing, ticks⟩ := by
  simp only [h.ticks.mem_iff, ofGraph, List.mem_map, Prod.exists,
    ExtTreeMap.mem_toList_iff_getElem?_eq_some, TickSet.mk.injEq]
  constructor
  · rintro ⟨_, l, hl, rfl, rfl, rfl⟩
    exact hl
  · exact fun hl => ⟨pool, _, hl, rfl, rfl, rfl⟩

theorem Reorders.mem_fees (h : b.Reorders (ofGraph g)) {pool : PoolId} {fee : Nat} :
    ⟨pool, fee⟩ ∈ b.fees ↔ g.fees[pool]? = some fee := by
  simp only [h.fees.mem_iff, ofGraph, List.mem_map, Prod.exists,
    ExtTreeMap.mem_toList_iff_getElem?_eq_some, PoolFee.mk.injEq]
  constructor
  · rintro ⟨_, _, hfee, rfl, rfl⟩
    exact hfee
  · exact fun hfee => ⟨pool, fee, hfee, rfl, rfl⟩

theorem Reorders.mem_edges (h : b.Reorders (ofGraph g)) {key : EdgeKey} {data : String} :
    ⟨key, data⟩ ∈ b.edges ↔ ∃ edge, g.edge? key = some edge ∧ data = edge.snapshot.render := by
  simp only [h.edges.mem_iff, ofGraph, List.mem_map, Prod.exists, Graph.mem_edgeList,
    EdgeRecord.ofEdge, EdgeRecord.mk.injEq]
  constructor
  · rintro ⟨_, edge, hedge, rfl, rfl⟩
    exact ⟨edge, hedge, rfl⟩
  · rintro ⟨edge, hedge, rfl⟩
    exact ⟨key, edge, hedge, rfl, rfl⟩

end Capture

theorem foldlM_restoreTicks {ts : List TickSet}
    (h : ∀ t ∈ ts, TickList.ofList t.ticks t.spacing = .ok ⟨t.spacing, t.ticks⟩) (g : Graph) :
    ts.foldlM restoreTicks g = .ok ((ts.map fun t => (t.pool, ⟨t.spacing, t.ticks⟩)).foldl
      (fun g x => g.setTicks x.1 x.2) g) := by
  induction ts generalizing g with
  | nil => rfl
  | cons t ts ih =>
    obtain ⟨ht, hts⟩ := List.forall_mem_cons.mp h
    have hstep : restoreTicks g t = .ok (g.setTicks t.pool ⟨t.spacing, t.ticks⟩) := by
      rw [restoreTicks, ht]
    rw [List.foldlM_cons, hstep]
    exact ih hts _

/-- The edge that a graph stores for a record, without its observed rate. -/
def rebuilt (g : Graph) (r : EdgeRecord) : Option (EdgeKey × Edge) :=
  (g.edge? r.key).map fun edge => (r.key, edge.fresh)

theorem foldlM_restoreEdge {g : Graph} {rs : List EdgeRecord}
    (h : ∀ r ∈ rs, ∃ edge, g.edge? r.key = some edge ∧ r.snapshot? = some edge.snapshot ∧
      Edge.ofSnapshot edge.snapshot g.ticks[r.key.pool]? = .ok edge.fresh)
    (g' : Graph) (hticks : g'.ticks = g.ticks) :
    rs.foldlM restoreEdge g' =
      .ok ((rs.filterMap (rebuilt g)).foldl (fun g x => g.setEdge x.1 x.2) g') := by
  induction rs generalizing g' with
  | nil => rfl
  | cons r rs ih =>
    obtain ⟨⟨edge, hedge, hsnapshot, hrebuild⟩, hrs⟩ := List.forall_mem_cons.mp h
    have hstep : restoreEdge g' r = .ok (g'.setEdge r.key edge.fresh) := by
      simp only [restoreEdge, hsnapshot, hticks, hrebuild]
    have hentry : rebuilt g r = some (r.key, edge.fresh) := by
      rw [rebuilt, hedge, Option.map_some]
    rw [List.foldlM_cons, hstep, List.filterMap_cons_some hentry]
    exact ih hrs (g'.setEdge r.key edge.fresh) hticks

section Rebuild

variable {b : Backup} {g : Graph}

theorem Reorders.pools_eq (h : b.Reorders (ofGraph g)) (hg : g.WellFormed) :
    (b.pools.map fun p => (p.id, p)).foldl (fun m x => m.insertIfNew x.1 x.2) ∅ = g.pools := by
  refine ExtTreeMap.ext_getElem? fun id => ?_
  have hlookup : (b.pools.map fun p => (p.id, p)).lookup id = g.pools[id]? := by
    refine lookup_eq_of_mem_iff fun p => ?_
    rw [List.mem_map]
    constructor
    · rintro ⟨_, hp, ⟨⟩⟩
      exact (h.mem_pools hg).mp hp
    · intro hp
      obtain rfl := hg.pools id p hp
      exact ⟨p, (h.mem_pools hg).mpr hp, rfl⟩
  simp [hlookup]

theorem Reorders.ticks_eq (h : b.Reorders (ofGraph g)) :
    (b.ticks.map fun t => (t.pool, (⟨t.spacing, t.ticks⟩ : TickList))).foldl
      (fun m x => m.insert x.1 x.2) ∅ = g.ticks := by
  refine ExtTreeMap.ext_getElem? fun id => ?_
  have hlookup : (b.ticks.map fun t => (t.pool, (⟨t.spacing, t.ticks⟩ : TickList))).reverse.lookup
      id = g.ticks[id]? := by
    refine lookup_eq_of_mem_iff fun l => ?_
    rw [List.mem_reverse, List.mem_map]
    constructor
    · rintro ⟨_, ht, ⟨⟩⟩
      exact h.mem_ticks.mp ht
    · exact fun hl => ⟨⟨id, l.spacing, l.ticks⟩, h.mem_ticks.mpr hl, rfl⟩
  rw [getElem?_foldl_insert, hlookup]
  simp

theorem Reorders.fees_eq (h : b.Reorders (ofGraph g)) :
    (b.fees.map fun f => (f.pool, f.fee)).foldl (fun m x => m.insert x.1 x.2) ∅ = g.fees := by
  refine ExtTreeMap.ext_getElem? fun id => ?_
  have hlookup : (b.fees.map fun f => (f.pool, f.fee)).reverse.lookup id = g.fees[id]? := by
    refine lookup_eq_of_mem_iff fun fee => ?_
    rw [List.mem_reverse, List.mem_map]
    constructor
    · rintro ⟨_, hf, ⟨⟩⟩
      exact h.mem_fees.mp hf
    · exact fun hf => ⟨⟨id, fee⟩, h.mem_fees.mpr hf, rfl⟩
  rw [getElem?_foldl_insert, hlookup]
  simp

theorem Reorders.lookup_edges (h : b.Reorders (ofGraph g)) (k : EdgeKey) :
    (b.edges.filterMap (rebuilt g)).reverse.lookup k = (g.edge? k).map Edge.fresh := by
  refine lookup_eq_of_mem_iff fun edge => ?_
  simp only [List.mem_reverse, List.mem_filterMap, rebuilt, Option.map_eq_some_iff, Prod.mk.injEq]
  constructor
  · rintro ⟨r, -, e, he, rfl, rfl⟩
    exact ⟨e, he, rfl⟩
  · rintro ⟨e, he, rfl⟩
    exact ⟨⟨k, e.snapshot.render⟩, h.mem_edges.mpr ⟨e, he, rfl⟩, e, he, rfl, rfl⟩

/-- A graph whose concentrated edges price with the stored ticks is rebuilt from its backup. -/
theorem Reorders.toGraph (h : b.Reorders (ofGraph g)) (hg : g.WellFormed)
    (hpriced : ∀ key e, g.edge? key = some (.concentrated e) →
      (Price.minTick ≤ e.tick ∧ e.tick ≤ Price.maxTick) ∧ g.ticks[key.pool]? = some e.ticks) :
    b.toGraph = .ok (g.mapEdges fun _ e => e.fresh) := by
  have haccepted : ∀ t ∈ b.ticks, TickList.ofList t.ticks t.spacing = .ok ⟨t.spacing, t.ticks⟩ := by
    intro t ht
    have hstored : g.ticks[t.pool]? = some ⟨t.spacing, t.ticks⟩ := h.mem_ticks.mp ht
    exact (hg.ticks _ _ hstored).ofList
  have hrecords : ∀ r ∈ b.edges, ∃ edge, g.edge? r.key = some edge ∧
      r.snapshot? = some edge.snapshot ∧
      Edge.ofSnapshot edge.snapshot g.ticks[r.key.pool]? = .ok edge.fresh := by
    intro r hr
    obtain ⟨edge, hedge, hdata⟩ := h.mem_edges.mp hr
    refine ⟨edge, hedge, ?_, Edge.ofSnapshot_snapshot fun e he => hpriced r.key e (he ▸ hedge)⟩
    simp [EdgeRecord.snapshot?, hdata, hg.edges _ _ hedge]
  have hpools : b.pools.foldl Graph.addPool (.empty b.defaultFee) =
      ⟨g.defaultFee, ∅, g.pools, ∅, ∅⟩ := by
    rw [Graph.foldl_addPool, Graph.empty, h.pools_eq hg, h.defaultFee]
    rfl
  have hticks : b.ticks.foldlM restoreTicks ⟨g.defaultFee, ∅, g.pools, ∅, ∅⟩ =
      .ok ⟨g.defaultFee, ∅, g.pools, ∅, g.ticks⟩ := by
    rw [foldlM_restoreTicks haccepted, Graph.foldl_setTicks, h.ticks_eq]
  have hfees : b.fees.foldl (fun (g : Graph) f => g.setPoolFee f.pool f.fee)
      ⟨g.defaultFee, ∅, g.pools, ∅, g.ticks⟩ = ⟨g.defaultFee, ∅, g.pools, g.fees, g.ticks⟩ := by
    have hfold := Graph.foldl_setPoolFee (b.fees.map fun f => (f.pool, f.fee))
      ⟨g.defaultFee, ∅, g.pools, ∅, g.ticks⟩
    rwa [List.foldl_map, h.fees_eq] at hfold
  -- without its edges the graph is an empty one, so that all its edges are rebuilt ones
  have hedges : (b.edges.filterMap (rebuilt g)).foldl (fun (g : Graph) x => g.setEdge x.1 x.2)
      ⟨g.defaultFee, ∅, g.pools, g.fees, g.ticks⟩ = g.mapEdges fun _ e => e.fresh := by
    have hnone : Graph.Occupied ⟨g.defaultFee, ∅, g.pools, g.fees, g.ticks⟩ :=
      (Graph.Occupied.empty g.defaultFee).of_edges rfl
    rw [Graph.foldl_setEdge, Graph.edges_ext (hnone.foldl_setEdge _)
      (hg.occupied.mapEdges fun _ e => e.fresh) fun k => ?_]
    · rfl
    · rw [Graph.edge?_foldl_setEdge, h.lookup_edges, Graph.edge?_mapEdges]
      simp [Graph.edge?_eq_bind]
  have hstages : b.toGraph = (b.ticks.foldlM restoreTicks
      (b.pools.foldl Graph.addPool (.empty b.defaultFee))) >>= fun g =>
        b.edges.foldlM restoreEdge (b.fees.foldl (fun (g : Graph) f => g.setPoolFee f.pool f.fee) g) :=
    rfl
  have hrestore :=
    foldlM_restoreEdge hrecords ⟨g.defaultFee, ∅, g.pools, g.fees, g.ticks⟩ rfl
  rw [hstages, hpools, hticks]
  change b.edges.foldlM restoreEdge (b.fees.foldl _ _) = _
  rw [hfees, hrestore, hedges]

end Rebuild

private theorem edges_foldlM_restoreTicks {ts : List TickSet} {g g' : Graph}
    (h : ts.foldlM restoreTicks g = .ok g') : g'.edges = g.edges := by
  induction ts generalizing g with
  | nil =>
    cases h
    rfl
  | cons t ts ih =>
    obtain ⟨g₁, hstep, h⟩ := bind_eq_ok.mp h
    rw [ih h]
    unfold restoreTicks at hstep
    split at hstep
    · cases hstep
    · cases hstep
      rfl

theorem edge?_foldlM_restoreEdge {rs : List EdgeRecord} {g g' : Graph}
    (h : rs.foldlM restoreEdge g = .ok g') :
    g'.ticks = g.ticks ∧ ∀ k e, g'.edge? k = some e → g.edge? k = some e ∨
      ∃ r ∈ rs, r.key = k ∧ ∃ s, r.snapshot? = some s ∧
        Edge.ofSnapshot s g.ticks[k.pool]? = .ok e := by
  induction rs generalizing g with
  | nil =>
    cases h
    exact ⟨rfl, fun k e he => .inl he⟩
  | cons r rs ih =>
    obtain ⟨g₁, hstep, h⟩ := bind_eq_ok.mp h
    obtain ⟨hticks, hedges⟩ := ih h
    unfold restoreEdge at hstep
    split at hstep
    · cases hstep
    · rename_i s hs
      split at hstep
      · cases hstep
      · rename_i edge hedge
        cases hstep
        refine ⟨hticks, fun k e he => ?_⟩
        obtain he | ⟨r', hr', hk, hrebuilt⟩ := hedges k e he
        · rw [Graph.edge?_setEdge] at he
          split_ifs at he with hk
          · cases he
            subst hk
            exact .inr ⟨r, List.mem_cons_self, rfl, s, hs, hedge⟩
          · exact .inl he
        · exact .inr ⟨r', List.mem_cons_of_mem r hr', hk, hrebuilt⟩

/-- An edge of a rebuilt graph comes from the edge under the same key. -/
theorem Reorders.edge?_toGraph {b : Backup} {g g' : Graph} (hb : b.Reorders (ofGraph g))
    (h : b.toGraph = .ok g') {k : EdgeKey} {e₁ : Edge} (he₁ : g'.edge? k = some e₁) :
    ∃ e, g.edge? k = some e ∧ Edge.ofSnapshot e.snapshot g'.ticks[k.pool]? = .ok e₁ := by
  obtain ⟨g₂, hticks, h⟩ := bind_eq_ok.mp h
  have hnone : ∀ fees : List PoolFee,
      (fees.foldl (fun g f => g.setPoolFee f.pool f.fee) g₂).edge? k = none := by
    intro fees
    have hfees := foldl_frame (fun (g : Graph) (f : PoolFee) => g.setPoolFee f.pool f.fee)
      Graph.edges (fun _ _ => rfl) fees g₂
    have hpools := edges_foldlM_restoreTicks hticks
    rw [Graph.foldl_addPool] at hpools
    simp [Graph.edge?_eq_bind, hfees, hpools, Graph.empty]
  obtain ⟨hstored, hedges⟩ := edge?_foldlM_restoreEdge h
  obtain he | ⟨r, hr, rfl, s, hs, hrebuilt⟩ := hedges k e₁ he₁
  · rw [hnone] at he
    cases he
  · obtain ⟨e, hedge, hdata⟩ := hb.mem_edges.mp hr
    rw [EdgeRecord.snapshot?, hdata, Snapshot.parse?_render] at hs
    split_ifs at hs
    cases hs
    exact ⟨e, hedge, hstored ▸ hrebuilt⟩

theorem restore_of_error {b : Backup} {error : GraphError} (h : b.toGraph = .error error)
    (g : Graph) : b.restore.run.run g = (.error error, g) := by
  unfold restore
  rw [h]
  rfl

theorem restore_of_ok {b : Backup} {g' : Graph} (h : b.toGraph = .ok g') (g : Graph) :
    b.restore.run.run g = (.ok (), g') := by
  unfold restore
  rw [h]
  rfl

end Backup

/-- A backup gives the graph back, up to the observed rates that it does not hold, so that every
quote and every route is the same; and one that cannot be rebuilt changes nothing. -/
theorem Graph.backup_round_trip (g : Graph) (hg : g.WellFormed)
    (hpriced : ∀ key e, g.edge? key = some (.concentrated e) →
      (Price.minTick ≤ e.tick ∧ e.tick ≤ Price.maxTick) ∧ g.ticks[key.pool]? = some e.ticks) :
    (∀ b : Backup, b.Reorders (.ofGraph g) → ∃ g', b.toGraph = .ok g' ∧
      (g'.defaultFee = g.defaultFee ∧ g'.pools = g.pools ∧ g'.fees = g.fees ∧
        g'.ticks = g.ticks) ∧
      (∀ key, g'.edge? key = (g.edge? key).map Edge.fresh) ∧
      (∀ key amount, (g'.edge? key).map (·.quote amount) = (g.edge? key).map (·.quote amount)) ∧
      ∀ q : Search.Query, q.hops g' = q.hops g) ∧
    ∀ (b : Backup) (error : GraphError), b.toGraph = .error error →
      ∀ current : Graph, b.restore.run.run current = (.error error, current) := by
  refine ⟨fun b h => ?_, fun b error h => b.restore_of_error h⟩
  refine ⟨_, h.toGraph hg hpriced, ⟨rfl, rfl, rfl, rfl⟩, edge?_mapEdges _ g, ?_, ?_⟩
  · intro key amount
    rw [edge?_mapEdges, Option.map_map]
    refine Option.map_congr fun edge _ => ?_
    exact edge.quote_fresh amount
  · intro q
    exact q.hops_mapEdges (fun _ edge amount => edge.quote_fresh amount) g

def band : TickList := ⟨60, [⟨-60, 1000000, 1000000⟩, ⟨60, 1000000, -1000000⟩]⟩

private theorem band_accepted : band.Accepted := by
  refine ⟨band.ticks, 60, ?_⟩
  have hsorted : (band.ticks.mergeSort fun a b => a.index ≤ b.index) = band.ticks := by
    simp [band, List.mergeSort]
  rw [TickList.ofList, hsorted]
  rfl

/-- A concentrated pool from `A` to `B`, with an observed rate, and a bridge from there to `C`. -/
def observed : Graph :=
  let key (a b pool : String) : EdgeKey := ⟨⟨a⟩, ⟨b⟩, ⟨pool⟩, ⟨"avalanche"⟩⟩
  let edge : Concentrated :=
    ⟨⟨"A"⟩, ⟨"B"⟩, 3000, Price.q96, 1000000, 0, band, true, some (2, 3)⟩
  ((((Graph.empty 30).addPool ⟨⟨"A"⟩, ⟨"B"⟩, ⟨"P"⟩, "factory", ⟨"avalanche"⟩⟩).setTicks ⟨"P"⟩
    band).setEdge (key "A" "B" "P") (.concentrated edge)).setEdge (key "B" "C" "Q")
      (.bridge ⟨⟨"B"⟩, ⟨"C"⟩⟩)

private theorem observed_wellFormed : observed.WellFormed := by
  refine Graph.WellFormed.setEdge ?_ _ trivial
  refine Graph.WellFormed.setEdge ?_ _ (by decide +kernel)
  exact ((Graph.WellFormed.empty 30).addPool _).setTicks _ band_accepted

theorem backup_round_trip_observed :
    let q : Search.Query := ⟨⟨"A"⟩, ⟨"C"⟩, 1000, fun _ _ => .none⟩
    ∃ g', (Backup.ofGraph observed).toGraph = .ok g' ∧ q.hops g' = q.hops observed ∧
      (q.hops observed).map (·.amountOut) = [996, 996] := by
  intro q
  have hpriced : ∀ key e, observed.edge? key = some (.concentrated e) →
      (Price.minTick ≤ e.tick ∧ e.tick ≤ Price.maxTick) ∧
        observed.ticks[key.pool]? = some e.ticks := by
    intro key e he
    simp only [observed, Graph.edge?_setEdge] at he
    split_ifs at he with _ hkey
    · cases he
    · cases he
      subst hkey
      exact ⟨by decide, by decide +kernel⟩
    · simp [Graph.edge?_eq_bind, Graph.setTicks, Graph.addPool, Graph.empty] at he
  obtain ⟨hround, -⟩ := observed.backup_round_trip observed_wellFormed hpriced
  obtain ⟨g', hg', -, -, -, hhops⟩ := hround _ ⟨rfl, .refl _, .refl _, .refl _, .refl _⟩
  exact ⟨g', hg', hhops q, by decide +kernel⟩

end LiquidityGraph
