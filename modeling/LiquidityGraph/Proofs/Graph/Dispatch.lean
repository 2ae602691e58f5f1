import LiquidityGraph.Proofs.Edge.Update
import LiquidityGraph.Proofs.Graph.MapEdges

/-!
Logs dispatched to a graph. Which edges a log changes, and what it makes of them, is settled by
the graph's pools and keys and by the log; so an edge ends as the last log leaves it that affects
it.
-/
namespace LiquidityGraph

/-- A log as it comes to a chain's listener. -/
abbrev Delivery := Log × LogContext

theorem Pool.mem_keys {p : Pool} {pool : PoolId} {chain : ChainId} {key : EdgeKey}
    (h : key ∈ p.keys pool chain) : key.pool = pool ∧ key.chain = chain := by
  simp only [keys, List.mem_cons, List.not_mem_nil, or_false] at h
  obtain rfl | rfl := h <;> exact ⟨rfl, rfl⟩

namespace Edge

/-- The edge after a log, which is passed over when it cannot be applied. -/
def after (edge : Edge) (d : Delivery) : Edge :=
  match edge.update d.1 d.2 with
  | .ok (edge, _) => edge
  | .error _ => edge

@[simp] theorem frame_after (edge : Edge) (d : Delivery) : (edge.after d).frame = edge.frame := by
  unfold after
  split
  · rename_i hupdate
    exact update_frame hupdate
  · rfl

end Edge

namespace Graph

def revised (g : Graph) (log : Log) (ctx : LogContext) : Except GraphError (List Revision) := do
  let current ← g.directions (PoolId.ofAddress log.address) ctx.chain
  return (← current.mapM (revise log ctx)).filterMap id

theorem applyLog_eq (g : Graph) (log : Log) (ctx : LogContext) :
    g.applyLog log ctx =
      (g.revised log ctx).map fun rs => (g.commit rs, rs.map (·.observation)) := by
  change _ = _ <$> g.revised log ctx
  simp only [applyLog, revised, map_bind, map_pure]

theorem directions_eq_ok {g : Graph} {pool : PoolId} {chain : ChainId}
    {current : List (EdgeKey × Edge)} :
    g.directions pool chain = .ok current ↔ ∃ p, g.pools[pool]? = some p ∧
      current = (p.keys pool chain).filterMap fun key => (g.edge? key).map (key, ·) := by
  unfold directions
  cases g.pools[pool]? with
  | none => simp
  | some p => simp [eq_comm]

theorem mem_stored {g : Graph} {keys : List EdgeKey} {key : EdgeKey} {edge : Edge} :
    (key, edge) ∈ keys.filterMap (fun key => (g.edge? key).map (key, ·)) ↔
      key ∈ keys ∧ g.edge? key = some edge := by
  simp only [List.mem_filterMap, Option.map_eq_some_iff]
  constructor
  · rintro ⟨_, hkey, _, hedge, ⟨⟩⟩
    exact ⟨hkey, hedge⟩
  · rintro ⟨hkey, hedge⟩
    exact ⟨key, hkey, edge, hedge, rfl⟩

theorem mem_revised {g : Graph} {log : Log} {ctx : LogContext} {rs : List Revision} {r : Revision}
    (h : g.revised log ctx = .ok rs) (hr : r ∈ rs) :
    ∃ p edge, g.pools[PoolId.ofAddress log.address]? = some p ∧
      r.key ∈ p.keys (PoolId.ofAddress log.address) ctx.chain ∧ g.edge? r.key = some edge ∧
      edge.update log ctx = .ok (r.edge, some r.observation) := by
  obtain ⟨current, hcurrent, h⟩ := bind_eq_ok.mp h
  obtain ⟨revisions, hrevise, h⟩ := bind_eq_ok.mp h
  cases h
  obtain ⟨p, hp, rfl⟩ := directions_eq_ok.mp hcurrent
  obtain ⟨_, hr, rfl⟩ := List.mem_filterMap.mp hr
  obtain ⟨⟨key, edge⟩, hentry, hrevised⟩ := exists_of_mem_mapM hrevise hr
  obtain ⟨hkey, hedge⟩ := mem_stored.mp hentry
  obtain ⟨hupdate, hrkey⟩ := revise_eq_some.mp hrevised
  rw [hrkey]
  exact ⟨p, edge, hp, hkey, hedge, hupdate⟩

theorem mem_revised_of_update {g : Graph} {log : Log} {ctx : LogContext} {rs : List Revision}
    {p : Pool} {key : EdgeKey} {edge edge' : Edge} {o : Observation}
    (h : g.revised log ctx = .ok rs) (hp : g.pools[PoolId.ofAddress log.address]? = some p)
    (hkey : key ∈ p.keys (PoolId.ofAddress log.address) ctx.chain)
    (hedge : g.edge? key = some edge) (hupdate : edge.update log ctx = .ok (edge', some o)) :
    ⟨key, edge', o⟩ ∈ rs := by
  obtain ⟨current, hcurrent, h⟩ := bind_eq_ok.mp h
  obtain ⟨revisions, hrevise, h⟩ := bind_eq_ok.mp h
  cases h
  rw [directions, hp] at hcurrent
  cases hcurrent
  obtain ⟨revision, hmem, hrevised⟩ := exists_mem_of_mapM hrevise (mem_stored.mpr ⟨hkey, hedge⟩)
  have hexpected : revise log ctx (key, edge) = .ok (some ⟨key, edge', o⟩) :=
    revise_eq_some.mpr ⟨hupdate, rfl⟩
  obtain rfl : revision = some ⟨key, edge', o⟩ := Except.ok.inj (hrevised.symm.trans hexpected)
  exact List.mem_filterMap.mpr ⟨_, hmem, rfl⟩

theorem commit_eq_mapEdges {g : Graph} {rs : List Revision}
    (h : ∀ r ∈ rs, (g.edge? r.key).isSome) :
    g.commit rs = g.mapEdges fun k e => rs.foldl (fun e r => if r.key = k then r.edge else e) e := by
  induction rs generalizing g with
  | nil => exact (mapEdges_eq_self fun _ _ _ => rfl).symm
  | cons r rs ih =>
    obtain ⟨hfirst, hrest⟩ := List.forall_mem_cons.mp h
    have hset : g.setEdge r.key r.edge = g.mapEdges fun k e => if r.key = k then r.edge else e :=
      setEdge_eq_mapEdges hfirst
    have hstored : ∀ r' ∈ rs, ((g.setEdge r.key r.edge).edge? r'.key).isSome := by
      intro r' hr'
      rw [hset, edge?_mapEdges, Option.isSome_map]
      exact hrest r' hr'
    change (g.setEdge r.key r.edge).commit rs = _
    rw [ih hstored, hset, mapEdges_mapEdges]
    rfl

def affects (g : Graph) (key : EdgeKey) (d : Delivery) : Bool :=
  match g.revised d.1 d.2 with
  | .ok rs => rs.any (·.key = key)
  | .error _ => false

theorem affects_eq_true {g : Graph} {key : EdgeKey} {d : Delivery} :
    g.affects key d ↔ ∃ rs, g.revised d.1 d.2 = .ok rs ∧ ∃ r ∈ rs, r.key = key := by
  unfold affects
  cases g.revised d.1 d.2 with
  | error cause => simp
  | ok rs => simp

private theorem foldl_revision {k : EdgeKey} {c : Edge} {rs : List Revision}
    (h : ∀ r ∈ rs, r.key = k → r.edge = c) (e : Edge) :
    rs.foldl (fun e r => if r.key = k then r.edge else e) e =
      if rs.any (·.key = k) then c else e := by
  induction rs generalizing e with
  | nil => rfl
  | cons r rs ih =>
    obtain ⟨hfirst, hrest⟩ := List.forall_mem_cons.mp h
    rw [List.foldl_cons, ih hrest]
    by_cases hk : r.key = k
    · simp [hk, hfirst hk]
    · simp [hk]

theorem frame_revised (g : Graph) (d : Delivery) (k : EdgeKey) (e : Edge) :
    (if g.affects k d then e.after d else e).frame = e.frame := by
  split_ifs
  · exact e.frame_after d
  · rfl

/-- A log changes the edges that it affects, and nothing else. -/
theorem dispatch_eq_mapEdges (g : Graph) (d : Delivery) :
    (g.dispatch d.1 d.2).1 = g.mapEdges fun k e => if g.affects k d then e.after d else e := by
  unfold dispatch
  rw [applyLog_eq]
  cases hrevised : g.revised d.1 d.2 with
  | error cause =>
    refine (mapEdges_eq_self fun k e _ => ?_).symm
    simp [affects, hrevised]
  | ok rs =>
    have hstored : ∀ r ∈ rs, ∃ e, g.edge? r.key = some e ∧ r.edge = e.after d := by
      intro r hr
      obtain ⟨-, edge, -, -, hedge, hupdate⟩ := mem_revised hrevised hr
      refine ⟨edge, hedge, ?_⟩
      rw [Edge.after, hupdate]
    change g.commit rs = _
    -- one key may be revised twice, then to the same edge
    rw [commit_eq_mapEdges fun r hr => ?_]
    · refine mapEdges_congr fun k e he => ?_
      rw [foldl_revision (c := e.after d), affects, hrevised]
      intro r hr hk
      obtain ⟨edge, hedge, hafter⟩ := hstored r hr
      rw [hk, he] at hedge
      cases hedge
      exact hafter
    · obtain ⟨edge, hedge, -⟩ := hstored r hr
      simp [hedge]

def dispatchEach : Graph → List Delivery → Graph × List Observation
  | g, [] => (g, [])
  | g, d :: ds =>
    let (g, os) := g.dispatch d.1 d.2
    let (g, rest) := dispatchEach g ds
    (g, os ++ rest)

end Graph

end LiquidityGraph
