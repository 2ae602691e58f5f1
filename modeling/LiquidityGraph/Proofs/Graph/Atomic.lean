import LiquidityGraph.Proofs.Graph.Dispatch

/-!
A log applied as a transaction. The edges of the logging pool are copied, the copies take over what
the log says, and they are put in place of the stored edges if nothing has come between. A log that
is refused leaves the graph as it is, and one that is applied changes only the directions of its
pool that listen to its event.
-/
namespace LiquidityGraph

namespace Edge

def hears (edge : Edge) (log : Log) (ctx : LogContext) : Bool :=
  match edge with
  | .constantProduct _ => log.hasTopic ctx.sync
  | .concentrated _ => log.hasTopic ctx.swap
  | .bridge _ => false

def report (edge : Edge) (ctx : LogContext) : Observation :=
  observe edge.tokenIn edge.tokenOut ctx (edge.quote ctx.reference)

@[simp] theorem hears_frame (edge : Edge) : edge.frame.hears = edge.hears := by
  cases edge <;> rfl

theorem update_of_not_hears {edge : Edge} {log : Log} {ctx : LogContext}
    (h : edge.hears log ctx = false) : edge.update log ctx = .ok (edge, none) := by
  cases edge with
  | constantProduct e =>
    change log.hasTopic ctx.sync = false at h
    rw [update, h, if_neg Bool.false_ne_true]
  | concentrated e =>
    change log.hasTopic ctx.swap = false at h
    rw [update, h, if_neg Bool.false_ne_true]
  | bridge e => rfl

/-- An edge that takes over a log reports what it pays from then on. -/
theorem update_of_hears {edge edge' : Edge} {log : Log} {ctx : LogContext} {o : Option Observation}
    (h : edge.hears log ctx) (hupdate : edge.update log ctx = .ok (edge', o)) :
    o = some (edge'.report ctx) := by
  cases edge with
  | constantProduct e =>
    change log.hasTopic ctx.sync = true at h
    rw [update, if_pos h] at hupdate
    split at hupdate
    · cases hupdate
    · cases hupdate
      rfl
  | concentrated e =>
    change log.hasTopic ctx.swap = true at h
    rw [update, if_pos h] at hupdate
    split at hupdate
    · cases hupdate
    · cases hupdate
      rfl
  | bridge e => cases h

end Edge

theorem Pool.nodup_keys {p : Pool} (h : p.token0 ≠ p.token1) (pool : PoolId) (chain : ChainId) :
    (p.keys pool chain).Nodup := by
  simp [keys, h]

namespace Graph

/-- A revision, and the stored edge that was copied for it. -/
structure Draft where
  base : Edge
  revision : Revision

/-- What comes of drafts. They are stale when one of the edges is no longer the one copied. -/
inductive Verdict where
  | applied
  | stale
  | poolGone

/-- The copy of an edge with what a log makes of it, if that is anything. -/
def draft (log : Log) (ctx : LogContext) (entry : EdgeKey × Edge) :
    Except GraphError (Option Draft) :=
  (revise log ctx entry).map (·.map (⟨entry.2, ·⟩))

def reading {α : Type} (f : Graph → Except GraphError α) : ExceptT GraphError (StateM Graph) α :=
  fun g => (f g, g)

/-- Puts drafts in place of the stored edges, one by one. -/
def put (pool : PoolId) (drafts : List Draft) : StateM Graph Verdict := do
  let g ← get
  if g.pools[pool]?.isNone then return .poolGone
  else if drafts.all fun d => g.edge? d.revision.key = some d.base then
    drafts.forM fun d => modify fun g => g.setEdge d.revision.key d.revision.edge
    return .applied
  else return .stale

/-- Tries to apply a log a number of times. -/
def transact (log : Log) (ctx : LogContext) :
    Nat → ExceptT GraphError (StateM Graph) (List Observation)
  | 0 => return []
  | attempts + 1 => do
    let current ← reading (·.directions (PoolId.ofAddress log.address) ctx.chain)
    let drafts ← reading fun _ => current.mapM (draft log ctx)
    let drafts := drafts.filterMap id
    let observations := drafts.map (·.revision.observation)
    if drafts.isEmpty then return observations
    match ← put (PoolId.ofAddress log.address) drafts with
    | .applied => return observations
    | .poolGone => throw (.unknownPool (PoolId.ofAddress log.address))
    | .stale => transact log ctx attempts

/-- How often a log is tried before it is dropped. -/
def maxAttempts : Nat := 3

private theorem run_reading_bind {α β : Type} (f : Graph → Except GraphError α)
    (k : α → ExceptT GraphError (StateM Graph) β) (g : Graph) :
    (reading f >>= k).run.run g =
      match f g with
      | .ok a => (k a).run.run g
      | .error e => (.error e, g) := by
  change (ExceptT.bindCont k (f g)).run g = _
  cases f g <;> rfl

private theorem run_lift_bind {α β : Type} (m : StateM Graph α)
    (k : α → ExceptT GraphError (StateM Graph) β) (g : Graph) :
    ((liftM m : ExceptT GraphError (StateM Graph) α) >>= k).run.run g =
      (k (m.run g).1).run.run (m.run g).2 := rfl

variable {g g' : Graph} {log : Log} {ctx : LogContext} {pool : PoolId}

private theorem run_forM_setEdge (g : Graph) (drafts : List Draft) :
    (drafts.forM fun d => modify fun g => g.setEdge d.revision.key d.revision.edge :
      StateM Graph Unit).run g = ((), g.commit (drafts.map (·.revision))) := by
  induction drafts generalizing g with
  | nil => rfl
  | cons d drafts ih => exact ih (g.setEdge d.revision.key d.revision.edge)

/-- Drafts are put into the graph together or not at all. -/
theorem run_put (g : Graph) (pool : PoolId) (drafts : List Draft) :
    (put pool drafts).run g =
      if g.pools[pool]?.isNone then (.poolGone, g)
      else if drafts.all fun d => g.edge? d.revision.key = some d.base then
        (.applied, g.commit (drafts.map (·.revision)))
      else (.stale, g) := by
  change (if g.pools[pool]?.isNone then pure .poolGone else _ : StateM Graph Verdict).run g = _
  split_ifs
  · rfl
  · change ((drafts.forM _ >>= _ : StateM Graph Verdict)).run g = _
    rw [StateT.run_bind, run_forM_setEdge]
    rfl
  · rfl

theorem revised_eq_draft {current : List (EdgeKey × Edge)}
    (h : g.directions (PoolId.ofAddress log.address) ctx.chain = .ok current) :
    g.revised log ctx =
      (current.mapM (draft log ctx)).map fun ds => (ds.filterMap id).map (·.revision) := by
  have hmapM : ∀ entries : List (EdgeKey × Edge), entries.mapM (revise log ctx) =
      (entries.mapM (draft log ctx)).map (·.map (·.map (·.revision))) := by
    intro entries
    induction entries with
    | nil => rfl
    | cons entry entries ih =>
      rw [List.mapM_cons, List.mapM_cons, ih, draft]
      cases revise log ctx entry with
      | error cause => rfl
      | ok r => cases r <;> cases entries.mapM (draft log ctx) <;> rfl
  rw [revised, h]
  change (current.mapM (revise log ctx) >>= fun rs => pure (rs.filterMap id)) = _
  rw [hmapM]
  cases current.mapM (draft log ctx) with
  | error cause => rfl
  | ok ds =>
    change Except.ok ((ds.map _).filterMap id) = Except.ok ((ds.filterMap id).map _)
    rw [List.filterMap_map, List.map_filterMap]
    rfl

private theorem draft_eq_some {entry : EdgeKey × Edge} {d : Draft}
    (h : draft log ctx entry = .ok (some d)) : d.revision.key = entry.1 ∧ d.base = entry.2 := by
  obtain ⟨revised, hrevise, hd⟩ := map_eq_ok.mp h
  obtain ⟨r, rfl, rfl⟩ := Option.map_eq_some_iff.mp hd
  exact ⟨(revise_eq_some.mp hrevise).2, rfl⟩

theorem all_fresh {p : Pool} {chain : ChainId} {ds : List (Option Draft)}
    (h : ((p.keys pool chain).filterMap fun key => (g.edge? key).map (key, ·)).mapM
      (draft log ctx) = .ok ds) :
    ∀ d ∈ ds.filterMap id, g.edge? d.revision.key = some d.base := by
  intro d hd
  obtain ⟨_, hd, rfl⟩ := List.mem_filterMap.mp hd
  obtain ⟨⟨key, edge⟩, hentry, hdraft⟩ := exists_of_mem_mapM h hd
  obtain ⟨hkey, hbase⟩ := draft_eq_some hdraft
  rw [hkey, hbase, (mem_stored.mp hentry).2]

/-- Where nothing comes between, a log is applied at the first attempt. -/
theorem run_transact (g : Graph) (log : Log) (ctx : LogContext) (attempts : Nat) :
    (transact log ctx (attempts + 1)).run.run g =
      match g.applyLog log ctx with
      | .ok (g', os) => (.ok os, g')
      | .error e => (.error e, g) := by
  rw [transact, run_reading_bind, applyLog_eq]
  cases hcurrent : g.directions (PoolId.ofAddress log.address) ctx.chain with
  | error cause =>
    rw [revised, hcurrent]
    rfl
  | ok current =>
    rw [revised_eq_draft hcurrent]
    obtain ⟨p, hp, rfl⟩ := directions_eq_ok.mp hcurrent
    dsimp only
    rw [run_reading_bind]
    cases hdrafts : List.mapM (draft log ctx) _ with
    | error cause => rfl
    | ok ds =>
      have hfresh : (ds.filterMap id).all fun d => g.edge? d.revision.key = some d.base :=
        List.all_eq_true.mpr fun d hd => decide_eq_true (all_fresh hdrafts d hd)
      have hput := run_put g (PoolId.ofAddress log.address) (ds.filterMap id)
      rw [hp, if_neg (by simp), if_pos hfresh] at hput
      simp only [Except.map]
      by_cases hempty : (ds.filterMap id).isEmpty
      · rw [if_pos hempty, List.isEmpty_iff.mp hempty]
        rfl
      · rw [if_neg hempty, run_lift_bind, hput, List.map_map]
        rfl

/-- Why a log is refused. -/
inductive Refused (g : Graph) (log : Log) (ctx : LogContext) : GraphError → Prop
  | unknownPool : g.pools[PoolId.ofAddress log.address]? = none →
      Refused g log ctx (.unknownPool (PoolId.ofAddress log.address))
  | edge {p : Pool} {key : EdgeKey} {edge : Edge} {cause : EdgeError} :
      g.pools[PoolId.ofAddress log.address]? = some p →
      key ∈ p.keys (PoolId.ofAddress log.address) ctx.chain → g.edge? key = some edge →
      edge.update log ctx = .error cause →
      Refused g log ctx (.edge (PoolId.ofAddress log.address) cause)

/-- What a log that is not refused makes of a graph, and what it reports. -/
structure Applied (g : Graph) (log : Log) (ctx : LogContext) (p : Pool) (g' : Graph)
    (os : List Observation) : Prop where
  known : g.pools[PoolId.ofAddress log.address]? = some p
  records : g'.pools = g.pools ∧ g'.fees = g.fees ∧ g'.ticks = g.ticks ∧
    g'.defaultFee = g.defaultFee
  directions : ∀ key ∈ p.keys (PoolId.ofAddress log.address) ctx.chain, ∀ edge,
    g.edge? key = some edge →
      ∃ edge' o, edge.update log ctx = .ok (edge', o) ∧ g'.edge? key = some edge'
  elsewhere : ∀ key, key ∉ p.keys (PoolId.ofAddress log.address) ctx.chain →
    g'.edge? key = g.edge? key
  deaf : ∀ key edge, g.edge? key = some edge → edge.hears log ctx = false →
    g'.edge? key = some edge
  frame : ∀ key, (g'.edge? key).map Edge.frame = (g.edge? key).map Edge.frame
  reports : os = (((p.keys (PoolId.ofAddress log.address) ctx.chain).filterMap g'.edge?).filter
    (·.hears log ctx)).map (·.report ctx)

/-- A log that is refused is of no pool on record, or one of the directions cannot read it. -/
theorem refused_of_error {e : GraphError} (h : g.applyLog log ctx = .error e) :
    Refused g log ctx e := by
  rw [applyLog_eq] at h
  obtain hunknown | ⟨current, hcurrent, hrevised⟩ := bind_eq_error.mp (map_eq_error.mp h)
  · unfold directions at hunknown
    split at hunknown
    · rename_i hnone
      cases hunknown
      exact .unknownPool hnone
    · cases hunknown
  · obtain hrevise | ⟨rs, -, hrs⟩ := bind_eq_error.mp hrevised
    · obtain ⟨p, hp, rfl⟩ := directions_eq_ok.mp hcurrent
      obtain ⟨⟨key, edge⟩, hentry, hrevise⟩ := exists_of_mapM_eq_error hrevise
      obtain ⟨hkey, hedge⟩ := mem_stored.mp hentry
      unfold revise at hrevise
      split at hrevise
      · rename_i cause hupdate
        cases hrevise
        rw [(Pool.mem_keys hkey).1]
        exact .edge hp hkey hedge hupdate
      · cases hrevise
    · cases hrs

theorem map_observation {keys : List EdgeKey} {rs : List (Option Revision)}
    (h : (keys.filterMap fun key => (g.edge? key).map (key, ·)).mapM (revise log ctx) = .ok rs)
    (hstored : ∀ key ∈ keys, ∀ edge, g.edge? key = some edge →
      ∃ edge' o, edge.update log ctx = .ok (edge', o) ∧ g'.edge? key = some edge')
    (habsent : ∀ key ∈ keys, g.edge? key = none → g'.edge? key = none) :
    (rs.filterMap id).map (·.observation) =
      ((keys.filterMap g'.edge?).filter (·.hears log ctx)).map (·.report ctx) := by
  induction keys generalizing rs with
  | nil =>
    cases h
    rfl
  | cons key keys ih =>
    obtain ⟨hfirst, hrest⟩ := List.forall_mem_cons.mp hstored
    obtain ⟨hnone, hnones⟩ := List.forall_mem_cons.mp habsent
    rw [List.filterMap_cons] at h ⊢
    cases hedge : g.edge? key with
    | none =>
      rw [hedge] at h
      rw [hnone hedge]
      exact ih h hrest hnones
    | some edge =>
      obtain ⟨edge', o, hupdate, hedge'⟩ := hfirst edge hedge
      rw [hedge, Option.map_some, List.mapM_cons] at h
      obtain ⟨r, hr, h⟩ := bind_eq_ok.mp h
      obtain ⟨rest, hrs, h⟩ := bind_eq_ok.mp h
      cases h
      rw [hedge', List.filter_cons, ← Edge.hears_frame, Edge.update_frame hupdate, Edge.hears_frame]
      simp only [revise, hupdate] at hr
      cases hr
      cases hhears : edge.hears log ctx with
      | true =>
        obtain rfl := Edge.update_of_hears hhears hupdate
        rw [if_pos rfl]
        exact congrArg _ (ih hrs hrest hnones)
      | false =>
        rw [Edge.update_of_not_hears hhears] at hupdate
        cases hupdate
        rw [if_neg Bool.false_ne_true, ← ih hrs hrest hnones]
        rfl

theorem exists_revisions {os : List Observation} (h : g.applyLog log ctx = .ok (g', os)) :
    ∃ p rs, g.pools[PoolId.ofAddress log.address]? = some p ∧
      ((p.keys (PoolId.ofAddress log.address) ctx.chain).filterMap
        fun key => (g.edge? key).map (key, ·)).mapM (revise log ctx) = .ok rs ∧
      g.revised log ctx = .ok (rs.filterMap id) ∧ os = (rs.filterMap id).map (·.observation) := by
  rw [applyLog_eq] at h
  obtain ⟨revisions, hrevised, hresult⟩ := map_eq_ok.mp h
  obtain ⟨current, hcurrent, hmapM⟩ := bind_eq_ok.mp hrevised
  obtain ⟨p, hp, rfl⟩ := directions_eq_ok.mp hcurrent
  obtain ⟨rs, hrs, hpure⟩ := bind_eq_ok.mp hmapM
  cases hpure
  cases hresult
  exact ⟨p, rs, hp, hrs, hrevised, rfl⟩

theorem eq_mapEdges_of_ok {os : List Observation} (h : g.applyLog log ctx = .ok (g', os)) :
    g' = g.mapEdges fun k e => if g.affects k (log, ctx) then e.after (log, ctx) else e := by
  have hdispatch := dispatch_eq_mapEdges g (log, ctx)
  rw [dispatch, h] at hdispatch
  exact hdispatch

theorem edge?_of_ok {os : List Observation} (h : g.applyLog log ctx = .ok (g', os))
    (key : EdgeKey) : g'.edge? key =
      (g.edge? key).map fun e => if g.affects key (log, ctx) then e.after (log, ctx) else e := by
  rw [eq_mapEdges_of_ok h, edge?_mapEdges]

theorem direction_of_ok {os : List Observation} {p : Pool} {key : EdgeKey} {edge : Edge}
    (h : g.applyLog log ctx = .ok (g', os)) (hp : g.pools[PoolId.ofAddress log.address]? = some p)
    (hkey : key ∈ p.keys (PoolId.ofAddress log.address) ctx.chain)
    (hedge : g.edge? key = some edge) :
    ∃ edge' o, edge.update log ctx = .ok (edge', o) ∧ g'.edge? key = some edge' := by
  obtain ⟨p', rs, hp', hrs, hrevised, -⟩ := exists_revisions h
  obtain rfl : p = p' := Option.some.inj (hp.symm.trans hp')
  obtain ⟨r, -, hr⟩ := exists_mem_of_mapM hrs (mem_stored.mpr ⟨hkey, hedge⟩)
  cases hupdate : edge.update log ctx with
  | error cause =>
    simp only [revise, hupdate] at hr
    cases hr
  | ok result =>
    obtain ⟨edge', o⟩ := result
    refine ⟨edge', o, rfl, ?_⟩
    rw [edge?_of_ok h, hedge, Option.map_some, Edge.after, hupdate]
    cases hhears : edge.hears log ctx with
    | true =>
      obtain rfl := Edge.update_of_hears hhears hupdate
      have hmem := mem_revised_of_update hrevised hp hkey hedge hupdate
      have haffects : g.affects key (log, ctx) :=
        affects_eq_true.mpr ⟨_, hrevised, _, hmem, rfl⟩
      rw [if_pos haffects]
    | false =>
      rw [Edge.update_of_not_hears hhears] at hupdate
      cases hupdate
      rw [ite_self]

/-- A log that is not refused settles each direction of its pool, and nothing else. -/
theorem applied_of_ok {os : List Observation} (h : g.applyLog log ctx = .ok (g', os)) :
    ∃ p, Applied g log ctx p g' os := by
  obtain ⟨p, rs, hp, hrs, -, hos⟩ := exists_revisions h
  refine ⟨p, hp, ?_, fun key hkey edge hedge => direction_of_ok h hp hkey hedge, ?_, ?_, ?_, ?_⟩
  · rw [eq_mapEdges_of_ok h]
    exact ⟨rfl, rfl, rfl, rfl⟩
  · intro key hkey
    have hnot : g.affects key (log, ctx) = false := by
      by_contra haffects
      obtain ⟨rs, hrs, r, hr, rfl⟩ := affects_eq_true.mp (Bool.not_eq_false _ ▸ haffects)
      obtain ⟨p', -, hp', hkey', -⟩ := mem_revised hrs hr
      obtain rfl : p = p' := Option.some.inj (hp.symm.trans hp')
      exact hkey hkey'
    simp only [edge?_of_ok h, hnot, Bool.false_eq_true, if_false, Option.map_id']
  · intro key edge hedge hdeaf
    have hafter : edge.after (log, ctx) = edge := by
      rw [Edge.after, Edge.update_of_not_hears hdeaf]
    rw [edge?_of_ok h, hedge, Option.map_some, hafter, ite_self]
  · intro key
    rw [edge?_of_ok h, Option.map_map]
    exact Option.map_congr fun edge _ => frame_revised g (log, ctx) key edge
  · rw [hos]
    refine map_observation hrs (fun key hkey edge hedge => direction_of_ok h hp hkey hedge) ?_
    intro key _ hnone
    rw [edge?_of_ok h, hnone, Option.map_none]

/-- A log is applied as a whole or not at all. The transaction and the function agree. A refused
log leaves the graph as it is, and is refused for one of its pool's directions or for want of the
pool. Another log settles the stored directions of its pool, in both of which it can be read, and
reports each of them that listens, in their order and as it is stored afterwards. -/
theorem applyLog_atomic (g : Graph) (log : Log) (ctx : LogContext) :
    let outcome := (transact log ctx maxAttempts).run.run g
    (outcome = match g.applyLog log ctx with
      | .ok (g', os) => (.ok os, g')
      | .error e => (.error e, g)) ∧
      (∀ e, outcome.1 = .error e → outcome.2 = g ∧ Refused g log ctx e) ∧
      ∀ os, outcome.1 = .ok os → ∃ p, Applied g log ctx p outcome.2 os ∧
        (p.token0 ≠ p.token1 → (p.keys (PoolId.ofAddress log.address) ctx.chain).Nodup) := by
  intro outcome
  have houtcome : outcome = _ := run_transact g log ctx 2
  cases happly : g.applyLog log ctx with
  | error cause =>
    rw [happly] at houtcome
    rw [houtcome]
    refine ⟨rfl, ?_, nofun⟩
    rintro e ⟨⟩
    exact ⟨rfl, refused_of_error happly⟩
  | ok result =>
    obtain ⟨g', os⟩ := result
    rw [happly] at houtcome
    rw [houtcome]
    refine ⟨rfl, nofun, ?_⟩
    rintro os ⟨⟩
    obtain ⟨p, happlied⟩ := applied_of_ok happly
    exact ⟨p, happlied, fun h => Pool.nodup_keys h _ _⟩

/-- Reserves in one direction of a pool, of which the other direction is a position. -/
def mixedReserves (pool : PoolId) : EdgeKey × Edge :=
  (⟨⟨"A"⟩, ⟨"B"⟩, pool, ⟨"dfk"⟩⟩, .constantProduct ⟨⟨"A"⟩, ⟨"B"⟩, 10, 10, true⟩)

def mixedPosition (pool : PoolId) : EdgeKey × Edge :=
  (⟨⟨"B"⟩, ⟨"A"⟩, pool, ⟨"dfk"⟩⟩,
    .concentrated ⟨⟨"A"⟩, ⟨"B"⟩, 3000, Price.q96, 1000000, 0, ⟨60, []⟩, false, none⟩)

def mixed (pool : PoolId) : Graph :=
  (((Graph.empty 0).addPool ⟨⟨"A"⟩, ⟨"B"⟩, pool, "factory", ⟨"dfk"⟩⟩).setEdge
    (mixedReserves pool).1 (mixedReserves pool).2).setEdge
      (mixedPosition pool).1 (mixedPosition pool).2

private theorem directions_mixed (pool : PoolId) :
    (mixed pool).directions pool ⟨"dfk"⟩ = .ok [mixedReserves pool, mixedPosition pool] := by
  have hknown : (mixed pool).pools[pool]? = some ⟨⟨"A"⟩, ⟨"B"⟩, pool, "factory", ⟨"dfk"⟩⟩ := by
    change ((∅ : Std.ExtTreeMap PoolId Pool).insertIfNew pool _)[_]? = _
    rw [Std.ExtTreeMap.getElem?_insertIfNew, if_pos (by simp)]
  have hkeys : Pool.keys ⟨⟨"A"⟩, ⟨"B"⟩, pool, "factory", ⟨"dfk"⟩⟩ pool ⟨"dfk"⟩ =
      [(mixedReserves pool).1, (mixedPosition pool).1] := rfl
  have hapart : (mixedPosition pool).1 ≠ (mixedReserves pool).1 := by
    simp [mixedPosition, mixedReserves]
  refine directions_eq_ok.mpr ⟨_, hknown, ?_⟩
  simp only [hkeys, mixed, edge?_setEdge, hapart, List.filterMap_cons, List.filterMap_nil, if_true,
    if_false, Option.map_some]

private theorem applyLog_mixed {log : Log} {pool : PoolId} (h : PoolId.ofAddress log.address = pool)
    (reference sync swap : Nat) :
    (mixed pool).applyLog log ⟨⟨"dfk"⟩, reference, sync, swap⟩ =
      ([mixedReserves pool, mixedPosition pool].mapM
        (revise log ⟨⟨"dfk"⟩, reference, sync, swap⟩)).map fun rs =>
          ((mixed pool).commit (rs.filterMap id), (rs.filterMap id).map (·.observation)) := by
  rw [applyLog_eq, revised, h, directions_mixed]
  change Except.map _ (List.mapM (revise log _) _ >>= fun rs => pure (rs.filterMap id)) = _
  cases List.mapM (revise log _) _ <;> rfl

/-- A report of reserves, which is too short for a position. -/
def reservesLog : Log :=
  ⟨Address.zero, [7], Bytes.ofNat 32 2000 ++ Bytes.ofNat 32 4000, none, none⟩

/-- Where both events have one topic the position cannot read the report, and the reserves are not
changed either. Otherwise only they are changed. -/
theorem applyLog_atomic_mixed : ∃ pool, PoolId.ofAddress reservesLog.address = pool ∧
    (transact reservesLog ⟨⟨"dfk"⟩, 100, 7, 7⟩ maxAttempts).run.run (mixed pool) =
      (.error (.edge pool (.malformedLog "Swap" (.shortData 96 64))), mixed pool) ∧
    let applied := (transact reservesLog ⟨⟨"dfk"⟩, 100, 7, 8⟩ maxAttempts).run.run (mixed pool)
    applied.1 = .ok [⟨⟨"A"⟩, ⟨"B"⟩, ⟨"dfk"⟩, 100, 189⟩] ∧
      applied.2.edge? (mixedPosition pool).1 = some (mixedPosition pool).2 := by
  obtain ⟨pool, hpool⟩ : ∃ pool, PoolId.ofAddress reservesLog.address = pool := ⟨_, rfl⟩
  have hshort : [mixedReserves pool, mixedPosition pool].mapM
      (revise reservesLog ⟨⟨"dfk"⟩, 100, 7, 7⟩) =
        .error (.edge pool (.malformedLog "Swap" (.shortData 96 64))) := rfl
  have hquote : (Edge.constantProduct ⟨⟨"A"⟩, ⟨"B"⟩, 2000, 4000, true⟩).report
      ⟨⟨"dfk"⟩, 100, 7, 8⟩ = ⟨⟨"A"⟩, ⟨"B"⟩, ⟨"dfk"⟩, 100, 189⟩ := by
    decide +kernel
  have hread : ∃ edge, [mixedReserves pool, mixedPosition pool].mapM
      (revise reservesLog ⟨⟨"dfk"⟩, 100, 7, 8⟩) =
        .ok [some ⟨(mixedReserves pool).1, edge, ⟨⟨"A"⟩, ⟨"B"⟩, ⟨"dfk"⟩, 100, 189⟩⟩, none] := by
    rw [← hquote]
    exact ⟨_, rfl⟩
  obtain ⟨edge, hread⟩ := hread
  obtain ⟨hrefused, -, -⟩ := applyLog_atomic (mixed pool) reservesLog ⟨⟨"dfk"⟩, 100, 7, 7⟩
  obtain ⟨happlied, -, hdone⟩ := applyLog_atomic (mixed pool) reservesLog ⟨⟨"dfk"⟩, 100, 7, 8⟩
  rw [applyLog_mixed hpool, hshort] at hrefused
  rw [applyLog_mixed hpool, hread] at happlied
  have hreported := congrArg Prod.fst happlied
  obtain ⟨p, hp, -⟩ := hdone _ hreported
  have hposition : (mixed pool).edge? (mixedPosition pool).1 = some (mixedPosition pool).2 := by
    rw [mixed, edge?_setEdge, if_pos rfl]
  exact ⟨pool, hpool, hrefused, hreported, hp.deaf _ _ hposition rfl⟩

end Graph

end LiquidityGraph
