import LiquidityGraph.Discovery.Persist
import LiquidityGraph.Proofs.Store.Calls
import LiquidityGraph.Proofs.Store.Writes

/-!
Findings saved to a store whose calls can fail. What a failed attempt leaves behind is written again
by the next one, so that the store ends as if it had never been made.
-/
namespace LiquidityGraph

open Std (ExtTreeMap)

/-- All calls are those of the store that stands behind them. -/
structure PoolStore.Serves {σ ε : Type} (calls : PoolStore (ExceptT ε (StateM σ))) (view : σ → Store) :
    Prop where
  loadPools (chain : ChainId) : Performs view (calls.loadPools chain) fun s => (s.poolsOn chain, s)
  savePool (p : Pool) : Performs view (calls.savePool p) fun s => ((), s.savePool p)
  saveEdges (records : List EdgeRecord) :
    Performs view (calls.saveEdges records) fun s => ((), s.saveEdges records)

namespace Findings

variable {f : Findings} {s t : Store}

def others (f : Findings) (records : List EdgeRecord) : List EdgeRecord :=
  records.filter fun r => !f.edges.contains r.key

/-- A store after findings were saved to it. -/
def saved (f : Findings) (s : Store) : Store :=
  (f.pools.values.foldl Store.savePool s).saveEdges f.records

def unknown (f : Findings) (s : Store) : Nat :=
  (f.pools.values.filter fun p =>
    !((f.chains.map s.poolsOn).flatten.map (·.id)).contains p.id).length

def lastPool? (f : Findings) (id : PoolId) : Option Pool :=
  f.pools.values.reverse.find? (·.id = id)

theorem lastPool?_eq_none {id : PoolId} :
    f.lastPool? id = none ↔ ∀ p ∈ f.pools.values, p.id ≠ id := by
  simp [lastPool?, List.find?_eq_none]

theorem of_lastPool? {id : PoolId} {p : Pool} (h : f.lastPool? id = some p) :
    p ∈ f.pools.values ∧ p.id = id :=
  ⟨List.mem_reverse.mp (List.mem_of_find?_eq_some h), by simpa using List.find?_some h⟩

theorem exists_lastPool? {p : Pool} (h : p ∈ f.pools.values) :
    ∃ q, f.lastPool? p.id = some q := by
  refine Option.ne_none_iff_exists'.mp fun hnone => ?_
  exact lastPool?_eq_none.mp hnone p h rfl

theorem lastPool?_of_own (hown : ∀ (id : PoolId) p, f.pools[id]? = some p → p.id = id)
    (id : PoolId) : f.lastPool? id = f.pools[id]? := by
  cases hlast : f.lastPool? id with
  | none =>
    cases hp : f.pools[id]? with
    | none => rfl
    | some p => exact absurd (hown id p hp) (lastPool?_eq_none.mp hlast p (mem_values.mpr ⟨id, hp⟩))
  | some p =>
    obtain ⟨hmem, rfl⟩ := of_lastPool? hlast
    obtain ⟨k, hk⟩ := mem_values.mp hmem
    rw [hown k p hk, hk]

section Saved

variable (f)

private theorem ascending_records : f.records.Pairwise fun a b => compare a.key b.key = .lt := by
  rw [records, List.pairwise_map]
  exact ExtTreeMap.ordered_keys_toList

private theorem distinct_records : Store.Distinct f.records := by
  refine f.ascending_records.imp fun {a b} hab heq => ?_
  rw [heq, Std.ReflOrd.compare_self] at hab
  cases hab

variable {f} in
theorem mem_records {r : EdgeRecord} :
    r ∈ f.records ↔ ∃ k e, f.edges[k]? = some e ∧ r = .ofEdge k e := by
  simp only [records, List.mem_map, Prod.exists, ExtTreeMap.mem_toList_iff_getElem?_eq_some,
    eq_comm]

variable {f} in
theorem mem_edges {k : EdgeKey} : k ∈ f.edges ↔ ∃ r ∈ f.records, r.key = k := by
  rw [ExtTreeMap.mem_iff_isSome_getElem?, Option.isSome_iff_exists]
  constructor
  · rintro ⟨e, he⟩
    exact ⟨.ofEdge k e, mem_records.mpr ⟨k, e, he, rfl⟩, rfl⟩
  · rintro ⟨r, hr, rfl⟩
    obtain ⟨k, e, he, rfl⟩ := mem_records.mp hr
    exact ⟨e, he⟩

@[simp] theorem others_records : f.others f.records = [] := by
  refine List.filter_eq_nil_iff.mpr fun r hr => ?_
  simpa using mem_edges.mpr ⟨r, hr, rfl⟩

@[simp] theorem others_append (a b : List EdgeRecord) :
    f.others (a ++ b) = f.others a ++ f.others b :=
  List.filter_append a b

@[simp] theorem others_others (a : List EdgeRecord) : f.others (f.others a) = f.others a := by
  simp [others, List.filter_filter]

theorem foldl_putEdge_records (old : List EdgeRecord) :
    f.records.foldl Store.putEdge old = f.others old ++ f.records := by
  have hkeys : ∀ a : EdgeRecord,
      (f.records.all fun r => a.key ≠ r.key) = !f.edges.contains a.key := by
    intro a
    rw [Bool.eq_iff_iff, Bool.not_eq_true', ← Bool.not_eq_true, ExtTreeMap.contains_iff_mem,
      mem_edges]
    simp only [List.all_eq_true, decide_eq_true_eq, not_exists, not_and]
    exact forall₂_congr fun r _ => ne_comm
  rw [Store.foldl_putEdge_eq f.distinct_records]
  simp only [hkeys, others]

@[simp] theorem edges_saved (s : Store) : (f.saved s).edges = f.others s.edges ++ f.records := by
  rw [saved, Store.foldl_savePool]
  exact f.foldl_putEdge_records s.edges

@[simp] theorem pools_saved (s : Store) (id : PoolId) :
    (f.saved s).pools[id]? = (f.lastPool? id).or s.pools[id]? :=
  Store.pools_foldl_savePool f.pools.values s id

/-- Nothing but pools and edges is saved. -/
theorem frame_saved (s : Store) :
    f.saved s = { s with pools := (f.saved s).pools, edges := (f.saved s).edges } := by
  rw [saved, Store.foldl_savePool]
  rfl

end Saved

/-- Two stores differ at most in records that a save of the findings replaces. -/
structure SameBeyond (f : Findings) (s t : Store) : Prop where
  pools (id : PoolId) : (∀ p ∈ f.pools.values, p.id ≠ id) → s.pools[id]? = t.pools[id]?
  edges : f.others s.edges = f.others t.edges
  ticks : s.ticks = t.ticks
  checkpoints : s.checkpoints = t.checkpoints
  observations : s.observations = t.observations

namespace SameBeyond

theorem refl (f : Findings) (s : Store) : f.SameBeyond s s := ⟨fun _ _ => rfl, rfl, rfl, rfl, rfl⟩

theorem trans {u : Store} (h : f.SameBeyond s t) (h' : f.SameBeyond t u) : f.SameBeyond s u :=
  ⟨fun id hid => (h.pools id hid).trans (h'.pools id hid), h.edges.trans h'.edges,
    h.ticks.trans h'.ticks, h.checkpoints.trans h'.checkpoints,
    h.observations.trans h'.observations⟩

theorem savePool {p : Pool} (hp : p ∈ f.pools.values) (s : Store) :
    f.SameBeyond s (s.savePool p) where
  pools id hid := by
    have hne : p.id ≠ id := hid p hp
    simp [Store.savePool, ExtTreeMap.getElem?_insert, hne]
  edges := rfl
  ticks := rfl
  checkpoints := rfl
  observations := rfl

theorem saveEdges (f : Findings) (s : Store) : f.SameBeyond s (s.saveEdges f.records) where
  pools _ _ := rfl
  edges := by
    rw [Store.saveEdges, foldl_putEdge_records, others_append, others_records, others_others,
      List.append_nil]
  ticks := rfl
  checkpoints := rfl
  observations := rfl

theorem putEdge {a b : List EdgeRecord} (h : f.others a = f.others b) (r : EdgeRecord) :
    f.others (Store.putEdge a r) = f.others (Store.putEdge b r) := by
  have hcommute : ∀ c : List EdgeRecord,
      f.others (Store.putEdge c r) = (f.others c).filter (·.key ≠ r.key) ++ f.others [r] := by
    intro c
    simp only [others, Store.putEdge, List.filter_append, List.filter_filter, Bool.and_comm]
  rw [hcommute, hcommute, h]

theorem apply (h : f.SameBeyond s t) (w : Store.Write) : f.SameBeyond (w.apply s) (w.apply t) := by
  obtain ⟨hpools, hedges, hticks, hcheckpoints, hobservations⟩ := h
  cases w with
  | savePool p =>
    refine ⟨fun id hid => ?_, hedges, hticks, hcheckpoints, hobservations⟩
    simp only [Store.Write.apply, Store.savePool, ExtTreeMap.getElem?_insert, hpools id hid]
  | saveEdges records =>
    refine ⟨hpools, ?_, hticks, hcheckpoints, hobservations⟩
    change f.others (records.foldl Store.putEdge s.edges) =
      f.others (records.foldl Store.putEdge t.edges)
    generalize s.edges = a at hedges
    generalize t.edges = b at hedges
    induction records generalizing a b with
    | nil => exact hedges
    | cons r records ih => exact ih _ _ (putEdge hedges r)
  | saveTicks pool ticks =>
    exact ⟨hpools, hedges, congrArg (·.insert pool ticks) hticks, hcheckpoints, hobservations⟩
  | setCheckpoint chain block =>
    exact ⟨hpools, hedges, hticks, congrArg (·.insert chain block) hcheckpoints, hobservations⟩
  | record o =>
    exact ⟨hpools, hedges, hticks, hcheckpoints, congrArg (· ++ [o]) hobservations⟩

theorem write (h : f.SameBeyond s t) (writes : List Store.Write) :
    f.SameBeyond (s.write writes) (t.write writes) := by
  induction writes generalizing s t with
  | nil => exact h
  | cons w writes ih => exact ih (h.apply w)

theorem saved_eq (h : f.SameBeyond s t) : f.saved s = f.saved t := by
  have hpools : (f.saved s).pools = (f.saved t).pools := by
    refine ExtTreeMap.ext_getElem? fun id => ?_
    rw [pools_saved, pools_saved]
    cases hlast : f.lastPool? id with
    | some p => rfl
    | none => exact h.pools id (lastPool?_eq_none.mp hlast)
  have hedges : (f.saved s).edges = (f.saved t).edges := by
    rw [edges_saved, edges_saved, h.edges]
  calc
    f.saved s = { s with pools := (f.saved s).pools, edges := (f.saved s).edges } :=
      f.frame_saved s
    _ = { t with pools := (f.saved t).pools, edges := (f.saved t).edges } := by
      rw [hpools, hedges, h.ticks, h.checkpoints, h.observations]
    _ = f.saved t := (f.frame_saved t).symm

end SameBeyond

theorem sameBeyond_saved (f : Findings) (s : Store) : f.SameBeyond s (f.saved s) := by
  have hpools : ∀ ps : List Pool, (∀ p ∈ ps, p ∈ f.pools.values) →
      f.SameBeyond s (ps.foldl Store.savePool s) := fun ps hps =>
    List.foldlRecOn ps Store.savePool (.refl f s) fun _ h p hp => h.trans (.savePool (hps p hp) _)
  exact (hpools _ fun _ hp => hp).trans (.saveEdges f _)

@[simp] theorem saved_saved (f : Findings) (s : Store) : f.saved (f.saved s) = f.saved s :=
  (f.sameBeyond_saved s).saved_eq.symm

theorem mem_chains {chain : ChainId} :
    chain ∈ f.chains ↔ ∃ p ∈ f.pools.values, p.chain = chain := by
  simp [chains, Std.ExtTreeSet.mem_ofList]

@[simp] theorem unknown_saved (f : Findings) (s : Store) : f.unknown (f.saved s) = 0 := by
  rw [unknown, List.length_eq_zero_iff, List.filter_eq_nil_iff]
  intro p hp
  obtain ⟨q, hq⟩ := exists_lastPool? hp
  obtain ⟨hmem, hid⟩ := of_lastPool? hq
  have hstored : (f.saved s).pools[p.id]? = some q := by
    rw [pools_saved, hq, Option.some_or]
  have hloaded : q ∈ (f.chains.map (f.saved s).poolsOn).flatten :=
    List.mem_flatten.mpr ⟨_, List.mem_map.mpr ⟨q.chain, mem_chains.mpr ⟨q, hmem, rfl⟩, rfl⟩,
      Store.mem_poolsOn.mpr ⟨⟨p.id, hstored⟩, rfl⟩⟩
  have hknown : p.id ∈ (f.chains.map (f.saved s).poolsOn).flatten.map (·.id) :=
    List.mem_map.mpr ⟨q, hloaded, hid⟩
  simpa using hknown

section Calls

variable {σ ε : Type} {view : σ → Store} {calls : PoolStore (ExceptT ε (StateM σ))}

theorem computes_persistTo (hcalls : calls.Serves view) (f : Findings) :
    Computes view (f.persistTo calls) fun s => (f.unknown s, f.saved s) := by
  have hknown := Computes.mapM (fun chain => .of_performs (hcalls.loadPools chain)) f.chains
  have hpools := Computes.forM (fun p => .of_performs (hcalls.savePool p)) f.pools.values
  have hedges : Computes view (calls.saveEdges f.records) _ := .of_performs (hcalls.saveEdges _)
  exact hknown.bind fun known => hpools.bind fun _ => hedges.bind fun _ => .pure _

/-- Even a save that fails writes nothing but what is saved again by the next one. -/
theorem keeps_persistTo (hcalls : calls.Serves view) (f : Findings) :
    Keeps view f.SameBeyond (f.persistTo calls) := by
  have hrefl : ∀ s, f.SameBeyond s s := .refl f
  have htrans : ∀ s t u, f.SameBeyond s t → f.SameBeyond t u → f.SameBeyond s u :=
    fun _ _ _ => .trans
  have hknown : Keeps view f.SameBeyond (f.chains.mapM calls.loadPools) :=
    .mapM hrefl htrans fun chain _ => .of_performs hrefl (hcalls.loadPools chain) hrefl
  have hpools : Keeps view f.SameBeyond (f.pools.values.forM calls.savePool) :=
    .forM hrefl htrans fun p hp => .of_performs hrefl (hcalls.savePool p) (.savePool hp)
  have hedges : Keeps view f.SameBeyond (calls.saveEdges f.records) :=
    .of_performs hrefl (hcalls.saveEdges f.records) (.saveEdges f)
  exact hknown.bind htrans fun _ => hpools.bind htrans fun _ => hedges.bind htrans fun _ =>
    .pure hrefl _

end Calls

theorem serves_connection : Access.poolStore.Serves Connection.store where
  loadPools chain := Connection.performs_call .loadPools fun s => (s.poolsOn chain, s)
  savePool p := Connection.performs_call .savePool fun s => ((), s.savePool p)
  saveEdges records := Connection.performs_call .saveEdges fun s => ((), s.saveEdges records)

/-- A save succeeds if no call is refused. -/
theorem persist_ofStore (f : Findings) (s : Store) :
    f.persist.run.run (.ofStore s) = (.ok (f.unknown s), .ofStore (f.saved s)) := by
  have hknown : ∀ chains : List ChainId, (chains.mapM Access.poolStore.loadPools).run.run
      (.ofStore s) = (.ok (chains.map s.poolsOn), .ofStore s) := by
    intro chains
    induction chains with
    | nil => rfl
    | cons chain chains ih =>
      have hfirst : (Access.poolStore.loadPools chain).run.run (.ofStore s) =
          (.ok (s.poolsOn chain), .ofStore s) := rfl
      simp only [List.mapM_cons, run_run_bind, hfirst, ih]
      rfl
  have hpools : ∀ (ps : List Pool) (s : Store), (ps.forM Access.poolStore.savePool).run.run
      (.ofStore s) = (.ok (), .ofStore (ps.foldl Store.savePool s)) := by
    intro ps
    induction ps with
    | nil => exact fun s => rfl
    | cons p ps ih => exact fun s => ih (s.savePool p)
  simp only [persist, persistTo, run_run_bind, hknown, hpools]
  rfl

/-- What a store has become when findings were saved to it: the records of edges that were not
replaced come first, then those of the findings in the order of their keys, and the records of pools
are overwritten by those of the findings. -/
structure Persisted (f : Findings) (s t : Store) : Prop where
  distinct : (t.edges.map (·.key)).Nodup
  edges : t.edges = s.edges.filter (fun r => !f.edges.contains r.key) ++ f.records
  ascending : f.records.Pairwise fun a b => compare a.key b.key = .lt
  records (r : EdgeRecord) : r ∈ f.records ↔ ∃ k e, f.edges[k]? = some e ∧ r = .ofEdge k e
  pools (id : PoolId) : t.pools[id]? = (f.lastPool? id).or s.pools[id]?
  own : (∀ (id : PoolId) p, f.pools[id]? = some p → p.id = id) →
    ∀ id : PoolId, t.pools[id]? = f.pools[id]?.or s.pools[id]?
  ticks : t.ticks = s.ticks
  checkpoints : t.checkpoints = s.checkpoints
  observations : t.observations = s.observations

theorem persisted_saved {s : Store} (h : Store.Distinct s.edges) (f : Findings) :
    f.Persisted s (f.saved s) where
  distinct := by
    have hdistinct := h.foldl_putEdge f.records
    rw [foldl_putEdge_records, ← edges_saved] at hdistinct
    exact List.pairwise_map.mpr hdistinct
  edges := f.edges_saved s
  ascending := f.ascending_records
  records _ := mem_records
  pools := f.pools_saved s
  own hown id := by rw [f.pools_saved s, lastPool?_of_own hown]
  ticks := by rw [f.frame_saved s]
  checkpoints := by rw [f.frame_saved s]
  observations := by rw [f.frame_saved s]

/-- Findings are saved to a store, however it was filled, and a second save changes nothing. Where
calls may fail the same holds of every save that succeeds; and after one that fails, and after any
other writes, a save makes of the store what it would be had the failed one never been tried. -/
theorem persist_retried (f : Findings) (writes : List Store.Write) :
    let s := Store.empty.write writes
    (∃ n t, f.persist.run.run (.ofStore s) = (.ok n, .ofStore t) ∧ f.Persisted s t ∧
      f.persist.run.run (.ofStore t) = (.ok 0, .ofStore t)) ∧
    ∀ {σ ε : Type} (view : σ → Store) (calls : PoolStore (ExceptT ε (StateM σ))),
      calls.Serves view → ∀ c, view c = s →
        (∀ n c', (f.persistTo calls).run.run c = (.ok n, c') → f.Persisted s (view c') ∧
          ∀ n' c'', (f.persistTo calls).run.run c' = (.ok n', c'') →
            n' = 0 ∧ view c'' = view c') ∧
        ∀ e c', (f.persistTo calls).run.run c = (.error e, c') →
          ∀ later d d', view d = s.write later → view d' = (view c').write later →
            ∀ n u n' u', (f.persistTo calls).run.run d = (.ok n, u) →
              (f.persistTo calls).run.run d' = (.ok n', u') → view u' = view u := by
  intro s
  have hpersisted : f.Persisted s (f.saved s) := persisted_saved (Store.distinct_write writes) f
  refine ⟨⟨f.unknown s, f.saved s, f.persist_ofStore s, hpersisted, ?_⟩, ?_⟩
  · rw [persist_ofStore, unknown_saved, saved_saved]
  · intro σ ε view calls hcalls c hc
    have hcomputes := computes_persistTo hcalls f
    have hkeeps := keeps_persistTo hcalls f
    have hsaves : ∀ {c n c'}, (f.persistTo calls).run.run c = (.ok n, c') →
        n = f.unknown (view c) ∧ view c' = f.saved (view c) := fun hrun =>
      Prod.mk.inj (hcomputes _ _ _ hrun)
    refine ⟨?_, ?_⟩
    · intro n c' hrun
      obtain ⟨-, hc'⟩ := hsaves hrun
      rw [hc', hc]
      refine ⟨hpersisted, fun n' c'' hagain => ?_⟩
      obtain ⟨hn', hc''⟩ := hsaves hagain
      rw [hn', hc'', hc', hc, unknown_saved, saved_saved]
      exact ⟨rfl, rfl⟩
    · intro e c' hfail later d d' hd hd' n u n' u' hrun hrun'
      -- what the failed save has written is among what the next one overwrites
      have hleft : f.SameBeyond s (view c') := by
        have hleft := hkeeps c
        rwa [hfail, hc] at hleft
      rw [(hsaves hrun).2, (hsaves hrun').2, hd, hd', (hleft.write later).saved_eq]

end Findings

/-- A store that knows the pool to be saved from another factory, and an edge of another pool. -/
def stocked : List Store.Write :=
  [.savePool ⟨⟨"A"⟩, ⟨"B"⟩, ⟨"P"⟩, "older", ⟨"coqnet"⟩⟩,
    .saveEdges [⟨⟨⟨"B"⟩, ⟨"C"⟩, ⟨"Q"⟩, ⟨"coqnet"⟩⟩, "kept"⟩]]

/-- The edges are refused when the pool is saved already, and then both are saved. -/
theorem persist_retried_refused :
    let f := Findings.ofList [.constantProduct ⟨⟨"A"⟩, ⟨"B"⟩, ⟨"P"⟩, "factory", ⟨"coqnet"⟩⟩ 10 20]
    let c : Connection := ⟨Store.empty.write stocked, fun op => if op = .saveEdges then 1 else 0⟩
    let failed := f.persist.run.run c
    let again := f.persist.run.run failed.2
    failed.1.isOk = false ∧ failed.2.store.edges.length = 1 ∧
      (failed.2.store.pools[(⟨"P"⟩ : PoolId)]?.map (·.factory)) = some "factory" ∧
      again.1.isOk = true ∧ again.2.store.edges.length = 3 ∧
      again.2.store = (f.persist.run.run (.ofStore c.store)).2.store := by
  intro f c failed again
  have hfailed : failed.1.isOk = false := by decide +kernel
  have hagain : again.1.isOk = true := by decide +kernel
  refine ⟨hfailed, by decide +kernel, by decide +kernel, hagain, by decide +kernel, ?_⟩
  obtain ⟨⟨n, t, hfirst, -⟩, hretried⟩ := f.persist_retried stocked
  obtain ⟨-, hafter⟩ := hretried Connection.store Access.poolStore
    Findings.serves_connection c rfl
  rw [show c.store = Store.empty.write stocked from rfl, hfirst]
  cases hfirst' : failed.1 with
  | ok n =>
    rw [hfirst'] at hfailed
    cases hfailed
  | error e =>
    cases hsecond : again.1 with
    | error e =>
      rw [hsecond] at hagain
      cases hagain
    | ok n' =>
      exact hafter e failed.2 (Prod.ext hfirst' rfl) [] (.ofStore c.store) failed.2 rfl rfl
        n _ n' again.2 hfirst (Prod.ext hsecond rfl)

end LiquidityGraph
