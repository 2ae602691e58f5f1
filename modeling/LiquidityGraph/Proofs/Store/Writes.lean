import LiquidityGraph.Proofs.Fold
import LiquidityGraph.Store.Basic

/-!
What a store holds after writes. Records of pools replace each other by id and records of edges by
key, so that however a store was filled no key has two records of edges.
-/
namespace LiquidityGraph

open Std (ExtTreeMap)

namespace Store

section Edges

variable {old records : List EdgeRecord}

def Distinct (records : List EdgeRecord) : Prop := records.Pairwise (·.key ≠ ·.key)

theorem Distinct.putEdge (h : Distinct old) (r : EdgeRecord) : Distinct (putEdge old r) := by
  refine List.pairwise_append.mpr ⟨h.filter _, List.pairwise_singleton _ _, ?_⟩
  intro a ha b hb
  rw [List.mem_singleton.mp hb]
  exact of_decide_eq_true (List.mem_filter.mp ha).2

theorem Distinct.foldl_putEdge (h : Distinct old) (records : List EdgeRecord) :
    Distinct (records.foldl Store.putEdge old) :=
  List.foldlRecOn records Store.putEdge h fun _ h r _ => h.putEdge r

/-- Records with keys of their own take the last places, and drop all that had their keys. -/
theorem foldl_putEdge_eq (h : Distinct records) (old : List EdgeRecord) :
    records.foldl putEdge old =
      old.filter (fun a => records.all fun r => a.key ≠ r.key) ++ records := by
  induction records generalizing old with
  | nil =>
    have hall : old.filter (fun a => [].all fun r : EdgeRecord => a.key ≠ r.key) = old :=
      List.filter_eq_self.mpr fun _ _ => rfl
    rw [hall, List.append_nil, List.foldl_nil]
  | cons r records ih =>
    obtain ⟨hr, hrest⟩ := List.pairwise_cons.mp h
    have hlast : [r].filter (fun a => records.all fun r => a.key ≠ r.key) = [r] :=
      List.filter_cons_of_pos (by simpa using hr)
    have hdropped : (putEdge old r).filter (fun a => records.all fun r => a.key ≠ r.key) =
        old.filter (fun a => (r :: records).all fun r => a.key ≠ r.key) ++ [r] := by
      rw [putEdge, List.filter_append, List.filter_filter, hlast]
      simp only [List.all_cons, Bool.and_comm]
    rw [List.foldl_cons, ih hrest, hdropped, List.append_assoc, List.singleton_append]

end Edges

/-- A record of a pool is found under its own id. The last one saved counts. -/
theorem pools_foldl_savePool (ps : List Pool) (s : Store) (id : PoolId) :
    (ps.foldl savePool s).pools[id]? = (ps.reverse.find? (·.id = id)).or s.pools[id]? := by
  induction ps using List.reverseRecOn with
  | nil => rfl
  | append_singleton ps p ih =>
    rw [List.foldl_append, List.foldl_cons, List.foldl_nil, List.reverse_append,
      List.reverse_singleton, List.singleton_append, savePool, ExtTreeMap.getElem?_insert, ih]
    by_cases hid : p.id = id
    · simp [hid]
    · simp [hid]

theorem foldl_savePool (ps : List Pool) (s : Store) :
    ps.foldl savePool s = { s with pools := (ps.foldl savePool s).pools } := by
  refine List.foldl_hom (fun s' : Store => { s with pools := s'.pools }) ?_
  exact fun _ _ => rfl

theorem mem_poolsOn {s : Store} {chain : ChainId} {p : Pool} :
    p ∈ s.poolsOn chain ↔ (∃ id : PoolId, s.pools[id]? = some p) ∧ p.chain = chain := by
  simp [poolsOn, mem_values]

/-- What is written to a store. -/
inductive Write where
  | savePool (p : Pool)
  | saveEdges (records : List EdgeRecord)
  | saveTicks (pool : PoolId) (ticks : List Tick)
  | setCheckpoint (chain : ChainId) (block : Nat)
  | record (o : Observation)

def Write.apply (s : Store) : Write → Store
  | .savePool p => s.savePool p
  | .saveEdges records => s.saveEdges records
  | .saveTicks pool ticks => s.saveTicks pool ticks
  | .setCheckpoint chain block => s.setCheckpoint chain block
  | .record o => s.record o

def write (s : Store) (writes : List Write) : Store := writes.foldl Write.apply s

theorem Distinct.apply {s : Store} (h : Distinct s.edges) (w : Write) :
    Distinct (w.apply s).edges := by
  cases w with
  | saveEdges records => exact h.foldl_putEdge records
  | _ => exact h

theorem distinct_write (writes : List Write) : Distinct (empty.write writes).edges :=
  List.foldlRecOn (motive := fun s : Store => Distinct s.edges) writes Write.apply .nil
    fun _ h w _ => h.apply w

end Store

end LiquidityGraph
