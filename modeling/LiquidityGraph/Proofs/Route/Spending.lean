import LiquidityGraph.Proofs.Route.Drain
import LiquidityGraph.Proofs.Route.ReadBack
import LiquidityGraph.Route.Search
import Mathlib.Data.Finset.Card
import Mathlib.Data.List.Nodup

/-!
How a search spends pools. Each token of the queue but the source stands for a pool of its own, so
that a search takes up at most one token more than there are pools; and a pool that is spent gives
its label to one token, so that no two hops of a route use the same pool.
-/
namespace LiquidityGraph

/-- The pools that edges are stored for, on whatever chains and between whatever tokens. -/
def Graph.storedPools (g : Graph) : Finset PoolId :=
  (g.edgeList.map (·.1.pool)).toFinset

theorem Graph.mem_storedPools {g : Graph} {pool : PoolId} :
    pool ∈ g.storedPools ↔ ∃ key edge, g.edge? key = some edge ∧ key.pool = pool := by
  simp only [storedPools, List.mem_toFinset, List.mem_map, Prod.exists, mem_edgeList]

namespace Search

variable {q : Query} {g : Graph} {s : State} {n : Nat}

/-- The states in which the search has taken a number of tokens from its queue. -/
inductive Query.Dequeued (q : Query) (g : Graph) : Nat → State → Prop
  | start : q.Dequeued g 0 q.start
  | expand {n : Nat} {s : State} {token : TokenId} {queue : List TokenId} :
      q.Dequeued g n s → s.queue = token :: queue →
      q.Dequeued g (n + 1) (q.expand g { s with queue } token)

theorem Query.exists_dequeued_drain (fuel : Nat) (h : q.Dequeued g n s) :
    ∃ m, q.Dequeued g m (q.drain g fuel s) := by
  induction fuel generalizing n s with
  | zero => exact ⟨n, h⟩
  | succ fuel ih =>
    unfold Query.drain
    split
    case h_1 => exact ⟨n, h⟩
    case h_2 token queue hqueue => exact ih (h.expand hqueue)

/-- Every token that has been in the queue, but the source, is there for a pool. -/
theorem Query.Dequeued.balance (h : q.Dequeued g n s) :
    s.Spends g ∧ n + s.queue.length = s.visited.length + 1 := by
  induction h with
  | start => exact ⟨⟨.nil, by simp [Query.start]⟩, by simp [Query.start]⟩
  | @expand n s token queue _ hqueue ih =>
    obtain ⟨hspends, hbalance⟩ := ih
    have hrest : ({ s with queue } : State).Spends g := ⟨hspends.once, hspends.stored⟩
    obtain ⟨hnext, hcount⟩ := hrest.expand (q := q) token
    refine ⟨hnext, ?_⟩
    rw [hqueue, List.length_cons] at hbalance
    dsimp only at hcount
    omega

theorem State.Spends.length_le_card (h : s.Spends g) : s.visited.length ≤ g.storedPools.card := by
  have hsub : s.visited.toFinset ⊆ g.storedPools := by
    intro pool hpool
    exact Graph.mem_storedPools.mpr (h.stored pool (List.mem_toFinset.mp hpool))
  have hcard := Finset.card_le_card hsub
  rwa [List.toFinset_card_of_nodup h.once] at hcard

/-- No two tokens are labelled through one pool, and the pools of labels are spent. -/
structure State.Exclusive (s : State) : Prop where
  spent : ∀ {t : TokenId} {h : Hop}, s.labels[t]? = some h → h.pool ∈ s.visited
  apart : ∀ {t t' : TokenId} {h h' : Hop}, s.labels[t]? = some h → s.labels[t']? = some h' →
    h.pool = h'.pool → t = t'

theorem State.Exclusive.take (hs : s.Exclusive) {token target : TokenId} {o : Offer}
    (hfresh : o.pool ∉ s.visited) : (q.take token target s o).Exclusive := by
  obtain ⟨-, -, -, hl⟩ | ⟨-, hl⟩ := q.labels_take token target s o
  · -- the pool is spent on a target that keeps its label
    refine ⟨fun ht => ?_, fun ht ht' hpool => ?_⟩
    · rw [hl] at ht
      exact List.mem_cons_of_mem _ (hs.spent ht)
    · rw [hl] at ht ht'
      exact hs.apart ht ht' hpool
  · have hget (t : TokenId) : (q.take token target s o).labels[t]? =
        if target = t then some (q.hop token target o) else s.labels[t]? := by
      rw [hl, Std.ExtTreeMap.getElem?_insert]
      simp
    have hold {t : TokenId} {h : Hop} (ht : s.labels[t]? = some h) : h.pool ≠ o.pool := by
      intro hpool
      exact hfresh (hpool ▸ hs.spent ht)
    refine ⟨fun {t h} ht => ?_, fun {t t' h h'} ht ht' hpool => ?_⟩
    · rw [hget] at ht
      split_ifs at ht
      · cases ht
        exact List.mem_cons_self
      · exact List.mem_cons_of_mem _ (hs.spent ht)
    · rw [hget] at ht ht'
      split_ifs at ht ht' with htarget htarget' htarget'
      · exact htarget.symm.trans htarget'
      · cases ht
        exact absurd hpool.symm (hold ht')
      · cases ht'
        exact absurd hpool (hold ht)
      · exact hs.apart ht ht' hpool

theorem Query.Reaches.exclusive (h : q.Reaches g s) : s.Exclusive := by
  have hstart : q.start.Exclusive := by constructor <;> simp [Query.start]
  exact (h.induct hstart (fun hs => ⟨hs.spent, hs.apart⟩)
    fun hs _ havailable _ _ => hs.take havailable.unvisited).2

/-- The hops of a trail stand at different tokens, so that they have different pools. -/
theorem Trail.pools_nodup (hs : s.Exclusive) {source dest : TokenId} {path : List Hop}
    (h : Trail s.labels source dest path) : (path.map (·.pool)).Nodup := by
  have htokens : (path.map (·.tokenOut)).Nodup := (List.nodup_cons.mp h.fresh).2
  refine List.Nodup.map_on (fun x hx y hy hpool => ?_) (List.Nodup.of_map _ htokens)
  have hx := h.label x hx
  have hy := h.label y hy
  rw [hs.apart hx hy hpool] at hx
  exact Option.some.inj (hx.symm.trans hy)

/-- A search spends each pool at most once, so that its queue runs empty after at most one token
more than there are stored pools, and so that the hops of its route use different pools. -/
theorem Query.pools_spent_once (q : Query) (g : Graph) :
    (∀ n s, q.Dequeued g n s →
      s.visited.Nodup ∧ (∀ pool ∈ s.visited, pool ∈ g.storedPools) ∧
        n ≤ 1 + g.storedPools.card) ∧
      (∃ n, q.Dequeued g n (q.run g) ∧ (q.run g).queue = []) ∧
      ((q.hops g).map (·.pool)).Nodup := by
  refine ⟨fun n s h => ?_, ?_, ?_⟩
  · obtain ⟨hspends, hbalance⟩ := h.balance
    have hcard := hspends.length_le_card
    refine ⟨hspends.once, fun pool hpool => ?_, by omega⟩
    exact Graph.mem_storedPools.mpr (hspends.stored pool hpool)
  · obtain ⟨n, hn⟩ := Query.exists_dequeued_drain (g.edgeList.length + 1) (.start (q := q) (g := g))
    exact ⟨n, hn, q.queue_run g⟩
  · by_cases hnone : q.hops g = []
    · rw [hnone]
      exact List.nodup_nil
    · exact (Query.hops_trail hnone).1.pools_nodup (q.reaches_run g).exclusive

/-- Two bridges on two chains, in a row and under one name. -/
def namesakeBridges : Graph :=
  ((Graph.empty 0).setEdge ⟨⟨"A"⟩, ⟨"B"⟩, ⟨"pool"⟩, ⟨"coqnet"⟩⟩ (.bridge ⟨⟨"A"⟩, ⟨"B"⟩⟩)).setEdge
    ⟨⟨"B"⟩, ⟨"C"⟩, ⟨"pool"⟩, ⟨"dfk"⟩⟩ (.bridge ⟨⟨"B"⟩, ⟨"C"⟩⟩)

/-- The source and one token for the one pool are taken from the queue, and nothing is left. -/
theorem pools_spent_once_namesakes :
    let q : Query := ⟨⟨"A"⟩, ⟨"C"⟩, 77, fun _ _ => .none⟩
    let first := q.expand namesakeBridges { q.start with queue := [] } ⟨"A"⟩
    let second := q.expand namesakeBridges { first with queue := [] } ⟨"B"⟩
    q.Dequeued namesakeBridges 2 second ∧ second.queue = [] ∧
      namesakeBridges.storedPools.card = 1 ∧ second.visited.Nodup ∧
      2 ≤ 1 + namesakeBridges.storedPools.card := by
  intro q first second
  have hfirst : q.Dequeued namesakeBridges 1 first := .expand .start rfl
  have hqueue : first.queue = [⟨"B"⟩] := by decide +kernel
  have hsecond : q.Dequeued namesakeBridges 2 second := .expand hfirst hqueue
  obtain ⟨hspent, -, -⟩ := q.pools_spent_once namesakeBridges
  obtain ⟨honce, -, hbound⟩ := hspent 2 second hsecond
  exact ⟨hsecond, by decide +kernel, by decide +kernel, honce, hbound⟩

end Search

end LiquidityGraph
