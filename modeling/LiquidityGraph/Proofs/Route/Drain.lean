import LiquidityGraph.Proofs.Route.Search
import Mathlib.Data.List.Perm.Subperm

/-!
A search ends with an empty queue. Each token that is put into the queue stands for a pool that is
used up, and no more pools are used up than there are stored edges.
-/
namespace LiquidityGraph.Search

/-- The pools used up are pools of stored edges, each used once. -/
structure State.Spends (g : Graph) (s : State) : Prop where
  once : s.visited.Nodup
  stored : ∀ pool ∈ s.visited, ∃ key edge, g.edge? key = some edge ∧ key.pool = pool

variable {q : Query} {g : Graph} {s : State}

theorem State.Spends.length_le (h : s.Spends g) : s.visited.length ≤ g.edgeList.length := by
  have hsub : s.visited ⊆ g.edgeList.map (·.1.pool) := by
    intro pool hpool
    obtain ⟨key, edge, he, rfl⟩ := h.stored pool hpool
    exact List.mem_map.mpr ⟨(key, edge), Graph.mem_edgeList.mpr he, rfl⟩
  have hle : s.visited.length ≤ (g.edgeList.map (·.1.pool)).length :=
    (List.subperm_of_subset h.once hsub).length_le
  rwa [List.length_map] at hle

theorem State.Spends.take (h : s.Spends g) {token target : TokenId} {amount : Nat} {o : Offer}
    (ho : Available g s.visited token amount target o) :
    (q.take token target s o).Spends g where
  once := List.nodup_cons.mpr ⟨ho.unvisited, h.once⟩
  stored pool hpool := by
    obtain ⟨edge, he, -⟩ := ho.stored
    rcases List.mem_cons.mp hpool with rfl | hpool
    · exact ⟨_, edge, he, rfl⟩
    · exact h.stored pool hpool

/-- An expansion puts as many tokens into the queue as it uses up pools. -/
theorem State.Spends.expand (h : s.Spends g) (token : TokenId) :
    (q.expand g s token).Spends g ∧
      (q.expand g s token).queue.length + s.visited.length =
        s.queue.length + (q.expand g s token).visited.length := by
  refine Query.expand_induct (P := fun s' => s'.Spends g ∧
    s'.queue.length + s.visited.length = s.queue.length + s'.visited.length) ⟨h, rfl⟩ ?_
  rintro amount s' target o - ⟨hs', hcount⟩ ho
  have hqueue : (q.take token target s' o).queue.length = s'.queue.length + 1 := by
    simp [Query.take]
  have hvisited : (q.take token target s' o).visited.length = s'.visited.length + 1 := rfl
  exact ⟨hs'.take ho, by omega⟩

/-- The fuel lasts for the tokens in the queue and for the pools that are left. -/
theorem State.Spends.queue_drain {fuel : Nat} (h : s.Spends g)
    (hfuel : s.queue.length + g.edgeList.length ≤ fuel + s.visited.length) :
    (q.drain g fuel s).queue = [] := by
  induction fuel generalizing s with
  | zero =>
    have hle := h.length_le
    have hzero : s.queue.length = 0 := by omega
    exact List.eq_nil_of_length_eq_zero hzero
  | succ fuel ih =>
    unfold Query.drain
    split
    case h_1 hempty => exact hempty
    case h_2 token queue hqueue =>
      have hrest : ({ s with queue } : State).Spends g := ⟨h.once, h.stored⟩
      obtain ⟨hnext, hcount⟩ := hrest.expand (q := q) token
      refine ih hnext ?_
      have hlength : s.queue.length = queue.length + 1 := by rw [hqueue, List.length_cons]
      dsimp only at hcount
      omega

@[simp] theorem Query.queue_run (q : Query) (g : Graph) : (q.run g).queue = [] := by
  have hstart : q.start.Spends g := ⟨.nil, by simp [Query.start]⟩
  refine hstart.queue_drain ?_
  simp [Query.start]
  omega

end LiquidityGraph.Search
