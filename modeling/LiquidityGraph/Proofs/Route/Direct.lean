import LiquidityGraph.Proofs.Route.Frontier
import Mathlib.Order.Bounds.Defs

/-!
Routes against direct edges. The first expansion finds the pools of the edges straight to the
destination unspent, and takes the first of those edges that pay most. Labels only grow after it:
a route pays at least as much, and it is that edge alone if it does not pay more.
-/
namespace LiquidityGraph

namespace Graph

end Graph

namespace Search

open Std (ExtTreeMap)

section Best

end Best

variable {q : Query} {g : Graph} {s : State} {m : Nat}

/-- The destination has no label yet, and no pool of an edge straight to it is spent. -/
structure Query.Untouched (q : Query) (g : Graph) (s : State) : Prop where
  unlabelled : s.labels[q.dest]? = none
  unspent : ∀ {pool chain edge}, g.edge? ⟨q.source, q.dest, pool, chain⟩ = some edge →
    pool ∉ s.visited

theorem Query.getElem?_take {token target t : TokenId} (ht : target ≠ t) (s : State) (o : Offer) :
    (q.take token target s o).labels[t]? = s.labels[t]? := by
  rcases q.labels_take token target s o with ⟨_, -, -, hl⟩ | ⟨-, hl⟩
  · rw [hl]
  · rw [hl, ExtTreeMap.getElem?_insert]
    simp [ht]

theorem Query.Untouched.take (h : q.Untouched g s) (hpools : g.PoolsApart)
    (hne : q.source ≠ q.dest) {target : TokenId} (htarget : target ≠ q.dest) {amount : Nat}
    {o : Offer} (ho : Available g s.visited q.source amount target o) :
    q.Untouched g (q.take q.source target s o) where
  unlabelled := by rw [Query.getElem?_take htarget, h.unlabelled]
  unspent := by
    intro pool chain edge hedge hspent
    rcases List.mem_cons.mp hspent with rfl | hspent
    · obtain ⟨edge', hedge', -⟩ := ho.stored
      rcases hpools hedge hedge' rfl with ⟨-, hdest⟩ | ⟨-, hdest⟩
      · exact htarget hdest.symm
      · exact hne hdest.symm
    · exact h.unspent hedge hspent

theorem Query.Untouched.foldl_relax (hpools : g.PoolsApart) (hne : q.source ≠ q.dest)
    {entries : List (TokenId × PoolEdges)}
    (hstored : ∀ entry ∈ entries, g.poolsBetween q.source entry.1 = some entry.2)
    (hother : ∀ entry ∈ entries, entry.1 ≠ q.dest) (amount : Nat) (h : q.Untouched g s) :
    q.Untouched g (entries.foldl (q.relax q.source amount) s) := by
  refine List.foldlRecOn entries _ h fun s hs entry hmem => ?_
  exact Query.relax_induct hs (hstored entry hmem) fun ho =>
    hs.take hpools hne (hother entry hmem) ho

/-- The destination still has the label, or one that pays more. -/
def Query.Keeps (q : Query) (hop : Hop) (s : State) : Prop :=
  ∃ hop', s.labels[q.dest]? = some hop' ∧ (hop' = hop ∨ hop.amountOut < hop'.amountOut)

theorem Query.Keeps.take {hop : Hop} (h : q.Keeps hop s) (token target : TokenId) (o : Offer) :
    q.Keeps hop (q.take token target s o) := by
  obtain ⟨hop', hlabel, hkept⟩ := h
  rcases q.labels_take token target s o with ⟨_, -, -, hl⟩ | ⟨hmore, hl⟩
  · exact ⟨hop', by rw [hl, hlabel], hkept⟩
  · by_cases ht : target = q.dest
    · subst ht
      have hlt : hop'.amountOut < o.amount := hmore _ (by simp [Query.amountAt, hlabel])
      refine ⟨q.hop token q.dest o, by rw [hl]; simp, Or.inr ?_⟩
      rcases hkept with rfl | hgrown
      · exact hlt
      · exact hgrown.trans hlt
    · exact ⟨hop', by rw [Query.getElem?_take ht, hlabel], hkept⟩

theorem Query.Keeps.drain {hop : Hop} (h : q.Keeps hop s) (fuel : Nat) :
    q.Keeps hop (q.drain g fuel s) := by
  induction fuel generalizing s with
  | zero => exact h
  | succ fuel ih =>
    unfold Query.drain
    split
    · exact h
    · have hrest : q.Keeps hop { s with queue := _ } := h
      exact ih (Query.expand_induct hrest fun _ hs _ => hs.take _ _ _)

end Search

end LiquidityGraph
