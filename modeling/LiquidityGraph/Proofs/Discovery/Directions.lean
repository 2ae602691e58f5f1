import LiquidityGraph.Discovery.Bridges
import LiquidityGraph.Proofs.Discovery.Findings
import LiquidityGraph.Proofs.Graph.Twins

/-!
The directions of found pools and of bridges. An installation writes both directions of a pool
from one found pool, and a bridge has no state, so that the directions of a pool stay twins.
-/
namespace LiquidityGraph

theorem Concentrated.between_spec (a b : TokenId) (fee price liquidity : Nat) (tick : Int)
    (ticks : TickList) :
    let e := between a b fee price liquidity tick ticks
    e.tokenIn = a ∧ e.tokenOut = b ∧ e.zeroForOne = a.sortsBefore b ∧
      (Edge.concentrated e).state? = some (.range fee price liquidity tick ticks) := by
  unfold between
  by_cases hab : a.sortsBefore b
  · simp [hab, tokenIn, tokenOut, Edge.state?]
  · simp [hab, tokenIn, tokenOut, Edge.state?]

namespace FoundPool

variable {x : FoundPool}

theorem parts_spec {parts : Parts} (h : x.parts? = some parts) :
    (parts.forward.tokenIn = x.pool.token0 ∧ parts.forward.tokenOut = x.pool.token1) ∧
    (parts.backward.tokenIn = x.pool.token1 ∧ parts.backward.tokenOut = x.pool.token0) ∧
    parts.forward.state? = parts.backward.state? ∧
    (x.pool.token0 ≠ x.pool.token1 → x.pool.token0.Apart x.pool.token1 →
      parts.forward.zeroForOne? ≠ parts.backward.zeroForOne?) := by
  cases x with
  | constantProduct p reserve0 reserve1 =>
    cases h
    simp [Edge.tokenIn, Edge.tokenOut, ConstantProduct.tokenIn, ConstantProduct.tokenOut,
      Edge.state?, Edge.zeroForOne?, pool]
  | concentrated p fee price liquidity tick spacing ticks =>
    obtain ⟨l, -, rfl⟩ := Option.map_eq_some_iff.mp h
    obtain ⟨hin, hout, hdirection, hstate⟩ :=
      Concentrated.between_spec p.token0 p.token1 fee price liquidity tick l
    obtain ⟨hin', hout', hdirection', hstate'⟩ :=
      Concentrated.between_spec p.token1 p.token0 fee price liquidity tick l
    refine ⟨⟨hin, hout⟩, ⟨hin', hout'⟩, hstate.trans hstate'.symm, ?_⟩
    intro hne hapart
    have hswap : p.token1.sortsBefore p.token0 = !p.token0.sortsBefore p.token1 :=
      TokenId.sortsBefore_swap hne hapart
    change some (Concentrated.between _ _ _ _ _ _ _).zeroForOne ≠
      some (Concentrated.between _ _ _ _ _ _ _).zeroForOne
    rw [hdirection, hdirection', hswap]
    simp

theorem edge?_eq_some {k : EdgeKey} {e : Edge} (h : x.edge? k = some e) :
    ∃ parts, x.parts? = some parts ∧ (x.backwardKey = k ∧ e = parts.backward ∨
      x.backwardKey ≠ k ∧ x.forwardKey = k ∧ e = parts.forward) := by
  obtain ⟨parts, hparts, he⟩ := Option.bind_eq_some_iff.mp h
  refine ⟨parts, hparts, ?_⟩
  split_ifs at he with hbackward hforward
  · cases he
    exact .inl ⟨hbackward, rfl⟩
  · cases he
    exact .inr ⟨hbackward, hforward, rfl⟩

private theorem edge?_ends {k : EdgeKey} {e : Edge} (h : x.edge? k = some e) :
    e.tokenIn = k.source ∧ e.tokenOut = k.target := by
  obtain ⟨parts, hparts, ⟨rfl, rfl⟩ | ⟨-, rfl, rfl⟩⟩ := edge?_eq_some h
  · exact (parts_spec hparts).2.1
  · exact (parts_spec hparts).1

private theorem edge?_twins {k : EdgeKey} {e e' : Edge} (h : x.edge? k = some e)
    (h' : x.edge? k.reverse = some e') : Edge.Twins k e e' := by
  obtain ⟨parts, hparts, hkey⟩ := edge?_eq_some h
  obtain ⟨_, hparts', hkey'⟩ := edge?_eq_some h'
  obtain rfl := Option.some.inj (hparts.symm.trans hparts')
  obtain ⟨-, -, hstate, hopposed⟩ := parts_spec hparts
  have hkeys : x.backwardKey = x.forwardKey.reverse := rfl
  obtain ⟨hk, rfl⟩ | ⟨hk, hforward, rfl⟩ := hkey
  · obtain ⟨hk', rfl⟩ | ⟨-, hforward', rfl⟩ := hkey'
    · -- both tokens are one, so that there is one key only
      have hsame : k.source = k.target := congrArg EdgeKey.source (hk.symm.trans hk')
      exact ⟨rfl, fun hne => absurd hsame hne⟩
    · subst hk
      refine ⟨hstate.symm, fun hne hapart => (hopposed hne.symm ?_).symm⟩
      exact fun a ha => hapart a ha.symm
  · obtain ⟨hk', rfl⟩ | ⟨-, hforward', rfl⟩ := hkey'
    · subst hforward
      exact ⟨hstate, hopposed⟩
    · exact absurd (hkeys.trans (congrArg EdgeKey.reverse hforward')) hk

theorem isSome_edge? {k : EdgeKey} :
    (x.edge? k).isSome ↔ x.parts?.isSome ∧ (x.backwardKey = k ∨ x.forwardKey = k) := by
  cases hparts : x.parts? with
  | none => simp [edge?, hparts]
  | some parts =>
    simp only [edge?, hparts, Option.bind_some]
    split_ifs with hbackward hforward
    · simp [hbackward]
    · simp [hforward]
    · simp [hbackward, hforward]

theorem edge?_reverse {k : EdgeKey} (h : (x.edge? k).isSome) : (x.edge? k.reverse).isSome := by
  obtain ⟨hparts, rfl | rfl⟩ := isSome_edge?.mp h
  · exact isSome_edge?.mpr ⟨hparts, .inr rfl⟩
  · exact isSome_edge?.mpr ⟨hparts, .inl rfl⟩

end FoundPool

namespace Graph.Twinned

variable {g : Graph}

theorem install (h : g.Twinned) {f : Findings} {found : PoolId → Option FoundPool}
    (hf : f.Records found) : (f.install g).Twinned := by
  have hcases : ∀ k e, (f.install g).edge? k = some e →
      (∃ x, found k.pool = some x ∧ x.edge? k = some e) ∨
        f.edges[k]? = none ∧ g.edge? k = some e := by
    intro k e he
    rw [Findings.edge?_install, Option.or_eq_some_iff] at he
    obtain he | he := he
    · rw [hf.edges, Option.bind_eq_some_iff] at he
      exact .inl he
    · exact .inr he
  have hnone : ∀ k x, found k.pool = some x → (x.edge? k).isSome → f.edges[k.reverse]? ≠ none := by
    intro k x hx hedge hk
    have hreverse := FoundPool.edge?_reverse hedge
    rw [hf.edges, show found k.reverse.pool = some x from hx, Option.bind_some] at hk
    simp [hk] at hreverse
  constructor
  · intro k e he
    obtain ⟨x, -, hedge⟩ | ⟨-, he⟩ := hcases k e he
    · exact FoundPool.edge?_ends hedge
    · exact h.ends k e he
  · intro k e e' he he' hsome hsome'
    obtain ⟨x, hx, hedge⟩ | ⟨hk, he⟩ := hcases k e he
    · obtain ⟨x', hx', hedge'⟩ | ⟨hk', -⟩ := hcases k.reverse e' he'
      · obtain rfl : x = x' := Option.some.inj (hx.symm.trans hx')
        exact FoundPool.edge?_twins hedge hedge'
      · exact absurd hk' (hnone k x hx (by simp [hedge]))
    · obtain ⟨x', hx', hedge'⟩ | ⟨-, he'⟩ := hcases k.reverse e' he'
      · exact absurd hk (hnone k.reverse x' hx' (by simp [hedge']))
      · exact h.twins k e e' he he' hsome hsome'

/-- Bridges have no state, so that they are nothing's twins. -/
theorem setBridge (h : g.Twinned) (k : EdgeKey) :
    (g.setEdge k (.bridge ⟨k.source, k.target⟩)).Twinned := by
  constructor
  · intro k' e he
    rw [edge?_setEdge] at he
    split_ifs at he with hk
    · cases he
      subst hk
      exact ⟨rfl, rfl⟩
    · exact h.ends k' e he
  · intro k' e e' he he' hsome hsome'
    rw [edge?_setEdge] at he he'
    split_ifs at he with hk
    · cases he
      cases hsome
    · split_ifs at he' with hk'
      · cases he'
        cases hsome'
      · exact h.twins k' e e' he he' hsome hsome'

theorem addBridges (h : g.Twinned) (links : List BridgeLink) : (g.addBridges links).Twinned := by
  have hentries : ∀ x ∈ links.flatMap BridgeLink.entries, x.2 = .bridge ⟨x.1.source, x.1.target⟩ := by
    intro x hx
    obtain ⟨link, -, hx⟩ := List.mem_flatMap.mp hx
    simp only [BridgeLink.entries, List.mem_cons, List.not_mem_nil, or_false] at hx
    obtain rfl | rfl := hx <;> rfl
  unfold Graph.addBridges
  generalize links.flatMap BridgeLink.entries = entries at hentries
  induction entries generalizing g with
  | nil => exact h
  | cons x entries ih =>
    obtain ⟨hx, hrest⟩ := List.forall_mem_cons.mp hentries
    obtain ⟨key, edge⟩ := x
    obtain rfl : edge = .bridge ⟨key.source, key.target⟩ := hx
    exact ih (h.setBridge key) hrest

end Graph.Twinned

end LiquidityGraph
