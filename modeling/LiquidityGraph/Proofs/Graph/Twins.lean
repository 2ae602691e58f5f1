import LiquidityGraph.Proofs.Graph.Dispatch

/-!
The two directions of a pool. They are stored under two keys and updated one by one; that both
hold the same state of the pool is kept by everything that is done to a graph.
-/
namespace LiquidityGraph

/-- The state of a pool, which its two directions share. -/
inductive PoolState where
  | reserves (reserve0 reserve1 : Nat)
  | range (fee price liquidity : Nat) (tick : Int) (ticks : TickList)
  deriving DecidableEq, Repr

def EdgeKey.reverse (k : EdgeKey) : EdgeKey := ⟨k.target, k.source, k.pool, k.chain⟩

/-- No address is spelled by both names. -/
def TokenId.Apart (a b : TokenId) : Prop :=
  ∀ address, ¬(a.address? = some address ∧ b.address? = some address)

theorem TokenId.sortsBefore_swap {a b : TokenId} (hne : a ≠ b) (hapart : a.Apart b) :
    b.sortsBefore a = !a.sortsBefore b := by
  have htext : a.text ≠ b.text := by
    intro h
    cases a
    cases b
    exact hne (congrArg TokenId.mk h)
  have horder : decide (b.text < a.text) = !decide (a.text < b.text) := by
    by_cases hlt : a.text < b.text
    · simp [hlt, String.lt_asymm hlt]
    · have hgt : b.text < a.text := by
        by_contra hngt
        exact htext (String.le_antisymm (String.not_lt.mp hngt) (String.not_lt.mp hlt))
      simp [hlt, hgt]
  unfold sortsBefore
  cases ha : a.address? with
  | none => cases b.address? <;> exact horder
  | some x =>
    cases hb : b.address? with
    | none => exact horder
    | some y =>
      have hxy : x.toNat ≠ y.toNat := by
        intro h
        obtain rfl : x = y := by
          cases x
          cases y
          simpa using h
        exact hapart x ⟨ha, hb⟩
      by_cases hlt : x.toNat < y.toNat
      · simp [hlt, Nat.le_of_lt hlt]
      · have hgt : y.toNat < x.toNat := by omega
        simp [hlt, hgt]

namespace Edge

/-- A bridge has no state. -/
def state? : Edge → Option PoolState
  | .constantProduct e => some (.reserves e.reserve0 e.reserve1)
  | .concentrated e => some (.range e.fee e.price e.liquidity e.tick e.ticks)
  | .bridge _ => none

def zeroForOne? : Edge → Option Bool
  | .constantProduct e => some e.zeroForOne
  | .concentrated e => some e.zeroForOne
  | .bridge _ => none

/-- Two edges that are the two directions of one pool, between the tokens of a key. -/
structure Twins (k : EdgeKey) (e e' : Edge) : Prop where
  state : e.state? = e'.state?
  opposed : k.source ≠ k.target → k.source.Apart k.target → e.zeroForOne? ≠ e'.zeroForOne?

section Frame

variable {e e' : Edge}

private theorem tokenIn_of_frame (h : e.frame = e'.frame) : e.tokenIn = e'.tokenIn := by
  cases e <;> cases e' <;> simp_all [frame, tokenIn, ConstantProduct.tokenIn, Concentrated.tokenIn]

private theorem tokenOut_of_frame (h : e.frame = e'.frame) : e.tokenOut = e'.tokenOut := by
  cases e <;> cases e' <;>
    simp_all [frame, tokenOut, ConstantProduct.tokenOut, Concentrated.tokenOut]

private theorem zeroForOne?_of_frame (h : e.frame = e'.frame) : e.zeroForOne? = e'.zeroForOne? := by
  cases e <;> cases e' <;> simp_all [frame, zeroForOne?]

theorem isSome_state?_of_frame (h : e.frame = e'.frame) : e.state?.isSome = e'.state?.isSome := by
  cases e <;> cases e' <;> simp_all [frame, state?]

end Frame

/-- What a log makes of an edge's state depends on that state alone. -/
theorem state?_update {e e' e₁ : Edge} {o : Observation} {log : Log} {ctx : LogContext}
    (h : e.state? = e'.state?) (hupdate : e.update log ctx = .ok (e₁, some o)) :
    ∃ e₁' o', e'.update log ctx = .ok (e₁', some o') ∧ e₁.state? = e₁'.state? := by
  cases e with
  | constantProduct e =>
    cases e' with
    | constantProduct e' =>
      simp only [update, ConstantProduct.sync_eq_map] at hupdate ⊢
      split_ifs at hupdate ⊢ with htopic
      · cases hr : log.reserves with
        | error cause => simp [hr, Except.map] at hupdate
        | ok r =>
          simp only [hr, Except.map, Except.ok.injEq, Prod.mk.injEq] at hupdate ⊢
          obtain ⟨rfl, -⟩ := hupdate
          exact ⟨_, _, ⟨rfl, rfl⟩, rfl⟩
      · cases hupdate
    | concentrated e' => cases h
    | bridge e' => cases h
  | concentrated e =>
    cases e' with
    | constantProduct e' => cases h
    | concentrated e' =>
      simp only [state?, Option.some.injEq, PoolState.range.injEq] at h
      simp only [update, Concentrated.reprice_eq_map] at hupdate ⊢
      split_ifs at hupdate ⊢ with htopic
      · cases hp : log.position with
        | error cause => simp [hp, Except.map] at hupdate
        | ok p =>
          simp only [hp, Except.map, Except.ok.injEq, Prod.mk.injEq] at hupdate ⊢
          obtain ⟨rfl, -⟩ := hupdate
          refine ⟨_, _, ⟨rfl, rfl⟩, ?_⟩
          simp [state?, h]
      · cases hupdate
    | bridge e' => cases h
  | bridge e => simp [update] at hupdate

end Edge

namespace Graph

/-- Edges lead from the source to the target of their key, and the two directions of a pool have
its state in common. -/
structure Twinned (g : Graph) : Prop where
  ends (k : EdgeKey) (e : Edge) : g.edge? k = some e → e.tokenIn = k.source ∧ e.tokenOut = k.target
  twins (k : EdgeKey) (e e' : Edge) : g.edge? k = some e → g.edge? k.reverse = some e' →
    e.state?.isSome → e'.state?.isSome → Edge.Twins k e e'

namespace Twinned

theorem of_subset {g g' : Graph} (h : g.Twinned)
    (hsub : ∀ k e, g'.edge? k = some e → g.edge? k = some e) : g'.Twinned where
  ends k e he := h.ends k e (hsub k e he)
  twins k e e' he he' := h.twins k e e' (hsub k e he) (hsub k.reverse e' he')

theorem empty (fee : Nat) : (Graph.empty fee).Twinned := by
  constructor <;> simp [Graph.empty, edge?_eq_bind]

end Twinned

theorem mem_keys_reverse {p : Pool} {pool : PoolId} {chain : ChainId} {k : EdgeKey}
    (h : k ∈ p.keys pool chain) : k.reverse ∈ p.keys pool chain := by
  simp only [Pool.keys, List.mem_cons, List.not_mem_nil, or_false] at h ⊢
  obtain rfl | rfl := h
  · exact .inr rfl
  · exact .inl rfl

theorem affects_reverse {g : Graph} {k : EdgeKey} {d : Delivery} {e e' : Edge}
    (h : g.affects k d) (he : g.edge? k = some e) (he' : g.edge? k.reverse = some e')
    (hstate : e.state? = e'.state?) :
    g.affects k.reverse d ∧ (e.after d).state? = (e'.after d).state? := by
  obtain ⟨rs, hrevised, r, hr, rfl⟩ := affects_eq_true.mp h
  obtain ⟨p, e₀, hp, hkey, he₀, hupdate⟩ := mem_revised hrevised hr
  obtain rfl : e₀ = e := Option.some.inj (he₀.symm.trans he)
  obtain ⟨e₁', o', hupdate', hstate'⟩ := Edge.state?_update hstate hupdate
  have hmem := mem_revised_of_update hrevised hp (mem_keys_reverse hkey) he' hupdate'
  refine ⟨affects_eq_true.mpr ⟨rs, hrevised, _, hmem, rfl⟩, ?_⟩
  · rw [Edge.after, Edge.after, hupdate, hupdate']
    exact hstate'

theorem Twinned.dispatch {g : Graph} (h : g.Twinned) (d : Delivery) :
    (g.dispatch d.1 d.2).1.Twinned := by
  have hframe := frame_revised g d
  rw [dispatch_eq_mapEdges]
  constructor
  · intro k e₁ he₁
    rw [edge?_mapEdges, Option.map_eq_some_iff] at he₁
    obtain ⟨e, he, rfl⟩ := he₁
    rw [Edge.tokenIn_of_frame (hframe k e), Edge.tokenOut_of_frame (hframe k e)]
    exact h.ends k e he
  · intro k e₁ e₁' he₁ he₁' hsome hsome'
    rw [edge?_mapEdges, Option.map_eq_some_iff] at he₁ he₁'
    obtain ⟨e, he, rfl⟩ := he₁
    obtain ⟨e', he', rfl⟩ := he₁'
    rw [Edge.isSome_state?_of_frame (hframe _ _)] at hsome hsome'
    have htwins := h.twins k e e' he he' hsome hsome'
    refine ⟨?_, ?_⟩
    · -- the log affects both directions or neither
      by_cases hk : g.affects k d
      · obtain ⟨hk', hstate⟩ := affects_reverse hk he he' htwins.state
        rwa [if_pos hk, if_pos hk']
      · have hk' : ¬ g.affects k.reverse d := fun hk' =>
          hk (affects_reverse hk' he' he htwins.state.symm).1
        rw [if_neg hk, if_neg hk']
        exact htwins.state
    · rw [Edge.zeroForOne?_of_frame (hframe _ _), Edge.zeroForOne?_of_frame (hframe _ _)]
      exact htwins.opposed

end Graph

end LiquidityGraph
