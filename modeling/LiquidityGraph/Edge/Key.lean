import LiquidityGraph.Id

/-! Where an edge stands: between two tokens, through a pool, on a chain. -/
namespace LiquidityGraph

structure EdgeKey where
  source : TokenId
  target : TokenId
  pool : PoolId
  chain : ChainId
  deriving DecidableEq, Repr

namespace EdgeKey

/-- By source, then target, then pool, then chain. -/
def order : EdgeKey → EdgeKey → Ordering :=
  compareLex (compareOn source)
    (compareLex (compareOn target) (compareLex (compareOn pool) (compareOn chain)))

instance : Ord EdgeKey := ⟨order⟩

instance : Std.TransOrd EdgeKey :=
  inferInstanceAs (Std.TransCmp (compareLex (compareOn source)
    (compareLex (compareOn target) (compareLex (compareOn pool) (compareOn chain)))))

instance : Std.LawfulEqOrd EdgeKey where
  eq_of_compare {a b} h := by
    change order a b = .eq at h
    simp only [order, compareLex, compareOn, Ordering.then_eq_eq] at h
    obtain ⟨hs, ht, hp, hc⟩ := h
    cases a
    cases b
    simp only [mk.injEq]
    exact ⟨Std.LawfulEqCmp.eq_of_compare hs, Std.LawfulEqCmp.eq_of_compare ht,
      Std.LawfulEqCmp.eq_of_compare hp, Std.LawfulEqCmp.eq_of_compare hc⟩

end EdgeKey

end LiquidityGraph
