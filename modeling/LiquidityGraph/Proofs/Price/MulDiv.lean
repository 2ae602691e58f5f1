import LiquidityGraph.Price.MulDiv
import Mathlib.Tactic.SplitIfs

/-! What rounding up means, and what the operations at full precision return. -/
namespace LiquidityGraph.Price

theorem lt_ceilDiv {n d k : Nat} (hd : 0 < d) : k < ceilDiv n d ↔ k * d < n := by
  rw [ceilDiv, Nat.lt_iff_add_one_le, Nat.le_div_iff_mul_le hd, Nat.add_mul, Nat.one_mul]
  omega

theorem ceilDiv_le {n d k : Nat} (hd : 0 < d) : ceilDiv n d ≤ k ↔ n ≤ k * d := by
  rw [← Nat.not_lt, lt_ceilDiv hd, Nat.not_lt]

theorem le_ceilDiv {n d k : Nat} (hd : 0 < d) (h : k * d ≤ n) : k ≤ ceilDiv n d :=
  Nat.le_trans ((Nat.le_div_iff_mul_le hd).mpr h) (Nat.div_le_div_right (by omega))

theorem narrow_eq_ok {n m : Nat} (h : narrow n = .ok m) : m = n ∧ m < Word.size 256 := by
  unfold narrow at h
  split_ifs at h with hn
  cases h
  exact ⟨rfl, hn⟩

theorem mulDiv_eq_ok {a b d n : Nat} (h : mulDiv a b d = .ok n) :
    0 < d ∧ n = a * b / d ∧ n < Word.size 256 := by
  unfold mulDiv at h
  split_ifs at h with hd
  exact ⟨Nat.pos_of_ne_zero hd, narrow_eq_ok h⟩

theorem mulDivUp_eq_ok {a b d n : Nat} (h : mulDivUp a b d = .ok n) :
    0 < d ∧ n = ceilDiv (a * b) d ∧ n < Word.size 256 := by
  unfold mulDivUp at h
  split_ifs at h with hd
  exact ⟨Nat.pos_of_ne_zero hd, narrow_eq_ok h⟩

theorem exists_mulDiv {a b d k : Nat} (hd : 0 < d) (h : a * b ≤ k * d) (hk : k < Word.size 256) :
    ∃ n, mulDiv a b d = .ok n := by
  have hle : a * b / d ≤ k := Nat.div_le_of_le_mul (Nat.mul_comm k d ▸ h)
  rw [mulDiv, if_neg (Nat.ne_of_gt hd), narrow, if_pos (Nat.lt_of_le_of_lt hle hk)]
  exact ⟨_, rfl⟩

theorem exists_mulDivUp {a b d k : Nat} (hd : 0 < d) (h : a * b ≤ k * d)
    (hk : k < Word.size 256) : ∃ n, mulDivUp a b d = .ok n := by
  have hle : ceilDiv (a * b) d ≤ k := (ceilDiv_le hd).mpr h
  rw [mulDivUp, if_neg (Nat.ne_of_gt hd), narrow, if_pos (Nat.lt_of_le_of_lt hle hk)]
  exact ⟨_, rfl⟩

theorem addDelta_eq_ok {liquidity next : Nat} {delta : Int}
    (h : addDelta liquidity delta = .ok next) :
    (next : Int) = liquidity + delta ∧ next < Word.size 128 := by
  unfold addDelta at h
  split at h
  case h_1 n hsum =>
    split_ifs at h with hn
    cases h
    exact ⟨hsum.symm, hn⟩
  case h_2 => cases h

end LiquidityGraph.Price
