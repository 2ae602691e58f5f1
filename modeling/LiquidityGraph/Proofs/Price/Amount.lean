import LiquidityGraph.Price.Amount
import LiquidityGraph.Proofs.Except
import LiquidityGraph.Proofs.Price.MulDiv
import LiquidityGraph.Proofs.Word
import Mathlib.Algebra.Order.Floor.Semiring
import Mathlib.Data.Rat.Floor
import Mathlib.Tactic.Linarith
import Mathlib.Tactic.Ring

/-!
The amounts between two prices are the exact ones, rounded once: the two divisions by which an
amount of token 0 is come to round it no further.
-/
namespace LiquidityGraph.Price

variable {a b l n k : Nat}

/-- The exact amount of token 0 between two prices. -/
def exact0 (a b liquidity : Nat) : ℚ :=
  liquidity * q96 * |(b : ℚ) - a| / (a * b)

/-- The exact amount of token 1 between two prices. -/
def exact1 (a b liquidity : Nat) : ℚ :=
  liquidity * |(b : ℚ) - a| / q96

theorem lt_amount0 (h : amount0 a b l true = .ok n) :
    k < n ↔ k * min a b * max a b < l * q96 * (max a b - min a b) := by
  simp only [amount0, if_true] at h
  split_ifs at h with hlow
  obtain ⟨inner, hinner, h⟩ := bind_eq_ok.mp h
  obtain ⟨hhigh, rfl, -⟩ := mulDivUp_eq_ok hinner
  obtain ⟨hlow, rfl, -⟩ := mulDivUp_eq_ok h
  rw [Nat.mul_one, lt_ceilDiv hlow, lt_ceilDiv hhigh]

theorem le_amount0 (h : amount0 a b l false = .ok n) :
    k ≤ n ↔ k * min a b * max a b ≤ l * q96 * (max a b - min a b) := by
  simp only [amount0, Bool.false_eq_true, if_false] at h
  split_ifs at h with hlow
  obtain ⟨inner, hinner, h⟩ := bind_eq_ok.mp h
  obtain ⟨hhigh, rfl, -⟩ := mulDiv_eq_ok hinner
  cases h
  rw [Nat.le_div_iff_mul_le (Nat.pos_of_ne_zero hlow), Nat.le_div_iff_mul_le hhigh]

theorem lt_amount1 (h : amount1 a b l true = .ok n) :
    k < n ↔ k * q96 < l * (max a b - min a b) := by
  simp only [amount1, if_true] at h
  obtain ⟨hq, rfl, -⟩ := mulDivUp_eq_ok h
  exact lt_ceilDiv hq

theorem le_amount1 (h : amount1 a b l false = .ok n) :
    k ≤ n ↔ k * q96 ≤ l * (max a b - min a b) := by
  simp only [amount1, Bool.false_eq_true, if_false] at h
  obtain ⟨hq, rfl, -⟩ := mulDiv_eq_ok h
  exact Nat.le_div_iff_mul_le hq

theorem pos_of_amount0 {roundUp : Bool} (h : amount0 a b l roundUp = .ok n) : 0 < a ∧ 0 < b := by
  unfold amount0 at h
  dsimp only at h
  split_ifs at h with hlow <;> omega

section Exact

private theorem cast_distance (a b : Nat) : ((max a b - min a b : Nat) : ℚ) = |(b : ℚ) - a| := by
  rw [Nat.cast_sub min_le_max, Nat.cast_max, Nat.cast_min, max_sub_min_eq_abs]

theorem mul_lt_iff_lt_exact0 (ha : 0 < a) (hb : 0 < b) :
    k * min a b * max a b < l * q96 * (max a b - min a b) ↔ (k : ℚ) < exact0 a b l := by
  have hpos : (0 : ℚ) < a * b := by positivity
  rw [exact0, lt_div_iff₀ hpos, ← cast_distance, Nat.mul_assoc, min_mul_max]
  exact_mod_cast Iff.rfl

theorem mul_le_iff_le_exact0 (ha : 0 < a) (hb : 0 < b) :
    k * min a b * max a b ≤ l * q96 * (max a b - min a b) ↔ (k : ℚ) ≤ exact0 a b l := by
  have hpos : (0 : ℚ) < a * b := by positivity
  rw [exact0, le_div_iff₀ hpos, ← cast_distance, Nat.mul_assoc, min_mul_max]
  exact_mod_cast Iff.rfl

theorem q96_pos : (0 : ℚ) < q96 := by
  exact_mod_cast Nat.two_pow_pos 96

theorem mul_lt_iff_lt_exact1 :
    k * q96 < l * (max a b - min a b) ↔ (k : ℚ) < exact1 a b l := by
  rw [exact1, lt_div_iff₀ q96_pos, ← cast_distance]
  exact_mod_cast Iff.rfl

theorem mul_le_iff_le_exact1 :
    k * q96 ≤ l * (max a b - min a b) ↔ (k : ℚ) ≤ exact1 a b l := by
  rw [exact1, le_div_iff₀ q96_pos, ← cast_distance]
  exact_mod_cast Iff.rfl

theorem exact0_nonneg (a b l : Nat) : 0 ≤ exact0 a b l := by
  unfold exact0
  positivity

theorem exact1_nonneg (a b l : Nat) : 0 ≤ exact1 a b l := by
  unfold exact1
  positivity

theorem amount0_eq_ceil (h : amount0 a b l true = .ok n) : n = ⌈exact0 a b l⌉₊ := by
  obtain ⟨ha, hb⟩ := pos_of_amount0 h
  refine eq_of_forall_lt_iff fun k => ?_
  rw [lt_amount0 h, mul_lt_iff_lt_exact0 ha hb, Nat.lt_ceil]

theorem amount0_eq_floor (h : amount0 a b l false = .ok n) : n = ⌊exact0 a b l⌋₊ := by
  obtain ⟨ha, hb⟩ := pos_of_amount0 h
  refine eq_of_forall_le_iff fun k => ?_
  rw [le_amount0 h, mul_le_iff_le_exact0 ha hb, Nat.le_floor_iff (exact0_nonneg a b l)]

/-- The one division by which an amount of token 1 is come to rounds the exact amount. -/
theorem ceilDiv_distance (a b l : Nat) :
    ceilDiv (l * (max a b - min a b)) q96 = ⌈exact1 a b l⌉₊ := by
  refine eq_of_forall_lt_iff fun k => ?_
  rw [lt_ceilDiv (Nat.cast_pos.mp q96_pos), mul_lt_iff_lt_exact1, Nat.lt_ceil]

theorem div_distance (a b l : Nat) : l * (max a b - min a b) / q96 = ⌊exact1 a b l⌋₊ := by
  refine eq_of_forall_le_iff fun k => ?_
  rw [Nat.le_div_iff_mul_le (Nat.cast_pos.mp q96_pos), mul_le_iff_le_exact1,
    Nat.le_floor_iff (exact1_nonneg a b l)]

theorem amount1_eq_ceil (h : amount1 a b l true = .ok n) : n = ⌈exact1 a b l⌉₊ := by
  simp only [amount1, if_true] at h
  obtain ⟨-, rfl, -⟩ := mulDivUp_eq_ok h
  exact ceilDiv_distance a b l

theorem amount1_eq_floor (h : amount1 a b l false = .ok n) : n = ⌊exact1 a b l⌋₊ := by
  simp only [amount1, Bool.false_eq_true, if_false] at h
  obtain ⟨-, rfl, -⟩ := mulDiv_eq_ok h
  exact div_distance a b l

end Exact

section Bounds

theorem numerator_lt (hl : l < Word.size 128) : l * q96 < Word.size 224 := by
  rw [Word.size_add 128 96]
  exact Nat.mul_lt_mul_of_pos_right hl (Nat.two_pow_pos 96)

/-- An amount of token 0 is at most the one between a price of one and infinity. -/
theorem amount0_le (h : amount0 a b l true = .ok n) : n ≤ l * q96 := by
  obtain ⟨ha, hb⟩ := pos_of_amount0 h
  by_contra hover
  have hlt := (lt_amount0 h).mp (not_le.mp hover)
  have hless : max a b - min a b ≤ min a b * max a b := by
    calc max a b - min a b ≤ 1 * max a b := by omega
      _ ≤ min a b * max a b := Nat.mul_le_mul_right _ (lt_min ha hb)
  have hle := Nat.mul_le_mul_left (l * q96) hless
  rw [← Nat.mul_assoc] at hle
  exact absurd hlt (not_lt.mpr hle)

theorem distance_le (h : max a b ≤ Word.size 160) :
    l * (max a b - min a b) ≤ l * Word.size 64 * q96 := by
  have hsize : Word.size 160 = Word.size 64 * q96 := Word.size_add 64 96
  rw [Nat.mul_assoc]
  exact Nat.mul_le_mul_left l (by omega)

theorem amount1_le (h : amount1 a b l true = .ok n) (hmax : max a b ≤ Word.size 160) :
    n ≤ l * Word.size 64 := by
  by_contra hover
  have hlt := (lt_amount1 h).mp (not_le.mp hover)
  exact absurd hlt (not_lt.mpr (distance_le hmax))

theorem exists_amount0 (ha : 0 < a) (hb : 0 < b) (hl : l < Word.size 128) (roundUp : Bool) :
    ∃ n, amount0 a b l roundUp = .ok n := by
  have hlow : 0 < min a b := lt_min ha hb
  have hnumerator : l * q96 < Word.size 256 := (numerator_lt hl).trans (Word.size_lt (by decide))
  have hhigh : 0 < max a b := lt_max_of_lt_left ha
  have hless : l * q96 * (max a b - min a b) ≤ l * q96 * max a b :=
    Nat.mul_le_mul_left _ (Nat.sub_le _ _)
  unfold amount0
  dsimp only
  rw [if_neg hlow.ne']
  split_ifs
  · obtain ⟨inner, hinner⟩ := exists_mulDivUp hhigh hless hnumerator
    have hle : inner * 1 ≤ inner * min a b := Nat.mul_le_mul_left inner hlow
    obtain ⟨n, hn⟩ := exists_mulDivUp hlow hle (mulDivUp_eq_ok hinner).2.2
    exact ⟨n, bind_eq_ok.mpr ⟨inner, hinner, hn⟩⟩
  · obtain ⟨inner, hinner⟩ := exists_mulDiv hhigh hless hnumerator
    exact ⟨inner / min a b, bind_eq_ok.mpr ⟨inner, hinner, rfl⟩⟩

theorem exists_amount1 (h : l * (max a b - min a b) ≤ k * q96) (hk : k < Word.size 256)
    (roundUp : Bool) : ∃ n, amount1 a b l roundUp = .ok n := by
  unfold amount1
  dsimp only
  split_ifs
  · exact exists_mulDivUp (Nat.two_pow_pos 96) h hk
  · exact exists_mulDiv (Nat.two_pow_pos 96) h hk

end Bounds

end LiquidityGraph.Price
