import LiquidityGraph.Word
import Mathlib.Tactic.SplitIfs

/-! How many words there are of a number of bits, and two's complement. -/
namespace LiquidityGraph.Word

theorem size_add (m n : Nat) : size (m + n) = size m * size n := Nat.pow_add 2 m n

theorem mul_lt_size {a b : Nat} (m n : Nat) (ha : a < size m) (hb : b < size n) :
    a * b < size (m + n) := by
  rw [size_add]
  exact Nat.mul_lt_mul'' ha hb

/-- A product leaves room for one more. -/
theorem mul_succ_lt_size {a b : Nat} (m n : Nat) (ha : a < size m) (hb : b < size n)
    (hm : m ≠ 0) : a * b + 1 < size (m + n) := by
  have hroom : 1 < size (m + n) := Nat.one_lt_two_pow (by omega)
  rw [size_add] at hroom ⊢
  obtain rfl | hpos := Nat.eq_zero_or_pos b
  · rw [Nat.mul_zero]
    exact hroom
  · have hone : a * b + 1 ≤ a * b + b := Nat.add_le_add_left hpos _
    have hsucc : a * b + b = (a + 1) * b := (Nat.succ_mul a b).symm
    have hle : (a + 1) * b ≤ size m * b := Nat.mul_le_mul_right b ha
    have hlt : size m * b < size m * size n := Nat.mul_lt_mul_of_pos_left hb (Nat.two_pow_pos m)
    omega

theorem size_lt {m n : Nat} (h : m < n) : size m < size n := Nat.pow_lt_pow_right (by decide) h

theorem size_le {m n : Nat} (h : m ≤ n) : size m ≤ size n := Nat.pow_le_pow_right (by decide) h

theorem signed?_eq_some {bits : Nat} {i v : Int} (h : signed? bits i = some v) :
    v = i ∧ -(size (bits - 1) : Int) ≤ v ∧ v < size (bits - 1) := by
  unfold signed? at h
  split_ifs at h with hrange
  cases h
  exact ⟨rfl, hrange⟩

/-- A two's complement word is read back from its bits. -/
theorem toSigned_ofSigned (bits : Nat) {i : Int} (hl : -(size bits : Int) ≤ i)
    (hh : i < size bits) : toSigned (bits + 1) (ofSigned (bits + 1) i) = i := by
  have hdouble : size (bits + 1) = size bits * 2 := size_add bits 1
  unfold toSigned ofSigned
  rw [Nat.add_sub_cancel, hdouble]
  obtain hneg | hpos := Int.lt_or_le i 0
  · have hmod : i % ((size bits * 2 : Nat) : Int) = i + (size bits * 2 : Nat) := by
      rw [← Int.add_emod_right, Int.emod_eq_of_lt (by omega) (by omega)]
    rw [hmod]
    split_ifs <;> omega
  · rw [Int.emod_eq_of_lt hpos (by omega)]
    split_ifs <;> omega

end LiquidityGraph.Word
