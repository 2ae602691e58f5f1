import LiquidityGraph.Edge.ConstantProduct
import LiquidityGraph.Proofs.Word
import Mathlib.Algebra.Order.Ring.Nat
import Mathlib.Tactic.Linarith
import Mathlib.Tactic.Ring

/-!
What a constant-product pool pays, against its reserves and against other amounts. Both directions
quote along one curve: the product of the reserves never shrinks.
-/
namespace LiquidityGraph.ConstantProduct

/-- The quotient that is paid when it does not have to be narrowed. -/
def quotient (amountIn reserveIn reserveOut : Nat) : Nat :=
  amountIn * 997 * reserveOut / (reserveIn * 1000 + amountIn * 997)

variable (a reserveIn reserveOut : Nat)

theorem amountOut_le_quotient :
    amountOut a reserveIn reserveOut ≤ quotient a reserveIn reserveOut := by
  unfold amountOut
  dsimp only
  split_ifs
  · exact le_rfl
  · exact Nat.zero_le _

theorem quotient_mul_le :
    quotient a reserveIn reserveOut * (reserveIn * 1000 + a * 997) ≤ a * 997 * reserveOut :=
  Nat.div_mul_le_self _ _

theorem quotient_le : quotient a reserveIn reserveOut ≤ reserveOut := by
  apply Nat.div_le_of_le_mul
  exact Nat.mul_le_mul_right _ (Nat.le_add_left _ _)

/-- What is paid leaves a product of the reserves that is not smaller. -/
theorem add_mul_quotient_le :
    (reserveIn + a) * quotient a reserveIn reserveOut ≤ a * reserveOut := by
  have hmul := quotient_mul_le a reserveIn reserveOut
  have hfee := Nat.mul_le_mul_left (3 * a) (quotient_le a reserveIn reserveOut)
  linarith

variable {reserveIn reserveOut} in
theorem quotient_lt (hin : 0 < reserveIn) (hout : 0 < reserveOut) :
    quotient a reserveIn reserveOut < reserveOut := by
  apply Nat.div_lt_of_lt_mul
  exact Nat.mul_lt_mul_of_pos_right (by omega) hout

/-- Nothing but the output reserve limits what is paid against an empty input reserve. -/
theorem quotient_zero (ha : 0 < a) : quotient a 0 reserveOut = reserveOut := by
  rw [quotient, Nat.zero_mul, Nat.zero_add]
  exact Nat.mul_div_cancel_left reserveOut (Nat.mul_pos ha (by decide))

variable {a} {b : Nat}

theorem quotient_mono (hab : a ≤ b) :
    quotient a reserveIn reserveOut ≤ quotient b reserveIn reserveOut := by
  rcases Nat.eq_zero_or_pos (reserveIn * 1000 + b * 997) with hz | hpos
  · have ha : a = 0 := by omega
    simp [quotient, ha]
  · rw [quotient.eq_def b, Nat.le_div_iff_mul_le hpos]
    obtain ⟨d, rfl⟩ := Nat.exists_eq_add_of_le hab
    have hmul := quotient_mul_le a reserveIn reserveOut
    have hle := Nat.mul_le_mul_right (d * 997) (quotient_le a reserveIn reserveOut)
    nlinarith

variable {reserveIn reserveOut}

/-- The fee takes up ten bits of the numerator. -/
theorem numerator_fits {m n : Nat} (hbits : m + n ≤ 502) (ha : a < Word.size m)
    (hout : reserveOut < Word.size n) : a * 997 * reserveOut < Word.size 512 := by
  have hrate : 997 < Word.size 10 := by decide
  have hpaid : a * 997 < Word.size (m + 10) := Word.mul_lt_size m 10 ha hrate
  exact (Word.mul_lt_size (m + 10) n hpaid hout).trans_le (Word.size_le (by omega))

theorem amountOut_eq_quotient (hfit : a * 997 * reserveOut < Word.size 512)
    (hout : reserveOut < Word.size 256) :
    amountOut a reserveIn reserveOut = quotient a reserveIn reserveOut := by
  have hnarrow : quotient a reserveIn reserveOut < Word.size 256 := (quotient_le ..).trans_lt hout
  unfold amountOut
  exact if_pos (And.intro hfit hnarrow)

theorem amountOut_mono (hab : a ≤ b) (hfit : b * 997 * reserveOut < Word.size 512)
    (hout : reserveOut < Word.size 256) :
    amountOut a reserveIn reserveOut ≤ amountOut b reserveIn reserveOut := by
  rw [amountOut_eq_quotient hfit hout]
  exact (amountOut_le_quotient ..).trans (quotient_mono _ _ hab)

theorem amountOut_mul_le (a reserveIn reserveOut : Nat) :
    amountOut a reserveIn reserveOut * reserveIn ≤ a * reserveOut := by
  calc amountOut a reserveIn reserveOut * reserveIn
      ≤ quotient a reserveIn reserveOut * reserveIn :=
        Nat.mul_le_mul_right reserveIn (amountOut_le_quotient ..)
    _ = reserveIn * quotient a reserveIn reserveOut := Nat.mul_comm ..
    _ ≤ (reserveIn + a) * quotient a reserveIn reserveOut :=
        Nat.mul_le_mul_right _ (Nat.le_add_right _ _)
    _ ≤ a * reserveOut := add_mul_quotient_le ..

/-- Against positive amounts the price stays below the ratio of the reserves. -/
theorem quotient_mul_lt (ha : 0 < a) (hout : 0 < reserveOut) :
    quotient a reserveIn reserveOut * reserveIn < a * reserveOut := by
  have hcurve := add_mul_quotient_le a reserveIn reserveOut
  rcases Nat.eq_zero_or_pos (quotient a reserveIn reserveOut) with hzero | hpos
  · rw [hzero, Nat.zero_mul]
    exact Nat.mul_pos ha hout
  · have hpaid : 0 < a * quotient a reserveIn reserveOut := Nat.mul_pos ha hpos
    linarith

/-- How quotes go along with reserves, as far as the numerator fits 512 bits. -/
structure OnCurve (quote : Nat → Nat) (reserveIn reserveOut : Nat) : Prop where
  mono : ∀ {a b}, a ≤ b → 997 * b * reserveOut < Word.size 512 → quote a ≤ quote b
  product : ∀ {a}, 997 * a * reserveOut < Word.size 512 → quote a ≤ reserveOut ∧
    reserveIn * reserveOut ≤ (reserveIn + a) * (reserveOut - quote a)
  rest : 0 < reserveIn → 0 < reserveOut →
    ∀ {a}, 997 * a * reserveOut < Word.size 512 → quote a < reserveOut
  below_spot : 0 < reserveOut → ∀ {a}, 0 < a → 997 * a * reserveOut < Word.size 512 →
    quote a * reserveIn < a * reserveOut

theorem onCurve_amountOut (reserveIn : Nat) (hout : reserveOut < Word.size 256) :
    OnCurve (amountOut · reserveIn reserveOut) reserveIn reserveOut where
  mono hab hfit := amountOut_mono hab (Nat.mul_comm 997 _ ▸ hfit) hout
  product := by
    intro a hfit
    have hquote : amountOut a reserveIn reserveOut = quotient a reserveIn reserveOut :=
      amountOut_eq_quotient (Nat.mul_comm 997 a ▸ hfit) hout
    rw [hquote, Nat.mul_sub]
    refine ⟨quotient_le .., Nat.le_sub_of_add_le ?_⟩
    rw [Nat.add_mul reserveIn a reserveOut]
    exact Nat.add_le_add_left (add_mul_quotient_le ..) _
  rest hin hpos a hfit := by
    rw [amountOut_eq_quotient (Nat.mul_comm 997 a ▸ hfit) hout]
    exact quotient_lt a hin hpos
  below_spot hpos a ha hfit := by
    rw [amountOut_eq_quotient (Nat.mul_comm 997 a ▸ hfit) hout]
    exact quotient_mul_lt ha hpos

/-- Both directions of a pool quote along the curve, the reserves exchanged; with reserves of 112
bits they do so for every amount. -/
theorem pair_onCurve (token0 token1 : TokenId) {reserve0 reserve1 : Nat}
    (h0 : reserve0 < Word.size 256) (h1 : reserve1 < Word.size 256) :
    OnCurve (amountOut · reserve0 reserve1) reserve0 reserve1 ∧
      OnCurve (pair token0 token1 reserve0 reserve1).1.quote reserve0 reserve1 ∧
      OnCurve (pair token0 token1 reserve0 reserve1).2.quote reserve1 reserve0 ∧
      ∀ r < Word.size 112, ∀ a < Word.size 256, 997 * a * r < Word.size 512 :=
  ⟨onCurve_amountOut reserve0 h1, onCurve_amountOut reserve0 h1, onCurve_amountOut reserve1 h0,
    fun _ hr a ha => Nat.mul_comm 997 a ▸ numerator_fits (by decide) ha hr⟩

theorem pair_onCurve_skewed :
    1000000 < Word.size 256 ∧ 2000000 < Word.size 256 ∧
      OnCurve (pair ⟨"A"⟩ ⟨"B"⟩ 1000000 2000000).1.quote 1000000 2000000 ∧
      OnCurve (pair ⟨"A"⟩ ⟨"B"⟩ 1000000 2000000).2.quote 2000000 1000000 := by
  have h0 : 1000000 < Word.size 256 := by decide +kernel
  have h1 : 2000000 < Word.size 256 := by decide +kernel
  obtain ⟨-, hforward, hbackward, -⟩ := pair_onCurve ⟨"A"⟩ ⟨"B"⟩ h0 h1
  exact ⟨h0, h1, hforward, hbackward⟩

end LiquidityGraph.ConstantProduct
