import LiquidityGraph.Proofs.Price.Amount
import Mathlib.Tactic.FieldSimp

/-!
The amounts between any two prices are the exact ones, rounded once, and fail only where the result
does not fit. Moving the price in two parts costs no less, and is worth no more, than moving it in
one.
-/
namespace LiquidityGraph.Price

variable {a b c l : Nat}

/-- An exact amount in whole units. -/
def rounded (roundUp : Bool) (q : ℚ) : Nat :=
  if roundUp then ⌈q⌉₊ else ⌊q⌋₊

section Exact

/-- However the two divisions of an amount of token 0 round, it is rounded once. -/
theorem amount0_eq (ha : 0 < a) (hb : 0 < b) (hl : l < Word.size 128) (roundUp : Bool) :
    amount0 a b l roundUp = .ok (rounded roundUp (exact0 a b l)) := by
  obtain ⟨n, hn⟩ := exists_amount0 ha hb hl roundUp
  cases roundUp with
  | true => rw [hn, amount0_eq_ceil hn, rounded, if_pos rfl]
  | false => rw [hn, amount0_eq_floor hn, rounded, if_neg Bool.false_ne_true]

theorem amount1_eq (a b l : Nat) (roundUp : Bool) :
    amount1 a b l roundUp = narrow (rounded roundUp (exact1 a b l)) := by
  have hq : q96 ≠ 0 := Nat.cast_ne_zero.mp q96_pos.ne'
  unfold amount1 mulDivUp mulDiv rounded
  dsimp only
  rw [if_neg hq, if_neg hq, ceilDiv_distance, div_distance]
  split_ifs <;> rfl

end Exact

section Symmetry

theorem amount0_comm (a b l : Nat) (roundUp : Bool) :
    amount0 a b l roundUp = amount0 b a l roundUp := by
  unfold amount0
  rw [min_comm, max_comm]

theorem amount1_comm (a b l : Nat) (roundUp : Bool) :
    amount1 a b l roundUp = amount1 b a l roundUp := by
  unfold amount1
  rw [min_comm, max_comm]

private theorem exact0_comm (a b l : Nat) : exact0 a b l = exact0 b a l := by
  rw [exact0, exact0, abs_sub_comm, mul_comm (a : ℚ)]

private theorem exact1_comm (a b l : Nat) : exact1 a b l = exact1 b a l := by
  rw [exact1, exact1, abs_sub_comm]

end Symmetry

section Split

private theorem abs_sub_of_le (h : a ≤ b) : |(b : ℚ) - a| = b - a :=
  abs_of_nonneg (sub_nonneg.mpr (Nat.cast_le.mpr h))

private theorem exact0_add (ha : 0 < a) (hac : a ≤ c) (hcb : c ≤ b) (l : Nat) :
    exact0 a c l + exact0 c b l = exact0 a b l := by
  have ha' : (a : ℚ) ≠ 0 := Nat.cast_ne_zero.mpr ha.ne'
  have hc' : (c : ℚ) ≠ 0 := Nat.cast_ne_zero.mpr (ha.trans_le hac).ne'
  have hb' : (b : ℚ) ≠ 0 := Nat.cast_ne_zero.mpr (ha.trans_le (hac.trans hcb)).ne'
  unfold exact0
  rw [abs_sub_of_le hac, abs_sub_of_le hcb, abs_sub_of_le (hac.trans hcb)]
  field_simp
  ring

private theorem exact1_add (hac : a ≤ c) (hcb : c ≤ b) (l : Nat) :
    exact1 a c l + exact1 c b l = exact1 a b l := by
  unfold exact1
  rw [abs_sub_of_le hac, abs_sub_of_le hcb, abs_sub_of_le (hac.trans hcb)]
  ring

/-- What adds up over rising prices does so over falling ones. -/
theorem add_of_between {exact : Nat → Nat → ℚ} (hcomm : ∀ x y, exact x y = exact y x)
    (hadd : exact (min a b) c + exact c (max a b) = exact (min a b) (max a b)) :
    exact a c + exact c b = exact a b := by
  obtain hab | hba := le_total a b
  · rwa [min_eq_left hab, max_eq_right hab] at hadd
  · rw [min_eq_right hba, max_eq_left hba] at hadd
    rw [add_comm, hcomm a c, hcomm c b, hcomm a b]
    exact hadd

/-- In two parts, what is rounded down comes to no more, and what is rounded up to no less. -/
structure Splits (amount : Nat → Nat → Bool → Except PriceError Nat) (a c b : Nat) : Prop where
  down : ∀ {m n whole : Nat}, amount a c false = .ok m → amount c b false = .ok n →
    amount a b false = .ok whole → m + n ≤ whole
  up : ∀ {m n whole : Nat}, amount a c true = .ok m → amount c b true = .ok n →
    amount a b true = .ok whole → whole ≤ m + n

/-- Exact amounts that add up do so, rounded, to the disadvantage of the one who moves in parts. -/
theorem Splits.of_exact {amount : Nat → Nat → Bool → Except PriceError Nat}
    {exact : Nat → Nat → ℚ}
    (hdown : ∀ {x y n}, amount x y false = .ok n → n = ⌊exact x y⌋₊)
    (hup : ∀ {x y n}, amount x y true = .ok n → n = ⌈exact x y⌉₊)
    (hnonneg : ∀ x y, 0 ≤ exact x y) (hadd : exact a c + exact c b = exact a b) :
    Splits amount a c b where
  down := by
    intro m n whole hm hn hwhole
    obtain rfl := hdown hm
    obtain rfl := hdown hn
    obtain rfl := hdown hwhole
    rw [← hadd]
    refine Nat.le_floor ?_
    push_cast
    exact add_le_add (Nat.floor_le (hnonneg a c)) (Nat.floor_le (hnonneg c b))
  up := by
    intro m n whole hm hn hwhole
    obtain rfl := hup hm
    obtain rfl := hup hn
    obtain rfl := hup hwhole
    rw [← hadd]
    exact Nat.ceil_add_le _ _

end Split

/-- Between positive prices, an amount of token 0 is always the exact one rounded once; so is an
amount of token 1 unless it has more than 256 bits. Neither depends on which price comes first, and
no trader gains by stopping at a price in between. -/
theorem amounts_exact (ha : 0 < a) (hb : 0 < b) (hl : l < Word.size 128) :
    (∀ roundUp : Bool,
      amount0 a b l roundUp = .ok (rounded roundUp (exact0 a b l)) ∧
      amount1 a b l roundUp =
        (if rounded roundUp (exact1 a b l) < Word.size 256 then
          .ok (rounded roundUp (exact1 a b l))
        else .error .overflow) ∧
      amount0 a b l roundUp = amount0 b a l roundUp ∧
      amount1 a b l roundUp = amount1 b a l roundUp) ∧
    ∀ c, min a b ≤ c → c ≤ max a b →
      Splits (amount0 · · l) a c b ∧ Splits (amount1 · · l) a c b := by
  refine ⟨fun roundUp => ?_, fun c hmin hmax => ⟨?_, ?_⟩⟩
  · exact ⟨amount0_eq ha hb hl roundUp, amount1_eq a b l roundUp, amount0_comm a b l roundUp,
      amount1_comm a b l roundUp⟩
  · exact .of_exact amount0_eq_floor amount0_eq_ceil (fun x y => exact0_nonneg x y l)
      (add_of_between (exact0_comm · · l) (exact0_add (lt_min ha hb) hmin hmax l))
  · exact .of_exact amount1_eq_floor amount1_eq_ceil (fun x y => exact1_nonneg x y l)
      (add_of_between (exact1_comm · · l) (exact1_add hmin hmax l))

/-- Prices of full width, between which an amount of token 1 does not fit. -/
theorem amounts_exact_wide :
    let top := Word.size 256 - 1
    let l := Word.size 128 - 1
    (0 < 7 ∧ 0 < top ∧ l < Word.size 128) ∧
      amount0 7 top l true =
        .ok 3851420952450091399238145012431375810508273751432329734787152328412 ∧
      rounded true (exact0 7 top l) =
        3851420952450091399238145012431375810508273751432329734787152328412 ∧
      amount1 7 top l true = .error .overflow ∧
      Word.size 256 ≤ rounded true (exact1 7 top l) ∧
      Splits (amount0 · · l) 7 1000 top := by
  intro top l
  have htop : 0 < top := by decide +kernel
  have hl : l < Word.size 128 := by decide +kernel
  obtain ⟨hexact, hsplits⟩ := amounts_exact (a := 7) (by decide) htop hl
  obtain ⟨hamount0, hamount1, -, -⟩ := hexact true
  have hsome : amount0 7 top l true =
      .ok 3851420952450091399238145012431375810508273751432329734787152328412 := by
    decide +kernel
  have hnone : amount1 7 top l true = .error .overflow := by decide +kernel
  refine ⟨⟨by decide, htop, hl⟩, hsome, Except.ok.inj (hamount0.symm.trans hsome), hnone, ?_,
    (hsplits 1000 (by decide +kernel) (by decide +kernel)).1⟩
  by_contra hfits
  rw [if_pos (not_le.mp hfits)] at hamount1
  cases hnone.symm.trans hamount1

end LiquidityGraph.Price
