import LiquidityGraph.Proofs.Price.Honest
import LiquidityGraph.Proofs.Price.Inverse
import LiquidityGraph.Proofs.Price.Split

/-!
What a step with an exact output charges pays for it. Spent as an exact input, the charge has the
step's own input as its budget, and moves the price at least as far for at least as much.
-/
namespace LiquidityGraph.Price

variable {price target liquidity amount next further n fee : Nat} {zeroForOne : Bool} {s s' : Step}

section Budget

private theorem ceilDiv_mul_lt {m d : Nat} (hd : 0 < d) : ceilDiv m d * d < m + d := by
  have hle : ceilDiv m d * d ≤ m + d - 1 := Nat.div_mul_le_self _ d
  omega

/-- The fee added to an input is what is taken off the sum again. -/
private theorem budget_add_fee (hfee : fee < feeUnit) (n : Nat) :
    budget (n + ceilDiv (n * fee) (feeUnit - fee)) fee = n := by
  have hcomplement : 0 < feeUnit - fee := Nat.sub_pos_of_lt hfee
  have hunit : feeUnit = fee + (feeUnit - fee) := by omega
  have hleast : n * fee ≤ ceilDiv (n * fee) (feeUnit - fee) * (feeUnit - fee) :=
    (ceilDiv_le hcomplement).mp le_rfl
  have hmost := ceilDiv_mul_lt (m := n * fee) hcomplement
  unfold budget
  generalize ceilDiv (n * fee) (feeUnit - fee) = charge at *
  generalize feeUnit - fee = complement at *
  rw [hunit]
  refine Nat.div_eq_of_lt_le ?_ ?_
  · calc n * (fee + complement) = n * complement + n * fee := by ring
      _ ≤ n * complement + charge * complement := Nat.add_le_add_left hleast _
      _ = (n + charge) * complement := by ring
  · calc (n + charge) * complement = n * complement + charge * complement := by ring
      _ < n * complement + (n * fee + complement) := Nat.add_lt_add_left hmost _
      _ ≤ n * complement + (n * fee + complement) + fee := Nat.le_add_right _ _
      _ = (n + 1) * (fee + complement) := by ring

private theorem add_fee_lt (hfee : fee < feeUnit) (hn : n < Word.size 224) :
    n + ceilDiv (n * fee) (feeUnit - fee) < Word.size 255 := by
  have hcomplement : 0 < feeUnit - fee := Nat.sub_pos_of_lt hfee
  have hcharge : ceilDiv (n * fee) (feeUnit - fee) ≤ n * feeUnit :=
    (ceilDiv_le hcomplement).mpr (mul_fee_le hcomplement n)
  have hunit : feeUnit + 1 < Word.size 31 := by decide
  calc n + ceilDiv (n * fee) (feeUnit - fee) ≤ n + n * feeUnit := Nat.add_le_add_left hcharge n
    _ = n * (feeUnit + 1) := by ring
    _ < Word.size 255 := Word.mul_lt_size 224 31 hn hunit

end Budget

/-- Where the divisor fits, an input reaches every price that it pays for. -/
theorem nextFromInput_reaches (hl : liquidity < Word.size 128)
    (halong : Along zeroForOne price next)
    (hn : stepInput zeroForOne price next liquidity = .ok n) (hpaid : n ≤ amount)
    (hroom : amount * price + liquidity * q96 < Word.size 256)
    (h : nextFromInput price liquidity amount zeroForOne = .ok further) :
    Along zeroForOne next further := by
  obtain ⟨hprice, hpos, h⟩ := nextFromInput_eq_ok h
  unfold stepInput at hn
  unfold Along at halong ⊢
  split_ifs at h hn halong ⊢
  · have hnext : 1 ≤ next := (pos_of_amount0 hn).2
    rw [amount0_comm] at hn
    exact (isLeast_add0 h hprice hpos hl hroom).2 ⟨hnext, halong, n, hn, hpaid⟩
  · have hword : amount < Word.size 256 := by
      have hle : amount ≤ amount * price := Nat.le_mul_of_pos_right amount hprice
      omega
    obtain ⟨-, rfl⟩ := add1_eq_ok h
    exact (isGreatest_paid1 hpos hword).2 ⟨halong, n, hn, hpaid⟩

/-- A step whose budget pays for a move on the way to the target goes at least as far. -/
theorem stepExactIn_reaches {remaining : Nat} (hl : liquidity < Word.size 128)
    (hbetween : min price target ≤ next ∧ next ≤ max price target)
    (hn : stepInput (target ≤ price) price next liquidity = .ok n)
    (hpaid : n ≤ budget remaining fee)
    (hroom : budget remaining fee * price + liquidity * q96 < Word.size 256)
    (h : stepExactIn price target liquidity remaining fee = .ok s) :
    Along (target ≤ price) next s.next := by
  have halong := along_target price target
  obtain ⟨-, -, hspends⟩ := stepExactIn_eq_ok h
  cases hspends with
  | reaches hnext _ _ =>
    rw [hnext]
    unfold Along at halong ⊢
    split_ifs at halong ⊢ <;> omega
  | stops _ _ hpartway _ _ =>
    exact nextFromInput_reaches hl (halong.of_between hbetween) hn hpaid hroom hpartway

/-- Every step with an exact output is a quote that can be taken at its word: what it charges, spent
as an exact input from the same price to the same target, moves the price at least as far and pays
out at least as much, provided that the divisor of the next price fits. -/
theorem step_requoted (hp : Supported price) (ht : Supported target)
    (hl : liquidity < Word.size 128) (hfee : fee < feeUnit) (hamount : 0 < amount) :
    ∃ s, step price target liquidity (-amount) fee = .ok s ∧
      s.amountIn + s.fee < Word.size 255 ∧
      ((s.amountIn + s.fee) * price + liquidity * q96 < Word.size 256 →
        ∃ s', step price target liquidity (s.amountIn + s.fee : Nat) fee = .ok s' ∧
          Along (target ≤ price) price s.next ∧ Along (target ≤ price) s.next s'.next ∧
          s.amountOut ≤ s'.amountOut) := by
  obtain ⟨s, hs⟩ := exists_stepExactOut hp ht hl hfee amount
  obtain ⟨hin, ⟨whole, hwhole, hout⟩, hcharged, -⟩ := stepExactOut_eq_ok hs
  have hbetween := stepExactOut_between hs
  have hnext : Supported s.next := hp.between ht hbetween
  have halong : Along (target ≤ price) price s.next :=
    (along_target price target).of_between hbetween
  obtain ⟨-, hcharge, -⟩ := mulDivUp_eq_ok hcharged
  have hsize : s.amountIn + s.fee < Word.size 255 := by
    rw [hcharge]
    exact add_fee_lt hfee (stepInput_lt hin hl fun _ => max_le hp.le hnext.le)
  have hbudget : budget (s.amountIn + s.fee) fee = s.amountIn := by
    rw [hcharge]
    exact budget_add_fee hfee s.amountIn
  have hneg : step price target liquidity (-amount) fee = .ok s := by
    obtain ⟨m, rfl⟩ := Nat.exists_eq_succ_of_ne_zero hamount.ne'
    exact hs
  refine ⟨s, hneg, hsize, fun hroom => ?_⟩
  obtain ⟨s', hs'⟩ := exists_stepExactIn hp ht hl (hsize.trans (Word.size_lt (by decide))) hfee
  have hspent : budget (s.amountIn + s.fee) fee * price ≤ (s.amountIn + s.fee) * price :=
    Nat.mul_le_mul_right price (budget_le _ fee)
  have hfurther : Along (target ≤ price) s.next s'.next :=
    stepExactIn_reaches hl hbetween hin hbudget.ge (by omega) hs'
  obtain ⟨-, hout', -⟩ := stepExactIn_eq_ok hs'
  exact ⟨s', hs', halong, hfurther, hout.trans (stepOutput_mono halong hfurther hwhole hout')⟩

/-- Two units are charged for 999; they pay for a move that is worth 500000. -/
theorem step_requoted_coarse :
    let price := 1000 * q96
    let s : Step := ⟨79149013579912587520287999929614, 1, 999, 1⟩
    let s' : Step := ⟨39614081257132168796771975168000, 1, 500000, 1⟩
    step price q96 1000 (-(999 : Nat)) 3000 = .ok s ∧
      (s.amountIn + s.fee) * price + 1000 * q96 < Word.size 256 ∧
      step price q96 1000 (s.amountIn + s.fee : Nat) 3000 = .ok s' ∧
      Along (q96 ≤ price) price s.next ∧ Along (q96 ≤ price) s.next s'.next ∧
      s.amountOut ≤ s'.amountOut := by
  intro price s s'
  have hs : step price q96 1000 (-(999 : Nat)) 3000 = .ok s := by decide +kernel
  have hs' : step price q96 1000 (s.amountIn + s.fee : Nat) 3000 = .ok s' := by decide +kernel
  have hroom : (s.amountIn + s.fee) * price + 1000 * q96 < Word.size 256 := by decide +kernel
  have hprice : Supported price := ⟨by decide +kernel, by decide +kernel⟩
  have htarget : Supported q96 := ⟨by decide +kernel, by decide +kernel⟩
  have hl : 1000 < Word.size 128 := by decide +kernel
  have hfee : 3000 < feeUnit := by decide
  have hamount : 0 < 999 := by decide
  obtain ⟨t, ht, -, hmore⟩ := step_requoted hprice htarget hl hfee hamount
  obtain rfl := Except.ok.inj (hs.symm.trans ht)
  obtain ⟨t', ht', hmoves⟩ := hmore hroom
  obtain rfl := Except.ok.inj (hs'.symm.trans ht')
  exact ⟨hs, hroom, hs', hmoves⟩

end LiquidityGraph.Price
