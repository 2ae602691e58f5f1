import LiquidityGraph.Price.Step
import LiquidityGraph.Proofs.Price.Amount
import LiquidityGraph.Proofs.Price.Next

/-!
A step of a swap moves the price towards its target and not past it. It takes in at least what the
move costs and pays out at most what the move is worth, and short of the target it uses up the
amount that it was given.
-/
namespace LiquidityGraph.Price

variable {price target liquidity amount next n remaining fee : Nat} {zeroForOne : Bool} {s : Step}

/-- The second price lies ahead of the first one, in the direction of a move. -/
def Along (zeroForOne : Bool) (a b : Nat) : Prop :=
  if zeroForOne then b ≤ a else a ≤ b

theorem along_target (price target : Nat) : Along (target ≤ price) price target := by
  unfold Along
  split_ifs with hdown
  · exact of_decide_eq_true hdown
  · exact le_of_not_ge fun h => hdown (decide_eq_true h)

theorem Along.refl (zeroForOne : Bool) (price : Nat) : Along zeroForOne price price := by
  unfold Along
  split_ifs <;> exact le_rfl

theorem Along.trans {a b c : Nat} (h : Along zeroForOne a b) (h' : Along zeroForOne b c) :
    Along zeroForOne a c := by
  unfold Along at h h' ⊢
  split_ifs at h h' ⊢
  · exact h'.trans h
  · exact h.trans h'

theorem Along.between (h : Along zeroForOne price next) (h' : Along zeroForOne next target) :
    min price target ≤ next ∧ next ≤ max price target := by
  unfold Along at h h'
  split_ifs at h h' <;> omega

theorem Along.of_between (h : Along zeroForOne price target)
    (hbetween : min price target ≤ next ∧ next ≤ max price target) :
    Along zeroForOne price next := by
  unfold Along at h ⊢
  split_ifs at h ⊢ <;> omega

theorem Along.direction (h : Along zeroForOne price target) (hne : target ≠ price) :
    zeroForOne = decide (target ≤ price) := by
  unfold Along at h
  cases zeroForOne with
  | true => exact (decide_eq_true h).symm
  | false => exact (decide_eq_false (not_le.mpr (lt_of_le_of_ne h (Ne.symm hne)))).symm

section Exact

/-- The exact input that a move costs. -/
def exactInput (zeroForOne : Bool) (a b liquidity : Nat) : ℚ :=
  if zeroForOne then exact0 a b liquidity else exact1 a b liquidity

/-- The exact output that a move is worth. -/
def exactOutput (zeroForOne : Bool) (a b liquidity : Nat) : ℚ :=
  if zeroForOne then exact1 a b liquidity else exact0 a b liquidity

variable {a b : Nat}

theorem stepInput_eq_ceil (h : stepInput zeroForOne a b liquidity = .ok n) :
    n = ⌈exactInput zeroForOne a b liquidity⌉₊ := by
  unfold stepInput at h
  unfold exactInput
  split_ifs at h ⊢
  · exact amount0_eq_ceil h
  · exact amount1_eq_ceil h

theorem stepOutput_eq_floor (h : stepOutput zeroForOne a b liquidity = .ok n) :
    n = ⌊exactOutput zeroForOne a b liquidity⌋₊ := by
  unfold stepOutput at h
  unfold exactOutput
  split_ifs at h ⊢
  · exact amount1_eq_floor h
  · exact amount0_eq_floor h

/-- An input has 224 bits; one of token 1 has it up to the highest price. -/
theorem stepInput_lt (h : stepInput zeroForOne a b liquidity = .ok n)
    (hl : liquidity < Word.size 128)
    (hup : zeroForOne = false → max a b ≤ Word.size 160) : n < Word.size 224 := by
  unfold stepInput at h
  split_ifs at h with hdown
  · exact (amount0_le h).trans_lt (numerator_lt hl)
  · have hsize : liquidity * Word.size 64 ≤ liquidity * q96 :=
      Nat.mul_le_mul_left liquidity (Word.size_le (by decide))
    exact (amount1_le h (hup (Bool.eq_false_of_not_eq_true hdown))).trans_lt
      (hsize.trans_lt (numerator_lt hl))

theorem exactOutput_nonneg (zeroForOne : Bool) (a b liquidity : Nat) :
    0 ≤ exactOutput zeroForOne a b liquidity := by
  unfold exactOutput
  split_ifs
  · exact exact1_nonneg a b liquidity
  · exact exact0_nonneg a b liquidity

@[simp] theorem exactInput_zero (zeroForOne : Bool) (a b : Nat) :
    exactInput zeroForOne a b 0 = 0 := by
  simp [exactInput, exact0, exact1]

@[simp] theorem exactOutput_zero (zeroForOne : Bool) (a b : Nat) :
    exactOutput zeroForOne a b 0 = 0 := by
  simp [exactOutput, exact0, exact1]

@[simp] theorem exactInput_self (zeroForOne : Bool) (a liquidity : Nat) :
    exactInput zeroForOne a a liquidity = 0 := by
  simp [exactInput, exact0, exact1]

@[simp] theorem exactOutput_self (zeroForOne : Bool) (a liquidity : Nat) :
    exactOutput zeroForOne a a liquidity = 0 := by
  simp [exactOutput, exact0, exact1]

end Exact

section Input

theorem nextFromInput_eq_ok (h : nextFromInput price liquidity amount zeroForOne = .ok next) :
    0 < price ∧ 0 < liquidity ∧
      if zeroForOne then add0 price liquidity amount = .ok next
      else add1 price liquidity amount = .ok next := by
  unfold nextFromInput at h
  split_ifs at h ⊢ with hzeroForOne hprice hl hprice hl
  · exact ⟨Nat.pos_of_ne_zero hprice, Nat.pos_of_ne_zero hl, h⟩
  · exact ⟨Nat.pos_of_ne_zero hprice, Nat.pos_of_ne_zero hl, h⟩

theorem nextFromInput_along
    (h : nextFromInput price liquidity amount zeroForOne = .ok next) :
    Along zeroForOne price next := by
  obtain ⟨hprice, -, h⟩ := nextFromInput_eq_ok h
  unfold Along
  split_ifs at h ⊢
  · exact add0_le h hprice
  · exact le_add1 h

/-- The move to the next price costs no more than was paid in. -/
theorem nextFromInput_spends (h : nextFromInput price liquidity amount zeroForOne = .ok next)
    (hn : stepInput zeroForOne price next liquidity = .ok n) : n ≤ amount := by
  by_contra hover
  have halong := nextFromInput_along h
  obtain ⟨hprice, -, h⟩ := nextFromInput_eq_ok h
  unfold stepInput at hn
  unfold Along at halong
  split_ifs at h hn halong
  · have hlt := (lt_amount0 hn).mp (not_le.mp hover)
    rw [min_eq_right halong, max_eq_left halong] at hlt
    exact absurd (add0_spends h hprice) (not_le.mpr hlt)
  · have hlt := (lt_amount1 hn).mp (not_le.mp hover)
    rw [min_eq_left halong, max_eq_right halong] at hlt
    exact absurd (add1_spends h) (not_le.mpr hlt)

/-- An input short of the whole way leads to a price short of the target. -/
theorem nextFromInput_short {full : Nat} (halong : Along zeroForOne price target)
    (h : nextFromInput price liquidity amount zeroForOne = .ok next)
    (hfull : stepInput zeroForOne price target liquidity = .ok full) (hlt : amount < full) :
    Along zeroForOne next target := by
  obtain ⟨-, -, h⟩ := nextFromInput_eq_ok h
  unfold stepInput at hfull
  unfold Along at halong ⊢
  split_ifs at h hfull halong ⊢
  · rw [lt_amount0 hfull, min_eq_right halong, max_eq_left halong] at hlt
    exact le_add0 h halong hlt
  · rw [lt_amount1 hfull, min_eq_left halong, max_eq_right halong] at hlt
    exact add1_le h halong hlt.le

theorem nextFromInput_between {full : Nat}
    (hfull : stepInput (target ≤ price) price target liquidity = .ok full) (hlt : amount < full)
    (h : nextFromInput price liquidity amount (target ≤ price) = .ok next) :
    min price target ≤ next ∧ next ≤ max price target :=
  (nextFromInput_along h).between (nextFromInput_short (along_target price target) h hfull hlt)

theorem nextFromInput_mono {more further : Nat}
    (h : nextFromInput price liquidity amount zeroForOne = .ok next)
    (h' : nextFromInput price liquidity more zeroForOne = .ok further) (hle : amount ≤ more) :
    Along zeroForOne next further := by
  obtain ⟨hprice, -, h⟩ := nextFromInput_eq_ok h
  obtain ⟨-, -, h'⟩ := nextFromInput_eq_ok h'
  unfold Along
  split_ifs at h h' ⊢
  · exact add0_anti h h' hprice hle
  · exact add1_mono h h' hle

end Input

section Output

theorem nextFromOutput_eq_ok (h : nextFromOutput price liquidity amount zeroForOne = .ok next) :
    0 < price ∧ 0 < liquidity ∧
      if zeroForOne then remove1 price liquidity amount = .ok next
      else remove0 price liquidity amount = .ok next := by
  unfold nextFromOutput at h
  split_ifs at h ⊢ with hzeroForOne hprice hl hprice hl
  · exact ⟨Nat.pos_of_ne_zero hprice, Nat.pos_of_ne_zero hl, h⟩
  · exact ⟨Nat.pos_of_ne_zero hprice, Nat.pos_of_ne_zero hl, h⟩

theorem nextFromOutput_along
    (h : nextFromOutput price liquidity amount zeroForOne = .ok next) :
    Along zeroForOne price next := by
  obtain ⟨-, -, h⟩ := nextFromOutput_eq_ok h
  unfold Along
  split_ifs at h ⊢
  · exact remove1_le h
  · exact le_remove0 h

theorem nextFromOutput_earns (h : nextFromOutput price liquidity amount zeroForOne = .ok next)
    (hn : stepOutput zeroForOne price next liquidity = .ok n) : amount ≤ n := by
  have halong := nextFromOutput_along h
  obtain ⟨-, -, h⟩ := nextFromOutput_eq_ok h
  unfold stepOutput at hn
  unfold Along at halong
  split_ifs at h hn halong
  · rw [le_amount1 hn, min_eq_right halong, max_eq_left halong]
    exact remove1_earns h
  · rw [le_amount0 hn, min_eq_left halong, max_eq_right halong]
    exact remove0_earns h

/-- An output short of the whole way leads to a price short of the target. -/
theorem nextFromOutput_short {full : Nat} (halong : Along zeroForOne price target)
    (h : nextFromOutput price liquidity amount zeroForOne = .ok next)
    (hfull : stepOutput zeroForOne price target liquidity = .ok full) (hle : amount ≤ full) :
    Along zeroForOne next target := by
  obtain ⟨-, -, h⟩ := nextFromOutput_eq_ok h
  unfold stepOutput at hfull
  unfold Along at halong ⊢
  split_ifs at h hfull halong ⊢
  · rw [le_amount1 hfull, min_eq_right halong, max_eq_left halong] at hle
    exact le_remove1 h halong hle
  · rw [le_amount0 hfull, min_eq_left halong, max_eq_right halong] at hle
    exact remove0_le h halong hle

theorem nextFromOutput_between {full : Nat}
    (hfull : stepOutput (target ≤ price) price target liquidity = .ok full) (hlt : amount < full)
    (h : nextFromOutput price liquidity amount (target ≤ price) = .ok next) :
    min price target ≤ next ∧ next ≤ max price target :=
  (nextFromOutput_along h).between
    (nextFromOutput_short (along_target price target) h hfull hlt.le)

theorem stepOutput_mono {further m : Nat} (halong : Along zeroForOne price next)
    (hfurther : Along zeroForOne next further)
    (h : stepOutput zeroForOne price next liquidity = .ok n)
    (h' : stepOutput zeroForOne price further liquidity = .ok m) : n ≤ m := by
  unfold stepOutput at h h'
  unfold Along at halong hfurther
  split_ifs at h h' halong hfurther
  · have hearned := (le_amount1 h).mp le_rfl
    rw [min_eq_right halong, max_eq_left halong] at hearned
    have hwhole := hfurther.trans halong
    rw [le_amount1 h', min_eq_right hwhole, max_eq_left hwhole]
    exact hearned.trans (Nat.mul_le_mul_left _ (Nat.sub_le_sub_left hfurther price))
  · have hearned := (le_amount0 h).mp le_rfl
    have hpos := (pos_of_amount0 h).2
    have hwhole := halong.trans hfurther
    rw [min_eq_left halong, max_eq_right halong] at hearned
    rw [le_amount0 h', min_eq_left hwhole, max_eq_right hwhole]
    generalize liquidity * q96 = numerator at hearned ⊢
    have hrate : n * price ≤ numerator := by
      refine Nat.le_of_mul_le_mul_right (c := next) ?_ hpos
      exact hearned.trans (Nat.mul_le_mul_left numerator (Nat.sub_le _ _))
    obtain ⟨d, rfl⟩ := Nat.exists_eq_add_of_le halong
    obtain ⟨e, rfl⟩ := Nat.exists_eq_add_of_le hfurther
    rw [Nat.add_sub_cancel_left] at hearned
    rw [Nat.add_assoc, Nat.add_sub_cancel_left]
    linarith [Nat.mul_le_mul_right e hrate]

end Output

/-- What an exact input is worth after the fee. -/
def budget (remaining fee : Nat) : Nat :=
  remaining * (feeUnit - fee) / feeUnit

/-- A step with an exact input reaches its target, or it stops short of it and uses up the input. -/
inductive Spends (price target liquidity remaining fee : Nat) (s : Step) : Prop
  | reaches (next : s.next = target) (afford : s.amountIn ≤ budget remaining fee)
      (fee : mulDivUp s.amountIn fee (feeUnit - fee) = .ok s.fee)
  | stops (next : s.next ≠ target) (afford : s.amountIn ≤ budget remaining fee)
      (partway : nextFromInput price liquidity (budget remaining fee) (target ≤ price) = .ok s.next)
      (short : ∃ full, stepInput (target ≤ price) price target liquidity = .ok full ∧
        budget remaining fee < full)
      (total : s.amountIn + s.fee = remaining)

/-- All that a step with an exact input does. -/
theorem stepExactIn_eq_ok (h : stepExactIn price target liquidity remaining fee = .ok s) :
    stepInput (target ≤ price) price s.next liquidity = .ok s.amountIn ∧
      stepOutput (target ≤ price) price s.next liquidity = .ok s.amountOut ∧
      Spends price target liquidity remaining fee s := by
  obtain ⟨_, hbudget, h⟩ := bind_eq_ok.mp h
  obtain ⟨-, rfl, -⟩ := mulDiv_eq_ok hbudget
  obtain ⟨full, hfull, h⟩ := bind_eq_ok.mp h
  obtain ⟨next, hnext, h⟩ := ite_bind_eq_ok.mp h
  obtain ⟨amountIn, hin, h⟩ := ite_bind_eq_ok.mp h
  obtain ⟨amountOut, hout, h⟩ := bind_eq_ok.mp h
  have hinput : stepInput (target ≤ price) price next liquidity = .ok amountIn := by
    split_ifs at hin with hreach
    · rw [← hreach]
      exact hfull.trans hin
    · exact hin
  split_ifs at hnext with hreach
  · cases hnext
    rw [if_pos rfl] at h hin
    cases hin
    obtain ⟨feeAmount, hfee, h⟩ := bind_eq_ok.mp h
    cases h
    exact ⟨hinput, hout, .reaches rfl hreach hfee⟩
  · have hafford : amountIn ≤ budget remaining fee := nextFromInput_spends hnext hinput
    have hstop : next ≠ target := by
      rintro rfl
      cases hfull.symm.trans hinput
      exact hreach hafford
    rw [if_neg hstop] at h
    split_ifs at h with hpaid
    · cases h
      exact ⟨hinput, hout, .stops hstop hafford hnext ⟨full, hfull, not_le.mp hreach⟩
        (Nat.add_sub_cancel' hpaid)⟩
    · cases h

/-- A step with an exact output reaches its target, or it stops short of it and pays the output. -/
inductive Earns (price target liquidity remaining : Nat) (s : Step) : Prop
  | reaches (next : s.next = target) (paid : s.amountOut ≤ remaining)
  | stops (next : s.next ≠ target)
      (partway : nextFromOutput price liquidity remaining (target ≤ price) = .ok s.next)
      (short : ∃ full, stepOutput (target ≤ price) price target liquidity = .ok full ∧
        remaining < full)
      (total : s.amountOut = remaining)

/-- All that a step with an exact output does. -/
theorem stepExactOut_eq_ok (h : stepExactOut price target liquidity remaining fee = .ok s) :
    stepInput (target ≤ price) price s.next liquidity = .ok s.amountIn ∧
      (∃ n, stepOutput (target ≤ price) price s.next liquidity = .ok n ∧ s.amountOut ≤ n) ∧
      mulDivUp s.amountIn fee (feeUnit - fee) = .ok s.fee ∧
      Earns price target liquidity remaining s := by
  obtain ⟨full, hfull, h⟩ := bind_eq_ok.mp h
  obtain ⟨next, hnext, h⟩ := ite_bind_eq_ok.mp h
  obtain ⟨amountIn, hin, h⟩ := bind_eq_ok.mp h
  obtain ⟨amountOut, hout, h⟩ := ite_bind_eq_ok.mp h
  obtain ⟨feeAmount, hfee, h⟩ := bind_eq_ok.mp h
  cases h
  have houtput : stepOutput (target ≤ price) price next liquidity = .ok amountOut := by
    split_ifs at hout with hreach
    · rw [← hreach]
      exact hfull.trans hout
    · exact hout
  refine ⟨hin, ⟨amountOut, houtput, min_le_left _ _⟩, hfee, ?_⟩
  by_cases hstop : next = target
  · exact .reaches hstop (min_le_right _ _)
  · split_ifs at hnext with hreach
    · cases hnext
      exact absurd rfl hstop
    · exact .stops hstop hnext ⟨full, hfull, not_le.mp hreach⟩
        (min_eq_right (nextFromOutput_earns hnext houtput))

theorem stepExactOut_paid (h : stepExactOut price target liquidity remaining fee = .ok s) :
    s.amountOut ≤ remaining ∧ (s.next ≠ target → s.amountOut = remaining) := by
  obtain ⟨-, -, -, hearns⟩ := stepExactOut_eq_ok h
  cases hearns with
  | reaches hnext hpaid => exact ⟨hpaid, fun hstop => absurd hnext hstop⟩
  | stops _ _ _ htotal => exact ⟨htotal.le, fun _ => htotal⟩

section Between

theorem stepExactIn_between (h : stepExactIn price target liquidity remaining fee = .ok s) :
    min price target ≤ s.next ∧ s.next ≤ max price target := by
  obtain ⟨-, -, hspends⟩ := stepExactIn_eq_ok h
  cases hspends with
  | reaches hnext =>
    rw [hnext]
    exact ⟨min_le_right _ _, le_max_right _ _⟩
  | stops _ _ hnext hshort _ =>
    obtain ⟨full, hfull, hlt⟩ := hshort
    exact nextFromInput_between hfull hlt hnext

theorem stepExactOut_between (h : stepExactOut price target liquidity remaining fee = .ok s) :
    min price target ≤ s.next ∧ s.next ≤ max price target := by
  obtain ⟨-, -, -, hearns⟩ := stepExactOut_eq_ok h
  cases hearns with
  | reaches hnext =>
    rw [hnext]
    exact ⟨min_le_right _ _, le_max_right _ _⟩
  | stops _ hnext hshort _ =>
    obtain ⟨full, hfull, hlt⟩ := hshort
    exact nextFromOutput_between hfull hlt hnext

theorem step_between {remaining : Int} (h : step price target liquidity remaining fee = .ok s) :
    min price target ≤ s.next ∧ s.next ≤ max price target := by
  cases remaining with
  | ofNat amount => exact stepExactIn_between h
  | negSucc n => exact stepExactOut_between h

end Between

section Fee

theorem budget_le (remaining fee : Nat) : budget remaining fee ≤ remaining :=
  Nat.div_le_of_le_mul (Nat.mul_comm feeUnit _ ▸ Nat.mul_le_mul_left remaining (Nat.sub_le _ _))

/-- What the budget leaves over is enough for the fee on what is spent of it. -/
theorem fee_le_rest (hfee : 0 < feeUnit - fee) (h : n ≤ budget remaining fee) :
    ceilDiv (n * fee) (feeUnit - fee) ≤ remaining - n := by
  obtain ⟨r, rfl⟩ := Nat.exists_eq_add_of_le (h.trans (budget_le remaining fee))
  have hspent := (Nat.le_div_iff_mul_le (by decide)).mp h
  have hunit : feeUnit = fee + (feeUnit - fee) := by omega
  generalize feeUnit - fee = complement at *
  rw [hunit] at hspent
  rw [ceilDiv_le hfee, Nat.add_sub_cancel_left]
  linarith

/-- A step with an exact input spends at most the input, whatever the fee. -/
theorem stepExactIn_spent (h : stepExactIn price target liquidity remaining fee = .ok s) :
    s.amountIn + s.fee ≤ remaining ∧ (s.next ≠ target → s.amountIn + s.fee = remaining) := by
  obtain ⟨-, -, hspends⟩ := stepExactIn_eq_ok h
  cases hspends with
  | reaches hnext hafford hfee =>
    obtain ⟨hcomplement, hfee, -⟩ := mulDivUp_eq_ok hfee
    have hrest := fee_le_rest hcomplement hafford
    have hpaid := hafford.trans (budget_le remaining fee)
    exact ⟨by omega, fun hstop => absurd hnext hstop⟩
  | stops _ _ _ _ htotal => exact ⟨htotal.le, fun _ => htotal⟩

theorem stepExactIn_charged (hfee : fee < feeUnit)
    (h : stepExactIn price target liquidity remaining fee = .ok s) :
    ceilDiv (s.amountIn * fee) (feeUnit - fee) ≤ s.fee := by
  obtain ⟨-, -, hspends⟩ := stepExactIn_eq_ok h
  cases hspends with
  | reaches _ _ hcharged => exact (mulDivUp_eq_ok hcharged).2.1.ge
  | stops _ hafford _ _ htotal =>
    have hrest := fee_le_rest (Nat.sub_pos_of_lt hfee) hafford
    omega

theorem mul_fee_le (hfee : 0 < feeUnit - fee) (n : Nat) :
    n * fee ≤ n * feeUnit * (feeUnit - fee) := by
  rw [Nat.mul_assoc]
  refine Nat.mul_le_mul_left n ?_
  calc fee ≤ feeUnit * 1 := by omega
    _ ≤ feeUnit * (feeUnit - fee) := Nat.mul_le_mul_left feeUnit hfee

end Fee

section Monotone

variable {a b : Nat} {s' : Step}

theorem budget_mono (hle : a ≤ b) (fee : Nat) : budget a fee ≤ budget b fee :=
  Nat.div_le_div_right (Nat.mul_le_mul_right _ hle)

/-- Of two steps that differ in what they may spend, either both reach the target in the same way,
or the one with less uses it up and pays out no more than the other. -/
theorem stepExactIn_mono (hle : a ≤ b)
    (h : stepExactIn price target liquidity a fee = .ok s)
    (h' : stepExactIn price target liquidity b fee = .ok s') :
    s = s' ∨ s.amountIn + s.fee = a ∧ s.amountOut ≤ s'.amountOut := by
  obtain ⟨hin, hout, hspends⟩ := stepExactIn_eq_ok h
  obtain ⟨hin', hout', hspends'⟩ := stepExactIn_eq_ok h'
  cases hspends with
  | reaches hnext hafford hfee =>
    left
    cases hspends' with
    | reaches hnext' _ hfee' =>
      obtain ⟨next, amountIn, amountOut, feeAmount⟩ := s
      obtain ⟨next', amountIn', amountOut', feeAmount'⟩ := s'
      dsimp only at *
      subst hnext hnext'
      cases hin.symm.trans hin'
      cases hout.symm.trans hout'
      cases hfee.symm.trans hfee'
      rfl
    -- what pays for the whole way with less also pays for it with more
    | stops _ _ _ hshort' _ =>
      obtain ⟨full, hfull, hlt⟩ := hshort'
      rw [hnext] at hin
      cases hin.symm.trans hfull
      exact absurd (hafford.trans (budget_mono hle fee)) (not_le.mpr hlt)
  | stops _ _ hnext hshort htotal =>
    refine .inr ⟨htotal, stepOutput_mono (nextFromInput_along hnext) ?_ hout hout'⟩
    cases hspends' with
    | reaches hnext' _ _ =>
      obtain ⟨full, hfull, hlt⟩ := hshort
      rw [hnext']
      exact nextFromInput_short (along_target price target) hnext hfull hlt
    | stops _ _ hnext' _ _ => exact nextFromInput_mono hnext hnext' (budget_mono hle fee)

end Monotone

end LiquidityGraph.Price
