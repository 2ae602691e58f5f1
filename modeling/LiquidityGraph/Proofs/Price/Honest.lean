import LiquidityGraph.Proofs.Price.Step

/-!
Every step succeeds between prices of 160 bits, and no rounding of it is in favour of the trader.
-/
namespace LiquidityGraph.Price

variable {price target liquidity amount next n remaining fee : Nat} {zeroForOne : Bool} {s : Step}

section Total

/-- The square root prices between which every step succeeds. -/
structure Supported (price : Nat) : Prop where
  pos : 1 ≤ price
  le : price ≤ Word.size 160

theorem Supported.lt_size (h : Supported price) : price < Word.size 256 :=
  h.le.trans_lt (Word.size_lt (by decide))

theorem Supported.between (hp : Supported price) (ht : Supported target)
    (h : min price target ≤ next ∧ next ≤ max price target) : Supported next :=
  ⟨(le_min hp.pos ht.pos).trans h.1, h.2.trans (max_le hp.le ht.le)⟩

theorem exists_amount1_of_supported (hp : Supported price) (hn : Supported next)
    (hl : liquidity < Word.size 128) (roundUp : Bool) :
    ∃ n, amount1 price next liquidity roundUp = .ok n := by
  have hsize : liquidity * Word.size 64 < Word.size 256 :=
    (Word.mul_lt_size 128 65 hl (Word.size_lt (by decide))).trans (Word.size_lt (by decide))
  exact exists_amount1 (distance_le (max_le hp.le hn.le)) hsize roundUp

theorem exists_stepInput (hp : Supported price) (hn : Supported next)
    (hl : liquidity < Word.size 128) (zeroForOne : Bool) :
    ∃ n, stepInput zeroForOne price next liquidity = .ok n := by
  unfold stepInput
  split_ifs
  · exact exists_amount0 hp.pos hn.pos hl true
  · exact exists_amount1_of_supported hp hn hl true

theorem exists_stepOutput (hp : Supported price) (hn : Supported next)
    (hl : liquidity < Word.size 128) (zeroForOne : Bool) :
    ∃ n, stepOutput zeroForOne price next liquidity = .ok n := by
  unfold stepOutput
  split_ifs
  · exact exists_amount1_of_supported hp hn hl false
  · exact exists_amount0 hp.pos hn.pos hl false

theorem exists_nextFromInput {full : Nat} (hp : Supported price) (ht : Supported target)
    (hl : liquidity < Word.size 128) (halong : Along zeroForOne price target)
    (hfull : stepInput zeroForOne price target liquidity = .ok full) (hlt : amount < full) :
    ∃ next, nextFromInput price liquidity amount zeroForOne = .ok next := by
  have hliquidity : liquidity ≠ 0 := by
    rintro rfl
    have hnone : full = 0 := by simpa using stepInput_eq_ceil hfull
    omega
  unfold nextFromInput
  rw [if_neg (Nat.ne_of_gt hp.pos), if_neg hliquidity]
  unfold stepInput at hfull
  unfold Along at halong
  split_ifs at hfull halong ⊢
  · exact exists_add0 hp.pos ((numerator_lt hl).trans (Word.size_lt (by decide))) amount
  · rw [lt_amount1 hfull, min_eq_left halong, max_eq_right halong] at hlt
    exact exists_add1 (Nat.pos_of_ne_zero hliquidity) halong ht.lt_size hlt.le

theorem exists_nextFromOutput {full : Nat} (hp : Supported price) (ht : Supported target)
    (halong : Along zeroForOne price target)
    (hfull : stepOutput zeroForOne price target liquidity = .ok full) (hlt : amount < full) :
    ∃ next, nextFromOutput price liquidity amount zeroForOne = .ok next := by
  have hliquidity : liquidity ≠ 0 := by
    rintro rfl
    have hnone : full = 0 := by simpa using stepOutput_eq_floor hfull
    omega
  unfold nextFromOutput
  rw [if_neg (Nat.ne_of_gt hp.pos), if_neg hliquidity]
  unfold stepOutput at hfull
  unfold Along at halong
  split_ifs at hfull halong ⊢
  · have hle := (le_amount1 hfull).mp hlt.le
    rw [min_eq_right halong, max_eq_left halong] at hle
    exact exists_remove1 (Nat.pos_of_ne_zero hliquidity) ht.pos halong hp.lt_size hle
  · have hle := (le_amount0 hfull).mp hlt.le
    rw [min_eq_left halong, max_eq_right halong] at hle
    have hnumerator : 0 < liquidity * q96 :=
      Nat.mul_pos (Nat.pos_of_ne_zero hliquidity) (Nat.two_pow_pos 96)
    exact exists_remove0 hp.pos hnumerator halong ht.lt_size hle

theorem exists_fee (hfee : fee < feeUnit) (hn : n < Word.size 224) :
    ∃ m, mulDivUp n fee (feeUnit - fee) = .ok m := by
  have hcomplement : 0 < feeUnit - fee := Nat.sub_pos_of_lt hfee
  have hsize : n * feeUnit < Word.size 256 := Word.mul_lt_size 224 32 hn (by decide)
  exact exists_mulDivUp hcomplement (mul_fee_le hcomplement n) hsize

theorem exists_stepExactIn (hp : Supported price) (ht : Supported target)
    (hl : liquidity < Word.size 128) (hr : remaining < Word.size 256) (hfee : fee < feeUnit) :
    ∃ s, stepExactIn price target liquidity remaining fee = .ok s := by
  have hbudget : mulDiv remaining (feeUnit - fee) feeUnit = .ok (budget remaining fee) := by
    obtain ⟨n, hn⟩ := exists_mulDiv (by decide)
      (Nat.mul_le_mul_left remaining (Nat.sub_le feeUnit fee)) hr
    rw [hn, (mulDiv_eq_ok hn).2.1, budget]
  obtain ⟨full, hfull⟩ := exists_stepInput hp ht hl (target ≤ price)
  have halong := along_target price target
  by_cases hreach : full ≤ budget remaining fee
  · obtain ⟨amountOut, hout⟩ := exists_stepOutput hp ht hl (target ≤ price)
    obtain ⟨feeAmount, hcharged⟩ :=
      exists_fee hfee (stepInput_lt hfull hl fun _ => max_le hp.le ht.le)
    refine ⟨⟨target, full, amountOut, feeAmount⟩, bind_eq_ok.mpr ⟨_, hbudget, ?_⟩⟩
    refine bind_eq_ok.mpr ⟨full, hfull, ?_⟩
    refine ite_bind_eq_ok.mpr ⟨target, if_pos hreach, ?_⟩
    refine ite_bind_eq_ok.mpr ⟨full, if_pos rfl, ?_⟩
    refine bind_eq_ok.mpr ⟨amountOut, hout, ?_⟩
    rw [if_pos rfl]
    exact bind_eq_ok.mpr ⟨feeAmount, hcharged, rfl⟩
  · have hlt := not_le.mp hreach
    obtain ⟨next, hnext⟩ := exists_nextFromInput hp ht hl halong hfull hlt
    have hn := hp.between ht (nextFromInput_between hfull hlt hnext)
    obtain ⟨amountIn, hin⟩ := exists_stepInput hp hn hl (target ≤ price)
    obtain ⟨amountOut, hout⟩ := exists_stepOutput hp hn hl (target ≤ price)
    have hafford := nextFromInput_spends hnext hin
    have hstop : next ≠ target := by
      rintro rfl
      cases hfull.symm.trans hin
      exact hreach hafford
    refine ⟨⟨next, amountIn, amountOut, remaining - amountIn⟩, bind_eq_ok.mpr ⟨_, hbudget, ?_⟩⟩
    refine bind_eq_ok.mpr ⟨full, hfull, ?_⟩
    refine ite_bind_eq_ok.mpr ⟨next, (if_neg hreach).trans hnext, ?_⟩
    refine ite_bind_eq_ok.mpr ⟨amountIn, (if_neg hstop.symm).trans hin, ?_⟩
    refine bind_eq_ok.mpr ⟨amountOut, hout, ?_⟩
    rw [if_neg hstop, if_pos (hafford.trans (budget_le remaining fee))]
    rfl

theorem exists_stepExactOut (hp : Supported price) (ht : Supported target)
    (hl : liquidity < Word.size 128) (hfee : fee < feeUnit) (remaining : Nat) :
    ∃ s, stepExactOut price target liquidity remaining fee = .ok s := by
  obtain ⟨full, hfull⟩ := exists_stepOutput hp ht hl (target ≤ price)
  have halong := along_target price target
  obtain ⟨next, hnext, hn⟩ : ∃ next, (if full ≤ remaining then pure target
      else nextFromOutput price liquidity remaining (target ≤ price)) = .ok next ∧
      Supported next := by
    split_ifs with hreach
    · exact ⟨target, rfl, ht⟩
    · have hlt := not_le.mp hreach
      obtain ⟨next, hnext⟩ := exists_nextFromOutput hp ht halong hfull hlt
      exact ⟨next, hnext, hp.between ht (nextFromOutput_between hfull hlt hnext)⟩
  obtain ⟨amountIn, hin⟩ := exists_stepInput hp hn hl (target ≤ price)
  obtain ⟨amountOut, hout⟩ := exists_stepOutput hp hn hl (target ≤ price)
  obtain ⟨feeAmount, hcharged⟩ :=
    exists_fee hfee (stepInput_lt hin hl fun _ => max_le hp.le hn.le)
  have hpaid : (if target = next then pure full
      else stepOutput (target ≤ price) price next liquidity) = .ok amountOut := by
    split_ifs with hreach
    · rw [← hreach] at hout
      exact hfull.symm.trans hout
    · exact hout
  refine ⟨⟨next, amountIn, min amountOut remaining, feeAmount⟩, bind_eq_ok.mpr ⟨full, hfull, ?_⟩⟩
  refine ite_bind_eq_ok.mpr ⟨next, hnext, ?_⟩
  refine bind_eq_ok.mpr ⟨amountIn, hin, ?_⟩
  refine ite_bind_eq_ok.mpr ⟨amountOut, hpaid, ?_⟩
  exact bind_eq_ok.mpr ⟨feeAmount, hcharged, rfl⟩

end Total

/-- What a step promises: no more is taken or paid than was asked for, and the pool is not paid less
than the exact amounts and the fee. -/
structure Step.Honest (s : Step) (price target liquidity : Nat) (remaining : Int) (fee : Nat) :
    Prop where
  between : min price target ≤ s.next ∧ s.next ≤ max price target
  spent : 0 ≤ remaining → s.amountIn + s.fee ≤ remaining.natAbs ∧
    (s.next ≠ target → s.amountIn + s.fee = remaining.natAbs)
  earned : remaining < 0 → s.amountOut ≤ remaining.natAbs ∧
    (s.next ≠ target → s.amountOut = remaining.natAbs)
  charged : ⌈(s.amountIn * fee / (feeUnit - fee) : ℚ)⌉₊ ≤ s.fee
  input : exactInput (target ≤ price) price s.next liquidity ≤ s.amountIn
  output : s.amountOut ≤ exactOutput (target ≤ price) price s.next liquidity
  still : price = target → s.amountIn = 0 ∧ s.amountOut = 0 ∧ s.fee = 0

section Honest

private theorem ceil_fee_le {m : Nat} (hfee : fee < feeUnit)
    (h : ceilDiv (n * fee) (feeUnit - fee) ≤ m) :
    ⌈(n * fee / (feeUnit - fee) : ℚ)⌉₊ ≤ m := by
  have hpos : (0 : ℚ) < feeUnit - fee := sub_pos.mpr (by exact_mod_cast hfee)
  have hle := (ceilDiv_le (Nat.sub_pos_of_lt hfee)).mp h
  rw [Nat.ceil_le, div_le_iff₀ hpos, ← Nat.cast_sub hfee.le]
  exact_mod_cast hle

private theorem fee_eq_zero {m : Nat} (h : mulDivUp 0 fee (feeUnit - fee) = .ok m) : m = 0 := by
  obtain ⟨hcomplement, rfl, -⟩ := mulDivUp_eq_ok h
  exact Nat.le_zero.mp ((ceilDiv_le hcomplement).mpr (by rw [Nat.zero_mul]; exact Nat.zero_le _))

theorem stepInput_self {a : Nat} (h : stepInput zeroForOne a a liquidity = .ok n) : n = 0 := by
  simpa using stepInput_eq_ceil h

theorem stepOutput_self {a : Nat} (h : stepOutput zeroForOne a a liquidity = .ok n) : n = 0 := by
  simpa using stepOutput_eq_floor h

theorem le_stepInput {a b : Nat} (h : stepInput zeroForOne a b liquidity = .ok n) :
    exactInput zeroForOne a b liquidity ≤ n :=
  stepInput_eq_ceil h ▸ Nat.le_ceil _

theorem stepOutput_le {a b : Nat} (h : stepOutput zeroForOne a b liquidity = .ok n) :
    n ≤ exactOutput zeroForOne a b liquidity :=
  stepOutput_eq_floor h ▸ Nat.floor_le (exactOutput_nonneg zeroForOne a b liquidity)

theorem stepExactIn_honest (hfee : fee < feeUnit)
    (h : stepExactIn price target liquidity remaining fee = .ok s) :
    s.Honest price target liquidity remaining fee := by
  have hbetween := stepExactIn_between h
  obtain ⟨hin, hout, hspends⟩ := stepExactIn_eq_ok h
  refine ⟨hbetween, fun _ => stepExactIn_spent h, fun hneg => ?_,
    ceil_fee_le hfee (stepExactIn_charged hfee h), le_stepInput hin, stepOutput_le hout, ?_⟩
  · exact absurd hneg (Int.not_lt.mpr (Int.natCast_nonneg remaining))
  · rintro rfl
    have hstill : s.next = price := by omega
    rw [hstill] at hin hout
    refine ⟨stepInput_self hin, stepOutput_self hout, ?_⟩
    cases hspends with
    | reaches _ _ hcharged => exact fee_eq_zero (stepInput_self hin ▸ hcharged)
    | stops hstop => exact absurd hstill hstop

theorem stepExactOut_honest {remaining : Int} (hfee : fee < feeUnit) (hneg : remaining < 0)
    (h : stepExactOut price target liquidity remaining.natAbs fee = .ok s) :
    s.Honest price target liquidity remaining fee := by
  have hbetween := stepExactOut_between h
  obtain ⟨hin, ⟨whole, hwhole, hout⟩, hcharged, -⟩ := stepExactOut_eq_ok h
  have hpaid : (s.amountOut : ℚ) ≤ whole := by exact_mod_cast hout
  refine ⟨hbetween, fun hpos => absurd hneg (Int.not_lt.mpr hpos), fun _ => stepExactOut_paid h,
    ceil_fee_le hfee (mulDivUp_eq_ok hcharged).2.1.ge, le_stepInput hin,
    hpaid.trans (stepOutput_le hwhole), ?_⟩
  rintro rfl
  have hstill : s.next = price := by omega
  rw [hstill] at hin hwhole
  have hnone := stepInput_self hin
  have hnothing := stepOutput_self hwhole
  exact ⟨hnone, by omega, fee_eq_zero (hnone ▸ hcharged)⟩

end Honest

/-- A step of either sign succeeds, and is honest, for all prices and amounts of their sizes and
all fees below the whole. -/
theorem step_honest {remaining : Int} (hp : Supported price) (ht : Supported target)
    (hl : liquidity < Word.size 128) (hlow : -(Word.size 255 : Int) ≤ remaining)
    (hhigh : remaining < Word.size 255) (hfee : fee < feeUnit) :
    ∃ s, step price target liquidity remaining fee = .ok s ∧
      s.Honest price target liquidity remaining fee := by
  have hword : Word.size 255 < Word.size 256 := Word.size_lt (by decide)
  cases remaining with
  | ofNat amount =>
    have hr : amount < Word.size 256 := (Int.ofNat_lt.mp hhigh).trans hword
    obtain ⟨s, hs⟩ := exists_stepExactIn hp ht hl hr hfee
    exact ⟨s, hs, stepExactIn_honest hfee hs⟩
  | negSucc n =>
    obtain ⟨s, hs⟩ := exists_stepExactOut hp ht hl hfee (Int.negSucc n).natAbs
    exact ⟨s, hs, stepExactOut_honest hfee (Int.negSucc_lt_zero n) hs⟩

/-- The product of the amount and the price does not fit a word, so that the next price comes from
the coarse divisor. -/
theorem step_honest_coarse :
    let s : Step := ⟨20831682481583765775435071525822043, 1294179991989805786411226210058107,
      6277101735386591292440810364811376398371533873896124318484, 3894222643901120721397872246917⟩
    step (Word.size 160) 1 (Word.size 128 - 1) (Word.size 110) 3000 = .ok s ∧
      s.Honest (Word.size 160) 1 (Word.size 128 - 1) (Word.size 110) 3000 := by
  intro s
  have hs : step (Word.size 160) 1 (Word.size 128 - 1) (Word.size 110) 3000 = .ok s := by
    decide +kernel
  obtain ⟨s', hs', hhonest⟩ : ∃ s',
      step (Word.size 160) 1 (Word.size 128 - 1) (Word.size 110) 3000 = .ok s' ∧
        s'.Honest (Word.size 160) 1 (Word.size 128 - 1) (Word.size 110) 3000 :=
    step_honest ⟨by decide, le_rfl⟩ ⟨le_rfl, by decide⟩ (by decide) (by decide) (by decide)
      (by decide)
  obtain rfl := Except.ok.inj (hs.symm.trans hs')
  exact ⟨hs, hhonest⟩

end LiquidityGraph.Price
