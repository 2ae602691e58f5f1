import LiquidityGraph.Price.Step
import LiquidityGraph.Proofs.Machine.Basic
import LiquidityGraph.Proofs.Price.Step
import LiquidityGraph.Proofs.Price.TickRatio

/-!
The price arithmetic of a swap on machine words. From words of their size no operation is trapped,
and the results are the exact ones.
-/
namespace LiquidityGraph.Machine

open Price (feeUnit narrow numerator_lt q96)

def mulDiv (a b d : Nat) : Machine PriceError Nat := do
  if d = 0 then throw .divisionByZero
  let product ← unsigned 512 (a * b : Nat)
  let floor ← quotient product d
  safe (narrow floor)

def mulDivUp (a b d : Nat) : Machine PriceError Nat := do
  if d = 0 then throw .divisionByZero
  let product ← unsigned 512 (a * b : Nat)
  let floor ← quotient product d
  let ceiling ← if product % d = 0 then pure floor else unsigned 512 (floor + 1 : Nat)
  safe (narrow ceiling)

def amount0 (a b liquidity : Nat) (roundUp : Bool) : Machine PriceError Nat := do
  let low := min a b
  let high := max a b
  if low = 0 then throw .zeroPrice
  let numerator ← unsigned 256 (liquidity * q96 : Nat)
  let delta ← unsigned 256 (high - low : Int)
  if roundUp then
    let inner ← mulDivUp numerator delta high
    mulDivUp inner 1 low
  else
    let inner ← mulDiv numerator delta high
    quotient inner low

def amount1 (a b liquidity : Nat) (roundUp : Bool) : Machine PriceError Nat := do
  let low := min a b
  let high := max a b
  let delta ← unsigned 256 (high - low : Int)
  if roundUp then mulDivUp liquidity delta q96 else mulDiv liquidity delta q96

/-- Adds or removes token 0. The product of amount and price may wrap around: then dividing it by
the amount does not give the price back. -/
def next0 (price liquidity amount : Nat) (add : Bool) : Machine PriceError Nat := do
  if amount = 0 then return price
  let numerator ← unsigned 256 (liquidity * q96 : Nat)
  let product := amount * price % Word.size 256
  let back ← quotient product amount
  if add then
    let denominator := (numerator + product) % Word.size 256
    if back = price ∧ numerator ≤ denominator then mulDivUp numerator price denominator
    else
      let share ← quotient numerator price
      let denominator ← unsigned 512 (share + amount : Nat)
      let sum ← unsigned 512 (numerator + denominator : Nat)
      let dividend ← unsigned 512 (sum - 1 : Int)
      let floor ← quotient dividend denominator
      safe (narrow floor)
  else if back ≠ price ∨ numerator ≤ product then throw .priceOverflow
  else
    let denominator ← unsigned 256 (numerator - product : Int)
    mulDivUp numerator price denominator

/-- Adds or removes token 1. -/
def next1 (price liquidity amount : Nat) (add : Bool) : Machine PriceError Nat := do
  if add then
    let rise ← mulDiv amount q96 liquidity
    if price + rise < Word.size 256 then return price + rise else throw .priceOverflow
  else
    let fall ← mulDivUp amount q96 liquidity
    if price ≤ fall then throw .priceOverflow else unsigned 256 (price - fall : Int)

def nextFromInput (price liquidity amount : Nat) (zeroForOne : Bool) : Machine PriceError Nat :=
  if price = 0 then throw .zeroPrice
  else if liquidity = 0 then throw .zeroLiquidity
  else if zeroForOne then next0 price liquidity amount true
  else next1 price liquidity amount true

def nextFromOutput (price liquidity amount : Nat) (zeroForOne : Bool) : Machine PriceError Nat :=
  if price = 0 then throw .zeroPrice
  else if liquidity = 0 then throw .zeroLiquidity
  else if zeroForOne then next1 price liquidity amount false
  else next0 price liquidity amount false

def stepInput (zeroForOne : Bool) (a b liquidity : Nat) : Machine PriceError Nat :=
  if zeroForOne then amount0 a b liquidity true else amount1 a b liquidity true

def stepOutput (zeroForOne : Bool) (a b liquidity : Nat) : Machine PriceError Nat :=
  if zeroForOne then amount1 a b liquidity false else amount0 a b liquidity false

def stepExactIn (current target liquidity remaining fee : Nat) :
    Machine PriceError Price.Step := do
  let zeroForOne : Bool := target ≤ current
  let complement := feeUnit - fee
  let budget ← mulDiv remaining complement feeUnit
  let full ← stepInput zeroForOne current target liquidity
  let next ← if full ≤ budget then pure target
    else nextFromInput current liquidity budget zeroForOne
  let amountIn ← if target = next then pure full
    else stepInput zeroForOne current next liquidity
  let amountOut ← stepOutput zeroForOne current next liquidity
  let feeAmount ← if next = target then mulDivUp amountIn fee complement
    else if amountIn ≤ remaining then unsigned 256 (remaining - amountIn : Int)
    else throw .underflow
  return ⟨next, amountIn, amountOut, feeAmount⟩

def stepExactOut (current target liquidity remaining fee : Nat) :
    Machine PriceError Price.Step := do
  let zeroForOne : Bool := target ≤ current
  let complement := feeUnit - fee
  let full ← stepOutput zeroForOne current target liquidity
  let next ← if full ≤ remaining then pure target
    else nextFromOutput current liquidity remaining zeroForOne
  let amountIn ← stepInput zeroForOne current next liquidity
  let amountOut ← if target = next then pure full
    else stepOutput zeroForOne current next liquidity
  let feeAmount ← mulDivUp amountIn fee complement
  return ⟨next, amountIn, min amountOut remaining, feeAmount⟩

def step (current target liquidity : Nat) (remaining : Int) (fee : Nat) :
    Machine PriceError Price.Step :=
  if 0 ≤ remaining then stepExactIn current target liquidity remaining.natAbs fee
  else stepExactOut current target liquidity remaining.natAbs fee

section MulDiv

variable {a b : Nat}

theorem mulDiv_safe (ha : a < Word.size 256) (hb : b < Word.size 256) (d : Nat) :
    mulDiv a b d = safe (Price.mulDiv a b d) := by
  unfold mulDiv Price.mulDiv
  split_ifs with hd
  · rfl
  · have hproduct : a * b < Word.size 512 := Word.mul_lt_size 256 256 ha hb
    rw [unsigned_natCast hproduct, pure_bind]
    rw [quotient_of_pos (Nat.pos_of_ne_zero hd), pure_bind]

theorem ceilDiv_eq {n d : Nat} (hd : 0 < d) :
    Price.ceilDiv n d = if n % d = 0 then n / d else n / d + 1 := by
  have hdivide := Nat.div_add_mod n d
  have hmod := Nat.mod_lt n hd
  unfold Price.ceilDiv
  split_ifs with hexact
  · have hsum : n + d - 1 = d * (n / d) + (d - 1) := by omega
    have hless : d - 1 < d := by omega
    rw [hsum, Nat.mul_add_div hd, Nat.div_eq_of_lt hless, Nat.add_zero]
  · have hnext : d * (n / d + 1) = d * (n / d) + d := Nat.mul_succ d (n / d)
    have hsum : n + d - 1 = d * (n / d + 1) + (n % d - 1) := by omega
    have hless : n % d - 1 < d := by omega
    rw [hsum, Nat.mul_add_div hd, Nat.div_eq_of_lt hless, Nat.add_zero]

theorem mulDivUp_safe (ha : a < Word.size 256) (hb : b < Word.size 256) (d : Nat) :
    mulDivUp a b d = safe (Price.mulDivUp a b d) := by
  unfold mulDivUp Price.mulDivUp
  split_ifs with hd
  · rfl
  · have hroom : a * b + 1 < Word.size 512 := Word.mul_succ_lt_size 256 256 ha hb (by decide)
    have hproduct : a * b < Word.size 512 := by omega
    have hpos : 0 < d := Nat.pos_of_ne_zero hd
    rw [unsigned_natCast hproduct, pure_bind, quotient_of_pos hpos, pure_bind, ceilDiv_eq hpos]
    split_ifs with hexact
    · rfl
    · have hfloor : a * b / d ≤ a * b := Nat.div_le_self (a * b) d
      have hceiling : a * b / d + 1 < Word.size 512 := by omega
      rw [unsigned_natCast hceiling, pure_bind]

end MulDiv

section Amounts

variable {a b price liquidity amount : Nat}

theorem amount0_safe (ha : a < Word.size 256) (hb : b < Word.size 256)
    (hl : liquidity < Word.size 128) (roundUp : Bool) :
    amount0 a b liquidity roundUp = safe (Price.amount0 a b liquidity roundUp) := by
  have hnumerator : liquidity * q96 < Word.size 256 :=
    (numerator_lt hl).trans_le (Word.size_le (by decide))
  have hhigh : max a b < Word.size 256 := max_lt ha hb
  have hdelta : max a b - min a b < Word.size 256 := by omega
  have hle : min a b ≤ max a b := min_le_max
  unfold amount0 Price.amount0
  dsimp only
  by_cases hlow : min a b = 0
  · rw [if_pos hlow, if_pos hlow]
    rfl
  · rw [if_neg hlow, if_neg hlow, unsigned_natCast hnumerator, pure_bind]
    rw [unsigned_sub hle hhigh, pure_bind]
    split_ifs
    · rw [mulDivUp_safe hnumerator hdelta]
      refine safe_bind fun inner hinner => ?_
      obtain ⟨-, -, hlt⟩ := Price.mulDivUp_eq_ok hinner
      exact mulDivUp_safe hlt (by decide) _
    · rw [mulDiv_safe hnumerator hdelta]
      refine safe_bind fun inner hinner => ?_
      rw [quotient_of_pos (Nat.pos_of_ne_zero hlow)]
      rfl

theorem amount1_safe (ha : a < Word.size 256) (hb : b < Word.size 256)
    (hl : liquidity < Word.size 128) (roundUp : Bool) :
    amount1 a b liquidity roundUp = safe (Price.amount1 a b liquidity roundUp) := by
  have hliquidity : liquidity < Word.size 256 := hl.trans_le (Word.size_le (by decide))
  have hhigh : max a b < Word.size 256 := max_lt ha hb
  have hdelta : max a b - min a b < Word.size 256 := by omega
  unfold amount1 Price.amount1
  dsimp only
  rw [unsigned_sub min_le_max hhigh, pure_bind]
  split_ifs
  · exact mulDivUp_safe hliquidity hdelta q96
  · exact mulDiv_safe hliquidity hdelta q96

/-- A product fits unless dividing it by one factor does not give the other one back. -/
private theorem wrapped_div {a b : Nat} (ha : a ≠ 0) :
    a * b % Word.size 256 / a = b ↔ a * b < Word.size 256 := by
  constructor
  · intro hback
    by_contra hover
    have hmod : a * b % Word.size 256 < Word.size 256 := Nat.mod_lt _ (by decide)
    have hless : a * b % Word.size 256 < b * a := by
      rw [Nat.mul_comm b a]
      omega
    have hdiv : a * b % Word.size 256 / a < b := (Nat.div_lt_iff_lt_mul (by omega)).mpr hless
    omega
  · intro hfits
    rw [Nat.mod_eq_of_lt hfits]
    exact Nat.mul_div_cancel_left b (Nat.pos_of_ne_zero ha)

private theorem le_wrapped_add {a b : Nat} (ha : a < Word.size 256) (hb : b < Word.size 256) :
    a ≤ (a + b) % Word.size 256 ↔ a + b < Word.size 256 := by
  constructor
  · intro hle
    by_contra hover
    rw [Nat.mod_eq_sub_mod (by omega), Nat.mod_eq_of_lt (by omega)] at hle
    omega
  · intro hfits
    rw [Nat.mod_eq_of_lt hfits]
    exact Nat.le_add_right a b

/-- Both tests together tell whether the denominator fits. -/
theorem next0_fits {numerator : Nat} (price : Nat) (hn : numerator < Word.size 256)
    (ha : amount ≠ 0) :
    (amount * price % Word.size 256 / amount = price ∧
      numerator ≤ (numerator + amount * price % Word.size 256) % Word.size 256) ↔
      numerator + amount * price < Word.size 256 := by
  have hmod : amount * price % Word.size 256 < Word.size 256 := Nat.mod_lt _ (Nat.two_pow_pos 256)
  rw [wrapped_div ha, le_wrapped_add hn hmod]
  constructor
  · rintro ⟨hproduct, hsum⟩
    rwa [Nat.mod_eq_of_lt hproduct] at hsum
  · intro hsum
    have hproduct : amount * price < Word.size 256 := by omega
    rw [Nat.mod_eq_of_lt hproduct]
    exact ⟨hproduct, hsum⟩

private theorem next0_add_safe (hp : price < Word.size 256) (hl : liquidity < Word.size 128)
    (ha : amount < Word.size 256) (hprice : price ≠ 0) :
    next0 price liquidity amount true = safe (Price.add0 price liquidity amount) := by
  have hnumerator : liquidity * q96 < Word.size 256 :=
    (numerator_lt hl).trans_le (Word.size_le (by decide))
  unfold next0 Price.add0
  dsimp only
  by_cases hzero : amount = 0
  · rw [if_pos hzero, if_pos hzero]
    rfl
  · rw [if_neg hzero, if_neg hzero, unsigned_natCast hnumerator, pure_bind]
    rw [quotient_of_pos (Nat.pos_of_ne_zero hzero), pure_bind, if_pos rfl]
    generalize liquidity * q96 = numerator at hnumerator ⊢
    have htests := next0_fits price hnumerator hzero
    by_cases hfits : numerator + amount * price < Word.size 256
    · have hproduct : amount * price < Word.size 256 := by omega
      rw [if_pos hfits, if_pos (htests.mpr hfits)]
      rw [Nat.mod_eq_of_lt hproduct, Nat.mod_eq_of_lt hfits]
      exact mulDivUp_safe hnumerator hp _
    -- the way around goes through 512 bits: each summand is a word of 256
    · have hshare : numerator / price ≤ numerator := Nat.div_le_self _ _
      have hwide : Word.size 256 * 4 ≤ Word.size 512 := by
        rw [← show Word.size 258 = Word.size 256 * 4 from Word.size_add 256 2]
        exact Word.size_le (by decide)
      rw [if_neg hfits, if_neg fun h => hfits (htests.mp h)]
      rw [quotient_of_pos (Nat.pos_of_ne_zero hprice), pure_bind]
      generalize numerator / price = share at hshare ⊢
      have hdenominator : share + amount < Word.size 512 := by omega
      have hsum : numerator + (share + amount) < Word.size 512 := by omega
      have hone : 1 ≤ numerator + (share + amount) := by omega
      have hpos : 0 < share + amount := by omega
      rw [unsigned_natCast hdenominator, pure_bind, unsigned_natCast hsum, pure_bind]
      rw [← Int.natCast_one, unsigned_sub hone hsum, pure_bind, quotient_of_pos hpos, pure_bind]
      rfl

private theorem next0_remove_safe (hp : price < Word.size 256) (hl : liquidity < Word.size 128) :
    next0 price liquidity amount false = safe (Price.remove0 price liquidity amount) := by
  have hnumerator : liquidity * q96 < Word.size 256 :=
    (numerator_lt hl).trans_le (Word.size_le (by decide))
  unfold next0 Price.remove0
  dsimp only
  by_cases hzero : amount = 0
  · rw [if_pos hzero, if_pos hzero]
    rfl
  · rw [if_neg hzero, if_neg hzero, unsigned_natCast hnumerator, pure_bind]
    rw [quotient_of_pos (Nat.pos_of_ne_zero hzero), pure_bind, if_neg Bool.false_ne_true]
    generalize liquidity * q96 = numerator at hnumerator ⊢
    by_cases hfits : amount * price < Word.size 256
    · have hback : amount * price % Word.size 256 / amount = price := (wrapped_div hzero).mpr hfits
      rw [hback, Nat.mod_eq_of_lt hfits]
      by_cases hover : numerator ≤ amount * price
      · rw [if_pos hover, if_pos (.inr hover)]
        rfl
      · have hless : numerator - amount * price < Word.size 256 := by omega
        rw [if_neg hover, if_neg (not_or.mpr ⟨fun h => h rfl, hover⟩)]
        rw [unsigned_sub (Nat.le_of_not_le hover) hnumerator, pure_bind]
        exact mulDivUp_safe hnumerator hp _
    · have hback : amount * price % Word.size 256 / amount ≠ price :=
        fun h => hfits ((wrapped_div hzero).mp h)
      rw [if_pos (.inl hback), if_pos (by omega)]
      rfl

private theorem next1_add_safe (ha : amount < Word.size 256) :
    next1 price liquidity amount true = safe (Price.add1 price liquidity amount) := by
  unfold next1 Price.add1
  rw [if_pos rfl, mulDiv_safe ha (by decide)]
  refine safe_bind fun rise _ => ?_
  split_ifs <;> rfl

private theorem next1_remove_safe (hp : price < Word.size 256) (ha : amount < Word.size 256) :
    next1 price liquidity amount false = safe (Price.remove1 price liquidity amount) := by
  unfold next1 Price.remove1
  rw [if_neg Bool.false_ne_true, mulDivUp_safe ha (by decide)]
  refine safe_bind fun fall _ => ?_
  split_ifs with hover
  · rfl
  · rw [unsigned_sub (Nat.le_of_not_le hover) hp]
    rfl

theorem nextFromInput_safe (hp : price < Word.size 256) (hl : liquidity < Word.size 128)
    (ha : amount < Word.size 256) (zeroForOne : Bool) :
    nextFromInput price liquidity amount zeroForOne =
      safe (Price.nextFromInput price liquidity amount zeroForOne) := by
  unfold nextFromInput Price.nextFromInput
  split_ifs with hprice
  · rfl
  · rfl
  · exact next0_add_safe hp hl ha hprice
  · exact next1_add_safe ha

theorem nextFromOutput_safe (hp : price < Word.size 256) (hl : liquidity < Word.size 128)
    (ha : amount < Word.size 256) (zeroForOne : Bool) :
    nextFromOutput price liquidity amount zeroForOne =
      safe (Price.nextFromOutput price liquidity amount zeroForOne) := by
  unfold nextFromOutput Price.nextFromOutput
  split_ifs
  · rfl
  · rfl
  · exact next1_remove_safe hp ha
  · exact next0_remove_safe hp hl

end Amounts

section Step

variable {price target liquidity remaining fee : Nat}

theorem stepInput_safe (hp : price < Word.size 256) (ht : target < Word.size 256)
    (hl : liquidity < Word.size 128) (zeroForOne : Bool) :
    stepInput zeroForOne price target liquidity =
      safe (Price.stepInput zeroForOne price target liquidity) := by
  unfold stepInput Price.stepInput
  split_ifs
  · exact amount0_safe hp ht hl true
  · exact amount1_safe hp ht hl true

theorem stepOutput_safe (hp : price < Word.size 256) (ht : target < Word.size 256)
    (hl : liquidity < Word.size 128) (zeroForOne : Bool) :
    stepOutput zeroForOne price target liquidity =
      safe (Price.stepOutput zeroForOne price target liquidity) := by
  unfold stepOutput Price.stepOutput
  split_ifs
  · exact amount1_safe hp ht hl false
  · exact amount0_safe hp ht hl false

theorem stepInput_lt {zeroForOne : Bool} {a b n : Nat}
    (h : Price.stepInput zeroForOne a b liquidity = .ok n) : n < Word.size 256 := by
  simp only [Price.stepInput, Price.amount0, Price.amount1, if_true] at h
  split_ifs at h
  · obtain ⟨inner, -, h⟩ := bind_eq_ok.mp h
    exact (Price.mulDivUp_eq_ok h).2.2
  · exact (Price.mulDivUp_eq_ok h).2.2

theorem stepExactIn_safe (hp : price < Word.size 256) (ht : target < Word.size 256)
    (hl : liquidity < Word.size 128) (hr : remaining < Word.size 256)
    (hf : fee < Word.size 256) :
    stepExactIn price target liquidity remaining fee =
      safe (Price.stepExactIn price target liquidity remaining fee) := by
  have hunit : feeUnit < Word.size 256 := by decide
  have hcomplement : feeUnit - fee < Word.size 256 := by omega
  unfold stepExactIn Price.stepExactIn
  dsimp only
  rw [mulDiv_safe hr hcomplement]
  refine safe_bind fun budget hbudget => ?_
  obtain ⟨-, -, hbudget⟩ := Price.mulDiv_eq_ok hbudget
  rw [stepInput_safe hp ht hl]
  refine safe_bind fun full hfull => ?_
  refine safe_ite_bind (fun _ => rfl) (fun _ => nextFromInput_safe hp hl hbudget _)
    fun next hnext => ?_
  have hn : next < Word.size 256 := by
    split_ifs at hnext with hreach
    · cases hnext
      exact ht
    · have hbetween := Price.nextFromInput_between hfull (not_le.mp hreach) hnext
      exact hbetween.2.trans_lt (max_lt hp ht)
  refine safe_ite_bind (fun _ => rfl) (fun _ => stepInput_safe hp hn hl _) fun amountIn hin => ?_
  have hin : amountIn < Word.size 256 := by
    split_ifs at hin
    · cases hin
      exact stepInput_lt hfull
    · exact stepInput_lt hin
  rw [stepOutput_safe hp hn hl]
  refine safe_bind fun amountOut _ => ?_
  split_ifs with hreach hpaid
  · rw [mulDivUp_safe hin hf]
    exact safe_bind fun _ _ => rfl
  · rw [unsigned_sub hpaid hr]
    rfl
  · rfl

theorem stepExactOut_safe (hp : price < Word.size 256) (ht : target < Word.size 256)
    (hl : liquidity < Word.size 128) (hr : remaining < Word.size 256)
    (hf : fee < Word.size 256) :
    stepExactOut price target liquidity remaining fee =
      safe (Price.stepExactOut price target liquidity remaining fee) := by
  unfold stepExactOut Price.stepExactOut
  dsimp only
  rw [stepOutput_safe hp ht hl]
  refine safe_bind fun full hfull => ?_
  refine safe_ite_bind (fun _ => rfl) (fun _ => nextFromOutput_safe hp hl hr _)
    fun next hnext => ?_
  have hn : next < Word.size 256 := by
    split_ifs at hnext with hreach
    · cases hnext
      exact ht
    · have hbetween := Price.nextFromOutput_between hfull (not_le.mp hreach) hnext
      exact hbetween.2.trans_lt (max_lt hp ht)
  rw [stepInput_safe hp hn hl]
  refine safe_bind fun amountIn hin => ?_
  refine safe_ite_bind (fun _ => rfl) (fun _ => stepOutput_safe hp hn hl _) fun amountOut _ => ?_
  rw [mulDivUp_safe (stepInput_lt hin) hf]
  exact safe_bind fun _ _ => rfl

theorem step_safe {remaining : Int} (hp : price < Word.size 256) (ht : target < Word.size 256)
    (hl : liquidity < Word.size 128) (hr : remaining.natAbs < Word.size 256)
    (hf : fee < Word.size 256) :
    step price target liquidity remaining fee =
      safe (Price.step price target liquidity remaining fee) := by
  unfold step
  cases remaining with
  | ofNat amount =>
    have hnonneg : 0 ≤ Int.ofNat amount := Int.natCast_nonneg amount
    rw [if_pos hnonneg]
    exact stepExactIn_safe hp ht hl hr hf
  | negSucc n =>
    rw [if_neg (Int.not_le.mpr (Int.negSucc_lt_zero n))]
    exact stepExactOut_safe hp ht hl hr hf

end Step

section Cost

variable {a price target liquidity fee n : Nat} {s : Price.Step}

private theorem cost_lt (hin : a < Word.size 224)
    (h : Price.mulDivUp a fee (feeUnit - fee) = .ok n) :
    a + n < Word.size 256 := by
  obtain ⟨hcomplement, rfl, -⟩ := Price.mulDivUp_eq_ok h
  have hfee : Price.ceilDiv (a * fee) (feeUnit - fee) ≤ a * feeUnit :=
    (Price.ceilDiv_le hcomplement).mpr (Price.mul_fee_le hcomplement a)
  have hunit : feeUnit + 1 ≤ Word.size 32 := by decide
  have hsum : a + a * feeUnit = a * (feeUnit + 1) := by ring
  calc a + Price.ceilDiv (a * fee) (feeUnit - fee) ≤ a * (feeUnit + 1) := by omega
    _ ≤ a * Word.size 32 := Nat.mul_le_mul_left a hunit
    _ < Word.size 224 * Word.size 32 := Nat.mul_lt_mul_of_pos_right hin (Nat.two_pow_pos 32)
    _ = Word.size 256 := (Word.size_add 224 32).symm

private theorem stepExactOut_cost {remaining : Nat} (hl : liquidity < Word.size 128)
    (hup : price < target → target ≤ Price.maxRatio)
    (h : Price.stepExactOut price target liquidity remaining fee = .ok s) :
    s.amountIn + s.fee < Word.size 256 := by
  have hbetween := (Price.stepExactOut_between h).2
  obtain ⟨hin, -, hfee, -⟩ := Price.stepExactOut_eq_ok h
  refine cost_lt (Price.stepInput_lt hin hl fun hdown => ?_) hfee
  have hlt : price < target := not_le.mp (of_decide_eq_false hdown)
  have hmax : Price.maxRatio ≤ Word.size 160 := by decide
  have hle := hup hlt
  omega

/-- The input of a step and the fee on it fit a word together. -/
theorem step_cost {remaining : Int} (hl : liquidity < Word.size 128)
    (hr : remaining.natAbs < Word.size 256) (hup : price < target → target ≤ Price.maxRatio)
    (h : Price.step price target liquidity remaining fee = .ok s) :
    s.amountIn + s.fee < Word.size 256 := by
  cases remaining with
  | ofNat amount => exact (Price.stepExactIn_spent h).1.trans_lt hr
  | negSucc n => exact stepExactOut_cost hl hup h

end Cost

end LiquidityGraph.Machine
