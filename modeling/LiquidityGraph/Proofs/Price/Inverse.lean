import LiquidityGraph.Proofs.Price.Amount
import LiquidityGraph.Proofs.Price.Next
import Mathlib.Order.Bounds.Basic

/-!
The next prices against the amounts between prices. The price that an amount leads to is the
furthest one that the amount pays for, or the nearest one at which the amount is earned. Only
where token 0 is paid in and the divisor does not fit 256 bits it may be short of the furthest.
-/
namespace LiquidityGraph.Price

variable {price liquidity amount next q : Nat}

/-- The prices down to which an amount of token 0 pays, each move's amount rounded up. -/
def paid0 (price liquidity amount : Nat) : Set Nat :=
  {q | 1 ≤ q ∧ q ≤ price ∧ ∃ n, amount0 q price liquidity true = .ok n ∧ n ≤ amount}

/-- The prices up to which an amount of token 1 pays, each move's amount rounded up. -/
def paid1 (price liquidity amount : Nat) : Set Nat :=
  {q | price ≤ q ∧ ∃ n, amount1 price q liquidity true = .ok n ∧ n ≤ amount}

/-- The prices down to which at least an amount of token 1 is earned, exactly. -/
def earned1 (price liquidity amount : Nat) : Set Nat :=
  {q | 1 ≤ q ∧ q ≤ price ∧ (amount : ℚ) ≤ exact1 q price liquidity}

/-- The prices up to which at least an amount of token 0 is earned, exactly. -/
def earned0 (price liquidity amount : Nat) : Set Nat :=
  {q | price ≤ q ∧ (amount : ℚ) ≤ exact0 price q liquidity}

section Members

theorem mem_paid0 (hl : liquidity < Word.size 128) : q ∈ paid0 price liquidity amount ↔
    1 ≤ q ∧ q ≤ price ∧ liquidity * q96 * (price - q) ≤ amount * q * price := by
  refine and_congr_right fun hpos => and_congr_right fun hle => ?_
  obtain ⟨n, hn⟩ := exists_amount0 hpos (hpos.trans hle) hl true
  have hless := lt_amount0 (k := amount) hn
  rw [min_eq_left hle, max_eq_right hle] at hless
  rw [← not_lt, ← hless, not_lt]
  constructor
  · rintro ⟨n', hn', hpaid⟩
    cases hn.symm.trans hn'
    exact hpaid
  · intro hpaid
    exact ⟨n, hn, hpaid⟩

theorem mem_paid1 (hamount : amount < Word.size 256) : q ∈ paid1 price liquidity amount ↔
    price ≤ q ∧ liquidity * (q - price) ≤ amount * q96 := by
  refine and_congr_right fun hle => ?_
  constructor
  · rintro ⟨n, hn, hpaid⟩
    have hless := (lt_amount1 hn).not.mp (not_lt.mpr hpaid)
    rw [min_eq_left hle, max_eq_right hle] at hless
    exact not_lt.mp hless
  · intro hpaid
    have hdistance : liquidity * (max price q - min price q) ≤ amount * q96 := by
      rwa [min_eq_left hle, max_eq_right hle]
    obtain ⟨n, hn⟩ := exists_amount1 hdistance hamount true
    exact ⟨n, hn, not_lt.mp ((lt_amount1 hn).not.mpr (not_lt.mpr hdistance))⟩

theorem mem_earned1 : q ∈ earned1 price liquidity amount ↔
    1 ≤ q ∧ q ≤ price ∧ amount * q96 ≤ liquidity * (price - q) := by
  refine and_congr_right fun _ => and_congr_right fun hle => ?_
  have hexact := mul_le_iff_le_exact1 (k := amount) (a := q) (b := price) (l := liquidity)
  rw [min_eq_left hle, max_eq_right hle] at hexact
  exact hexact.symm

theorem mem_earned0 (hprice : 0 < price) : q ∈ earned0 price liquidity amount ↔
    price ≤ q ∧ amount * price * q ≤ liquidity * q96 * (q - price) := by
  refine and_congr_right fun hle => ?_
  have hexact := mul_le_iff_le_exact0 (k := amount) (l := liquidity) hprice (hprice.trans_le hle)
  rw [min_eq_left hle, max_eq_right hle] at hexact
  exact hexact.symm

end Members

section Input

/-- Token 0 paid in never lowers the price further than it pays for. -/
theorem add0_mem_paid0 (h : add0 price liquidity amount = .ok next) (hprice : 0 < price)
    (hpos : 0 < liquidity) (hl : liquidity < Word.size 128) :
    next ∈ paid0 price liquidity amount := by
  refine (mem_paid0 hl).mpr ⟨?_, add0_le h hprice, add0_spends h hprice⟩
  have hexact := le_mul_add0 h
  have hnumerator : 0 < liquidity * q96 * price :=
    Nat.mul_pos (Nat.mul_pos hpos (Nat.two_pow_pos 96)) hprice
  exact Nat.pos_of_mul_pos_right (hnumerator.trans_le hexact)

/-- Where the divisor fits, token 0 paid in lowers the price by all that it pays for. -/
theorem isLeast_add0 (h : add0 price liquidity amount = .ok next) (hprice : 0 < price)
    (hpos : 0 < liquidity) (hl : liquidity < Word.size 128)
    (hroom : amount * price + liquidity * q96 < Word.size 256) :
    IsLeast (paid0 price liquidity amount) next := by
  refine ⟨add0_mem_paid0 h hprice hpos hl, fun q hq => ?_⟩
  obtain ⟨-, hle, hpaid⟩ := (mem_paid0 hl).mp hq
  have hexact : liquidity * q96 * price ≤ q * (liquidity * q96 + amount * price) := by
    obtain ⟨d, rfl⟩ := Nat.exists_eq_add_of_le hle
    rw [Nat.add_sub_cancel_left] at hpaid
    linarith
  cases adds0_of_ok h with
  | nothing hzero hnext =>
    rw [hzero, Nat.zero_mul, Nat.add_zero, Nat.mul_comm q] at hexact
    rw [hnext]
    exact Nat.le_of_mul_le_mul_left hexact (Nat.mul_pos hpos (Nat.two_pow_pos 96))
  | whole _ hdivisor hnext =>
    rw [hnext]
    exact (ceilDiv_le hdivisor).mpr hexact
  | coarse _ hexceeds => omega

theorem isGreatest_paid1 (hpos : 0 < liquidity) (hamount : amount < Word.size 256) :
    IsGreatest (paid1 price liquidity amount) (price + amount * q96 / liquidity) := by
  constructor
  · refine (mem_paid1 hamount).mpr ⟨Nat.le_add_right _ _, ?_⟩
    rw [Nat.add_sub_cancel_left]
    exact Nat.mul_div_le _ _
  · intro q hq
    obtain ⟨-, hpaid⟩ := (mem_paid1 hamount).mp hq
    have hrise : q - price ≤ amount * q96 / liquidity := by
      rw [Nat.le_div_iff_mul_le hpos, Nat.mul_comm]
      exact hpaid
    omega

theorem add1_eq_ok_iff (hpos : 0 < liquidity) : add1 price liquidity amount = .ok next ↔
    next = price + amount * q96 / liquidity ∧ amount * q96 / liquidity < Word.size 256 ∧
      price + amount * q96 / liquidity < Word.size 256 := by
  constructor
  · intro h
    obtain ⟨rise, hrise, h⟩ := bind_eq_ok.mp h
    obtain ⟨-, rfl, hquotient⟩ := mulDiv_eq_ok hrise
    split_ifs at h with hsum
    cases h
    exact ⟨rfl, hquotient, hsum⟩
  · rintro ⟨rfl, hquotient, hsum⟩
    have hrise : mulDiv amount q96 liquidity = .ok (amount * q96 / liquidity) := by
      rw [mulDiv, if_neg hpos.ne', narrow, if_pos hquotient]
    exact bind_eq_ok.mpr ⟨_, hrise, if_pos hsum⟩

end Input

section Output

theorem remove1_eq_ok_iff (hpos : 0 < liquidity) (hword : price < Word.size 256) :
    remove1 price liquidity amount = .ok next ↔
      IsGreatest (earned1 price liquidity amount) next := by
  have hgreatest {next : Nat} (h : remove1 price liquidity amount = .ok next) :
      IsGreatest (earned1 price liquidity amount) next := by
    obtain ⟨-, hfall, hnext⟩ := remove1_eq_ok h
    refine ⟨mem_earned1.mpr ⟨by omega, remove1_le h, remove1_earns h⟩, fun q hq => ?_⟩
    obtain ⟨-, hle, hearned⟩ := mem_earned1.mp hq
    exact le_remove1 h hle hearned
  refine ⟨hgreatest, fun h => ?_⟩
  obtain ⟨hone, hle, hearned⟩ := mem_earned1.mp h.1
  obtain ⟨next', hnext'⟩ := exists_remove1 hpos hone hle hword hearned
  rw [hnext', h.unique (hgreatest hnext')]

theorem exists_remove1_iff (hpos : 0 < liquidity) (hword : price < Word.size 256) :
    (∃ next, remove1 price liquidity amount = .ok next) ↔
      (earned1 price liquidity amount).Nonempty := by
  constructor
  · rintro ⟨next, h⟩
    exact ((remove1_eq_ok_iff hpos hword).mp h).nonempty
  · rintro ⟨q, hq⟩
    obtain ⟨hone, hle, hearned⟩ := mem_earned1.mp hq
    exact exists_remove1 hpos hone hle hword hearned

theorem remove0_lt (h : remove0 price liquidity amount = .ok next) (hword : price < Word.size 256) :
    next < Word.size 256 := by
  unfold remove0 at h
  dsimp only at h
  split_ifs at h
  · cases h
    exact hword
  · exact (mulDivUp_eq_ok h).2.2

theorem exists_remove0_iff (hprice : 0 < price) (hpos : 0 < liquidity)
    (hword : price < Word.size 256) :
    (∃ next, remove0 price liquidity amount = .ok next) ↔
      ∃ q ∈ earned0 price liquidity amount, q < Word.size 256 := by
  constructor
  · rintro ⟨next, h⟩
    exact ⟨next, (mem_earned0 hprice).mpr ⟨le_remove0 h, remove0_earns h⟩, remove0_lt h hword⟩
  · rintro ⟨q, hq, hfits⟩
    obtain ⟨hle, hearned⟩ := (mem_earned0 hprice).mp hq
    exact exists_remove0 hprice (Nat.mul_pos hpos (Nat.two_pow_pos 96)) hle hfits hearned

theorem remove0_eq_ok_iff (hprice : 0 < price) (hpos : 0 < liquidity)
    (hword : price < Word.size 256) : remove0 price liquidity amount = .ok next ↔
      IsLeast (earned0 price liquidity amount) next ∧ next < Word.size 256 := by
  have hleast {next : Nat} (h : remove0 price liquidity amount = .ok next) :
      IsLeast (earned0 price liquidity amount) next := by
    refine ⟨(mem_earned0 hprice).mpr ⟨le_remove0 h, remove0_earns h⟩, fun q hq => ?_⟩
    obtain ⟨hle, hearned⟩ := (mem_earned0 hprice).mp hq
    exact remove0_le h hle hearned
  refine ⟨fun h => ⟨hleast h, remove0_lt h hword⟩, fun ⟨h, hfits⟩ => ?_⟩
  obtain ⟨next', hnext'⟩ := (exists_remove0_iff hprice hpos hword).mpr ⟨next, h.1, hfits⟩
  rw [hnext', h.unique (hleast hnext')]

end Output

/-- The next prices are the optimal ones for an amount, and are missing where there are none. -/
structure NextOptimal (price liquidity amount : Nat) : Prop where
  /-- Token 0 paid in always has a next price. -/
  input0 : ∃ next, nextFromInput price liquidity amount true = .ok next ∧
    next ∈ paid0 price liquidity amount ∧
    (amount * price + liquidity * q96 < Word.size 256 →
      IsLeast (paid0 price liquidity amount) next)
  /-- Token 1 paid in has one unless the quotient or the price is too large. -/
  input1 : ∃ top, IsGreatest (paid1 price liquidity amount) top ∧
    (∀ next, nextFromInput price liquidity amount false = .ok next ↔
      next = top ∧ amount * q96 / liquidity < Word.size 256 ∧ top < Word.size 256) ∧
    ((∃ cause, nextFromInput price liquidity amount false = .error cause) ↔
      Word.size 256 ≤ amount * q96 / liquidity ∨ Word.size 256 ≤ top)
  /-- Token 1 paid out has one unless no price earns as much. -/
  output1 : (∀ next, nextFromOutput price liquidity amount true = .ok next ↔
      IsGreatest (earned1 price liquidity amount) next) ∧
    ((∃ cause, nextFromOutput price liquidity amount true = .error cause) ↔
      earned1 price liquidity amount = ∅)
  /-- Token 0 paid out has one unless no price of 256 bits earns as much. -/
  output0 : (∀ next, nextFromOutput price liquidity amount false = .ok next ↔
      IsLeast (earned0 price liquidity amount) next ∧ next < Word.size 256) ∧
    ((∃ cause, nextFromOutput price liquidity amount false = .error cause) ↔
      ∀ q ∈ earned0 price liquidity amount, Word.size 256 ≤ q)

/-- The next prices invert the amounts between prices, at any price and liquidity. -/
theorem next_optimal (hprice : 0 < price) (hword : price < Word.size 256) (hpos : 0 < liquidity)
    (hl : liquidity < Word.size 128) (hamount : amount < Word.size 256) :
    NextOptimal price liquidity amount where
  input0 := by
    have hnumerator : liquidity * q96 < Word.size 256 :=
      (numerator_lt hl).trans (Word.size_lt (by decide))
    obtain ⟨next, h⟩ := exists_add0 hprice hnumerator amount
    refine ⟨next, ?_, add0_mem_paid0 h hprice hpos hl, isLeast_add0 h hprice hpos hl⟩
    rw [nextFromInput, if_neg hprice.ne', if_neg hpos.ne', if_pos rfl, h]
  input1 := by
    have hnext : nextFromInput price liquidity amount false = add1 price liquidity amount := by
      rw [nextFromInput, if_neg hprice.ne', if_neg hpos.ne', if_neg Bool.false_ne_true]
    refine ⟨_, isGreatest_paid1 hpos hamount, ?_, ?_⟩
    · intro next
      rw [hnext, add1_eq_ok_iff hpos]
    · rw [hnext, exists_error_iff]
      simp only [add1_eq_ok_iff hpos, exists_eq_left, not_and_or, not_lt]
  output1 := by
    have hnext : nextFromOutput price liquidity amount true = remove1 price liquidity amount := by
      rw [nextFromOutput, if_neg hprice.ne', if_neg hpos.ne', if_pos rfl]
    rw [hnext, exists_error_iff, exists_remove1_iff hpos hword, Set.not_nonempty_iff_eq_empty]
    exact ⟨fun next => remove1_eq_ok_iff hpos hword, Iff.rfl⟩
  output0 := by
    have hnext : nextFromOutput price liquidity amount false = remove0 price liquidity amount := by
      rw [nextFromOutput, if_neg hprice.ne', if_neg hpos.ne', if_neg Bool.false_ne_true]
    rw [hnext, exists_error_iff, exists_remove0_iff hprice hpos hword]
    refine ⟨fun next => remove0_eq_ok_iff hprice hpos hword, ?_⟩
    push Not
    rfl

theorem next_optimal_par :
    (0 < q96 ∧ q96 < Word.size 256) ∧ (0 < 1000000 ∧ 1000000 < Word.size 128) ∧
      1000 < Word.size 256 ∧ NextOptimal q96 1000000 1000 := by
  have hword : q96 < Word.size 256 := by decide +kernel
  have hl : 1000000 < Word.size 128 := by decide +kernel
  have hamount : 1000 < Word.size 256 := by decide +kernel
  exact ⟨⟨Nat.two_pow_pos 96, hword⟩, ⟨by decide, hl⟩, hamount,
    next_optimal (Nat.two_pow_pos 96) hword (by decide) hl hamount⟩

end LiquidityGraph.Price
