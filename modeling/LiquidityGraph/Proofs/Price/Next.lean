import LiquidityGraph.Price.Next
import LiquidityGraph.Proofs.Except
import LiquidityGraph.Proofs.Price.MulDiv
import Mathlib.Tactic.Linarith
import Mathlib.Tactic.Ring

/-!
The price after an amount. However the roundings fall, the price moves no further than what is paid
in pays for, and at least as far as what is paid out costs.
-/
namespace LiquidityGraph.Price

variable {price liquidity amount next target : Nat}

section Add0

/-- Nothing is added, or the new price comes from one of two divisors. -/
inductive Adds0 (price liquidity amount next : Nat) : Prop
  | nothing (amount : amount = 0) (next : next = price)
  | whole (room : liquidity * q96 + amount * price < Word.size 256)
      (pos : 0 < liquidity * q96 + amount * price)
      (next : next = ceilDiv (liquidity * q96 * price) (liquidity * q96 + amount * price))
  | coarse (pos : 0 < amount) (exceeds : Word.size 256 ≤ liquidity * q96 + amount * price)
      (next : next = ceilDiv (liquidity * q96) (liquidity * q96 / price + amount))

theorem adds0_of_ok (h : add0 price liquidity amount = .ok next) :
    Adds0 price liquidity amount next := by
  unfold add0 at h
  simp only at h
  split_ifs at h with hzero hroom
  · cases h
    exact .nothing hzero rfl
  · obtain ⟨hpos, hnext, -⟩ := mulDivUp_eq_ok h
    exact .whole hroom hpos hnext
  · exact .coarse (Nat.pos_of_ne_zero hzero) (not_lt.mp hroom) (narrow_eq_ok h).1

/-- The price falls no lower than to the exact new price. -/
theorem le_mul_add0 (h : add0 price liquidity amount = .ok next) :
    liquidity * q96 * price ≤ next * (liquidity * q96 + amount * price) := by
  cases adds0_of_ok h with
  | nothing hzero hnext =>
    rw [hzero, hnext, Nat.zero_mul, Nat.add_zero, Nat.mul_comm]
  | whole _ hpos hnext => exact (ceilDiv_le hpos).mp hnext.ge
  -- the inner floor makes the divisor smaller, and so the new price higher
  | coarse hamount _ hnext =>
    have hdivisor : 0 < liquidity * q96 / price + amount := Nat.add_pos_right _ hamount
    have hfloor := Nat.div_mul_le_self (liquidity * q96) price
    calc liquidity * q96 * price
        ≤ next * (liquidity * q96 / price + amount) * price :=
          Nat.mul_le_mul_right price ((ceilDiv_le hdivisor).mp hnext.ge)
      _ = next * (liquidity * q96 / price * price + amount * price) := by ring
      _ ≤ next * (liquidity * q96 + amount * price) :=
          Nat.mul_le_mul_left next (Nat.add_le_add_right hfloor _)

theorem add0_le (h : add0 price liquidity amount = .ok next) (hprice : 0 < price) :
    next ≤ price := by
  cases adds0_of_ok h with
  | nothing _ hnext => exact hnext.le
  | whole _ hpos hnext =>
    rw [hnext, ceilDiv_le hpos, Nat.mul_comm]
    exact Nat.mul_le_mul_left price (Nat.le_add_right _ _)
  | coarse hamount _ hnext =>
    have hceil : liquidity * q96 < (liquidity * q96 / price + 1) * price := by
      rw [Nat.add_mul, Nat.one_mul]
      exact Nat.lt_div_mul_add hprice
    rw [hnext, ceilDiv_le (Nat.add_pos_right _ hamount), Nat.mul_comm price]
    exact hceil.le.trans (Nat.mul_le_mul_right price (Nat.add_le_add_left hamount _))

/-- The move that an amount of token 0 pays for. -/
theorem add0_spends (h : add0 price liquidity amount = .ok next) (hprice : 0 < price) :
    liquidity * q96 * (price - next) ≤ amount * next * price := by
  have hexact := le_mul_add0 h
  obtain ⟨d, rfl⟩ := Nat.exists_eq_add_of_le (add0_le h hprice)
  rw [Nat.add_sub_cancel_left]
  linarith

theorem le_add0 (h : add0 price liquidity amount = .ok next) (htarget : target ≤ price)
    (hshort : amount * target * price < liquidity * q96 * (price - target)) : target ≤ next := by
  have hexact := le_mul_add0 h
  obtain ⟨d, rfl⟩ := Nat.exists_eq_add_of_le htarget
  rw [Nat.add_sub_cancel_left] at hshort
  generalize liquidity * q96 = numerator at *
  have hlt : target * (numerator + amount * (target + d)) <
      next * (numerator + amount * (target + d)) := by linarith
  exact (Nat.lt_of_mul_lt_mul_right hlt).le

/-- More of token 0 leads to a lower price, also from one divisor to the other. -/
theorem add0_anti {more lower : Nat} (h : add0 price liquidity amount = .ok next)
    (h' : add0 price liquidity more = .ok lower) (hprice : 0 < price) (hle : amount ≤ more) :
    lower ≤ next := by
  have hexact := le_mul_add0 h
  have hproduct : amount * price ≤ more * price := Nat.mul_le_mul_right price hle
  cases adds0_of_ok h' with
  | nothing hzero hlower =>
    rw [hzero, Nat.le_zero] at hle
    rw [hle] at h
    cases h
    exact hlower.le
  | whole _ hpos hlower =>
    rw [hlower, ceilDiv_le hpos]
    exact hexact.trans (Nat.mul_le_mul_left next (Nat.add_le_add_left hproduct _))
  | coarse hmore _ hlower =>
    rw [hlower, ceilDiv_le (Nat.add_pos_right _ hmore)]
    obtain rfl | hlt := hle.eq_or_lt
    · cases h.symm.trans h'
      exact (ceilDiv_le (Nat.add_pos_right _ hmore)).mp hlower.ge
    -- one more unit outweighs what the floor of the coarse divisor loses
    · have hceil : liquidity * q96 ≤ (liquidity * q96 / price + 1) * price := by
        rw [Nat.add_mul, Nat.one_mul]
        exact (Nat.lt_div_mul_add hprice).le
      refine Nat.le_of_mul_le_mul_right (c := price) ?_ hprice
      calc liquidity * q96 * price
          ≤ next * (liquidity * q96 + amount * price) := hexact
        _ ≤ next * ((liquidity * q96 / price + 1) * price + amount * price) :=
            Nat.mul_le_mul_left next (Nat.add_le_add_right hceil _)
        _ = next * (liquidity * q96 / price + (amount + 1)) * price := by ring
        _ ≤ next * (liquidity * q96 / price + more) * price :=
            Nat.mul_le_mul_right price (Nat.mul_le_mul_left next (Nat.add_le_add_left hlt _))

theorem exists_add0 (hprice : 0 < price) (hnumerator : liquidity * q96 < Word.size 256)
    (amount : Nat) : ∃ next, add0 price liquidity amount = .ok next := by
  unfold add0
  dsimp only
  split_ifs with hzero hroom
  · exact ⟨price, rfl⟩
  · have hamount : price ≤ amount * price :=
      Nat.le_mul_of_pos_left price (Nat.pos_of_ne_zero hzero)
    exact exists_mulDivUp (by omega) (Nat.mul_le_mul_left _ (by omega)) hnumerator
  · have hdivisor : 0 < liquidity * q96 / price + amount :=
      Nat.add_pos_right _ (Nat.pos_of_ne_zero hzero)
    have hle : ceilDiv (liquidity * q96) (liquidity * q96 / price + amount) ≤ liquidity * q96 :=
      (ceilDiv_le hdivisor).mpr (Nat.le_mul_of_pos_right _ hdivisor)
    rw [narrow, if_pos (hle.trans_lt hnumerator)]
    exact ⟨_, rfl⟩

end Add0

section Remove0

/-- Nothing is removed, or less than all there is. -/
inductive Removes0 (price liquidity amount next : Nat) : Prop
  | nothing (amount : amount = 0) (next : next = price)
  | part (room : amount * price < liquidity * q96)
      (next : next = ceilDiv (liquidity * q96 * price) (liquidity * q96 - amount * price))

theorem removes0_of_ok (h : remove0 price liquidity amount = .ok next) :
    Removes0 price liquidity amount next := by
  unfold remove0 at h
  simp only at h
  split_ifs at h with hzero hover
  · cases h
    exact .nothing hzero rfl
  · exact .part (not_le.mp hover) (mulDivUp_eq_ok h).2.1

theorem le_remove0 (h : remove0 price liquidity amount = .ok next) : price ≤ next := by
  cases removes0_of_ok h with
  | nothing _ hnext => exact hnext.ge
  | part hroom hnext =>
    rw [hnext, Nat.mul_comm]
    exact le_ceilDiv (Nat.sub_pos_of_lt hroom) (Nat.mul_le_mul_left price (Nat.sub_le _ _))

theorem remove0_earns (h : remove0 price liquidity amount = .ok next) :
    amount * price * next ≤ liquidity * q96 * (next - price) := by
  have hle := le_remove0 h
  cases removes0_of_ok h with
  | nothing hzero _ => simp [hzero]
  | part hroom hnext =>
    have hexact := (ceilDiv_le (Nat.sub_pos_of_lt hroom)).mp hnext.ge
    obtain ⟨d, rfl⟩ := Nat.exists_eq_add_of_le hle
    obtain ⟨m, hm⟩ := Nat.exists_eq_add_of_lt hroom
    rw [Nat.add_sub_cancel_left]
    rw [hm, Nat.add_assoc, Nat.add_sub_cancel_left] at hexact
    rw [hm]
    linarith

theorem mul_le_rest {numerator : Nat} (htarget : price ≤ target)
    (hroom : amount * price ≤ numerator)
    (hshort : amount * price * target ≤ numerator * (target - price)) :
    numerator * price ≤ target * (numerator - amount * price) := by
  obtain ⟨d, rfl⟩ := Nat.exists_eq_add_of_le htarget
  obtain ⟨m, rfl⟩ := Nat.exists_eq_add_of_le hroom
  rw [Nat.add_sub_cancel_left] at hshort ⊢
  linarith

theorem remove0_le (h : remove0 price liquidity amount = .ok next) (htarget : price ≤ target)
    (hshort : amount * price * target ≤ liquidity * q96 * (target - price)) : next ≤ target := by
  cases removes0_of_ok h with
  | nothing _ hnext => exact hnext.le.trans htarget
  | part hroom hnext =>
    rw [hnext, ceilDiv_le (Nat.sub_pos_of_lt hroom)]
    exact mul_le_rest htarget hroom.le hshort

theorem exists_remove0 (hprice : 0 < price) (hnumerator : 0 < liquidity * q96)
    (htarget : price ≤ target) (ht : target < Word.size 256)
    (hshort : amount * price * target ≤ liquidity * q96 * (target - price)) :
    ∃ next, remove0 price liquidity amount = .ok next := by
  have hroom : amount * price < liquidity * q96 := by
    have hless : liquidity * q96 * (target - price) < liquidity * q96 * target :=
      Nat.mul_lt_mul_of_pos_left (by omega) hnumerator
    exact Nat.lt_of_mul_lt_mul_right (hshort.trans_lt hless)
  unfold remove0
  dsimp only
  split_ifs with hzero hover
  · exact ⟨price, rfl⟩
  · exact absurd hroom (not_lt.mpr hover)
  · exact exists_mulDivUp (Nat.sub_pos_of_lt hroom) (mul_le_rest htarget hroom.le hshort) ht

end Remove0

section Token1

theorem add1_eq_ok (h : add1 price liquidity amount = .ok next) :
    0 < liquidity ∧ next = price + amount * q96 / liquidity := by
  obtain ⟨rise, hrise, h⟩ := bind_eq_ok.mp h
  obtain ⟨hl, rfl, -⟩ := mulDiv_eq_ok hrise
  split_ifs at h
  cases h
  exact ⟨hl, rfl⟩

theorem le_add1 (h : add1 price liquidity amount = .ok next) : price ≤ next := by
  obtain ⟨-, rfl⟩ := add1_eq_ok h
  exact Nat.le_add_right _ _

/-- The move that an amount of token 1 pays for. -/
theorem add1_spends (h : add1 price liquidity amount = .ok next) :
    liquidity * (next - price) ≤ amount * q96 := by
  obtain ⟨-, rfl⟩ := add1_eq_ok h
  rw [Nat.add_sub_cancel_left]
  exact Nat.mul_div_le _ _

theorem add1_le (h : add1 price liquidity amount = .ok next) (htarget : price ≤ target)
    (hshort : amount * q96 ≤ liquidity * (target - price)) : next ≤ target := by
  obtain ⟨-, rfl⟩ := add1_eq_ok h
  have hrise : amount * q96 / liquidity ≤ target - price := Nat.div_le_of_le_mul hshort
  omega

theorem add1_mono {more higher : Nat} (h : add1 price liquidity amount = .ok next)
    (h' : add1 price liquidity more = .ok higher) (hle : amount ≤ more) : next ≤ higher := by
  obtain ⟨-, rfl⟩ := add1_eq_ok h
  obtain ⟨-, rfl⟩ := add1_eq_ok h'
  exact Nat.add_le_add_left (Nat.div_le_div_right (Nat.mul_le_mul_right q96 hle)) price

theorem exists_add1 (hl : 0 < liquidity) (htarget : price ≤ target) (ht : target < Word.size 256)
    (hshort : amount * q96 ≤ liquidity * (target - price)) :
    ∃ next, add1 price liquidity amount = .ok next := by
  obtain ⟨rise, hrise⟩ := exists_mulDiv hl (Nat.mul_comm liquidity _ ▸ hshort) (by omega)
  have hle : rise ≤ target - price := (mulDiv_eq_ok hrise).2.1 ▸ Nat.div_le_of_le_mul hshort
  have hfits : price + rise < Word.size 256 := by omega
  exact ⟨price + rise, bind_eq_ok.mpr ⟨rise, hrise, if_pos hfits⟩⟩

theorem remove1_eq_ok (h : remove1 price liquidity amount = .ok next) :
    0 < liquidity ∧ ceilDiv (amount * q96) liquidity < price ∧
      next = price - ceilDiv (amount * q96) liquidity := by
  obtain ⟨fall, hfall, h⟩ := bind_eq_ok.mp h
  obtain ⟨hl, rfl, -⟩ := mulDivUp_eq_ok hfall
  split_ifs at h with hover
  cases h
  exact ⟨hl, not_le.mp hover, rfl⟩

theorem remove1_le (h : remove1 price liquidity amount = .ok next) : next ≤ price := by
  obtain ⟨-, -, rfl⟩ := remove1_eq_ok h
  exact Nat.sub_le _ _

theorem remove1_earns (h : remove1 price liquidity amount = .ok next) :
    amount * q96 ≤ liquidity * (price - next) := by
  obtain ⟨hl, hfall, rfl⟩ := remove1_eq_ok h
  rw [Nat.sub_sub_self hfall.le, Nat.mul_comm liquidity]
  exact (ceilDiv_le hl).mp le_rfl

theorem le_remove1 (h : remove1 price liquidity amount = .ok next) (htarget : target ≤ price)
    (hshort : amount * q96 ≤ liquidity * (price - target)) : target ≤ next := by
  obtain ⟨hl, -, rfl⟩ := remove1_eq_ok h
  have hfall : ceilDiv (amount * q96) liquidity ≤ price - target :=
    (ceilDiv_le hl).mpr (Nat.mul_comm liquidity _ ▸ hshort)
  omega

theorem exists_remove1 (hl : 0 < liquidity) (hpos : 0 < target) (htarget : target ≤ price)
    (hprice : price < Word.size 256)
    (hshort : amount * q96 ≤ liquidity * (price - target)) :
    ∃ next, remove1 price liquidity amount = .ok next := by
  have hless : amount * q96 ≤ (price - target) * liquidity := Nat.mul_comm liquidity _ ▸ hshort
  obtain ⟨fall, hfall⟩ := exists_mulDivUp hl hless (by omega)
  have hle : fall ≤ price - target := (mulDivUp_eq_ok hfall).2.1 ▸ (ceilDiv_le hl).mpr hless
  have hroom : ¬ price ≤ fall := by omega
  exact ⟨price - fall, bind_eq_ok.mpr ⟨fall, hfall, if_neg hroom⟩⟩

end Token1

end LiquidityGraph.Price
