import LiquidityGraph.Proofs.Price.Honest
import LiquidityGraph.Proofs.Swap.Crossing
import Mathlib.Tactic.Ring

/-!
No swap beats the price that it starts from. Each step pays out at most what its input is worth at
the prices between which it moves, and they lie behind the first one: every further output costs
more.
-/
namespace LiquidityGraph

namespace Price

variable {zeroForOne : Bool} {a b start price target liquidity paid paid' earned earned' : Nat}
  {remaining fee : Nat} {s : Step}

/-- What was earned is worth no more than what was paid for it, at a price. -/
def AtMostSpot (zeroForOne : Bool) (price paid earned : Nat) : Prop :=
  if zeroForOne then earned * Word.size 192 ≤ paid * price ^ 2
  else earned * price ^ 2 ≤ paid * Word.size 192

theorem AtMostSpot.nothing (zeroForOne : Bool) (price paid : Nat) :
    AtMostSpot zeroForOne price paid 0 := by
  unfold AtMostSpot
  split_ifs <;> rw [Nat.zero_mul] <;> exact Nat.zero_le _

theorem AtMostSpot.mono (h : AtMostSpot zeroForOne price paid earned) (hle : paid ≤ paid') :
    AtMostSpot zeroForOne price paid' earned := by
  unfold AtMostSpot at h ⊢
  split_ifs at h ⊢
  · exact h.trans (Nat.mul_le_mul_right _ hle)
  · exact h.trans (Nat.mul_le_mul_right _ hle)

theorem AtMostSpot.add (h : AtMostSpot zeroForOne price paid earned)
    (h' : AtMostSpot zeroForOne price paid' earned') :
    AtMostSpot zeroForOne price (paid + paid') (earned + earned') := by
  unfold AtMostSpot at h h' ⊢
  split_ifs at h h' ⊢
  · rw [Nat.add_mul, Nat.add_mul]
    exact Nat.add_le_add h h'
  · rw [Nat.add_mul, Nat.add_mul]
    exact Nat.add_le_add h h'

private theorem q96_mul_q96 : q96 * q96 = Word.size 192 :=
  (Word.size_add 96 96).symm

/-- The output of a move is worth no more than its input, at the geometric mean of its prices. -/
private theorem stepOutput_worth (hin : stepInput zeroForOne a b liquidity = .ok paid)
    (hout : stepOutput zeroForOne a b liquidity = .ok earned) :
    if zeroForOne then earned * Word.size 192 ≤ paid * (a * b)
    else earned * (a * b) ≤ paid * Word.size 192 := by
  unfold stepInput at hin
  unfold stepOutput at hout
  rw [← q96_mul_q96, ← min_mul_max a b]
  split_ifs at hin hout ⊢
  · have hpaid : liquidity * q96 * (max a b - min a b) ≤ paid * min a b * max a b :=
      not_lt.mp (mt (lt_amount0 hin).mpr (lt_irrefl paid))
    have hearned : earned * q96 ≤ liquidity * (max a b - min a b) := (le_amount1 hout).mp le_rfl
    calc earned * (q96 * q96) = earned * q96 * q96 := (Nat.mul_assoc ..).symm
      _ ≤ liquidity * (max a b - min a b) * q96 := Nat.mul_le_mul_right q96 hearned
      _ = liquidity * q96 * (max a b - min a b) := Nat.mul_right_comm ..
      _ ≤ paid * min a b * max a b := hpaid
      _ = paid * (min a b * max a b) := Nat.mul_assoc ..
  · have hpaid : liquidity * (max a b - min a b) ≤ paid * q96 :=
      not_lt.mp (mt (lt_amount1 hin).mpr (lt_irrefl paid))
    have hearned : earned * min a b * max a b ≤ liquidity * q96 * (max a b - min a b) :=
      (le_amount0 hout).mp le_rfl
    calc earned * (min a b * max a b) = earned * min a b * max a b := (Nat.mul_assoc ..).symm
      _ ≤ liquidity * q96 * (max a b - min a b) := hearned
      _ = liquidity * (max a b - min a b) * q96 := Nat.mul_right_comm ..
      _ ≤ paid * q96 * q96 := Nat.mul_le_mul_right q96 hpaid
      _ = paid * (q96 * q96) := Nat.mul_assoc ..

theorem AtMostSpot.of_move (ha : Along zeroForOne start a) (hb : Along zeroForOne start b)
    (hin : stepInput zeroForOne a b liquidity = .ok paid)
    (hout : stepOutput zeroForOne a b liquidity = .ok earned) :
    AtMostSpot zeroForOne start paid earned := by
  have hworth := stepOutput_worth hin hout
  unfold Along at ha hb
  unfold AtMostSpot
  rw [sq]
  split_ifs at ha hb hworth ⊢
  · exact hworth.trans (Nat.mul_le_mul_left paid (Nat.mul_le_mul ha hb))
  · exact (Nat.mul_le_mul_left earned (Nat.mul_le_mul ha hb)).trans hworth

/-- A step from behind a first price, in the direction of the move, does not beat that price. -/
theorem stepExactIn_spot (hstart : Along zeroForOne start price)
    (halong : Along zeroForOne price target)
    (h : stepExactIn price target liquidity remaining fee = .ok s) :
    AtMostSpot zeroForOne start (s.amountIn + s.fee) s.amountOut := by
  have hbetween := stepExactIn_between h
  obtain ⟨hin, hout, -⟩ := stepExactIn_eq_ok h
  by_cases hstill : target = price
  -- a step to its own price has no direction, and earns nothing
  · have hnext : s.next = price := by omega
    rw [hnext] at hout
    rw [stepOutput_self hout]
    exact .nothing zeroForOne start _
  · rw [← halong.direction hstill] at hin hout
    have hnext : Along zeroForOne start s.next := hstart.trans (halong.of_between hbetween)
    exact (AtMostSpot.of_move hstart hnext hin hout).mono (Nat.le_add_right _ _)

end Price

namespace Swap

variable {t : Terms} {s s' : State} {start : Nat} {amount : Int}

/-- What a swap of an exact input keeps: its price lies behind the one that it started from, and
what it has paid and earned so far does not beat that price. -/
structure Terms.Fair (t : Terms) (start : Nat) (amount : Int) (s : State) : Prop where
  within : Price.Within s.tick s.price
  ahead : Price.Along t.zeroForOne s.price t.limit
  behind : Price.Along t.zeroForOne start s.price
  left : 0 ≤ s.remaining
  account : ∃ paid earned : Nat, s.remaining = amount - paid ∧ s.calculated = -earned ∧
    Price.AtMostSpot t.zeroForOne start paid earned

theorem Terms.Fair.advance (hl : t.ticks.Ordered) (hinside : t.Inside)
    (hexact : t.exactInput = true) (hs : t.Fair start amount s) (h : t.advance s = .ok s') :
    t.Fair start amount s' := by
  obtain ⟨hwithin, htarget, hnext⟩ := Terms.advance_within hl hinside hs.ahead hs.within h
  obtain ⟨step, hstep, hremaining, hcalculated, -, -⟩ :=
    Terms.advance_exactIn hexact hs.left h
  have hspent := (Price.stepExactIn_spent hstep).1
  have hinput := hs.left
  have hleft : 0 ≤ s'.remaining := by omega
  have hbehind : Price.Along t.zeroForOne start s'.price := hs.behind.trans hnext
  have hfair := Price.stepExactIn_spot hs.behind htarget hstep
  obtain ⟨paid, earned, hpaid, hearned, haccount⟩ := hs.account
  refine ⟨hwithin, Terms.advance_ahead hs.ahead h, hbehind, hleft,
    paid + (step.amountIn + step.fee), earned + step.amountOut, by omega, by omega, ?_⟩
  exact haccount.add hfair

theorem Terms.Fair.run (hl : t.ticks.Ordered) (hinside : t.Inside) (hexact : t.exactInput = true)
    (hs : t.Fair start amount s) {fuel : Nat} (h : t.run fuel s = .ok s') :
    t.Fair start amount s' :=
  Terms.run_induct (fun ha hab => ha.advance hl hinside hexact hab) hs h

end Swap

namespace Concentrated

/-- A quote is worth no more than the amount in, at the price of the edge. -/
theorem quote_le_spot {e : Concentrated} {ticks : List Tick} {spacing : Int}
    (hticks : TickList.ofList ticks spacing = .ok e.ticks)
    (hwithin : Price.Within e.tick e.price) (amountIn : Nat) :
    if e.zeroForOne then e.quote amountIn * Word.size 192 ≤ amountIn * e.price ^ 2
    else e.quote amountIn * e.price ^ 2 ≤ amountIn * Word.size 192 := by
  change Price.AtMostSpot e.zeroForOne e.price amountIn (e.quote amountIn)
  obtain hnothing | ⟨o, hswap, hpaid⟩ := e.quote_cases amountIn
  · rw [hnothing]
    exact .nothing e.zeroForOne e.price amountIn
  · obtain ⟨hcheck, hrun⟩ := swap_eq_ok hswap
    have hordered : e.ticks.Ordered := (TickList.ofList_eq_ok hticks).1
    have hexact : (e.terms e.zeroForOne amountIn none).exactInput = true :=
      decide_eq_true (Int.natCast_nonneg amountIn)
    have hentry : (e.terms e.zeroForOne amountIn none).Fair e.price amountIn
        (e.entry amountIn) :=
      ⟨hwithin, ahead_entry hcheck, .refl _ _, Int.natCast_nonneg amountIn, 0, 0, by simp [entry],
        rfl, .nothing _ _ _⟩
    have hfair := hentry.run hordered (inside_terms hcheck) hexact hrun
    obtain ⟨paid, earned, hspent, hearned, haccount⟩ := hfair.account
    have hleft := hfair.left
    have hquote : e.quote amountIn = earned := by omega
    rw [hquote]
    exact haccount.mono (by omega)

/-- A tick is crossed on the way. -/
theorem quote_le_spot_banded :
    banded.quote 100000 = 96450 ∧ 96450 * Word.size 192 ≤ 100000 * banded.price ^ 2 := by
  have hquote : banded.quote 100000 = 96450 := by decide +kernel
  have hspot := quote_le_spot ofList_bands within_banded 100000
  rw [hquote] at hspot
  exact ⟨hquote, hspot⟩

end Concentrated

end LiquidityGraph
