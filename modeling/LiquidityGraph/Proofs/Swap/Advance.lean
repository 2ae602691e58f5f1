import LiquidityGraph.Edge.Swap
import LiquidityGraph.Proofs.Except
import LiquidityGraph.Proofs.Price.Step
import LiquidityGraph.Proofs.Price.TickRatio
import LiquidityGraph.Proofs.Word
import Mathlib.Tactic.SplitIfs
import Mathlib.Order.Basic
import Mathlib.Order.Nat

/-! What one advance of a swap does, and how far the amounts of a swap can go. -/
namespace LiquidityGraph

namespace Swap

/-- What the next advance finds: a tick, and whether it is initialized. -/
def Terms.found (t : Terms) (s : State) : Int × Bool :=
  t.ticks.next s.tick t.zeroForOne t.ticks.spacing

theorem Terms.next_eq_found {t : Terms} {down : Bool} (h : t.zeroForOne = down) (s : State) :
    t.ticks.next s.tick down t.ticks.spacing = ((t.found s).1, (t.found s).2) := by
  rw [← h]
  rfl

def Terms.tickNext (t : Terms) (s : State) : Int :=
  max Price.minTick (min (t.found s).1 Price.maxTick)

def Terms.target (t : Terms) (s : State) : Nat :=
  if t.zeroForOne then max (Price.ratio (t.tickNext s)) t.limit
  else min (Price.ratio (t.tickNext s)) t.limit

/-- An advance arrives at the tick that it heads for, or it stays between two ticks. -/
inductive Terms.Lands (t : Terms) (s s' : State) : Prop
  | arrives (price : s'.price = Price.ratio (t.tickNext s))
      (tick : s'.tick = if t.zeroForOne then t.tickNext s - 1 else t.tickNext s)
      (liquidity : if (t.found s).2 then t.cross s.liquidity (t.tickNext s) = .ok s'.liquidity
        else s'.liquidity = s.liquidity)
  | stays (price : s'.price ≠ Price.ratio (t.tickNext s))
      (tick : if s'.price = s.price then s'.tick = s.tick
        else Price.tickAt s'.price = .ok s'.tick)
      (liquidity : s'.liquidity = s.liquidity)

theorem Terms.tickNext_range (t : Terms) (s : State) :
    Price.minTick ≤ t.tickNext s ∧ t.tickNext s ≤ Price.maxTick := by
  unfold Terms.tickNext Price.minTick Price.maxTick
  omega

@[simp] theorem lift_eq_ok {α : Type} {x : Except PriceError α} {a : α} :
    (liftM x : Except SwapError α) = .ok a ↔ x = .ok a :=
  mapError_eq_ok

/-- The net of a tick that is crossed is exact: where its negation does not fit, nothing is. -/
theorem Terms.crossing_eq_ok {t : Terms} {tick delta : Int} (h : t.crossing tick = .ok delta) :
    delta = if t.zeroForOne then -(t.ticks.get tick).net else (t.ticks.get tick).net := by
  unfold Terms.crossing at h
  dsimp only at h
  split_ifs at h ⊢
  · cases hneg : Word.signed? 128 (-(t.ticks.get tick).net) with
    | none =>
      rw [hneg] at h
      cases h
    | some v =>
      rw [hneg] at h
      cases h
      exact (Word.signed?_eq_some hneg).1
  · cases h
    rfl

theorem Terms.cross_eq_ok {t : Terms} {liquidity liquidity' : Nat} {tick : Int}
    (h : t.cross liquidity tick = .ok liquidity') :
    (liquidity' : Int) = liquidity +
        (if t.zeroForOne then -(t.ticks.get tick).net else (t.ticks.get tick).net) ∧
      liquidity' < Word.size 128 := by
  obtain ⟨delta, hdelta, h⟩ := bind_eq_ok.mp h
  rw [← Terms.crossing_eq_ok hdelta]
  exact Price.addDelta_eq_ok (lift_eq_ok.mp h)

/-- All that an advance does. -/
theorem Terms.advance_eq_ok {t : Terms} {s s' : State} (h : t.advance s = .ok s') :
    ∃ step, Price.step s.price (t.target s) s.liquidity s.remaining t.fee = .ok step ∧
      t.book s step = .ok (s'.remaining, s'.calculated) ∧ s'.price = step.next ∧ t.Lands s s' := by
  have hratio : Price.ratioAt (t.tickNext s) = .ok (Price.ratio (t.tickNext s)) :=
    Price.ratioAt_of_range (t.tickNext_range s).1 (t.tickNext_range s).2
  obtain ⟨_, hr, h⟩ := bind_eq_ok.mp h
  cases hratio.symm.trans (lift_eq_ok.mp hr)
  obtain ⟨step, hstep, h⟩ := bind_eq_ok.mp h
  obtain ⟨⟨remaining, calculated⟩, hbook, h⟩ := bind_eq_ok.mp h
  refine ⟨step, lift_eq_ok.mp hstep, ?_⟩
  have hbook := lift_eq_ok.mp hbook
  let tick := if t.zeroForOne then t.tickNext s - 1 else t.tickNext s
  change (if step.next = Price.ratio (t.tickNext s) then
      if (t.found s).2 = true then
        t.cross s.liquidity (t.tickNext s) >>= fun liquidity =>
          .ok ⟨remaining, calculated, step.next, tick, liquidity⟩
      else .ok ⟨remaining, calculated, step.next, tick, s.liquidity⟩
    else if step.next = s.price then .ok ⟨remaining, calculated, step.next, s.tick, s.liquidity⟩
    else liftM (Price.tickAt step.next) >>= fun tick =>
      .ok ⟨remaining, calculated, step.next, tick, s.liquidity⟩) = .ok s' at h
  split_ifs at h with harrive hfound hmove
  · obtain ⟨liquidity, hl, h⟩ := bind_eq_ok.mp h
    cases h
    exact ⟨hbook, rfl, .arrives harrive rfl (by rw [if_pos hfound]; exact hl)⟩
  · cases h
    exact ⟨hbook, rfl, .arrives harrive rfl (by rw [if_neg hfound])⟩
  · cases h
    exact ⟨hbook, rfl, .stays harrive (by rw [if_pos hmove]) rfl⟩
  · obtain ⟨tick, ht, h⟩ := bind_eq_ok.mp h
    cases h
    exact ⟨hbook, rfl, .stays harrive (by rw [if_neg hmove]; exact lift_eq_ok.mp ht) rfl⟩

/-- What holds at the start of a swap, and is kept by each advance, holds at its end. -/
theorem Terms.run_induct {t : Terms} {P : State → Prop}
    (hstep : ∀ {s s'}, P s → t.advance s = .ok s' → P s') {fuel : Nat} {s o : State}
    (h : P s) (hrun : t.run fuel s = .ok o) : P o := by
  induction fuel generalizing s with
  | zero =>
    cases hrun
    exact h
  | succ fuel ih =>
    unfold Terms.run at hrun
    split_ifs at hrun
    · obtain ⟨s', hs', hrun⟩ := bind_eq_ok.mp hrun
      exact ih (hstep h hs') hrun
    · cases hrun
      exact h

theorem signed_eq_ok {n : Nat} {v : Int} (h : signed n = .ok v) : v = n := by
  unfold signed at h
  split_ifs at h
  cases h
  rfl

theorem checked_eq_ok {i v : Int} (h : checked i = .ok v) :
    v = i ∧ -(Word.size 255 : Int) ≤ v ∧ v < Word.size 255 := by
  unfold checked at h
  cases hv : Word.signed? 256 i with
  | none =>
    rw [hv] at h
    cases h
  | some w =>
    rw [hv] at h
    cases h
    exact Word.signed?_eq_some hv

/-- What is booked is exact, and what remains and what a swap has come to fit signed words. -/
theorem Terms.book_eq_ok {t : Terms} {s : State} {step : Price.Step} {remaining calculated : Int}
    (h : t.book s step = .ok (remaining, calculated)) :
    (if t.exactInput then
      remaining = s.remaining - (step.amountIn + step.fee : Nat) ∧
        calculated = s.calculated - step.amountOut
    else
      remaining = s.remaining + step.amountOut ∧
        calculated = s.calculated + (step.amountIn + step.fee : Nat)) ∧
      (-(Word.size 255 : Int) ≤ remaining ∧ remaining < Word.size 255) ∧
      -(Word.size 255 : Int) ≤ calculated ∧ calculated < Word.size 255 := by
  unfold Terms.book at h
  split_ifs at h ⊢
  · obtain ⟨paid, hpaid, h⟩ := bind_eq_ok.mp h
    obtain ⟨r, hr, h⟩ := bind_eq_ok.mp h
    obtain ⟨earned, hearned, h⟩ := bind_eq_ok.mp h
    obtain ⟨c, hc, h⟩ := bind_eq_ok.mp h
    cases h
    rw [← signed_eq_ok hpaid, ← signed_eq_ok hearned]
    exact ⟨⟨(checked_eq_ok hr).1, (checked_eq_ok hc).1⟩, (checked_eq_ok hr).2, (checked_eq_ok hc).2⟩
  · obtain ⟨earned, hearned, h⟩ := bind_eq_ok.mp h
    obtain ⟨r, hr, h⟩ := bind_eq_ok.mp h
    obtain ⟨paid, hpaid, h⟩ := bind_eq_ok.mp h
    obtain ⟨c, hc, h⟩ := bind_eq_ok.mp h
    cases h
    rw [← signed_eq_ok hpaid, ← signed_eq_ok hearned]
    exact ⟨⟨(checked_eq_ok hr).1, (checked_eq_ok hc).1⟩, (checked_eq_ok hr).2, (checked_eq_ok hc).2⟩

variable {t : Terms} {s s' : State}

theorem Terms.minTick_lt_tickNext (h : Price.minRatio < Price.ratio (t.tickNext s)) :
    Price.minTick < t.tickNext s := by
  rw [← Price.ratio_minTick] at h
  exact Price.lt_of_ratio_lt (t.tickNext_range s).1 (by decide) h

theorem Terms.tickNext_lt_maxTick (h : Price.ratio (t.tickNext s) < Price.maxRatio) :
    t.tickNext s < Price.maxTick := by
  rw [← Price.ratio_maxTick] at h
  exact Price.lt_of_ratio_lt (by decide) (t.tickNext_range s).2 h

/-- The limit lies inside the supported range, at the end that a swap moves to. -/
def Terms.Inside (t : Terms) : Prop :=
  if t.zeroForOne then Price.minRatio < t.limit else t.limit < Price.maxRatio

theorem Terms.advance_ahead (hahead : Price.Along t.zeroForOne s.price t.limit)
    (h : t.advance s = .ok s') : Price.Along t.zeroForOne s'.price t.limit := by
  obtain ⟨step, hstep, -, hprice, -⟩ := Terms.advance_eq_ok h
  have hbetween := Price.step_between hstep
  rw [← hprice] at hbetween
  unfold Terms.target at hbetween
  unfold Price.Along at hahead ⊢
  split_ifs at hahead hbetween ⊢ <;> omega

/-- The tick stays as it was, or it is one of the supported range or the one below. -/
theorem Terms.Lands.tick_range (h : t.Lands s s') :
    s'.tick = s.tick ∨ Price.minTick - 1 ≤ s'.tick ∧ s'.tick ≤ Price.maxTick := by
  obtain ⟨hmin, hmax⟩ := t.tickNext_range s
  cases h with
  | arrives _ htick _ =>
    right
    rw [htick]
    split_ifs <;> omega
  | stays _ htick _ =>
    split_ifs at htick
    · exact .inl htick
    · have hfloor := Price.tickAt_eq_ok htick
      have hlow := hfloor.min_le
      have hhigh := hfloor.lt_max
      omega

/-- What an advance of a swap with an exact input books. -/
theorem Terms.advance_exactIn (hexact : t.exactInput = true) (hr : 0 ≤ s.remaining)
    (h : t.advance s = .ok s') :
    ∃ step, Price.stepExactIn s.price (t.target s) s.liquidity s.remaining.natAbs t.fee = .ok step ∧
      s'.remaining = s.remaining - (step.amountIn + step.fee : Nat) ∧
      s'.calculated = s.calculated - step.amountOut ∧ s'.price = step.next ∧ t.Lands s s' := by
  obtain ⟨step, hstep, hbook, hprice, hlands⟩ := Terms.advance_eq_ok h
  obtain ⟨hbooked, -, -⟩ := Terms.book_eq_ok hbook
  rw [if_pos hexact] at hbooked
  obtain ⟨a, ha⟩ := Int.eq_ofNat_of_zero_le hr
  rw [ha] at hstep ⊢
  exact ⟨step, hstep, ha ▸ hbooked.1, hbooked.2, hprice, hlands⟩

/-- What an advance of a swap with an exact output pays out of it. -/
theorem Terms.advance_exactOut (hexact : t.exactInput = false) (hr : s.remaining < 0)
    (h : t.advance s = .ok s') :
    ∃ step, Price.stepExactOut s.price (t.target s) s.liquidity s.remaining.natAbs t.fee =
        .ok step ∧
      s'.remaining = s.remaining + step.amountOut ∧ s'.price = step.next := by
  obtain ⟨step, hstep, hbook, hprice, -⟩ := Terms.advance_eq_ok h
  obtain ⟨hbooked, -, -⟩ := Terms.book_eq_ok hbook
  rw [hexact, if_neg Bool.false_ne_true] at hbooked
  obtain ⟨a, ha⟩ := Int.eq_negSucc_of_lt_zero hr
  rw [ha] at hstep ⊢
  exact ⟨step, hstep, ha ▸ hbooked.1, hprice⟩

/-- An amount of the sign that the terms say, or none. -/
def Terms.Owes (t : Terms) (s : State) : Prop :=
  if t.exactInput then 0 ≤ s.remaining else s.remaining ≤ 0

/-- What remains keeps its sign, and an advance that stops short of its target uses it up. -/
theorem Terms.advance_used (howes : t.Owes s) (hr : s.remaining ≠ 0) (h : t.advance s = .ok s') :
    t.Owes s' ∧ (s'.price ≠ t.target s → s'.remaining = 0) := by
  unfold Terms.Owes at howes ⊢
  cases hexact : t.exactInput with
  | true =>
    rw [if_pos hexact] at howes
    obtain ⟨step, hstep, hremaining, -, hprice, -⟩ := Terms.advance_exactIn hexact howes h
    obtain ⟨hspent, hshort⟩ := Price.stepExactIn_spent hstep
    rw [if_pos rfl, hprice]
    refine ⟨by omega, fun hne => ?_⟩
    have hall := hshort hne
    omega
  | false =>
    rw [hexact, if_neg Bool.false_ne_true] at howes
    obtain ⟨step, hstep, hremaining, hprice⟩ :=
      Terms.advance_exactOut hexact (lt_of_le_of_ne howes hr) h
    obtain ⟨hpaid, hshort⟩ := Price.stepExactOut_paid hstep
    rw [if_neg Bool.false_ne_true, hprice]
    refine ⟨by omega, fun hne => ?_⟩
    have hall := hshort hne
    omega

end Swap

namespace Concentrated

def terms (e : Concentrated) (zeroForOne : Bool) (amount : Int) (limit : Option Nat) :
    Swap.Terms :=
  ⟨zeroForOne, 0 ≤ amount, limit.getD (Swap.defaultLimit zeroForOne), e.fee, e.ticks⟩

def entry (e : Concentrated) (amount : Int) : Swap.State :=
  ⟨amount, 0, e.price, e.tick, e.liquidity⟩

variable {e : Concentrated} {zeroForOne : Bool} {amount : Int} {limit : Option Nat}

theorem swap_eq (e : Concentrated) (zeroForOne : Bool) (amount : Int) (limit : Option Nat) :
    e.swap zeroForOne amount limit =
      Swap.checkLimit zeroForOne e.price (e.terms zeroForOne amount limit).limit >>= fun _ =>
        (e.terms zeroForOne amount limit).run Swap.maxAdvances (e.entry amount) :=
  rfl

theorem swap_eq_ok {o : Swap.State} (h : e.swap zeroForOne amount limit = .ok o) :
    Swap.checkLimit zeroForOne e.price (e.terms zeroForOne amount limit).limit = .ok () ∧
      (e.terms zeroForOne amount limit).run Swap.maxAdvances (e.entry amount) = .ok o := by
  rw [swap_eq] at h
  obtain ⟨⟨⟩, hlimit, hrun⟩ := bind_eq_ok.mp h
  exact ⟨hlimit, hrun⟩

/-- A quote is what a swap pays out, or nothing. -/
theorem quote_cases (e : Concentrated) (amountIn : Nat) :
    e.quote amountIn = 0 ∨ ∃ o : Swap.State, e.swap e.zeroForOne amountIn none = .ok o ∧
      e.quote amountIn = (-o.calculated).toNat := by
  unfold quote quote?
  split_ifs
  · cases hswap : e.swap e.zeroForOne amountIn none with
    | error cause => cases cause <;> exact .inl rfl
    | ok o => exact .inr ⟨o, rfl, rfl⟩
  · exact .inl rfl

end Concentrated

end LiquidityGraph
