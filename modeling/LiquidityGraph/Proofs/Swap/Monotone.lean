import LiquidityGraph.Proofs.Price.Step
import LiquidityGraph.Proofs.Swap.Crossing

/-!
Swapping in more never gets out less. Two swaps that differ in the amount go the same way until
the smaller amount is used up, and from then on the other one only earns.
-/
namespace LiquidityGraph

namespace Swap

variable {t : Terms} {s o o' : State} {r r' : Int}

def State.withRemaining (s : State) (r : Int) : State :=
  { s with remaining := r }

theorem Terms.Lands.of_withRemaining (h : t.Lands (s.withRemaining r) o) : t.Lands s o := by
  cases h with
  | arrives hat htick hliquidity => exact .arrives hat htick hliquidity
  | stays hoff htick hliquidity => exact .stays hoff htick hliquidity

/-- The price that is reached tells the rest of where an advance lands. -/
theorem Terms.Lands.unique (h : t.Lands s o) (h' : t.Lands s o') (hprice : o'.price = o.price) :
    o'.tick = o.tick ∧ o'.liquidity = o.liquidity := by
  cases h with
  | arrives hat htick hliquidity =>
    cases h' with
    | arrives _ htick' hliquidity' =>
      refine ⟨htick'.trans htick.symm, ?_⟩
      split_ifs at hliquidity hliquidity'
      · exact Except.ok.inj (hliquidity'.symm.trans hliquidity)
      · exact hliquidity'.trans hliquidity.symm
    | stays hoff' => exact absurd (hprice.trans hat) hoff'
  | stays hoff htick hliquidity =>
    cases h' with
    | arrives hat' => exact absurd (hprice.symm.trans hat') hoff
    | stays _ htick' hliquidity' =>
      refine ⟨?_, hliquidity'.trans hliquidity.symm⟩
      rw [hprice] at htick'
      split_ifs at htick htick'
      · exact htick'.trans htick.symm
      · exact Except.ok.inj (htick'.symm.trans htick)

/-- What remains of an exact input never goes below zero, and what comes out never falls. -/
theorem Terms.advance_earns (hexact : t.exactInput = true) (hr : 0 ≤ s.remaining)
    (h : t.advance s = .ok o) : 0 ≤ o.remaining ∧ o.calculated ≤ s.calculated := by
  obtain ⟨step, hstep, hremaining, hcalculated, -, -⟩ := Terms.advance_exactIn hexact hr h
  have hspent := (Price.stepExactIn_spent hstep).1
  omega

theorem Terms.run_earns (hexact : t.exactInput = true) (hr : 0 ≤ s.remaining) {fuel : Nat}
    (h : t.run fuel s = .ok o) : o.calculated ≤ s.calculated := by
  refine (Terms.run_induct (P := fun x => 0 ≤ x.remaining ∧ x.calculated ≤ s.calculated) ?_
    ⟨hr, le_rfl⟩ h).2
  rintro a b ⟨ha, hle⟩ hab
  obtain ⟨hb, hearned⟩ := Terms.advance_earns hexact ha hab
  exact ⟨hb, hearned.trans hle⟩

/-- One advance with two amounts: both go the same way, or the smaller amount is used up. -/
theorem Terms.advance_mono (hexact : t.exactInput = true) (hr : 0 ≤ r) (hle : r ≤ r')
    (h : t.advance (s.withRemaining r) = .ok o) (h' : t.advance (s.withRemaining r') = .ok o') :
    o' = o.withRemaining o'.remaining ∧ o.remaining ≤ o'.remaining ∨
      o.remaining = 0 ∧ o'.calculated ≤ o.calculated := by
  obtain ⟨step, hstep, hremaining, hcalculated, hprice, hlands⟩ :=
    Terms.advance_exactIn hexact hr h
  obtain ⟨step', hstep', hremaining', hcalculated', hprice', hlands'⟩ :=
    Terms.advance_exactIn hexact (hr.trans hle) h'
  change o.remaining = r - _ at hremaining
  change o'.remaining = r' - _ at hremaining'
  change o.calculated = s.calculated - _ at hcalculated
  change o'.calculated = s.calculated - _ at hcalculated'
  have hamounts : r.natAbs ≤ r'.natAbs := by omega
  obtain rfl | ⟨htotal, hout⟩ := Price.stepExactIn_mono hamounts hstep hstep'
  · left
    obtain ⟨htick, hliquidity⟩ :=
      hlands.of_withRemaining.unique hlands'.of_withRemaining (hprice'.trans hprice.symm)
    refine ⟨?_, by omega⟩
    obtain ⟨_, _, _, _, _⟩ := o
    obtain ⟨_, _, _, _, _⟩ := o'
    dsimp only at *
    subst htick hliquidity hprice hprice' hcalculated hcalculated'
    rfl
  · change step.amountIn + step.fee = r.natAbs at htotal
    exact .inr ⟨by omega, by omega⟩

theorem Terms.run_spent (h : s.remaining = 0) (fuel : Nat) : t.run fuel s = .ok s := by
  cases fuel with
  | zero => rfl
  | succ fuel =>
    have hlive : t.live s = false := by simp [Terms.live, h]
    rw [Terms.run, hlive, if_neg Bool.false_ne_true]

theorem Terms.run_mono (hexact : t.exactInput = true) {fuel : Nat} (hr : 0 ≤ r) (hle : r ≤ r')
    (h : t.run fuel (s.withRemaining r) = .ok o) (h' : t.run fuel (s.withRemaining r') = .ok o') :
    o'.calculated ≤ o.calculated := by
  induction fuel generalizing s r r' with
  | zero =>
    cases h
    cases h'
    exact le_rfl
  | succ fuel ih =>
    by_cases hlive : t.live (s.withRemaining r) = true
    · have hlive' : t.live (s.withRemaining r') = true := by
        simp only [Terms.live, State.withRemaining, Bool.and_eq_true, bne_iff_ne] at hlive ⊢
        exact ⟨by omega, hlive.2⟩
      rw [Terms.run, if_pos hlive] at h
      rw [Terms.run, if_pos hlive'] at h'
      obtain ⟨m, hm, h⟩ := bind_eq_ok.mp h
      obtain ⟨m', hm', h'⟩ := bind_eq_ok.mp h'
      obtain ⟨hstay, -⟩ := Terms.advance_earns hexact hr hm
      obtain ⟨hsame, hrest⟩ | ⟨hspent, hearned⟩ := Terms.advance_mono hexact hr hle hm hm'
      · rw [hsame] at h'
        exact ih hstay hrest h h'
      · rw [Terms.run_spent hspent] at h
        cases h
        have hstay' := (Terms.advance_earns hexact (hr.trans hle) hm').1
        exact (Terms.run_earns hexact hstay' h').trans hearned
    -- with nothing to do for the smaller amount, the other one can only earn more
    · rw [Terms.run, if_neg hlive] at h
      cases h
      exact Terms.run_earns (s := s.withRemaining r') hexact (hr.trans hle) h'

end Swap

namespace Concentrated

/-- Of two exact inputs that an edge can swap, in either direction and up to any limit, the
greater one gets out at least as much. -/
theorem swap_mono {e : Concentrated} {zeroForOne : Bool} {limit : Option Nat} {a b : Nat}
    {o o' : Swap.State} (hle : a ≤ b) (h : e.swap zeroForOne a limit = .ok o)
    (h' : e.swap zeroForOne b limit = .ok o') : -o.calculated ≤ -o'.calculated := by
  have hrun := (swap_eq_ok h).2
  have hrun' := (swap_eq_ok h').2
  have hexact (n : Nat) : (e.terms zeroForOne n limit).exactInput = true :=
    decide_eq_true (Int.natCast_nonneg n)
  have hterms : e.terms zeroForOne b limit = e.terms zeroForOne a limit := by
    simp [terms]
  rw [hterms] at hrun'
  exact Int.neg_le_neg (Swap.Terms.run_mono (s := e.entry 0) (hexact a) (Int.natCast_nonneg a)
    (Int.ofNat_le.mpr hle) hrun hrun')

/-- The smaller amount stays above the tick that the greater one crosses. -/
theorem swap_mono_banded :
    let o : Swap.State := ⟨0, -39356, 78188773090646016546913644950, -265, 3000000⟩
    let o' : Swap.State := ⟨0, -96450, 76269442902317397068302535535, -762, 1000000⟩
    banded.swap true 40000 none = .ok o ∧ banded.swap true 100000 none = .ok o' ∧
      -o.calculated ≤ -o'.calculated := by
  intro o o'
  have ho : banded.swap true 40000 none = .ok o := by decide +kernel
  have ho' : banded.swap true 100000 none = .ok o' := by decide +kernel
  exact ⟨ho, ho', swap_mono (a := 40000) (b := 100000) (by decide) ho ho'⟩

end Concentrated

end LiquidityGraph
