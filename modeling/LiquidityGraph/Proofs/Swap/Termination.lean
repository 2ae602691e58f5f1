import LiquidityGraph.Proofs.Machine.Swap
import LiquidityGraph.Proofs.Swap.Crossing
import Mathlib.Logic.Relation

/-!
A swap ends. An advance that stops short of its target uses up the amount, so a swap that goes on
has arrived at a tick ahead of the limit, and the next advance heads for another one. How the price,
the tick and the liquidity of an edge fit together does not matter.
-/
namespace LiquidityGraph

namespace Swap

open Price (maxTick minTick)

/-- A swap comes to an end, with the number of its advances. -/
inductive Terms.Ends (t : Terms) : Nat → State → Except SwapError State → Prop
  | rests {s : State} (hlive : t.live s = false) : t.Ends 0 s (.ok s)
  | fails {s : State} {cause : SwapError} (hlive : t.live s = true)
      (h : t.advance s = .error cause) : t.Ends 1 s (.error cause)
  | goes {n : Nat} {s s' : State} {r : Except SwapError State} (hlive : t.live s = true)
      (h : t.advance s = .ok s') (hrest : t.Ends n s' r) : t.Ends (n + 1) s r

def Terms.Goes (t : Terms) (s s' : State) : Prop :=
  t.live s = true ∧ t.advance s = .ok s'

variable {t : Terms} {s s' : State}

theorem Terms.Ends.run_eq {n fuel : Nat} {r : Except SwapError State} (h : t.Ends n s r)
    (hle : n ≤ fuel) : t.run fuel s = r := by
  induction h generalizing fuel with
  | rests hlive =>
    cases fuel with
    | zero => rfl
    | succ fuel => rw [Terms.run, hlive, if_neg Bool.false_ne_true]
  | fails hlive h =>
    obtain ⟨fuel, rfl⟩ := Nat.exists_eq_add_of_le' hle
    rw [Terms.run, if_pos hlive, h]
    rfl
  | goes hlive h _ ih =>
    obtain ⟨fuel, rfl⟩ := Nat.exists_eq_add_of_le' (Nat.le_of_add_left_le hle)
    rw [Terms.run, if_pos hlive, h]
    exact ih (by omega)

theorem Terms.exists_ends_succ {k : Nat}
    (h : ∀ s', t.Goes s s' → ∃ n r, n ≤ k ∧ t.Ends n s' r) :
    ∃ n r, n ≤ k + 1 ∧ t.Ends n s r := by
  by_cases hlive : t.live s = true
  · cases hadvance : t.advance s with
    | error cause => exact ⟨1, .error cause, by omega, .fails hlive hadvance⟩
    | ok s' =>
      obtain ⟨n, r, hle, hends⟩ := h s' ⟨hlive, hadvance⟩
      exact ⟨n + 1, r, by omega, .goes hlive hadvance hends⟩
  · exact ⟨0, .ok s, by omega, .rests (Bool.eq_false_of_not_eq_true hlive)⟩

/-- What every state of a swap keeps, whatever it starts from. -/
structure Terms.Regular (t : Terms) (s : State) : Prop where
  ahead : Price.Along t.zeroForOne s.price t.limit
  owes : t.Owes s
  tick : -(Word.size 31 : Int) ≤ s.tick

private theorem Terms.ne_of_live (h : t.live s = true) : s.remaining ≠ 0 ∧ s.price ≠ t.limit := by
  simpa [Terms.live] using h

theorem Terms.Regular.goes (hs : t.Regular s) (hgo : t.Goes s s') : t.Regular s' := by
  obtain ⟨hlive, hadvance⟩ := hgo
  obtain ⟨_, -, -, -, hlands⟩ := Terms.advance_eq_ok hadvance
  have howes := (Terms.advance_used hs.owes (Terms.ne_of_live hlive).1 hadvance).1
  have htick : -(Word.size 31 : Int) ≤ s'.tick := by
    obtain hstill | ⟨hmin, -⟩ := hlands.tick_range
    · exact hstill ▸ hs.tick
    · exact le_trans (by decide) hmin
  exact ⟨Terms.advance_ahead hs.ahead hadvance, howes, htick⟩

theorem Terms.Regular.reaches (hs : t.Regular s) (h : Relation.ReflTransGen t.Goes s s') :
    t.Regular s' := by
  induction h with
  | refl => exact hs
  | tail _ hgo ih => exact ih.goes hgo

/-- A swap that goes on has arrived at the tick that the advance was heading for, short of the
limit. -/
theorem Terms.Regular.arrives (hs : t.Regular s) (hgo : t.Goes s s') (hlive : t.live s' = true) :
    s'.tick = (if t.zeroForOne then t.tickNext s - 1 else t.tickNext s) ∧
      (if t.zeroForOne then t.limit < Price.ratio (t.tickNext s)
        else Price.ratio (t.tickNext s) < t.limit) := by
  obtain ⟨hlive₀, hadvance⟩ := hgo
  obtain ⟨hremaining, hlimit⟩ := Terms.ne_of_live hlive
  -- an amount that is left over means that the target was reached
  have hused := (Terms.advance_used hs.owes (Terms.ne_of_live hlive₀).1 hadvance).2
  have htarget : s'.price = t.target s := not_not.mp (mt hused hremaining)
  -- and the target that is not the limit is the tick
  have hratio : s'.price = Price.ratio (t.tickNext s) := by
    unfold Terms.target at htarget
    split_ifs at htarget <;> omega
  obtain ⟨_, -, -, -, hlands⟩ := Terms.advance_eq_ok hadvance
  cases hlands with
  | arrives _ htick _ =>
    refine ⟨htick, ?_⟩
    unfold Terms.target at htarget
    split_ifs at htarget ⊢ <;> omega
  | stays hoff _ _ => exact absurd hratio hoff

/-- Short of the limit, the next tick is not clamped to the end that a swap moves to. -/
theorem Terms.tickNext_ahead (hl : t.ticks.Ordered) (hinside : t.Inside) (hs : t.Regular s)
    (h : if t.zeroForOne then t.limit < Price.ratio (t.tickNext s)
      else Price.ratio (t.tickNext s) < t.limit) :
    if t.zeroForOne then minTick < t.tickNext s ∧ t.tickNext s ≤ s.tick
    else s.tick < t.tickNext s ∧ t.tickNext s < maxTick := by
  obtain ⟨hmin, hmax⟩ := t.tickNext_range s
  have hclamp : t.tickNext s = max minTick (min (t.found s).1 maxTick) := rfl
  unfold Terms.Inside at hinside
  cases hz : t.zeroForOne with
  | true =>
    rw [hz, if_pos rfl] at hinside h
    rw [if_pos rfl]
    have habove : minTick < t.tickNext s := Terms.minTick_lt_tickNext (hinside.trans h)
    have hfound : (t.found s).1 ≤ s.tick :=
      (TickList.next_down hl hs.tick (Terms.next_eq_found hz s)).1
    omega
  | false =>
    rw [hz, if_neg Bool.false_ne_true] at hinside h
    rw [if_neg Bool.false_ne_true]
    have hbelow : t.tickNext s < maxTick := Terms.tickNext_lt_maxTick (h.trans hinside)
    have hfound : min (s.tick + 1) (Word.size 31 - 1) ≤ (t.found s).1 := by
      rw [Terms.found, hz]
      exact TickList.succ_le_next_up hl hl.spacing s.tick
    have hword : maxTick < Word.size 31 - 1 := by decide
    omega

/-- How many ticks lie ahead of a state. -/
def Terms.ticksLeft (t : Terms) (s : State) : Nat :=
  if t.zeroForOne then (s.tick - minTick + 1).toNat else (maxTick - s.tick).toNat

def tickSpan : Nat := (maxTick - minTick).toNat

/-- An advance that a swap goes on from moves the tick, and leaves some ticks ahead of it. -/
theorem Terms.Regular.moves (hl : t.ticks.Ordered) (hinside : t.Inside) (hs : t.Regular s)
    (hgo : t.Goes s s') (hlive : t.live s' = true) :
    (if t.zeroForOne then s'.tick < s.tick else s.tick < s'.tick) ∧
      0 < t.ticksLeft s' ∧ t.ticksLeft s' < t.ticksLeft s ∧ t.ticksLeft s' ≤ tickSpan := by
  obtain ⟨htick, hshort⟩ := hs.arrives hgo hlive
  obtain ⟨hmin, hmax⟩ := t.tickNext_range s
  have hahead := Terms.tickNext_ahead hl hinside hs hshort
  unfold Terms.ticksLeft tickSpan
  split_ifs at htick hahead ⊢ <;> omega

/-- A swap with `k` ticks ahead ends within `k` advances. -/
theorem Terms.Regular.exists_ends (hl : t.ticks.Ordered) (hinside : t.Inside) {k : Nat}
    (hs : t.Regular s) (h : t.live s = true → 0 < t.ticksLeft s ∧ t.ticksLeft s ≤ k) :
    ∃ n r, n ≤ k ∧ t.Ends n s r := by
  induction k generalizing s with
  | zero =>
    have hlive : ¬ t.live s = true := fun hlive => by
      have := h hlive
      omega
    exact ⟨0, .ok s, le_rfl, .rests (Bool.eq_false_of_not_eq_true hlive)⟩
  | succ k ih =>
    refine Terms.exists_ends_succ fun s' hgo => ih (hs.goes hgo) fun hlive => ?_
    obtain ⟨-, hpos, hless, -⟩ := hs.moves hl hinside hgo hlive
    have := h hgo.1
    omega

/-- A swap that starts from any tick: the first advance brings it into the supported range. -/
theorem Terms.Regular.ends (hl : t.ticks.Ordered) (hinside : t.Inside) (hs : t.Regular s) :
    ∃ n r, n ≤ tickSpan + 1 ∧ t.Ends n s r := by
  refine Terms.exists_ends_succ fun s' hgo => (hs.goes hgo).exists_ends hl hinside fun hlive => ?_
  obtain ⟨-, hpos, -, hspan⟩ := hs.moves hl hinside hgo hlive
  exact ⟨hpos, hspan⟩

/-- Each advance of a swap moves the tick if the swap goes on from it, and uses up the amount if it
stops short of its target. -/
def Terms.Progresses (t : Terms) (start : State) : Prop :=
  ∀ s s', Relation.ReflTransGen t.Goes start s → t.Goes s s' →
    (t.live s' = true → if t.zeroForOne then s'.tick < s.tick else s.tick < s'.tick) ∧
      (s'.price ≠ t.target s → s'.remaining = 0)

theorem Terms.Regular.progresses (hl : t.ticks.Ordered) (hinside : t.Inside) (hs : t.Regular s) :
    t.Progresses s := by
  intro a b hreach hgo
  have ha : t.Regular a := hs.reaches hreach
  constructor
  · intro hlive
    exact (ha.moves hl hinside hgo hlive).1
  · exact (Terms.advance_used ha.owes (Terms.ne_of_live hgo.1).1 hgo.2).2

end Swap

namespace Concentrated

variable {e : Concentrated} {zeroForOne : Bool} {amount : Int} {limit : Option Nat}

theorem regular_entry (htick : -(Word.size 31 : Int) ≤ e.tick)
    (hcheck : Swap.checkLimit zeroForOne e.price (e.terms zeroForOne amount limit).limit = .ok ()) :
    (e.terms zeroForOne amount limit).Regular (e.entry amount) := by
  refine ⟨ahead_entry hcheck, ?_, htick⟩
  change if decide (0 ≤ amount) then 0 ≤ amount else amount ≤ 0
  split_ifs with hsign
  · exact of_decide_eq_true hsign
  · exact (not_le.mp fun h => hsign (decide_eq_true h)).le

/-- Any swap through an edge ends, with a result or an error and without a trap, within as many
advances as there are ticks in the supported range. -/
theorem swap_ends (h : e.Typed) (hnets : ¬ e.HasLeastNet) (zeroForOne : Bool) (amount : Int)
    (limit : Option Nat) (hlow : -(Word.size 255 : Int) ≤ amount)
    (hhigh : amount < Word.size 255) :
    let t := e.terms zeroForOne amount limit
    Machine.swap e zeroForOne amount limit = Machine.safe (e.swap zeroForOne amount limit) ∧
      (∀ cause, Swap.checkLimit zeroForOne e.price t.limit = .error cause →
        e.swap zeroForOne amount limit = .error cause) ∧
      (Swap.checkLimit zeroForOne e.price t.limit = .ok () →
        t.Progresses (e.entry amount) ∧
          ∃ (n : Nat) (r : Except PriceError Swap.State), n ≤ Swap.tickSpan + 1 ∧
            t.Ends n (e.entry amount) (r.mapError .price) ∧
            e.swap zeroForOne amount limit = r.mapError .price) := by
  intro t
  obtain ⟨ticks, spacing, hticks, -, -⟩ := h.ticks
  have hordered : t.ticks.Ordered := (TickList.ofList_eq_ok hticks).1
  have hword : Word.size 255 < Word.size 256 := Word.size_lt (by decide)
  have hamount : amount.natAbs < Word.size 256 := by omega
  refine ⟨?_, fun cause hcheck => ?_, fun hcheck => ?_⟩
  · obtain ⟨hsame, htrap⟩ := h.swap_agrees zeroForOne limit hamount
    rw [hsame, Machine.ofResult_eq_safe fun htrapped => hnets (htrap htrapped).2]
  · rw [swap_eq, hcheck]
    rfl
  · have hinside : t.Inside := inside_terms hcheck
    have hregular : t.Regular (e.entry amount) := regular_entry h.tick.1 hcheck
    obtain ⟨n, r, hle, hends⟩ := hregular.ends hordered hinside
    have hfuel : n ≤ Swap.maxAdvances := hle.trans (by decide)
    have hrun : t.run Swap.maxAdvances (e.entry amount) = r := hends.run_eq hfuel
    have hswap : e.swap zeroForOne amount limit = r := by
      rw [swap_eq, hcheck]
      exact hrun
    -- without a net that cannot be negated, the result is one of the price arithmetic
    obtain ⟨r', -, hr'⟩ | ⟨-, -, -, hleast⟩ := h.run_agrees hamount hcheck
    · obtain rfl : r = r'.mapError .price := hrun.symm.trans hr'
      exact ⟨hregular.progresses hordered hinside, n, r', hle, hends, hswap⟩
    · exact absurd hleast hnets

/-- An edge whose tick is not the one of its price. -/
def skewed : Concentrated :=
  { banded with tick := 1000 }

theorem swap_ends_skewed :
    let t := skewed.terms true 200000 none
    let o : Swap.State := ⟨0, -201289, 80153644078680632316219822637, 232, 6000000⟩
    skewed.Typed ∧ ¬ skewed.HasLeastNet ∧ t.Progresses (skewed.entry 200000) ∧
      ∃ n, n ≤ Swap.tickSpan + 1 ∧ t.Ends n (skewed.entry 200000) (.ok o) := by
  intro t o
  have htyped : skewed.Typed :=
    ⟨by decide, by decide, by decide, by decide, bands.reverse, 60, ofList_bands, by decide,
      by decide⟩
  have hleast : ¬ skewed.HasLeastNet := by
    unfold HasLeastNet
    decide
  have hswap : skewed.swap true 200000 none = .ok o := by decide +kernel
  obtain ⟨-, -, hends⟩ := swap_ends htyped hleast true 200000 none (by decide) (by decide)
  obtain ⟨hprogresses, n, r, hle, hends, hresult⟩ := hends (by decide)
  refine ⟨htyped, hleast, hprogresses, n, hle, ?_⟩
  rw [hswap] at hresult
  cases r with
  | error cause => cases hresult
  | ok s =>
    cases hresult
    exact hends

end Concentrated

end LiquidityGraph
