import LiquidityGraph.Proofs.Price.MulDiv
import LiquidityGraph.Proofs.Price.Step
import LiquidityGraph.Proofs.Price.TickRatio
import LiquidityGraph.Proofs.Swap.Advance
import LiquidityGraph.Proofs.Tick.List
import LiquidityGraph.Proofs.Word

/-!
A swap keeps its price within its tick, moves it in one direction as far as the limit, and crosses
each initialized tick on the way once.
-/
namespace LiquidityGraph

namespace Swap

/-- The lower and the higher end of a move: the liquidity differs by the nets of the ticks
between them. -/
structure Spans (l : TickList) (low high : State) : Prop where
  price : low.price ≤ high.price
  tick : low.tick ≤ high.tick
  liquidity : (high.liquidity : Int) = low.liquidity + l.netBetween low.tick high.tick

theorem Spans.refl (l : TickList) (s : State) : Spans l s s := by
  have hnone : l.netBetween s.tick s.tick = 0 :=
    TickList.netBetween_eq_zero fun u _ h => absurd h.2 (not_le.mpr h.1)
  exact ⟨le_rfl, le_rfl, by rw [hnone, Int.add_zero]⟩

theorem Spans.trans {l : TickList} {a b c : State} (h : Spans l a b) (h' : Spans l b c) :
    Spans l a c := by
  refine ⟨h.price.trans h'.price, h.tick.trans h'.tick, ?_⟩
  rw [h'.liquidity, h.liquidity, Int.add_assoc, TickList.netBetween_add h.tick h'.tick]

variable {t : Terms} {s s' : State}

/-- What is added to the liquidity on arrival at a tick. -/
theorem Terms.arrival {n : Int} {initialized : Bool} {liquidity : Nat}
    (hflag : initialized ↔ ∃ u ∈ t.ticks.ticks, u.index = n)
    (h : if initialized then t.cross s.liquidity n = .ok liquidity
      else liquidity = s.liquidity) :
    (liquidity : Int) = s.liquidity +
      if t.zeroForOne then -(t.ticks.get n).net else (t.ticks.get n).net := by
  split_ifs at h with hinit
  · exact (Terms.cross_eq_ok h).1
  · have hnet : (t.ticks.get n).net = 0 :=
      TickList.get_net_of_not_mem fun u hu hn => hinit (hflag.mpr ⟨u, hu, hn⟩)
    simp [h, hnet]

/-- Downwards, the next tick is not above the current one, and none is passed on the way. -/
theorem Terms.tickNext_down (hl : t.ticks.Ordered) (hz : t.zeroForOne = true)
    (hmin : Price.minTick ≤ s.tick) (hmax : s.tick < Price.maxTick) :
    t.tickNext s ≤ s.tick ∧
      (∀ u ∈ t.ticks.ticks, ¬ (t.tickNext s < u.index ∧ u.index ≤ s.tick)) ∧
      (Price.minTick < t.tickNext s →
        ((t.found s).2 ↔ ∃ u ∈ t.ticks.ticks, u.index = t.tickNext s)) := by
  have hrange : -(Word.size 31 : Int) ≤ s.tick := le_trans (by decide) hmin
  obtain ⟨hle, hnone, hflag⟩ := TickList.next_down hl hrange (Terms.next_eq_found hz s)
  have hclamp : t.tickNext s = max Price.minTick (t.found s).1 := by
    rw [Terms.tickNext, min_eq_left (hle.trans hmax.le)]
  refine ⟨hclamp ▸ max_le hmin hle, fun u hu h => hnone u hu ?_, fun h => ?_⟩
  · exact ⟨(le_max_right _ _).trans_lt (hclamp ▸ h.1), h.2⟩
  · have hfound : t.tickNext s = (t.found s).1 := by
      rw [hclamp] at h ⊢
      exact max_eq_right ((lt_max_iff.mp h).resolve_left (lt_irrefl _)).le
    rw [hfound]
    exact hflag

/-- Upwards, the next tick is above the current one, and none is passed on the way. -/
theorem Terms.tickNext_up (hl : t.ticks.Ordered) (hz : t.zeroForOne = false)
    (hmin : Price.minTick ≤ s.tick) (hmax : s.tick < Price.maxTick) :
    s.tick < t.tickNext s ∧
      (∀ u ∈ t.ticks.ticks, ¬ (s.tick < u.index ∧ u.index < t.tickNext s)) ∧
      (t.tickNext s < Price.maxTick →
        ((t.found s).2 ↔ ∃ u ∈ t.ticks.ticks, u.index = t.tickNext s)) := by
  have hrange : s.tick < Word.size 31 - 1 := hmax.trans (by decide)
  obtain ⟨hlt, hnone, hflag⟩ := TickList.next_up hl hrange (Terms.next_eq_found hz s)
  have hclamp : t.tickNext s = min (t.found s).1 Price.maxTick := by
    rw [Terms.tickNext, max_eq_right (le_min (hmin.trans hlt.le) (by decide))]
  refine ⟨hclamp ▸ lt_min hlt hmax, fun u hu h => hnone u hu ?_, fun h => ?_⟩
  · exact ⟨h.1, (hclamp ▸ h.2 : u.index < min _ _).trans_le (min_le_left _ _)⟩
  · have hfound : t.tickNext s = (t.found s).1 := by
      rw [hclamp] at h ⊢
      exact min_eq_left ((min_lt_iff.mp h).resolve_right (lt_irrefl _)).le
    rw [hfound]
    exact hflag

/-- What an advance that does not arrive changes: the price, and the tick with it. -/
private theorem Terms.within_of_stays (hs : Price.Within s.tick s.price)
    (h : if s'.price = s.price then s'.tick = s.tick else Price.tickAt s'.price = .ok s'.tick) :
    Price.Within s'.tick s'.price ∧ (s'.price ≤ s.price → s'.tick ≤ s.tick) ∧
      (s.price ≤ s'.price → s.tick ≤ s'.tick) := by
  split_ifs at h with hprice
  · rw [hprice, h]
    exact ⟨hs, fun _ => le_rfl, fun _ => le_rfl⟩
  · have hs' := Price.within_of_tickAt h
    exact ⟨hs', fun hle => hs'.tick_le hs (lt_of_le_of_ne hle hprice),
      fun hle => hs.tick_le hs' (lt_of_le_of_ne hle (Ne.symm hprice))⟩

theorem Terms.target_le (hz : t.zeroForOne = true) (hnext : t.tickNext s ≤ s.tick)
    (hle : t.limit ≤ s.price) (hs : Price.Within s.tick s.price) : t.target s ≤ s.price := by
  have hratio : Price.ratio (t.tickNext s) ≤ s.price :=
    (Price.ratio_le_ratio (t.tickNext_range s).1 hnext hs.lt_max.le).trans hs.ratio_le
  rw [Terms.target, if_pos hz]
  exact max_le hratio hle

theorem Terms.le_target (hz : t.zeroForOne = false) (hnext : s.tick < t.tickNext s)
    (hle : s.price ≤ t.limit) (hs : Price.Within s.tick s.price) : s.price ≤ t.target s := by
  have hratio : s.price ≤ Price.ratio (t.tickNext s) := by
    refine hs.le_ratio.trans (Price.ratio_le_ratio ?_ hnext (t.tickNext_range s).2)
    linarith [hs.min_le]
  rw [Terms.target, hz, if_neg Bool.false_ne_true]
  exact le_min hratio hle

private theorem Terms.price_down (hz : t.zeroForOne = true) (hnext : t.tickNext s ≤ s.tick)
    (hle : t.limit ≤ s.price) (hs : Price.Within s.tick s.price) (h : t.advance s = .ok s') :
    Price.ratio (t.tickNext s) ≤ s'.price ∧ t.limit ≤ s'.price ∧ s'.price ≤ s.price := by
  obtain ⟨step, hstep, -, hprice, -⟩ := Terms.advance_eq_ok h
  have htargetLe := Terms.target_le hz hnext hle hs
  have htarget : t.target s = max (Price.ratio (t.tickNext s)) t.limit := by
    rw [Terms.target, if_pos hz]
  obtain ⟨hlow, hhigh⟩ := Price.step_between hstep
  rw [← hprice, min_eq_right htargetLe, htarget, max_le_iff] at hlow
  rw [← hprice, max_eq_left htargetLe] at hhigh
  exact ⟨hlow.1, hlow.2, hhigh⟩

private theorem Terms.price_up (hz : t.zeroForOne = false) (hnext : s.tick < t.tickNext s)
    (hle : s.price ≤ t.limit) (hs : Price.Within s.tick s.price) (h : t.advance s = .ok s') :
    s'.price ≤ Price.ratio (t.tickNext s) ∧ s'.price ≤ t.limit ∧ s.price ≤ s'.price := by
  obtain ⟨step, hstep, -, hprice, -⟩ := Terms.advance_eq_ok h
  have htargetLe := Terms.le_target hz hnext hle hs
  have htarget : t.target s = min (Price.ratio (t.tickNext s)) t.limit := by
    rw [Terms.target, hz, if_neg Bool.false_ne_true]
  obtain ⟨hlow, hhigh⟩ := Price.step_between hstep
  rw [← hprice, min_eq_left htargetLe] at hlow
  rw [← hprice, max_eq_right htargetLe, htarget, le_min_iff] at hhigh
  exact ⟨hhigh.1, hhigh.2, hlow⟩

theorem Terms.within_down (hl : t.ticks.Ordered) (hz : t.zeroForOne = true)
    (hlimit : Price.minRatio < t.limit) (hle : t.limit ≤ s.price)
    (hs : Price.Within s.tick s.price) (h : t.advance s = .ok s') :
    Price.Within s'.tick s'.price := by
  obtain ⟨_, -, -, -, hlands⟩ := Terms.advance_eq_ok h
  obtain ⟨hnext, -, -⟩ := t.tickNext_down hl hz hs.min_le hs.lt_max
  obtain ⟨hminNext, hmaxNext⟩ := t.tickNext_range s
  obtain ⟨-, hbound, -⟩ := Terms.price_down hz hnext hle hs h
  cases hlands with
  | arrives hat htick _ =>
    rw [if_pos hz] at htick
    have habove : Price.minTick < t.tickNext s :=
      Terms.minTick_lt_tickNext (hat ▸ hlimit.trans_le hbound)
    have hmax := hs.lt_max
    constructor
    · omega
    · omega
    · rw [htick, hat]
      exact Price.ratio_le_ratio (by omega) (by omega) hmaxNext
    · rw [htick, hat, Int.sub_add_cancel]
  | stays _ htick _ => exact (Terms.within_of_stays hs htick).1

theorem Terms.within_up (hl : t.ticks.Ordered) (hz : t.zeroForOne = false)
    (hlimit : t.limit < Price.maxRatio) (hle : s.price ≤ t.limit)
    (hs : Price.Within s.tick s.price) (h : t.advance s = .ok s') :
    Price.Within s'.tick s'.price := by
  obtain ⟨_, -, -, -, hlands⟩ := Terms.advance_eq_ok h
  obtain ⟨hnext, -, -⟩ := t.tickNext_up hl hz hs.min_le hs.lt_max
  obtain ⟨hminNext, hmaxNext⟩ := t.tickNext_range s
  obtain ⟨-, hbound, -⟩ := Terms.price_up hz hnext hle hs h
  cases hlands with
  | arrives hat htick _ =>
    rw [hz, if_neg Bool.false_ne_true] at htick
    have hbelow : t.tickNext s < Price.maxTick :=
      Terms.tickNext_lt_maxTick (hat ▸ hbound.trans_lt hlimit)
    constructor
    · rw [htick]
      exact hminNext
    · rw [htick]
      exact hbelow
    · rw [htick, hat]
    · rw [htick, hat]
      exact Price.ratio_le_ratio hminNext (by omega) (by omega)
  | stays _ htick _ => exact (Terms.within_of_stays hs htick).1

/-- In either direction, the price stays within its tick and moves ahead. -/
theorem Terms.advance_within (hl : t.ticks.Ordered) (hinside : t.Inside)
    (hahead : Price.Along t.zeroForOne s.price t.limit) (hs : Price.Within s.tick s.price)
    (h : t.advance s = .ok s') :
    Price.Within s'.tick s'.price ∧ Price.Along t.zeroForOne s.price (t.target s) ∧
      Price.Along t.zeroForOne s.price s'.price := by
  unfold Terms.Inside at hinside
  unfold Price.Along at hahead ⊢
  cases hz : t.zeroForOne with
  | true =>
    rw [hz, if_pos rfl] at hinside hahead
    have hnext := (t.tickNext_down hl hz hs.min_le hs.lt_max).1
    exact ⟨Terms.within_down hl hz hinside hahead hs h, Terms.target_le hz hnext hahead hs,
      (Terms.price_down hz hnext hahead hs h).2.2⟩
  | false =>
    rw [hz, if_neg Bool.false_ne_true] at hinside hahead
    have hnext := (t.tickNext_up hl hz hs.min_le hs.lt_max).1
    exact ⟨Terms.within_up hl hz hinside hahead hs h, Terms.le_target hz hnext hahead hs,
      (Terms.price_up hz hnext hahead hs h).2.2⟩

theorem Terms.advance_down (hl : t.ticks.Ordered) (hz : t.zeroForOne = true)
    (hlimit : Price.minRatio < t.limit) (hle : t.limit ≤ s.price)
    (hs : Price.Within s.tick s.price) (h : t.advance s = .ok s') :
    Price.Within s'.tick s'.price ∧ t.limit ≤ s'.price ∧ Spans t.ticks s' s := by
  obtain ⟨_, -, -, -, hlands⟩ := Terms.advance_eq_ok h
  obtain ⟨hnext, hnone, hflag⟩ := t.tickNext_down hl hz hs.min_le hs.lt_max
  obtain ⟨hminNext, hmaxNext⟩ := t.tickNext_range s
  obtain ⟨hratio, hbound, hfall⟩ := Terms.price_down hz hnext hle hs h
  have hwithin : Price.Within s'.tick s'.price := Terms.within_down hl hz hlimit hle hs h
  refine ⟨hwithin, hbound, ?_⟩
  cases hlands with
  | arrives hat htick hliquidity =>
    rw [if_pos hz] at htick
    -- the limit lies above the end of the range, so the tick that was found is not clamped
    have habove : Price.minTick < t.tickNext s :=
      Terms.minTick_lt_tickNext (hat ▸ hlimit.trans_le hbound)
    have hchange := Terms.arrival (hflag habove) hliquidity
    rw [if_pos hz, ← TickList.netBetween_pred hl] at hchange
    have hpred : t.tickNext s - 1 ≤ t.tickNext s := by omega
    have hsum := TickList.netBetween_add (l := t.ticks) hpred hnext
    rw [TickList.netBetween_eq_zero hnone, Int.add_zero] at hsum
    refine ⟨hfall, by omega, ?_⟩
    rw [htick, ← hsum]
    omega
  | stays hoff htick hliquidity =>
    obtain ⟨-, hdown, -⟩ := Terms.within_of_stays hs htick
    have hpast : t.tickNext s < s'.tick + 1 := by
      refine Price.lt_of_ratio_lt (by linarith [hwithin.min_le]) hmaxNext ?_
      exact (lt_of_le_of_ne hratio (Ne.symm hoff)).trans_le hwithin.le_ratio
    have hsum : t.ticks.netBetween s'.tick s.tick = 0 :=
      TickList.netBetween_eq_zero fun u hu hb => hnone u hu ⟨by omega, hb.2⟩
    refine ⟨hfall, hdown hfall, ?_⟩
    rw [hliquidity, hsum, Int.add_zero]

theorem Terms.advance_up (hl : t.ticks.Ordered) (hz : t.zeroForOne = false)
    (hlimit : t.limit < Price.maxRatio) (hle : s.price ≤ t.limit)
    (hs : Price.Within s.tick s.price) (h : t.advance s = .ok s') :
    Price.Within s'.tick s'.price ∧ s'.price ≤ t.limit ∧ Spans t.ticks s s' := by
  obtain ⟨_, -, -, -, hlands⟩ := Terms.advance_eq_ok h
  obtain ⟨hnext, hnone, hflag⟩ := t.tickNext_up hl hz hs.min_le hs.lt_max
  obtain ⟨hminNext, hmaxNext⟩ := t.tickNext_range s
  obtain ⟨hratio, hbound, hrise⟩ := Terms.price_up hz hnext hle hs h
  have hwithin : Price.Within s'.tick s'.price := Terms.within_up hl hz hlimit hle hs h
  refine ⟨hwithin, hbound, ?_⟩
  cases hlands with
  | arrives hat htick hliquidity =>
    rw [hz, if_neg Bool.false_ne_true] at htick
    have hbelow : t.tickNext s < Price.maxTick :=
      Terms.tickNext_lt_maxTick (hat ▸ hbound.trans_lt hlimit)
    have hchange := Terms.arrival (hflag hbelow) hliquidity
    rw [hz, if_neg Bool.false_ne_true, ← TickList.netBetween_pred hl] at hchange
    have hpred : t.tickNext s - 1 ≤ t.tickNext s := by omega
    have hsum := TickList.netBetween_add (l := t.ticks) (Int.le_sub_one_of_lt hnext) hpred
    have hskipped : t.ticks.netBetween s.tick (t.tickNext s - 1) = 0 :=
      TickList.netBetween_eq_zero fun u hu hb => hnone u hu ⟨hb.1, by omega⟩
    rw [hskipped, Int.zero_add] at hsum
    refine ⟨hrise, by omega, ?_⟩
    rw [htick, ← hsum]
    omega
  | stays hoff htick hliquidity =>
    obtain ⟨-, -, hup⟩ := Terms.within_of_stays hs htick
    have hshort : s'.tick < t.tickNext s := by
      refine Price.lt_of_ratio_lt hminNext hwithin.lt_max.le ?_
      exact hwithin.ratio_le.trans_lt (lt_of_le_of_ne hratio hoff)
    have hsum : t.ticks.netBetween s.tick s'.tick = 0 :=
      TickList.netBetween_eq_zero fun u hu hb => hnone u hu ⟨hb.1, by omega⟩
    refine ⟨hrise, hup hrise, ?_⟩
    rw [hliquidity, hsum, Int.add_zero]

theorem Terms.run_down (hl : t.ticks.Ordered) (hz : t.zeroForOne = true)
    (hlimit : Price.minRatio < t.limit) (hle : t.limit ≤ s.price)
    (hs : Price.Within s.tick s.price) {fuel : Nat} {o : State} (h : t.run fuel s = .ok o) :
    Price.Within o.tick o.price ∧ t.limit ≤ o.price ∧ Spans t.ticks o s := by
  refine Terms.run_induct (P := fun x => Price.Within x.tick x.price ∧ t.limit ≤ x.price ∧
    Spans t.ticks x s) ?_ ⟨hs, hle, .refl t.ticks s⟩ h
  rintro a b ⟨ha, hlimita, hspan⟩ hab
  obtain ⟨hb, hlimitb, hspan'⟩ := Terms.advance_down hl hz hlimit hlimita ha hab
  exact ⟨hb, hlimitb, hspan'.trans hspan⟩

theorem Terms.run_up (hl : t.ticks.Ordered) (hz : t.zeroForOne = false)
    (hlimit : t.limit < Price.maxRatio) (hle : s.price ≤ t.limit)
    (hs : Price.Within s.tick s.price) {fuel : Nat} {o : State} (h : t.run fuel s = .ok o) :
    Price.Within o.tick o.price ∧ o.price ≤ t.limit ∧ Spans t.ticks s o := by
  refine Terms.run_induct (P := fun x => Price.Within x.tick x.price ∧ x.price ≤ t.limit ∧
    Spans t.ticks s x) ?_ ⟨hs, hle, .refl t.ticks s⟩ h
  rintro a b ⟨ha, hlimita, hspan⟩ hab
  obtain ⟨hb, hlimitb, hspan'⟩ := Terms.advance_up hl hz hlimit hlimita ha hab
  exact ⟨hb, hlimitb, hspan.trans hspan'⟩

/-- A limit that is let pass lies ahead of the price, inside the supported range. -/
theorem checkLimit_eq_ok {zeroForOne : Bool} {price limit : Nat}
    (h : checkLimit zeroForOne price limit = .ok ()) :
    if zeroForOne then Price.minRatio < limit ∧ limit < price
    else price < limit ∧ limit < Price.maxRatio := by
  unfold checkLimit at h
  split_ifs at h ⊢ with hz hlow hhigh hhigh hlow
  · exact ⟨not_le.mp hlow, not_le.mp hhigh⟩
  · exact ⟨not_le.mp hlow, not_le.mp hhigh⟩

theorem checkLimit_ne_trapped (zeroForOne : Bool) (price limit : Nat) :
    checkLimit zeroForOne price limit ≠ .error .trapped := by
  unfold checkLimit
  split_ifs <;> exact nofun

end Swap

namespace Concentrated

section Entry

variable {e : Concentrated} {zeroForOne : Bool} {amount : Int} {limit : Option Nat}

theorem inside_terms
    (hcheck : Swap.checkLimit zeroForOne e.price (e.terms zeroForOne amount limit).limit = .ok ()) :
    (e.terms zeroForOne amount limit).Inside := by
  have hlimit := Swap.checkLimit_eq_ok hcheck
  change if zeroForOne then _ else _
  split_ifs at hlimit ⊢
  · exact hlimit.1
  · exact hlimit.2

theorem ahead_entry
    (hcheck : Swap.checkLimit zeroForOne e.price (e.terms zeroForOne amount limit).limit = .ok ()) :
    Price.Along zeroForOne e.price (e.terms zeroForOne amount limit).limit := by
  have hlimit := Swap.checkLimit_eq_ok hcheck
  unfold Price.Along
  split_ifs at hlimit ⊢
  · exact hlimit.2.le
  · exact hlimit.1.le

end Entry

/-- A swap of either sign, up to any limit, crosses each initialized tick on its way once. -/
theorem swap_crosses_once {e : Concentrated} {ticks : List Tick} {spacing : Int}
    {zeroForOne : Bool} {amount : Int} {limit : Option Nat} {o : Swap.State}
    (hticks : TickList.ofList ticks spacing = .ok e.ticks)
    (hwithin : Price.Within e.tick e.price) (h : e.swap zeroForOne amount limit = .ok o) :
    Price.Within o.tick o.price ∧
      if zeroForOne then
        limit.getD (Swap.defaultLimit true) ≤ o.price ∧ o.price ≤ e.price ∧
          (o.liquidity : Int) = e.liquidity - e.ticks.netBetween o.tick e.tick
      else
        e.price ≤ o.price ∧ o.price ≤ limit.getD (Swap.defaultLimit false) ∧
          (o.liquidity : Int) = e.liquidity + e.ticks.netBetween e.tick o.tick := by
  have hordered : e.ticks.Ordered := (TickList.ofList_eq_ok hticks).1
  obtain ⟨hcheck, hrun⟩ := swap_eq_ok h
  have hlimit := Swap.checkLimit_eq_ok hcheck
  cases zeroForOne with
  | true =>
    rw [if_pos rfl] at hlimit ⊢
    obtain ⟨ho, hbound, hspan⟩ := Swap.Terms.run_down (t := e.terms true amount limit)
      (s := e.entry amount) hordered rfl hlimit.1 hlimit.2.le hwithin hrun
    exact ⟨ho, hbound, hspan.price, eq_sub_of_add_eq hspan.liquidity.symm⟩
  | false =>
    rw [if_neg Bool.false_ne_true] at hlimit ⊢
    obtain ⟨ho, hbound, hspan⟩ := Swap.Terms.run_up (t := e.terms false amount limit)
      (s := e.entry amount) hordered rfl hlimit.2 hlimit.1.le hwithin hrun
    exact ⟨ho, hspan.price, hbound, hspan.liquidity⟩

def bands : List Tick :=
  [⟨600, 3000000, -3000000⟩, ⟨-600, 2000000, 2000000⟩, ⟨-1200, 1000000, 1000000⟩]

/-- An edge whose liquidity falls in steps below its price. -/
def banded : Concentrated where
  token0 := ⟨"A"⟩
  token1 := ⟨"B"⟩
  fee := 3000
  price := Price.q96
  liquidity := 3000000
  tick := 0
  ticks := ⟨60, bands.reverse⟩
  zeroForOne := true
  rate := none

theorem ofList_bands : TickList.ofList bands.reverse 60 = .ok banded.ticks :=
  TickList.ofList_of_ascending (by decide) (by decide) (by decide)

theorem within_banded : Price.Within banded.tick banded.price :=
  ⟨by decide, by decide, by decide +kernel, by decide +kernel⟩

theorem swap_crosses_once_banded :
    let o : Swap.State := ⟨0, -96450, 76269442902317397068302535535, -762, 1000000⟩
    banded.swap true 100000 none = .ok o ∧ Price.Within o.tick o.price ∧
      (o.liquidity : Int) = banded.liquidity - banded.ticks.netBetween o.tick banded.tick := by
  intro o
  have hticks : TickList.ofList bands 60 = .ok banded.ticks := by
    have hperm : bands.mergeSort (fun a b => a.index ≤ b.index) = bands.reverse := by
      simp [bands, List.mergeSort]
    rw [TickList.ofList, hperm]
    rfl
  have hwithin : Price.Within banded.tick banded.price :=
    ⟨by decide, by decide, by decide +kernel, by decide +kernel⟩
  have hswap : banded.swap true 100000 none = .ok o := by decide +kernel
  obtain ⟨ho, -, -, hliquidity⟩ := swap_crosses_once hticks hwithin hswap
  exact ⟨hswap, ho, hliquidity⟩

end Concentrated

end LiquidityGraph
