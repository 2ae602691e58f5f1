import LiquidityGraph.Proofs.Machine.Tick
import LiquidityGraph.Proofs.Swap.Crossing

/-!
A swap on machine words, where every operation that nothing checks can be trapped. Whatever price,
tick and liquidity an edge reports, one of them is: the negation of a net of `-2 ^ 127`, which
accepted ticks can have.
-/
namespace LiquidityGraph

namespace Machine

open Price (maxRatio maxTick minRatio minTick)
open Swap (State Terms)

/-- The input of a step and the fee on it are added up before they are booked. -/
def book (t : Terms) (s : State) (step : Price.Step) : Machine PriceError (Int × Int) :=
  if t.exactInput then do
    let paid ← unsigned 256 (step.amountIn + step.fee : Nat)
    let consumed ← safe (Swap.signed paid)
    let remaining ← safe (Swap.checked (s.remaining - consumed))
    let earned ← safe (Swap.signed step.amountOut)
    let calculated ← safe (Swap.checked (s.calculated - earned))
    return (remaining, calculated)
  else do
    let earned ← safe (Swap.signed step.amountOut)
    let remaining ← safe (Swap.checked (s.remaining + earned))
    let paid ← unsigned 256 (step.amountIn + step.fee : Nat)
    let consumed ← safe (Swap.signed paid)
    let calculated ← safe (Swap.checked (s.calculated + consumed))
    return (remaining, calculated)

def crossing (t : Terms) (tick : Int) : Machine PriceError Int :=
  let net := (t.ticks.get tick).net
  if t.zeroForOne then signed 128 (-net) else pure net

/-- The liquidity behind a tick that was reached. -/
def cross (t : Terms) (s : State) (tick : Int) (initialized : Bool) : Machine PriceError Nat :=
  if initialized then do
    let delta ← crossing t tick
    safe (Price.addDelta s.liquidity delta)
  else pure s.liquidity

/-- The tick to go on from behind a tick that was reached. -/
def landing (t : Terms) (tick : Int) : Machine PriceError Int :=
  if t.zeroForOne then signed 32 (tick - 1) else pure tick

def advance (t : Terms) (s : State) : Machine PriceError State := do
  let (found, initialized) ← next t.ticks s.tick t.zeroForOne t.ticks.spacing
  let tickNext := max minTick (min found maxTick)
  let priceNext ← ratioAt tickNext
  let target := if t.zeroForOne then max priceNext t.limit else min priceNext t.limit
  let step ← step s.price target s.liquidity s.remaining t.fee
  let (remaining, calculated) ← book t s step
  if step.next = priceNext then
    let liquidity ← cross t s tickNext initialized
    let tick ← landing t tickNext
    return ⟨remaining, calculated, step.next, tick, liquidity⟩
  else
    let tick ← if step.next = s.price then pure s.tick else tickAt step.next
    return ⟨remaining, calculated, step.next, tick, s.liquidity⟩

def run (t : Terms) : Nat → State → Machine PriceError State
  | 0, s => pure s
  | fuel + 1, s => if t.live s then advance t s >>= run t fuel else pure s

def defaultLimit (zeroForOne : Bool) : Machine SwapError Nat :=
  if zeroForOne then unsigned 256 (minRatio + 1 : Nat) else unsigned 256 (maxRatio - 1 : Int)

def swap (e : Concentrated) (zeroForOne : Bool) (amount : Int) (limit : Option Nat) :
    Machine SwapError State := do
  let bound ← defaultLimit zeroForOne
  let limit := limit.getD bound
  safe (Swap.checkLimit zeroForOne e.price limit)
  let terms : Terms := ⟨zeroForOne, 0 ≤ amount, limit, e.fee, e.ticks⟩
  ExceptT.adapt .price (run terms Swap.maxAdvances ⟨amount, 0, e.price, e.tick, e.liquidity⟩)

def quote (e : Concentrated) (amountIn : Nat) : Option Nat :=
  if amountIn < Word.size 255 then
    (ExceptT.run (swap e e.zeroForOne amountIn none)).map fun
      | .ok s => (-s.calculated).toNat
      | .error _ => 0
  else some 0

/-- The terms have the sizes of their types, and a limit upwards is in the supported range. -/
structure Sized (t : Terms) : Prop where
  fee : t.fee < Word.size 32
  spacing : 0 < t.ticks.spacing ∧ t.ticks.spacing < Word.size 31
  nets : ∀ u ∈ t.ticks.ticks, -(Word.size 127 : Int) ≤ u.net ∧ u.net < Word.size 127
  limit : t.limit < Word.size 256
  up : t.zeroForOne = false → t.limit < maxRatio

/-- What an advance keeps: the sizes, and the side of the limit. -/
structure Fits (t : Terms) (s : State) : Prop where
  price : s.price < Word.size 256
  liquidity : s.liquidity < Word.size 128
  remaining : s.remaining.natAbs < Word.size 256
  tick : -(Word.size 31 : Int) ≤ s.tick ∧ s.tick < Word.size 31
  ahead : if t.zeroForOne then t.limit ≤ s.price else s.price ≤ t.limit

/-- A net of a tick that cannot be negated. -/
def LeastNet (t : Terms) : Prop :=
  t.zeroForOne = true ∧ ∃ u ∈ t.ticks.ticks, u.net = -(Word.size 127 : Int)

/-- A computation on machine words agrees with one of a swap. Both have the result of the price
arithmetic, or both are trapped, where `p` allows it. -/
def Agrees {α : Type} (p : Prop) (m : Machine PriceError α) (x : Except SwapError α) : Prop :=
  (∃ r : Except PriceError α, m = safe r ∧ x = r.mapError .price) ∨
    m = trap ∧ x = .error .trapped ∧ p

section Agrees

variable {α β : Type} {p : Prop} {m : Machine PriceError α} {x : Except SwapError α}
  {f : α → Machine PriceError β} {g : α → Except SwapError β}

theorem Agrees.pure (a : α) : Agrees p (pure a) (.ok a) := .inl ⟨.ok a, rfl, rfl⟩

theorem Agrees.lift (r : Except PriceError α) : Agrees p (safe r) (liftM r) := .inl ⟨r, rfl, rfl⟩

theorem Agrees.bind (h : Agrees p m x) (hf : ∀ a, x = .ok a → Agrees p (f a) (g a)) :
    Agrees p (m >>= f) (x >>= g) := by
  obtain ⟨r, rfl, rfl⟩ | ⟨rfl, rfl, hp⟩ := h
  · cases r with
    | error e => exact .inl ⟨.error e, rfl, rfl⟩
    | ok a => exact hf a rfl
  · exact .inr ⟨rfl, rfl, hp⟩

theorem Agrees.lift_bind {r : Except PriceError α} (h : m = safe r)
    (hf : ∀ a, r = .ok a → Agrees p (f a) (g a)) : Agrees p (m >>= f) (liftM r >>= g) := by
  rw [h]
  exact (Agrees.lift r).bind fun a ha => hf a (Swap.lift_eq_ok.mp ha)

theorem Agrees.bind_ite {q : Prop} [Decidable q] {y : Except SwapError α}
    (h : Agrees p m (if q then x else y))
    (hf : ∀ a, (if q then x else y) = .ok a → Agrees p (f a) (g a)) :
    Agrees p (m >>= f) (if q then x >>= g else y >>= g) := by
  split_ifs at h hf ⊢ <;> exact h.bind hf

end Agrees

variable {t : Terms} {s s' : State}

theorem book_safe {step : Price.Step} (h : step.amountIn + step.fee < Word.size 256) :
    book t s step = safe (t.book s step) := by
  unfold book Terms.book
  split_ifs
  · rw [unsigned_natCast h, pure_bind]
    refine safe_bind fun consumed _ => ?_
    refine safe_bind fun remaining _ => ?_
    refine safe_bind fun earned _ => ?_
    exact safe_bind fun calculated _ => rfl
  · refine safe_bind fun earned _ => ?_
    refine safe_bind fun remaining _ => ?_
    rw [unsigned_natCast h, pure_bind]
    refine safe_bind fun consumed _ => ?_
    exact safe_bind fun calculated _ => rfl

/-- The one operation that can be trapped. -/
theorem crossing_agrees (ht : Sized t) (tick : Int) :
    Agrees (LeastNet t) (crossing t tick) (t.crossing tick) := by
  unfold crossing Terms.crossing signed
  dsimp only
  split_ifs with hz
  · cases hneg : Word.signed? 128 (-(t.ticks.get tick).net) with
    | some delta => exact .pure delta
    | none =>
      unfold Word.signed? at hneg
      split_ifs at hneg with hfits
      have hmem : ∃ u ∈ t.ticks.ticks, u.index = tick := by
        by_contra hnone
        have hzero : (t.ticks.get tick).net = 0 :=
          TickList.get_net_of_not_mem fun u hu hn => hnone ⟨u, hu, hn⟩
        rw [hzero] at hfits
        exact hfits (by decide)
      have hget := TickList.get_mem hmem
      obtain ⟨hl, hh⟩ := ht.nets _ hget
      have hleast : (t.ticks.get tick).net = -(Word.size 127 : Int) := by
        change ¬ (-(Word.size 127 : Int) ≤ _ ∧ _ < (Word.size 127 : Int)) at hfits
        omega
      exact .inr ⟨rfl, rfl, hz, _, hget, hleast⟩
  · exact .pure _

theorem cross_agrees (ht : Sized t) (tick : Int) (initialized : Bool) :
    Agrees (LeastNet t) (cross t s tick initialized)
      (if initialized then t.cross s.liquidity tick else pure s.liquidity) := by
  unfold cross Terms.cross
  split_ifs
  · exact (crossing_agrees ht tick).bind fun _ _ => .lift _
  · exact .pure _

theorem landing_safe {tick : Int} (hmin : minTick ≤ tick) (hmax : tick ≤ maxTick) :
    landing t tick = pure (if t.zeroForOne then tick - 1 else tick) := by
  unfold minTick at hmin
  unfold maxTick at hmax
  unfold landing
  split_ifs
  · exact signed_32 (by omega) (by omega)
  · rfl

theorem target_fits (ht : Sized t) (hs : Fits t s) :
    t.target s < Word.size 256 ∧ (s.price < t.target s → t.target s ≤ maxRatio) := by
  obtain ⟨hmin, hmax⟩ := t.tickNext_range s
  have hratio : Price.ratio (t.tickNext s) ≤ maxRatio :=
    Price.ratio_maxTick ▸ Price.ratio_le_ratio hmin hmax le_rfl
  have hword : maxRatio < Word.size 256 := by decide
  have hahead := hs.ahead
  have hlimit := ht.limit
  unfold Terms.target
  split_ifs at hahead ⊢ with hz
  · omega
  · have hup := ht.up (Bool.not_eq_true _ ▸ hz)
    omega

/-- An advance is trapped at the most where it crosses a tick whose net cannot be negated. -/
theorem advance_agrees (ht : Sized t) (hs : Fits t s) :
    Agrees (LeastNet t) (advance t s) (t.advance s) := by
  obtain ⟨htarget, hup⟩ := target_fits ht hs
  obtain ⟨hmin, hmax⟩ := hs.tick
  have hfee : t.fee < Word.size 256 := ht.fee.trans (Word.size_lt (by decide))
  unfold advance Terms.advance
  rw [next_safe t.ticks t.zeroForOne ht.spacing.1 ht.spacing.2 hmin hmax, pure_bind]
  have htick : max minTick (min (t.found s).1 maxTick) = t.tickNext s := rfl
  unfold Terms.found at htick
  cases hfound : t.ticks.next s.tick t.zeroForOne t.ticks.spacing with
  | mk found initialized =>
    rw [hfound] at htick
    dsimp only at htick ⊢
    rw [htick]
    refine Agrees.lift_bind (ratioAt_safe _) fun priceNext hpriceNext => ?_
    rw [Price.ratioAt_of_range (t.tickNext_range s).1 (t.tickNext_range s).2] at hpriceNext
    obtain rfl := Except.ok.inj hpriceNext
    refine Agrees.lift_bind (step_safe hs.price htarget hs.liquidity hs.remaining hfee)
      fun step hstep => ?_
    have hcost := step_cost hs.liquidity hs.remaining hup hstep
    refine Agrees.lift_bind (book_safe hcost) fun booked _ => ?_
    obtain ⟨remaining, calculated⟩ := booked
    dsimp only
    by_cases harrive : step.next = Price.ratio (t.tickNext s)
    -- only here is a tick crossed, and a net negated
    · rw [if_pos harrive, if_pos harrive]
      refine (cross_agrees ht (t.tickNext s) initialized).bind_ite fun liquidity _ => ?_
      rw [landing_safe (t.tickNext_range s).1 (t.tickNext_range s).2, pure_bind]
      exact .pure _
    · rw [if_neg harrive, if_neg harrive]
      split_ifs
      · exact .pure _
      · exact Agrees.lift_bind (tickAt_safe _) fun _ _ => .pure _

theorem lands_fits (hs : Fits t s) (h : t.Lands s s') :
    (-(Word.size 31 : Int) ≤ s'.tick ∧ s'.tick < Word.size 31) ∧
      s'.liquidity < Word.size 128 := by
  constructor
  · obtain htick | ⟨hmin, hmax⟩ := h.tick_range
    · exact htick ▸ hs.tick
    · have hlow : -(Word.size 31 : Int) ≤ minTick - 1 := by decide
      have hhigh : maxTick < Word.size 31 := by decide
      omega
  · cases h with
    | arrives _ _ hliquidity =>
      split_ifs at hliquidity
      · exact (Terms.cross_eq_ok hliquidity).2
      · exact hliquidity ▸ hs.liquidity
    | stays _ _ hliquidity => exact hliquidity ▸ hs.liquidity

theorem Fits.advance (ht : Sized t) (hs : Fits t s) (h : t.advance s = .ok s') : Fits t s' := by
  obtain ⟨step, hstep, hbook, hprice, hlands⟩ := Terms.advance_eq_ok h
  have hbetween := Price.step_between hstep
  obtain ⟨htarget, -⟩ := target_fits ht hs
  obtain ⟨htick, hliquidity⟩ := lands_fits hs hlands
  obtain ⟨-, ⟨hl, hh⟩, -⟩ := Terms.book_eq_ok hbook
  have hword : Word.size 255 < Word.size 256 := Word.size_lt (by decide)
  have hremaining : s'.remaining.natAbs < Word.size 256 := by omega
  rw [← hprice] at hbetween
  exact ⟨hbetween.2.trans_lt (max_lt hs.price htarget), hliquidity, hremaining, htick,
    Terms.advance_ahead hs.ahead h⟩

theorem run_agrees (ht : Sized t) (hs : Fits t s) (fuel : Nat) :
    Agrees (LeastNet t) (run t fuel s) (t.run fuel s) := by
  induction fuel generalizing s with
  | zero => exact .pure s
  | succ fuel ih =>
    unfold run Terms.run
    split_ifs
    · exact (advance_agrees ht hs).bind fun s' hs' => ih (hs.advance ht hs')
    · exact .pure s

/-- What a result is on machine words. -/
def ofResult {α : Type} : Except SwapError α → Machine SwapError α
  | .error .trapped => trap
  | x => safe x

theorem ofResult_eq_safe {α : Type} {x : Except SwapError α} (h : x ≠ .error .trapped) :
    ofResult x = safe x := by
  unfold ofResult
  split
  · contradiction
  · rfl

theorem Agrees.adapt {α : Type} {p : Prop} {m : Machine PriceError α} {x : Except SwapError α}
    (h : Agrees p m x) : ExceptT.adapt .price m = ofResult x ∧ (x = .error .trapped → p) := by
  obtain ⟨r, rfl, rfl⟩ | ⟨rfl, rfl, hp⟩ := h
  · cases r with
    | error e => exact ⟨rfl, nofun⟩
    | ok a => exact ⟨rfl, nofun⟩
  · exact ⟨rfl, fun _ => hp⟩

end Machine

namespace Concentrated

/-- An edge as it is let in: every field has the size of its type, the tick is in the supported
range, and the ticks were accepted. Price, tick and liquidity need not fit together. -/
structure Admitted (e : Concentrated) : Prop where
  fee : e.fee < Word.size 32
  price : e.price < Word.size 256
  liquidity : e.liquidity < Word.size 128
  tick : Price.minTick ≤ e.tick ∧ e.tick ≤ Price.maxTick
  ticks : ∃ (ticks : List Tick) (spacing : Int),
    TickList.ofList ticks spacing = .ok e.ticks ∧ spacing < Word.size 31 ∧
      ∀ t ∈ ticks, -(Word.size 127 : Int) ≤ t.net ∧ t.net < Word.size 127

/-- An edge whose fields have the sizes of their types, over ticks that were accepted. -/
structure Typed (e : Concentrated) : Prop where
  fee : e.fee < Word.size 32
  price : e.price < Word.size 256
  liquidity : e.liquidity < Word.size 128
  tick : -(Word.size 31 : Int) ≤ e.tick ∧ e.tick < Word.size 31
  ticks : ∃ (ticks : List Tick) (spacing : Int),
    TickList.ofList ticks spacing = .ok e.ticks ∧ spacing < Word.size 31 ∧
      ∀ t ∈ ticks, -(Word.size 127 : Int) ≤ t.net ∧ t.net < Word.size 127

variable {e : Concentrated} {zeroForOne : Bool} {amount : Int} {limit : Option Nat}

theorem Admitted.typed (h : e.Admitted) : e.Typed := by
  obtain ⟨hmin, hmax⟩ := h.tick
  have hlow : -(Word.size 31 : Int) ≤ Price.minTick := by decide
  have hhigh : Price.maxTick < Word.size 31 := by decide
  exact ⟨h.fee, h.price, h.liquidity, ⟨hlow.trans hmin, hmax.trans_lt hhigh⟩, h.ticks⟩

theorem sized_terms (h : e.Typed)
    (hcheck : Swap.checkLimit zeroForOne e.price (e.terms zeroForOne amount limit).limit = .ok ()) :
    Machine.Sized (e.terms zeroForOne amount limit) := by
  obtain ⟨ticks, spacing, hticks, hspacing, hnets⟩ := h.ticks
  obtain ⟨hordered, rfl, hperm⟩ := TickList.ofList_eq_ok hticks
  have hbounds := Swap.checkLimit_eq_ok hcheck
  have hword : Price.maxRatio < Word.size 256 := by decide
  have hprice := h.price
  refine ⟨h.fee, ⟨hordered.spacing, hspacing⟩, fun u hu => hnets u (hperm.mem_iff.mp hu), ?_, ?_⟩
  · split_ifs at hbounds <;> omega
  · rintro rfl
    rw [if_neg Bool.false_ne_true] at hbounds
    exact hbounds.2

theorem fits_entry (h : e.Typed) (hamount : amount.natAbs < Word.size 256)
    (hcheck : Swap.checkLimit zeroForOne e.price (e.terms zeroForOne amount limit).limit = .ok ()) :
    Machine.Fits (e.terms zeroForOne amount limit) (e.entry amount) :=
  ⟨h.price, h.liquidity, hamount, h.tick, ahead_entry hcheck⟩

theorem defaultLimit_safe (zeroForOne : Bool) :
    Machine.defaultLimit zeroForOne = pure (Swap.defaultLimit zeroForOne) := by
  unfold Machine.defaultLimit Swap.defaultLimit
  split_ifs
  · exact Machine.unsigned_natCast (by decide)
  · exact Machine.unsigned_sub (by decide) (by decide)

/-- Some tick has a net that cannot be negated. -/
def HasLeastNet (e : Concentrated) : Prop :=
  ∃ t ∈ e.ticks.ticks, t.net = -(Word.size 127 : Int)

theorem Typed.run_agrees (h : e.Typed) (hamount : amount.natAbs < Word.size 256)
    (hcheck : Swap.checkLimit zeroForOne e.price (e.terms zeroForOne amount limit).limit = .ok ()) :
    Machine.Agrees (zeroForOne = true ∧ e.HasLeastNet)
      (Machine.run (e.terms zeroForOne amount limit) Swap.maxAdvances (e.entry amount))
      ((e.terms zeroForOne amount limit).run Swap.maxAdvances (e.entry amount)) :=
  Machine.run_agrees (sized_terms h hcheck) (fits_entry h hamount hcheck) Swap.maxAdvances

theorem machineSwap_eq (e : Concentrated) (zeroForOne : Bool) (amount : Int) (limit : Option Nat) :
    Machine.swap e zeroForOne amount limit =
      Machine.safe (Swap.checkLimit zeroForOne e.price (e.terms zeroForOne amount limit).limit) >>=
        fun _ => ExceptT.adapt .price
          (Machine.run (e.terms zeroForOne amount limit) Swap.maxAdvances (e.entry amount)) := by
  unfold Machine.swap
  rw [defaultLimit_safe, pure_bind]
  rfl

theorem Typed.swap_agrees (h : e.Typed) (zeroForOne : Bool) (limit : Option Nat)
    (hamount : amount.natAbs < Word.size 256) :
    Machine.swap e zeroForOne amount limit = Machine.ofResult (e.swap zeroForOne amount limit) ∧
      (e.swap zeroForOne amount limit = .error .trapped → zeroForOne = true ∧ e.HasLeastNet) := by
  rw [machineSwap_eq, swap_eq]
  cases hcheck : Swap.checkLimit zeroForOne e.price (e.terms zeroForOne amount limit).limit with
  | ok => exact (h.run_agrees hamount hcheck).adapt
  | error cause =>
    have hlimit : (.error cause : Except SwapError Swap.State) ≠ .error .trapped := by
      rintro ⟨⟩
      exact Swap.checkLimit_ne_trapped _ _ _ hcheck
    exact ⟨(Machine.ofResult_eq_safe hlimit).symm, fun htrap => absurd htrap hlimit⟩

/-- A swap through an edge that is let in, and a quote by it, are the same on machine words, and
nothing of them is trapped, unless they go downwards and a tick of the edge has a net that cannot be
negated. -/
theorem swap_untrapped (h : e.Admitted) :
    (∀ (zeroForOne : Bool) (amount : Int) (limit : Option Nat),
      -(Word.size 255 : Int) ≤ amount → amount < Word.size 255 →
        Machine.swap e zeroForOne amount limit =
            Machine.ofResult (e.swap zeroForOne amount limit) ∧
          (e.swap zeroForOne amount limit = .error .trapped →
            zeroForOne = true ∧ e.HasLeastNet)) ∧
    ∀ amountIn : Nat, Machine.quote e amountIn = e.quote? amountIn ∧
      (e.quote? amountIn = none → e.zeroForOne = true ∧ e.HasLeastNet) := by
  have hless : Word.size 255 < Word.size 256 := Word.size_lt (by decide)
  refine ⟨fun zeroForOne amount limit hl hh => h.typed.swap_agrees zeroForOne limit (by omega),
    fun amountIn => ?_⟩
  unfold Machine.quote quote?
  split_ifs with hamount
  · have hword : (amountIn : Int).natAbs < Word.size 256 := by omega
    obtain ⟨hswap, htrap⟩ := h.typed.swap_agrees e.zeroForOne none hword
    rw [hswap]
    cases hresult : e.swap e.zeroForOne amountIn none with
    | ok o => exact ⟨rfl, nofun⟩
    | error cause =>
      cases cause with
      | trapped => exact ⟨rfl, fun _ => htrap hresult⟩
      | limitTooLow | limitTooHigh | price => exact ⟨rfl, nofun⟩
  · exact ⟨rfl, nofun⟩

theorem swap_untrapped_banded :
    let o : Swap.State := ⟨0, -96450, 76269442902317397068302535535, -762, 1000000⟩
    banded.Admitted ∧ Machine.swap banded true 100000 none = Machine.safe (.ok o) ∧
      Machine.quote banded 100000 = some 96450 := by
  intro o
  have hticks : TickList.ofList bands.reverse 60 = .ok banded.ticks :=
    TickList.ofList_of_ascending (by decide) (by decide) (by decide)
  have hadmitted : banded.Admitted :=
    ⟨by decide, by decide, by decide, by decide, bands.reverse, 60, hticks, by decide, by decide⟩
  have hswap : banded.swap true 100000 none = .ok o := by decide +kernel
  have hquote : banded.quote? 100000 = some 96450 := by decide +kernel
  obtain ⟨hswaps, hquotes⟩ := swap_untrapped hadmitted
  refine ⟨hadmitted, ?_, ?_⟩
  · rw [(hswaps true 100000 none (by decide) (by decide)).1, hswap]
    rfl
  · rw [(hquotes 100000).1, hquote]

def extremes : List Tick :=
  [⟨-120, 0, 170141183460469231731687303715884105727⟩,
    ⟨-60, 0, -170141183460469231731687303715884105728⟩, ⟨60, 0, 1⟩]

/-- An edge next to a tick whose net cannot be negated. -/
def extreme : Concentrated where
  token0 := ⟨"A"⟩
  token1 := ⟨"B"⟩
  fee := 3000
  price := Price.q96
  liquidity := 1000000000000000000
  tick := 0
  ticks := ⟨60, extremes⟩
  zeroForOne := true
  rate := none

/-- The edge is let in, and a swap is trapped at its tick. -/
theorem swap_extreme_trapped :
    extreme.Admitted ∧ extreme.swap true 10000000000000000 none = .error .trapped ∧
      extreme.quote? 10000000000000000 = none ∧
      Machine.swap extreme true 10000000000000000 none = Machine.trap := by
  have hticks : TickList.ofList extremes 60 = .ok extreme.ticks :=
    TickList.ofList_of_ascending (by decide) (by decide) (by decide)
  refine ⟨⟨by decide, by decide, by decide, by decide, extremes, 60, hticks, by decide, by decide⟩,
    by decide +kernel, by decide +kernel, ?_⟩
  have hnone : (ExceptT.run (Machine.swap extreme true 10000000000000000 none)).isNone = true := by
    decide +kernel
  exact Option.isNone_iff_eq_none.mp hnone

end Concentrated

end LiquidityGraph
