import LiquidityGraph.Proofs.Machine.Price
import LiquidityGraph.Proofs.Price.TickRatio
import LiquidityGraph.Proofs.Tick.List
import LiquidityGraph.Tick.List

/-!
Ticks on machine words: the ratio at a tick, the search for the tick of a price, and the search for
the next tick of a list. No operation is trapped, and the search for a tick ends.
-/
namespace LiquidityGraph.Machine

open Price (ladder maxRatio maxTick minRatio minTick narrow)

def climb : List Nat → Nat → Nat → Machine PriceError Nat
  | [], _, acc => pure acc
  | f :: fs, n, acc =>
    if n % 2 = 1 then do
      let product ← unsigned 512 (acc * f : Nat)
      let acc ← safe (narrow (product / Word.size 128))
      climb fs (n / 2) acc
    else climb fs (n / 2) acc

/-- From 128 to 96 binary places, rounded up. -/
def shorten (wide : Nat) : Machine PriceError Nat :=
  if wide % Word.size 32 = 0 then pure (wide / Word.size 32)
  else unsigned 256 (wide / Word.size 32 + 1 : Nat)

def ratio (tick : Int) : Machine PriceError Nat := do
  let down ← climb ladder tick.natAbs (Word.size 128)
  let wide ← if 0 < tick then quotient (Word.size 256 - 1) down else pure down
  shorten wide

def ratioAt (tick : Int) : Machine PriceError Nat :=
  if minTick ≤ tick ∧ tick ≤ maxTick then ratio tick else throw (.tickOutOfBounds tick)

/-- Halves the range until one tick is left; a search that has not ended then is trapped. -/
def seek (price : Nat) : Nat → Int → Int → Machine PriceError Int
  | 0, low, high => if low < high then trap else pure low
  | rounds + 1, low, high =>
    if low < high then do
      let gap ← signed 32 (high - low)
      let span ← signed 32 (gap + 1)
      let middle ← signed 32 (low + span / 2)
      let found ← ratioAt middle
      if found ≤ price then seek price rounds middle high
      else
        let below ← signed 32 (middle - 1)
        seek price rounds low below
    else pure low

def tickAt (price : Nat) : Machine PriceError Int :=
  if minRatio ≤ price ∧ price < maxRatio then seek price 21 minTick maxTick
  else throw (.priceOutOfBounds price)

def compress (spacing tick : Int) : Machine PriceError Int :=
  if spacing = 0 then trap else signed 64 (tick / spacing)

def wordStart (spacing tick : Int) : Machine PriceError Int := do
  let compressed ← compress spacing tick
  let base ← signed 64 (compressed / 256 * 256)
  let bound ← signed 64 (base * spacing)
  return Word.saturate 32 bound

def wordEnd (spacing tick : Int) : Machine PriceError Int := do
  let compressed ← compress spacing tick
  let behind ← signed 64 (compressed + 1)
  let word ← signed 64 (behind / 256 + 1)
  let base ← signed 64 (word * 256)
  let bound ← signed 64 (base * spacing)
  let last ← signed 64 (bound - 1)
  return Word.saturate 32 last

def next (l : TickList) (tick : Int) (down : Bool) (spacing : Int) :
    Machine PriceError (Int × Bool) := do
  if down then
    let bound ← wordStart spacing tick
    match l.lastUpTo tick with
    | some t => if bound ≤ t.index then return (t.index, true) else return (bound, false)
    | none => return (bound, false)
  else
    let bound ← wordEnd spacing tick
    match l.firstAbove tick with
    | some t => if t.index ≤ bound then return (t.index, true) else return (bound, false)
    | none => return (bound, false)

section Ratio

variable {fs : List Nat}

private theorem climb_safe (hfs : ∀ f ∈ fs, f ≤ Word.size 128) {acc : Nat}
    (hacc : acc ≤ Word.size 128)
    (n : Nat) : climb fs n acc = pure (Price.climb fs n acc) := by
  induction fs generalizing n acc with
  | nil => rfl
  | cons f fs ih =>
    obtain ⟨hf, hfs⟩ := List.forall_mem_cons.mp hfs
    unfold climb Price.climb
    split_ifs
    · have hproduct : acc * f < Word.size 512 := by
        calc acc * f ≤ Word.size 128 * Word.size 128 := Nat.mul_le_mul hacc hf
          _ = Word.size 256 := (Word.size_add 128 128).symm
          _ < Word.size 512 := Word.size_lt (by decide)
      have hfall : acc * f / Word.size 128 ≤ acc :=
        Nat.div_le_of_le_mul (Nat.mul_comm acc f ▸ Nat.mul_le_mul_right acc hf)
      have hle : acc * f / Word.size 128 ≤ Word.size 128 := hfall.trans hacc
      have hfits : acc * f / Word.size 128 < Word.size 256 :=
        hle.trans_lt (Word.size_lt (by decide))
      rw [unsigned_natCast hproduct, pure_bind, narrow, if_pos hfits]
      exact ih hfs hle _
    · exact ih hfs hacc _

private theorem shorten_safe {wide : Nat} (h : wide < Word.size 256) :
    shorten wide = pure ((wide + (Word.size 32 - 1)) / Word.size 32) := by
  have hpos : 0 < Word.size 32 := Nat.two_pow_pos 32
  have hceil := ceilDiv_eq (n := wide) hpos
  rw [Price.ceilDiv, Nat.add_sub_assoc hpos] at hceil
  rw [shorten, hceil]
  split_ifs
  · rfl
  · have hfloor : wide / Word.size 32 < wide ∨ wide / Word.size 32 = 0 := by
      obtain rfl | hwide := Nat.eq_zero_or_pos wide
      · exact .inr (Nat.zero_div _)
      · exact .inl (Nat.div_lt_self hwide (Nat.one_lt_two_pow (by decide)))
    have hone : 1 < Word.size 256 := Nat.one_lt_two_pow (by decide)
    exact unsigned_natCast (by omega)

@[simp] theorem ratio_safe (tick : Int) : ratio tick = pure (Price.ratio tick) := by
  have hpos : 0 < Price.down tick.natAbs := lt_of_lt_of_le (by decide) (Price.parts_le_down _)
  have hdown : Price.down tick.natAbs < Word.size 256 :=
    (Price.down_le _).trans_lt (Word.size_lt (by decide))
  have hfull : Word.size 256 - 1 < Word.size 256 :=
    Nat.sub_lt (Nat.two_pow_pos 256) Nat.one_pos
  have hclimb : climb ladder tick.natAbs (Word.size 128) = pure (Price.down tick.natAbs) :=
    climb_safe Price.le_of_mem_ladder le_rfl _
  have hratio : Price.ratio tick =
      ((if 0 < tick then (Word.size 256 - 1) / Price.down tick.natAbs else
        Price.down tick.natAbs) + (Word.size 32 - 1)) / Word.size 32 := rfl
  rw [hratio, ratio, hclimb, pure_bind]
  by_cases hup : 0 < tick
  · rw [if_pos hup, if_pos hup, quotient_of_pos hpos, pure_bind]
    exact shorten_safe ((Nat.div_le_self _ _).trans_lt hfull)
  · rw [if_neg hup, if_neg hup, pure_bind]
    exact shorten_safe hdown

@[simp] theorem ratioAt_safe (tick : Int) : ratioAt tick = safe (Price.ratioAt tick) := by
  unfold ratioAt Price.ratioAt
  split_ifs
  · exact ratio_safe tick
  · rfl

end Ratio

section Search

variable {price : Nat} {tick low high : Int}

theorem seek_safe (hmin : minTick ≤ low) (hmax : high ≤ maxTick) (hlow : low ≤ tick)
    (hhigh : tick ≤ high) (hle : Price.ratio tick ≤ price) (hlt : price < Price.ratio (tick + 1))
    {rounds : Nat} (hgap : high - low < Word.size rounds) :
    seek price rounds low high = pure tick := by
  unfold minTick at hmin
  unfold maxTick at hmax
  induction rounds generalizing low high with
  | zero =>
    have hone : (Word.size 0 : Int) = 1 := rfl
    have hlast : ¬ low < high := by omega
    rw [seek, if_neg hlast]
    congr 1
    omega
  | succ rounds ih =>
    have hdouble : Word.size (rounds + 1) = Word.size rounds * 2 := Word.size_add rounds 1
    rw [seek]
    by_cases hopen : low < high
    · have hmiddle : minTick ≤ low + (high - low + 1) / 2 ∧
          low + (high - low + 1) / 2 ≤ maxTick := by
        unfold minTick maxTick
        omega
      rw [if_pos hopen, signed_32 (by omega) (by omega), pure_bind]
      rw [signed_32 (by omega) (by omega), pure_bind]
      rw [signed_32 (by omega) (by omega), pure_bind]
      rw [ratioAt, if_pos hmiddle, ratio_safe, pure_bind]
      by_cases hreached : low + (high - low + 1) / 2 ≤ tick
      · have hratio : Price.ratio (low + (high - low + 1) / 2) ≤ price := by
          refine (Price.ratio_le_ratio hmiddle.1 hreached ?_).trans hle
          unfold maxTick
          omega
        rw [if_pos hratio]
        exact ih (by omega) hmax hreached hhigh (by omega)
      · have hratio : ¬ Price.ratio (low + (high - low + 1) / 2) ≤ price := by
          refine not_le.mpr (hlt.trans_le (Price.ratio_le_ratio ?_ ?_ hmiddle.2))
          · unfold minTick
            omega
          · omega
        rw [if_neg hratio, signed_32 (by omega) (by omega), pure_bind]
        exact ih hmin (by omega) hlow (by omega) (by omega)
    · rw [if_neg hopen]
      congr 1
      omega

@[simp] theorem tickAt_safe (price : Nat) : tickAt price = safe (Price.tickAt price) := by
  cases htick : Price.tickAt price with
  | error e =>
    unfold Price.tickAt at htick
    unfold tickAt
    split_ifs at htick ⊢
    cases htick
    rfl
  | ok tick =>
    have hfloor : Price.Floor tick price := Price.tickAt_eq_ok htick
    rw [tickAt, if_pos hfloor.range]
    exact seek_safe le_rfl le_rfl hfloor.min_le hfloor.lt_max.le hfloor.ratio_le hfloor.lt_ratio
      (by decide)

/-- The ratios rise with the ticks, and the search for the tick of a price rounds it down to one of
them: it gives the tick back of each ratio but the last one, and refuses each other price. Both are
the same on machine words. -/
theorem tickAt_floor_inverse :
    (∀ tick, minTick ≤ tick → tick ≤ maxTick → Price.ratioAt tick = .ok (Price.ratio tick)) ∧
      (∀ a b, minTick ≤ a → a < b → b ≤ maxTick → Price.ratio a < Price.ratio b) ∧
      (∀ price, minRatio ≤ price → price < maxRatio → ∃ tick, Price.tickAt price = .ok tick ∧
        (∀ t, Price.Floor t price ↔ t = tick) ∧
        ∀ t, minTick ≤ t → t ≤ maxTick → Price.ratio t ≤ price → t ≤ tick) ∧
      (∀ tick, minTick ≤ tick → tick < maxTick → Price.tickAt (Price.ratio tick) = .ok tick) ∧
      (∀ price, price < minRatio ∨ maxRatio ≤ price →
        Price.tickAt price = .error (.priceOutOfBounds price)) ∧
      (∀ tick, ratioAt tick = safe (Price.ratioAt tick)) ∧
      ∀ price, tickAt price = safe (Price.tickAt price) := by
  refine ⟨fun tick => Price.ratioAt_of_range, fun a b => Price.ratio_lt_ratio,
    fun price hl hh => ?_, fun tick hl hh => ?_, fun price hout => ?_, ratioAt_safe, tickAt_safe⟩
  · obtain ⟨tick, htick⟩ := Price.exists_tickAt hl hh
    have hfloor : Price.Floor tick price := Price.tickAt_eq_ok htick
    refine ⟨tick, htick, fun t => ⟨hfloor.unique, ?_⟩, fun t _ => hfloor.greatest⟩
    rintro rfl
    exact hfloor
  · exact Price.tickAt_eq_ok_iff.mpr (.of_ratio hl hh)
  · have hrange : ¬ (minRatio ≤ price ∧ price < maxRatio) := by omega
    exact if_neg hrange

/-- The last price below the one of tick zero. -/
theorem tickAt_floor_inverse_below_par :
    (∀ t, minTick ≤ t → t ≤ maxTick → Price.ratio t ≤ Price.q96 - 1 → t ≤ -1) ∧
      tickAt (Price.q96 - 1) = safe (.ok (-1)) := by
  obtain ⟨-, -, hinverse, -, -, -, hsafe⟩ := tickAt_floor_inverse
  obtain ⟨tick, htick, hunique, hgreatest⟩ :=
    hinverse (Price.q96 - 1) (by decide) (by decide)
  have hfloor : Price.Floor (-1) (Price.q96 - 1) :=
    ⟨by decide, by decide, by decide +kernel, by decide +kernel⟩
  obtain rfl := (hunique (-1)).mp hfloor
  rw [hsafe, htick]
  exact ⟨hgreatest, rfl⟩

end Search

section Next

variable {spacing tick : Int}

theorem compress_safe (hs : 0 < spacing) (hl : -2147483648 ≤ tick) (hh : tick < 2147483648) :
    compress spacing tick = pure (tick / spacing) ∧
      -2147483648 ≤ tick / spacing ∧ tick / spacing ≤ 2147483648 := by
  have hlow : -2147483648 ≤ tick / spacing := by
    rw [Int.le_ediv_iff_mul_le hs]
    nlinarith
  have hhigh : tick / spacing ≤ 2147483648 := by
    refine Int.ediv_le_of_le_mul hs ?_
    nlinarith
  have hne : spacing ≠ 0 := by omega
  rw [compress, if_neg hne, signed_64 (by omega) (by omega)]
  exact ⟨rfl, hlow, hhigh⟩

theorem bound_fits (base : Int) (hs : 0 < spacing) (hs' : spacing < 2147483648)
    (hl : -4294967296 < base) (hh : base < 4294967296) :
    -9223372036854775808 < base * spacing ∧ base * spacing < 9223372036854775808 := by
  constructor <;> nlinarith

theorem wordStart_safe (hs : 0 < spacing) (hs' : spacing < 2147483648) (hl : -2147483648 ≤ tick)
    (hh : tick < 2147483648) :
    wordStart spacing tick = pure (TickList.wordStart spacing tick) := by
  obtain ⟨hcompress, hlow, hhigh⟩ := compress_safe hs hl hh
  have hbound := bound_fits (tick / spacing / 256 * 256) hs hs' (by omega) (by omega)
  unfold wordStart TickList.wordStart
  rw [hcompress, pure_bind, signed_64 (by omega) (by omega), pure_bind]
  rw [signed_64 hbound.1.le hbound.2, pure_bind]

theorem wordEnd_safe (hs : 0 < spacing) (hs' : spacing < 2147483648) (hl : -2147483648 ≤ tick)
    (hh : tick < 2147483648) :
    wordEnd spacing tick = pure (TickList.wordEnd spacing tick) := by
  obtain ⟨hcompress, hlow, hhigh⟩ := compress_safe hs hl hh
  have hbound := bound_fits (((tick / spacing + 1) / 256 + 1) * 256) hs hs' (by omega) (by omega)
  unfold wordEnd TickList.wordEnd
  rw [hcompress, pure_bind, signed_64 (by omega) (by omega), pure_bind]
  rw [signed_64 (by omega) (by omega), pure_bind, signed_64 (by omega) (by omega), pure_bind]
  rw [signed_64 hbound.1.le hbound.2, pure_bind, signed_64 (by omega) (by omega), pure_bind]

theorem next_safe (l : TickList) (down : Bool) (hs : 0 < spacing) (hs' : spacing < 2147483648)
    (hl : -2147483648 ≤ tick) (hh : tick < 2147483648) :
    next l tick down spacing = pure (l.next tick down spacing) := by
  unfold next TickList.next
  split_ifs
  · rw [wordStart_safe hs hs' hl hh, pure_bind]
    cases l.lastUpTo tick with
    | none => rfl
    | some t =>
      dsimp only
      split_ifs <;> rfl
  · rw [wordEnd_safe hs hs' hl hh, pure_bind]
    cases l.firstAbove tick with
    | none => rfl
    | some t =>
      dsimp only
      split_ifs <;> rfl

end Next

end LiquidityGraph.Machine
