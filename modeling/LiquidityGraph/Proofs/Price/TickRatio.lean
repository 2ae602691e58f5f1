import LiquidityGraph.Price.TickRatio
import Mathlib.Tactic.Linarith
import Mathlib.Tactic.Ring

/-!
The ratios rise from tick to tick. The products of the ladder for `n` and for `n + 1` share the
factors above the lowest clear bit of `n`: a checked gap below that bit outlives the rounding.
-/
namespace LiquidityGraph.Price

/-- What gaps are counted in. -/
def parts : Nat := 2 ^ 52

/-- `x` is above `y` by at least `gap` parts of it. -/
def Exceeds (gap x y : Nat) : Prop :=
  y * (parts + gap) ≤ x * parts

instance (gap x y : Nat) : Decidable (Exceeds gap x y) :=
  inferInstanceAs (Decidable (_ ≤ _))

theorem Exceeds.mono {gap gap' x y : Nat} (h : Exceeds gap x y) (hle : gap' ≤ gap) :
    Exceeds gap' x y :=
  (Nat.mul_le_mul_left y (Nat.add_le_add_left hle parts)).trans h

/-- A gap loses at most one part when both sides are scaled and rounded down. -/
theorem Exceeds.scale {gap x y f s : Nat} (h : Exceeds (gap + 1) x y) (hs : 0 < s)
    (hy : parts ≤ y * f / s) : Exceeds gap (x * f / s) (y * f / s) := by
  unfold Exceeds at *
  have hfloor : y * f / s * s ≤ y * f := Nat.div_mul_le_self _ _
  have hceil : x * f < (x * f / s + 1) * s := by
    rw [add_one_mul]
    exact Nat.lt_div_mul_add hs
  have hlt : y * f / s * (parts + (gap + 1)) * s < (x * f / s + 1) * parts * s := by
    calc y * f / s * (parts + (gap + 1)) * s
        = y * f / s * s * (parts + (gap + 1)) := by ring
      _ ≤ y * f * (parts + (gap + 1)) := Nat.mul_le_mul_right _ hfloor
      _ = y * (parts + (gap + 1)) * f := by ring
      _ ≤ x * parts * f := Nat.mul_le_mul_right _ h
      _ = x * f * parts := by ring
      _ < (x * f / s + 1) * s * parts := Nat.mul_lt_mul_of_pos_right hceil (by decide)
      _ = (x * f / s + 1) * parts * s := by ring
  have := Nat.lt_of_mul_lt_mul_right hlt
  linarith

theorem Exceeds.add_le {gap x y : Nat} (h : Exceeds gap x y) (hy : parts ≤ y) :
    y + gap ≤ x := by
  refine Nat.le_of_mul_le_mul_right (c := parts) ?_ (by decide)
  calc (y + gap) * parts = y * parts + parts * gap := by ring
    _ ≤ y * parts + y * gap := Nat.add_le_add_left (Nat.mul_le_mul_right gap hy) _
    _ = y * (parts + gap) := by ring
    _ ≤ x * parts := h

/-- A gap between two divisors is one between the quotients. -/
theorem Exceeds.div_add_le {gap x y n d : Nat} (h : Exceeds gap x y) (hy : 0 < y)
    (hn : d * y * (parts + gap) ≤ n * gap) : n / x + d ≤ n / y := by
  refine (Nat.le_div_iff_mul_le hy).mpr (Nat.le_of_mul_le_mul_right (c := parts + gap) ?_ ?_)
  · calc (n / x + d) * y * (parts + gap)
        = n / x * (y * (parts + gap)) + d * y * (parts + gap) := by ring
      _ ≤ n / x * (x * parts) + n * gap := Nat.add_le_add (Nat.mul_le_mul_left _ h) hn
      _ = n / x * x * parts + n * gap := by ring
      _ ≤ n * parts + n * gap :=
        Nat.add_le_add_right (Nat.mul_le_mul_right parts (Nat.div_mul_le_self n x)) _
      _ = n * (parts + gap) := by ring
  · exact Nat.add_pos_left (by decide) gap

variable {fs : List Nat}

theorem climb_le (hfs : ∀ f ∈ fs, f ≤ Word.size 128) (n acc : Nat) : climb fs n acc ≤ acc := by
  induction fs generalizing n acc with
  | nil => exact le_rfl
  | cons f fs ih =>
    obtain ⟨hf, hfs⟩ := List.forall_mem_cons.mp hfs
    refine (ih hfs _ _).trans ?_
    split
    · exact Nat.div_le_of_le_mul (Nat.mul_comm acc f ▸ Nat.mul_le_mul_right acc hf)
    · exact le_rfl

/-- No product is below the one of all factors. -/
theorem foldl_le_climb (hfs : ∀ f ∈ fs, f ≤ Word.size 128) {acc acc' : Nat} (h : acc ≤ acc')
    (n : Nat) : fs.foldl (fun acc f => acc * f / Word.size 128) acc ≤ climb fs n acc' := by
  induction fs generalizing n acc acc' with
  | nil => exact h
  | cons f fs ih =>
    obtain ⟨hf, hfs⟩ := List.forall_mem_cons.mp hfs
    refine ih hfs ?_ _
    split
    · exact Nat.div_le_div_right (Nat.mul_le_mul_right f h)
    · refine le_trans (Nat.div_le_of_le_mul ?_) h
      exact Nat.mul_comm acc f ▸ Nat.mul_le_mul_right acc hf

theorem Exceeds.climb (hfs : ∀ f ∈ fs, f ≤ Word.size 128) {gap x y n : Nat}
    (h : Exceeds (gap + fs.length) x y) (hy : parts ≤ climb fs n y) :
    Exceeds gap (climb fs n x) (climb fs n y) := by
  induction fs generalizing n x y with
  | nil => exact h
  | cons f fs ih =>
    obtain ⟨-, hfs⟩ := List.forall_mem_cons.mp hfs
    rw [List.length_cons, ← Nat.add_assoc] at h
    unfold Price.climb at hy ⊢
    split_ifs at hy ⊢ with hbit
    · refine ih hfs (h.scale (by decide) ?_) hy
      exact hy.trans (climb_le hfs _ _)
    · exact ih hfs (h.mono (Nat.le_succ _)) hy

/-- Each factor is below the product of all factors before it. -/
def steep : List Nat → Nat → Bool
  | [], _ => true
  | f :: fs, acc => Exceeds (2 ^ 37 + fs.length) acc f && steep fs (acc * f / Word.size 128)

private theorem climb_succ (hfs : ∀ f ∈ fs, f ≤ Word.size 128)
    (hlow : ∀ n, parts ≤ climb fs n (Word.size 128)) {n acc : Nat} (h : steep fs acc)
    (hn : n + 1 < 2 ^ fs.length) :
    Exceeds (2 ^ 37) (climb fs n acc) (climb fs (n + 1) (Word.size 128)) := by
  induction fs generalizing n acc with
  | nil => simp at hn
  | cons f fs ih =>
    obtain ⟨-, hfs'⟩ := List.forall_mem_cons.mp hfs
    obtain ⟨hgap, hsteep⟩ := Bool.and_eq_true_iff.mp h
    have hone : Word.size 128 * f / Word.size 128 = f := Nat.mul_div_cancel_left f (by decide)
    rw [List.length_cons, Nat.pow_succ] at hn
    by_cases hbit : n % 2 = 1
    -- the carry goes on: `n` takes the factor in, `n + 1` does not
    · have heven : ¬ (n + 1) % 2 = 1 := by omega
      have hhalf : (n + 1) / 2 = n / 2 + 1 := by omega
      rw [climb, climb, if_pos hbit, if_neg heven, hhalf]
      refine ih hfs' (fun m => ?_) hsteep (by omega)
      have hdouble := hlow (2 * m)
      rwa [climb, if_neg (by omega), Nat.mul_div_cancel_left m (by decide)] at hdouble
    -- the carry ends here, and the factors above are the same
    · have hodd : (n + 1) % 2 = 1 := by omega
      have hhalf : (n + 1) / 2 = n / 2 := by omega
      have hnext := hlow (n + 1)
      rw [climb, if_pos hodd, hhalf, hone] at hnext
      rw [climb, climb, if_neg hbit, if_pos hodd, hhalf, hone]
      exact Exceeds.climb hfs' (of_decide_eq_true hgap) hnext

theorem le_of_mem_ladder : ∀ f ∈ ladder, f ≤ Word.size 128 := by decide +kernel

/-- The reciprocal of the ratio at a tick, in 128-bit binary fixed point. -/
def down (n : Nat) : Nat := climb ladder n (Word.size 128)

theorem down_le (n : Nat) : down n ≤ Word.size 128 :=
  climb_le le_of_mem_ladder n _

theorem parts_le_down (n : Nat) : parts ≤ down n := by
  have hall : parts ≤ ladder.foldl (fun acc f => acc * f / Word.size 128) (Word.size 128) := by
    decide +kernel
  exact hall.trans (foldl_le_climb le_of_mem_ladder le_rfl n)

private theorem down_succ {n : Nat} (hn : n + 1 < 2 ^ 20) :
    Exceeds (2 ^ 37) (down n) (down (n + 1)) := by
  have hsteep : steep ladder (Word.size 128) := by decide +kernel
  exact climb_succ le_of_mem_ladder parts_le_down hsteep hn

theorem ratio_neg (n : Nat) : ratio (-n) = (down n + (Word.size 32 - 1)) / Word.size 32 := by
  have hneg : ¬ 0 < -(n : Int) := by omega
  rw [ratio, if_neg hneg, Int.natAbs_neg, Int.natAbs_natCast]
  rfl

theorem ratio_natCast (n : Nat) :
    ratio n = ((Word.size 256 - 1) / down n + (Word.size 32 - 1)) / Word.size 32 := by
  cases n with
  | zero => decide +kernel
  | succ n =>
    rw [ratio, if_pos (by omega), Int.natAbs_natCast]
    rfl

private theorem ceil_lt {x y s : Nat} (hs : 0 < s) (h : y + s ≤ x) :
    (y + (s - 1)) / s < (x + (s - 1)) / s := by
  have hstep : (y + (s - 1)) / s + 1 = (y + (s - 1) + s) / s := (Nat.add_div_right _ hs).symm
  have hle : (y + (s - 1) + s) / s ≤ (x + (s - 1)) / s := Nat.div_le_div_right (by omega)
  omega

theorem ratio_lt_succ {t : Int} (hl : -2 ^ 20 < t) (hh : t + 1 < 2 ^ 20) :
    ratio t < ratio (t + 1) := by
  obtain ⟨n, rfl⟩ | ⟨n, ht⟩ : (∃ n : Nat, t = n) ∨ ∃ n : Nat, t = -(n + 1 : Nat) := by
    cases t with
    | ofNat n => exact .inl ⟨n, rfl⟩
    | negSucc n => exact .inr ⟨n, rfl⟩
  · have hgap := down_succ (n := n) (by omega)
    have hpos : 0 < down (n + 1) := lt_of_lt_of_le (by decide) (parts_le_down (n + 1))
    rw [← Int.natCast_succ, ratio_natCast, ratio_natCast]
    refine ceil_lt (by decide) (hgap.div_add_le hpos ?_)
    calc Word.size 32 * down (n + 1) * (parts + 2 ^ 37)
        ≤ Word.size 32 * Word.size 128 * (parts + 2 ^ 37) :=
          Nat.mul_le_mul_right _ (Nat.mul_le_mul_left _ (down_le (n + 1)))
      _ ≤ (Word.size 256 - 1) * 2 ^ 37 := by decide
  · have hgap := down_succ (n := n) (by omega)
    have hsucc : t + 1 = -(n : Int) := by omega
    rw [hsucc, ht, ratio_neg, ratio_neg]
    refine ceil_lt (by decide) (le_trans ?_ (hgap.add_le (parts_le_down (n + 1))))
    exact Nat.add_le_add_left (by decide) _

theorem ratio_lt_ratio {a b : Int} (hl : minTick ≤ a) (h : a < b) (hh : b ≤ maxTick) :
    ratio a < ratio b := by
  unfold minTick at hl
  unfold maxTick at hh
  obtain ⟨k, hk⟩ : ∃ k : Nat, b = a + 1 + k := ⟨(b - (a + 1)).toNat, by omega⟩
  induction k generalizing b with
  | zero =>
    rw [hk, Int.natCast_zero, Int.add_zero]
    exact ratio_lt_succ (by omega) (by omega)
  | succ k ih =>
    have hlast : ratio (b - 1) < ratio (b - 1 + 1) := ratio_lt_succ (by omega) (by omega)
    rw [Int.sub_add_cancel] at hlast
    exact (ih (by omega) (by omega) (by omega)).trans hlast

theorem ratio_le_ratio {a b : Int} (hl : minTick ≤ a) (h : a ≤ b) (hh : b ≤ maxTick) :
    ratio a ≤ ratio b := by
  obtain rfl | h := h.eq_or_lt
  · exact le_rfl
  · exact (ratio_lt_ratio hl h hh).le

theorem lt_of_ratio_lt {a b : Int} (hb : minTick ≤ b) (ha : a ≤ maxTick)
    (h : ratio a < ratio b) : a < b :=
  not_le.mp fun hle => absurd (ratio_le_ratio hb hle ha) (not_le.mpr h)

theorem ratioAt_of_range {tick : Int} (hl : minTick ≤ tick) (hh : tick ≤ maxTick) :
    ratioAt tick = .ok (ratio tick) := by
  rw [ratioAt, if_pos ⟨hl, hh⟩]

@[simp] theorem ratio_minTick : ratio minTick = minRatio := by decide +kernel

@[simp] theorem ratio_maxTick : ratio maxTick = maxRatio := by decide +kernel

/-- The search by bits ends at a tick whose ratio is at most the price, next to one whose ratio
is above it. -/
theorem raiseTick_spec {price bits : Nat} {tick found : Int} (hle : ratio tick ≤ price)
    (hrange : tick ≤ maxTick)
    (habove : tick + Word.size bits ≤ maxTick → price < ratio (tick + Word.size bits))
    (h : raiseTick price bits tick = found) :
    tick ≤ found ∧ found ≤ maxTick ∧ ratio found ≤ price ∧
      (found + 1 ≤ maxTick → price < ratio (found + 1)) := by
  induction bits generalizing tick with
  | zero =>
    subst h
    exact ⟨le_rfl, hrange, hle, habove⟩
  | succ bits ih =>
    have hdouble : (Word.size (bits + 1) : Int) = Word.size bits + Word.size bits := by
      simp only [Word.size, Nat.pow_eq, Nat.pow_succ]
      omega
    rw [hdouble, ← Int.add_assoc] at habove
    simp only [raiseTick] at h
    split_ifs at h with hraise
    · obtain ⟨hup, hfound⟩ := ih hraise.2 hraise.1 habove h
      exact ⟨by omega, hfound⟩
    · exact ih hle hrange (fun hnext => not_le.mp fun h => hraise ⟨hnext, h⟩) h

/-- The tick that a price is rounded down to. -/
structure Floor (tick : Int) (price : Nat) : Prop where
  min_le : minTick ≤ tick
  lt_max : tick < maxTick
  ratio_le : ratio tick ≤ price
  lt_ratio : price < ratio (tick + 1)

/-- `tickAt` is the floor inverse of `ratio`. -/
theorem tickAt_eq_ok {price : Nat} {tick : Int} (h : tickAt price = .ok tick) :
    Floor tick price := by
  unfold tickAt at h
  split_ifs at h with hprice
  cases h
  have hstart : ratio minTick ≤ price := ratio_minTick.trans_le hprice.1
  have hwide : ¬ minTick + (Word.size 21 : Int) ≤ maxTick := by decide
  obtain ⟨hl, hh, hle, hlt⟩ :=
    raiseTick_spec hstart (by decide) (fun hover => absurd hover hwide) rfl
  have hne : raiseTick price 21 minTick ≠ maxTick := fun heq => by
    rw [heq, ratio_maxTick] at hle
    exact absurd hprice.2 (not_lt.mpr hle)
  exact ⟨hl, by omega, hle, hlt (by omega)⟩

theorem Floor.greatest {price : Nat} {tick t : Int} (h : Floor tick price) (ht : t ≤ maxTick)
    (hle : ratio t ≤ price) : t ≤ tick := by
  have hnext : minTick ≤ tick + 1 := h.min_le.trans (Int.lt_succ tick).le
  exact Int.lt_add_one_iff.mp (lt_of_ratio_lt hnext ht (hle.trans_lt h.lt_ratio))

theorem Floor.unique {price : Nat} {tick t : Int} (h : Floor tick price) (h' : Floor t price) :
    t = tick := by
  have hle : t ≤ tick := h.greatest h'.lt_max.le h'.ratio_le
  have hge : tick ≤ t := h'.greatest h.lt_max.le h.ratio_le
  exact le_antisymm hle hge

theorem Floor.of_ratio {tick : Int} (hl : minTick ≤ tick) (hh : tick < maxTick) :
    Floor tick (ratio tick) :=
  ⟨hl, hh, le_rfl, ratio_lt_ratio hl (Int.lt_succ tick) hh⟩

theorem Floor.range {price : Nat} {tick : Int} (h : Floor tick price) :
    minRatio ≤ price ∧ price < maxRatio := by
  have hlow : ratio minTick ≤ ratio tick := ratio_le_ratio le_rfl h.min_le h.lt_max.le
  have hhigh : ratio (tick + 1) ≤ ratio maxTick :=
    ratio_le_ratio (h.min_le.trans (Int.lt_succ tick).le) h.lt_max le_rfl
  rw [ratio_minTick] at hlow
  rw [ratio_maxTick] at hhigh
  exact ⟨hlow.trans h.ratio_le, h.lt_ratio.trans_le hhigh⟩

theorem exists_tickAt {price : Nat} (hl : minRatio ≤ price) (hh : price < maxRatio) :
    ∃ tick, tickAt price = .ok tick :=
  ⟨raiseTick price 21 minTick, if_pos ⟨hl, hh⟩⟩

theorem tickAt_eq_ok_iff {price : Nat} {tick : Int} :
    tickAt price = .ok tick ↔ Floor tick price := by
  refine ⟨tickAt_eq_ok, fun h => ?_⟩
  obtain ⟨found, hfound⟩ := exists_tickAt h.range.1 h.range.2
  rw [hfound, h.unique (tickAt_eq_ok hfound)]

/-- A price of a tick lies between the ratios of this tick and of the next one. -/
structure Within (tick : Int) (price : Nat) : Prop where
  min_le : minTick ≤ tick
  lt_max : tick < maxTick
  ratio_le : ratio tick ≤ price
  le_ratio : price ≤ ratio (tick + 1)

theorem within_of_tickAt {price : Nat} {tick : Int} (h : tickAt price = .ok tick) :
    Within tick price := by
  have hfloor := tickAt_eq_ok h
  exact ⟨hfloor.min_le, hfloor.lt_max, hfloor.ratio_le, hfloor.lt_ratio.le⟩

theorem Within.tick_le {a b : Int} {p q : Nat} (ha : Within a p) (hb : Within b q)
    (h : p < q) : a ≤ b := by
  have hlt : ratio a < ratio (b + 1) := ha.ratio_le.trans_lt (h.trans_le hb.le_ratio)
  have hmin : minTick ≤ b + 1 := hb.min_le.trans (Int.lt_succ_self b).le
  exact Int.lt_add_one_iff.mp (lt_of_ratio_lt hmin ha.lt_max.le hlt)

end LiquidityGraph.Price
