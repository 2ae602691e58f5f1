import LiquidityGraph.Proofs.Machine.Basic
import LiquidityGraph.Proofs.Tick.Bitmap
import LiquidityGraph.Proofs.Tick.List
import Mathlib.Tactic.Linarith

/-!
Bitmap words on machine words. For every spacing in use the words of the supported range are named
by 16 bits, and no tick of theirs leaves 32 bits, whatever bits are set.
-/
namespace LiquidityGraph.Machine

open Price (maxTick minTick)

variable {ε : Type}

def low16 (i : Int) : Int := Word.toSigned 16 (Word.ofSigned 16 i)

def wordOf (spacing tick : Int) : Machine ε Int :=
  if spacing = 0 then trap
  else do
    let compressed ← signed 32 (tick / spacing)
    return compressed / 256

/-- The first and last word, named by 16 bits. -/
def wordRange (spacing : Int) : Machine ε (Int × Int) := do
  let first ← wordOf spacing minTick
  let last ← wordOf spacing maxTick
  return (low16 first, low16 last)

def tickOf (word spacing : Int) (bit : Nat) : Machine ε Int := do
  let base ← signed 32 (word * 256)
  let compressed ← signed 32 (base + bit)
  signed 32 (compressed * spacing)

def ticksIn (word : Int) (bitmap : Nat) (spacing : Int) : Machine ε (List Int) :=
  ((List.range 256).filter bitmap.testBit).mapM (tickOf word spacing)

variable {spacing word : Int}

private theorem low16_of_fits {i : Int} (hl : -32768 ≤ i) (hh : i < 32768) : low16 i = i :=
  Word.toSigned_ofSigned 15 hl hh

theorem mapM_safe {α β : Type} {f : α → Machine ε β} {g : α → β} {as : List α}
    (h : ∀ a ∈ as, f a = pure (g a)) : as.mapM f = pure (as.map g) := by
  induction as with
  | nil => rfl
  | cons a as ih =>
    obtain ⟨hfirst, hrest⟩ := List.forall_mem_cons.mp h
    rw [List.mapM_cons, hfirst, pure_bind, ih hrest, pure_bind, List.map_cons]

/-- The words of the range are near zero, and nearer for wider spacings. -/
theorem wordOf_range (hs : 0 < spacing) (hmin : Bitmap.wordOf spacing minTick ≤ word)
    (hmax : word ≤ Bitmap.wordOf spacing maxTick) : -3466 ≤ word ∧ word ≤ 3465 := by
  unfold Bitmap.wordOf at hmin hmax
  unfold minTick at hmin
  unfold maxTick at hmax
  have hlow : -887272 ≤ -887272 / spacing := Int.le_ediv_of_mul_le hs (by linarith)
  have hhigh : 887272 / spacing ≤ 887272 := Int.ediv_le_of_le_mul hs (by linarith)
  omega

theorem wordOf_safe (hs : 0 < spacing) {tick : Int} (hmin : minTick ≤ tick)
    (hmax : tick ≤ maxTick) :
    wordOf spacing tick = (pure (Bitmap.wordOf spacing tick) : Machine ε Int) := by
  unfold minTick at hmin
  unfold maxTick at hmax
  have hlow : -887272 ≤ tick / spacing := Int.le_ediv_of_mul_le hs (by linarith)
  have hhigh : tick / spacing ≤ 887272 := Int.ediv_le_of_le_mul hs (by linarith)
  have hne : spacing ≠ 0 := by omega
  rw [wordOf, if_neg hne, signed_32 (by omega) (by omega), pure_bind]
  rfl

theorem wordRange_safe (hs : 0 < spacing) :
    wordRange spacing = (pure (Bitmap.wordRange spacing) : Machine ε (Int × Int)) := by
  have hordered : Bitmap.wordOf spacing minTick ≤ Bitmap.wordOf spacing maxTick :=
    Bitmap.wordOf_le_wordOf hs (by decide)
  have hfirst := wordOf_range hs le_rfl hordered
  have hlast := wordOf_range hs hordered le_rfl
  rw [wordRange, wordOf_safe hs le_rfl (by decide), pure_bind]
  rw [wordOf_safe hs (by decide) le_rfl, pure_bind]
  rw [low16_of_fits (by omega) (by omega), low16_of_fits (by omega) (by omega)]
  rfl

/-- No bit of a word in the range stands for a tick that is far out of the range. -/
theorem tickOf_safe (hs : 0 < spacing) (hs' : spacing ≤ 32768) (hword : word ∈ Bitmap.words spacing)
    {bit : Nat} (hbit : bit < 256) :
    tickOf word spacing bit = (pure ((word * 256 + bit) * spacing) : Machine ε Int) := by
  obtain ⟨hmin, hmax⟩ := Bitmap.mem_words.mp hword
  obtain ⟨hlow, hhigh⟩ := wordOf_range hs hmin hmax
  have hfirst : minTick < (word * 256 + 256) * spacing := by
    have hbehind : minTick < (minTick / spacing + 1) * spacing :=
      Int.lt_ediv_add_one_mul_self minTick hs
    have hle : minTick / spacing + 1 ≤ word * 256 + 256 := by
      unfold Bitmap.wordOf at hmin
      omega
    exact hbehind.trans_le (Int.mul_le_mul_of_nonneg_right hle hs.le)
  have hlast : word * 256 * spacing ≤ maxTick := by
    have hle : word * 256 ≤ Bitmap.wordOf spacing maxTick * 256 := by omega
    exact (Int.mul_le_mul_of_nonneg_right hle hs.le).trans (TickList.word_mul_le hs maxTick)
  unfold minTick at hfirst
  unfold maxTick at hlast
  have hbelow : -2147483648 ≤ (word * 256 + bit) * spacing := by nlinarith
  have habove : (word * 256 + bit) * spacing < 2147483648 := by nlinarith
  rw [tickOf, signed_32 (by omega) (by omega), pure_bind]
  rw [signed_32 (by omega) (by omega), pure_bind]
  exact signed_32 hbelow habove

theorem ticksIn_safe (hs : 0 < spacing) (hs' : spacing ≤ 32768)
    (hword : word ∈ Bitmap.words spacing) (bitmap : Nat) :
    ticksIn word bitmap spacing =
      (pure (Bitmap.ticksIn word bitmap spacing) : Machine ε (List Int)) := by
  refine mapM_safe fun bit hbit => tickOf_safe hs hs' hword ?_
  exact List.mem_range.mp (List.mem_of_mem_filter hbit)

end LiquidityGraph.Machine
