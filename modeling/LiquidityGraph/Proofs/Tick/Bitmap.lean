import LiquidityGraph.Tick.Bitmap
import Mathlib.Combinatorics.Colex
import Mathlib.Data.Finset.Sort
import Mathlib.Data.Int.ConditionallyCompleteOrder
import Mathlib.Data.Nat.BitIndices
import Mathlib.Tactic.Ring

/-!
Ticks written into bitmap words and read back. Whatever ticks of the supported range stand on a
spacing, the words of the range give back each of them once, in ascending order.
-/
namespace LiquidityGraph.Bitmap

open Price (maxTick minTick)

def bitOf (spacing tick : Int) : Nat := (tick / spacing % 256).toNat

/-- The bits of a word that ticks set. -/
def bitsOf (ticks : Finset Int) (spacing word : Int) : Finset Nat :=
  {tick ∈ ticks | wordOf spacing tick = word}.image (bitOf spacing)

/-- A bitmap word in which ticks have set their bits. -/
def encode (ticks : Finset Int) (spacing word : Int) : Nat :=
  ∑ bit ∈ bitsOf ticks spacing word, 2 ^ bit

/-- Ticks of the supported range on a spacing. -/
structure Spaced (ticks : Finset Int) (spacing : Int) : Prop where
  range : ∀ tick ∈ ticks, minTick ≤ tick ∧ tick ≤ maxTick
  multiple : ∀ tick ∈ ticks, spacing ∣ tick

variable {ticks : Finset Int} {spacing word : Int} {bit : Nat}

theorem testBit_encode : (encode ticks spacing word).testBit bit ↔
    ∃ tick ∈ ticks, wordOf spacing tick = word ∧ bitOf spacing tick = bit := by
  have hbits : (encode ticks spacing word).testBit bit ↔ bit ∈ bitsOf ticks spacing word := by
    rw [encode, ← Nat.mem_bitIndices, ← List.mem_toFinset, Finset.toFinset_bitIndices_sum_two_pow]
  rw [hbits]
  simp only [bitsOf, Finset.mem_image, Finset.mem_filter, and_assoc]

theorem bitOf_lt (spacing tick : Int) : bitOf spacing tick < 256 := by
  unfold bitOf
  omega

theorem mul_wordOf_add_bitOf {tick : Int} (h : spacing ∣ tick) :
    (wordOf spacing tick * 256 + bitOf spacing tick) * spacing = tick := by
  have hcompressed : wordOf spacing tick * 256 + bitOf spacing tick = tick / spacing := by
    unfold wordOf bitOf
    omega
  rw [hcompressed, Int.ediv_mul_cancel h]

theorem mem_words : word ∈ words spacing ↔
    wordOf spacing minTick ≤ word ∧ word ≤ wordOf spacing maxTick := by
  simp only [words, wordRange, List.mem_map, List.mem_range]
  constructor
  · rintro ⟨i, hi, rfl⟩
    omega
  · rintro ⟨hmin, hmax⟩
    exact ⟨(word - wordOf spacing minTick).toNat, by omega, by omega⟩

theorem words_ascending (spacing : Int) : (words spacing).Pairwise (· < ·) := by
  refine List.pairwise_map.mpr (List.pairwise_lt_range.imp fun hlt => ?_)
  omega

theorem mem_ticksIn {bitmap : Nat} {tick : Int} : tick ∈ ticksIn word bitmap spacing ↔
    ∃ bit : Nat, bit < 256 ∧ bitmap.testBit bit ∧ (word * 256 + bit) * spacing = tick := by
  simp only [ticksIn, List.mem_map, List.mem_filter, List.mem_range, and_assoc]

theorem ticksIn_ascending (hspacing : 0 < spacing) (word : Int) (bitmap : Nat) :
    (ticksIn word bitmap spacing).Pairwise (· < ·) := by
  refine List.pairwise_map.mpr ((List.pairwise_lt_range.filter _).imp fun hlt => ?_)
  exact Int.mul_lt_mul_of_pos_right (by omega) hspacing

theorem wordOf_le_wordOf (hspacing : 0 < spacing) {a b : Int} (h : a ≤ b) :
    wordOf spacing a ≤ wordOf spacing b :=
  Int.ediv_le_ediv (by decide) (Int.ediv_le_ediv hspacing h)

theorem mem_ticksIn_encode (h : Spaced ticks spacing) {tick : Int} :
    tick ∈ ticksIn word (encode ticks spacing word) spacing ↔
      tick ∈ ticks ∧ wordOf spacing tick = word := by
  rw [mem_ticksIn]
  constructor
  · rintro ⟨bit, -, hbit, rfl⟩
    obtain ⟨tick, htick, rfl, rfl⟩ := testBit_encode.mp hbit
    rw [mul_wordOf_add_bitOf (h.multiple tick htick)]
    exact ⟨htick, rfl⟩
  · rintro ⟨htick, rfl⟩
    exact ⟨bitOf spacing tick, bitOf_lt spacing tick, testBit_encode.mpr ⟨tick, htick, rfl, rfl⟩,
      mul_wordOf_add_bitOf (h.multiple tick htick)⟩

/-- Words in a row hold ticks in a row. -/
theorem flatMap_ascending (hspacing : 0 < spacing) (bitmap : Int → Nat) :
    ((words spacing).flatMap fun word => ticksIn word (bitmap word) spacing).Pairwise
      (· < ·) := by
  refine List.pairwise_flatMap.mpr ⟨fun word _ => ticksIn_ascending hspacing word _, ?_⟩
  refine (words_ascending spacing).imp fun {low high} hlt a ha b hb => ?_
  obtain ⟨bit, hbit, -, rfl⟩ := mem_ticksIn.mp ha
  obtain ⟨bit', -, -, rfl⟩ := mem_ticksIn.mp hb
  exact Int.mul_lt_mul_of_pos_right (by omega) hspacing

/-- The words of the supported range hold all its ticks. -/
theorem flatMap_encode (hspacing : 0 < spacing) (h : Spaced ticks spacing) :
    ((words spacing).flatMap fun word => ticksIn word (encode ticks spacing word) spacing) =
      ticks.sort (· ≤ ·) := by
  have hascending := flatMap_ascending hspacing (encode ticks spacing)
  have hsame : ((words spacing).flatMap fun word =>
      ticksIn word (encode ticks spacing word) spacing).toFinset = ticks := by
    ext tick
    simp only [List.mem_toFinset, List.mem_flatMap, mem_ticksIn_encode h]
    constructor
    · rintro ⟨_, -, htick, -⟩
      exact htick
    · intro htick
      obtain ⟨hmin, hmax⟩ := h.range tick htick
      exact ⟨_, mem_words.mpr ⟨wordOf_le_wordOf hspacing hmin, wordOf_le_wordOf hspacing hmax⟩,
        htick, rfl⟩
  have hdistinct := hascending.imp fun hlt => hlt.ne
  have hsorted := (List.toFinset_sort (· ≤ ·) hdistinct).mpr (hascending.imp fun hlt => hlt.le)
  rw [hsame] at hsorted
  exact hsorted.symm

end LiquidityGraph.Bitmap
