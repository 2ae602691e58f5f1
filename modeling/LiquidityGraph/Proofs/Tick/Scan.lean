import LiquidityGraph.Proofs.Tick.List
import Mathlib.Data.Int.ConditionallyCompleteOrder
import Mathlib.Order.ConditionallyCompleteLattice.Basic
import Mathlib.Tactic.Ring

/-!
The search for the next tick as a scan of the list: it ends at the nearest initialized index up to
the bound of the word, and at the bound if there is none.
-/
namespace LiquidityGraph.TickList

variable {l : TickList} {indexes : Set Int} {Nearest : Set Int → Int → Prop} {i : Int}

/-- The indexes in an interval that ticks of the list stand at. -/
def indexesIn (l : TickList) (interval : Set Int) : Set Int :=
  {i | i ∈ interval ∧ ∃ t ∈ l.ticks, t.index = i}

/-- What a scan of some indexes answers: the nearest of them with a flag, or the bound without one
if there is none. -/
structure Scan (Nearest : Set Int → Int → Prop) (indexes : Set Int) (bound : Int)
    (answer : Int × Bool) : Prop where
  initialized : ∀ i, answer = (i, true) ↔ Nearest indexes i
  bare : answer = (bound, false) ↔ indexes = ∅

theorem Scan.of_nearest (h : Nearest indexes i) (hmem : i ∈ indexes)
    (hunique : ∀ j, Nearest indexes j → i = j) (bound : Int) :
    Scan Nearest indexes bound (i, true) where
  initialized j := by
    refine ⟨fun hij => ?_, fun hj => by rw [hunique j hj]⟩
    obtain rfl := (Prod.mk.inj hij).1
    exact h
  bare := by
    refine ⟨fun hflag => absurd (Prod.mk.inj hflag).2.symm Bool.false_ne_true, fun hempty => ?_⟩
    rw [hempty] at hmem
    exact hmem.elim

theorem Scan.of_empty (h : indexes = ∅) (hmem : ∀ i, Nearest indexes i → i ∈ indexes)
    (bound : Int) : Scan Nearest indexes bound (bound, false) where
  initialized j := by
    refine ⟨fun hflag => absurd (Prod.mk.inj hflag).2 Bool.false_ne_true, fun hj => ?_⟩
    have hin := hmem j hj
    rw [h] at hin
    exact hin.elim
  bare := ⟨fun _ => h, fun _ => rfl⟩

theorem scan_down (hl : l.Ordered) (tick spacing : Int) :
    Scan IsGreatest (l.indexesIn (Set.Icc (wordStart spacing tick) tick)) (wordStart spacing tick)
      (l.next tick true spacing) := by
  rw [next, if_pos rfl]
  cases hlast : l.lastUpTo tick with
  | none =>
    have hnone := lastUpTo_eq_none hl hlast
    refine .of_empty (Set.eq_empty_iff_forall_notMem.mpr ?_) (fun _ hj => hj.1) _
    rintro _ ⟨⟨-, hle⟩, u, hu, rfl⟩
    exact absurd (hnone u hu) (not_lt.mpr hle)
  | some t =>
    obtain ⟨ht, hle, hhighest⟩ := lastUpTo_eq_some hl hlast
    dsimp only
    split_ifs with hbound
    · have hmem : t.index ∈ l.indexesIn (Set.Icc (wordStart spacing tick) tick) :=
        ⟨⟨hbound, hle⟩, t, ht, rfl⟩
      have hgreatest :
          IsGreatest (l.indexesIn (Set.Icc (wordStart spacing tick) tick)) t.index := by
        refine ⟨hmem, ?_⟩
        rintro _ ⟨⟨-, hu'⟩, u, hu, rfl⟩
        exact hhighest u hu hu'
      exact .of_nearest hgreatest hmem (fun _ hj => hgreatest.unique hj) _
    · refine .of_empty (Set.eq_empty_iff_forall_notMem.mpr ?_) (fun _ hj => hj.1) _
      rintro _ ⟨⟨hstart, hu'⟩, u, hu, rfl⟩
      exact hbound (hstart.trans (hhighest u hu hu'))

theorem scan_up (hl : l.Ordered) (tick spacing : Int) :
    Scan IsLeast (l.indexesIn (Set.Ioc tick (wordEnd spacing tick))) (wordEnd spacing tick)
      (l.next tick false spacing) := by
  rw [next, if_neg Bool.false_ne_true]
  cases hfirst : l.firstAbove tick with
  | none =>
    have hnone := firstAbove_eq_none hl hfirst
    refine .of_empty (Set.eq_empty_iff_forall_notMem.mpr ?_) (fun _ hj => hj.1) _
    rintro _ ⟨⟨hlt, -⟩, u, hu, rfl⟩
    exact absurd (hnone u hu) (not_le.mpr hlt)
  | some t =>
    obtain ⟨ht, hlt, hlowest⟩ := firstAbove_eq_some hl hfirst
    dsimp only
    split_ifs with hbound
    · have hmem : t.index ∈ l.indexesIn (Set.Ioc tick (wordEnd spacing tick)) :=
        ⟨⟨hlt, hbound⟩, t, ht, rfl⟩
      have hleast : IsLeast (l.indexesIn (Set.Ioc tick (wordEnd spacing tick))) t.index := by
        refine ⟨hmem, ?_⟩
        rintro _ ⟨⟨hu', -⟩, u, hu, rfl⟩
        exact hlowest u hu hu'
      exact .of_nearest hleast hmem (fun _ hj => hleast.unique hj) _
    · refine .of_empty (Set.eq_empty_iff_forall_notMem.mpr ?_) (fun _ hj => hj.1) _
      rintro _ ⟨⟨hu', hend⟩, u, hu, rfl⟩
      exact hbound ((hlowest u hu hu').trans hend)

/-- A word starts at the last multiple of 256 spacings up to the tick. -/
theorem isGreatest_word {spacing : Int} (hspacing : 0 < spacing) (tick : Int) :
    IsGreatest {n | 256 * spacing ∣ n ∧ n ≤ tick} (tick / spacing / 256 * 256 * spacing) := by
  refine ⟨⟨⟨tick / spacing / 256, by ring⟩, word_mul_le hspacing tick⟩, ?_⟩
  rintro _ ⟨⟨k, rfl⟩, hle⟩
  have hmul : k * 256 * spacing ≤ tick := by
    calc k * 256 * spacing = 256 * spacing * k := by ring
      _ ≤ tick := hle
  have hwords : k ≤ tick / spacing / 256 :=
    Int.le_ediv_of_mul_le (by decide) (Int.le_ediv_of_mul_le hspacing hmul)
  calc 256 * spacing * k = k * 256 * spacing := by ring
    _ ≤ tick / spacing / 256 * 256 * spacing :=
      Int.mul_le_mul_of_nonneg_right (by omega) hspacing.le

end LiquidityGraph.TickList
