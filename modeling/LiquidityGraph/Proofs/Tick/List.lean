import LiquidityGraph.Proofs.Tick.Acceptance
import Mathlib.Data.Int.Order.Basic
import Mathlib.Order.Basic
import Mathlib.Tactic.Ring
import Mathlib.Tactic.SplitIfs

/-!
Accepted tick lists ascend strictly. A search within a word passes no tick of the list, and says
truly whether the tick that it ends at is one of them.
-/
namespace LiquidityGraph.TickList

section Ascending

variable {ts : List Tick} {i : Int}

theorem takeWhile_eq_filter (h : ts.Pairwise (·.index < ·.index)) :
    ts.takeWhile (·.index ≤ i) = ts.filter (·.index ≤ i) := by
  induction ts with
  | nil => rfl
  | cons t ts ih =>
    obtain ⟨hfirst, h⟩ := List.pairwise_cons.mp h
    by_cases ht : t.index ≤ i
    · simp [ht, ih h]
    · have hnone : ∀ u ∈ ts, i < u.index := fun u hu => by
        have := hfirst u hu
        omega
      simpa [ht] using hnone

theorem dropWhile_eq_filter (h : ts.Pairwise (·.index < ·.index)) :
    ts.dropWhile (·.index ≤ i) = ts.filter (i < ·.index) := by
  induction ts with
  | nil => rfl
  | cons t ts ih =>
    obtain ⟨hfirst, h⟩ := List.pairwise_cons.mp h
    by_cases ht : t.index ≤ i
    · simp [ht, ih h, Int.not_lt.mpr ht]
    · have ht := Int.not_le.mp ht
      have hall : ∀ u ∈ t :: ts, i < u.index :=
        List.forall_mem_cons.mpr ⟨ht, fun u hu => ht.trans (hfirst u hu)⟩
      rw [List.dropWhile_cons_of_neg (by simpa using ht)]
      exact (List.filter_eq_self.mpr fun u hu => decide_eq_true (hall u hu)).symm

end Ascending

variable {l : TickList} {i : Int} {t : Tick}

theorem lastUpTo_eq_some (hl : l.Ordered) (h : l.lastUpTo i = some t) :
    t ∈ l.ticks ∧ t.index ≤ i ∧ ∀ u ∈ l.ticks, u.index ≤ i → u.index ≤ t.index := by
  rw [lastUpTo, takeWhile_eq_filter hl.ascending] at h
  have hmem : t ∈ l.ticks.filter (·.index ≤ i) := List.mem_of_getLast? h
  obtain ⟨ht, hti⟩ := List.mem_filter.mp hmem
  refine ⟨ht, of_decide_eq_true hti, fun u hu hui => ?_⟩
  obtain ⟨us, hus⟩ := List.getLast?_eq_some_iff.mp h
  have hascending := hl.ascending.filter (·.index ≤ i)
  have humem : u ∈ l.ticks.filter (·.index ≤ i) := List.mem_filter.mpr ⟨hu, decide_eq_true hui⟩
  rw [hus] at hascending humem
  obtain hu | hu := List.mem_append.mp humem
  · exact ((List.pairwise_append.mp hascending).2.2 u hu t (List.mem_singleton_self t)).le
  · rw [List.mem_singleton.mp hu]

theorem lastUpTo_eq_none (hl : l.Ordered) (h : l.lastUpTo i = none) :
    ∀ u ∈ l.ticks, i < u.index := by
  rw [lastUpTo, takeWhile_eq_filter hl.ascending, List.getLast?_eq_none_iff] at h
  simpa using h

theorem firstAbove_eq_some (hl : l.Ordered) (h : l.firstAbove i = some t) :
    t ∈ l.ticks ∧ i < t.index ∧ ∀ u ∈ l.ticks, i < u.index → t.index ≤ u.index := by
  rw [firstAbove, dropWhile_eq_filter hl.ascending] at h
  have hmem : t ∈ l.ticks.filter (i < ·.index) := List.mem_of_head? h
  obtain ⟨ht, hti⟩ := List.mem_filter.mp hmem
  refine ⟨ht, of_decide_eq_true hti, fun u hu hui => ?_⟩
  obtain ⟨us, hus⟩ := List.head?_eq_some_iff.mp h
  have hascending := hl.ascending.filter (i < ·.index)
  have humem : u ∈ l.ticks.filter (i < ·.index) := List.mem_filter.mpr ⟨hu, decide_eq_true hui⟩
  rw [hus] at hascending humem
  obtain rfl | hu := List.mem_cons.mp humem
  · exact le_rfl
  · exact ((List.pairwise_cons.mp hascending).1 u hu).le

theorem firstAbove_eq_none (hl : l.Ordered) (h : l.firstAbove i = none) :
    ∀ u ∈ l.ticks, u.index ≤ i := by
  rw [firstAbove, dropWhile_eq_filter hl.ascending, List.head?_eq_none_iff] at h
  simpa using h

theorem word_mul_le {spacing : Int} (hspacing : 0 < spacing) (tick : Int) :
    tick / spacing / 256 * 256 * spacing ≤ tick := by
  have hword : tick / spacing / 256 * 256 ≤ tick / spacing := by omega
  exact (Int.mul_le_mul_of_nonneg_right hword hspacing.le).trans
    (Int.ediv_mul_le tick hspacing.ne')

theorem wordStart_le {spacing tick : Int} (hspacing : 0 < spacing)
    (htick : -(Word.size 31 : Int) ≤ tick) : wordStart spacing tick ≤ tick := by
  unfold wordStart Word.saturate
  exact max_le htick ((min_le_left _ _).trans (word_mul_le hspacing tick))

/-- The end of a word lies above the tick, or at the highest tick that a word can hold. -/
theorem succ_le_wordEnd {spacing : Int} (hspacing : 0 < spacing) (tick : Int) :
    min (tick + 1) (Word.size 31 - 1) ≤ wordEnd spacing tick := by
  have hword : tick / spacing + 2 ≤ ((tick / spacing + 1) / 256 + 1) * 256 := by omega
  have hend : (tick / spacing + 2) * spacing ≤ ((tick / spacing + 1) / 256 + 1) * 256 * spacing :=
    Int.mul_le_mul_of_nonneg_right hword hspacing.le
  have hnext : tick < (tick / spacing + 1) * spacing := Int.lt_ediv_add_one_mul_self tick hspacing
  have hsplit : (tick / spacing + 2) * spacing = (tick / spacing + 1) * spacing + spacing := by
    ring
  unfold wordEnd Word.saturate
  exact le_max_of_le_right (min_le_min_right _ (by omega))

private theorem lt_wordEnd {spacing tick : Int} (hspacing : 0 < spacing)
    (htick : tick < Word.size 31 - 1) : tick < wordEnd spacing tick := by
  have hend := succ_le_wordEnd hspacing tick
  omega

/-- A search upwards moves, unless it starts from the highest tick that a word can hold. -/
theorem succ_le_next_up {spacing : Int} (hl : l.Ordered) (hspacing : 0 < spacing) (tick : Int) :
    min (tick + 1) (Word.size 31 - 1) ≤ (l.next tick false spacing).1 := by
  have hend := succ_le_wordEnd hspacing tick
  rw [next, if_neg Bool.false_ne_true]
  cases hfirst : l.firstAbove tick with
  | none => exact hend
  | some t =>
    have hlt := (firstAbove_eq_some hl hfirst).2.1
    dsimp only
    split_ifs
    · exact (min_le_left _ _).trans hlt
    · exact hend

theorem next_down_le {spacing tick : Int} (hl : l.Ordered) (hspacing : 0 < spacing)
    (htick : -(Word.size 31 : Int) ≤ tick) : (l.next tick true spacing).1 ≤ tick := by
  have hstart := wordStart_le hspacing htick
  rw [next, if_pos rfl]
  cases hlast : l.lastUpTo tick with
  | none => exact hstart
  | some t =>
    have hle := (lastUpTo_eq_some hl hlast).2.1
    dsimp only
    split_ifs
    · exact hle
    · exact hstart

/-- A search downwards passes no tick, and its flag tells whether it ends at one. -/
theorem next_down {tick found : Int} {initialized : Bool} (hl : l.Ordered)
    (htick : -(Word.size 31 : Int) ≤ tick)
    (h : l.next tick true l.spacing = (found, initialized)) :
    found ≤ tick ∧ (∀ u ∈ l.ticks, ¬ (found < u.index ∧ u.index ≤ tick)) ∧
      (initialized ↔ ∃ u ∈ l.ticks, u.index = found) := by
  have hstart := wordStart_le hl.spacing htick
  rw [next, if_pos rfl] at h
  cases hlast : l.lastUpTo tick with
  | none =>
    have hnone := lastUpTo_eq_none hl hlast
    rw [hlast] at h
    cases h
    refine ⟨hstart, fun u hu hpassed => ?_, by simp, fun ⟨u, hu, hfound⟩ => ?_⟩
    · exact absurd (hnone u hu) (not_lt.mpr hpassed.2)
    · exact absurd (hnone u hu) (not_lt.mpr (hfound ▸ hstart))
  | some t =>
    obtain ⟨ht, hle, hhighest⟩ := lastUpTo_eq_some hl hlast
    rw [hlast] at h
    simp only at h
    split_ifs at h with hbound
    · cases h
      refine ⟨hle, fun u hu hpassed => ?_, fun _ => ⟨t, ht, rfl⟩, fun _ => rfl⟩
      exact absurd (hhighest u hu hpassed.2) (not_le.mpr hpassed.1)
    · cases h
      have hbelow : ∀ u ∈ l.ticks, u.index ≤ tick → u.index < wordStart l.spacing tick :=
        fun u hu hut => (hhighest u hu hut).trans_lt (not_le.mp hbound)
      refine ⟨hstart, fun u hu hpassed => ?_, by simp, fun ⟨u, hu, hfound⟩ => ?_⟩
      · exact absurd (hbelow u hu hpassed.2) (not_lt.mpr hpassed.1.le)
      · exact absurd hfound (hbelow u hu (hfound ▸ hstart)).ne

/-- A search upwards passes no tick, and its flag tells whether it ends at one. -/
theorem next_up {tick found : Int} {initialized : Bool} (hl : l.Ordered)
    (htick : tick < Word.size 31 - 1)
    (h : l.next tick false l.spacing = (found, initialized)) :
    tick < found ∧ (∀ u ∈ l.ticks, ¬ (tick < u.index ∧ u.index < found)) ∧
      (initialized ↔ ∃ u ∈ l.ticks, u.index = found) := by
  have hend := lt_wordEnd hl.spacing htick
  rw [next, if_neg Bool.false_ne_true] at h
  cases hfirst : l.firstAbove tick with
  | none =>
    have hnone := firstAbove_eq_none hl hfirst
    rw [hfirst] at h
    cases h
    refine ⟨hend, fun u hu hpassed => ?_, by simp, fun ⟨u, hu, hfound⟩ => ?_⟩
    · exact absurd (hnone u hu) (not_le.mpr hpassed.1)
    · exact absurd (hnone u hu) (not_le.mpr (hfound ▸ hend))
  | some t =>
    obtain ⟨ht, hlt, hlowest⟩ := firstAbove_eq_some hl hfirst
    rw [hfirst] at h
    simp only at h
    split_ifs at h with hbound
    · cases h
      refine ⟨hlt, fun u hu hpassed => ?_, fun _ => ⟨t, ht, rfl⟩, fun _ => rfl⟩
      exact absurd (hlowest u hu hpassed.1) (not_le.mpr hpassed.2)
    · cases h
      have habove : ∀ u ∈ l.ticks, tick < u.index → wordEnd l.spacing tick < u.index :=
        fun u hu hut => (not_le.mp hbound).trans_le (hlowest u hu hut)
      refine ⟨hend, fun u hu hpassed => ?_, by simp, fun ⟨u, hu, hfound⟩ => ?_⟩
      · exact absurd (habove u hu hpassed.1) (not_lt.mpr hpassed.2.le)
      · exact absurd hfound (habove u hu (hfound ▸ hend)).ne'

/-- The sum of the nets above `low` and up to `high`. -/
def netBetween (l : TickList) (low high : Int) : Int :=
  ((l.ticks.filter fun t => low < t.index ∧ t.index ≤ high).map (·.net)).sum

theorem netBetween_eq_zero {low high : Int}
    (h : ∀ u ∈ l.ticks, ¬ (low < u.index ∧ u.index ≤ high)) : l.netBetween low high = 0 := by
  have hnone : (l.ticks.filter fun t => low < t.index ∧ t.index ≤ high) = [] :=
    List.filter_eq_nil_iff.mpr fun u hu => by simpa using h u hu
  rw [netBetween, hnone]
  rfl

theorem netBetween_add {low mid high : Int} (hl : low ≤ mid) (hh : mid ≤ high) :
    l.netBetween low mid + l.netBetween mid high = l.netBetween low high := by
  unfold netBetween
  induction l.ticks with
  | nil => rfl
  | cons t ts ih =>
    simp only [sum_net_filter_cons, decide_eq_true_eq]
    split_ifs <;> omega

/-- At one index there is one tick. -/
theorem netBetween_pred (hl : l.Ordered) (i : Int) : l.netBetween (i - 1) i = (l.get i).net := by
  have hascending := hl.ascending
  unfold netBetween get
  generalize l.ticks = ts at hascending
  induction ts with
  | nil => rfl
  | cons t ts ih =>
    obtain ⟨hfirst, hascending⟩ := List.pairwise_cons.mp hascending
    rw [sum_net_filter_cons]
    by_cases ht : t.index = i
    · have hnone : (ts.filter fun u => i - 1 < u.index ∧ u.index ≤ i) = [] :=
        List.filter_eq_nil_iff.mpr fun u hu => by
          have := hfirst u hu
          simp only [decide_eq_true_eq]
          omega
      have hin : i - 1 < t.index ∧ t.index ≤ i := by omega
      rw [hnone, if_pos (decide_eq_true hin), List.find?_cons_of_pos (by simpa using ht)]
      exact Int.add_zero _
    · have hout : ¬ (i - 1 < t.index ∧ t.index ≤ i) := by omega
      rw [if_neg (by simpa using hout), List.find?_cons_of_neg (by simpa using ht), Int.zero_add]
      exact ih hascending

theorem get_of_not_mem (h : ∀ u ∈ l.ticks, u.index ≠ i) : l.get i = ⟨i, 0, 0⟩ := by
  have hnone : l.ticks.find? (·.index == i) = none :=
    List.find?_eq_none.mpr fun u hu => by simpa using h u hu
  rw [get, hnone]
  rfl

theorem get_net_of_not_mem (h : ∀ u ∈ l.ticks, u.index ≠ i) : (l.get i).net = 0 := by
  rw [get_of_not_mem h]

theorem get_mem (h : ∃ u ∈ l.ticks, u.index = i) : l.get i ∈ l.ticks := by
  obtain ⟨u, hu, hui⟩ := h
  cases hfind : l.ticks.find? (·.index == i) with
  | none => exact absurd hui (by simpa using List.find?_eq_none.mp hfind u hu)
  | some t =>
    rw [get, hfind]
    exact List.mem_of_find?_eq_some hfind

@[simp] theorem get_index (l : TickList) (i : Int) : (l.get i).index = i := by
  rw [get]
  cases hfind : l.ticks.find? (·.index == i) with
  | none => rfl
  | some t => simpa using List.find?_some hfind

theorem get_of_mem (hl : l.Ordered) (ht : t ∈ l.ticks) : l.get t.index = t := by
  have hdistinct : (l.ticks.map (·.index)).Nodup :=
    List.pairwise_map.mpr (hl.ascending.imp fun hlt => hlt.ne)
  exact List.inj_on_of_nodup_map hdistinct (get_mem ⟨t, ht, rfl⟩) ht (get_index l t.index)

end LiquidityGraph.TickList
