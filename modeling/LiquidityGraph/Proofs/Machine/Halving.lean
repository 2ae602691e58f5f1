import LiquidityGraph.Proofs.Machine.Tick
import LiquidityGraph.Proofs.Tick.Scan

/-!
Searches in a tick list, by halving on machine words. They read no position outside of the list, and
find what a plain scan of it finds; so the next tick within a word is the nearest one that is stored
there, and the bound of the word if there is none.
-/
namespace LiquidityGraph

namespace Machine

variable {ε : Type}

def item (ts : List Tick) (position : Nat) : Machine ε Tick :=
  match ts[position]? with
  | some t => pure t
  | none => trap

/-- Halves a range of positions until an index is met that is neither too low nor too high, and
gives its position; a range that has become empty is an error, with the position that is left. -/
def halve (order : Int → Ordering) (ts : List Tick) (low high : Nat) :
    Machine ε (Except Nat Nat) :=
  if low < high then do
    let middle := low + (high - low) / 2
    let t ← item ts middle
    match order t.index with
    | .lt => halve order ts (middle + 1) high
    | .eq => return .ok middle
    | .gt => halve order ts low middle
  else return .error low
termination_by high - low

/-- Up to an index all is too low. -/
def upTo (index i : Int) : Ordering :=
  if i ≤ index then .lt else .gt

def countUpTo (ts : List Tick) (index : Int) : Machine ε Nat := do
  match ← halve (upTo index) ts 0 ts.length with
  | .ok n => return n
  | .error n => return n

def lastUpTo (l : TickList) (index : Int) : Machine ε (Option Tick) := do
  let n ← countUpTo l.ticks index
  if n = 0 then return none else return some (← item l.ticks (n - 1))

def firstAbove (l : TickList) (index : Int) : Machine ε (Option Tick) := do
  let n ← countUpTo l.ticks index
  return l.ticks[n]?

def get (l : TickList) (index : Int) : Machine ε Tick := do
  match ← halve (fun i => compare i index) l.ticks 0 l.ticks.length with
  | .ok n => item l.ticks n
  | .error _ => return ⟨index, 0, 0⟩

section Halve

variable {order : Int → Ordering} {ts : List Tick} {n : Nat} {t : Tick}

/-- What is below an index too low is too low, and what is above one too high is too high. -/
structure Directs (order : Int → Ordering) : Prop where
  low : ∀ {i j : Int}, i < j → order j = .lt → order i = .lt
  high : ∀ {i j : Int}, i < j → order i = .gt → order j = .gt

/-- What stands before a position is too low, and what stands from it on is too high. -/
structure Splits (order : Int → Ordering) (ts : List Tick) (n : Nat) : Prop where
  within : n ≤ ts.length
  before : ∀ t ∈ ts.take n, order t.index = .lt
  behind : ∀ t ∈ ts.drop n, order t.index = .gt

private theorem ascending_around (h : ts.Pairwise (·.index < ·.index)) (ht : ts[n]? = some t) :
    (∀ u ∈ ts.take n, u.index < t.index) ∧ ∀ u ∈ ts.drop (n + 1), t.index < u.index := by
  have hdrop : ts.drop n = t :: ts.drop (n + 1) := by
    rw [List.drop_eq_getElem?_toList_append, ht]
    rfl
  rw [← List.take_append_drop n ts, hdrop] at h
  obtain ⟨-, hbehind, hacross⟩ := List.pairwise_append.mp h
  exact ⟨fun u hu => hacross u hu t List.mem_cons_self, (List.pairwise_cons.mp hbehind).1⟩

private theorem item_safe (h : ts[n]? = some t) : item ts n = (pure t : Machine ε Tick) := by
  rw [item, h]

/-- The search reads positions of the list only. It meets an index that fits, or else it ends where
the indexes too low are followed by those too high. -/
theorem halve_safe (horder : Directs order) (hts : ts.Pairwise (·.index < ·.index))
    (low high : Nat) (hle : low ≤ high) (hhigh : high ≤ ts.length)
    (hbefore : ∀ t ∈ ts.take low, order t.index = .lt)
    (hbehind : ∀ t ∈ ts.drop high, order t.index = .gt) :
    (∃ n t, halve order ts low high = (pure (.ok n) : Machine ε (Except Nat Nat)) ∧
      ts[n]? = some t ∧ order t.index = .eq) ∨
    ∃ n, halve order ts low high = (pure (.error n) : Machine ε (Except Nat Nat)) ∧
      Splits order ts n := by
  induction hgap : high - low using Nat.strong_induction_on generalizing low high with
  | h gap ih =>
    rw [halve]
    by_cases hopen : low < high
    · have hmiddle : low + (high - low) / 2 < ts.length := by omega
      obtain ⟨t, ht⟩ : ∃ t, ts[low + (high - low) / 2]? = some t :=
        ⟨_, List.getElem?_eq_getElem hmiddle⟩
      obtain ⟨hlower, hhigher⟩ := ascending_around hts ht
      rw [if_pos hopen]
      dsimp only
      rw [item_safe ht, pure_bind]
      cases hfits : order t.index with
      | lt =>
        refine ih _ ?_ _ _ (by omega) hhigh (fun u hu => ?_) hbehind rfl
        · omega
        · rw [List.take_add_one, ht] at hu
          obtain hu | hu := List.mem_append.mp hu
          · exact horder.low (hlower u hu) hfits
          · obtain rfl : u = t := by simpa using hu
            exact hfits
      | eq => exact .inl ⟨_, t, rfl, ht, hfits⟩
      | gt =>
        refine ih _ ?_ _ _ (by omega) (by omega) hbefore (fun u hu => ?_) rfl
        · omega
        · rw [List.drop_eq_getElem?_toList_append, ht] at hu
          obtain rfl | hu := List.mem_cons.mp hu
          · exact hfits
          · exact horder.high (hhigher u hu) hfits
    · obtain rfl : low = high := by omega
      rw [if_neg hopen]
      exact .inr ⟨low, rfl, hhigh, hbefore, hbehind⟩

theorem halve_all_safe (horder : Directs order) (hts : ts.Pairwise (·.index < ·.index)) :
    (∃ n t, halve order ts 0 ts.length = (pure (.ok n) : Machine ε (Except Nat Nat)) ∧
      ts[n]? = some t ∧ order t.index = .eq) ∨
    ∃ n, halve order ts 0 ts.length = (pure (.error n) : Machine ε (Except Nat Nat)) ∧
      Splits order ts n :=
  halve_safe horder hts 0 ts.length (Nat.zero_le _) le_rfl (by simp) (by simp)

end Halve

section Search

variable {l : TickList} {index : Int}

theorem upTo_eq_lt {i : Int} : upTo index i = .lt ↔ i ≤ index := by
  simp [upTo]

theorem upTo_eq_gt {i : Int} : upTo index i = .gt ↔ index < i := by
  simp [upTo]

theorem upTo_ne_eq (index i : Int) : upTo index i ≠ .eq := by
  unfold upTo
  split_ifs <;> decide

theorem countUpTo_safe (hl : l.Ordered) (index : Int) :
    ∃ n ≤ l.ticks.length, countUpTo l.ticks index = (pure n : Machine ε Nat) ∧
      l.ticks.takeWhile (·.index ≤ index) = l.ticks.take n ∧
      l.ticks.dropWhile (·.index ≤ index) = l.ticks.drop n := by
  have horder : Directs (upTo index) := by
    constructor
    · intro i j hij hj
      exact upTo_eq_lt.mpr (hij.le.trans (upTo_eq_lt.mp hj))
    · intro i j hij hi
      exact upTo_eq_gt.mpr ((upTo_eq_gt.mp hi).trans hij)
  obtain ⟨n, t, -, -, heq⟩ | ⟨n, hn, hsplits⟩ := halve_all_safe (ε := ε) horder hl.ascending
  · exact absurd heq (upTo_ne_eq index t.index)
  · have hbefore : ∀ t ∈ l.ticks.take n, t.index ≤ index :=
      fun t ht => upTo_eq_lt.mp (hsplits.before t ht)
    have hbehind : ∀ t ∈ l.ticks.drop n, index < t.index :=
      fun t ht => upTo_eq_gt.mp (hsplits.behind t ht)
    refine ⟨n, hsplits.within, ?_, ?_, ?_⟩
    · rw [countUpTo, hn, pure_bind]
    · rw [TickList.takeWhile_eq_filter hl.ascending]
      conv_lhs => rw [← List.take_append_drop n l.ticks]
      rw [List.filter_append, List.filter_eq_self.mpr, List.filter_eq_nil_iff.mpr, List.append_nil]
      · simpa using hbehind
      · simpa using hbefore
    · rw [TickList.dropWhile_eq_filter hl.ascending]
      conv_lhs => rw [← List.take_append_drop n l.ticks]
      rw [List.filter_append, List.filter_eq_nil_iff.mpr, List.filter_eq_self.mpr, List.nil_append]
      · simpa using hbehind
      · simpa using hbefore

theorem lastUpTo_safe (hl : l.Ordered) (index : Int) :
    lastUpTo l index = (pure (l.lastUpTo index) : Machine ε (Option Tick)) := by
  obtain ⟨n, hn, hcount, htake, -⟩ := countUpTo_safe (ε := ε) hl index
  rw [lastUpTo, hcount, pure_bind, TickList.lastUpTo, htake, List.getLast?_take]
  by_cases hzero : n = 0
  · rw [if_pos hzero, if_pos hzero]
  · have hlast : n - 1 < l.ticks.length := by omega
    rw [if_neg hzero, if_neg hzero, List.getElem?_eq_getElem hlast]
    rw [item_safe (List.getElem?_eq_getElem hlast), pure_bind, Option.some_or]

theorem firstAbove_safe (hl : l.Ordered) (index : Int) :
    firstAbove l index = (pure (l.firstAbove index) : Machine ε (Option Tick)) := by
  obtain ⟨n, -, hcount, -, hdrop⟩ := countUpTo_safe (ε := ε) hl index
  rw [firstAbove, hcount, pure_bind, TickList.firstAbove, hdrop, List.head?_drop]

theorem get_safe (hl : l.Ordered) (index : Int) :
    get l index = (pure (l.get index) : Machine ε Tick) := by
  have horder : Directs fun i => compare i index := by
    constructor
    · intro i j hij hj
      exact Int.compare_eq_lt.mpr (hij.trans (Int.compare_eq_lt.mp hj))
    · intro i j hij hi
      exact Int.compare_eq_gt.mpr ((Int.compare_eq_gt.mp hi).trans hij)
  obtain ⟨n, t, hn, ht, heq⟩ | ⟨n, hn, hsplits⟩ := halve_all_safe (ε := ε) horder hl.ascending
  · obtain rfl : t.index = index := Int.compare_eq_eq.mp heq
    have hmem : t ∈ l.ticks := List.mem_of_getElem? ht
    rw [get, hn, pure_bind, TickList.get_of_mem hl hmem]
    exact item_safe ht
  · have hne : ∀ t ∈ l.ticks, t.index ≠ index := by
      rintro t ht rfl
      rw [← List.take_append_drop n l.ticks] at ht
      have hself : compare t.index t.index = .eq := Int.compare_eq_eq.mpr rfl
      obtain ht | ht := List.mem_append.mp ht
      · simpa [hself] using hsplits.before t ht
      · simpa [hself] using hsplits.behind t ht
    rw [get, hn, pure_bind, TickList.get_of_not_mem hne]

/-- The next tick within a word is what a plain scan of the accepted ticks finds between the tick
and the bound of the word. No operation of the search leaves 64 bits, and the positions that it
halves its way to are those that a scan ends at. -/
theorem next_scans {ticks : List Tick} {gap tick spacing : Int}
    (haccepted : TickList.ofList ticks gap = .ok l)
    (htick : -(Word.size 31 : Int) ≤ tick ∧ tick < Word.size 31)
    (hspacing : 0 < spacing ∧ spacing < Word.size 31) :
    (∃ m, IsGreatest {n | 256 * spacing ∣ n ∧ n ≤ tick} m ∧
      let bound := Word.saturate 32 m
      TickList.Scan IsGreatest (l.indexesIn (Set.Icc bound tick)) bound
        (l.next tick true spacing)) ∧
      (let bound := Word.saturate 32 (256 * spacing * ((tick / spacing + 1) / 256 + 1) - 1)
      TickList.Scan IsLeast (l.indexesIn (Set.Ioc tick bound)) bound (l.next tick false spacing)) ∧
      (l.next tick true spacing).1 ≤ tick ∧
      (tick ≠ Word.size 31 - 1 → tick < (l.next tick false spacing).1) ∧
      (∀ down, next l tick down spacing = pure (l.next tick down spacing)) ∧
      (∀ i, lastUpTo l i = (pure (l.lastUpTo i) : Machine ε (Option Tick)) ∧
        firstAbove l i = (pure (l.firstAbove i) : Machine ε (Option Tick)) ∧
        get l i = (pure (l.get i) : Machine ε Tick)) ∧
      (∀ t ∈ l.ticks, l.get t.index = t) ∧
      ∀ i, (∀ t ∈ l.ticks, t.index ≠ i) → l.get i = ⟨i, 0, 0⟩ := by
  have hl : l.Ordered := (TickList.ofList_eq_ok haccepted).1
  obtain ⟨hmin, hmax⟩ := htick
  obtain ⟨hpos, hword⟩ := hspacing
  refine ⟨⟨_, TickList.isGreatest_word hpos tick, TickList.scan_down hl tick spacing⟩, ?_,
    TickList.next_down_le hl hpos hmin, fun hne => ?_,
    fun down => next_safe l down hpos hword hmin hmax,
    fun i => ⟨lastUpTo_safe hl i, firstAbove_safe hl i, get_safe hl i⟩,
    fun t ht => TickList.get_of_mem hl ht, fun i => TickList.get_of_not_mem⟩
  · have hbound : Word.saturate 32 (256 * spacing * ((tick / spacing + 1) / 256 + 1) - 1) =
        TickList.wordEnd spacing tick := by
      rw [TickList.wordEnd]
      ring_nf
    rw [hbound]
    exact TickList.scan_up hl tick spacing
  · have hnext := TickList.succ_le_next_up hl hpos tick
    omega

/-- The last tick up to `-601` within a word of 256 spacings of 10. -/
theorem next_scans_narrow :
    let l : TickList := ⟨60, [⟨-1200, 1, 1⟩, ⟨-600, 2, 2⟩, ⟨600, 3, -3⟩]⟩
    TickList.ofList l.ticks 60 = .ok l ∧
      IsGreatest (l.indexesIn (Set.Icc (-2560) (-601))) (-1200) ∧
      lastUpTo l (-601) = (pure (some ⟨-1200, 1, 1⟩) : Machine PriceError (Option Tick)) := by
  intro l
  have haccepted : TickList.ofList l.ticks 60 = .ok l :=
    TickList.ofList_of_ascending (by decide) (by decide) (by decide)
  obtain ⟨⟨m, hm, hdown⟩, -, -, -, -, hsearches, -⟩ :=
    @next_scans PriceError l l.ticks 60 (-601) 10 haccepted (by decide) (by decide)
  have hstart : IsGreatest {n | 256 * (10 : Int) ∣ n ∧ n ≤ -601} (-2560) := by
    refine ⟨⟨by decide, by decide⟩, ?_⟩
    rintro _ ⟨⟨k, rfl⟩, hk⟩
    omega
  obtain rfl := hm.unique hstart
  exact ⟨haccepted, (hdown.initialized (-1200)).mp rfl, (hsearches (-601)).1⟩

end Search

end Machine

end LiquidityGraph
