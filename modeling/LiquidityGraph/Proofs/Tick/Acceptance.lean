import LiquidityGraph.Proofs.Except
import LiquidityGraph.Tick.List
import Mathlib.Algebra.BigOperators.Group.List.Basic
import Mathlib.Algebra.Order.Ring.Int
import Mathlib.Data.List.Sort
import Mathlib.Tactic.SplitIfs
import Mathlib.Tactic.Tauto

/-!
Which lists of ticks are accepted. They are checked in ascending order, so that the order in which
they are given does not matter: first where they lie, and then what their nets come to. The nets
are summed up with saturation, which is exact as long as no sum on the way leaves 128 bits.
-/
namespace LiquidityGraph.TickList

section Check

/-- What is wrong with indexes in order, behind `previous`, before any net is looked at. -/
def fault (spacing : Int) : Option Int → List Int → Option TickError
  | _, [] => none
  | previous, i :: is =>
    if i % spacing ≠ 0 then some (.notOnSpacing i spacing)
    else if previous = some i then some (.repeated i)
    else fault spacing (some i) is

/-- The nets summed up in order behind `sum`, and held within 128 bits after each. -/
def heldSum (sum : Int) (ts : List Tick) : Int :=
  ts.foldl (fun sum t => Word.saturate 128 (sum + t.net)) sum

variable {spacing : Int}

private theorem check_eq (spacing : Int) (previous : Option Int) (sum : Int) (ts : List Tick) :
    check spacing previous sum ts =
      match fault spacing previous (ts.map (·.index)) with
      | some cause => .error cause
      | none => if heldSum sum ts = 0 then .ok () else .error (.nonZeroNet (heldSum sum ts)) := by
  induction ts generalizing previous sum with
  | nil => rfl
  | cons t ts ih =>
    rw [check, List.map_cons, fault]
    by_cases hspacing : t.index % spacing = 0
    · rw [if_neg (not_not.mpr hspacing), if_neg (not_not.mpr hspacing)]
      by_cases hprevious : previous = some t.index
      · rw [if_pos hprevious, if_pos hprevious]
      · rw [if_neg hprevious, if_neg hprevious]
        exact ih _ _
    · rw [if_pos hspacing, if_pos hspacing]

theorem fault_eq_none (previous : Option Int) {is : List Int}
    (hsorted : (previous.toList ++ is).Pairwise (· ≤ ·)) :
    fault spacing previous is = none ↔
      (∀ i ∈ is, i % spacing = 0) ∧ (previous.toList ++ is).Nodup := by
  induction is generalizing previous with
  | nil => cases previous <;> simp [fault]
  | cons i is ih =>
    have hrest : (i :: is).Pairwise (· ≤ ·) := (List.pairwise_append.mp hsorted).2.1
    have hlast := ih (some i) hrest
    rw [Option.toList_some, List.singleton_append] at hlast
    -- in ascending order an index that is repeated follows itself
    have hfirst : (previous.toList ++ i :: is).Nodup ↔ previous ≠ some i ∧ (i :: is).Nodup := by
      cases previous with
      | none => simp
      | some p =>
        obtain ⟨hp, -⟩ := List.pairwise_cons.mp hsorted
        obtain ⟨hi, -⟩ := List.pairwise_cons.mp hrest
        rw [Option.toList_some, List.singleton_append, List.nodup_cons]
        refine and_congr_left fun _ => not_congr ⟨fun hmem => ?_, fun heq => ?_⟩
        · obtain rfl | hmem := List.mem_cons.mp hmem
          · rfl
          · exact congrArg some (le_antisymm (hp i List.mem_cons_self) (hi p hmem))
        · rw [Option.some.inj heq]
          exact List.mem_cons_self
    rw [fault, hfirst, List.forall_mem_cons]
    split_ifs with hspacing hprevious
    · simp [hspacing]
    · simp [hprevious]
    · rw [hlast]
      tauto

end Check

section Accept

variable {ticks ticks' : List Tick} {spacing : Int} {l : TickList}

/-- The order in which ticks are checked, and in which they are kept. -/
def ascending (ticks : List Tick) : List Tick :=
  ticks.mergeSort fun a b => a.index ≤ b.index

theorem ascending_perm (ticks : List Tick) : (ascending ticks).Perm ticks :=
  List.mergeSort_perm ticks _

theorem ascending_sorted (ticks : List Tick) :
    ((ascending ticks).map (·.index)).Pairwise (· ≤ ·) := by
  have hsorted : (ascending ticks).Pairwise fun a b => decide (a.index ≤ b.index) = true :=
    List.pairwise_mergeSort (by simpa using fun a b c => Int.le_trans)
      (by simpa using fun a b => Int.le_total _ _) ticks
  exact List.pairwise_map.mpr (hsorted.imp fun hle => of_decide_eq_true hle)

theorem ascending_of_sorted (h : ticks.Pairwise (·.index ≤ ·.index)) : ascending ticks = ticks :=
  List.mergeSort_of_pairwise (h.imp fun hle => decide_eq_true hle)

/-- The ticks stand on a spacing, and no two of them at one index. -/
structure Placed (ticks : List Tick) (spacing : Int) : Prop where
  positive : 0 < spacing
  onSpacing : ∀ t ∈ ticks, t.index % spacing = 0
  distinct : (ticks.map (·.index)).Nodup

theorem placed_iff : Placed ticks spacing ↔
    0 < spacing ∧ fault spacing none ((ascending ticks).map (·.index)) = none := by
  have hindexes := (ascending_perm ticks).map (·.index)
  rw [fault_eq_none none (ascending_sorted ticks), Option.toList_none,
    List.nil_append, hindexes.nodup_iff, List.forall_mem_map]
  simp only [(ascending_perm ticks).mem_iff]
  exact ⟨fun h => ⟨h.positive, h.onSpacing, h.distinct⟩, fun h => ⟨h.1, h.2.1, h.2.2⟩⟩

theorem Placed.of_perm (h : Placed ticks spacing) (hperm : ticks'.Perm ticks) :
    Placed ticks' spacing :=
  ⟨h.positive, fun t ht => h.onSpacing t (hperm.mem_iff.mp ht),
    (hperm.map (·.index)).nodup_iff.mpr h.distinct⟩

theorem Placed.strictly (h : Placed ticks spacing) :
    (ascending ticks).Pairwise (·.index < ·.index) := by
  have hdistinct := ((ascending_perm ticks).map (·.index)).nodup_iff.mpr h.distinct
  have hstrict := (ascending_sorted ticks).imp₂ (fun _ _ => lt_of_le_of_ne) hdistinct
  exact List.pairwise_map.mp hstrict

theorem ofList_of_nonpos (h : spacing ≤ 0) (ticks : List Tick) :
    ofList ticks spacing = .error (.invalidSpacing spacing) := by
  rw [ofList, if_pos h]
  rfl

/-- Where the ticks lie is judged first, and what their nets come to last. -/
theorem ofList_of_pos (h : 0 < spacing) (ticks : List Tick) :
    ofList ticks spacing =
      match fault spacing none ((ascending ticks).map (·.index)) with
      | some cause => .error cause
      | none =>
        if heldSum 0 (ascending ticks) = 0 then .ok ⟨spacing, ascending ticks⟩
        else .error (.nonZeroNet (heldSum 0 (ascending ticks))) := by
  have hchecked : ofList ticks spacing = check spacing none 0 (ascending ticks) >>= fun _ =>
      Except.ok ⟨spacing, ascending ticks⟩ := by
    rw [ofList, if_neg (not_le.mpr h)]
    rfl
  rw [hchecked, check_eq]
  cases fault spacing none ((ascending ticks).map (·.index)) with
  | some cause => rfl
  | none =>
    dsimp only
    split_ifs <;> rfl

theorem ofList_eq_ok_iff : ofList ticks spacing = .ok l ↔
    Placed ticks spacing ∧ heldSum 0 (ascending ticks) = 0 ∧ l = ⟨spacing, ascending ticks⟩ := by
  rw [placed_iff]
  obtain hspacing | hspacing := Int.lt_or_le 0 spacing
  · rw [ofList_of_pos hspacing]
    cases fault spacing none ((ascending ticks).map (·.index)) with
    | some cause => simp
    | none =>
      dsimp only
      split_ifs with hsum
      · simp [hsum, hspacing, eq_comm]
      · simp [hsum]
  · rw [ofList_of_nonpos hspacing]
    simp [not_lt.mpr hspacing]

theorem exists_ofList_iff : (∃ l, ofList ticks spacing = .ok l) ↔
    Placed ticks spacing ∧ heldSum 0 (ascending ticks) = 0 := by
  simp [ofList_eq_ok_iff]

/-- The ticks stand once each, in ascending order, on the spacing. -/
structure Ordered (l : TickList) : Prop where
  spacing : 0 < l.spacing
  ascending : l.ticks.Pairwise (·.index < ·.index)
  onSpacing : ∀ t ∈ l.ticks, t.index % l.spacing = 0

/-- What is accepted: the given ticks, in order. -/
theorem ofList_eq_ok (h : ofList ticks spacing = .ok l) :
    l.Ordered ∧ l.spacing = spacing ∧ l.ticks.Perm ticks := by
  obtain ⟨hplaced, -, rfl⟩ := ofList_eq_ok_iff.mp h
  have hperm := ascending_perm ticks
  exact ⟨⟨hplaced.positive, hplaced.strictly, (hplaced.of_perm hperm).onSpacing⟩, rfl, hperm⟩

theorem ofList_of_ascending (hs : 0 < spacing) (hsorted : ticks.Pairwise (·.index ≤ ·.index))
    (h : check spacing none 0 ticks = .ok ()) : ofList ticks spacing = .ok ⟨spacing, ticks⟩ := by
  have hkept : ticks.mergeSort (fun a b => a.index ≤ b.index) = ticks :=
    ascending_of_sorted hsorted
  rw [ofList, if_neg (not_le.mpr hs), hkept]
  exact bind_eq_ok.mpr ⟨(), h, rfl⟩

/-- Where two ticks share an index only the index counts, and else there is one order. -/
theorem ofList_perm (hperm : ticks'.Perm ticks) (spacing : Int) :
    ofList ticks' spacing = ofList ticks spacing := by
  have hticks : (ascending ticks').Perm (ascending ticks) :=
    (ascending_perm ticks').trans (hperm.trans (ascending_perm ticks).symm)
  have hindexes : (ascending ticks').map (·.index) = (ascending ticks).map (·.index) :=
    (hticks.map (·.index)).eq_of_pairwise (fun _ _ _ _ => le_antisymm) (ascending_sorted ticks')
      (ascending_sorted ticks)
  obtain hspacing | hspacing := Int.lt_or_le 0 spacing
  · rw [ofList_of_pos hspacing, ofList_of_pos hspacing, hindexes]
    cases hfault : fault spacing none ((ascending ticks).map (·.index)) with
    | some cause => rfl
    | none =>
      have hplaced : Placed ticks spacing := placed_iff.mpr ⟨hspacing, hfault⟩
      have hsame : ascending ticks' = ascending ticks :=
        hticks.eq_of_pairwise (fun _ _ _ _ hlt hgt => absurd hlt hgt.asymm)
          (hplaced.of_perm hperm).strictly hplaced.strictly
      rw [hsame]
  · rw [ofList_of_nonpos hspacing, ofList_of_nonpos hspacing]

end Accept

section Sum

theorem sum_net_filter_cons (p : Tick → Bool) (t : Tick) (ts : List Tick) :
    (((t :: ts).filter p).map (·.net)).sum =
      (if p t then t.net else 0) + ((ts.filter p).map (·.net)).sum := by
  rw [List.filter_cons]
  split <;> simp

def netUpTo (ticks : List Tick) (i : Int) : Int :=
  ((ticks.filter (·.index ≤ i)).map (·.net)).sum

private theorem netUpTo_perm {ticks ticks' : List Tick} (hperm : ticks'.Perm ticks) (i : Int) :
    netUpTo ticks' i = netUpTo ticks i :=
  ((hperm.filter _).map _).sum_eq

theorem netUpTo_cons (t : Tick) (ts : List Tick) (i : Int) :
    netUpTo (t :: ts) i = (if t.index ≤ i then t.net else 0) + netUpTo ts i := by
  simp only [netUpTo, sum_net_filter_cons, decide_eq_true_eq]

theorem netUpTo_eq_zero {ts : List Tick} {i : Int} (h : ∀ t ∈ ts, i < t.index) :
    netUpTo ts i = 0 := by
  have hnone : ts.filter (·.index ≤ i) = [] :=
    List.filter_eq_nil_iff.mpr fun t ht => by simpa using h t ht
  rw [netUpTo, hnone]
  rfl

/-- No sum of nets, from the lowest tick up to an index, leaves 128 bits. -/
def Unsaturated (sum : Int) (ticks : List Tick) : Prop :=
  ∀ i, -(Word.size 127 : Int) ≤ sum + netUpTo ticks i ∧ sum + netUpTo ticks i < Word.size 127

/-- What is never held is exact. -/
theorem heldSum_eq {sum : Int} {ts : List Tick} (hascending : ts.Pairwise (·.index < ·.index))
    (hfits : Unsaturated sum ts) : heldSum sum ts = sum + (ts.map (·.net)).sum := by
  induction ts generalizing sum with
  | nil => simp [heldSum]
  | cons t ts ih =>
    obtain ⟨hfirst, hascending⟩ := List.pairwise_cons.mp hascending
    have hnone {i : Int} (hi : i ≤ t.index) : netUpTo ts i = 0 :=
      netUpTo_eq_zero fun u hu => hi.trans_lt (hfirst u hu)
    have hhere := hfits t.index
    rw [netUpTo_cons, if_pos le_rfl, hnone le_rfl, Int.add_zero] at hhere
    have hheld : Word.saturate 128 (sum + t.net) = sum + t.net := by
      change max (-(Word.size 127 : Int)) (min _ (Word.size 127 - 1)) = _
      omega
    have hrest : Unsaturated (sum + t.net) ts := fun i => by
      obtain hi | hi := le_or_gt t.index i
      · have := hfits i
        rw [netUpTo_cons, if_pos hi] at this
        omega
      · rw [hnone hi.le]
        omega
    have hstep : heldSum sum (t :: ts) = heldSum (Word.saturate 128 (sum + t.net)) ts := rfl
    rw [hstep, hheld, ih hascending hrest, List.map_cons, List.sum_cons, Int.add_assoc]

end Sum

/-- What is accepted does not depend on the order of the ticks, and it is kept in ascending order.
Accepted is what is placed well and comes to a net of zero: as a sum with saturation in ascending
order, which is the exact sum where none on the way saturates. -/
theorem ofList_accepts (ticks : List Tick) (spacing : Int) :
    (∀ ticks' : List Tick, ticks'.Perm ticks → ofList ticks' spacing = ofList ticks spacing) ∧
    (∀ l, ofList ticks spacing = .ok l → l.spacing = spacing ∧ l.ticks.Perm ticks ∧
      l.ticks.Pairwise (·.index < ·.index)) ∧
    ((∃ l, ofList ticks spacing = .ok l) ↔
      Placed ticks spacing ∧ heldSum 0 (ascending ticks) = 0) ∧
    (Unsaturated 0 ticks → ((∃ l, ofList ticks spacing = .ok l) ↔
      Placed ticks spacing ∧ (ticks.map (·.net)).sum = 0)) := by
  refine ⟨fun ticks' hperm => ofList_perm hperm spacing, fun l h => ?_, exists_ofList_iff,
    fun hfits => ?_⟩
  · obtain ⟨hordered, hspacing, hperm⟩ := ofList_eq_ok h
    exact ⟨hspacing, hperm, hordered.ascending⟩
  · rw [exists_ofList_iff]
    refine and_congr_right fun hplaced => ?_
    have hperm := ascending_perm ticks
    have hkept : Unsaturated 0 (ascending ticks) := fun i => by
      rw [netUpTo_perm hperm]
      exact hfits i
    rw [heldSum_eq hplaced.strictly hkept, Int.zero_add, (hperm.map (·.net)).sum_eq]

def stairs : List Tick := [⟨600, 3, -3⟩, ⟨-600, 2, 2⟩, ⟨-1200, 1, 1⟩]

theorem ofList_accepts_stairs :
    Unsaturated 0 stairs ∧ ofList stairs.reverse 60 = ofList stairs 60 ∧
      ∃ l, ofList stairs 60 = .ok l ∧ l.ticks.Pairwise (·.index < ·.index) := by
  have hfits : Unsaturated 0 stairs := fun i => by
    have hsize : 6 < Word.size 127 := by decide
    simp only [stairs, netUpTo_cons, netUpTo_eq_zero (List.forall_mem_nil _)]
    split_ifs <;> omega
  obtain ⟨horder, hkept, -, hexact⟩ := ofList_accepts stairs 60
  obtain ⟨l, hl⟩ := (hexact hfits).mpr ⟨⟨by decide, by decide, by decide⟩, by decide⟩
  exact ⟨hfits, horder _ (List.reverse_perm stairs), l, hl, (hkept l hl).2.2⟩

/-- Nets that come to zero, with a sum on the way that does not fit. -/
def brimming : List Tick :=
  [⟨0, 170141183460469231731687303715884105727, 170141183460469231731687303715884105727⟩,
    ⟨60, 1, 1⟩,
    ⟨120, 170141183460469231731687303715884105728, -170141183460469231731687303715884105728⟩]

/-- Nets that come to one. -/
def surplus : List Tick :=
  [⟨0, 170141183460469231731687303715884105727, 170141183460469231731687303715884105727⟩,
    ⟨60, 1, 1⟩,
    ⟨120, 170141183460469231731687303715884105727, -170141183460469231731687303715884105727⟩]

/-- Where a sum saturates, nets that come to zero are refused, and others are accepted. -/
theorem ofList_saturated :
    (Placed brimming 60 ∧ (brimming.map (·.net)).sum = 0 ∧
      ofList brimming 60 = .error (.nonZeroNet (-1))) ∧
    (surplus.map (·.net)).sum = 1 ∧ ofList surplus 60 = .ok ⟨60, surplus⟩ := by
  have hbrimming : ascending brimming = brimming := ascending_of_sorted (by decide)
  refine ⟨⟨⟨by decide, by decide, by decide⟩, by decide, ?_⟩, by decide, ?_⟩
  · rw [ofList_of_pos (by decide), hbrimming]
    decide
  · exact ofList_of_ascending (by decide) (by decide) (by decide)

end LiquidityGraph.TickList
