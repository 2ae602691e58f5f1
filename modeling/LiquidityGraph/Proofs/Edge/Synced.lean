import LiquidityGraph.Proofs.Edge.ConstantProduct
import LiquidityGraph.Proofs.Graph.Dispatch
import Mathlib.Data.List.Induction

/-!
Constant-product pools behind their logs. The reserves are whatever the last complete log reports,
unchecked; so a pool may come to be empty on one side only. Towards the other side it then pays
out all that it holds, for any amount.
-/
namespace LiquidityGraph

namespace Bytes

private theorem toNat_lt (bytes : List UInt8) : toNat bytes < Word.size (8 * bytes.length) := by
  induction bytes using List.reverseRecOn with
  | nil => decide
  | append_singleton bytes b ih =>
    have happend : toNat (bytes ++ [b]) = 256 * toNat bytes + b.toNat :=
      List.foldl_append
    have hsize : Word.size (8 * (bytes.length + 1)) = Word.size (8 * bytes.length) * 256 :=
      Word.size_add _ 8
    have hb : b.toNat < 256 := b.toNat_lt
    rw [happend, List.length_append, List.length_singleton, hsize]
    omega

private theorem word_lt {data : List UInt8} {index n : Nat} (h : word data index = .ok n) :
    n < Word.size 256 := by
  unfold word at h
  dsimp only at h
  split_ifs at h
  cases h
  have hlength : 8 * ((data.drop (index * 32)).take 32).length ≤ 256 :=
    Nat.mul_le_mul_left 8 (List.length_take_le ..)
  exact (toNat_lt _).trans_le (Word.size_le hlength)

end Bytes

namespace ConstantProduct

/-- The reserves after a log, which are those that it reports if it is complete. -/
def reported (r : Nat × Nat) (d : Delivery) : Nat × Nat :=
  if d.1.hasTopic d.2.sync then d.1.reserves.toOption.getD r else r

theorem after_eq (e : ConstantProduct) (d : Delivery) :
    Edge.after (.constantProduct e) d =
      .constantProduct { e with
        reserve0 := (reported (e.reserve0, e.reserve1) d).1
        reserve1 := (reported (e.reserve0, e.reserve1) d).2 } := by
  unfold reported
  by_cases htopic : d.1.hasTopic d.2.sync
  · simp only [Edge.after, Edge.update, htopic, if_true, sync_eq_map]
    cases d.1.reserves <;> rfl
  · simp [Edge.after, Edge.update, htopic]

theorem foldl_after (e : ConstantProduct) (ds : List Delivery) :
    ds.foldl Edge.after (.constantProduct e) =
      .constantProduct { e with
        reserve0 := (ds.foldl reported (e.reserve0, e.reserve1)).1
        reserve1 := (ds.foldl reported (e.reserve0, e.reserve1)).2 } := by
  induction ds generalizing e with
  | nil => rfl
  | cons d ds ih => rw [List.foldl_cons, after_eq, ih, List.foldl_cons]

theorem reported_lt {r : Nat × Nat} (hr : r.1 < Word.size 256 ∧ r.2 < Word.size 256)
    (d : Delivery) :
    (reported r d).1 < Word.size 256 ∧ (reported r d).2 < Word.size 256 := by
  unfold reported
  split_ifs
  · cases hreserves : d.1.reserves with
    | error cause => exact hr
    | ok r' =>
      obtain ⟨reserve0, h0, hreserves⟩ := bind_eq_ok.mp hreserves
      obtain ⟨reserve1, h1, hreserves⟩ := bind_eq_ok.mp hreserves
      cases hreserves
      exact ⟨Bytes.word_lt h0, Bytes.word_lt h1⟩
  · exact hr

private theorem foldl_reported_lt {r : Nat × Nat} (hr : r.1 < Word.size 256 ∧ r.2 < Word.size 256)
    (ds : List Delivery) :
    (ds.foldl reported r).1 < Word.size 256 ∧ (ds.foldl reported r).2 < Word.size 256 := by
  induction ds generalizing r with
  | nil => exact hr
  | cons d ds ih => exact ih (reported_lt hr d)

/-- A direction pays only when it holds both tokens, and then never all of one. -/
structure Solvent (e : ConstantProduct) : Prop where
  backed : ∀ a, 0 < e.quote a → 0 < e.reserveIn ∧ 0 < e.reserveOut
  kept : 0 < e.reserveOut → ∀ a, e.quote a < e.reserveOut

theorem quote_empty {e : ConstantProduct} {a : Nat} (hin : e.reserveIn = 0) (ha : 0 < a)
    (hfit : a * 997 * e.reserveOut < Word.size 512) (hout : e.reserveOut < Word.size 256) :
    e.quote a = e.reserveOut := by
  rw [quote, amountOut_eq_quotient hfit hout, hin]
  exact quotient_zero a _ ha

/-- Only an empty input reserve before a filled output reserve makes a direction insolvent. -/
theorem solvent_iff {e : ConstantProduct} (hout : e.reserveOut < Word.size 256) :
    e.Solvent ↔ (e.reserveIn = 0 → e.reserveOut = 0) := by
  constructor
  · intro hsolvent hin
    have hunit : 1 < Word.size 1 := by decide
    have hfit : 1 * 997 * e.reserveOut < Word.size 512 := numerator_fits (by decide) hunit hout
    have hpaid : e.quote 1 = e.reserveOut := quote_empty hin Nat.one_pos hfit hout
    by_contra hne
    exact (hsolvent.kept (Nat.pos_of_ne_zero hne) 1).ne hpaid
  · intro hempty
    have hquote (a : Nat) : e.quote a ≤ quotient a e.reserveIn e.reserveOut :=
      amountOut_le_quotient ..
    have hin (hpos : 0 < e.reserveOut) : 0 < e.reserveIn :=
      Nat.pos_of_ne_zero fun hzero => hpos.ne' (hempty hzero)
    constructor
    · intro a hpaid
      have hpos : 0 < e.reserveOut := hpaid.trans_le ((hquote a).trans (quotient_le ..))
      exact ⟨hin hpos, hpos⟩
    · intro hpos a
      exact (hquote a).trans_lt (quotient_lt a (hin hpos) hpos)

/-- After any logs, a direction of a pool is solvent unless they leave only its input side
empty. -/
theorem pair_solvent_after (token0 token1 : TokenId) {reserve0 reserve1 : Nat}
    (h0 : reserve0 < Word.size 256) (h1 : reserve1 < Word.size 256) (ds : List Delivery) :
    let edges := pair token0 token1 reserve0 reserve1
    let r := ds.foldl reported (reserve0, reserve1)
    let edges' := pair token0 token1 r.1 r.2
    (ds.foldl Edge.after (.constantProduct edges.1) = .constantProduct edges'.1 ∧
        ds.foldl Edge.after (.constantProduct edges.2) = .constantProduct edges'.2) ∧
      (edges'.1.Solvent ↔ (r.1 = 0 → r.2 = 0)) ∧
      (edges'.2.Solvent ↔ (r.2 = 0 → r.1 = 0)) := by
  intro edges r edges'
  obtain ⟨hr0, hr1⟩ := foldl_reported_lt (r := (reserve0, reserve1)) ⟨h0, h1⟩ ds
  exact ⟨⟨foldl_after edges.1 ds, foldl_after edges.2 ds⟩, solvent_iff hr1, solvent_iff hr0⟩

def report (reserve0 reserve1 : Nat) : Delivery :=
  (⟨Address.zero, [7], Bytes.ofNat 32 reserve0 ++ Bytes.ofNat 32 reserve1, none, none⟩,
    ⟨⟨"avalanche"⟩, 10, 7, 8⟩)

/-- A drained pool is insolvent in one direction, until it is filled again. -/
theorem pair_solvent_after_refill :
    let edges := pair ⟨"A"⟩ ⟨"B"⟩ 1000 1000
    let drained := pair ⟨"A"⟩ ⟨"B"⟩ 0 5
    let filled := pair ⟨"A"⟩ ⟨"B"⟩ 3 5
    [report 0 5].foldl Edge.after (.constantProduct edges.1) = .constantProduct drained.1 ∧
      ¬ drained.1.Solvent ∧ drained.2.Solvent ∧
      [report 0 5, report 3 5].foldl Edge.after (.constantProduct edges.1) =
        .constantProduct filled.1 ∧
      filled.1.Solvent ∧ filled.2.Solvent := by
  intro edges drained filled
  have hfit : 1000 < Word.size 256 := by decide +kernel
  have hdrain : [report 0 5].foldl reported (1000, 1000) = (0, 5) := by decide +kernel
  have hfill : [report 0 5, report 3 5].foldl reported (1000, 1000) = (3, 5) := by decide +kernel
  obtain ⟨⟨hdrained, -⟩, hinsolvent, hsolvent⟩ :=
    pair_solvent_after ⟨"A"⟩ ⟨"B"⟩ hfit hfit [report 0 5]
  obtain ⟨⟨hfilled, -⟩, hforward, hbackward⟩ :=
    pair_solvent_after ⟨"A"⟩ ⟨"B"⟩ hfit hfit [report 0 5, report 3 5]
  rw [hdrain] at hdrained hinsolvent hsolvent
  rw [hfill] at hfilled hforward hbackward
  exact ⟨hdrained, hinsolvent.not.mpr (by decide), hsolvent.mpr (by decide), hfilled,
    hforward.mpr (by decide), hbackward.mpr (by decide)⟩

/-- With nothing of the one token, all of the other is quoted. -/
theorem pair_insolvent_drained :
    let drained := (pair ⟨"A"⟩ ⟨"B"⟩ 0 5).1
    Edge.after (.constantProduct (pair ⟨"A"⟩ ⟨"B"⟩ 1000 1000).1) (report 0 5) =
        .constantProduct drained ∧
      drained.reserveIn = 0 ∧ drained.quote 10 = 5 ∧ drained.reserveOut = 5 ∧
      ¬ drained.Solvent := by
  intro drained
  have hquote : drained.quote 10 = 5 := by decide +kernel
  refine ⟨by decide +kernel, rfl, hquote, rfl, fun hsolvent => ?_⟩
  have hpaid : 0 < drained.quote 10 := by rw [hquote]; decide
  exact absurd (hsolvent.backed 10 hpaid).1 (by decide)

end ConstantProduct

end LiquidityGraph
