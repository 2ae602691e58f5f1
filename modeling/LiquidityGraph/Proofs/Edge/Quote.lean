import LiquidityGraph.Edge.Basic
import LiquidityGraph.Proofs.Swap.Advance

/-! How far quotes can go. -/
namespace LiquidityGraph

/-- A quote of a concentrated edge is the negated outcome of a swap, which fits a signed word. -/
theorem Concentrated.quote_lt (e : Concentrated) (amount : Nat) :
    e.quote amount < Word.size 256 := by
  have hsize : Word.size 255 < Word.size 256 := by decide +kernel
  obtain hnothing | ⟨o, ho, hpaid⟩ := e.quote_cases amount
  · omega
  · have hstart : -(Word.size 255 : Int) ≤ 0 ∧ (0 : Int) < Word.size 255 := by decide +kernel
    have hstep {t : Swap.Terms} {s s' : Swap.State} (h : t.advance s = .ok s') :
        -(Word.size 255 : Int) ≤ s'.calculated ∧ s'.calculated < Word.size 255 := by
      obtain ⟨step, -, hbook, -, -⟩ := Swap.Terms.advance_eq_ok h
      exact (Swap.Terms.book_eq_ok hbook).2.2
    have hrange : -(Word.size 255 : Int) ≤ o.calculated ∧ o.calculated < Word.size 255 :=
      Swap.Terms.run_induct (fun _ => hstep) hstart (swap_eq_ok ho).2
    omega

theorem Edge.quote_lt (e : Edge) {amount : Nat} (h : amount < Word.size 256) :
    e.quote amount < Word.size 256 := by
  cases e with
  | constantProduct e =>
    change ConstantProduct.amountOut amount e.reserveIn e.reserveOut < _
    unfold ConstantProduct.amountOut
    dsimp only
    split_ifs with hfit
    · exact hfit.2
    · omega
  | concentrated e => exact e.quote_lt amount
  | bridge e => exact h

end LiquidityGraph
