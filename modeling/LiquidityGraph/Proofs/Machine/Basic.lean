import LiquidityGraph.Proofs.Except
import LiquidityGraph.Proofs.Word

/-!
Computations on machine words, operation by operation. An operation that nothing checks has to
stay within its type; where it does not the computation is trapped, and no caller is told.
-/
namespace LiquidityGraph

/-- A computation that can fail with an error, or be trapped: then it is `none`. -/
abbrev Machine (ε α : Type) := ExceptT ε Option α

namespace Machine

variable {ε α β : Type}

/-- A result that was come to without a trap. -/
def safe (x : Except ε α) : Machine ε α := ExceptT.mk (some x)

def trap : Machine ε α := ExceptT.mk none

/-- An operation with the exact result `i`, which has to fit an unsigned word. -/
def unsigned (bits : Nat) (i : Int) : Machine ε Nat :=
  match Word.unsigned? bits i with
  | some n => pure n
  | none => trap

def signed (bits : Nat) (i : Int) : Machine ε Int :=
  match Word.signed? bits i with
  | some v => pure v
  | none => trap

def quotient (n d : Nat) : Machine ε Nat :=
  if d = 0 then trap else pure (n / d)

theorem safe_bind {x : Except ε α} {f : α → Machine ε β} {g : α → Except ε β}
    (h : ∀ a, x = .ok a → f a = safe (g a)) : safe x >>= f = safe (x >>= g) := by
  cases x with
  | error e => rfl
  | ok a => exact h a rfl

theorem safe_ite_bind {p : Prop} [Decidable p] {x y : Except ε α} {x' y' : Machine ε α}
    {f : α → Machine ε β} {g : α → Except ε β} (hx : p → x' = safe x) (hy : ¬ p → y' = safe y)
    (h : ∀ a, (if p then x else y) = .ok a → f a = safe (g a)) :
    (if p then x' >>= f else y' >>= f) = safe (if p then x >>= g else y >>= g) := by
  split_ifs at h ⊢ with hp
  · rw [hx hp]
    exact safe_bind h
  · rw [hy hp]
    exact safe_bind h

theorem unsigned_natCast {bits n : Nat} (h : n < Word.size bits) :
    unsigned bits n = (pure n : Machine ε Nat) := by
  have hfits : (0 : Int) ≤ n ∧ (n : Int) < Word.size bits := ⟨by omega, by omega⟩
  rw [unsigned, Word.unsigned?, if_pos hfits]
  rfl

theorem unsigned_sub {bits n m : Nat} (hle : m ≤ n) (h : n < Word.size bits) :
    unsigned bits (n - m) = (pure (n - m) : Machine ε Nat) := by
  rw [← Int.ofNat_sub hle]
  exact unsigned_natCast (by omega)

theorem signed_of_fits {i : Int} (bits : Nat) (hl : -(Word.size bits : Int) ≤ i)
    (hh : i < Word.size bits) : signed (bits + 1) i = (pure i : Machine ε Int) := by
  rw [signed, Word.signed?, Nat.add_sub_cancel, if_pos ⟨hl, hh⟩]

theorem signed_32 {i : Int} (hl : -2147483648 ≤ i) (hh : i < 2147483648) :
    signed 32 i = (pure i : Machine ε Int) :=
  signed_of_fits 31 hl hh

theorem signed_64 {i : Int} (hl : -9223372036854775808 ≤ i) (hh : i < 9223372036854775808) :
    signed 64 i = (pure i : Machine ε Int) :=
  signed_of_fits 63 hl hh

theorem quotient_of_pos {n d : Nat} (h : 0 < d) :
    quotient n d = (pure (n / d) : Machine ε Nat) := by
  rw [quotient, if_neg (Nat.ne_of_gt h)]

end Machine

end LiquidityGraph
