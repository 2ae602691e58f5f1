import LiquidityGraph.Text.Decimal
import Mathlib.Data.List.Basic
import Mathlib.Tactic.SplitIfs

/-! A number is read back from its decimal digits. -/
namespace LiquidityGraph.Decimal

theorem digit?_digitChar {d : Nat} (h : d < 10) : digit? (digitChar d) = some d := by
  decide +revert

theorem isDigit_digitChar {d : Nat} (h : d < 10) : (digitChar d).isDigit := by
  decide +revert

private theorem digitChar_eq_zero {d : Nat} (h : d < 10) : digitChar d = '0' ↔ d = 0 := by
  decide +revert

private theorem digitChar_ne_sign {d : Nat} (h : d < 10) :
    digitChar d ≠ '+' ∧ digitChar d ≠ '-' := by
  decide +revert

theorem mem_digits {n : Nat} {c : Char} (h : c ∈ digits n) : ∃ d < 10, c = digitChar d := by
  induction n using digits.induct with
  | case1 n hn =>
    rw [digits, if_pos hn, List.mem_singleton] at h
    exact ⟨n, hn, h⟩
  | case2 n hn ih =>
    rw [digits, if_neg hn, List.mem_append, List.mem_singleton] at h
    obtain h | rfl := h
    · exact ih h
    · exact ⟨n % 10, Nat.mod_lt _ (by decide), rfl⟩

theorem digits_ne_nil (n : Nat) : digits n ≠ [] := by
  rw [digits]
  split_ifs <;> simp

@[simp] theorem digits_zero : digits 0 = ['0'] := by
  rw [digits]
  rfl

theorem head?_digits (n : Nat) : (digits n).head? = some '0' ↔ n = 0 := by
  induction n using digits.induct with
  | case1 n hn =>
    rw [digits, if_pos hn, List.head?_cons, Option.some.injEq]
    exact digitChar_eq_zero hn
  | case2 n hn ih =>
    rw [digits, if_neg hn, List.head?_append_of_ne_nil _ (digits_ne_nil _), ih]
    omega

theorem value?_append_singleton {cs : List Char} {n d : Nat} {c : Char}
    (hcs : value? cs = some n) (hc : digit? c = some d) :
    value? (cs ++ [c]) = some (10 * n + d) := by
  unfold value? at *
  rw [List.foldlM_append, hcs]
  simp [hc]

@[simp] theorem value?_digits (n : Nat) : value? (digits n) = some n := by
  induction n using digits.induct with
  | case1 n hn =>
    rw [digits, if_pos hn]
    simp [value?, digit?_digitChar hn]
  | case2 n hn ih =>
    rw [digits, if_neg hn, value?_append_singleton ih (digit?_digitChar (Nat.mod_lt _ (by decide)))]
    congr 1
    omega

@[simp] theorem run?_digits (n : Nat) : run? (digits n) = some n := by
  rw [run?, if_neg (by simpa using digits_ne_nil n), value?_digits]

@[simp] theorem word?_ofNat (bits n : Nat) :
    word? bits (ofNat n) = if n < Word.size bits then some n else none := by
  simp [word?, ofNat, Option.filter]

theorem digits_ne_sign (n : Nat) (r : List Char) : digits n ≠ '+' :: r ∧ digits n ≠ '-' :: r := by
  constructor
  · intro h
    obtain ⟨d, hd, hc⟩ := mem_digits (h ▸ List.mem_cons_self : '+' ∈ digits n)
    exact (digitChar_ne_sign hd).1 hc.symm
  · intro h
    obtain ⟨d, hd, hc⟩ := mem_digits (h ▸ List.mem_cons_self : '-' ∈ digits n)
    exact (digitChar_ne_sign hd).2 hc.symm

@[simp] theorem unsigned?_ofNat (bits n : Nat) :
    unsigned? bits (ofNat n) = if n < Word.size bits then some n else none := by
  rw [unsigned?, ofNat, String.toList_ofList]
  split
  · rename_i r h
    exact absurd h (digits_ne_sign n r).1
  · simp [Option.filter]

@[simp] theorem signed?_ofInt (bits : Nat) (i : Int) :
    signed? bits (ofInt i) = Word.signed? bits i := by
  unfold ofInt
  split_ifs with hneg
  · have hvalue : -Int.ofNat i.natAbs = i := by
      rw [Int.ofNat_eq_natCast]
      omega
    rw [signed?, String.toList_ofList]
    change ((run? (digits i.natAbs)).map fun n => -Int.ofNat n).bind (Word.signed? bits) = _
    rw [run?_digits, Option.map_some, Option.bind_some, hvalue]
  · have hvalue : Int.ofNat i.natAbs = i := Int.natAbs_of_nonneg (Int.not_lt.mp hneg)
    rw [signed?, ofNat, String.toList_ofList]
    split
    · rename_i r h
      exact absurd h (digits_ne_sign i.natAbs r).1
    · rename_i r h
      exact absurd h (digits_ne_sign i.natAbs r).2
    · rw [run?_digits, Option.map_some, Option.bind_some, hvalue]

/-- A number below a power of ten has at most as many digits. -/
theorem length_digits_le {k n : Nat} (h : n < Nat.pow 10 (k + 1)) : (digits n).length ≤ k + 1 := by
  induction k generalizing n with
  | zero =>
    rw [digits, if_pos (by omega)]
    exact Nat.le_refl 1
  | succ k ih =>
    have hpow : Nat.pow 10 (k + 1 + 1) = Nat.pow 10 (k + 1) * 10 := rfl
    rw [digits]
    split_ifs
    · exact Nat.succ_le_succ (Nat.zero_le _)
    · rw [List.length_append, List.length_singleton]
      exact Nat.succ_le_succ (ih (by omega))

theorem utf8ByteSize_ofList_le (cs : List Char) :
    (String.ofList cs).utf8ByteSize ≤ 4 * cs.length := by
  induction cs with
  | nil => exact Nat.le_refl 0
  | cons c cs ih =>
    have hc := Char.utf8Size_le_four c
    rw [String.ofList_cons, String.utf8ByteSize_append, String.utf8ByteSize_singleton,
      List.length_cons]
    omega

theorem utf8ByteSize_ofNat_le {k n : Nat} (h : n < Nat.pow 10 (k + 1)) :
    (ofNat n).utf8ByteSize ≤ 4 * (k + 1) :=
  Nat.le_trans (utf8ByteSize_ofList_le _) (Nat.mul_le_mul_left 4 (length_digits_le h))

theorem utf8ByteSize_ofInt_le {k : Nat} {i : Int} (h : i.natAbs < Nat.pow 10 (k + 1)) :
    (ofInt i).utf8ByteSize ≤ 4 * (k + 2) := by
  have hlength := length_digits_le h
  unfold ofInt
  split_ifs
  · exact Nat.le_trans (utf8ByteSize_ofList_le _) (Nat.mul_le_mul_left 4 (Nat.succ_le_succ hlength))
  · exact Nat.le_trans (utf8ByteSize_ofNat_le h) (Nat.mul_le_mul_left 4 (Nat.le_succ _))

end LiquidityGraph.Decimal
