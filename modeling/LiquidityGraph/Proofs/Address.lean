import LiquidityGraph.Address
import LiquidityGraph.Id
import Mathlib.Data.List.Induction
import Mathlib.Tactic.Ring
import Mathlib.Tactic.SplitIfs

/-!
An address is read back from its checksummed text: raising a letter does not change the digit
that it is. So two addresses never name one pool, and the checksummed text of an address that is
written without gaps differs from it in case only.
-/

namespace LiquidityGraph

namespace Text

@[elab_as_elim]
private theorem forall_char_lt {P : Char → Prop} {bound : Nat} {c : Char} (hc : c.toNat < bound)
    (h : ∀ n < bound, P (Char.ofNat n)) : P c := by
  have hchar := h c.toNat hc
  rwa [Char.ofNat_toNat] at hchar

theorem trimStart_eq_self {cs : List Char} (h : ∀ c ∈ cs, isBlank c = false) :
    trimStart cs = cs := by
  cases cs with
  | nil => rfl
  | cons c cs =>
    have hc : isBlank c = false := h c List.mem_cons_self
    simp [trimStart, hc]

theorem trimEnd_eq_self {cs : List Char} (h : ∀ c ∈ cs, isBlank c = false) :
    trimEnd cs = cs := by
  have hreverse : trimStart cs.reverse = cs.reverse :=
    trimStart_eq_self fun c hc => h c (List.mem_reverse.mp hc)
  unfold trimStart at hreverse
  rw [trimEnd, hreverse, List.reverse_reverse]

end Text

namespace Hex

theorem digit?_digitChar {d : Nat} (h : d < 16) : digit? (digitChar d) = some d := by
  decide +revert

private theorem digit?_toUpper_digitChar {d : Nat} (h : d < 16) :
    digit? (digitChar d).toUpper = some d := by
  decide +revert

private theorem toNat_lt_of_digit? {c : Char} (h : (digit? c).isSome) : c.toNat < 103 := by
  have hle : ∀ a b : Char, a ≤ b → a.toNat ≤ b.toNat := fun _ _ h => h
  unfold digit? at h
  split_ifs at h with hdigit hlower hupper
  · exact Nat.lt_of_le_of_lt (hle c '9' hdigit.2) (by decide)
  · exact Nat.lt_of_le_of_lt (hle c 'f' hlower.2) (by decide)
  · exact Nat.lt_of_le_of_lt (hle c 'F' hupper.2) (by decide)
  · cases h

theorem digit?_eq_some {c : Char} {d : Nat} (h : digit? c = some d) :
    d < 16 ∧ c.toLower = digitChar d ∧ Address.isGap c = false ∧ Text.isBlank c = false := by
  have hc : c.toNat < 103 := toNat_lt_of_digit? (by rw [h]; rfl)
  have hread : ∀ d ∈ digit? c, d < 16 ∧ c.toLower = digitChar d ∧ Address.isGap c = false ∧
      Text.isBlank c = false := by
    refine Text.forall_char_lt hc ?_
    decide
  exact hread d h

private theorem foldl_fixed (width n acc : Nat) :
    (fixed width n).foldl (fun n c => 16 * n + (digit? c).getD 0) acc =
      16 ^ width * acc + n % 16 ^ width := by
  induction width generalizing n with
  | zero => simp [fixed, Nat.mod_one]
  | succ width ih =>
    have hdigit : (digit? (digitChar (n % 16))).getD 0 = n % 16 := by
      rw [digit?_digitChar (Nat.mod_lt _ (by decide))]
      rfl
    rw [fixed, List.foldl_append, ih, List.foldl_cons, List.foldl_nil, hdigit, Nat.pow_succ']
    have hsplit : n % (16 * 16 ^ width) = n % 16 + 16 * (n / 16 % 16 ^ width) := Nat.mod_mul
    rw [hsplit, Nat.mul_assoc]
    omega

@[simp] theorem length_fixed (width n : Nat) : (fixed width n).length = width := by
  induction width generalizing n with
  | zero => rfl
  | succ width ih => simp [fixed, ih]

theorem mem_fixed {width n : Nat} {c : Char} (h : c ∈ fixed width n) :
    ∃ d < 16, c = digitChar d := by
  induction width generalizing n with
  | zero => cases h
  | succ width ih =>
    rw [fixed, List.mem_append, List.mem_singleton] at h
    obtain h | rfl := h
    · exact ih h
    · exact ⟨n % 16, Nat.mod_lt _ (by decide), rfl⟩

private theorem value_append_singleton (cs : List Char) (c : Char) :
    value (cs ++ [c]) = 16 * value cs + (digit? c).getD 0 := by
  simp only [value, List.foldl_append, List.foldl_cons, List.foldl_nil]

/-- Digits are those of the number that they write, but for their case. -/
theorem fixed_value {cs : List Char} (h : ∀ c ∈ cs, (digit? c).isSome) :
    value cs < 16 ^ cs.length ∧ fixed cs.length (value cs) = cs.map Char.toLower := by
  induction cs using List.reverseRecOn with
  | nil => exact ⟨by decide, rfl⟩
  | append_singleton cs c ih =>
    obtain ⟨hlt, hfixed⟩ := ih fun c hc => h c (List.mem_append_left _ hc)
    obtain ⟨d, hd⟩ := Option.isSome_iff_exists.mp (h c (by simp))
    obtain ⟨hd16, hlower, -, -⟩ := digit?_eq_some hd
    have hvalue : value (cs ++ [c]) = 16 * value cs + d := by
      rw [value_append_singleton, hd, Option.getD_some]
    have hdiv : (16 * value cs + d) / 16 = value cs := by omega
    have hmod : (16 * value cs + d) % 16 = d := by omega
    rw [hvalue, List.length_append, List.length_singleton]
    constructor
    · rw [Nat.pow_succ]
      omega
    · rw [fixed, hdiv, hmod, hfixed, ← hlower, List.map_append, List.map_singleton]

end Hex

@[simp] theorem Keccak.length_hash (input : List UInt8) : (Keccak.hash input).length = 32 := by
  simp [Keccak.hash, Keccak.bytesOf, List.map_const']

namespace Address

@[simp] theorem toNat_ofWord (n : Nat) : (ofWord n).toNat = n % Word.size 160 := rfl

@[simp] theorem ofWord_toNat (a : Address) : ofWord a.toNat = a := by
  simp only [ofWord, Nat.mod_eq_of_lt a.isLt]

private theorem digits_lt (a : Address) : a.toNat < 16 ^ 40 := by
  have hsize : Word.size 160 = 16 ^ 40 := by decide +kernel
  exact hsize ▸ a.isLt

@[simp] theorem length_nibbles (bytes : List UInt8) :
    (nibbles bytes).length = 2 * bytes.length := by
  simp [nibbles, List.map_const', Nat.mul_comm]

@[simp] theorem map_digit?_checksumDigits (a : Address) :
    a.checksumDigits.map Hex.digit? = a.digits.map Hex.digit? := by
  have hlength : a.digits.length ≤
      (nibbles (Keccak.hash (a.digits.map fun c => UInt8.ofNat c.toNat))).length := by
    simp [digits]
  have hdigits : ∀ c ∈ a.digits, Hex.digit? c.toUpper = Hex.digit? c := by
    intro c hc
    obtain ⟨d, hd, rfl⟩ := Hex.mem_fixed hc
    rw [Hex.digit?_toUpper_digitChar hd, Hex.digit?_digitChar hd]
  unfold checksumDigits
  simp only
  generalize nibbles (Keccak.hash (a.digits.map fun c => UInt8.ofNat c.toNat)) = hs at hlength
  generalize a.digits = cs at hlength hdigits
  induction cs generalizing hs with
  | nil => rfl
  | cons c cs ih =>
    cases hs with
    | nil => simp at hlength
    | cons h hs =>
      obtain ⟨hfirst, hrest⟩ := List.forall_mem_cons.mp hdigits
      rw [List.zipWith_cons_cons, List.map_cons, List.map_cons, ih hs (by simpa using hlength) hrest]
      split_ifs
      · rw [hfirst]
      · rfl

theorem isSome_digit?_checksumDigits {a : Address} {c : Char} (h : c ∈ a.checksumDigits) :
    (Hex.digit? c).isSome := by
  have hc : Hex.digit? c ∈ a.digits.map Hex.digit? := by
    rw [← map_digit?_checksumDigits]
    exact List.mem_map_of_mem h
  obtain ⟨c', hc', hsame⟩ := List.mem_map.mp hc
  obtain ⟨d, hd, rfl⟩ := Hex.mem_fixed hc'
  rw [← hsame, Hex.digit?_digitChar hd]
  rfl

@[simp] theorem length_checksumDigits (a : Address) : a.checksumDigits.length = 40 := by
  rw [← List.length_map (f := Hex.digit?), map_digit?_checksumDigits, List.length_map, digits,
    Hex.length_fixed]

private theorem scan_digits {cs : List Char} (h : ∀ c ∈ cs, (Hex.digit? c).isSome)
    (acc position : Nat) :
    scan acc position cs.length cs =
      .ok (cs.foldl (fun n c => 16 * n + (Hex.digit? c).getD 0) acc) := by
  induction cs generalizing acc position with
  | nil => rfl
  | cons c cs ih =>
    obtain ⟨hdigit, hrest⟩ := List.forall_mem_cons.mp h
    obtain ⟨d, hd⟩ := Option.isSome_iff_exists.mp hdigit
    obtain ⟨-, -, hgap, -⟩ := Hex.digit?_eq_some hd
    simp only [List.length_cons, scan, hgap, hd, List.foldl_cons, Option.getD_some]
    exact ih hrest _ _

/-- Forty digits behind `0x`, in any case, are an address. -/
theorem read?_marked {cs : List Char} (hlength : cs.length = 40)
    (h : ∀ c ∈ cs, (Hex.digit? c).isSome) :
    read? (String.ofList ('0' :: 'x' :: cs)) = some (ofWord (Hex.value cs)) := by
  have hblank : ∀ c ∈ '0' :: 'x' :: cs, Text.isBlank c = false := by
    refine List.forall_mem_cons.mpr ⟨by decide, List.forall_mem_cons.mpr ⟨by decide, ?_⟩⟩
    intro c hc
    obtain ⟨d, hd⟩ := Option.isSome_iff_exists.mp (h c hc)
    exact (Hex.digit?_eq_some hd).2.2.2
  have hscan : scan 0 0 40 cs = .ok (Hex.value cs) := by
    rw [← hlength]
    exact scan_digits h 0 0
  simp only [read?, read, String.toList_ofList, Text.trimStart_eq_self hblank,
    Text.trimEnd_eq_self hblank, readDigits, stripMark, hscan]
  simp [Except.map, Except.mapError, Except.toOption]

@[simp] theorem value_checksumDigits (a : Address) : Hex.value a.checksumDigits = a.toNat := by
  have hfold : ∀ cs : List Char, Hex.value cs =
      (cs.map Hex.digit?).foldl (fun n d => 16 * n + d.getD 0) 0 := by
    intro cs
    rw [List.foldl_map]
    rfl
  rw [hfold, map_digit?_checksumDigits, ← hfold, digits, Hex.value, Hex.foldl_fixed, Nat.mul_zero,
    Nat.zero_add, Nat.mod_eq_of_lt a.digits_lt]

/-- An address is read back from its checksummed text. -/
@[simp] theorem read?_checksum (a : Address) : read? a.checksum = some a := by
  rw [checksum, read?_marked a.length_checksumDigits fun _ => isSome_digit?_checksumDigits]
  simp

@[simp] theorem map_toLower_checksumDigits (a : Address) :
    a.checksumDigits.map Char.toLower = a.digits := by
  have hfixed := (Hex.fixed_value fun _ => isSome_digit?_checksumDigits (a := a)).2
  rw [length_checksumDigits, value_checksumDigits] at hfixed
  exact hfixed.symm

end Address

end LiquidityGraph
