import LiquidityGraph.Json.Reader
import LiquidityGraph.Proofs.Text.Decimal
import Mathlib.Tactic.IntervalCases

/-!
JSON text is read as the value that it was written from. This is stated value by value, whatever
stands behind it, so that the members of a record are read one behind the other.
-/
namespace LiquidityGraph.Json

open Value

theorem unit?_control : ∀ n < 32, ∃ a b c d, Hex.fixed 4 n = [a, b, c, d] ∧
    unit? a b c d = some n ∧ isHigh n = false ∧ isLow n = false := by
  intro n hn
  refine ⟨_, _, _, _, rfl, ?_⟩
  decide +revert

private theorem literal_unit {a b c d : Char} {n : Nat} (hn : unit? a b c d = some n)
    (hhigh : isHigh n = false) (hlow : isLow n = false) (rest : List Char) :
    literal ('\\' :: 'u' :: a :: b :: c :: d :: rest) = (literal rest).map (push (Char.ofNat n)) := by
  rw [literal]
  simp [hn, hhigh, hlow, Option.map_eq_bind]

private theorem literal_simple {c c' : Char} (h : simpleEscape? c = some c') (rest : List Char) :
    literal ('\\' :: c :: rest) = (literal rest).map (push c') := by
  have hu : c ≠ 'u' := by
    rintro rfl
    cases h
  rw [literal]
  · simp [h, Option.map_eq_bind]
  · exact fun _ _ _ _ _ hc _ => hu hc

private theorem literal_plain {c : Char} (hquote : c ≠ '"') (hslash : c ≠ '\\')
    (hcontrol : ¬ c.toNat < 32)
    (rest : List Char) : literal (c :: rest) = (literal rest).map (push c) := by
  rw [literal]
  · simp [hcontrol, hslash, Option.map_eq_bind]
  · exact hquote
  · exact fun _ _ _ _ _ hc _ => hslash hc
  · exact fun _ _ hc _ => hslash hc

@[simp] theorem literal_escapeChar (c : Char) (rest : List Char) :
    literal (escapeChar c ++ rest) = (literal rest).map (push c) := by
  unfold escapeChar
  split
  · exact literal_simple rfl rest
  · exact literal_simple rfl rest
  · exact literal_simple rfl rest
  · exact literal_simple rfl rest
  · exact literal_simple rfl rest
  · exact literal_simple rfl rest
  · exact literal_simple rfl rest
  · rename_i hquote hslash _ _ _ _ _
    split_ifs with hcontrol
    · obtain ⟨a, b, d, e, hfixed, hunit, hhigh, hlow⟩ := unit?_control c.toNat hcontrol
      rw [hfixed]
      have hread := literal_unit hunit hhigh hlow rest
      rwa [Char.ofNat_toNat] at hread
    · exact literal_plain hquote hslash hcontrol rest

@[simp] theorem literal_quoted (cs rest : List Char) :
    literal (cs.flatMap escapeChar ++ '"' :: rest) = some (some cs, rest) := by
  induction cs with
  | nil => rfl
  | cons c cs ih =>
    rw [List.flatMap_cons, List.append_assoc, literal_escapeChar, ih]
    rfl

@[simp] theorem text?_quoted (s : String) (rest : List Char) :
    text? (s.toList.flatMap escapeChar ++ '"' :: rest) = some (some s, rest) := by
  rw [text?, literal_quoted]
  simp

/-- What may stand behind a value: the end, or a mark of the record that holds it. -/
def Follows (rest : List Char) : Prop :=
  ∀ c ∈ rest.head?, c = ',' ∨ c = ']' ∨ c = '}'

private theorem takeWhile_digits (n : Nat) {rest : List Char} (h : Follows rest) :
    (Decimal.digits n ++ rest).takeWhile Char.isDigit = Decimal.digits n ∧
      (Decimal.digits n ++ rest).dropWhile Char.isDigit = rest := by
  have hdigits : ∀ c ∈ Decimal.digits n, c.isDigit := by
    intro c hc
    obtain ⟨d, hd, rfl⟩ := Decimal.mem_digits hc
    exact Decimal.isDigit_digitChar hd
  have hrest : rest.takeWhile Char.isDigit = [] ∧ rest.dropWhile Char.isDigit = rest := by
    cases rest with
    | nil => exact ⟨rfl, rfl⟩
    | cons c rest =>
      obtain rfl | rfl | rfl := h c rfl <;> exact ⟨rfl, rfl⟩
  rw [List.takeWhile_append_of_pos hdigits, List.dropWhile_append_of_pos hdigits, hrest.1, hrest.2,
    List.append_nil]
  exact ⟨rfl, rfl⟩

theorem number?_digits (negative : Bool) (n : Nat) {rest : List Char} (h : Follows rest) :
    number? negative (Decimal.digits n ++ rest) = some (.number negative (some n), rest) := by
  obtain ⟨htake, hdrop⟩ := takeWhile_digits n h
  have hfraction : fraction? rest = some (false, rest) := by
    cases rest with
    | nil => rfl
    | cons c rest => obtain rfl | rfl | rfl := h c rfl <;> rfl
  have hexponent : exponent? rest = some (false, rest) := by
    cases rest with
    | nil => rfl
    | cons c rest => obtain rfl | rfl | rfl := h c rfl <;> rfl
  have hlead : (Decimal.digits n).head? ≠ some '0' ∨ (Decimal.digits n).length = 1 := by
    by_cases hn : n = 0
    · subst hn
      exact .inr (by simp)
    · exact .inl (mt (Decimal.head?_digits n).mp hn)
  have hguard : ((Decimal.digits n).head? != some '0' || (Decimal.digits n).length == 1) = true := by
    simpa using hlead
  simp [number?, htake, hdrop, hguard, hfraction, hexponent]

/-- The text of a value is read as that value. -/
def Reads (v : Value) : Prop :=
  ∀ fuel rest, Follows rest → v.compact.length ≤ fuel →
    value? fuel (v.compact ++ rest) = some (v, rest)

theorem reads_bool (b : Bool) : Reads (.bool b) := by
  intro fuel rest _ hfuel
  cases fuel with
  | zero => cases b <;> simp [compact] at hfuel
  | succ fuel => cases b <;> rfl

theorem reads_str (s : String) : Reads (.str s) := by
  intro fuel rest _ hfuel
  cases fuel with
  | zero => simp [str, compact, quoted] at hfuel
  | succ fuel =>
    have hcompact : (str s).compact ++ rest =
        '"' :: (s.toList.flatMap escapeChar ++ '"' :: rest) := by
      simp [str, compact, quoted]
    have hvalue : value? (fuel + 1) ('"' :: (s.toList.flatMap escapeChar ++ '"' :: rest)) =
      (text? (s.toList.flatMap escapeChar ++ '"' :: rest)).map fun x => (.text x.1, x.2) := rfl
    rw [hcompact, hvalue, text?_quoted]
    rfl

theorem value?_digitChar {d : Nat} (hd : d < 10) (fuel : Nat) (cs : List Char) :
    value? (fuel + 1) (Decimal.digitChar d :: cs) = number? false (Decimal.digitChar d :: cs) := by
  interval_cases d <;> rfl

theorem reads_number (negative : Bool) (n : Nat) : Reads (.number negative (some n)) := by
  intro fuel rest hrest hfuel
  obtain ⟨c, cs, hdigits⟩ := List.exists_cons_of_ne_nil (Decimal.digits_ne_nil n)
  obtain ⟨d, hd, rfl⟩ := Decimal.mem_digits (hdigits ▸ List.mem_cons_self : c ∈ Decimal.digits n)
  cases fuel with
  | zero => simp [compact, numberText, hdigits] at hfuel
  | succ fuel =>
    cases negative with
    | true => exact number?_digits true n hrest
    | false =>
      have hcompact : (Value.number false (some n)).compact ++ rest = Decimal.digits n ++ rest := rfl
      rw [hcompact, ← number?_digits false n hrest, hdigits]
      exact value?_digitChar hd fuel (cs ++ rest)

private theorem skipSpace_cons {c : Char} (h : isSpace c = false) (cs : List Char) :
    skipSpace (c :: cs) = c :: cs := by
  simp [skipSpace, h]

theorem members?_quoted (fuel : Nat) (k : String) (cs : List Char) :
    members? (fuel + 1) (quoted k ++ ':' :: cs) = (do
      let (v, r) ← value? fuel cs
      match skipSpace r with
      | ',' :: r =>
        let (ms, r) ← members? fuel r
        return ((some k, v) :: ms, r)
      | '}' :: r => return ([(some k, v)], r)
      | _ => none) := by
  have hcons : quoted k ++ ':' :: cs = '"' :: (k.toList.flatMap escapeChar ++ '"' :: ':' :: cs) := by
    simp [quoted]
  rw [hcons, members?, skipSpace_cons rfl]
  simp only [text?_quoted]
  rfl

def keyed (members : List (String × Value)) : List (Option String × Value) :=
  members.map fun (k, v) => (some k, v)

theorem members?_keyed {members : List (String × Value)} (hne : members ≠ [])
    (h : ∀ m ∈ members, Reads m.2) (fuel : Nat) (rest : List Char)
    (hfuel : (compactMembers (keyed members)).length ≤ fuel) :
    members? fuel (compactMembers (keyed members) ++ '}' :: rest) =
      some (keyed members, rest) := by
  induction members generalizing fuel with
  | nil => exact absurd rfl hne
  | cons m members ih =>
    obtain ⟨k, v⟩ := m
    obtain ⟨hv, hrest⟩ := List.forall_mem_cons.mp h
    have hv : Reads v := hv
    cases members with
    | nil =>
      have hlength : v.compact.length + 3 ≤ fuel := by
        simp [keyed, compactMembers, quoted] at hfuel
        omega
      obtain ⟨fuel, rfl⟩ := Nat.exists_eq_add_of_le' (show 1 ≤ fuel by omega)
      have hcompact : compactMembers (keyed [(k, v)]) ++ '}' :: rest =
          quoted k ++ ':' :: (v.compact ++ '}' :: rest) := by
        simp [keyed, compactMembers]
      rw [hcompact, members?_quoted, hv fuel ('}' :: rest) (by simp [Follows]) (by omega)]
      rfl
    | cons m members =>
      have hlength : v.compact.length + 3 ≤ fuel ∧
          (compactMembers (keyed (m :: members))).length + 1 ≤ fuel := by
        simp [keyed, compactMembers, quoted] at hfuel ⊢
        omega
      obtain ⟨fuel, rfl⟩ := Nat.exists_eq_add_of_le' (show 1 ≤ fuel by omega)
      have hcompact : compactMembers (keyed ((k, v) :: m :: members)) ++ '}' :: rest =
          quoted k ++ ':' :: (v.compact ++
            ',' :: (compactMembers (keyed (m :: members)) ++ '}' :: rest)) := by
        simp [keyed, compactMembers]
      have hmembers := ih (by simp) hrest fuel (by omega)
      rw [hcompact, members?_quoted, hv fuel (',' :: _) (by simp [Follows]) (by omega)]
      simp only [skipSpace_cons (c := ',') rfl, Option.bind_eq_bind, Option.bind_some, hmembers]
      rfl

theorem reads_record {members : List (String × Value)} (h : ∀ m ∈ members, Reads m.2) :
    Reads (.record members) := by
  intro fuel rest _ hfuel
  change (compact (.object (keyed members))).length ≤ fuel at hfuel
  rw [compact, List.length_cons, List.length_append] at hfuel
  obtain ⟨fuel, rfl⟩ := Nat.exists_eq_add_of_le' (show 1 ≤ fuel by omega)
  have hcompact : (Value.record members).compact ++ rest =
      '{' :: (compactMembers (keyed members) ++ '}' :: rest) := by
    change compact (.object (keyed members)) ++ rest = _
    simp [compact]
  rw [hcompact]
  cases members with
  | nil => rfl
  | cons m members =>
    have hmembers := members?_keyed (List.cons_ne_nil m members) h fuel rest (by omega)
    have hopen : ∃ cs, compactMembers (keyed (m :: members)) = '"' :: cs := by
      cases members <;> exact ⟨_, rfl⟩
    obtain ⟨cs, hcs⟩ := hopen
    rw [hcs] at hmembers ⊢
    have hvalue : value? (fuel + 1) ('{' :: ('"' :: cs ++ '}' :: rest)) =
        (members? fuel ('"' :: cs ++ '}' :: rest)).map fun x => (.object x.1, x.2) := rfl
    rw [hvalue, hmembers]
    rfl

theorem read?_compactText {v : Value} (h : Reads v) : read? v.compactText = some v := by
  have hvalue := h (2 * v.compact.length + 2) [] (by simp [Follows]) (by omega)
  have htext : v.compactText.toList = v.compact := String.toList_ofList
  rw [List.append_nil, ← htext] at hvalue
  rw [read?, hvalue]
  rfl

end LiquidityGraph.Json
