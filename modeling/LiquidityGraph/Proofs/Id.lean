import LiquidityGraph.Proofs.Address
import Mathlib.Data.List.DropRight

/-!
Configured names of tokens. Any text that writes an address names the token of that address, any
other text is its own name without the white space around it, and a name is named by itself.
-/
namespace LiquidityGraph

namespace Text

@[simp] theorem trimStart_trimEnd (cs : List Char) :
    trimStart (trimEnd (trimStart cs)) = trimEnd (trimStart cs) := by
  have hkept : trimEnd (trimStart cs) <+: trimStart cs := List.rdropWhile_prefix isBlank _
  refine List.dropWhile_eq_self_iff.mpr fun hlength => ?_
  rw [hkept.getElem hlength]
  exact List.dropWhile_get_zero_not isBlank cs _

@[simp] theorem trimEnd_trimEnd (cs : List Char) : trimEnd (trimEnd cs) = trimEnd cs :=
  List.rdropWhile_idempotent isBlank cs

@[simp] theorem toList_trim (s : String) : (trim s).toList = trimEnd (trimStart s.toList) :=
  String.toList_ofList

@[simp] theorem trim_trim (s : String) : trim (trim s) = trim s := by
  rw [trim, toList_trim, trimStart_trimEnd, trimEnd_trimEnd, trim]

end Text

namespace Address

@[simp] theorem read?_trim (s : String) : read? (Text.trim s) = read? s := by
  rw [read?, read, Text.toList_trim, Text.trimStart_trimEnd, Text.trimEnd_trimEnd]
  rfl

/-- Gaps count for nothing, and of all else there are as many digits as were wanted. -/
theorem scan_eq_ok_iff {acc position left n : Nat} {cs : List Char} :
    scan acc position left cs = .ok n ↔
      (cs.filter (!isGap ·)).length = left ∧
      (∀ c ∈ cs.filter (!isGap ·), (Hex.digit? c).isSome) ∧
      (cs.filter (!isGap ·)).foldl (fun n c => 16 * n + (Hex.digit? c).getD 0) acc = n := by
  fun_induction scan acc position left cs with
  | case1 acc position cs hgaps =>
    have hnone : cs.filter (!isGap ·) = [] := by simpa using hgaps
    simp [hnone]
  | case2 acc position cs hrest =>
    have hsome : cs.filter (!isGap ·) ≠ [] := by simpa using hrest
    simp [hsome]
  | case3 acc position left => simp
  | case4 acc position left c cs hgap ih => simpa [hgap] using ih
  | case5 acc position left c cs hgap d hd ih => simp [hgap, hd, ih]
  | case6 acc position left c cs hgap hd => simp [hgap, hd]

/-- How a text writes an address: within white space and behind an optional `0x`, in forty digits of
any case, with gaps anywhere between them. -/
def Writes (s : String) (a : Address) : Prop :=
  let ds := (stripMark (Text.trimEnd (Text.trimStart s.toList))).filter (!isGap ·)
  ds.length = 40 ∧ (∀ c ∈ ds, (Hex.digit? c).isSome) ∧ Hex.value ds = a.toNat

theorem read?_eq_some_iff {s : String} {a : Address} : read? s = some a ↔ Writes s a := by
  unfold Writes read? read readDigits
  dsimp only
  generalize stripMark (Text.trimEnd (Text.trimStart s.toList)) = cs
  constructor
  · intro h
    cases hscan : scan 0 0 40 cs with
    | error e =>
      rw [hscan] at h
      cases h
    | ok n =>
      rw [hscan] at h
      obtain ⟨hlength, hdigits, hvalue⟩ := scan_eq_ok_iff.mp hscan
      have hlt := (Hex.fixed_value hdigits).1
      have hsize : Word.size 160 = 16 ^ 40 := by decide +kernel
      rw [hlength, ← hsize] at hlt
      obtain rfl := Option.some.inj h
      rw [toNat_ofWord, ← hvalue]
      exact ⟨hlength, hdigits, (Nat.mod_eq_of_lt hlt).symm⟩
  · rintro ⟨hlength, hdigits, hvalue⟩
    have hscan : scan 0 0 40 cs = .ok a.toNat := scan_eq_ok_iff.mpr ⟨hlength, hdigits, hvalue⟩
    rw [hscan]
    exact congrArg some a.ofWord_toNat

end Address

namespace TokenId

theorem ofConfig_of_read? {raw : String} {a : Address} (h : Address.read? raw = some a) :
    ofConfig raw = ofAddress a := by
  rw [ofConfig, h]

theorem ofConfig_of_none {raw : String} (h : Address.read? raw = none) :
    ofConfig raw = ⟨Text.trim raw⟩ := by
  rw [ofConfig, h]

@[simp] theorem address?_ofAddress (a : Address) : (ofAddress a).address? = some a :=
  Address.read?_checksum a

@[simp] theorem address?_ofConfig (raw : String) : (ofConfig raw).address? = Address.read? raw := by
  cases h : Address.read? raw with
  | none => simp [ofConfig_of_none h, address?, h]
  | some a => simp [ofConfig_of_read? h]

@[simp] theorem ofConfig_text (raw : String) : ofConfig (ofConfig raw).text = ofConfig raw := by
  have hread : Address.read? (ofConfig raw).text = Address.read? raw := address?_ofConfig raw
  cases h : Address.read? raw with
  | none =>
    rw [ofConfig_of_none (hread.trans h), ofConfig_of_none h, Text.trim_trim]
  | some a => rw [ofConfig_of_read? (hread.trans h), ofConfig_of_read? h]

/-- No label is taken for an address: the text of an address id is itself an address. -/
theorem ofConfig_eq_ofAddress_iff {raw : String} {a : Address} :
    ofConfig raw = ofAddress a ↔ Address.Writes raw a := by
  rw [← Address.read?_eq_some_iff]
  constructor
  · intro h
    simpa using congrArg address? h
  · exact ofConfig_of_read?

/-- Naming a token from configuration gives a normal form. It keeps the address that the text has or
lacks, no spelling of an address matters, and the address is read back from the names of tokens and
pools made from it; so an address has one name, however it came to be known. -/
theorem ofConfig_normal :
    (∀ raw, ofConfig (ofConfig raw).text = ofConfig raw) ∧
    (∀ raw, (ofConfig raw).address? = Address.read? raw) ∧
    (∀ raw raw' a, Address.read? raw = some a → Address.read? raw' = some a →
      ofConfig raw = ofConfig raw') ∧
    (∀ a, (ofAddress a).address? = some a ∧ (PoolId.ofAddress a).address? = some a) ∧
    ∀ raw a, ofConfig raw = ofAddress a ↔ Address.Writes raw a := by
  refine ⟨ofConfig_text, address?_ofConfig, fun raw raw' a h h' => ?_, fun a => ?_,
    fun raw a => ofConfig_eq_ofAddress_iff⟩
  · rw [ofConfig_of_read? h, ofConfig_of_read? h']
  · exact ⟨address?_ofAddress a, Address.read?_checksum a⟩

/-- An address in capitals and without a mark, with gaps between its digits and white space around
it, beside the same one in lower case. -/
theorem ofConfig_normal_spelled :
    let a : Address := ⟨0xb97ef9ef8734c71904d8002f8b6bc66dd9c48a6e, by decide +kernel⟩
    let raw := "\u00a0B97EF9EF 8734C719 04D8002F\t8B6BC66D D9C48A6E\n"
    let raw' := "0xb97ef9ef8734c71904d8002f8b6bc66dd9c48a6e"
    Address.read? raw = some a ∧ Address.read? raw' = some a ∧ ofConfig raw = ofConfig raw' ∧
      ofConfig raw = ofAddress a ∧ Address.Writes raw a := by
  intro a raw raw'
  have hraw : Address.read? raw = some a := by decide +kernel
  have hraw' : Address.read? raw' = some a := by decide +kernel
  obtain ⟨-, -, hspelling, -, hwritten⟩ := ofConfig_normal
  have hwrites : Address.Writes raw a := Address.read?_eq_some_iff.mp hraw
  exact ⟨hraw, hraw', hspelling raw raw' a hraw hraw', (hwritten raw a).mpr hwrites, hwrites⟩

end TokenId

end LiquidityGraph
