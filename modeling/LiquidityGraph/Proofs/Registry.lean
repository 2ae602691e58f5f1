import LiquidityGraph.Proofs.Address
import LiquidityGraph.Proofs.Route.ReadBack
import LiquidityGraph.Registry
import Mathlib.Data.List.Find

/-!
Configured tokens under the names that a graph knows them by. A token is named by its checksummed
address or its trimmed label, and a chain in lower case; both are found again in any case of their
letters, so that a hop into a configured token carries its bridge contracts.
-/
namespace LiquidityGraph

namespace Text

variable {a b : String}

theorem sameIgnoringCase_iff :
    sameIgnoringCase a b ↔ a.toList.map Char.toLower = b.toList.map Char.toLower := by
  simp [sameIgnoringCase]

theorem sameIgnoringCase_refl (a : String) : sameIgnoringCase a a :=
  sameIgnoringCase_iff.mpr rfl

theorem sameIgnoringCase_congr (h : sameIgnoringCase a b) (c : String) :
    sameIgnoringCase a c = sameIgnoringCase b c := by
  rw [sameIgnoringCase, sameIgnoringCase_iff.mp h]
  rfl

@[simp] theorem upcaseChar_toLower (c : Char) : upcaseChar c.toLower = upcaseChar c := by
  by_cases hc : 'A'.val ≤ c.val ∧ c.val ≤ 'Z'.val
  · have hletters : ∀ i < 26, upcaseChar (Char.ofNat (65 + i)).toLower =
        upcaseChar (Char.ofNat (65 + i)) := by
      decide +kernel
    have hlow : 65 ≤ c.toNat := hc.1
    have hhigh : c.toNat ≤ 90 := hc.2
    have hletter := hletters (c.toNat - 65) (by omega)
    rwa [Nat.add_sub_cancel' hlow, Char.ofNat_toNat] at hletter
  · have hsame : c.toLower = c := dif_neg hc
    rw [hsame]

@[simp] theorem upcase_lowerAscii (s : String) : upcase (lowerAscii s) = upcase s := by
  simp only [upcase, lowerAscii, String.toList_ofList, List.flatMap_map, upcaseChar_toLower]

end Text

namespace TokenId

/-- Text that names a token as it stands, but for the case of its letters: an address without gaps,
or a label without white space at its ends. -/
inductive Plain : String → Prop
  | address (digits : List Char) : digits.length = 40 → (∀ c ∈ digits, (Hex.digit? c).isSome) →
      Plain (String.ofList ('0' :: 'x' :: digits))
  | label (text : String) : Address.read? text = none → Text.trim text = text → Plain text

theorem Plain.sameIgnoringCase {raw : String} (h : Plain raw) :
    Text.sameIgnoringCase raw (ofConfig raw).text := by
  rw [Text.sameIgnoringCase_iff]
  cases h with
  | address digits hlength hdigits =>
    have hname : (ofConfig (String.ofList ('0' :: 'x' :: digits))).text =
        (Address.ofWord (Hex.value digits)).checksum := by
      rw [ofConfig, Address.read?_marked hlength hdigits]
      rfl
    obtain ⟨hlt, hfixed⟩ := Hex.fixed_value hdigits
    have hsize : Word.size 160 = 16 ^ 40 := by decide +kernel
    have hword : (Address.ofWord (Hex.value digits)).toNat = Hex.value digits := by
      rw [hlength, ← hsize] at hlt
      exact Nat.mod_eq_of_lt hlt
    rw [hname, Address.checksum, String.toList_ofList, String.toList_ofList, List.map_cons,
      List.map_cons, List.map_cons, List.map_cons, Address.map_toLower_checksumDigits,
      Address.digits, hword, ← hlength, hfixed]
  | label _ hlabel htrim =>
    rw [ofConfig, hlabel]
    simp only [htrim]

end TokenId

def TokenInfo.id (t : TokenInfo) : TokenId := TokenId.ofConfig t.address

/-- The text of a configured token, or its name, is the given name in whatever case. -/
def TokenInfo.Spells (t : TokenInfo) (id : TokenId) : Prop :=
  Text.sameIgnoringCase t.address id.text ∨ Text.sameIgnoringCase t.id.text id.text

instance (t : TokenInfo) (id : TokenId) : Decidable (t.Spells id) :=
  inferInstanceAs (Decidable (_ ∨ _))

/-- A plain text and the name that it gives are spelled alike. -/
theorem TokenInfo.spells_iff {t : TokenInfo} (h : TokenId.Plain t.address) (id : TokenId) :
    (t.Spells id ↔ Text.sameIgnoringCase t.address id.text) ∧
      (t.Spells id ↔ Text.sameIgnoringCase t.id.text id.text) := by
  have halike : Text.sameIgnoringCase t.address id.text = Text.sameIgnoringCase t.id.text id.text :=
    Text.sameIgnoringCase_congr h.sameIgnoringCase id.text
  unfold Spells
  rw [halike, or_self]
  exact ⟨Iff.rfl, Iff.rfl⟩

namespace Registry

theorem entries_normalized (r : Registry) {chain : String} (h : Text.trim chain = chain) :
    r.entries (ChainId.normalized chain).text = r.entries chain := by
  simp only [entries, ChainId.normalized, h, Text.upcase_lowerAscii]

theorem mapping_of_lookup {r : Registry} {id : TokenId} {chain : ChainId} {e : TokenInfo}
    (h : r.lookup id.text chain.text = some e) : r.mapping id chain = ⟨e.home, e.remote⟩ := by
  rw [mapping, h]

private theorem find?_of_imp {α : Type} {p q : α → Bool} {as : List α} {a : α}
    (hsub : ∀ b, q b → p b)
    (h : as.find? p = some a) (ha : q a) : as.find? q = some a := by
  obtain ⟨-, before, after, hsplit, hbefore⟩ := List.find?_eq_some_iff_append.mp h
  refine List.find?_eq_some_iff_append.mpr ⟨ha, before, after, hsplit, fun b hb => ?_⟩
  have hp : ¬ p b := by simpa using hbefore b hb
  simpa using mt (hsub b) hp

/-- The first token spelled like a name, if it is written plainly, is also the first one to be found
by its text and the first one to be found by its name. -/
theorem find?_of_spells {tokens : List TokenInfo} {id : TokenId} {e : TokenInfo}
    (h : tokens.find? (·.Spells id) = some e) (hplain : TokenId.Plain e.address) :
    tokens.find? (fun t => Text.sameIgnoringCase t.address id.text) = some e ∧
      tokens.find? (fun t => Text.sameIgnoringCase t.id.text id.text) = some e := by
  have hspells : e.Spells id := by simpa using List.find?_some h
  obtain ⟨haddress, hname⟩ := TokenInfo.spells_iff hplain id
  constructor
  · exact find?_of_imp (fun t ht => decide_eq_true (.inl ht)) h (haddress.mp hspells)
  · exact find?_of_imp (fun t ht => decide_eq_true (.inr ht)) h (hname.mp hspells)

/-- A token of a chain has the bridge contracts of the first token there with its name in whatever
case, if the first one that is spelled like it is written plainly. That token is the first one with
the very name, unless its name is in another case. -/
theorem mapping_first (r : Registry) {chain : String} (hchain : Text.trim chain = chain)
    {id : TokenId} (hid : id ∈ r.tokens chain)
    (hplain : ∀ t, (r.entries chain).find? (·.Spells id) = some t → TokenId.Plain t.address) :
    ∃ e, (r.entries chain).find? (fun t => Text.sameIgnoringCase t.id.text id.text) = some e ∧
      (e.id = id → (r.entries chain).find? (fun t => t.id = id) = some e) ∧
      r.mapping id (.normalized chain) = ⟨e.home, e.remote⟩ ∧
      ∀ g source dest amount, ∀ hop ∈ Search.Query.hops ⟨source, dest, amount, r.mapping⟩ g,
        hop.tokenOut = id → hop.chain = .normalized chain → hop.mapping = ⟨e.home, e.remote⟩ := by
  obtain ⟨entry, hentry, rfl⟩ : ∃ entry ∈ r.entries chain, entry.id = id := List.mem_map.mp hid
  have hfound : ((r.entries chain).find? (·.Spells entry.id)).isSome := by
    refine List.find?_isSome.mpr ⟨entry, hentry, decide_eq_true ?_⟩
    exact .inr (Text.sameIgnoringCase_refl entry.id.text)
  obtain ⟨e, hfirst⟩ := Option.isSome_iff_exists.mp hfound
  obtain ⟨haddress, he⟩ := find?_of_spells hfirst (hplain e hfirst)
  have hlookup : r.lookup entry.id.text (ChainId.normalized chain).text = some e := by
    rw [lookup, entries_normalized r hchain]
    exact haddress
  refine ⟨e, he, ?_, mapping_of_lookup hlookup, ?_⟩
  · intro hsame
    refine find?_of_imp (fun t ht => ?_) he (decide_eq_true hsame)
    rw [of_decide_eq_true ht]
    exact Text.sameIgnoringCase_refl entry.id.text
  · rintro g source dest amount hop hmem hout hon
    rw [Search.Query.mapping_of_mem_hops hmem, hout, hon]
    exact mapping_of_lookup hlookup

end Registry

/-- Labels in two cases. -/
def labelled : Registry :=
  (Registry.empty.insert "avalanche" ⟨"usdc", "", "", "h1", "r1"⟩).insert "avalanche"
    ⟨"USDC", "", "", "h2", "r2"⟩

/-- A label has the bridge contracts of another one, which differs from it in case. -/
theorem mapping_other_case :
    let id := TokenId.ofConfig "USDC"
    id ∈ labelled.tokens "avalanche" ∧ ∃ e,
      (labelled.entries "avalanche").find? (fun t => t.id = id) = some e ∧
        labelled.mapping id (.normalized "avalanche") ≠ ⟨e.home, e.remote⟩ := by
  refine ⟨by decide +kernel, ⟨"USDC", "", "", "h2", "r2"⟩, ?_, ?_⟩
  · decide +kernel
  · decide +kernel

def plainEntry : TokenInfo := ⟨"0xb97ef9ef8734c71904d8002f8b6bc66dd9c48a6e", "", "", "h1", "r1"⟩

/-- An address written plainly, and once more behind a blank and without its mark. -/
def spellings : List TokenInfo :=
  [plainEntry, ⟨" B97EF9EF8734C71904D8002F8B6BC66DD9C48A6E", "", "", "h2", "r2"⟩]

def spelled : Registry := spellings.foldl (·.insert "Avalanche" ·) .empty

theorem mapping_first_spelled :
    let id := TokenId.ofConfig "0xb97ef9ef8734c71904d8002f8b6bc66dd9c48a6e"
    Text.trim "Avalanche" = "Avalanche" ∧ id ∈ spelled.tokens "Avalanche" ∧
      (∀ t, (spelled.entries "Avalanche").find? (·.Spells id) = some t →
        TokenId.Plain t.address) ∧
      spelled.mapping id (.normalized "Avalanche") = ⟨"h1", "r1"⟩ := by
  intro id
  have hentries : spelled.entries "Avalanche" = spellings := by decide +kernel
  have htrim : Text.trim "Avalanche" = "Avalanche" := by decide +kernel
  have hid : id ∈ spelled.tokens "Avalanche" := by
    rw [Registry.tokens, hentries]
    exact List.mem_cons_self
  have hself : Text.sameIgnoringCase id.text id.text := Text.sameIgnoringCase_refl id.text
  have hfirst : spellings.find? (·.Spells id) = some plainEntry :=
    List.find?_cons_of_pos (decide_eq_true (.inr hself))
  have hplain : ∀ t, (spelled.entries "Avalanche").find? (·.Spells id) = some t →
      TokenId.Plain t.address := by
    intro t ht
    rw [hentries, hfirst] at ht
    cases ht
    have hdigits : "b97ef9ef8734c71904d8002f8b6bc66dd9c48a6e".toList.length = 40 ∧
        "b97ef9ef8734c71904d8002f8b6bc66dd9c48a6e".toList.all fun c => (Hex.digit? c).isSome := by
      decide +kernel
    exact .address _ hdigits.1 (List.all_eq_true.mp hdigits.2)
  obtain ⟨e, he, -, hmapping, -⟩ := spelled.mapping_first htrim hid hplain
  have hnamed : spellings.find? (fun t => Text.sameIgnoringCase t.id.text id.text) =
      some plainEntry := List.find?_cons_of_pos hself
  rw [hentries, hnamed] at he
  cases he
  exact ⟨htrim, hid, hplain, hmapping⟩

end LiquidityGraph
