import LiquidityGraph.Edge.Snapshot
import LiquidityGraph.Proofs.Except
import LiquidityGraph.Proofs.Json.ReadBack
import LiquidityGraph.Store.EdgeRecord
import Mathlib.Tactic.SplitIfs

/-!
The stored form of an edge is read back as it was written, and the edge rebuilt from it differs
only in that it has no observed rate.
-/
namespace LiquidityGraph

open Json (Reads)

namespace Snapshot

/-- The numbers of a snapshot are machine words. -/
def Sized : Snapshot → Prop
  | .constantProduct e => e.reserve0 < Word.size 256 ∧ e.reserve1 < Word.size 256
  | .concentrated s => s.price < Word.size 256 ∧ s.liquidity < Word.size 128 ∧
      (-(Word.size 31 : Int) ≤ s.tick ∧ s.tick < Word.size 31) ∧ s.fee < Word.size 32
  | .bridge _ => True

instance : DecidablePred Sized
  | .constantProduct _ => inferInstanceAs (Decidable (_ ∧ _))
  | .concentrated _ => inferInstanceAs (Decidable (_ ∧ _ ∧ (_ ∧ _) ∧ _))
  | .bridge _ => inferInstanceAs (Decidable True)

private theorem reads_toJson (s : Snapshot) : Reads s.toJson := by
  cases s with
  | constantProduct e =>
    refine Json.reads_record ?_
    refine List.forall_mem_cons.mpr ⟨?_, List.forall_mem_nil _⟩
    refine Json.reads_record ?_
    simp [token, word, Json.reads_str, Json.reads_bool]
  | concentrated e =>
    refine Json.reads_record ?_
    refine List.forall_mem_cons.mpr ⟨?_, List.forall_mem_nil _⟩
    refine Json.reads_record ?_
    simp [token, word, Json.reads_str, Json.reads_bool, Json.Value.int, Json.Value.nat,
      Json.reads_number]
  | bridge e =>
    refine Json.reads_record ?_
    refine List.forall_mem_cons.mpr ⟨?_, List.forall_mem_nil _⟩
    refine Json.reads_record ?_
    simp [token, Json.reads_str]

@[simp] theorem word?_word (n : Nat) :
    Record.word? (word n) = if n < Word.size 256 then some n else none :=
  Decimal.word?_ofNat 256 n

@[simp] theorem uint128?_word (n : Nat) :
    Record.uint128? (word n) = if n < Word.size 128 then some n else none :=
  Decimal.unsigned?_ofNat 128 n

private theorem integer?_int (i : Int) :
    Json.Value.integer? 32 (.int i) =
      if -(Word.size 31 : Int) ≤ i ∧ i < Word.size 31 then some i else none := by
  have hmagnitude : (Json.Value.int i).magnitude? = some i := by
    by_cases hi : i < 0
    · have hne : i.natAbs ≠ 0 := by omega
      simp only [Json.Value.int, hi, decide_true, Json.Value.magnitude?, hne, if_false]
      congr 1
      omega
    · simp only [Json.Value.int, hi, decide_false, Json.Value.magnitude?]
      congr 1
      omega
  simp only [Json.Value.integer?, hmagnitude]
  rfl

@[simp] theorem natural?_nat (n : Nat) :
    Format.natural? 32 (Json.Value.nat n) = if n < Word.size 32 then some n else none := by
  have hword : Format.natural? 32 (Json.Value.nat n) = (some (n : Int)).bind (Word.unsigned? 32) :=
    rfl
  rw [hword, Option.bind_some, Word.unsigned?]
  simp

private theorem constantProduct?_record (token0 token1 : TokenId) (reserve0 reserve1 : Json.Value)
    (zeroForOne : Bool) :
    constantProduct? (.record [("token0", token token0), ("token1", token token1),
        ("reserve0", reserve0), ("reserve1", reserve1), ("zeroForOne", .bool zeroForOne)]) = (do
      let reserve0 ← Record.word? reserve0
      let reserve1 ← Record.word? reserve1
      return ⟨token0, token1, reserve0, reserve1, zeroForOne⟩) := by
  simp [constantProduct?, Record.read?, Json.Value.record, Format.members?, Record.ofMembers?,
    Record.need, List.lookup_cons, token?, token, Format.text?, Json.Value.str, Json.Value.flag?]

private theorem concentrated?_record (token0 token1 : TokenId)
    (price liquidity tick fee : Json.Value)
    (zeroForOne : Bool) :
    concentrated? (.record [("token0", token token0), ("token1", token token1),
        ("sqrtRatioX96", price), ("liquidity", liquidity), ("tickCurrent", tick), ("fee", fee),
        ("zeroForOne", .bool zeroForOne)]) = (do
      let price ← Record.word? price
      let liquidity ← Record.uint128? liquidity
      let tick ← Json.Value.integer? 32 tick
      let fee ← Format.natural? 32 fee
      return ⟨token0, token1, price, liquidity, tick, fee, zeroForOne⟩) := by
  simp [concentrated?, Record.read?, Json.Value.record, Format.members?, Record.ofMembers?,
    Record.need, List.lookup_cons, token?, token, Format.text?, Json.Value.str, Json.Value.flag?]

@[simp] theorem ofJson?_toJson (s : Snapshot) :
    ofJson? s.toJson = if s.Sized then some s else none := by
  cases s with
  | constantProduct e =>
    change (constantProduct? _).map _ = _
    rw [constantProduct?_record, word?_word, word?_word]
    simp only [Sized]
    by_cases h0 : e.reserve0 < Word.size 256
    · by_cases h1 : e.reserve1 < Word.size 256
      · simp [h0, h1]
      · simp [h0, h1]
    · simp [h0]
  | concentrated s =>
    change (concentrated? _).map _ = _
    rw [concentrated?_record, word?_word, uint128?_word, integer?_int, natural?_nat]
    simp only [Sized]
    by_cases hprice : s.price < Word.size 256
    · by_cases hliquidity : s.liquidity < Word.size 128
      · by_cases htick : -(Word.size 31 : Int) ≤ s.tick ∧ s.tick < Word.size 31
        · by_cases hfee : s.fee < Word.size 32
          · simp [hprice, hliquidity, htick, hfee]
          · simp [hprice, hliquidity, htick, hfee]
        · simp [hprice, hliquidity, htick]
      · simp [hprice, hliquidity]
    · simp [hprice]
  | bridge e => rfl

@[simp] theorem parse?_render (s : Snapshot) :
    parse? s.render = if s.Sized then some s else none := by
  rw [parse?, render, Json.read?_compactText s.reads_toJson]
  exact ofJson?_toJson s

/-- The text of a snapshot gives it back and belongs to no other one, and the record of an edge
gives back what was taken of the edge. -/
theorem text_faithful {s : Snapshot} (h : s.Sized) :
    parse? s.render = some s ∧ (∀ s', s'.render = s.render → s' = s) ∧
      ∀ key edge, edge.snapshot = s → (EdgeRecord.ofEdge key edge).snapshot? = some s := by
  have hread : parse? s.render = some s := by
    rw [parse?_render, if_pos h]
  refine ⟨hread, fun s' htext => ?_, fun key edge hedge => ?_⟩
  · rw [← htext, parse?_render] at hread
    split_ifs at hread
    exact Option.some.inj hread
  · have hdata : (EdgeRecord.ofEdge key edge).snapshot? = parse? edge.snapshot.render := rfl
    rw [hdata, hedge, hread]

/-- An edge at the ends of its words, between tokens whose names have to be escaped. -/
def remote : Concentrated where
  token0 := ⟨"\"\\\x01\n"⟩
  token1 := ⟨"é/😀"⟩
  fee := Word.size 32 - 1
  price := Word.size 256 - 1
  liquidity := Word.size 128 - 1
  tick := -Word.size 31
  ticks := ⟨1, []⟩
  zeroForOne := false
  rate := none

theorem text_faithful_remote :
    let key : EdgeKey := ⟨remote.token1, remote.token0, ⟨"pool"⟩, ⟨"chain"⟩⟩
    let s : Snapshot := .concentrated remote.state
    s.Sized ∧ parse? s.render = some s ∧
      (EdgeRecord.ofEdge key (.concentrated remote)).snapshot? = some s := by
  intro key s
  have hsized : s.Sized := by decide
  obtain ⟨hread, -, hrecord⟩ := text_faithful hsized
  exact ⟨hsized, hread, hrecord key (.concentrated remote) rfl⟩

end Snapshot

namespace Edge

def fresh : Edge → Edge
  | .concentrated e => .concentrated { e with rate := none }
  | edge => edge

@[simp] theorem quote_fresh (edge : Edge) (amount : Nat) :
    edge.fresh.quote amount = edge.quote amount := by
  cases edge <;> rfl

theorem ofSnapshot_snapshot {edge : Edge} {ticks : Option TickList}
    (h : ∀ e, edge = .concentrated e →
      (Price.minTick ≤ e.tick ∧ e.tick ≤ Price.maxTick) ∧ ticks = some e.ticks) :
    ofSnapshot edge.snapshot ticks = .ok edge.fresh := by
  cases edge with
  | constantProduct e => rfl
  | concentrated e =>
    obtain ⟨htick, rfl⟩ := h e rfl
    have hrange : Concentrated.tickInRange e.tick = .ok e.tick := if_pos htick
    change (do return Edge.concentrated (← Concentrated.ofState e.state e.ticks)) = _
    have hstate : Concentrated.ofState e.state e.ticks = .ok { e with rate := none } := by
      simp only [Concentrated.ofState, Concentrated.state, hrange]
    rw [hstate]
    rfl
  | bridge e => rfl

/-- A rebuilt edge is the edge itself, but for the ticks and the rate of a concentrated one. -/
theorem ofSnapshot_eq_ok {e e₁ : Edge} {ticks : Option TickList}
    (h : ofSnapshot e.snapshot ticks = .ok e₁) :
    e₁ = e ∧ (∀ c, e ≠ .concentrated c) ∨
      ∃ c l, e = .concentrated c ∧ ticksFor c.state ticks = .ok l ∧
        e₁ = .concentrated { c with ticks := l, rate := none } := by
  cases e with
  | constantProduct e =>
    cases h
    exact .inl ⟨rfl, fun c => by simp⟩
  | bridge e =>
    cases h
    exact .inl ⟨rfl, fun c => by simp⟩
  | concentrated c =>
    obtain ⟨l, hl, h⟩ := bind_eq_ok.mp h
    obtain ⟨c₁, hc, h⟩ := bind_eq_ok.mp h
    cases h
    refine .inr ⟨c, l, rfl, hl, ?_⟩
    simp only [Concentrated.ofState, Concentrated.tickInRange] at hc
    split_ifs at hc with htick
    cases hc
    rfl

theorem ticksFor_congr {s s' : ConcentratedState} (hfee : s.fee = s'.fee)
    (hliquidity : s.liquidity = s'.liquidity) (ticks : Option TickList) :
    ticksFor s ticks = ticksFor s' ticks := by
  cases ticks with
  | some l => rfl
  | none => simp only [ticksFor, hfee, hliquidity]

end Edge

end LiquidityGraph
