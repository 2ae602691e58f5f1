import LiquidityGraph.Proofs.Edge.ConstantProduct
import LiquidityGraph.Proofs.Edge.Quote
import LiquidityGraph.Proofs.Route.Shape
import Mathlib.Logic.Relation

/-!
Routes where no closed walk gains. There the tokens that labels come from lead back to the source,
so that a route is simple, and it pays at least what its hops report.
-/
namespace LiquidityGraph

/-- No stored edge pays less for more. -/
def Graph.Monotone (g : Graph) : Prop :=
  ∀ {key edge}, g.edge? key = some edge → ∀ {a b}, a ≤ b → b < Word.size 256 →
    edge.quote a ≤ edge.quote b

/-- No walk back to its start pays more than was put in. -/
def Graph.Gainless (g : Graph) : Prop :=
  ∀ {t a b}, a < Word.size 256 → g.Walk t a t b → b ≤ a

theorem Graph.Walk.word {g : Graph} {s t : TokenId} {a b : Nat} (h : g.Walk s a t b)
    (ha : a < Word.size 256) : b < Word.size 256 := by
  induction h with
  | stay => exact ha
  | step _ _ ih => exact Edge.quote_lt _ ih

/-- Hops that pay no more than their edges quote for what is reported before them. -/
theorem Graph.feed_of_chain {g : Graph} (hmono : g.Monotone) {hops : List Hop} {a c : Nat}
    (hac : a ≤ c) (hc : c < Word.size 256)
    (hhead : ∀ h ∈ hops.head?, ∃ edge, g.edge? h.key = some edge ∧ h.amountOut ≤ edge.quote a)
    (hchain : hops.IsChain fun p h =>
      ∃ edge, g.edge? h.key = some edge ∧ h.amountOut ≤ edge.quote p.amountOut) :
    ∃ paid, g.feed c hops = some paid ∧
      List.Forall₂ (fun h out => h.amountOut ≤ out) hops paid := by
  induction hops generalizing a c with
  | nil => exact ⟨[], rfl, .nil⟩
  | cons h hs ih =>
    obtain ⟨edge, he, hle⟩ := hhead h rfl
    have hpaid : h.amountOut ≤ edge.quote c := hle.trans (hmono he hac hc)
    obtain ⟨hnext, hrest⟩ := List.isChain_cons.mp hchain
    obtain ⟨paid, hfeed, hall⟩ := ih hpaid (edge.quote_lt hc) hnext hrest
    refine ⟨edge.quote c :: paid, ?_, .cons hpaid hall⟩
    simp [Graph.feed, he, hfeed]

namespace Search

open Relation (ReflTransGen)

/-- The label of `u` was made from `t`. -/
def State.Leads (s : State) (t u : TokenId) : Prop := ∃ h, s.labels[u]? = some h ∧ h.tokenIn = t

/-- The labels form a tree below the source. -/
structure Query.Rooted (q : Query) (s : State) : Prop where
  source : s.labels[q.source]? = none
  rooted : ∀ {t h}, s.labels[t]? = some h → ReflTransGen s.Leads q.source t

variable {q : Query} {g : Graph} {s : State}

/-- From a token that another one's label goes back to, a walk pays at least that label. -/
theorem Query.Sound.walk_of_leads (hs : q.Sound g s) (hmono : g.Monotone)
    (hword : q.amount < Word.size 256) {t u : TokenId} (h : ReflTransGen s.Leads t u) {b : Nat}
    (hb : q.amountAt s u = some b) :
    ∃ a c, q.amountAt s t = some a ∧ g.Walk t a u c ∧ b ≤ c := by
  induction h generalizing b with
  | refl => exact ⟨b, b, hb, .stay, le_rfl⟩
  | @tail v u _ hvu ih =>
    obtain ⟨h, hl, rfl⟩ := hvu
    obtain ⟨hout, -, a', m, hp, b', hb', hab'⟩ := hs.priced hl
    obtain ⟨edge, he, hq⟩ := hp.stored
    obtain ⟨a, c, ha, hw, hle⟩ := ih hb'
    have hc : c < Word.size 256 := hw.word ((hs.carried ha).word hword)
    refine ⟨a, edge.quote c, ha, ?_, ?_⟩
    · rw [← hout]
      exact hw.step he
    · have hbh : b = h.amountOut := by simpa [Query.amountAt, hl, eq_comm] using hb
      rw [hbh, ← hq]
      exact hmono he (hab'.trans hle) hc

/-- A token does not get more from one whose label goes back to it: the walk there and back would
gain. -/
theorem Query.Sound.le_of_leads (hs : q.Sound g s) (hmono : g.Monotone) (hgain : g.Gainless)
    (hword : q.amount < Word.size 256) {visited : List PoolId} {token target : TokenId} {o : Offer}
    {amount b : Nat} (ho : Available g visited token amount target o)
    (hb : q.amountAt s token = some b) (hle : amount ≤ b)
    (h : ReflTransGen s.Leads target token) : ∃ a, q.amountAt s target = some a ∧ o.amount ≤ a := by
  obtain ⟨a, c, ha, hw, hbc⟩ := hs.walk_of_leads hmono hword h hb
  obtain ⟨edge, he, hq⟩ := ho.stored
  have haw : a < Word.size 256 := (hs.carried ha).word hword
  refine ⟨a, ha, ?_⟩
  calc
    o.amount = edge.quote amount := hq.symm
    _ ≤ edge.quote c := hmono he (hle.trans hbc) (hw.word haw)
    _ ≤ a := hgain haw (hw.step he)

theorem Query.Rooted.reaches (h : q.Rooted s) {t : TokenId} {a : Nat}
    (ha : q.amountAt s t = some a) : ReflTransGen s.Leads q.source t := by
  rcases Query.amountAt_eq_some.mp ha with ⟨hop, hl, -⟩ | ⟨-, rfl, -⟩
  · exact h.rooted hl
  · exact .refl

/-- A tree of labels stays one when a token is put below another that is not below it. -/
theorem Query.Rooted.insert (hroot : q.Rooted s) {token target : TokenId} {hop : Hop} {s' : State}
    (hl : s'.labels = s.labels.insert target hop) (hin : hop.tokenIn = token)
    (htoken : ReflTransGen s.Leads q.source token)
    (hbelow : ¬ ReflTransGen s.Leads target token) : q.Rooted s' := by
  have hget (t : TokenId) : s'.labels[t]? = if target = t then some hop else s.labels[t]? := by
    rw [hl, Std.ExtTreeMap.getElem?_insert]
    simp
  have hkeep {t u} (hne : target ≠ u) (hlead : s.Leads t u) : s'.Leads t u := by
    obtain ⟨h, hlabel, hin⟩ := hlead
    exact ⟨h, by rw [hget, if_neg hne, hlabel], hin⟩
  have hnew : s'.Leads token target := ⟨hop, by rw [hget, if_pos rfl], hin⟩
  -- what is not below the target keeps its way from the source
  have hapart {t} (ht : ReflTransGen s.Leads q.source t) (hnot : ¬ ReflTransGen s.Leads target t) :
      ReflTransGen s'.Leads q.source t := by
    induction ht with
    | refl => exact .refl
    | tail _ hlead ih =>
      have hne : target ≠ _ := fun he => hnot (he ▸ .refl)
      exact (ih fun hb => hnot (hb.tail hlead)).tail (hkeep hne hlead)
  have htarget : ReflTransGen s'.Leads q.source target := (hapart htoken hbelow).tail hnew
  have hall {t} (ht : ReflTransGen s.Leads q.source t) : ReflTransGen s'.Leads q.source t := by
    induction ht with
    | refl => exact .refl
    | @tail u t _ hlead ih =>
      by_cases he : target = t
      · exact he ▸ htarget
      · exact ih.tail (hkeep he hlead)
  refine ⟨?_, fun {t h} hlabel => ?_⟩
  · have hne : target ≠ q.source := fun he => hbelow (he ▸ htoken)
    rw [hget, if_neg hne, hroot.source]
  · rw [hget] at hlabel
    split_ifs at hlabel with he
    · exact he ▸ htarget
    · exact hall (hroot.rooted hlabel)

theorem Query.Reaches.rooted (hmono : g.Monotone) (hgain : g.Gainless)
    (hword : q.amount < Word.size 256) (h : q.Reaches g s) : q.Rooted s := by
  refine (h.induct (P := q.Rooted) ⟨?_, fun hl => ?_⟩ (fun hs => ⟨hs.source, hs.rooted⟩) ?_).2
  · simp [Query.start]
  · simp [Query.start] at hl
  · intro s token target o amount b hroot hs ho hb hle
    rcases q.labels_take token target s o with ⟨_, _, _, hl⟩ | ⟨hlt, hl⟩
    · have hleads : (q.take token target s o).Leads = s.Leads := by
        unfold State.Leads
        rw [hl]
      exact ⟨by rw [hl, hroot.source], fun ht => hleads ▸ hroot.rooted (hl ▸ ht)⟩
    · refine hroot.insert hl rfl (hroot.reaches hb) fun hbelow => ?_
      obtain ⟨a, ha, hoa⟩ := hs.le_of_leads hmono hgain hword ho hb hle hbelow
      exact absurd (hlt a ha) (Nat.not_lt.mpr hoa)

/-- The token in of a hop on a trail is the first one, or one that the trail leads to. -/
theorem Trail.tokenIn_mem {labels : Std.ExtTreeMap TokenId Hop} {source dest : TokenId}
    {path : List Hop} (h : Trail labels source dest path) {hop : Hop} (hmem : hop ∈ path) :
    hop.tokenIn = firstToken dest path ∨ hop.tokenIn ∈ path.map (·.tokenOut) := by
  obtain ⟨front, back, rfl⟩ := List.append_of_mem hmem
  rcases front.eq_nil_or_concat with rfl | ⟨front, p, rfl⟩
  · exact Or.inl rfl
  · have hlink : p.tokenOut = hop.tokenIn :=
      (List.isChain_append.mp h.linked).2.2 p (by simp) hop rfl
    exact Or.inr (List.mem_map.mpr ⟨p, by simp, hlink⟩)

/-- In a tree of labels, going back from a token never comes to it again. -/
theorem Trail.not_closed (hroot : q.Rooted s) {path : List Hop}
    (h : Trail s.labels q.source q.dest path) :
    firstToken q.dest path ∉ path.map (·.tokenOut) := by
  intro hclosed
  have hback {t u} (hlead : s.Leads t u) (hu : u ∈ path.map (·.tokenOut)) :
      t ∈ path.map (·.tokenOut) := by
    obtain ⟨hop, hmem, rfl⟩ := List.mem_map.mp hu
    obtain ⟨hop', hl, rfl⟩ := hlead
    cases (h.label hop hmem).symm.trans hl
    rcases h.tokenIn_mem hmem with hfirst | hin
    · exact hfirst ▸ hclosed
    · exact hin
  obtain ⟨hop, hmem, hout⟩ := List.mem_map.mp hclosed
  have hway := hroot.rooted (hout ▸ h.label hop hmem)
  have hsource : q.source ∈ path.map (·.tokenOut) :=
    hway.head_induction_on hclosed fun hlead _ hc => hback hlead hc
  exact (List.nodup_cons.mp h.fresh).1 hsource

/-- Each hop of a trail reports no more than its edge quotes for what is reported before it. -/
theorem Trail.covered (hmono : g.Monotone) (hword : q.amount < Word.size 256)
    (hs : q.Sound g s) {path : List Hop} (h : Trail s.labels q.source q.dest path) {hop : Hop}
    (hmem : hop ∈ path) {b : Nat} (hb : q.amountAt s hop.tokenIn = some b) :
    ∃ edge, g.edge? hop.key = some edge ∧ hop.amountOut ≤ edge.quote b := by
  obtain ⟨-, -, a, m, hp, b', hb', hle⟩ := hs.priced (h.label hop hmem)
  obtain ⟨edge, he, hq⟩ := hp.stored
  cases hb.symm.trans hb'
  refine ⟨edge, he, ?_⟩
  rw [← hq]
  exact hmono he hle ((hs.carried hb).word hword)

/-- Where edges are monotone and no closed walk gains, a route is simple, and the amount put into
it yields at every hop at least what the hop reports. -/
theorem Query.hops_feed (hmono : g.Monotone) (hgain : g.Gainless)
    (hword : q.amount < Word.size 256) :
    q.hops g = [] ∨ SimpleRoute g q.source q.dest (q.hops g) ∧
      ∃ paid, g.feed q.amount (q.hops g) = some paid ∧
        List.Forall₂ (fun h out => h.amountOut ≤ out) (q.hops g) paid := by
  rcases eq_or_ne (q.hops g) [] with hnil | hne
  · exact Or.inl hnil
  have hs := (q.reaches_run g).sound
  have hroot := (q.reaches_run g).rooted hmono hgain hword
  obtain ⟨htrail, hfirst⟩ := Query.hops_trail hne
  have hstart : ∀ h ∈ (q.hops g).head?, h.tokenIn = q.source := by
    intro h hh
    rw [← hfirst.resolve_right (htrail.not_closed hroot), firstToken, hh]
    rfl
  refine Or.inr ⟨⟨q.linkedRoute_hops g, hstart⟩, Graph.feed_of_chain hmono le_rfl hword ?_ ?_⟩
  · intro h hh
    refine htrail.covered hmono hword hs (List.mem_of_mem_head? hh) ?_
    rw [hstart h hh]
    simp [Query.amountAt, hroot.source]
  · refine htrail.linked.imp_of_mem_imp fun p h hp hmem hlink => ?_
    refine htrail.covered hmono hword hs hmem ?_
    rw [← hlink]
    simp [Query.amountAt, htrail.label p hp]

end Search

/-- At these values of its tokens an edge does not overpay. -/
def Edge.Fair (valueIn valueOut : Nat) : Edge → Prop
  | .constantProduct e => 0 < e.reserveIn ∧ e.reserveOut < Word.size 112 ∧
      e.reserveOut * valueOut ≤ e.reserveIn * valueIn
  | .concentrated _ => False
  | .bridge _ => valueOut ≤ valueIn

instance {valueIn valueOut : Nat} : DecidablePred (Edge.Fair valueIn valueOut)
  | .constantProduct e => inferInstanceAs (Decidable (0 < e.reserveIn ∧
      e.reserveOut < Word.size 112 ∧ e.reserveOut * valueOut ≤ e.reserveIn * valueIn))
  | .concentrated _ => inferInstanceAs (Decidable False)
  | .bridge _ => inferInstanceAs (Decidable (valueOut ≤ valueIn))

theorem Edge.Fair.quote_mul_le {valueIn valueOut : Nat} {edge : Edge}
    (h : edge.Fair valueIn valueOut) (amount : Nat) :
    edge.quote amount * valueOut ≤ amount * valueIn := by
  cases edge with
  | constantProduct e =>
    obtain ⟨hpos, -, hworth⟩ := h
    have hpaid : e.quote amount * e.reserveIn ≤ amount * e.reserveOut :=
      ConstantProduct.amountOut_mul_le ..
    refine Nat.le_of_mul_le_mul_right ?_ hpos
    calc
      e.quote amount * valueOut * e.reserveIn = e.quote amount * e.reserveIn * valueOut :=
        Nat.mul_right_comm ..
      _ ≤ amount * e.reserveOut * valueOut := Nat.mul_le_mul_right _ hpaid
      _ = amount * (e.reserveOut * valueOut) := Nat.mul_assoc ..
      _ ≤ amount * (e.reserveIn * valueIn) := Nat.mul_le_mul_left _ hworth
      _ = amount * valueIn * e.reserveIn := by ring
  | concentrated e => exact h.elim
  | bridge e => exact Nat.mul_le_mul_left _ h

theorem Edge.Fair.quote_mono {valueIn valueOut : Nat} {edge : Edge}
    (h : edge.Fair valueIn valueOut) {a b : Nat} (hab : a ≤ b) (hb : b < Word.size 256) :
    edge.quote a ≤ edge.quote b := by
  cases edge with
  | constantProduct e =>
    obtain ⟨-, hout, -⟩ := h
    have hfit : b * 997 * e.reserveOut < Word.size 512 :=
      ConstantProduct.numerator_fits (by decide) hb hout
    change ConstantProduct.amountOut a e.reserveIn e.reserveOut ≤
      ConstantProduct.amountOut b e.reserveIn e.reserveOut
    exact ConstantProduct.amountOut_mono hab hfit (hout.trans (Word.size_lt (by decide)))
  | concentrated e => exact h.elim
  | bridge e => exact hab

/-- If tokens have values at which no edge overpays, edges are monotone and no closed walk
gains. -/
theorem Graph.gainless_of_fair {g : Graph} (value : TokenId → Nat) (hpos : ∀ t, 0 < value t)
    (hfair : ∀ entry ∈ g.edgeList, entry.2.Fair (value entry.1.source) (value entry.1.target)) :
    g.Monotone ∧ g.Gainless := by
  have hedge {key edge} (he : g.edge? key = some edge) :=
    hfair (key, edge) (Graph.mem_edgeList.mpr he)
  refine ⟨fun he _ _ hab hb => (hedge he).quote_mono hab hb, ?_⟩
  intro t a b _ hw
  have hvalue {u c} (h : g.Walk t a u c) : c * value u ≤ a * value t := by
    induction h with
    | stay => exact le_rfl
    | step _ he ih => exact ((hedge he).quote_mul_le _).trans ih
  exact Nat.le_of_mul_le_mul_right (hvalue hw) (hpos t)

/-- Pools between `A`, which is worth two of the others, and `B` and `C`, which a bridge joins one
for one. -/
def balanced : Graph :=
  let pool (id a b : String) : Pool := ⟨⟨a⟩, ⟨b⟩, ⟨id⟩, "factory", ⟨"avalanche"⟩⟩
  let bridge (id a b : String) (g : Graph) : Graph :=
    g.setEdge ⟨⟨a⟩, ⟨b⟩, ⟨id⟩, ⟨"coqnet"⟩⟩ (.bridge ⟨⟨a⟩, ⟨b⟩⟩)
  bridge "P3" "B" "C" <| bridge "P4" "C" "B" <|
    (Findings.ofList [.constantProduct (pool "P1" "A" "B") 1000000 2000000,
      .constantProduct (pool "P2" "A" "C") 3000 6000]).install (.empty 0)

private theorem balanced_monotone_gainless : balanced.Monotone ∧ balanced.Gainless :=
  Graph.gainless_of_fair (fun t => if t.text = "A" then 2 else 1) (fun t => by split <;> decide)
    (by decide +kernel)

/-- From `A` to `C` the deep pool to `B` and the bridge pay more than the shallow direct pool. -/
theorem hops_feed_balanced :
    let q : Search.Query := ⟨⟨"A"⟩, ⟨"C"⟩, 1000, fun _ _ => .none⟩
    balanced.Monotone ∧ balanced.Gainless ∧ q.amount < Word.size 256 ∧
      (q.hops balanced).map (·.amountOut) = [1992, 1992] ∧
      (q.hops balanced = [] ∨ Search.SimpleRoute balanced q.source q.dest (q.hops balanced) ∧
        ∃ paid, balanced.feed q.amount (q.hops balanced) = some paid ∧
          List.Forall₂ (fun h out => h.amountOut ≤ out) (q.hops balanced) paid) :=
  ⟨balanced_monotone_gainless.1, balanced_monotone_gainless.2, by decide +kernel,
    by decide +kernel, Search.Query.hops_feed balanced_monotone_gainless.1
      balanced_monotone_gainless.2 (by decide +kernel)⟩

end LiquidityGraph
