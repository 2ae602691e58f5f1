import LiquidityGraph.Proofs.Route.Walk
import LiquidityGraph.Route.Search
import Mathlib.Order.Basic
import Mathlib.Order.Nat

/-!
What holds while a route is searched. Each label is the quote of a stored edge on an amount that
its token in had when it was taken up, and the amounts that tokens are labelled with only grow.
-/
namespace LiquidityGraph.Search

open Std (ExtTreeMap)

/-- An offer of a stored edge from one token to another, through a pool not used before. -/
structure Available (g : Graph) (visited : List PoolId) (token : TokenId) (amount : Nat)
    (target : TokenId) (o : Offer) : Prop where
  unvisited : o.pool ∉ visited
  stored : ∃ edge, g.edge? ⟨token, target, o.pool, o.chain⟩ = some edge ∧
    edge.quote amount = o.amount
  positive : o.amount ≠ 0

theorem mem_offers {visited : List PoolId} {amount : Nat} {pools : PoolEdges} {o : Offer} :
    o ∈ offers visited amount pools ↔ o.pool ∉ visited ∧ o.amount ≠ 0 ∧
      ∃ chains edge, pools[o.pool]? = some chains ∧ chains[o.chain]? = some edge ∧
        edge.quote amount = o.amount := by
  simp only [offers, List.mem_flatMap, Prod.exists, Std.ExtTreeMap.mem_toList_iff_getElem?_eq_some]
  constructor
  · rintro ⟨pool, chains, hp, ho⟩
    split at ho
    · cases ho
    · rename_i hv
      obtain ⟨⟨chain, edge⟩, he, ho⟩ := List.mem_filterMap.mp ho
      rw [Std.ExtTreeMap.mem_toList_iff_getElem?_eq_some] at he
      dsimp only at ho
      split_ifs at ho with hz
      cases ho
      exact ⟨by simpa using hv, hz, chains, edge, hp, he, rfl⟩
  · rintro ⟨hv, hz, chains, edge, hp, he, hq⟩
    refine ⟨o.pool, chains, hp, ?_⟩
    rw [if_neg (by simpa using hv), List.mem_filterMap]
    refine ⟨(o.chain, edge), Std.ExtTreeMap.mem_toList_iff_getElem?_eq_some.mpr he, ?_⟩
    dsimp only
    rw [hq, if_neg hz]

private theorem foldl_better (os : List Offer) (b : Option Offer) {o : Offer}
    (h : os.foldl better b = some o) : b = some o ∨ o ∈ os := by
  induction os generalizing b with
  | nil => exact Or.inl h
  | cons x os ih =>
    rcases ih _ h with hx | hx
    · cases b with
      | none => exact Or.inr (by simp_all [better])
      | some y =>
        simp only [better] at hx
        split_ifs at hx
        · exact Or.inr (by simp_all)
        · exact Or.inl hx
    · exact Or.inr (List.mem_cons_of_mem _ hx)

theorem mem_of_best {os : List Offer} {o : Offer} (h : best os = some o) : o ∈ os := by
  simpa using foldl_better os none h

variable {q : Query} {g : Graph}

theorem Query.amountAt_eq_some {s : State} {t : TokenId} {a : Nat} :
    q.amountAt s t = some a ↔ (∃ h, s.labels[t]? = some h ∧ h.amountOut = a) ∨
      s.labels[t]? = none ∧ t = q.source ∧ q.amount = a := by
  unfold Query.amountAt
  cases s.labels[t]? with
  | none => simp
  | some h => simp

/-- Taking an offer labels its target if this gives the target more, and else changes no label. -/
theorem Query.labels_take (token target : TokenId) (s : State) (o : Offer) :
    (∃ b, q.amountAt s target = some b ∧ o.amount ≤ b ∧
      (q.take token target s o).labels = s.labels) ∨
    ((∀ b, q.amountAt s target = some b → b < o.amount) ∧
      (q.take token target s o).labels = s.labels.insert target (q.hop token target o)) := by
  unfold Query.take
  cases hb : q.amountAt s target with
  | none => exact Or.inr ⟨by simp, by simp⟩
  | some b =>
    rcases Nat.lt_or_ge b o.amount with hlt | hge
    · exact Or.inr ⟨by simpa using hlt, by simp [hlt]⟩
    · exact Or.inl ⟨b, rfl, hge, by simp [Nat.not_lt.mpr hge]⟩

theorem Query.amountAt_congr {s s' : State} (h : s'.labels = s.labels) (t : TokenId) :
    q.amountAt s' t = q.amountAt s t := by
  unfold Query.amountAt
  rw [h]

theorem Query.amountAt_take {s : State} {t : TokenId} {a : Nat} (ha : q.amountAt s t = some a)
    (token target : TokenId) (o : Offer) :
    ∃ b, q.amountAt (q.take token target s o) t = some b ∧ a ≤ b := by
  rcases q.labels_take token target s o with ⟨_, _, _, hl⟩ | ⟨hlt, hl⟩
  · exact ⟨a, by rw [Query.amountAt_congr hl, ha], le_rfl⟩
  · by_cases ht : target = t
    · subst ht
      refine ⟨o.amount, ?_, (hlt a ha).le⟩
      simp [Query.amountAt, hl, Query.hop]
    · refine ⟨a, ?_, le_rfl⟩
      rw [← ha]
      simp [Query.amountAt, hl, Std.ExtTreeMap.getElem?_insert, ht]

/-- The states in which the search takes up the next token of its queue. -/
inductive Query.Reaches (q : Query) (g : Graph) : State → Prop
  | start : q.Reaches g q.start
  | expand {s : State} {token : TokenId} {queue : List TokenId} :
      q.Reaches g s → s.queue = token :: queue →
      q.Reaches g (q.expand g { s with queue } token)

theorem Query.reaches_drain (fuel : Nat) {s : State} (h : q.Reaches g s) :
    q.Reaches g (q.drain g fuel s) := by
  induction fuel generalizing s with
  | zero => exact h
  | succ fuel ih =>
    unfold Query.drain
    split
    · exact h
    · rename_i hq
      exact ih (h.expand hq)

theorem Query.reaches_run (q : Query) (g : Graph) : q.Reaches g (q.run g) :=
  Query.reaches_drain _ .start

/-- What holds of a state, and is kept if an offer for a target is taken, holds when the target has
been looked at. -/
theorem Query.relax_induct {P : State → Prop} {s : State} {token : TokenId} {amount : Nat}
    {entry : TokenId × PoolEdges} (h : P s) (hstored : g.poolsBetween token entry.1 = some entry.2)
    (htake : ∀ {o}, Available g s.visited token amount entry.1 o →
      P (q.take token entry.1 s o)) : P (q.relax token amount s entry) := by
  unfold Query.relax
  split
  · rename_i o ho
    obtain ⟨hv, hz, chains, edge, hp, he, hq⟩ := mem_offers.mp (mem_of_best ho)
    refine htake ⟨hv, ⟨edge, ?_, hq⟩, hz⟩
    simp [Graph.edge?, hstored, hp, he]
  · exact h

/-- What holds of a state, and is kept by each offer that is taken, holds when a token has been
expanded. -/
theorem Query.expand_induct {P : State → Prop} {s : State} {token : TokenId} (h : P s)
    (htake : ∀ {amount s' target o}, q.amountAt s token = some amount → P s' →
      Available g s'.visited token amount target o → P (q.take token target s' o)) :
    P (q.expand g s token) := by
  unfold Query.expand
  split
  · rename_i amount targets ha ht
    refine List.foldlRecOn targets.toList _ h fun s' hs' entry hmem => ?_
    exact Query.relax_induct hs' (Graph.poolsBetween_of_mem ht hmem) (htake ha hs')
  · exact h

/-- The hop was priced when its token in was taken up, with this amount. -/
structure Query.Priced (q : Query) (g : Graph) (h : Hop) (amount : Nat) (s : State) : Prop where
  reached : q.Reaches g s
  head : s.queue.head? = some h.tokenIn
  amountAt : q.amountAt s h.tokenIn = some amount
  stored : ∃ edge, g.edge? h.key = some edge ∧ edge.quote amount = h.amountOut

/-- What holds of the labels in every state of a search. -/
structure Query.Sound (q : Query) (g : Graph) (s : State) : Prop where
  priced : ∀ {t h}, s.labels[t]? = some h → h.tokenOut = t ∧ h.amountOut ≠ 0 ∧
    ∃ a m, q.Priced g h a m ∧ ∃ b, q.amountAt s h.tokenIn = some b ∧ a ≤ b
  carried : ∀ {t a}, q.amountAt s t = some a → g.Walk q.source q.amount t a
  source : ∃ b, q.amountAt s q.source = some b ∧ q.amount ≤ b

theorem Query.sound_start (q : Query) (g : Graph) : q.Sound g q.start where
  priced h := by simp [Query.start] at h
  carried h := by
    rcases Query.amountAt_eq_some.mp h with ⟨h, hl, _⟩ | ⟨_, rfl, rfl⟩
    · simp [Query.start] at hl
    · exact .stay
  source := ⟨q.amount, by simp [Query.amountAt, Query.start], le_rfl⟩

theorem Query.Sound.congr {s s' : State} (hs : q.Sound g s) (h : s'.labels = s.labels) :
    q.Sound g s' where
  priced ht := by
    rw [h] at ht
    simpa only [Query.amountAt_congr h] using hs.priced ht
  carried ht := hs.carried (Query.amountAt_congr h _ ▸ ht)
  source := by simpa only [Query.amountAt_congr h] using hs.source

theorem Query.Sound.take {s m : State} (hs : q.Sound g s) {token target : TokenId} {o : Offer}
    {amount b : Nat} (hw : g.Walk q.source q.amount token amount)
    (hp : q.Priced g (q.hop token target o) amount m) (hz : o.amount ≠ 0)
    (hb : q.amountAt s token = some b) (hle : amount ≤ b) :
    q.Sound g (q.take token target s o) := by
  have hgrow {t a} (ha : q.amountAt s t = some a) := Query.amountAt_take ha token target o
  rcases q.labels_take token target s o with ⟨_, _, _, hl⟩ | ⟨_, hl⟩
  · exact hs.congr hl
  have hget (t : TokenId) : (q.take token target s o).labels[t]? =
      if target = t then some (q.hop token target o) else s.labels[t]? := by
    rw [hl, Std.ExtTreeMap.getElem?_insert]
    simp
  refine ⟨?priced, ?carried, ?source⟩
  case priced =>
    intro t h ht
    rw [hget] at ht
    split_ifs at ht with he
    · cases ht
      obtain ⟨c, hc, hbc⟩ := hgrow hb
      exact ⟨he, hz, amount, m, hp, c, hc, hle.trans hbc⟩
    · obtain ⟨hout, hpos, a, m', hp', b', hb', hab'⟩ := hs.priced ht
      obtain ⟨c, hc, hbc⟩ := hgrow hb'
      exact ⟨hout, hpos, a, m', hp', c, hc, hab'.trans hbc⟩
  case carried =>
    intro t a ha
    rw [Query.amountAt_eq_some, hget] at ha
    split_ifs at ha with he
    · obtain ⟨h, hh, rfl⟩ := ha.resolve_right (by simp)
      cases hh
      obtain ⟨edge, he', hq⟩ := hp.stored
      have hstep : g.Walk q.source q.amount target (edge.quote amount) := hw.step he'
      rw [hq] at hstep
      exact he ▸ hstep
    · exact hs.carried (Query.amountAt_eq_some.mpr ha)
  case source =>
    obtain ⟨b', hb', hle'⟩ := hs.source
    obtain ⟨c, hc, hbc⟩ := hgrow hb'
    exact ⟨c, hc, hle'.trans hbc⟩

/-- What each offer that is taken keeps, an expansion keeps together with the labels' soundness.
The token under expansion may get more meanwhile, so an offer is priced with at most its amount. -/
theorem Query.Sound.expand {P : State → Prop} {s : State} {token : TokenId}
    {queue : List TokenId} (hs : q.Sound g s) (hr : q.Reaches g s) (hq : s.queue = token :: queue)
    (h : P { s with queue })
    (htake : ∀ {s' target o amount b}, P s' → q.Sound g s' →
      Available g s'.visited token amount target o → q.amountAt s' token = some b → amount ≤ b →
      P (q.take token target s' o)) :
    q.Sound g (q.expand g { s with queue } token) ∧ P (q.expand g { s with queue } token) := by
  let I (s' : State) : Prop := (q.Sound g s' ∧ P s') ∧
    ∀ a, q.amountAt s token = some a → ∃ b, q.amountAt s' token = some b ∧ a ≤ b
  have hI : I (q.expand g { s with queue } token) := by
    refine Query.expand_induct ⟨⟨hs.congr rfl, h⟩, fun a ha => ⟨a, ha, le_rfl⟩⟩ ?_
    rintro amount s' target o ha ⟨⟨hs', hP⟩, hgrow⟩ hav
    have ha : q.amountAt s token = some amount := ha
    obtain ⟨b, hb, hle⟩ := hgrow amount ha
    have hp : q.Priced g (q.hop token target o) amount s :=
      ⟨hr, by rw [hq]; rfl, ha, hav.stored⟩
    refine ⟨⟨hs'.take (hs.carried ha) hp hav.positive hb hle, htake hP hs' hav hb hle⟩, ?_⟩
    intro a ha'
    obtain ⟨b', hb', hle'⟩ := hgrow a ha'
    obtain ⟨c, hc, hbc⟩ := Query.amountAt_take hb' token target o
    exact ⟨c, hc, hle'.trans hbc⟩
  exact hI.1

/-- What holds at the start of a search, when a token leaves the queue, and after each offer that
is taken, holds in all its states. -/
theorem Query.Reaches.induct {P : State → Prop} (hstart : P q.start)
    (hpop : ∀ {s queue}, P s → P { s with queue })
    (htake : ∀ {s token target o amount b}, P s → q.Sound g s →
      Available g s.visited token amount target o → q.amountAt s token = some b → amount ≤ b →
      P (q.take token target s o)) {s : State} (h : q.Reaches g s) : q.Sound g s ∧ P s := by
  induction h with
  | start => exact ⟨q.sound_start g, hstart⟩
  | expand hr hq ih => exact ih.1.expand hr hq (hpop ih.2) htake

theorem Query.Reaches.sound {s : State} (h : q.Reaches g s) : q.Sound g s :=
  (h.induct (P := fun _ => True) trivial (fun _ => trivial) fun _ _ _ _ _ => trivial).1

end LiquidityGraph.Search
