import LiquidityGraph.Discovery.Bridges
import LiquidityGraph.Proofs.Graph.Bulk
import LiquidityGraph.Proofs.Route.Frontier
import LiquidityGraph.Proofs.Route.Gainless

/-!
Routes over bridges alone. Bridges exchange one for one, so the amount is the same everywhere and a
search fails only for want of pools: it reaches all that links connect where no pool label is
shared by links between different tokens.
-/
namespace LiquidityGraph

namespace BridgeLink

/-- The link is between the two tokens, in either direction. -/
def Joins (l : BridgeLink) (a b : TokenId) : Prop :=
  l.source = a ∧ l.target = b ∨ l.source = b ∧ l.target = a

instance (l : BridgeLink) (a b : TokenId) : Decidable (l.Joins a b) :=
  inferInstanceAs (Decidable (_ ∨ _))

/-- The pool labels of both directions. -/
def labels (l : BridgeLink) : List String := [l.forwardPool, l.backwardPool]

/-- Links between different tokens have different pool labels. -/
def Apart (links : List BridgeLink) : Prop :=
  ∀ l ∈ links, ∀ l' ∈ links, ∀ label ∈ l.labels, label ∈ l'.labels → l.Joins l'.source l'.target

instance (links : List BridgeLink) : Decidable (Apart links) :=
  inferInstanceAs (Decidable (∀ l ∈ links, ∀ l' ∈ links, ∀ label ∈ l.labels, _))

def Linked (links : List BridgeLink) (a b : TokenId) : Prop := ∃ l ∈ links, l.Joins a b

theorem mem_entries {l : BridgeLink} {key : EdgeKey} {edge : Edge} (h : (key, edge) ∈ l.entries) :
    l.Joins key.source key.target ∧ key.pool.text ∈ l.labels ∧
      edge = .bridge ⟨key.source, key.target⟩ := by
  unfold entries at h
  rcases List.mem_cons.mp h with h | h
  · cases h
    exact ⟨Or.inl ⟨rfl, rfl⟩, List.mem_cons_self, rfl⟩
  · cases List.mem_singleton.mp h
    exact ⟨Or.inr ⟨rfl, rfl⟩, List.mem_cons_of_mem _ List.mem_cons_self, rfl⟩

theorem exists_mem_entries {l : BridgeLink} {a b : TokenId} (h : l.Joins a b) :
    ∃ entry ∈ l.entries, entry.1.source = a ∧ entry.1.target = b := by
  rcases h with ⟨rfl, rfl⟩ | ⟨rfl, rfl⟩
  · exact ⟨_, List.mem_cons_self, rfl, rfl⟩
  · exact ⟨_, List.mem_cons_of_mem _ List.mem_cons_self, rfl, rfl⟩

end BridgeLink

namespace Graph

variable {links : List BridgeLink} {fee : Nat}

theorem edge?_addBridges (fee : Nat) (links : List BridgeLink) (key : EdgeKey) :
    ((Graph.empty fee).addBridges links).edge? key =
      (links.flatMap BridgeLink.entries).reverse.lookup key := by
  have hempty : (Graph.empty fee).edge? key = none := by simp [edge?_eq_bind, empty]
  simp [addBridges, hempty]

theorem edge?_addBridges_eq_some {key : EdgeKey} {edge : Edge}
    (h : ((Graph.empty fee).addBridges links).edge? key = some edge) :
    ∃ l ∈ links, l.Joins key.source key.target ∧ key.pool.text ∈ l.labels ∧
      edge = .bridge ⟨key.source, key.target⟩ := by
  rw [edge?_addBridges] at h
  obtain ⟨before, after, hsplit, -⟩ := List.lookup_eq_some_iff.mp h
  have hmem : (key, edge) ∈ (links.flatMap BridgeLink.entries).reverse := by
    rw [hsplit]
    simp
  obtain ⟨l, hl, hentry⟩ := List.mem_flatMap.mp (List.mem_reverse.mp hmem)
  exact ⟨l, hl, BridgeLink.mem_entries hentry⟩

theorem exists_edge?_addBridges (fee : Nat) {a b : TokenId} (h : BridgeLink.Linked links a b) :
    ∃ key edge, ((Graph.empty fee).addBridges links).edge? key = some edge ∧
      key.source = a ∧ key.target = b := by
  obtain ⟨l, hl, hjoins⟩ := h
  obtain ⟨⟨key, edge⟩, hentry, hsource, htarget⟩ := BridgeLink.exists_mem_entries hjoins
  cases hfound : ((Graph.empty fee).addBridges links).edge? key with
  | some stored => exact ⟨key, stored, hfound, hsource, htarget⟩
  | none =>
    rw [edge?_addBridges, List.lookup_eq_none_iff] at hfound
    have hmem : (key, edge) ∈ (links.flatMap BridgeLink.entries).reverse :=
      List.mem_reverse.mpr (List.mem_flatMap.mpr ⟨l, hl, hentry⟩)
    have hne := hfound (key, edge) hmem
    simp at hne

theorem quote_addBridges {key : EdgeKey} {edge : Edge}
    (h : ((Graph.empty fee).addBridges links).edge? key = some edge) (amount : Nat) :
    edge.quote amount = amount := by
  obtain ⟨_, -, -, -, rfl⟩ := edge?_addBridges_eq_some h
  rfl

/-- On a walk over bridges the amount stays the same. -/
theorem Walk.addBridges {s t : TokenId} {a b : Nat}
    (h : ((Graph.empty fee).addBridges links).Walk s a t b) : b = a := by
  induction h with
  | stay => rfl
  | step _ he ih => rw [quote_addBridges he, ih]

theorem poolsApart_addBridges (fee : Nat) (h : BridgeLink.Apart links) :
    ((Graph.empty fee).addBridges links).PoolsApart := by
  intro k k' e e' he he' hpool
  obtain ⟨l, hl, hends, hlabel, -⟩ := edge?_addBridges_eq_some he
  obtain ⟨l', hl', hends', hlabel', -⟩ := edge?_addBridges_eq_some he'
  have hjoins := h l hl l' hl' k.pool.text hlabel (hpool ▸ hlabel')
  unfold BridgeLink.Joins at hends hends' hjoins
  unfold EdgeKey.SameEnds
  grind

theorem monotone_addBridges (fee : Nat) (links : List BridgeLink) :
    ((Graph.empty fee).addBridges links).Monotone := by
  intro key edge he a b hab _
  rw [quote_addBridges he, quote_addBridges he]
  exact hab

theorem gainless_addBridges (fee : Nat) (links : List BridgeLink) :
    ((Graph.empty fee).addBridges links).Gainless :=
  fun _ hw => hw.addBridges.le

end Graph

namespace Search

variable {q : Query} {links : List BridgeLink} {fee : Nat}

/-- What is labelled has the amount that was put in. -/
theorem Query.amountAt_addBridges {token : TokenId} {amount : Nat}
    (h : q.amountAt (q.run ((Graph.empty fee).addBridges links)) token = some amount) :
    amount = q.amount :=
  ((q.reaches_run _).sound.carried h).addBridges

/-- All that links connect with the source is labelled. -/
theorem Query.labelled_addBridges (fee : Nat) (hapart : BridgeLink.Apart links)
    (hamount : 0 < q.amount) {token : TokenId}
    (h : Relation.ReflTransGen (BridgeLink.Linked links) q.source token) :
    q.Labelled (q.run ((Graph.empty fee).addBridges links)) token := by
  induction h with
  | refl =>
    obtain ⟨b, hb, -⟩ := (q.reaches_run ((Graph.empty fee).addBridges links)).sound.source
    exact ⟨b, hb⟩
  | @tail u t _ hlink ih =>
    obtain ⟨a, ha⟩ := ih
    obtain ⟨key, edge, he, rfl, rfl⟩ := Graph.exists_edge?_addBridges fee hlink
    refine Query.labelled_of_pays (Graph.poolsApart_addBridges fee hapart) he ha ?_
    rw [Graph.quote_addBridges he, Query.amountAt_addBridges ha]
    exact hamount.ne'

/-- Where links between different tokens have different pool labels, there is a route between any
two tokens that links connect, and it carries the amount that is put in. -/
theorem Query.hops_addBridges (hapart : BridgeLink.Apart links) (hamount : 0 < q.amount)
    (hword : q.amount < Word.size 256) (hne : q.source ≠ q.dest)
    (h : Relation.ReflTransGen (BridgeLink.Linked links) q.source q.dest) (fee : Nat) :
    let hops := q.hops ((Graph.empty fee).addBridges links)
    SimpleRoute ((Graph.empty fee).addBridges links) q.source q.dest hops ∧
      hops.getLast?.map (·.amountOut) = some q.amount := by
  obtain ⟨a, ha⟩ := Query.labelled_addBridges fee hapart hamount h
  have hroute : q.hops ((Graph.empty fee).addBridges links) ≠ [] := by
    rw [Ne, q.hops_eq_nil hne, ha]
    exact Option.some_ne_none a
  obtain ⟨htrail, hfirst⟩ := Query.hops_trail hroute
  have hroot := (q.reaches_run _).rooted (Graph.monotone_addBridges fee links)
    (Graph.gainless_addBridges fee links) hword
  refine ⟨⟨q.linkedRoute_hops _, fun first hhead => ?_⟩, ?_⟩
  · rw [← hfirst.resolve_right (htrail.not_closed hroot), firstToken, hhead]
    rfl
  · obtain ⟨last, hlast⟩ := Option.ne_none_iff_exists'.mp
      (fun hnone => hroute (List.getLast?_eq_none_iff.mp hnone))
    have hlabel := htrail.label last (List.mem_of_getLast? hlast)
    have hlabelled : q.amountAt (q.run ((Graph.empty fee).addBridges links)) last.tokenOut =
        some last.amountOut := by simp [Query.amountAt, hlabel]
    rw [hlast, Option.map_some, Query.amountAt_addBridges hlabelled]

/-- A chain of two links under labels of their own, the second of them set against the way. -/
def ferries : List BridgeLink :=
  [⟨"avalanche", "A", "coqnet", "B", "ferry1", "ferry2"⟩,
    ⟨"dfk", "C", "coqnet", "B", "ferry3", "ferry4"⟩]

theorem hops_addBridges_ferries :
    let q : Query := ⟨⟨"A"⟩, ⟨"C"⟩, 77, fun _ _ => .none⟩
    let g := (Graph.empty 0).addBridges ferries
    BridgeLink.Apart ferries ∧ 0 < q.amount ∧ q.amount < Word.size 256 ∧ q.source ≠ q.dest ∧
      Relation.ReflTransGen (BridgeLink.Linked ferries) q.source q.dest ∧
      SimpleRoute g q.source q.dest (q.hops g) ∧
      (q.hops g).getLast?.map (·.amountOut) = some 77 := by
  intro q g
  have hapart : BridgeLink.Apart ferries := by decide +kernel
  have hfirst : BridgeLink.Linked ferries ⟨"A"⟩ ⟨"B"⟩ :=
    ⟨_, List.mem_cons_self, by decide +kernel⟩
  have hsecond : BridgeLink.Linked ferries ⟨"B"⟩ ⟨"C"⟩ :=
    ⟨_, List.mem_cons_of_mem _ List.mem_cons_self, by decide +kernel⟩
  have hlinked : Relation.ReflTransGen (BridgeLink.Linked ferries) q.source q.dest :=
    (Relation.ReflTransGen.single hfirst).tail hsecond
  have hword : q.amount < Word.size 256 := by decide +kernel
  exact ⟨hapart, by decide, hword, by decide, hlinked,
    q.hops_addBridges hapart (by decide) hword (by decide) hlinked 0⟩

/-- A link that keeps the default labels. -/
def plainLink (a b : String) : BridgeLink where
  fromChain := "avalanche"
  fromToken := a
  toChain := "coqnet"
  toToken := b

/-- Two links in a row under the default labels: the first hop uses up the pool that the second
one needs. -/
theorem hops_addBridges_default_labels :
    let links : List BridgeLink := [plainLink "A" "B", plainLink "B" "C"]
    let q : Query := ⟨⟨"A"⟩, ⟨"C"⟩, 77, fun _ _ => .none⟩
    0 < q.amount ∧ q.source ≠ q.dest ∧
      Relation.ReflTransGen (BridgeLink.Linked links) q.source q.dest ∧
      q.hops ((Graph.empty 0).addBridges links) = [] := by
  intro links q
  have hfirst : BridgeLink.Linked links ⟨"A"⟩ ⟨"B"⟩ :=
    ⟨_, List.mem_cons_self, by decide +kernel⟩
  have hsecond : BridgeLink.Linked links ⟨"B"⟩ ⟨"C"⟩ :=
    ⟨_, List.mem_cons_of_mem _ List.mem_cons_self, by decide +kernel⟩
  exact ⟨by decide, by decide, (Relation.ReflTransGen.single hfirst).tail hsecond,
    by decide +kernel⟩

end Search

end LiquidityGraph
