import LiquidityGraph.Discovery.Findings
import LiquidityGraph.Proofs.Route.Drain
import LiquidityGraph.Proofs.Route.ReadBack

/-!
How far a search gets where each pool joins one pair of tokens. Using up a pool never hides a token
there: in the end no edge from a labelled token to one without a label pays anything.
-/
namespace LiquidityGraph

def EdgeKey.SameEnds (k k' : EdgeKey) : Prop :=
  k.source = k'.source ∧ k.target = k'.target ∨ k.source = k'.target ∧ k.target = k'.source

instance (k k' : EdgeKey) : Decidable (k.SameEnds k') :=
  inferInstanceAs (Decidable (_ ∨ _))

/-- Each pool joins one pair of tokens, on whatever chains. -/
def Graph.PoolsApart (g : Graph) : Prop :=
  ∀ {k k' e e'}, g.edge? k = some e → g.edge? k' = some e' → k.pool = k'.pool → k.SameEnds k'

theorem Graph.poolsApart_iff {g : Graph} : g.PoolsApart ↔
    ∀ x ∈ g.edgeList, ∀ y ∈ g.edgeList, x.1.pool = y.1.pool → x.1.SameEnds y.1 := by
  constructor
  · intro h x hx y hy
    exact h (Graph.mem_edgeList.mp hx) (Graph.mem_edgeList.mp hy)
  · intro h k k' e e' he he'
    exact h (k, e) (Graph.mem_edgeList.mpr he) (k', e') (Graph.mem_edgeList.mpr he')

instance (g : Graph) : Decidable g.PoolsApart := decidable_of_iff' _ Graph.poolsApart_iff

/-- One of the edges pays something for the amount. -/
def PoolEdges.Pays (pools : PoolEdges) (amount : Nat) : Prop :=
  ∃ (pool : PoolId) (chains : ChainEdges) (chain : ChainId) (edge : Edge),
    pools[pool]? = some chains ∧ chains[chain]? = some edge ∧ edge.quote amount ≠ 0

namespace Search

variable {q : Query} {g : Graph} {s s' : State}

def Query.Labelled (q : Query) (s : State) (token : TokenId) : Prop :=
  ∃ amount, q.amountAt s token = some amount

/-- Both ends of the pools that are used up are labelled. -/
def Query.EndsLabelled (q : Query) (g : Graph) (s : State) : Prop :=
  ∀ key edge, g.edge? key = some edge → key.pool ∈ s.visited →
    q.Labelled s key.source ∧ q.Labelled s key.target

/-- What the token's edges pay something for is labelled. -/
def Query.Exhausted (q : Query) (g : Graph) (s : State) (token : TokenId) : Prop :=
  ∀ key edge amount, g.edge? key = some edge → key.source = token →
    q.amountAt s token = some amount → edge.quote amount ≠ 0 → q.Labelled s key.target

/-- What the offers that are taken change: labels are added, and a token whose amount changes goes
into the queue. -/
structure Query.Grows (q : Query) (s s' : State) : Prop where
  queue : s.queue ⊆ s'.queue
  labelled : ∀ {token}, q.Labelled s token → q.Labelled s' token
  changed : ∀ token, token ∈ s'.queue ∨ q.amountAt s' token = q.amountAt s token

theorem Query.Grows.refl (q : Query) (s : State) : q.Grows s s :=
  ⟨fun _ h => h, fun h => h, fun _ => Or.inr rfl⟩

theorem Query.Grows.trans {s'' : State} (h : q.Grows s s') (h' : q.Grows s' s'') :
    q.Grows s s'' where
  queue _ ht := h'.queue (h.queue ht)
  labelled ht := h'.labelled (h.labelled ht)
  changed token := by
    rcases h'.changed token with hqueued | hsame
    · exact Or.inl hqueued
    · rcases h.changed token with hqueued | hsame'
      · exact Or.inl (h'.queue hqueued)
      · exact Or.inr (hsame.trans hsame')

theorem Query.labelled_take (q : Query) (token target : TokenId) (s : State) (o : Offer) :
    q.Labelled (q.take token target s o) target := by
  rcases q.labels_take token target s o with ⟨b, hb, -, hl⟩ | ⟨-, hl⟩
  · exact ⟨b, by rw [Query.amountAt_congr hl, hb]⟩
  · exact ⟨o.amount, by simp [Query.amountAt, hl, Query.hop]⟩

theorem Query.grows_take (q : Query) (token target : TokenId) (s : State) (o : Offer) :
    q.Grows s (q.take token target s o) where
  queue _ ht := List.mem_append_left _ ht
  labelled := by
    rintro t ⟨a, ha⟩
    obtain ⟨b, hb, -⟩ := Query.amountAt_take ha token target o
    exact ⟨b, hb⟩
  changed t := by
    by_cases ht : t = target
    · exact Or.inl (List.mem_append_right _ (List.mem_singleton.mpr ht))
    · right
      rcases q.labels_take token target s o with ⟨_, _, _, hl⟩ | ⟨-, hl⟩
      · exact Query.amountAt_congr hl t
      · simp [Query.amountAt, hl, Std.ExtTreeMap.getElem?_insert, Ne.symm ht]

theorem best_eq_none {os : List Offer} (h : best os = none) : os = [] := by
  have hsome (os : List Offer) (o : Offer) : (os.foldl better (some o)).isSome := by
    induction os generalizing o with
    | nil => rfl
    | cons x os ih =>
      rw [List.foldl_cons, better]
      split_ifs
      · exact ih x
      · exact ih o
  cases os with
  | nil => rfl
  | cons o os =>
    have hbest : (best (o :: os)).isSome := hsome os o
    rw [h] at hbest
    cases hbest

variable {token : TokenId}

theorem Query.EndsLabelled.take (h : q.EndsLabelled g s) (hpools : g.PoolsApart)
    (htoken : q.Labelled s token) {target : TokenId} {amount : Nat} {o : Offer}
    (ho : Available g s.visited token amount target o) :
    q.EndsLabelled g (q.take token target s o) := by
  have hgrows := q.grows_take token target s o
  have htarget := q.labelled_take token target s o
  obtain ⟨edge, he, -⟩ := ho.stored
  intro key edge' he' hpool
  rcases List.mem_cons.mp hpool with hpool | hpool
  · rcases hpools he' he hpool with ⟨hs, ht⟩ | ⟨hs, ht⟩
    · rw [hs, ht]
      exact ⟨hgrows.labelled htoken, htarget⟩
    · rw [hs, ht]
      exact ⟨htarget, hgrows.labelled htoken⟩
  · obtain ⟨hs, ht⟩ := h key edge' he' hpool
    exact ⟨hgrows.labelled hs, hgrows.labelled ht⟩

/-- Looking at one target keeps both ends of used pools labelled, and labels the target if an edge
pays something for it: a pool that is passed over has been used between the same tokens. -/
theorem Query.EndsLabelled.relax (h : q.EndsLabelled g s) (hpools : g.PoolsApart)
    (htoken : q.Labelled s token) (amount : Nat) {entry : TokenId × PoolEdges}
    (hstored : g.poolsBetween token entry.1 = some entry.2) :
    q.EndsLabelled g (q.relax token amount s entry) ∧ q.Grows s (q.relax token amount s entry) ∧
      (entry.2.Pays amount → q.Labelled (q.relax token amount s entry) entry.1) := by
  have hedge {pool chain chains edge} (hp : entry.2[pool]? = some chains)
      (hc : chains[chain]? = some edge) : g.edge? ⟨token, entry.1, pool, chain⟩ = some edge := by
    simp [Graph.edge?, hstored, hp, hc]
  unfold Query.relax
  cases hbest : best (offers s.visited amount entry.2) with
  | none =>
    refine ⟨h, .refl q s, ?_⟩
    rintro ⟨pool, chains, chain, edge, hp, hc, hpays⟩
    -- a pool that is used up was used between the same tokens, so the target has its label
    by_cases hused : pool ∈ s.visited
    · exact (h _ edge (hedge hp hc) hused).2
    · have hoffer : (⟨edge.quote amount, pool, chain⟩ : Offer) ∈ offers s.visited amount entry.2 :=
        mem_offers.mpr ⟨hused, hpays, chains, edge, hp, hc, rfl⟩
      rw [best_eq_none hbest] at hoffer
      cases hoffer
  | some o =>
    obtain ⟨hunused, hpays, chains, edge, hp, hc, hq⟩ := mem_offers.mp (mem_of_best hbest)
    have ho : Available g s.visited token amount entry.1 o :=
      ⟨hunused, ⟨edge, hedge hp hc, hq⟩, hpays⟩
    exact ⟨h.take hpools htoken ho, q.grows_take token entry.1 s o,
      fun _ => q.labelled_take token entry.1 s o⟩

theorem Query.EndsLabelled.foldl_relax (hpools : g.PoolsApart)
    {entries : List (TokenId × PoolEdges)}
    (hstored : ∀ entry ∈ entries, g.poolsBetween token entry.1 = some entry.2)
    {s : State} (h : q.EndsLabelled g s) (htoken : q.Labelled s token) (amount : Nat) :
    let final := entries.foldl (q.relax token amount) s
    q.EndsLabelled g final ∧ q.Grows s final ∧
      ∀ entry ∈ entries, entry.2.Pays amount → q.Labelled final entry.1 := by
  induction entries generalizing s with
  | nil => exact ⟨h, .refl q s, by simp⟩
  | cons entry entries ih =>
    obtain ⟨hfirst, hrest⟩ := List.forall_mem_cons.mp hstored
    obtain ⟨hends, hgrows, hpays⟩ := h.relax hpools htoken amount hfirst
    obtain ⟨hends', hgrows', hpays'⟩ := ih hrest hends (hgrows.labelled htoken)
    exact ⟨hends', hgrows.trans hgrows',
      List.forall_mem_cons.mpr ⟨fun h => hgrows'.labelled (hpays h), hpays'⟩⟩

/-- An expansion leaves the token exhausted, unless it has put the token into the queue again. -/
theorem Query.EndsLabelled.expand (h : q.EndsLabelled g s) (hpools : g.PoolsApart)
    (token : TokenId) :
    q.EndsLabelled g (q.expand g s token) ∧ q.Grows s (q.expand g s token) ∧
      (token ∈ (q.expand g s token).queue ∨ q.Exhausted g (q.expand g s token) token) := by
  unfold Query.expand
  cases ha : q.amountAt s token with
  | none =>
    refine ⟨h, .refl q s, Or.inr fun key edge amount _ _ hamount _ => ?_⟩
    cases ha.symm.trans hamount
  | some amount =>
    cases ht : g.neighbors token with
    | none =>
      refine ⟨h, .refl q s, Or.inr fun key edge amount he hsource _ _ => ?_⟩
      obtain ⟨targets, _, _, hneighbors, -⟩ := Graph.edge?_eq_some.mp he
      rw [hsource, ht] at hneighbors
      cases hneighbors
    | some targets =>
      have hstored : ∀ entry ∈ targets.toList, g.poolsBetween token entry.1 = some entry.2 :=
        fun _ => Graph.poolsBetween_of_mem ht
      obtain ⟨hends, hgrows, hpays⟩ :=
        Query.EndsLabelled.foldl_relax hpools hstored h ⟨amount, ha⟩ amount
      refine ⟨hends, hgrows, ?_⟩
      rcases hgrows.changed token with hqueued | hsame
      · exact Or.inl hqueued
      · right
        intro key edge amount' he hsource hamount hpositive
        rw [hsame, ha] at hamount
        cases hamount
        obtain ⟨targets', pools, chains, hneighbors, hp, hc, he⟩ := Graph.edge?_eq_some.mp he
        rw [hsource, ht] at hneighbors
        cases hneighbors
        exact hpays (key.target, pools) (Std.ExtTreeMap.mem_toList_iff_getElem?_eq_some.mpr hp)
          ⟨key.pool, chains, key.chain, edge, hc, he, hpositive⟩

/-- An exhausted token stays so while its amount is the same. -/
theorem Query.Exhausted.grows (h : q.Exhausted g s token) (hg : q.Grows s s')
    (hsame : q.amountAt s' token = q.amountAt s token) : q.Exhausted g s' token := by
  intro key edge amount he hsource hamount hpays
  exact hg.labelled (h key edge amount he hsource (hsame ▸ hamount) hpays)

/-- The tokens outside of the queue are exhausted. -/
structure Query.Settled (q : Query) (g : Graph) (s : State) : Prop where
  ends : q.EndsLabelled g s
  exhausted : ∀ token, token ∈ s.queue ∨ q.Exhausted g s token

theorem Query.settled_start (q : Query) (g : Graph) : q.Settled g q.start := by
  refine ⟨fun key edge _ hpool => (List.not_mem_nil hpool).elim, fun token => ?_⟩
  by_cases htoken : token = q.source
  · exact Or.inl (List.mem_singleton.mpr htoken)
  · right
    intro key edge amount _ _ hamount _
    simp [Query.amountAt, Query.start, htoken] at hamount

theorem Query.Settled.expand (h : q.Settled g s) (hpools : g.PoolsApart) {queue : List TokenId}
    (hqueue : s.queue = token :: queue) : q.Settled g (q.expand g { s with queue } token) := by
  have hrest : q.EndsLabelled g { s with queue } := h.ends
  obtain ⟨hends, hgrows, htoken⟩ := hrest.expand hpools token
  refine ⟨hends, fun t => ?_⟩
  rcases h.exhausted t with hmem | hexhausted
  · rw [hqueue] at hmem
    rcases List.mem_cons.mp hmem with rfl | hmem
    · exact htoken
    · exact Or.inl (hgrows.queue hmem)
  · rcases hgrows.changed t with hqueued | hsame
    · exact Or.inl hqueued
    · have hexhausted : q.Exhausted g { s with queue } t := hexhausted
      exact Or.inr (hexhausted.grows hgrows hsame)

theorem Query.Reaches.settled (h : q.Reaches g s) (hpools : g.PoolsApart) : q.Settled g s := by
  induction h with
  | start => exact q.settled_start g
  | expand _ hqueue ih => exact ih.expand hpools hqueue

/-- When the search is over, what is paid from a labelled token leads to a labelled token. -/
theorem Query.labelled_of_pays (hpools : g.PoolsApart) {key : EdgeKey} {edge : Edge} {amount : Nat}
    (he : g.edge? key = some edge) (hamount : q.amountAt (q.run g) key.source = some amount)
    (hpays : edge.quote amount ≠ 0) : q.Labelled (q.run g) key.target := by
  rcases ((q.reaches_run g).settled hpools).exhausted key.source with hmem | hexhausted
  · rw [q.queue_run g] at hmem
    cases hmem
  · exact hexhausted key edge amount he rfl hamount hpays

/-- Where each pool joins one pair of tokens, the queue of a search runs empty, and no edge from a
labelled token to one without a label then pays anything. There is a route unless the destination
is one without. -/
theorem Query.frontier_pays_nothing (hpools : g.PoolsApart) (q : Query) :
    (q.run g).queue = [] ∧
      (∀ {key edge amount}, g.edge? key = some edge →
        q.amountAt (q.run g) key.source = some amount →
        q.amountAt (q.run g) key.target = none → edge.quote amount = 0) ∧
      (q.source ≠ q.dest → (q.hops g = [] ↔ q.amountAt (q.run g) q.dest = none)) := by
  refine ⟨q.queue_run g, fun he hamount htarget => ?_, q.hops_eq_nil⟩
  by_contra hpays
  obtain ⟨b, hb⟩ := Query.labelled_of_pays hpools he hamount hpays
  cases htarget.symm.trans hb

/-- A pool that pays nothing joins `D` to the tokens of two others. -/
def dried : Graph :=
  let pool (id a b : String) : Pool := ⟨⟨a⟩, ⟨b⟩, ⟨id⟩, "factory", ⟨"avalanche"⟩⟩
  (Findings.ofList [.constantProduct (pool "P1" "A" "B") 1000000 2000000,
    .constantProduct (pool "P2" "B" "C") 1000000 1000000,
    .constantProduct (pool "P3" "C" "D") 1000000 0]).install (.empty 0)

/-- From `A` the search labels `B` and `C`, and the last pool is dead at the amount found. -/
theorem frontier_pays_nothing_dried :
    let q : Query := ⟨⟨"A"⟩, ⟨"D"⟩, 1000, fun _ _ => .none⟩
    let key : EdgeKey := ⟨⟨"C"⟩, ⟨"D"⟩, ⟨"P3"⟩, ⟨"avalanche"⟩⟩
    dried.PoolsApart ∧ q.amountAt (q.run dried) key.source = some 1982 ∧
      q.amountAt (q.run dried) key.target = none ∧ q.hops dried = [] ∧
      ∀ edge, dried.edge? key = some edge → edge.quote 1982 = 0 := by
  intro q key
  have hpools : dried.PoolsApart := by decide +kernel
  have hsource : q.amountAt (q.run dried) key.source = some 1982 := by decide +kernel
  have htarget : q.amountAt (q.run dried) key.target = none := by decide +kernel
  obtain ⟨-, hdead, hroute⟩ := q.frontier_pays_nothing hpools
  exact ⟨hpools, hsource, htarget, (hroute (by decide)).mpr htarget,
    fun edge he => hdead he hsource htarget⟩

end Search

end LiquidityGraph
