import LiquidityGraph.Proofs.Graph.Change
import LiquidityGraph.Proofs.Route.Shape

/-!
The records, ticks and edges of discovered pools. They stay together as long as all discoveries
that name a pool by one id mean one pool; a graph knows pools by their ids alone.
-/
namespace LiquidityGraph

open Std (ExtTreeMap)

/-- The pool has two tokens, in whichever order. -/
def Pool.Joins (p : Pool) (a b : TokenId) : Prop :=
  a = p.token0 ∧ b = p.token1 ∨ a = p.token1 ∧ b = p.token0

instance (p : Pool) (a b : TokenId) : Decidable (p.Joins a b) :=
  inferInstanceAs (Decidable (_ ∨ _))

def Edge.ticks? : Edge → Option TickList
  | .concentrated e => some e.ticks
  | _ => none

private theorem Edge.ticks?_of_frame {e e' : Edge} (h : e.frame = e'.frame) :
    e.ticks? = e'.ticks? := by
  cases e <;> cases e' <;> simp_all [frame, ticks?]

/-- The pools of a discovery have the tokens that are on record for their ids. -/
def Findings.SameTokens (f : Findings) (g : Graph) : Prop :=
  ∀ x ∈ f.pools.toList, ∀ p ∈ g.pools[x.1]?, p.Joins x.2.token0 x.2.token1

/-- The ticks of a discovery are those that the edges of other chains price with. -/
def Findings.SameTicks (f : Findings) (g : Graph) : Prop :=
  ∀ x ∈ f.ticks.toList, ∀ y ∈ g.edgeList, y.1.pool = x.1 →
    (∀ p ∈ f.pools[x.1]?, y.1.chain ≠ p.chain) → ∀ l ∈ y.2.ticks?, l = x.2

instance (f : Findings) (g : Graph) : Decidable (f.SameTokens g) :=
  inferInstanceAs (Decidable (∀ x ∈ f.pools.toList, _))

instance (f : Findings) (g : Graph) : Decidable (f.SameTicks g) :=
  inferInstanceAs (Decidable (∀ x ∈ f.ticks.toList, _))

theorem Pool.Joins.symm {p : Pool} {a b : TokenId} (h : p.Joins a b) : p.Joins b a := by
  obtain ⟨ha, hb⟩ | ⟨ha, hb⟩ := h
  · exact .inr ⟨hb, ha⟩
  · exact .inl ⟨hb, ha⟩

theorem Pool.Joins.trans {p q : Pool} {a b : TokenId} (h : p.Joins q.token0 q.token1)
    (hq : q.Joins a b) : p.Joins a b := by
  obtain ⟨rfl, rfl⟩ | ⟨rfl, rfl⟩ := hq
  · exact h
  · exact h.symm

theorem Pool.Joins.of_joins {p q : Pool} {a b : TokenId} (h : p.Joins q.token0 q.token1)
    (hp : p.Joins a b) : q.Joins a b := by
  unfold Joins at *
  grind

namespace FoundPool

variable {x : FoundPool} {k : EdgeKey} {e : Edge}

theorem joins_of_edge? (h : x.edge? k = some e) :
    x.pool.Joins k.source k.target ∧ e.ticks? = x.ticks? ∧ e.state?.isSome := by
  obtain ⟨parts, hparts, hkey⟩ := edge?_eq_some h
  have hparts' : (parts.forward.ticks? = parts.ticks ∧ parts.forward.state?.isSome) ∧
      parts.backward.ticks? = parts.ticks ∧ parts.backward.state?.isSome := by
    cases x with
    | constantProduct p reserve0 reserve1 =>
      cases hparts
      exact ⟨⟨rfl, rfl⟩, rfl, rfl⟩
    | concentrated p fee price liquidity tick spacing ticks =>
      obtain ⟨l, -, rfl⟩ := Option.map_eq_some_iff.mp hparts
      have hticks : ∀ a b, (Concentrated.between a b fee price liquidity tick l).ticks = l := by
        intro a b
        unfold Concentrated.between
        split_ifs <;> rfl
      exact ⟨⟨congrArg some (hticks _ _), rfl⟩, congrArg some (hticks _ _), rfl⟩
  rw [ticks?, hparts, Option.bind_some]
  obtain ⟨rfl, rfl⟩ | ⟨-, rfl, rfl⟩ := hkey
  · exact ⟨.inr ⟨rfl, rfl⟩, hparts'.2⟩
  · exact ⟨.inl ⟨rfl, rfl⟩, hparts'.1⟩

theorem edge?_isSome (hparts : x.parts?.isSome) (hpool : x.pool.id = k.pool)
    (hchain : x.pool.chain = k.chain) (h : x.pool.Joins k.source k.target) : (x.edge? k).isSome := by
  refine isSome_edge?.mpr ⟨hparts, ?_⟩
  cases k
  simp only at hpool hchain h
  subst hpool hchain
  obtain ⟨rfl, rfl⟩ | ⟨rfl, rfl⟩ := h
  · exact .inr rfl
  · exact .inl rfl

end FoundPool

namespace Graph

/-- Every edge is one of a pool on record, between the tokens of the record. -/
structure Recorded (g : Graph) : Prop where
  record (k : EdgeKey) (e : Edge) : g.edge? k = some e →
    ∃ p, g.pools[k.pool]? = some p ∧ p.Joins k.source k.target
  state (k : EdgeKey) (e : Edge) : g.edge? k = some e → e.state?.isSome

/-- Every concentrated edge prices with the ticks that are stored for its pool. -/
def Priced (g : Graph) : Prop :=
  ∀ k e l, g.edge? k = some e → e.ticks? = some l → g.ticks[k.pool]? = some l

section Install

variable {g : Graph} {f : Findings} {found : PoolId → Option FoundPool}

theorem joins_found (hf : f.Records found) (hfits : f.SameTokens g) {id : PoolId} {x : FoundPool}
    {p : Pool} (hx : found id = some x) (hp : g.pools[id]? = some p) :
    p.Joins x.pool.token0 x.pool.token1 := by
  have hrecord : (id, x.pool) ∈ f.pools.toList := by
    rw [ExtTreeMap.mem_toList_iff_getElem?_eq_some, hf.pools, hx, Option.map_some]
  exact hfits _ hrecord p hp

theorem Recorded.install (h : g.Recorded) (hf : f.Records found) (hfits : f.SameTokens g) :
    (f.install g).Recorded := by
  constructor
  · intro k e he
    rw [Findings.edge?_install, hf.edges] at he
    rw [Findings.pools_install f g hf, hf.pools]
    obtain he | ⟨-, he⟩ := Option.or_eq_some_iff.mp he
    · obtain ⟨x, hx, hedge⟩ := Option.bind_eq_some_iff.mp he
      obtain ⟨hjoins, -, -⟩ := FoundPool.joins_of_edge? hedge
      cases hp : g.pools[k.pool]? with
      | none => exact ⟨x.pool, by rw [hx, Option.none_or, Option.map_some], hjoins⟩
      | some p => exact ⟨p, Option.some_or, (joins_found hf hfits hx hp).trans hjoins⟩
    · obtain ⟨p, hp, hjoins⟩ := h.record k e he
      exact ⟨p, by rw [hp, Option.some_or], hjoins⟩
  · intro k e he
    rw [Findings.edge?_install, hf.edges] at he
    obtain he | ⟨-, he⟩ := Option.or_eq_some_iff.mp he
    · obtain ⟨x, hx, hedge⟩ := Option.bind_eq_some_iff.mp he
      exact (FoundPool.joins_of_edge? hedge).2.2
    · exact h.state k e he

theorem Priced.install (h : g.Priced) (hg : g.Recorded) (hf : f.Records found)
    (hfits : f.SameTokens g) (hticks : f.SameTicks g) : (f.install g).Priced := by
  intro k e l he hl
  rw [Findings.edge?_install, hf.edges] at he
  rw [Findings.ticks_install, hf.ticks]
  obtain he | ⟨hnone, he⟩ := Option.or_eq_some_iff.mp he
  · obtain ⟨x, hx, hedge⟩ := Option.bind_eq_some_iff.mp he
    obtain ⟨-, hfound, -⟩ := FoundPool.joins_of_edge? hedge
    rw [hx, Option.bind_some, ← hfound, hl, Option.some_or]
  · cases hfound : (found k.pool).bind FoundPool.ticks? with
    | none =>
      rw [Option.none_or]
      exact h k e l he hl
    | some l' =>
      obtain ⟨x, hx, hl'⟩ := Option.bind_eq_some_iff.mp hfound
      have hchain : ∀ p ∈ f.pools[k.pool]?, k.chain ≠ p.chain := by
        intro p hp hchain
        rw [hf.pools, hx, Option.map_some, Option.mem_def, Option.some.injEq] at hp
        subst hp
        obtain ⟨p, hp, hjoins⟩ := hg.record k e he
        -- on its own chain the pool would have been written over this edge
        have hedge := FoundPool.edge?_isSome (hf.acceptable _ _ hx) (hf.id _ _ hx) hchain.symm
          ((joins_found hf hfits hx hp).of_joins hjoins)
        rw [hx, Option.bind_some] at hnone
        simp [hnone] at hedge
      have hsame : l = l' := by
        refine hticks (k.pool, l') ?_ (k, e) (mem_edgeList.mpr he) rfl hchain l hl
        rw [ExtTreeMap.mem_toList_iff_getElem?_eq_some, hf.ticks, hfound]
      rw [hsame, Option.some_or]

end Install

section Dispatch

variable {g : Graph}

theorem Recorded.dispatch (h : g.Recorded) (d : Delivery) : (g.dispatch d.1 d.2).1.Recorded := by
  rw [dispatch_eq_mapEdges]
  constructor
  · intro k e₁ he₁
    rw [edge?_mapEdges, Option.map_eq_some_iff] at he₁
    obtain ⟨e, he, -⟩ := he₁
    exact h.record k e he
  · intro k e₁ he₁
    rw [edge?_mapEdges, Option.map_eq_some_iff] at he₁
    obtain ⟨e, he, rfl⟩ := he₁
    rw [Edge.isSome_state?_of_frame (frame_revised g d k e)]
    exact h.state k e he

theorem Priced.dispatch (h : g.Priced) (d : Delivery) : (g.dispatch d.1 d.2).1.Priced := by
  rw [dispatch_eq_mapEdges]
  intro k e₁ l he₁ hl
  rw [edge?_mapEdges, Option.map_eq_some_iff] at he₁
  obtain ⟨e, he, rfl⟩ := he₁
  rw [Edge.ticks?_of_frame (frame_revised g d k e)] at hl
  exact h k e l he hl

end Dispatch

section Delete

variable {g g' : Graph} {pool : PoolId} {p : Pool}

/-- A deleted pool takes all its edges with it, as they all join the tokens of its record. -/
theorem Recorded.edge?_deletePool (h : g.Recorded) (hdelete : g.deletePool pool = .ok (p, g'))
    {k : EdgeKey} {e : Edge} (he : g'.edge? k = some e) : k.pool ≠ pool ∧ g.edge? k = some e := by
  obtain ⟨hp, hwithout⟩ := deletePool_eq_ok hdelete
  rw [hwithout.edges] at he
  split_ifs at he with hcut
  refine ⟨fun hpool => hcut ⟨hpool, ?_⟩, he⟩
  obtain ⟨q, hq, hjoins⟩ := h.record k e he
  rw [hpool] at hq
  obtain rfl : p = q := Option.some.inj (hp.symm.trans hq)
  exact hjoins

theorem deletePool_rest (hdelete : g.deletePool pool = .ok (p, g')) {id : PoolId} (hid : id ≠ pool) :
    g'.pools[id]? = g.pools[id]? ∧ g'.ticks[id]? = g.ticks[id]? := by
  obtain ⟨-, hwithout⟩ := deletePool_eq_ok hdelete
  exact ⟨(hwithout.pools id).trans (if_neg hid.symm), (hwithout.ticks id).trans (if_neg hid.symm)⟩

theorem Recorded.deletePool (h : g.Recorded) (hdelete : g.deletePool pool = .ok (p, g')) :
    g'.Recorded := by
  constructor
  · intro k e he
    obtain ⟨hpool, he⟩ := h.edge?_deletePool hdelete he
    rw [(deletePool_rest hdelete hpool).1]
    exact h.record k e he
  · intro k e he
    exact h.state k e (h.edge?_deletePool hdelete he).2

theorem Priced.deletePool (h : g.Priced) (hg : g.Recorded)
    (hdelete : g.deletePool pool = .ok (p, g')) : g'.Priced := by
  intro k e l he hl
  obtain ⟨hpool, he⟩ := hg.edge?_deletePool hdelete he
  rw [(deletePool_rest hdelete hpool).2]
  exact h k e l he hl

end Delete

end Graph

/-- The changes that discoveries, listeners and removals make; a discovery has to fit the graph
that it meets. -/
def Change.Fits (fits : Findings → Graph → Prop) (g : Graph) : Change → Prop
  | .install found => fits (.ofList found) g
  | .log _ => True
  | .deletePool _ => True
  | _ => False

instance (fits : Findings → Graph → Prop) [∀ f g, Decidable (fits f g)] (g : Graph) :
    DecidablePred (Change.Fits fits g)
  | .install found => inferInstanceAs (Decidable (fits (.ofList found) g))
  | .log _ | .deletePool _ => .isTrue trivial
  | .bridge _ | .deleteEdge .. | .setPoolFee .. => .isFalse id

namespace Graph

/-- Changes of which each fits the graph that it meets. -/
def Accepts (fits : Findings → Graph → Prop) : Graph → List Change → Prop
  | _, [] => True
  | g, c :: cs => c.Fits fits g ∧ (c.apply g).Accepts fits cs

instance (fits : Findings → Graph → Prop) [∀ f g, Decidable (fits f g)] :
    (g : Graph) → (cs : List Change) → Decidable (g.Accepts fits cs)
  | _, [] => .isTrue trivial
  | g, c :: cs =>
    have := instDecidableAccepts fits (c.apply g) cs
    inferInstanceAs (Decidable (c.Fits fits g ∧ (c.apply g).Accepts fits cs))

section Run

variable {g : Graph} {c : Change} {cs : List Change}

theorem Recorded.apply (h : g.Recorded) (hc : c.Fits Findings.SameTokens g) :
    (c.apply g).Recorded := by
  cases c with
  | install found => exact h.install (Findings.records_ofList found) hc
  | log d => exact h.dispatch d
  | deletePool pool =>
    simp only [Change.apply]
    split
    · rename_i hdelete
      exact h.deletePool hdelete
    · exact h
  | bridge links => exact hc.elim
  | deleteEdge a b pool => exact hc.elim
  | setPoolFee pool fee => exact hc.elim

theorem Recorded.run (h : g.Recorded) (hcs : g.Accepts Findings.SameTokens cs) :
    (g.run cs).Recorded := by
  induction cs generalizing g with
  | nil => exact h
  | cons c cs ih => exact ih (h.apply hcs.1) hcs.2

theorem Priced.apply (h : g.Priced) (hg : g.Recorded) (hc : c.Fits Findings.SameTokens g)
    (hticks : c.Fits Findings.SameTicks g) : (c.apply g).Priced := by
  cases c with
  | install found => exact h.install hg (Findings.records_ofList found) hc hticks
  | log d => exact h.dispatch d
  | deletePool pool =>
    simp only [Change.apply]
    split
    · rename_i hdelete
      exact h.deletePool hg hdelete
    · exact h
  | bridge links => exact hc.elim
  | deleteEdge a b pool => exact hc.elim
  | setPoolFee pool fee => exact hc.elim

theorem Priced.run (h : g.Priced) (hg : g.Recorded) (hcs : g.Accepts Findings.SameTokens cs)
    (hticks : g.Accepts Findings.SameTicks cs) : (g.run cs).Priced := by
  induction cs generalizing g with
  | nil => exact h
  | cons c cs ih => exact ih (h.apply hg hcs.1 hticks.1) (hg.apply hcs.1) hcs.2 hticks.2

end Run

/-- A log of a pool's event on an edge's chain is taken over by the edge. -/
theorem Recorded.applyLog {g : Graph} (h : g.Recorded) (htwinned : g.Twinned) {k : EdgeKey}
    {e e' : Edge} {log : Log} {ctx : LogContext} {o : Observation} (he : g.edge? k = some e)
    (hpool : k.pool = PoolId.ofAddress log.address) (hchain : k.chain = ctx.chain)
    (hupdate : e.update log ctx = .ok (e', some o)) :
    ∃ g' os, g.applyLog log ctx = .ok (g', os) ∧ g'.edge? k = some e' := by
  obtain ⟨p, hp, hjoins⟩ := h.record k e he
  rw [hpool] at hp
  have hkey : k ∈ p.keys (PoolId.ofAddress log.address) ctx.chain := by
    cases k
    simp only at hpool hchain hjoins
    subst hpool hchain
    simp only [Pool.keys, List.mem_cons, List.not_mem_nil, or_false, EdgeKey.mk.injEq, and_true]
    exact hjoins
  have hkeys : ∀ k' ∈ p.keys (PoolId.ofAddress log.address) ctx.chain, k' = k ∨ k' = k.reverse := by
    intro k' hk'
    simp only [Pool.keys, List.mem_cons, List.not_mem_nil, or_false] at hkey hk'
    obtain rfl | rfl := hkey <;> obtain rfl | rfl := hk' <;> simp [EdgeKey.reverse]
  -- the opposite direction is of the same kind, so that it does not refuse the log either
  have hrevise : ∀ entry ∈ (p.keys (PoolId.ofAddress log.address) ctx.chain).filterMap
      (fun key => (g.edge? key).map (key, ·)), ∃ b, revise log ctx entry = .ok b := by
    rintro ⟨k', e₀⟩ hentry
    obtain ⟨hk', he₀⟩ := mem_stored.mp hentry
    obtain rfl | rfl := hkeys k' hk'
    · obtain rfl : e₀ = e := Option.some.inj (he₀.symm.trans he)
      exact ⟨some ⟨_, e', o⟩, revise_eq_some.mpr ⟨hupdate, rfl⟩⟩
    · have htwins := htwinned.twins k e e₀ he he₀ (h.state k e he) (h.state _ e₀ he₀)
      obtain ⟨e₁, o₁, hupdate₁, -⟩ := Edge.state?_update htwins.state hupdate
      exact ⟨some ⟨_, e₁, o₁⟩, revise_eq_some.mpr ⟨hupdate₁, rfl⟩⟩
  obtain ⟨bs, hbs⟩ := exists_mapM_ok hrevise
  have hrevised : g.revised log ctx = .ok (bs.filterMap id) := by
    rw [revised, directions, hp]
    change (do return (← List.mapM (revise log ctx) _).filterMap id) = _
    rw [hbs]
    rfl
  have haffects : g.affects k (log, ctx) :=
    affects_eq_true.mpr ⟨_, hrevised, _, mem_revised_of_update hrevised hp hkey he hupdate, rfl⟩
  have happly := applyLog_eq g log ctx
  rw [hrevised] at happly
  refine ⟨_, _, happly, ?_⟩
  have hdispatch := dispatch_eq_mapEdges g (log, ctx)
  simp only [Graph.dispatch, happly, Except.map] at hdispatch
  change (g.commit (bs.filterMap id)).edge? k = _
  rw [hdispatch, edge?_mapEdges, he, Option.map_some, if_pos haffects, Edge.after, hupdate]

end Graph

end LiquidityGraph
