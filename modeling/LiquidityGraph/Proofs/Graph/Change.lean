import LiquidityGraph.Proofs.Backup.Rebuild
import LiquidityGraph.Proofs.Discovery.Directions

/-!
What is done to a graph while the program runs, and what holds however that is mixed: an edge
leads from the source to the target of its key, and the two directions of a pool agree.
-/
namespace LiquidityGraph

namespace Edge

section Rebuilt

variable {e e' e₁ e₁' : Edge} {ticks : Option TickList}

private theorem ends_ofSnapshot (h : ofSnapshot e.snapshot ticks = .ok e₁) :
    e₁.tokenIn = e.tokenIn ∧ e₁.tokenOut = e.tokenOut ∧ e₁.zeroForOne? = e.zeroForOne? ∧
      e₁.state?.isSome = e.state?.isSome := by
  obtain ⟨rfl, -⟩ | ⟨c, l, rfl, -, rfl⟩ := ofSnapshot_eq_ok h
  · exact ⟨rfl, rfl, rfl, rfl⟩
  · exact ⟨rfl, rfl, rfl, rfl⟩

/-- Both directions are rebuilt over the same ticks, those stored for the pool. -/
theorem state?_ofSnapshot (hstate : e.state? = e'.state?)
    (h : ofSnapshot e.snapshot ticks = .ok e₁) (h' : ofSnapshot e'.snapshot ticks = .ok e₁') :
    e₁.state? = e₁'.state? := by
  obtain ⟨rfl, hplain⟩ | ⟨c, l, rfl, hl, rfl⟩ := ofSnapshot_eq_ok h
  · obtain ⟨rfl, -⟩ | ⟨c', l', rfl, -, -⟩ := ofSnapshot_eq_ok h'
    · exact hstate
    · cases e₁ with
      | constantProduct e => cases hstate
      | bridge e => cases hstate
      | concentrated e => exact absurd rfl (hplain e)
  · obtain ⟨rfl, hplain⟩ | ⟨c', l', rfl, hl', rfl⟩ := ofSnapshot_eq_ok h'
    · cases e₁' with
      | constantProduct e => cases hstate
      | bridge e => cases hstate
      | concentrated e => exact absurd rfl (hplain e)
    · simp only [state?, Option.some.injEq, PoolState.range.injEq] at hstate ⊢
      obtain ⟨hfee, hprice, hliquidity, htick, -⟩ := hstate
      have hsame : ticksFor c.state ticks = ticksFor c'.state ticks :=
        ticksFor_congr hfee hliquidity ticks
      exact ⟨hfee, hprice, hliquidity, htick, Except.ok.inj ((hl.symm.trans hsame).trans hl')⟩

end Rebuilt

end Edge

theorem Graph.Twinned.toGraph {g g' : Graph} (h : g.Twinned) {b : Backup}
    (hb : b.Reorders (.ofGraph g)) (hg : b.toGraph = .ok g') : g'.Twinned := by
  constructor
  · intro k e₁ he₁
    obtain ⟨e, he, hrebuilt⟩ := hb.edge?_toGraph hg he₁
    obtain ⟨hin, hout, -, -⟩ := Edge.ends_ofSnapshot hrebuilt
    rw [hin, hout]
    exact h.ends k e he
  · intro k e₁ e₁' he₁ he₁' hsome hsome'
    obtain ⟨e, he, hrebuilt⟩ := hb.edge?_toGraph hg he₁
    obtain ⟨e', he', hrebuilt'⟩ := hb.edge?_toGraph hg he₁'
    obtain ⟨-, -, hdirection, hstate⟩ := Edge.ends_ofSnapshot hrebuilt
    obtain ⟨-, -, hdirection', hstate'⟩ := Edge.ends_ofSnapshot hrebuilt'
    have htwins := h.twins k e e' he he' (hstate ▸ hsome) (hstate' ▸ hsome')
    refine ⟨Edge.state?_ofSnapshot htwins.state hrebuilt hrebuilt', ?_⟩
    rw [hdirection, hdirection']
    exact htwins.opposed

inductive Change where
  | install (found : List FoundPool)
  | bridge (links : List BridgeLink)
  | log (delivery : Delivery)
  | deleteEdge (a b : TokenId) (pool : PoolId)
  | deletePool (pool : PoolId)
  | setPoolFee (pool : PoolId) (fee : Nat)

/-- The graph after a change, which is the same when the change is refused. -/
def Change.apply (g : Graph) : Change → Graph
  | .install found => (Findings.ofList found).install g
  | .bridge links => g.addBridges links
  | .log d => (g.dispatch d.1 d.2).1
  | .deleteEdge a b pool => (g.deleteEdge a b pool).2
  | .deletePool pool =>
    match g.deletePool pool with
    | .ok (_, g) => g
    | .error _ => g
  | .setPoolFee pool fee => g.setPoolFee pool fee

namespace Graph

def run (g : Graph) (changes : List Change) : Graph := changes.foldl Change.apply g

theorem Twinned.apply {g : Graph} (h : g.Twinned) (change : Change) : (change.apply g).Twinned := by
  cases change with
  | install found => exact h.install (Findings.records_ofList found)
  | bridge links => exact h.addBridges links
  | log d => exact h.dispatch d
  | deleteEdge a b pool =>
    refine h.of_subset fun k e he => ?_
    change (g.deleteEdge a b pool).2.edge? k = some e at he
    rw [edge?_deleteEdge] at he
    split_ifs at he
    exact he
  | deletePool pool =>
    simp only [Change.apply]
    split
    · rename_i p g' hdelete
      refine h.of_subset fun k e he => ?_
      rw [(deletePool_eq_ok hdelete).2.edges] at he
      split_ifs at he
      exact he
    · exact h
  | setPoolFee pool fee => exact h.of_subset fun k e he => he

theorem Twinned.run {g : Graph} (h : g.Twinned) (changes : List Change) :
    (g.run changes).Twinned := by
  induction changes generalizing g with
  | nil => exact h
  | cons change changes ih => exact ih (h.apply change)

/-- The graphs that an empty one becomes by changes, and by the restoration of backups that were
taken of such graphs at any time. -/
inductive Reached (fee : Nat) : Graph → Prop where
  | empty : Reached fee (.empty fee)
  | change {g : Graph} (change : Change) : Reached fee g → Reached fee (change.apply g)
  | restore {g saved : Graph} {b : Backup} : Reached fee saved → b.Reorders (.ofGraph saved) →
    Reached fee g → Reached fee (b.restore.run.run g).2

theorem Reached.run {fee : Nat} {g : Graph} (h : Reached fee g) (changes : List Change) :
    Reached fee (g.run changes) := by
  induction changes generalizing g with
  | nil => exact h
  | cons change changes ih => exact ih (.change change h)

theorem Reached.twinned {fee : Nat} {g : Graph} (h : Reached fee g) : g.Twinned := by
  induction h with
  | empty => exact .empty fee
  | change change _ ih => exact ih.apply change
  | @restore g saved b _ hb _ hsaved ih =>
    cases hrebuilt : b.toGraph with
    | error cause =>
      rw [Backup.restore_of_error hrebuilt]
      exact ih
    | ok g' =>
      rw [Backup.restore_of_ok hrebuilt]
      exact hsaved.toGraph hb hrebuilt

/-- Whatever is done to an empty graph, an edge leads from the source to the target of its key, and
the two directions of a pool hold the same state of it and are opposed to each other. -/
theorem reached_directions {fee : Nat} {g : Graph} (hg : Reached fee g) {k : EdgeKey} {e : Edge}
    (he : g.edge? k = some e) :
    (e.tokenIn = k.source ∧ e.tokenOut = k.target) ∧
    ∀ e', g.edge? k.reverse = some e' → e.state?.isSome → e'.state?.isSome →
      e.state? = e'.state? ∧
        (k.source ≠ k.target → k.source.Apart k.target → e.zeroForOne? ≠ e'.zeroForOne?) := by
  refine ⟨hg.twinned.ends k e he, fun e' he' hsome hsome' => ?_⟩
  have htwins := hg.twinned.twins k e e' he he' hsome hsome'
  exact ⟨htwins.state, htwins.opposed⟩

end Graph

/-- A pool is found, and its fee is set. -/
def onePool : List Change :=
  [.install [.concentrated ⟨⟨"A"⟩, ⟨"B"⟩, ⟨"P"⟩, "factory", ⟨"coqnet"⟩⟩ 3000 Price.q96 0 5 60 []],
    .setPoolFee ⟨"P"⟩ 7]

/-- The pool is deleted, and comes back with a backup. -/
def revived : Graph :=
  let saved := (Graph.empty 0).run onePool
  ((Backup.ofGraph saved).restore.run.run (saved.run [.deletePool ⟨"P"⟩])).2

def restored (zeroForOne : Bool) : Concentrated :=
  ⟨⟨"A"⟩, ⟨"B"⟩, 3000, Price.q96, 0, 5, ⟨60, []⟩, zeroForOne, none⟩

private theorem edge?_revived :
    revived.edge? ⟨⟨"B"⟩, ⟨"A"⟩, ⟨"P"⟩, ⟨"coqnet"⟩⟩ = some (.concentrated (restored false)) ∧
      revived.edge? ⟨⟨"A"⟩, ⟨"B"⟩, ⟨"P"⟩, ⟨"coqnet"⟩⟩ = some (.concentrated (restored true)) := by
  decide +kernel

theorem reached_directions_revived :
    let key : EdgeKey := ⟨⟨"B"⟩, ⟨"A"⟩, ⟨"P"⟩, ⟨"coqnet"⟩⟩
    let backward : Edge := .concentrated (restored false)
    let forward : Edge := .concentrated (restored true)
    Graph.Reached 0 revived ∧ revived.edge? key = some backward ∧
      revived.edge? key.reverse = some forward ∧
      (backward.tokenIn = key.source ∧ backward.tokenOut = key.target) ∧
      backward.state? = forward.state? ∧
      (key.source.Apart key.target → backward.zeroForOne? ≠ forward.zeroForOne?) := by
  intro key backward forward
  have hsaved : Graph.Reached 0 ((Graph.empty 0).run onePool) := Graph.Reached.empty.run onePool
  have hreached : Graph.Reached 0 revived := by
    rw [revived]
    exact .restore hsaved ⟨rfl, .refl _, .refl _, .refl _, .refl _⟩ (hsaved.run [.deletePool ⟨"P"⟩])
  obtain ⟨hbackward, hforward⟩ := edge?_revived
  obtain ⟨hends, htwins⟩ := Graph.reached_directions hreached hbackward
  obtain ⟨hstate, hopposed⟩ := htwins forward hforward rfl rfl
  exact ⟨hreached, hbackward, hforward, hends, hstate, hopposed (by decide)⟩

end LiquidityGraph
