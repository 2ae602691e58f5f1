import LiquidityGraph.Discovery.Findings
import LiquidityGraph.Proofs.Route.ReadBack

/-!
The shape of routes. A route is a chain of stored edges that ends at the destination; it starts at
the source unless the replacement of labels has closed a cycle.
-/
namespace LiquidityGraph.Search

/-- Hops over stored edges in a row, to `dest`. They enter no token twice, and never the source. -/
structure LinkedRoute (g : Graph) (source dest : TokenId) (hops : List Hop) : Prop where
  linked : hops.IsChain fun h h' => h.tokenOut = h'.tokenIn
  ends : ∀ h ∈ hops.getLast?, h.tokenOut = dest
  fresh : (source :: hops.map (·.tokenOut)).Nodup
  stored : ∀ h ∈ hops, ∃ edge, g.edge? h.key = some edge

/-- A linked route that starts at the source. -/
structure SimpleRoute (g : Graph) (source dest : TokenId) (hops : List Hop) : Prop
    extends LinkedRoute g source dest hops where
  starts : ∀ h ∈ hops.head?, h.tokenIn = source

variable {q : Query} {g : Graph}

theorem Trail.linkedRoute {s : State} (hs : q.Sound g s) {path : List Hop}
    (h : Trail s.labels q.source q.dest path) : LinkedRoute g q.source q.dest path where
  linked := h.linked
  ends := h.ends
  fresh := h.fresh
  stored hop hmem := by
    obtain ⟨-, -, _, _, hp, -⟩ := hs.priced (h.label hop hmem)
    obtain ⟨edge, he, -⟩ := hp.stored
    exact ⟨edge, he⟩

theorem Query.linkedRoute_hops (q : Query) (g : Graph) :
    LinkedRoute g q.source q.dest (q.hops g) := by
  by_cases hne : q.hops g = []
  · rw [hne]
    exact ⟨.nil, by simp, by simp, by simp⟩
  · exact (Query.hops_trail hne).1.linkedRoute (q.reaches_run g).sound

/-- A route that does not start at the source starts at a token that it leads to itself. -/
theorem Query.hops_source_or_cut (q : Query) (g : Graph) :
    LinkedRoute g q.source q.dest (q.hops g) ∧ ∀ first ∈ (q.hops g).head?,
      first.tokenIn = q.source ∨ ∃ h ∈ q.hops g, h.tokenOut = first.tokenIn := by
  refine ⟨q.linkedRoute_hops g, fun first hhead => ?_⟩
  have hne : q.hops g ≠ [] := fun h => by simp [h] at hhead
  have hfirst : firstToken q.dest (q.hops g) = first.tokenIn := by
    rw [firstToken, hhead]
    rfl
  have hstart := (Query.hops_trail hne).2
  rwa [hfirst, List.mem_map] at hstart

/-- Three pools, two of which exchange the same tokens at different prices. -/
def arbitrage : Graph :=
  let pool (id a b : String) : Pool := ⟨⟨a⟩, ⟨b⟩, ⟨id⟩, "factory", ⟨"avalanche"⟩⟩
  (Findings.ofList [.constantProduct (pool "P1" "A" "B") 1000000 1000000,
    .constantProduct (pool "P2" "B" "C") 1000000 2000000,
    .constantProduct (pool "P3" "B" "C") 2000000 1000000]).install (.empty 0)

/-- The profit on the way from `B` to `C` and back replaces the label of `B`: the route from `A`
to `C` is read back as far as `C` only. -/
theorem hops_arbitrage_not_simple :
    let q : Query := ⟨⟨"A"⟩, ⟨"C"⟩, 1000, fun _ _ => .none⟩
    q.source ≠ q.dest ∧ q.hops arbitrage ≠ [] ∧
      ¬ SimpleRoute arbitrage q.source q.dest (q.hops arbitrage) := by
  intro q
  have hhops : q.hops arbitrage = [⟨⟨"C"⟩, ⟨"P3"⟩, 3948, ⟨"avalanche"⟩, ⟨"B"⟩, .none⟩,
      ⟨⟨"B"⟩, ⟨"P2"⟩, 1984, ⟨"avalanche"⟩, ⟨"C"⟩, .none⟩] := by decide +kernel
  refine ⟨by decide, by rw [hhops]; decide, fun h => ?_⟩
  have hstart := h.starts
  rw [hhops] at hstart
  exact absurd (hstart _ rfl) (by decide)

end LiquidityGraph.Search
