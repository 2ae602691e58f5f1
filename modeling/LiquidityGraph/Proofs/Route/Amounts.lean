import LiquidityGraph.Proofs.Route.Shape

/-!
The amounts on a route. A hop pays what its edge quotes for the amount that its token in had when
it was priced; a token that gets more afterwards is not priced again.
-/
namespace LiquidityGraph.Search

/-- Where the amount comes from that a hop of a route was priced with. -/
structure Query.Accounted (q : Query) (g : Graph) (h : Hop) (amount : Nat) (moment : State) :
    Prop where
  priced : q.Priced g h amount moment
  carried : g.Walk q.source q.amount h.tokenIn amount
  /-- The hop before pays as much, or more if it labelled the token only after that moment. -/
  before : ∀ p ∈ q.hops g, p.tokenOut = h.tokenIn → amount ≤ p.amountOut ∧
    (moment.labels[h.tokenIn]? = some p → amount = p.amountOut)
  /-- The source has what was put in, or more if it had been labelled by that moment. -/
  source : h.tokenIn = q.source → q.amount ≤ amount ∧
    (moment.labels[q.source]? = none → amount = q.amount)

/-- All hops of a route are accounted for. -/
theorem Query.hops_accounted (q : Query) (g : Graph) :
    ∀ h ∈ q.hops g, ∃ amount moment, q.Accounted g h amount moment := by
  intro h hmem
  obtain ⟨htrail, -⟩ := Query.hops_trail (List.ne_nil_of_mem hmem)
  obtain ⟨-, -, a, m, hp, b, hb, hab⟩ := (q.reaches_run g).sound.priced (htrail.label h hmem)
  refine ⟨a, m, hp, hp.reached.sound.carried hp.amountAt, fun p hpmem hout => ?_,
    fun hsource => ?_⟩
  · have hlabel := htrail.label p hpmem
    rw [hout] at hlabel
    have hbp : b = p.amountOut := by simpa [Query.amountAt, hlabel, eq_comm] using hb
    refine ⟨hbp ▸ hab, fun hm => ?_⟩
    simpa [Query.amountAt, hm, eq_comm] using hp.amountAt
  · have ha := hp.amountAt
    rw [hsource] at ha
    obtain ⟨c, hc, hle⟩ := hp.reached.sound.source
    cases ha.symm.trans hc
    refine ⟨hle, fun hm => ?_⟩
    simpa [Query.amountAt, hm, eq_comm] using ha

/-- Two ways from `A` to `B`, the better of them by way of `C`. -/
def detour : Graph :=
  let pool (id a b : String) : Pool := ⟨⟨a⟩, ⟨b⟩, ⟨id⟩, "factory", ⟨"avalanche"⟩⟩
  (Findings.ofList [.constantProduct (pool "P1" "A" "B") 2000000 1000000,
    .constantProduct (pool "P2" "A" "C") 1000000 1000000,
    .constantProduct (pool "P3" "B" "C") 1000000 1000000,
    .constantProduct (pool "P4" "B" "C") 1000000 1000000,
    .constantProduct (pool "P5" "B" "D") 1000000 1000000]).install (.empty 0)

def detourQuery : Query := ⟨⟨"A"⟩, ⟨"D"⟩, 1000, fun _ _ => .none⟩

private theorem hops_detour : detourQuery.hops detour =
    [⟨⟨"A"⟩, ⟨"P2"⟩, 996, ⟨"avalanche"⟩, ⟨"C"⟩, .none⟩,
      ⟨⟨"C"⟩, ⟨"P4"⟩, 992, ⟨"avalanche"⟩, ⟨"B"⟩, .none⟩,
      ⟨⟨"B"⟩, ⟨"P5"⟩, 496, ⟨"avalanche"⟩, ⟨"D"⟩, .none⟩] := by decide +kernel

theorem hops_accounted_detour :
    let h : Hop := ⟨⟨"B"⟩, ⟨"P5"⟩, 496, ⟨"avalanche"⟩, ⟨"D"⟩, .none⟩
    h ∈ detourQuery.hops detour ∧
      ∃ amount moment, detourQuery.Accounted detour h amount moment := by
  intro h
  have hmem : h ∈ detourQuery.hops detour := by
    rw [hops_detour]
    decide
  exact ⟨hmem, detourQuery.hops_accounted detour h hmem⟩

/-- `D` is labelled from the first amount of `B` and keeps that label when `B` gets more: the
last hop pays 988 and is reported with 496. -/
theorem hops_detour_not_fed : detourQuery.source ≠ detourQuery.dest ∧
    SimpleRoute detour detourQuery.source detourQuery.dest (detourQuery.hops detour) ∧
    detour.feed detourQuery.amount (detourQuery.hops detour) ≠
      some ((detourQuery.hops detour).map (·.amountOut)) := by
  have hfeed : detour.feed detourQuery.amount (detourQuery.hops detour) = some [996, 992, 988] := by
    rw [hops_detour]
    decide +kernel
  refine ⟨by decide, ⟨detourQuery.linkedRoute_hops detour, ?_⟩, ?_⟩
  · rw [hops_detour]
    rintro h ⟨⟩
    rfl
  · rw [hfeed, hops_detour]
    decide

end LiquidityGraph.Search
