import LiquidityGraph.Proofs.Route.Search
import Mathlib.Data.List.Chain
import Mathlib.Data.List.Nodup
import Mathlib.Data.List.Perm.Subperm

/-! Reading a route back from the labels of a search: what it finds, and where it stops. -/
namespace LiquidityGraph.Search

open Std (ExtTreeMap)

/-- Labels in a row that lead to `dest`. They enter no token twice, and never the source. -/
structure Trail (labels : ExtTreeMap TokenId Hop) (source dest : TokenId) (path : List Hop) :
    Prop where
  linked : path.IsChain fun h h' => h.tokenOut = h'.tokenIn
  ends : ∀ h ∈ path.getLast?, h.tokenOut = dest
  fresh : (source :: path.map (·.tokenOut)).Nodup
  label : ∀ h ∈ path, labels[h.tokenOut]? = some h

def firstToken (dest : TokenId) (path : List Hop) : TokenId :=
  (path.head?.map (·.tokenIn)).getD dest

/-- Nothing can be put in front of a path: it starts at the source, at a token that it leads to
itself, or at one without a label. -/
def Stuck (labels : ExtTreeMap TokenId Hop) (source dest : TokenId) (path : List Hop) : Prop :=
  firstToken dest path = source ∨ firstToken dest path ∈ path.map (·.tokenOut) ∨
    labels[firstToken dest path]? = none

variable {labels : ExtTreeMap TokenId Hop} {source dest : TokenId} {path : List Hop}

theorem Trail.nil : Trail labels source dest [] :=
  ⟨.nil, by simp, by simp, by simp⟩

theorem Trail.cons (h : Trail labels source dest path) {hop : Hop}
    (hs : firstToken dest path ≠ source) (hv : firstToken dest path ∉ path.map (·.tokenOut))
    (hl : labels[firstToken dest path]? = some hop)
    (hout : hop.tokenOut = firstToken dest path) : Trail labels source dest (hop :: path) where
  linked := by
    refine h.linked.cons fun next hnext => ?_
    rw [hout, firstToken, hnext]
    rfl
  ends := by
    cases path with
    | nil => simpa [firstToken] using hout
    | cons next rest => simpa [List.getLast?_cons_cons] using h.ends
  fresh := by
    obtain ⟨hnot, hnodup⟩ := List.nodup_cons.mp h.fresh
    rw [List.map_cons, hout]
    refine List.nodup_cons.mpr ⟨?_, List.nodup_cons.mpr ⟨hv, hnodup⟩⟩
    simpa [hs.symm] using hnot
  label := by
    intro next hnext
    rcases List.mem_cons.mp hnext with rfl | hnext
    · rw [hout, hl]
    · exact h.label next hnext

theorem Trail.length_le (h : Trail labels source dest path) : path.length ≤ labels.size := by
  have hsub : path.map (·.tokenOut) ⊆ labels.keys := by
    intro t ht
    obtain ⟨hop, hmem, rfl⟩ := List.mem_map.mp ht
    rw [Std.ExtTreeMap.mem_keys, Std.ExtTreeMap.mem_iff_isSome_getElem?, h.label hop hmem]
    rfl
  have hle := (List.subperm_of_subset (List.nodup_cons.mp h.fresh).2 hsub).length_le
  rwa [List.length_map, Std.ExtTreeMap.length_keys] at hle

/-- Reading back ends with a trail to the same token that is stuck; its fuel does not run out. -/
theorem readBack_spec
    (hout : ∀ (t : TokenId) (h : Hop), labels[t]? = some h → h.tokenOut = t) (fuel : Nat)
    (h : Trail labels source dest path) (hfuel : labels.size + 1 = fuel + path.length) :
    let final := readBack labels source fuel (path.map (·.tokenOut)) (firstToken dest path) path
    Trail labels source dest final ∧ Stuck labels source dest final := by
  induction fuel generalizing path with
  | zero =>
    have := h.length_le
    omega
  | succ fuel ih =>
    dsimp only
    unfold readBack
    split
    · rename_i hstop
      exact ⟨h, hstop.imp_right Or.inl⟩
    · rename_i hgo
      obtain ⟨hs, hv⟩ := not_or.mp hgo
      split
      · rename_i hnone
        exact ⟨h, Or.inr (Or.inr hnone)⟩
      · rename_i hop hl
        have hnext := ih (h.cons hs hv hl (hout _ _ hl)) (by rw [List.length_cons]; omega)
        rw [List.map_cons, hout _ _ hl] at hnext
        exact hnext

variable {q : Query} {g : Graph}

/-- A route is a trail of final labels that nothing can be put in front of. -/
theorem Query.hops_stuck (hsd : q.source ≠ q.dest) :
    Trail (q.run g).labels q.source q.dest (q.hops g) ∧
      Stuck (q.run g).labels q.source q.dest (q.hops g) := by
  have hsound := (q.reaches_run g).sound
  have hhops : q.hops g =
      readBack (q.run g).labels q.source ((q.run g).labels.size + 1) [] q.dest [] := by
    simp [Query.hops, hsd]
  rw [hhops]
  exact readBack_spec (fun _ _ h => (hsound.priced h).1) _
    (Trail.nil : Trail _ q.source q.dest []) rfl

/-- A route is a trail of final labels. It starts at the source or at a token that it leads to. -/
theorem Query.hops_trail (hne : q.hops g ≠ []) :
    Trail (q.run g).labels q.source q.dest (q.hops g) ∧
      (firstToken q.dest (q.hops g) = q.source ∨
        firstToken q.dest (q.hops g) ∈ (q.hops g).map (·.tokenOut)) := by
  have hsound := (q.reaches_run g).sound
  have hsd : q.source ≠ q.dest := fun h => hne (by simp [Query.hops, h])
  obtain ⟨htrail, hstuck⟩ := q.hops_stuck (g := g) hsd
  refine ⟨htrail, ?_⟩
  rcases hstuck with hs | hv | hnone
  · exact Or.inl hs
  · exact Or.inr hv
  · -- the token in of a label is itself labelled, or is the source
    obtain ⟨h, rest, hcons⟩ := List.exists_cons_of_ne_nil hne
    have hfirst : firstToken q.dest (q.hops g) = h.tokenIn := by rw [hcons]; rfl
    rw [hfirst] at hnone ⊢
    obtain ⟨-, -, a, m, -, b, hb, -⟩ := hsound.priced (htrail.label h (by rw [hcons]; simp))
    rcases Query.amountAt_eq_some.mp hb with ⟨h', hl, -⟩ | ⟨-, hs, -⟩
    · rw [hnone] at hl
      cases hl
    · exact Or.inl hs

theorem Query.mapping_of_mem_hops {hop : Hop} (h : hop ∈ q.hops g) :
    hop.mapping = q.mappings hop.tokenOut hop.chain := by
  let Mapped (s : State) : Prop := ∀ (t : TokenId) (label : Hop), s.labels[t]? = some label →
    label.mapping = q.mappings label.tokenOut label.chain
  have hmapped : Mapped (q.run g) := by
    refine ((q.reaches_run g).induct (P := Mapped) (by simp [Mapped, Query.start])
      (fun hs => hs) ?_).2
    intro s token target o amount b hs _ _ _ _ t label hlabel
    obtain ⟨-, -, -, hkept⟩ | ⟨-, hset⟩ := q.labels_take token target s o
    · rw [hkept] at hlabel
      exact hs t label hlabel
    · rw [hset, ExtTreeMap.getElem?_insert] at hlabel
      split_ifs at hlabel
      · cases hlabel
        rfl
      · exact hs t label hlabel
  exact hmapped _ _ ((Query.hops_trail (List.ne_nil_of_mem h)).1.label hop h)

/-- There is no route exactly if no amount has reached the destination. -/
theorem Query.hops_eq_nil (hsd : q.source ≠ q.dest) :
    q.hops g = [] ↔ q.amountAt (q.run g) q.dest = none := by
  have hamount : q.amountAt (q.run g) q.dest = none ↔ (q.run g).labels[q.dest]? = none := by
    unfold Query.amountAt
    cases (q.run g).labels[q.dest]? with
    | none => simp [hsd.symm]
    | some h => simp
  rw [hamount]
  constructor
  · intro hnil
    have hstuck := (q.hops_stuck (g := g) hsd).2
    rw [hnil] at hstuck
    simpa [Stuck, firstToken, hsd.symm] using hstuck
  · intro hnone
    simp [Query.hops, readBack, hsd, hsd.symm, hnone]

end LiquidityGraph.Search
