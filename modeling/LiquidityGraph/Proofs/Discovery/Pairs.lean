import LiquidityGraph.Discovery.Pairs
import Mathlib.Data.Finset.Dedup
import Mathlib.Data.Finset.Card
import Mathlib.Data.List.Pairwise
import Mathlib.Data.Nat.Choose.Basic

/-!
Completeness of the pairs among which pools are looked for. Two different tokens of a list are
paired once, the one that appears first in front, in the order in which the tokens appear.
-/
namespace LiquidityGraph.Discovery

variable {α : Type}

section Distinct

variable [DecidableEq α]

theorem distinct_filter (p : α → Bool) (as : List α) :
    distinct (as.filter p) = (distinct as).filter p := by
  induction as with
  | nil => rfl
  | cons a as ih =>
    by_cases ha : p a
    · rw [List.filter_cons_of_pos ha, distinct, distinct, List.filter_cons_of_pos ha, ih,
        List.filter_filter, List.filter_filter]
      simp only [Bool.and_comm]
    · have hkeep : ∀ b ∈ distinct as, p b = (p b && decide (b ≠ a)) := by
        intro b _
        by_cases hba : b = a
        · simp [hba, ha]
        · simp [hba]
      rw [List.filter_cons_of_neg ha, distinct, List.filter_cons_of_neg ha, ih, List.filter_filter]
      exact List.filter_congr hkeep

/-- The same list is built by one pass that looks for each element among those kept before. -/
theorem distinct_eq_eraseDups : ∀ as : List α, distinct as = as.eraseDups
  | [] => rfl
  | a :: as => by
    have hrest := distinct_eq_eraseDups (as.filter (· ≠ a))
    rw [distinct, ← distinct_filter, hrest, List.eraseDups_cons]
    simp only [ne_eq, decide_not, beq_eq_decide]
termination_by as => as.length
decreasing_by exact Nat.lt_succ_of_le (List.length_filter_le _ as)

@[simp] theorem mem_distinct {as : List α} {a : α} : a ∈ distinct as ↔ a ∈ as := by
  rw [distinct_eq_eraseDups, List.mem_eraseDups]

theorem distinct_repeated {xs rs : List α} (h : rs ⊆ xs) (ys : List α) :
    distinct (xs ++ rs ++ ys) = distinct (xs ++ ys) := by
  have hnone : rs.removeAll xs = [] := by
    simpa [List.removeAll, List.filter_eq_nil_iff] using fun r hr => h hr
  have hrest : ys.removeAll (xs ++ rs) = ys.removeAll xs := by
    refine List.filter_congr fun y _ => ?_
    have hmem : y ∈ xs ++ rs ↔ y ∈ xs := by
      rw [List.mem_append]
      exact or_iff_left_of_imp (@h y)
    simp only [List.elem_eq_mem, hmem]
  simp only [distinct_eq_eraseDups, List.eraseDups_append, hnone, hrest, List.eraseDups_nil,
    List.append_nil]

def AppearsBefore (as : List α) (a b : α) : Prop := as.idxOf a < as.idxOf b

instance (as : List α) : Std.Irrefl (AppearsBefore as) := ⟨fun a => Nat.lt_irrefl (as.idxOf a)⟩

theorem AppearsBefore.head {a b : α} (h : b ≠ a) (as : List α) :
    AppearsBefore (a :: as) a b := by
  rw [AppearsBefore, List.idxOf_cons_self, List.idxOf_cons_ne as h.symm]
  exact Nat.succ_pos _

theorem AppearsBefore.cons {as : List α} {a b c : α} (hb : b ≠ a) (hc : c ≠ a)
    (h : AppearsBefore as b c) : AppearsBefore (a :: as) b c := by
  rw [AppearsBefore, List.idxOf_cons_ne as hb.symm, List.idxOf_cons_ne as hc.symm]
  exact Nat.succ_lt_succ h

theorem distinct_pairwise (as : List α) : (distinct as).Pairwise (AppearsBefore as) := by
  induction as with
  | nil => exact .nil
  | cons a as ih =>
    have hne : ∀ b ∈ (distinct as).filter (· ≠ a), b ≠ a := fun b hb =>
      of_decide_eq_true (List.mem_filter.mp hb).2
    refine .cons (fun b hb => .head (hne b hb) as) ?_
    exact (ih.filter _).imp_of_mem fun hb hc => AppearsBefore.cons (hne _ hb) (hne _ hc)

@[simp] theorem length_distinct (as : List α) : (distinct as).length = as.toFinset.card := by
  have hnodup : (distinct as).Nodup := (distinct_pairwise as).imp ne_of_irrefl
  rw [← List.toFinset_card_of_nodup hnodup, List.toFinset.ext fun _ => mem_distinct]

end Distinct

@[simp] theorem mem_pairsOf {as : List α} {a b : α} : (a, b) ∈ pairsOf as ↔ [a, b].Sublist as := by
  induction as with
  | nil => simp [pairsOf]
  | cons c as ih =>
    rw [pairsOf, List.mem_append, ih, List.sublist_cons_iff]
    simp [and_comm, eq_comm, or_comm]

theorem pairsOf_covers {as : List α} {a b : α} (ha : a ∈ as) (hb : b ∈ as) (h : a ≠ b) :
    (a, b) ∈ pairsOf as ∨ (b, a) ∈ pairsOf as := by
  simp only [mem_pairsOf]
  induction as with
  | nil => cases ha
  | cons c as ih =>
    cases ha with
    | head =>
      have hbehind : b ∈ as := List.mem_of_ne_of_mem h.symm hb
      exact .inl (.cons_cons a (List.singleton_sublist.mpr hbehind))
    | tail _ ha =>
      cases hb with
      | head => exact .inr (.cons_cons b (List.singleton_sublist.mpr ha))
      | tail _ hb => exact (ih ha hb).imp (.cons c) (.cons c)

@[simp] theorem length_pairsOf (as : List α) : (pairsOf as).length = as.length.choose 2 := by
  induction as with
  | nil => rfl
  | cons a as ih =>
    rw [pairsOf, List.length_append, List.length_map, ih, List.length_cons, Nat.choose_succ_succ,
      Nat.choose_one_right]

/-- The pairs of a list that is ordered are ordered by their first elements, then by their
second. -/
theorem pairsOf_pairwise {r : α → α → Prop} {as : List α} (h : as.Pairwise r) :
    (pairsOf as).Pairwise (Prod.Lex r r) := by
  induction h with
  | nil => exact .nil
  | @cons a as ha has ih =>
    rw [pairsOf, List.pairwise_append, List.pairwise_map]
    refine ⟨has.imp (Prod.Lex.right a), ih, ?_⟩
    intro p hp q hq
    obtain ⟨b, -, rfl⟩ := List.mem_map.mp hp
    have hfirst : q.1 ∈ as := (mem_pairsOf.mp hq).subset List.mem_cons_self
    exact .left _ _ (ha _ hfirst)

theorem appearsBefore_of_mem {ts : List TokenId} {a b : TokenId} (h : (a, b) ∈ tokenPairs ts) :
    AppearsBefore ts a b :=
  (distinct_pairwise ts).forall_sublist (mem_pairsOf.mp h)

private theorem not_mem_swap {ts : List TokenId} {a b : TokenId} (h : (a, b) ∈ tokenPairs ts) :
    (b, a) ∉ tokenPairs ts := fun hswap =>
  Nat.lt_asymm (appearsBefore_of_mem h) (appearsBefore_of_mem hswap)

theorem tokenPairs_covers {ts : List TokenId} {a b : TokenId} (ha : a ∈ ts) (hb : b ∈ ts)
    (h : a ≠ b) : (a, b) ∈ tokenPairs ts ∨ (b, a) ∈ tokenPairs ts :=
  pairsOf_covers (mem_distinct.mpr ha) (mem_distinct.mpr hb) h

theorem mem_tokenPairs {ts : List TokenId} {a b : TokenId} :
    (a, b) ∈ tokenPairs ts ↔ a ∈ ts ∧ b ∈ ts ∧ AppearsBefore ts a b := by
  constructor
  · intro h
    have hsub : [a, b] ⊆ distinct ts := (mem_pairsOf.mp h).subset
    have ha : a ∈ distinct ts := hsub (by simp)
    have hb : b ∈ distinct ts := hsub (by simp)
    exact ⟨mem_distinct.mp ha, mem_distinct.mp hb, appearsBefore_of_mem h⟩
  · rintro ⟨ha, hb, hbefore⟩
    obtain h | h := tokenPairs_covers ha hb (ne_of_irrefl hbefore)
    · exact h
    · exact absurd hbefore (Nat.lt_asymm (appearsBefore_of_mem h))

theorem tokenPairs_pairwise (ts : List TokenId) :
    (tokenPairs ts).Pairwise (Prod.Lex (AppearsBefore ts) (AppearsBefore ts)) :=
  pairsOf_pairwise (distinct_pairwise ts)

/-- Two different tokens are paired once, in one of the two orders. -/
theorem count_tokenPairs (ts : List TokenId) (a b : TokenId) :
    (tokenPairs ts).count (a, b) + (tokenPairs ts).count (b, a) =
      if a ∈ ts ∧ b ∈ ts ∧ a ≠ b then 1 else 0 := by
  have hnodup : (tokenPairs ts).Nodup := (tokenPairs_pairwise ts).imp ne_of_irrefl
  rw [hnodup.count, hnodup.count]
  by_cases hpair : a ∈ ts ∧ b ∈ ts ∧ a ≠ b
  · rw [if_pos hpair]
    obtain ⟨ha, hb, hne⟩ := hpair
    obtain h | h := tokenPairs_covers ha hb hne
    · rw [if_pos h, if_neg (not_mem_swap h)]
    · rw [if_pos h, if_neg (not_mem_swap h)]
  · have hab : (a, b) ∉ tokenPairs ts := fun h =>
      have ⟨ha, hb, hbefore⟩ := mem_tokenPairs.mp h
      hpair ⟨ha, hb, ne_of_irrefl hbefore⟩
    have hba : (b, a) ∉ tokenPairs ts := fun h =>
      have ⟨hb, ha, hbefore⟩ := mem_tokenPairs.mp h
      hpair ⟨ha, hb, (ne_of_irrefl hbefore).symm⟩
    rw [if_neg hab, if_neg hba, if_neg hpair]

/-- Every two different tokens of a list make one pair and no others do. The token that appears
first stands in front, pairs are ordered by where their first and then where their second tokens
appear, and tokens that are repeated behind their first appearance change nothing. -/
theorem tokenPairs_enumerates (ts : List TokenId) :
    (∀ a b, (tokenPairs ts).count (a, b) + (tokenPairs ts).count (b, a) =
      if a ∈ ts ∧ b ∈ ts ∧ a ≠ b then 1 else 0) ∧
    (∀ a b, (a, b) ∈ tokenPairs ts ↔ a ∈ ts ∧ b ∈ ts ∧ AppearsBefore ts a b) ∧
    (tokenPairs ts).Pairwise (Prod.Lex (AppearsBefore ts) (AppearsBefore ts)) ∧
    (tokenPairs ts).length = ts.toFinset.card * (ts.toFinset.card - 1) / 2 ∧
    ∀ xs rs ys, ts = xs ++ ys → rs ⊆ xs → tokenPairs (xs ++ rs ++ ys) = tokenPairs ts := by
  refine ⟨count_tokenPairs ts, fun a b => mem_tokenPairs, tokenPairs_pairwise ts, ?_, ?_⟩
  · rw [tokenPairs, length_pairsOf, length_distinct, Nat.choose_two_right]
  · rintro xs rs ys rfl hrs
    rw [tokenPairs, distinct_repeated hrs, tokenPairs]

/-- Tokens repeated between their first appearance and a new token, and once more at the end. -/
theorem tokenPairs_enumerates_repeated :
    let a : TokenId := ⟨"A"⟩
    let b : TokenId := ⟨"B"⟩
    let c : TokenId := ⟨"C"⟩
    [a, b, c, a] = [a, b] ++ [c, a] ∧ [b, a] ⊆ [a, b] ∧
      tokenPairs ([a, b] ++ [b, a] ++ [c, a]) = tokenPairs [a, b, c, a] ∧
      tokenPairs [a, b, c, a] = [(a, b), (a, c), (b, c)] := by
  intro a b c
  have hsplit : [a, b, c, a] = [a, b] ++ [c, a] := rfl
  have hrepeated : [b, a] ⊆ [a, b] := by decide
  obtain ⟨-, -, -, -, hsame⟩ := tokenPairs_enumerates [a, b, c, a]
  exact ⟨hsplit, hrepeated, hsame [a, b] [b, a] [c, a] hsplit hrepeated, by decide⟩

end LiquidityGraph.Discovery
