import LiquidityGraph.Graph.Basic
import Mathlib.Data.List.Induction
import Mathlib.Tactic.SplitIfs

/-!
States built up entry by entry, as a graph is from the maps of a discovery or the lists of a
backup. What is found under a key in the end is the entry with that key, or what was there.
-/
namespace LiquidityGraph

open Std (ExtTreeMap)

variable {σ κ ν : Type} [DecidableEq κ] (get : σ → κ → Option ν) (set : σ → κ × ν → σ)

theorem lookup_eq_of_mem_iff {entries : List (κ × ν)} {k : κ} {o : Option ν}
    (h : ∀ v, (k, v) ∈ entries ↔ o = some v) : entries.lookup k = o := by
  cases hfound : entries.lookup k with
  | none =>
    rw [List.lookup_eq_none_iff] at hfound
    cases ho : o with
    | none => rfl
    | some v => simpa using hfound _ ((h v).mpr ho)
  | some v =>
    obtain ⟨before, after, rfl, -⟩ := List.lookup_eq_some_iff.mp hfound
    exact ((h v).mp (by simp)).symm

theorem lookup_cons (x : κ × ν) (entries : List (κ × ν)) (k : κ) :
    (x :: entries).lookup k = if x.1 = k then some x.2 else entries.lookup k := by
  obtain ⟨key, v⟩ := x
  rw [List.lookup_cons]
  by_cases hk : key = k
  · simp [hk]
  · have hne : (k == key) = false := by simpa using Ne.symm hk
    simp [hk, hne]

/-- What no step changes. -/
theorem foldl_frame {α β : Type} (step : σ → α → σ) (part : σ → β)
    (hstep : ∀ s a, part (step s a) = part s) (as : List α) (s : σ) :
    part (as.foldl step s) = part s := by
  induction as generalizing s with
  | nil => rfl
  | cons a as ih => rw [List.foldl_cons, ih, hstep]

/-- Entries that replace what is there: the last one counts. -/
theorem foldl_set (hset : ∀ s x k, get (set s x) k = if x.1 = k then some x.2 else get s k)
    (entries : List (κ × ν)) (s : σ) (k : κ) :
    get (entries.foldl set s) k = (entries.reverse.lookup k).or (get s k) := by
  induction entries using List.reverseRecOn with
  | nil => rfl
  | append_singleton entries x ih =>
    rw [List.foldl_append, List.foldl_cons, List.foldl_nil, hset, ih, List.reverse_append,
      List.reverse_singleton, List.singleton_append, lookup_cons]
    split_ifs <;> rfl

/-- Entries that leave what is there: the first one counts. -/
theorem foldl_keep
    (hset : ∀ s x k, get (set s x) k = (get s k).or (if x.1 = k then some x.2 else none))
    (entries : List (κ × ν)) (s : σ) (k : κ) :
    get (entries.foldl set s) k = (get s k).or (entries.lookup k) := by
  induction entries generalizing s with
  | nil => simp
  | cons x entries ih =>
    rw [List.foldl_cons, ih, hset, Option.or_assoc, lookup_cons]
    split_ifs <;> rfl

section Map

private theorem values_eq {κ ν : Type} [Ord κ] [Std.TransOrd κ] (m : ExtTreeMap κ ν) :
    m.values = m.toList.map (·.2) := by
  have hfold : m.values = m.foldr (fun _ v l => v :: l) [] := by
    obtain ⟨m⟩ := m
    induction m using Std.ExtDTreeMap.inductionOn with
    | mk m => rfl
  rw [hfold, ExtTreeMap.foldr_eq_foldr_toList]
  induction m.toList with
  | nil => rfl
  | cons x l ih => rw [List.foldr_cons, ih, List.map_cons]

variable [Ord κ] [Std.TransOrd κ] [Std.LawfulEqOrd κ]

omit [DecidableEq κ] in
theorem mem_values {m : ExtTreeMap κ ν} {v : ν} : v ∈ m.values ↔ ∃ k : κ, m[k]? = some v := by
  simp [values_eq]

@[simp] theorem lookup_toList (m : ExtTreeMap κ ν) (k : κ) : m.toList.lookup k = m[k]? :=
  lookup_eq_of_mem_iff fun _ => ExtTreeMap.mem_toList_iff_getElem?_eq_some

@[simp] theorem lookup_reverse_toList (m : ExtTreeMap κ ν) (k : κ) :
    m.toList.reverse.lookup k = m[k]? := by
  refine lookup_eq_of_mem_iff fun v => ?_
  rw [List.mem_reverse]
  exact ExtTreeMap.mem_toList_iff_getElem?_eq_some

@[simp] theorem getElem?_foldl_insert (entries : List (κ × ν)) (m : ExtTreeMap κ ν) (k : κ) :
    (entries.foldl (fun m x => m.insert x.1 x.2) m)[k]? =
      (entries.reverse.lookup k).or m[k]? := by
  refine foldl_set (fun (m : ExtTreeMap κ ν) k => m[k]?) (fun m x => m.insert x.1 x.2) ?_ entries m k
  intro m x k
  simp only [ExtTreeMap.getElem?_insert, Std.LawfulEqCmp.compare_eq_iff_eq]

@[simp] theorem getElem?_foldl_insertIfNew (entries : List (κ × ν)) (m : ExtTreeMap κ ν) (k : κ) :
    (entries.foldl (fun m x => m.insertIfNew x.1 x.2) m)[k]? = m[k]?.or (entries.lookup k) := by
  refine foldl_keep (fun (m : ExtTreeMap κ ν) k => m[k]?) (fun m x => m.insertIfNew x.1 x.2) ?_
    entries m k
  intro m x k
  simp only [ExtTreeMap.getElem?_insertIfNew, Std.LawfulEqCmp.compare_eq_iff_eq]
  by_cases hk : x.1 = k
  · subst hk
    cases hm : m[x.1]? with
    | none => simp [ExtTreeMap.mem_iff_isSome_getElem?, hm]
    | some v => simp [ExtTreeMap.mem_iff_isSome_getElem?, hm]
  · simp [hk]

end Map

end LiquidityGraph
