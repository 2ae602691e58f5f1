import LiquidityGraph.Proofs.Except
import LiquidityGraph.Store.Access

/-!
Calls of a store, each performed or refused. What a computation that makes several of them does to
the store is put together from what each of them does.
-/
namespace LiquidityGraph

variable {σ ε α β : Type} {view : σ → Store}

/-- A call performs an operation of the store that stands behind it, or it fails: then the store is
as before, or the operation was performed all the same. -/
def Performs (view : σ → Store) (call : ExceptT ε (StateM σ) α) (f : Store → α × Store) : Prop :=
  ∀ s, match call.run.run s with
    | (.ok a, s') => (a, view s') = f (view s)
    | (.error _, s') => view s' = view s ∨ view s' = (f (view s)).2

theorem Connection.run_call (op : StoreOp) (f : Store → α × Store) (c : Connection) :
    (call op f).run.run c =
      if c.outages op = 0 then (.ok (f c.store).1, { c with store := (f c.store).2 })
      else (.error .down, c.retry op) := by
  change (if c.outages op = 0 then _ else _) = _
  rfl

/-- A connection performs calls, or refuses them and leaves its store alone. -/
theorem Connection.performs_call (op : StoreOp) (f : Store → α × Store) :
    Performs Connection.store (call op f) f := by
  intro c
  rw [run_call]
  by_cases hup : c.outages op = 0
  · rw [if_pos hup]
  · rw [if_neg hup]
    exact .inl rfl

def Computes (view : σ → Store) (x : ExceptT ε (StateM σ) α) (f : Store → α × Store) : Prop :=
  ∀ s a s', x.run.run s = (.ok a, s') → (a, view s') = f (view s)

namespace Computes

variable {x : ExceptT ε (StateM σ) α} {f : Store → α × Store}

theorem of_performs (h : Performs view x f) : Computes view x f := by
  intro s a s' hrun
  have hs := h s
  rw [hrun] at hs
  exact hs

theorem pure (a : α) : Computes view (Pure.pure a : ExceptT ε (StateM σ) α) fun s => (a, s) := by
  intro s b s' hrun
  cases hrun
  rfl

theorem bind {g : α → ExceptT ε (StateM σ) β} {f' : α → Store → β × Store}
    (hx : Computes view x f) (hg : ∀ a, Computes view (g a) (f' a)) :
    Computes view (x >>= g) fun s => f' (f s).1 (f s).2 := by
  intro s b s'' hrun
  rw [run_run_bind] at hrun
  cases hfirst : x.run.run s with
  | mk r s' =>
    rw [hfirst] at hrun
    cases r with
    | error e => cases hrun
    | ok a =>
      change (b, view s'') = f' (f (view s)).1 (f (view s)).2
      rw [← hx s a s' hfirst]
      exact hg a s' b s'' hrun

theorem mapM {call : α → ExceptT ε (StateM σ) β} {f : Store → α → β}
    (h : ∀ a, Computes view (call a) fun s => (f s a, s)) (as : List α) :
    Computes view (as.mapM call) fun s => (as.map (f s), s) := by
  induction as with
  | nil => exact pure []
  | cons a as ih =>
    rw [List.mapM_cons]
    exact (h a).bind fun b => ih.bind fun bs => pure (b :: bs)

theorem forM {call : α → ExceptT ε (StateM σ) Unit} {f : Store → α → Store}
    (h : ∀ a, Computes view (call a) fun s => ((), f s a)) (as : List α) :
    Computes view (as.forM call) fun s => ((), as.foldl f s) := by
  induction as with
  | nil => exact pure ()
  | cons a as ih => exact (h a).bind fun _ => ih

end Computes

/-- Whether a computation succeeds or not, the store before and after it are related. -/
def Keeps (view : σ → Store) (R : Store → Store → Prop) (x : ExceptT ε (StateM σ) α) : Prop :=
  ∀ s, R (view s) (view (x.run.run s).2)

namespace Keeps

variable {R : Store → Store → Prop} (hrefl : ∀ s, R s s)
  (htrans : ∀ s t u, R s t → R t u → R s u) {x : ExceptT ε (StateM σ) α}

include hrefl

theorem of_performs {f : Store → α × Store} (h : Performs view x f) (hf : ∀ s, R s (f s).2) :
    Keeps view R x := by
  intro s
  have hs := h s
  have hperformed := hf (view s)
  cases hrun : x.run.run s with
  | mk r s' =>
    rw [hrun] at hs
    cases r with
    | ok a =>
      change (a, view s') = f (view s) at hs
      rwa [← hs] at hperformed
    | error e =>
      obtain hs | hs := hs
      · change R (view s) (view s')
        rw [hs]
        exact hrefl (view s)
      · rwa [← hs] at hperformed

theorem pure (a : α) : Keeps view R (Pure.pure a : ExceptT ε (StateM σ) α) :=
  fun s => hrefl (view s)

omit hrefl in
include htrans in
theorem bind {g : α → ExceptT ε (StateM σ) β} (hx : Keeps view R x)
    (hg : ∀ a, Keeps view R (g a)) : Keeps view R (x >>= g) := by
  intro s
  have hs := hx s
  rw [run_run_bind]
  cases hrun : x.run.run s with
  | mk r s' =>
    rw [hrun] at hs
    cases r with
    | error e => exact hs
    | ok a => exact htrans _ _ _ hs (hg a s')

include htrans

theorem mapM {call : α → ExceptT ε (StateM σ) β} {as : List α}
    (h : ∀ a ∈ as, Keeps view R (call a)) : Keeps view R (as.mapM call) := by
  induction as with
  | nil => exact pure hrefl []
  | cons a as ih =>
    obtain ⟨ha, has⟩ := List.forall_mem_cons.mp h
    rw [List.mapM_cons]
    exact ha.bind htrans fun b => (ih has).bind htrans fun bs => pure hrefl (b :: bs)

theorem forM {call : α → ExceptT ε (StateM σ) Unit} {as : List α}
    (h : ∀ a ∈ as, Keeps view R (call a)) : Keeps view R (as.forM call) := by
  induction as with
  | nil => exact pure hrefl ()
  | cons a as ih =>
    obtain ⟨ha, has⟩ := List.forall_mem_cons.mp h
    exact ha.bind htrans fun _ => ih has

end Keeps

end LiquidityGraph
