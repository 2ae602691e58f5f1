import LiquidityGraph.Listener.Basic
import LiquidityGraph.Proofs.Store.Calls
import Mathlib.Order.Lattice

/-!
What a listener has processed, however often its polls, its fetches and its writes are refused and
however often it is started again. Each range it takes begins right behind the last one it
processed, so up to the checkpoint every block lies in exactly one processed range.
-/
namespace LiquidityGraph

namespace BlockRange

/-- A range begins right behind `last`, is not empty, ends at the head at the latest and has at
most `cap` blocks, but may have one. -/
theorem next_eq_some {last head cap : Nat} {range : BlockRange}
    (h : next last head cap = some range) :
    range.first = last + 1 ∧ range.first ≤ range.last ∧ range.last ≤ head ∧
      range.last + 1 - range.first ≤ Nat.max cap 1 := by
  unfold next at h
  split at h
  · contradiction
  · obtain rfl := Option.some.inj h
    have hone : 1 ≤ Nat.max cap 1 := Nat.le_max_right cap 1
    refine ⟨rfl, ?_, ?_, ?_⟩ <;> dsimp only <;> omega

/-- The sum that bounds a range may as well stop at the largest block number there is. -/
theorem next_saturating {last head bound : Nat} (cap : Nat) (hhead : head ≤ bound) :
    next last head cap =
      if head ≤ last then none else some ⟨last + 1, min head (min (last + Nat.max cap 1) bound)⟩ := by
  have hmin : min head (min (last + Nat.max cap 1) bound) = min head (last + Nat.max cap 1) := by
    omega
  rw [hmin, next]

end BlockRange

def Station.checkpoint (s : Station) (chain : ChainId) : Option Nat :=
  s.connection.store.checkpoints[chain]?

namespace Work

variable {α β : Type} {chain : ChainId}

@[simp] theorem run_access (a : Access α) (wrap : StoreError → ListenError) (s : Station) :
    (access a wrap).run.run s =
      ((a.run.run s.connection).1.mapError wrap,
        { s with connection := (a.run.run s.connection).2 }) := rfl

@[simp] theorem run_request (ask : Feed → Option α × Feed) (e : ListenError) (s : Station) :
    (request ask e).run.run s =
      (match (ask s.feed).1 with
        | some a => .ok a
        | none => .error e, { s with feed := (ask s.feed).2 }) := rfl

/-- Work that leaves the checkpoint of a chain alone, whether it fails or not. -/
def Keeps (chain : ChainId) (x : Work α) : Prop :=
  ∀ s, (x.run.run s).2.checkpoint chain = s.checkpoint chain

theorem keeps_pure (a : α) : Keeps chain (pure a : Work α) := fun _ => rfl

theorem keeps_bind {x : Work α} {f : α → Work β} (hx : Keeps chain x)
    (hf : ∀ a, Keeps chain (f a)) : Keeps chain (x >>= f) := by
  intro s
  rw [run_run_bind]
  have hs := hx s
  cases hrun : x.run.run s with
  | mk r s' =>
    rw [hrun] at hs
    cases r with
    | error e => exact hs
    | ok a => exact (hf a s').trans hs

theorem keeps_request (ask : Feed → Option α × Feed) (e : ListenError) :
    Keeps chain (request ask e) := fun _ => rfl

theorem keeps_query (op : StoreOp) (f : Store → α) (wrap : StoreError → ListenError) :
    Keeps chain (access (Access.query op f) wrap) := by
  intro s
  rw [run_access, Access.query, Connection.run_call]
  split <;> rfl

end Work

namespace Listener

variable {l : Listener} {chain : ChainId}

private theorem keeps_record (o : Observation) : Work.Keeps chain (record o) := by
  intro s
  change (({ s with connection := _ } : Station).checkpoint chain) = _
  rw [Access.record, Access.command, Connection.run_call]
  split <;> rfl

private theorem keeps_forM_record (os : List Observation) : Work.Keeps chain (os.forM record) := by
  induction os with
  | nil => exact Work.keeps_pure ()
  | cons o os ih => exact Work.keeps_bind (keeps_record o) fun _ => ih

/-- What is done with a range before its checkpoint is written. -/
def observe (l : Listener) (range : BlockRange) : Work (List Observation) := do
  let os ← l.applyLogs (← l.fetch range)
  os.forM record
  return os

private theorem keeps_fetch (range : BlockRange) : Work.Keeps chain (l.fetch range) :=
  Work.keeps_bind (Work.keeps_request _ _) fun _ => Work.keeps_pure _

private theorem keeps_observe (range : BlockRange) : Work.Keeps chain (l.observe range) := by
  refine Work.keeps_bind (keeps_fetch range) fun logs => ?_
  refine Work.keeps_bind (fun _ => rfl) fun os => ?_
  exact Work.keeps_bind (keeps_forM_record os) fun _ => Work.keeps_pure os

theorem process_eq (l : Listener) (range : BlockRange) :
    l.process range = do
      let os ← l.observe range
      Work.access (Access.setCheckpoint l.context.chain range.last) fun _ => .checkpoint range.last
      return os.length := by
  simp only [process, observe, bind_assoc, pure_bind]

/-- The connection behind observations that were sent to it, each of them kept or lost. -/
def recorded (c : Connection) (os : List Observation) : Connection :=
  os.foldl (fun c o => ((Access.record o).run.run c).2) c

theorem run_forM_record (os : List Observation) (s : Station) :
    (os.forM record).run.run s = (.ok (), { s with connection := recorded s.connection os }) := by
  induction os generalizing s with
  | nil => rfl
  | cons o os ih => exact ih _

theorem run_observe (l : Listener) (range : BlockRange) (s : Station) :
    (l.observe range).run.run s =
      match (l.fetch range).run.run s with
      | (.ok logs, s) =>
        let (graph, os) := s.graph.dispatchAll l.context logs
        (.ok os, { s with graph, connection := recorded s.connection os })
      | (.error e, s) => (.error e, s) := by
  rw [observe, run_run_bind]
  cases (l.fetch range).run.run s with
  | mk r s =>
    cases r with
    | error e => rfl
    | ok logs =>
      change (((_ : Work Unit) >>= _).run.run _) = _
      rw [run_run_bind, run_forM_record]
      rfl

/-- Nothing that follows the fetch can fail before the write. -/
theorem observe_isOk (l : Listener) (range : BlockRange) (s : Station) :
    ((l.observe range).run.run s).1.isOk = ((l.fetch range).run.run s).1.isOk := by
  rw [run_observe]
  cases (l.fetch range).run.run s with
  | mk r s => cases r <;> rfl

/-- Either the logs came and the end of the range is stored, or nothing is. -/
theorem process_cases (l : Listener) (range : BlockRange) (s : Station) :
    let out := (l.process range).run.run s
    (∃ n, out.1 = .ok n) ∧ ((l.fetch range).run.run s).1.isOk = true ∧
        out.2.checkpoint l.context.chain = some range.last ∨
      (∃ e, out.1 = .error e) ∧
        out.2.checkpoint l.context.chain = s.checkpoint l.context.chain := by
  have hobserve : Work.Keeps l.context.chain (l.observe range) := keeps_observe range
  have hkeeps := hobserve s
  have hok := l.observe_isOk range s
  rw [process_eq, run_run_bind]
  cases hrun : (l.observe range).run.run s with
  | mk r s' =>
    rw [hrun] at hkeeps hok
    cases r with
    | error e => exact .inr ⟨⟨e, rfl⟩, hkeeps⟩
    | ok os =>
      dsimp only
      rw [run_run_bind, Work.run_access, Access.setCheckpoint, Access.command,
        Connection.run_call]
      by_cases hup : s'.connection.outages .setCheckpoint = 0
      · rw [if_pos hup]
        refine .inl ⟨⟨os.length, rfl⟩, hok.symm, ?_⟩
        exact Std.ExtTreeMap.getElem?_insert_self (t := s'.connection.store.checkpoints)
      · rw [if_neg hup]
        exact .inr ⟨⟨_, rfl⟩, hkeeps⟩

/-- A range that a step takes up under the head it polled, whether its logs came, and whether it
was processed to the end, its checkpoint written. -/
structure Visit where
  head : Nat
  range : BlockRange
  fetched : Bool
  processed : Bool
  deriving DecidableEq, Repr

def Visit.reach (last : Nat) (v : Visit) : Nat := if v.processed then v.range.last else last

def reached (first : Nat) (visits : List Visit) : Nat := visits.foldl Visit.reach first

def Visit.covers (v : Visit) (block : Nat) : Bool :=
  v.processed && decide (v.range.first ≤ block ∧ block ≤ v.range.last)

/-- The range that the next step takes up, if the poll succeeds and finds new blocks. -/
def visit? (l : Listener) (last : Nat) (s : Station) : Option Visit :=
  match head.run.run s with
  | (.ok head, s) =>
    (BlockRange.next last head l.maxRange).map fun range =>
      ⟨head, range, ((l.fetch range).run.run s).1.isOk, ((l.process range).run.run s).1.isOk⟩
  | (.error _, _) => none

@[simp] theorem run_head (s : Station) :
    head.run.run s =
      match s.feed.head with
      | (some block, feed) => (.ok block, { s with feed })
      | (none, feed) => (.error .head, { s with feed }) := by
  rw [head, Work.run_request]
  cases s.feed.head with
  | mk r feed => cases r <;> rfl

theorem visit?_eq_some {last : Nat} {s : Station} {v : Visit} (h : l.visit? last s = some v) :
    ∃ feed, s.feed.head = (some v.head, feed) ∧
      BlockRange.next last v.head l.maxRange = some v.range ∧
      v.fetched = ((l.fetch v.range).run.run { s with feed }).1.isOk ∧
      v.processed = ((l.process v.range).run.run { s with feed }).1.isOk := by
  unfold visit? at h
  rw [run_head] at h
  cases hpoll : s.feed.head with
  | mk r feed =>
    rw [hpoll] at h
    cases r with
    | none => contradiction
    | some block =>
      obtain ⟨range, hrange, rfl⟩ := Option.map_eq_some_iff.mp h
      exact ⟨feed, rfl, hrange, rfl, rfl⟩

theorem range_of_visit {last : Nat} {s : Station} {v : Visit} (h : l.visit? last s = some v) :
    BlockRange.next last v.head l.maxRange = some v.range := by
  obtain ⟨feed, -, hrange, -, -⟩ := visit?_eq_some h
  exact hrange

theorem fetched_of_visit {last : Nat} {s : Station} {v : Visit} (h : l.visit? last s = some v)
    (hprocessed : v.processed = true) : v.fetched = true := by
  obtain ⟨feed, -, -, hfetched, hran⟩ := visit?_eq_some h
  obtain ⟨-, hfetch, -⟩ | ⟨⟨e, herror⟩, -⟩ := l.process_cases v.range { s with feed }
  · exact hfetched.trans hfetch
  · rw [herror] at hran
    rw [hran] at hprocessed
    contradiction

/-- A step goes on behind the range it processed and has its end stored, or it goes on behind the
same block and stores nothing. -/
theorem step_cases (l : Listener) (last : Nat) (s : Station) :
    let out := (l.step last).run.run s
    (∃ v, l.visit? last s = some v ∧ v.processed = true ∧ (l.pause last out.1).1 = v.range.last ∧
        out.2.checkpoint l.context.chain = some v.range.last) ∨
      (∀ v ∈ l.visit? last s, v.processed = false) ∧ (l.pause last out.1).1 = last ∧
        out.2.checkpoint l.context.chain = s.checkpoint l.context.chain := by
  have hkeeps : Work.Keeps l.context.chain head := Work.keeps_request _ _
  have hs := hkeeps s
  rw [step, run_run_bind]
  unfold visit?
  cases hpoll : head.run.run s with
  | mk r s' =>
    rw [hpoll] at hs
    cases r with
    | error e => exact .inr ⟨fun v hv => by contradiction, rfl, hs⟩
    | ok head =>
      dsimp only
      cases BlockRange.next last head l.maxRange with
      | none => exact .inr ⟨fun v hv => by contradiction, rfl, hs⟩
      | some range =>
        dsimp only
        rw [run_run_bind]
        have hprocess := l.process_cases range s'
        cases hrun : (l.process range).run.run s' with
        | mk r t =>
          rw [hrun] at hprocess
          obtain ⟨⟨n, rfl⟩, -, hstored⟩ | ⟨⟨e, rfl⟩, hstored⟩ := hprocess
          · exact .inl ⟨_, rfl, congrArg (·.1.isOk) hrun, rfl, hstored⟩
          · refine .inr ⟨?_, rfl, hstored.trans hs⟩
            intro v hv
            obtain rfl := Option.some.inj hv
            exact congrArg (·.1.isOk) hrun

theorem resume_of_checkpoint {s : Station} {block : Nat}
    (h : s.checkpoint l.context.chain = some block) :
    (l.resume.run.run s).1 =
      if s.connection.outages .checkpoint = 0 then .ok block else .error (.store .down) := by
  rw [resume, run_run_bind, Work.run_access, Access.checkpoint, Access.query,
    Connection.run_call]
  by_cases hup : s.connection.outages .checkpoint = 0
  · have hstored : s.connection.store.checkpoints[l.context.chain]? = some block := h
    rw [if_pos hup, if_pos hup, hstored]
    rfl
  · rw [if_neg hup, if_neg hup]
    rfl

theorem keeps_resume : Work.Keeps chain l.resume := by
  refine Work.keeps_bind (Work.keeps_query _ _ _) fun stored => ?_
  cases stored with
  | some block => exact Work.keeps_pure block
  | none =>
    dsimp only
    cases l.start with
    | some block => exact Work.keeps_pure _
    | none => exact Work.keeps_request _ _

def processedEnds (visits : List Visit) : List Nat :=
  (visits.filter (·.processed)).map (·.range.last)

@[simp] theorem processedEnds_snoc (visits : List Visit) (v : Visit) :
    processedEnds (visits ++ [v]) =
      processedEnds visits ++ if v.processed then [v.range.last] else [] := by
  unfold processedEnds
  rw [List.filter_append, List.map_append]
  cases hv : v.processed <;> simp [hv]

/-- Each visit begins right behind what was processed before it, and the processed ranges tile the
blocks behind `first` up to `last`. -/
structure Tiles (cap first : Nat) (visits : List Visit) (last : Nat) : Prop where
  behind : ∀ before v after, visits = before ++ v :: after →
    v.range.first = reached first before + 1
  sized : ∀ v ∈ visits, v.range.first ≤ v.range.last ∧ v.range.last ≤ v.head ∧
    v.range.last + 1 - v.range.first ≤ Nat.max cap 1
  fetched : ∀ v ∈ visits, v.processed = true → v.fetched = true
  ends : reached first visits = last
  rising : (first :: processedEnds visits).Pairwise (· < ·)
  below : ∀ block ∈ first :: processedEnds visits, block ≤ last
  once : ∀ block, (visits.filter (·.covers block)).length =
    if first < block ∧ block ≤ last then 1 else 0

namespace Tiles

variable {cap first last : Nat} {visits : List Visit} {v : Visit}

theorem nil (cap first : Nat) : Tiles cap first [] first where
  behind := fun before v after h => by simp at h
  sized := fun v hv => by simp at hv
  fetched := fun v hv => by simp at hv
  ends := rfl
  rising := List.pairwise_singleton _ _
  below := by simp [processedEnds]
  once := fun block => by
    have hnone : ¬(first < block ∧ block ≤ first) := by omega
    simp [hnone]

private theorem behind_snoc (h : Tiles cap first visits last) (hfirst : v.range.first = last + 1)
    {before after : List Visit} {w : Visit} (hsplit : visits ++ [v] = before ++ w :: after) :
    w.range.first = reached first before + 1 := by
  obtain rfl | ⟨front, w', rfl⟩ := List.eq_nil_or_concat after
  · obtain ⟨rfl, hv⟩ := List.append_inj' hsplit rfl
    obtain rfl := List.singleton_inj.mp hv
    rw [hfirst, h.ends]
  · rw [List.concat_eq_append, ← List.cons_append, ← List.append_assoc] at hsplit
    exact h.behind before w front (List.append_inj' hsplit rfl).1

private theorem le_last (h : Tiles cap first visits last) : first ≤ last :=
  h.below first List.mem_cons_self

/-- The blocks of a further processed range are those behind the last block. -/
theorem once_snoc (h : Tiles cap first visits last) (hfirst : v.range.first = last + 1)
    (hle : v.range.first ≤ v.range.last) (block : Nat) :
    ((visits ++ [v]).filter (·.covers block)).length =
      if first < block ∧ block ≤ v.reach last then 1 else 0 := by
  have honce := h.once block
  have hfirstLast := h.le_last
  rw [List.filter_append, List.length_append, honce]
  cases hv : v.processed with
  | false => simp [Visit.covers, Visit.reach, hv]
  | true =>
    by_cases hcovers : v.range.first ≤ block ∧ block ≤ v.range.last
    · have hold : ¬(first < block ∧ block ≤ last) := by omega
      have hnew : first < block ∧ block ≤ v.range.last := by omega
      rw [if_neg hold]
      simp [Visit.covers, Visit.reach, hv, hcovers, hnew]
    · have hsame : (first < block ∧ block ≤ v.range.last) ↔ (first < block ∧ block ≤ last) := by
        omega
      simp [Visit.covers, Visit.reach, hv, hcovers, hsame]

theorem snoc (h : Tiles cap first visits last)
    (hrange : BlockRange.next last v.head cap = some v.range)
    (hfetched : v.processed = true → v.fetched = true) :
    Tiles cap first (visits ++ [v]) (v.reach last) := by
  obtain ⟨hfirst, hle, hhead, hsize⟩ := BlockRange.next_eq_some hrange
  refine ⟨fun before w after => h.behind_snoc hfirst, ?_, ?_, ?_, ?_, ?_,
    h.once_snoc hfirst hle⟩
  · intro w hw
    obtain hw | rfl := List.mem_append.mp hw |>.imp_right List.mem_singleton.mp
    · exact h.sized w hw
    · exact ⟨hle, hhead, hsize⟩
  · intro w hw
    obtain hw | rfl := List.mem_append.mp hw |>.imp_right List.mem_singleton.mp
    · exact h.fetched w hw
    · exact hfetched
  · rw [reached, List.foldl_append]
    exact congrArg (Visit.reach · v) h.ends
  · rw [processedEnds_snoc, ← List.cons_append, List.pairwise_append]
    refine ⟨h.rising, by split <;> simp, ?_⟩
    intro block hblock last' hlast'
    have hbelow := h.below block hblock
    split at hlast'
    · obtain rfl := List.mem_singleton.mp hlast'
      omega
    · contradiction
  · intro block hblock
    rw [processedEnds_snoc, ← List.cons_append, List.mem_append] at hblock
    unfold Visit.reach
    obtain hblock | hblock := hblock
    · have hbelow := h.below block hblock
      split <;> omega
    · split at hblock
      · rw [if_pos ‹_›, List.mem_singleton.mp hblock]
      · contradiction

end Tiles

/-- What a number of steps take up, the block to go on behind, and the station left. -/
def steps (l : Listener) : Nat → Nat → Station → List Visit × Nat × Station
  | 0, last, s => ([], last, s)
  | n + 1, last, s =>
    let out := (l.step last).run.run s
    let rest := l.steps n (l.pause last out.1).1 out.2
    ((l.visit? last s).toList ++ rest.1, rest.2)

/-- Following the chain takes steps and does nothing else. -/
theorem follow_steps (l : Listener) (fuel last elapsed : Nat) (s : Station) :
    ∃ n, (l.follow fuel last elapsed s).2 = (l.steps n last s).2.2 := by
  induction fuel generalizing last elapsed s with
  | zero => exact ⟨0, rfl⟩
  | succ fuel ih =>
    unfold follow
    cases hrun : (l.step last).run.run s with
    | mk outcome t =>
      dsimp only
      split
      · exact ⟨1, by rw [steps, hrun]; rfl⟩
      · obtain ⟨n, hn⟩ := ih (l.pause last outcome).1 (elapsed + (l.pause last outcome).2) t
        exact ⟨n + 1, by rw [steps, hrun]; exact hn⟩

/-- How a listener comes to go on behind `last`: resumed behind `first`, it took its steps, was
stopped in the middle of some, and was started again any number of times once its checkpoint was
stored. Meanwhile everything else may change: what the node will answer, which operations of the
store are refused, the graph and the other chains. `visits` are the ranges that it took up, and
`s` is the station left. -/
inductive Follows (l : Listener) (first : Nat) : List Visit → Nat → Station → Prop where
  | resume {s : Station} (h : (l.resume.run.run s).1 = .ok first) :
    Follows l first [] first (l.resume.run.run s).2
  | meanwhile {visits : List Visit} {last : Nat} {s s' : Station} (h : Follows l first visits last s)
    (hkeeps : s'.checkpoint l.context.chain = s.checkpoint l.context.chain) :
    Follows l first visits last s'
  | step {visits : List Visit} {last : Nat} {s : Station} (h : Follows l first visits last s) :
    Follows l first (visits ++ (l.visit? last s).toList)
      (l.pause last ((l.step last).run.run s).1).1 ((l.step last).run.run s).2
  | stopped {visits : List Visit} {last : Nat} {s s' : Station} {v : Visit} (fetched : Bool)
    (h : Follows l first visits last s) (hvisit : l.visit? last s = some v)
    (hkeeps : s'.checkpoint l.context.chain = s.checkpoint l.context.chain) :
    Follows l first (visits ++ [⟨v.head, v.range, fetched, false⟩]) last s'
  | restart {visits : List Visit} {last block : Nat} {s : Station}
    (h : Follows l first visits last s) (hstored : (s.checkpoint l.context.chain).isSome)
    (hresume : (l.resume.run.run s).1 = .ok block) :
    Follows l first visits block (l.resume.run.run s).2

/-- What holds of a listener that follows its chain. -/
structure Gapless (l : Listener) (first : Nat) (visits : List Visit) (last : Nat) (s : Station) :
    Prop extends Tiles l.maxRange first visits last where
  stored : ∀ block, s.checkpoint l.context.chain = some block → block = last
  kept : (∃ v ∈ visits, v.processed = true) → s.checkpoint l.context.chain = some last
  covered : ∀ checkpoint, s.checkpoint l.context.chain = some checkpoint →
    ∀ block, first < block → block ≤ checkpoint →
      ∃ v, visits.filter (·.covers block) = [v] ∧ v.fetched = true
  rises :
    let after := ((l.step last).run.run s).2
    after.checkpoint l.context.chain = s.checkpoint l.context.chain ∨
      ∃ block, after.checkpoint l.context.chain = some block ∧
        ∀ checkpoint, s.checkpoint l.context.chain = some checkpoint → checkpoint < block
  resumes : ∀ checkpoint, s.checkpoint l.context.chain = some checkpoint →
    (l.resume.run.run s).1 =
        (if s.connection.outages .checkpoint = 0 then .ok checkpoint else .error (.store .down)) ∧
      (l.resume.run.run s).2.checkpoint l.context.chain = some checkpoint

theorem exists_processed_snoc {visits : List Visit} {v : Visit} (hv : v.processed = false) :
    (∃ w ∈ visits ++ [v], w.processed = true) ↔ ∃ w ∈ visits, w.processed = true := by
  constructor
  · intro ⟨w, hw, hprocessed⟩
    obtain hw | hw := List.mem_append.mp hw
    · exact ⟨w, hw, hprocessed⟩
    · obtain rfl := List.mem_singleton.mp hw
      rw [hv] at hprocessed
      contradiction
  · intro ⟨w, hw, hprocessed⟩
    exact ⟨w, List.mem_append_left _ hw, hprocessed⟩

theorem resumed_checkpoint {s : Station} {checkpoint block : Nat}
    (hstored : s.checkpoint l.context.chain = some checkpoint)
    (hresume : (l.resume.run.run s).1 = .ok block) : checkpoint = block := by
  rw [resume_of_checkpoint hstored] at hresume
  split at hresume
  · exact Except.ok.inj hresume
  · contradiction

namespace Follows

variable {first last : Nat} {visits : List Visit} {s : Station}

/-- What a run preserves: the tiling, and that the end of it is what is stored. -/
theorem invariant (h : l.Follows first visits last s) :
    Tiles l.maxRange first visits last ∧
      (∀ block, s.checkpoint l.context.chain = some block → block = last) ∧
      ((∃ v ∈ visits, v.processed = true) → s.checkpoint l.context.chain = some last) := by
  induction h with
  | resume hresume =>
    refine ⟨.nil _ _, fun block hblock => ?_, by simp⟩
    rw [keeps_resume] at hblock
    exact resumed_checkpoint hblock hresume
  | meanwhile _ hkeeps ih =>
    rw [hkeeps]
    exact ih
  | @step visits last s _ ih =>
    obtain ⟨htiles, hstored, hkept⟩ := ih
    obtain ⟨v, hvisit, hprocessed, hlast, hcheckpoint⟩ | ⟨hunprocessed, hlast, hcheckpoint⟩ :=
      l.step_cases last s
    · have hsnoc := htiles.snoc (range_of_visit hvisit) (fetched_of_visit hvisit)
      rw [Visit.reach, if_pos hprocessed] at hsnoc
      rw [hvisit, hlast, hcheckpoint]
      exact ⟨hsnoc, fun block hblock => (Option.some.inj hblock).symm, fun _ => rfl⟩
    · rw [hlast, hcheckpoint]
      cases hvisit : l.visit? last s with
      | none =>
        rw [Option.toList_none, List.append_nil]
        exact ⟨htiles, hstored, hkept⟩
      | some v =>
        have hv : v.processed = false := hunprocessed v hvisit
        have hsnoc := htiles.snoc (range_of_visit hvisit) (fetched_of_visit hvisit)
        rw [Visit.reach, hv] at hsnoc
        refine ⟨hsnoc, hstored, ?_⟩
        rw [Option.toList_some, exists_processed_snoc hv]
        exact hkept
  -- whatever came of a step that was stopped, its range counts as not processed
  | @stopped visits last s s' v fetched _ hvisit hkeeps ih =>
    obtain ⟨htiles, hstored, hkept⟩ := ih
    have hrange : BlockRange.next last v.head l.maxRange = some v.range := range_of_visit hvisit
    have hsnoc := htiles.snoc (v := ⟨v.head, v.range, fetched, false⟩) hrange
      (fun h => by contradiction)
    rw [hkeeps, exists_processed_snoc rfl]
    exact ⟨hsnoc, hstored, hkept⟩
  | restart _ hsome hresume ih =>
    obtain ⟨htiles, hstored, hkept⟩ := ih
    obtain ⟨checkpoint, hcheckpoint⟩ := Option.isSome_iff_exists.mp hsome
    have hblock := resumed_checkpoint hcheckpoint hresume
    have hlast := hstored checkpoint hcheckpoint
    rw [keeps_resume, ← hblock, hlast]
    exact ⟨htiles, hstored, hkept⟩

theorem steps (h : l.Follows first visits last s) (n : Nat) :
    l.Follows first (visits ++ (l.steps n last s).1) (l.steps n last s).2.1
      (l.steps n last s).2.2 := by
  induction n generalizing visits last s with
  | zero =>
    rw [Listener.steps, List.append_nil]
    exact h
  | succ n ih =>
    have hmore := ih h.step
    rw [List.append_assoc] at hmore
    exact hmore

end Follows

theorem awaitStart_cases (l : Listener) (fuel elapsed : Nat) (s : Station) :
    let out := l.awaitStart fuel elapsed s
    out.1 = none ∧ out.2.2.checkpoint l.context.chain = s.checkpoint l.context.chain ∨
      ∃ block s', out.1 = some block ∧
        s'.checkpoint l.context.chain = s.checkpoint l.context.chain ∧
        l.resume.run.run s' = (.ok block, out.2.2) := by
  induction fuel generalizing elapsed s with
  | zero => exact .inl ⟨rfl, rfl⟩
  | succ fuel ih =>
    have hkeeps : (l.resume.run.run s).2.checkpoint l.context.chain = _ := keeps_resume s
    unfold awaitStart
    cases hresume : l.resume.run.run s with
    | mk r t =>
      rw [hresume] at hkeeps
      cases r with
      | ok block => exact .inr ⟨block, s, rfl, rfl, hresume⟩
      | error e =>
        dsimp only
        split
        · exact .inl ⟨rfl, hkeeps⟩
        · have htail := ih (elapsed + l.retry) t
          rw [hkeeps] at htail
          exact htail

theorem run_cases (l : Listener) (s : Station) :
    (l.run s).2.checkpoint l.context.chain = s.checkpoint l.context.chain ∨
      ∃ block s' fuel elapsed, s'.checkpoint l.context.chain = s.checkpoint l.context.chain ∧
        (l.resume.run.run s').1 = .ok block ∧
        l.run s = l.follow fuel block elapsed (l.resume.run.run s').2 := by
  have hstart := l.awaitStart_cases (attempts { s with feed := { s.feed with closed := false } }) 0
    { s with feed := { s.feed with closed := false } }
  unfold run
  dsimp only
  cases hout : l.awaitStart (attempts { s with feed := { s.feed with closed := false } }) 0
      { s with feed := { s.feed with closed := false } } with
  | mk start out =>
    obtain ⟨elapsed, t⟩ := out
    rw [hout] at hstart
    obtain ⟨rfl, hkeeps⟩ | ⟨block, s', rfl, hkeeps, hresume⟩ := hstart
    · exact .inl hkeeps
    · exact .inr ⟨block, s', _, elapsed, hkeeps, by rw [hresume], by rw [hresume]⟩

/-- A first run follows the chain from the block it resumed behind. -/
theorem follows_run (l : Listener) (s : Station) :
    (l.run s).2.checkpoint l.context.chain = s.checkpoint l.context.chain ∨
      ∃ first visits last, l.Follows first visits last (l.run s).2 := by
  obtain hkeeps | ⟨block, s', fuel, elapsed, -, hresume, hrun⟩ := l.run_cases s
  · exact .inl hkeeps
  · obtain ⟨n, hn⟩ := l.follow_steps fuel block elapsed (l.resume.run.run s').2
    rw [hrun, hn]
    exact .inr ⟨block, _, _, (Follows.resume hresume).steps n⟩

/-- A run behind another one goes on where that one ended. -/
theorem Follows.run {first last : Nat} {visits : List Visit} {s : Station}
    (h : l.Follows first visits last s) (hstored : (s.checkpoint l.context.chain).isSome) :
    ∃ more last', l.Follows first (visits ++ more) last' (l.run s).2 := by
  obtain hkeeps | ⟨block, s', fuel, elapsed, hkeeps, hresume, hrun⟩ := l.run_cases s
  · exact ⟨[], last, by rw [List.append_nil]; exact h.meanwhile hkeeps⟩
  · have hrestart := (h.meanwhile hkeeps).restart (hkeeps ▸ hstored) hresume
    obtain ⟨n, hn⟩ := l.follow_steps fuel block elapsed (l.resume.run.run s').2
    rw [hrun, hn]
    exact ⟨_, _, hrestart.steps n⟩

/-- Whatever is refused, wherever the head moves and however often the listener is started again,
it leaves no gap: it goes on right behind what it processed, stores increasing checkpoints, and
up to the checkpoint every block lies in one processed range, whose logs it had. -/
theorem Follows.gapless {first last : Nat} {visits : List Visit} {s : Station}
    (h : l.Follows first visits last s) :
    l.Gapless first visits last s := by
  obtain ⟨htiles, hstored, hkept⟩ := h.invariant
  refine ⟨htiles, hstored, hkept, ?_, ?_, ?_⟩
  · intro checkpoint hcheckpoint block hfirst hle
    obtain rfl := hstored checkpoint hcheckpoint
    have honce := htiles.once block
    rw [if_pos ⟨hfirst, hle⟩] at honce
    obtain ⟨v, hv⟩ := List.length_eq_one_iff.mp honce
    obtain ⟨hmem, hcovers⟩ := List.mem_filter.mp (hv ▸ List.mem_singleton_self v)
    have hprocessed : v.processed = true := (Bool.and_eq_true _ _ ▸ hcovers).1
    exact ⟨v, hv, htiles.fetched v hmem hprocessed⟩
  · obtain ⟨v, hvisit, -, -, hcheckpoint⟩ | ⟨-, -, hcheckpoint⟩ := l.step_cases last s
    · refine .inr ⟨v.range.last, hcheckpoint, fun checkpoint hold => ?_⟩
      obtain rfl := hstored checkpoint hold
      obtain ⟨hfirst, hle, -, -⟩ := BlockRange.next_eq_some (range_of_visit hvisit)
      omega
    · exact .inl hcheckpoint
  · intro checkpoint hcheckpoint
    exact ⟨resume_of_checkpoint hcheckpoint, (keeps_resume s).trans hcheckpoint⟩

/-- From block 5 on, two blocks at a time. -/
def byTwos : Listener := ⟨⟨⟨"avalanche"⟩, 100, 7, 8⟩, some 5, 2, 1000, 5000⟩

/-- The node refuses a poll and a fetch, the store a write, and the head moves back once. -/
def refusals : Station where
  feed := .ofReplies [.refused, .head 7, .refused, .head 7, .logs [], .head 3, .head 7, .logs [],
    .head 7, .logs [], .head 9, .logs []]
  connection := ⟨.empty, fun op => if op = .setCheckpoint then 1 else 0⟩
  graph := .empty 0

/-- Two more tries at the blocks 5 and 6, and a restart behind them. -/
theorem gapless_refusals :
    let stopped := (byTwos.steps 5 4 refusals).2.2
    let resumed := (byTwos.resume.run.run stopped).2
    let s := (byTwos.steps 2 6 resumed).2.2
    let visits : List Visit := [⟨7, ⟨5, 6⟩, false, false⟩, ⟨7, ⟨5, 6⟩, true, false⟩,
      ⟨7, ⟨5, 6⟩, true, true⟩, ⟨7, ⟨7, 7⟩, true, true⟩, ⟨9, ⟨8, 9⟩, true, true⟩]
    s.checkpoint byTwos.context.chain = some 9 ∧ byTwos.Follows 4 visits 9 s ∧
      byTwos.Gapless 4 visits 9 s := by
  intro stopped resumed s visits
  have hresume : byTwos.Follows 4 [] 4 refusals := .resume (s := refusals) rfl
  have hrestart : byTwos.Follows 4 _ 6 resumed :=
    (hresume.steps 5).restart (by decide +kernel) (by decide +kernel)
  have hfollows : byTwos.Follows 4 _ _ s := hrestart.steps 2
  have hvisits : [] ++ (byTwos.steps 5 4 refusals).1 ++ (byTwos.steps 2 6 resumed).1 = visits := by
    decide +kernel
  have hlast : (byTwos.steps 2 6 resumed).2.1 = 9 := by decide +kernel
  rw [hvisits, hlast] at hfollows
  exact ⟨by decide +kernel, hfollows, hfollows.gapless⟩

end Listener

end LiquidityGraph
