import LiquidityGraph.Proofs.Listener.Progress

/-!
A listener's first run on a chain, under a head that stays. Whatever is refused, the ranges that it
processed hold each block from its start on exactly once, and it is at the head as soon as enough
fetches were granted. Only block zero it never takes up: the block before the start is then the
start itself.
-/
namespace LiquidityGraph

variable {newest start : Nat} {s : Station}

/-- A node that reports no other newest block. -/
def Feed.Steady (f : Feed) (newest : Nat) : Prop :=
  ∀ block, Reply.head block ∈ f.replies → block = newest

namespace Feed

variable {f f' : Feed}

theorem Steady.mono (h : f.Steady newest) (hsuffix : f'.replies <:+ f.replies) :
    f'.Steady newest :=
  fun block hblock => h block (hsuffix.subset hblock)

private theorem replies_ask (f : Feed) (request : Request) :
    (f.ask request).2.replies <:+ f.replies := by
  unfold ask
  split
  · exact List.suffix_rfl
  · next reply replies hreplies =>
    rw [hreplies]
    exact List.suffix_cons reply replies

private theorem replies_head (f : Feed) : f.head.2.replies <:+ f.replies := by
  have hask := f.replies_ask .head
  unfold head
  split
  all_goals
    next heq =>
    rw [heq] at hask
    exact hask

private theorem replies_logs (f : Feed) (first last : Nat) (topics : List Nat) :
    (f.logs first last topics).2.replies <:+ f.replies := by
  have hask := f.replies_ask (.logs first last topics)
  unfold logs
  split
  all_goals
    next heq =>
    rw [heq] at hask
    exact hask

theorem Steady.head_eq (h : f.Steady newest) {block : Nat} (hblock : f.head.1 = some block) :
    block = newest := by
  unfold Feed.head ask at hblock
  cases hreplies : f.replies with
  | nil =>
    rw [hreplies] at hblock
    contradiction
  | cons reply replies =>
    rw [hreplies] at hblock
    cases reply with
    | head b =>
      obtain rfl := Option.some.inj hblock
      exact h b (hreplies ▸ List.mem_cons_self)
    | logs logs => contradiction
    | refused => contradiction

end Feed

namespace Listener

variable {l : Listener} {last n : Nat} {range : BlockRange} {v : Visit}

section Runs

theorem run_fetch (l : Listener) (range : BlockRange) (s : Station) :
    (l.fetch range).run.run s =
      match s.feed.logs range.first range.last l.topics with
      | (some logs, feed) => (.ok (logs.mergeSort Log.notAfter), { s with feed })
      | (none, feed) => (.error (.logs range), { s with feed }) := by
  rw [fetch, run_run_bind, Work.run_request]
  cases s.feed.logs range.first range.last l.topics with
  | mk r feed => cases r <;> rfl

@[simp] theorem recorded_outages (c : Connection) (os : List Observation) :
    (recorded c os).outages .setCheckpoint = c.outages .setCheckpoint := by
  induction os generalizing c with
  | nil => rfl
  | cons o os ih =>
    refine (ih _).trans ?_
    change ((Access.record o).run.run c).2.outages .setCheckpoint = _
    rw [Access.record, Access.command, Connection.run_call]
    split <;> rfl

theorem run_process (l : Listener) (range : BlockRange)
    (hup : s.connection.outages .setCheckpoint = 0) :
    (l.process range).run.run s =
      match (l.fetch range).run.run s with
      | (.ok logs, s) =>
        let (graph, os) := s.graph.dispatchAll l.context logs
        let c := recorded s.connection os
        (.ok os.length, { s with graph, connection :=
          { c with store := c.store.setCheckpoint l.context.chain range.last } })
      | (.error e, s) => (.error e, s) := by
  rw [process_eq, run_run_bind, run_observe, run_fetch]
  cases s.feed.logs range.first range.last l.topics with
  | mk r feed =>
    cases r with
    | none => rfl
    | some logs =>
      dsimp only
      rw [run_run_bind, Work.run_access, Access.setCheckpoint, Access.command,
        Connection.run_call, recorded_outages, if_pos hup]
      rfl

theorem feed_process (l : Listener) (range : BlockRange) (s : Station) :
    ((l.process range).run.run s).2.feed = ((l.fetch range).run.run s).2.feed := by
  rw [process_eq, run_run_bind, run_observe]
  cases (l.fetch range).run.run s with
  | mk r t =>
    cases r with
    | error e => rfl
    | ok logs =>
      dsimp only
      rw [run_run_bind, Work.run_access]
      split
      all_goals
        next heq =>
        obtain ⟨-, rfl⟩ := Prod.mk.inj heq
        rfl

theorem run_step (l : Listener) (last : Nat) (s : Station) :
    (l.step last).run.run s =
      match head.run.run s with
      | (.ok head, s) =>
        match BlockRange.next last head l.maxRange with
        | none => (.ok none, s)
        | some range =>
          match (l.process range).run.run s with
          | (.ok _, s) => (.ok (some (range.last, head)), s)
          | (.error e, s) => (.error e, s)
      | (.error e, s) => (.error e, s) := by
  rw [step, run_run_bind]
  cases head.run.run s with
  | mk r s =>
    cases r with
    | error e => rfl
    | ok head =>
      dsimp only
      cases BlockRange.next last head l.maxRange with
      | none => rfl
      | some range =>
        dsimp only
        rw [run_run_bind]
        cases (l.process range).run.run s with
        | mk r t => cases r <;> rfl

end Runs

section Steps

theorem step_keeps {P : Station → Prop} (hpoll : P (head.run.run s).2)
    (hprocess : ∀ range s, P s → P ((l.process range).run.run s).2) :
    P ((l.step last).run.run s).2 := by
  rw [run_step]
  cases hrun : head.run.run s with
  | mk r t =>
    rw [hrun] at hpoll
    cases r with
    | error e => exact hpoll
    | ok block =>
      dsimp only
      cases BlockRange.next last block l.maxRange with
      | none => exact hpoll
      | some range =>
        have hafter := hprocess range t hpoll
        dsimp only
        cases hran : (l.process range).run.run t with
        | mk r u =>
          rw [hran] at hafter
          cases r <;> exact hafter

private theorem replies_poll (s : Station) :
    (head.run.run s).2.feed.replies <:+ s.feed.replies := by
  have hhead := s.feed.replies_head
  rw [run_head]
  cases hrun : s.feed.head with
  | mk r feed =>
    rw [hrun] at hhead
    cases r <;> exact hhead

private theorem replies_process (l : Listener) (range : BlockRange) (s : Station) :
    ((l.process range).run.run s).2.feed.replies <:+ s.feed.replies := by
  have hlogs := s.feed.replies_logs range.first range.last l.topics
  rw [feed_process, run_fetch]
  cases hrun : s.feed.logs range.first range.last l.topics with
  | mk r feed =>
    rw [hrun] at hlogs
    cases r <;> exact hlogs

theorem replies_step (l : Listener) (last : Nat) (s : Station) :
    ((l.step last).run.run s).2.feed.replies <:+ s.feed.replies :=
  step_keeps (P := fun t => t.feed.replies <:+ s.feed.replies) (replies_poll s)
    fun range t ht => (l.replies_process range t).trans ht

@[simp] theorem connection_poll (s : Station) : (head.run.run s).2.connection = s.connection := by
  rw [run_head]
  cases s.feed.head with
  | mk r feed => cases r <;> rfl

theorem outages_process (l : Listener) (range : BlockRange)
    (hup : s.connection.outages .setCheckpoint = 0) :
    ((l.process range).run.run s).2.connection.outages .setCheckpoint = 0 := by
  rw [run_process l range hup, run_fetch]
  cases s.feed.logs range.first range.last l.topics with
  | mk r feed =>
    cases r with
    | none => exact hup
    | some logs => exact (recorded_outages _ _).trans hup

theorem outages_step (l : Listener) (last : Nat) (hup : s.connection.outages .setCheckpoint = 0) :
    ((l.step last).run.run s).2.connection.outages .setCheckpoint = 0 := by
  have hpolled : (head.run.run s).2.connection.outages .setCheckpoint = 0 := by
    rw [connection_poll]
    exact hup
  exact step_keeps (P := fun t => t.connection.outages .setCheckpoint = 0) hpolled
    fun range t ht => l.outages_process range ht

theorem newest_of_visit (hsteady : s.feed.Steady newest) (h : l.visit? last s = some v) :
    v.head = newest := by
  obtain ⟨feed, hpoll, -⟩ := visit?_eq_some h
  exact hsteady.head_eq (congrArg Prod.fst hpoll)

theorem processed_of_visit (hup : s.connection.outages .setCheckpoint = 0)
    (h : l.visit? last s = some v) : v.processed = v.fetched := by
  obtain ⟨feed, -, -, hfetched, hprocessed⟩ := visit?_eq_some h
  have hpolled : ({ s with feed } : Station).connection.outages .setCheckpoint = 0 := hup
  rw [hfetched, hprocessed, run_process l v.range hpolled]
  cases (l.fetch v.range).run.run { s with feed } with
  | mk r t => cases r <;> rfl

/-- What is true of the visits of a station is true of all visits of a run, if steps keep the
condition on the station. -/
theorem forall_steps {P : Station → Prop} {Q : Visit → Prop}
    (hstep : ∀ {last s}, P s → P ((l.step last).run.run s).2)
    (hvisit : ∀ {last s v}, P s → l.visit? last s = some v → Q v) (hs : P s) :
    ∀ v ∈ (l.steps n last s).1, Q v := by
  induction n generalizing last s with
  | zero => exact fun v hv => absurd hv List.not_mem_nil
  | succ n ih =>
    intro v hv
    obtain hv | hv := List.mem_append.mp hv
    · exact hvisit hs (Option.mem_toList.mp hv)
    · exact ih (hstep hs) v hv

end Steps

section Start

private theorem run_resume (hstart : l.start = some start)
    (hnone : s.checkpoint l.context.chain = none)
    (hup : s.connection.outages .checkpoint = 0) :
    l.resume.run.run s = (.ok (start - 1), s) := by
  have hstored : s.connection.store.checkpoints[l.context.chain]? = none := hnone
  rw [resume, run_run_bind, Work.run_access, Access.checkpoint, Access.query,
    Connection.run_call, if_pos hup, hstored]
  dsimp only [Except.mapError]
  rw [hstart]
  rfl

/-- Without a checkpoint a listener begins behind the block before its start, even if the store has
to be asked for the checkpoint again. -/
theorem Follows.of_start (hstart : l.start = some start)
    (hnone : s.checkpoint l.context.chain = none) : l.Follows (start - 1) [] (start - 1) s := by
  let up : Station := { s with connection := .ofStore s.connection.store }
  have hresume : l.resume.run.run up = (.ok (start - 1), up) := run_resume hstart hnone rfl
  have hfollows := Follows.resume (congrArg Prod.fst hresume)
  rw [hresume] at hfollows
  exact hfollows.meanwhile rfl

/-- Under a head that stays, each processed range goes on by a full range or up to the head. -/
theorem Follows.last_eq {first last : Nat} {visits : List Visit} (hfirst : first ≤ newest)
    (h : l.Follows first visits last s) (hheads : ∀ v ∈ visits, v.head = newest) :
    last = min newest (first + visits.countP (·.processed) * Nat.max l.maxRange 1) := by
  induction h with
  | resume => simpa using hfirst
  | meanwhile _ _ ih => exact ih hheads
  | @step visits last s _ ih =>
    have hlast := ih fun v hv => hheads v (List.mem_append_left _ hv)
    rw [List.countP_append]
    obtain ⟨v, hvisit, hprocessed, hgoes, -⟩ | ⟨hunprocessed, hgoes, -⟩ := l.step_cases last s
    · have hrange := range_of_visit hvisit
      have hhead : v.head = newest := hheads v (List.mem_append_right _ (by simp [hvisit]))
      rw [hhead, BlockRange.next] at hrange
      split_ifs at hrange with hreached
      rw [hgoes, ← Option.some.inj hrange, hvisit]
      simp only [Option.toList_some, List.countP_singleton, hprocessed, if_true, Nat.add_mul]
      omega
    · have hnone : (l.visit? last s).toList.countP (·.processed) = 0 := by
        rw [List.countP_eq_zero]
        intro v hv
        rw [hunprocessed v (Option.mem_toList.mp hv)]
        exact Bool.false_ne_true
      rw [hgoes, hnone, Nat.add_zero]
      exact hlast
  | @stopped visits last s s' v fetched _ _ _ ih =>
    have hlast := ih fun v hv => hheads v (List.mem_append_left _ hv)
    simpa using hlast
  | @restart visits last block s hfollows hsome hresume ih =>
    obtain ⟨checkpoint, hcheckpoint⟩ := Option.isSome_iff_exists.mp hsome
    rw [← resumed_checkpoint hcheckpoint hresume, hfollows.invariant.2.1 checkpoint hcheckpoint]
    exact ih hheads

end Start

section Reach

/-- How a node replies to a poll, and to the fetch that follows it if there are new blocks. -/
def attempt (newest : Nat) (logs : Option (List Log)) : List Reply :=
  [.head newest, logs.elim .refused .logs]

theorem step_attempt {logs : Option (List Log)} {rest : List Reply}
    (hreplies : s.feed.replies = attempt newest logs ++ rest)
    (hup : s.connection.outages .setCheckpoint = 0) (hbehind : last < newest) :
    let out := (l.step last).run.run s
    (l.pause last out.1).1 =
        (if logs.isSome then min newest (last + Nat.max l.maxRange 1) else last) ∧
      out.2.feed.replies = rest := by
  obtain ⟨feed, hpoll, hfeed⟩ : ∃ feed, s.feed.head = (some newest, feed) ∧
      feed.replies = logs.elim .refused .logs :: rest := by
    rw [Feed.head, Feed.ask, hreplies]
    exact ⟨_, rfl, rfl⟩
  have hpolled : ({ s with feed } : Station).connection.outages .setCheckpoint = 0 := hup
  rw [run_step, run_head, hpoll]
  dsimp only
  rw [BlockRange.next, if_neg (not_le.mpr hbehind)]
  dsimp only
  rw [run_process l _ hpolled, run_fetch, Feed.logs, Feed.ask, hfeed]
  cases logs with
  | none => exact ⟨rfl, rfl⟩
  | some logs => exact ⟨rfl, rfl⟩

/-- Enough fetches granted take the listener to the head, however many are refused in between. -/
theorem exists_steps_newest {fetches : List (Option (List Log))} {rest : List Reply}
    (hreplies : s.feed.replies = fetches.flatMap (attempt newest) ++ rest)
    (hup : s.connection.outages .setCheckpoint = 0) (hle : last ≤ newest)
    (henough : newest ≤ last + fetches.countP (·.isSome) * Nat.max l.maxRange 1) :
    ∃ n ≤ fetches.length, (l.steps n last s).2.1 = newest := by
  induction fetches generalizing last s with
  | nil =>
    rw [List.countP_nil, Nat.zero_mul] at henough
    exact ⟨0, le_rfl, le_antisymm hle henough⟩
  | cons logs fetches ih =>
    obtain rfl | hbehind := hle.eq_or_lt
    · exact ⟨0, Nat.zero_le _, rfl⟩
    · rw [List.flatMap_cons, List.append_assoc] at hreplies
      obtain ⟨hgoes, hrest⟩ := step_attempt (l := l) hreplies hup hbehind
      have hnext : (l.pause last ((l.step last).run.run s).1).1 ≤ newest := by
        rw [hgoes]
        split_ifs
        · exact min_le_left _ _
        · exact hle
      have hmore : newest ≤ (l.pause last ((l.step last).run.run s).1).1 +
          fetches.countP (·.isSome) * Nat.max l.maxRange 1 := by
        rw [hgoes]
        cases logs with
        | none => simpa using henough
        | some logs =>
          simp only [List.countP_cons, Option.isSome_some, if_true, Nat.add_mul] at henough ⊢
          omega
      obtain ⟨n, hn, hreached⟩ := ih hrest (outages_step l last hup) hnext hmore
      exact ⟨n + 1, Nat.succ_le_succ hn, hreached⟩

end Reach

/-- A listener with a start, and nothing stored, resumes behind the block before the start. Whatever
a node whose newest block stays `newest` refuses, after any number of steps each block from the
start on, and none before it, lies in one processed range; if the store refuses no checkpoint, those
are the ranges whose fetches were granted. The listener is at the head as soon as enough were. Block
zero is in none of them. -/
theorem fetched_once_from_start (hstart : l.start = some start)
    (hnone : s.checkpoint l.context.chain = none) (hnewest : start ≤ newest)
    (hsteady : s.feed.Steady newest) :
    (s.connection.outages .checkpoint = 0 → l.resume.run.run s = (.ok (start - 1), s)) ∧
    (∀ n,
      let visits := (l.steps n (start - 1) s).1
      let last := (l.steps n (start - 1) s).2.1
      last = min newest (start - 1 + visits.countP (·.processed) * Nat.max l.maxRange 1) ∧
      (∀ block, (visits.filter (·.covers block)).length =
        if max start 1 ≤ block ∧ block ≤ last then 1 else 0) ∧
      (s.connection.outages .setCheckpoint = 0 → ∀ v ∈ visits, v.processed = v.fetched)) ∧
    ∀ (fetches : List (Option (List Log))) (rest : List Reply),
      s.connection.outages .setCheckpoint = 0 →
      s.feed.replies = fetches.flatMap (attempt newest) ++ rest →
      newest < start + fetches.countP (·.isSome) * Nat.max l.maxRange 1 →
      ∃ n ≤ fetches.length, (l.steps n (start - 1) s).2.1 = newest := by
  have hfirst : start - 1 ≤ newest := by omega
  refine ⟨run_resume hstart hnone, fun n => ?_, fun fetches rest hup hreplies henough => ?_⟩
  · have hfollows := (Follows.of_start hstart hnone).steps n
    rw [List.nil_append] at hfollows
    have hheads : ∀ v ∈ (l.steps n (start - 1) s).1, v.head = newest :=
      forall_steps (P := fun s => s.feed.Steady newest) (fun h => h.mono (l.replies_step _ _))
        newest_of_visit hsteady
    refine ⟨hfollows.last_eq hfirst hheads, fun block => ?_, fun hup => ?_⟩
    · rw [hfollows.invariant.1.once block]
      refine if_congr ?_ rfl rfl
      omega
    · exact forall_steps (P := fun s => s.connection.outages .setCheckpoint = 0)
        (outages_step l _) processed_of_visit hup
  · exact exists_steps_newest hreplies hup hfirst (by omega)

/-- A node whose newest block stays 8, and that refuses every other fetch. -/
def everyOther : Station where
  feed := .ofReplies ([none, some [], none, some []].flatMap (attempt 8))
  connection := .ofStore .empty
  graph := .empty 0

/-- From block 5 on, two blocks at a time. -/
theorem fetched_once_from_start_refused :
    let visits : List Visit := [⟨8, ⟨5, 6⟩, false, false⟩, ⟨8, ⟨5, 6⟩, true, true⟩,
      ⟨8, ⟨7, 8⟩, false, false⟩, ⟨8, ⟨7, 8⟩, true, true⟩]
    (byTwos.start = some 5 ∧ everyOther.checkpoint byTwos.context.chain = none ∧ 5 ≤ 8 ∧
        everyOther.feed.Steady 8) ∧
      (byTwos.resume.run.run everyOther).1 = .ok 4 ∧
      (byTwos.steps 4 4 everyOther).1 = visits ∧ (byTwos.steps 4 4 everyOther).2.1 = 8 ∧
      (∀ block, (visits.filter (·.covers block)).length =
        if 5 ≤ block ∧ block ≤ 8 then 1 else 0) ∧
      ∃ n ≤ 4, (byTwos.steps n 4 everyOther).2.1 = 8 := by
  intro visits
  have hnone : everyOther.checkpoint byTwos.context.chain = none := by decide +kernel
  have hsteady : everyOther.feed.Steady 8 := by
    simp [Feed.Steady, everyOther, Feed.ofReplies, attempt]
  obtain ⟨hresume, hruns, hreaches⟩ := fetched_once_from_start rfl hnone (by decide) hsteady
  have hvisits : (byTwos.steps 4 4 everyOther).1 = visits := by decide +kernel
  have hlast : (byTwos.steps 4 4 everyOther).2.1 = 8 := by decide +kernel
  have honce : ∀ block, ((byTwos.steps 4 4 everyOther).1.filter (·.covers block)).length =
      if 5 ≤ block ∧ block ≤ (byTwos.steps 4 4 everyOther).2.1 then 1 else 0 := (hruns 4).2.1
  rw [hvisits, hlast] at honce
  exact ⟨⟨rfl, hnone, by decide, hsteady⟩, congrArg Prod.fst (hresume rfl), hvisits, hlast, honce,
    hreaches [none, some [], none, some []] [] rfl rfl (by decide)⟩

/-- A listener that is to start at block zero resumes behind it, so that nothing fetches it. -/
theorem genesis_unfetched :
    let l : Listener := { byTwos with start := some 0 }
    let feed : Feed := .ofReplies ([some [], some []].flatMap (attempt 3))
    let s : Station := ⟨feed, .ofStore .empty, .empty 0⟩
    (l.resume.run.run s).1 = .ok 0 ∧ (l.steps 2 0 s).2.1 = 3 ∧
      ¬ ∀ block, 0 ≤ block → block ≤ 3 → ∃ v ∈ (l.steps 2 0 s).1,
        v.fetched = true ∧ v.range.first ≤ block ∧ block ≤ v.range.last := by
  intro l feed s
  have hvisits : (l.steps 2 0 s).1 = [⟨3, ⟨1, 2⟩, true, true⟩, ⟨3, ⟨3, 3⟩, true, true⟩] := by
    decide +kernel
  refine ⟨by decide +kernel, by decide +kernel, fun h => ?_⟩
  obtain ⟨v, hv, -, hfirst, -⟩ := h 0 le_rfl (by decide)
  rw [hvisits] at hv
  simp only [List.mem_cons, List.not_mem_nil, or_false] at hv
  obtain rfl | rfl := hv <;> contradiction

end Listener

end LiquidityGraph
