import LiquidityGraph.Discovery.TierScan
import LiquidityGraph.Proofs.Machine.Bitmap
import Mathlib.Data.List.Forall2

/-!
What a reading of a pool's ticks finds. A node may refuse any of the calls; when a scan of the
bitmap comes to its end it has found each initialized tick once, in ascending order. It does come to
its end if no call is refused.
-/
namespace LiquidityGraph

theorem Function.length_readWords {kinds : List WordKind} {data : List UInt8} {words : List Nat}
    (h : readWords kinds data = some words) : words.length = kinds.length := by
  induction kinds generalizing data words with
  | nil =>
    cases h
    rfl
  | cons kind kinds ih =>
    by_cases hshort : data.length < 32
    · simp [readWords, hshort] at h
    by_cases hdirty : kind = .flag ∧ 256 ≤ Bytes.toNat (data.take 32)
    · simp [readWords, hshort, hdirty] at h
    · rw [readWords, if_neg hshort, if_neg hdirty] at h
      obtain ⟨rest, hrest, h⟩ := Option.bind_eq_some_iff.mp h
      cases h
      rw [List.length_cons, List.length_cons, ih hrest]

private theorem Function.intWord_eq_of_callData {f g : Function} {i j : Int}
    (h : f.callData [intWord i] = g.callData [intWord j]) : intWord i = intWord j := by
  have hlength : [intWord i].flatten.length = [intWord j].flatten.length := by
    simp [intWord, Bytes.ofNat]
  simpa using List.append_inj_right' h hlength

private theorem map_eq_map_of_forall₂ {α β γ : Type} {f : α → γ} {g : β → γ} {as : List α}
    {bs : List β}
    (h : List.Forall₂ (fun a b => g b = f a) as bs) : bs.map g = as.map f := by
  induction h with
  | nil => rfl
  | cons hfirst _ ih => rw [List.map_cons, List.map_cons, hfirst, ih]

namespace Node

/-- The nodes that a node becomes by calls. -/
inductive Later (n : Node) : Node → Prop
  | now : n.Later n
  | call {m : Node} (target : Address) (data : List UInt8) :
      n.Later m → n.Later (m.call target data).2

def ask (n : Node) (f : Function) (target : Address) (i : Int) : Option (List Nat) :=
  (n.call target (f.callData [Function.intWord i])).1.bind f.result?

/-- Whenever the node returns a word of the pool's bitmap, the ticks have set its bits. -/
def Shows (n : Node) (pool : Address) (ticks : Finset Int) (spacing : Int) : Prop :=
  ∀ m, n.Later m → ∀ word ∈ Bitmap.words spacing, ∀ returned,
    m.ask Function.tickBitmap pool word = some returned →
      returned = [Bitmap.encode ticks spacing word]

/-- The node always returns the words of the pool's bitmap, and the ticks. -/
structure Serves (n : Node) (pool : Address) (ticks : Finset Int) (spacing : Int) : Prop where
  words : ∀ m, n.Later m → ∀ word ∈ Bitmap.words spacing,
    (m.ask Function.tickBitmap pool word).isSome
  ticks : ∀ m, n.Later m → ∀ i ∈ ticks, (m.ask Function.tick pool i).isSome

end Node

namespace Discovery

namespace Reading

variable {α β : Type} {n : Node} {sure : Prop}

theorem run_bind (r : Reading α) (f : α → Reading β) (s : Source) :
    (r >>= f).run.run s =
      match r.run.run s with
      | (some a, s) => (f a).run.run s
      | (none, s) => (none, s) := by
  rw [OptionT.run_bind, Option.elimM, StateT.run_bind]
  cases r.run.run s with
  | mk o s => cases o <;> rfl

/-- What comes of a reading, and what has become of the node that it was taken from. -/
structure Outcome (n : Node) (sure : Prop) (post : α → Prop) (o : Option α × Source) : Prop where
  later : n.Later o.2.node
  sound : ∀ a, o.1 = some a → post a
  reads : sure → o.1.isSome

/-- At any time what is read satisfies a condition, and if `sure` holds something is read. -/
def Meets (n : Node) (sure : Prop) (r : Reading α) (post : α → Prop) : Prop :=
  ∀ s : Source, n.Later s.node → Outcome n sure post (r.run.run s)

variable {r : Reading α} {post mid : α → Prop}

theorem Meets.pure {a : α} (h : post a) : Meets n sure (pure a) post := by
  intro s hs
  refine ⟨hs, ?_, fun _ => rfl⟩
  rintro _ ⟨⟩
  exact h

theorem Meets.mono (h : Meets n sure r mid) (hpost : ∀ a, mid a → post a) :
    Meets n sure r post :=
  fun s hs => ⟨(h s hs).later, fun a ha => hpost a ((h s hs).sound a ha), (h s hs).reads⟩

theorem Meets.bind {f : α → Reading β} {post : β → Prop} (h : Meets n sure r mid)
    (hf : ∀ a, mid a → Meets n sure (f a) post) : Meets n sure (r >>= f) post := by
  intro s hs
  obtain ⟨hlater, hsound, hreads⟩ := h s hs
  rw [run_bind]
  cases hrun : r.run.run s with
  | mk o s' =>
    rw [hrun] at hlater hsound hreads
    cases o with
    | none => exact ⟨hlater, nofun, hreads⟩
    | some a => exact hf a (hsound a rfl) s' hlater

/-- A reading that has failed is repeated from what the node has become. -/
theorem Meets.retry (h : Meets n sure r post) (times : Nat) :
    Meets n sure (retry r times) post := by
  induction times with
  | zero => exact h
  | succ times ih =>
    intro s hs
    have hrun : (r <|> Reading.retry r times).run.run s =
        match r.run.run s with
        | (some a, s) => (some a, s)
        | (none, s) => (Reading.retry r times).run.run s := by
      rw [OptionT.run_orElse, Option.elimM, StateT.run_bind]
      cases r.run.run s with
      | mk o s => cases o <;> rfl
    obtain ⟨hlater, hsound, hreads⟩ := h s hs
    rw [Reading.retry, hrun]
    cases hfirst : r.run.run s with
    | mk o s' =>
      rw [hfirst] at hlater hsound hreads
      cases o with
      | none => exact ih s' hlater
      | some a => exact ⟨hlater, hsound, hreads⟩

theorem Meets.mapM {f : α → Reading β} {related : α → β → Prop} {as : List α}
    (h : ∀ a ∈ as, Meets n sure (f a) (related a)) :
    Meets n sure (as.mapM f) (List.Forall₂ related as) := by
  induction as with
  | nil => exact .pure .nil
  | cons a as ih =>
    obtain ⟨hfirst, hrest⟩ := List.forall_mem_cons.mp h
    rw [List.mapM_cons]
    refine hfirst.bind fun b hb => ?_
    exact (ih hrest).bind fun bs hbs => .pure (.cons hb hbs)

theorem Meets.call {f : Function} {target : Address} {i : Int} {post : List Nat → Prop}
    (hsound : ∀ m, n.Later m → ∀ returned, m.ask f target i = some returned → post returned)
    (hreads : sure → ∀ m, n.Later m → (m.ask f target i).isSome) :
    Meets n sure (call f target [Function.intWord i]) post :=
  fun s hs => ⟨hs.call target _, hsound s.node hs, fun h => hreads h s.node hs⟩

end Reading

namespace TierScan

open Reading (Meets)

variable {n : Node} {sure : Prop} {t : TierScan} {pool : Address} {ticks : Finset Int}
  {spacing : Int}

theorem meets_readTick {i : Int}
    (h : sure → ∀ m, n.Later m → (m.ask Function.tick pool i).isSome) :
    Meets n sure (t.readTick pool i) (·.index = i) := by
  have hcall : Meets n sure (Reading.call Function.tick pool [Function.intWord i])
      (·.length = 8) := by
    refine Meets.call (fun m _ returned hreturned => ?_) h
    obtain ⟨reply, -, hresult⟩ := Option.bind_eq_some_iff.mp hreturned
    exact Function.length_readWords hresult
  refine (hcall.retry t.retries).bind fun words hwords => ?_
  obtain ⟨gross, words, rfl⟩ := List.exists_cons_of_length_eq_add_one hwords
  obtain ⟨net, words, rfl⟩ := List.exists_cons_of_length_eq_add_one (Nat.succ.inj hwords)
  exact .pure rfl

theorem meets_readWord (hspaced : Bitmap.Spaced ticks spacing) (hshows : n.Shows pool ticks spacing)
    (hserves : sure → n.Serves pool ticks spacing) {word : Int}
    (hword : word ∈ Bitmap.words spacing) :
    Meets n sure (t.readWord pool spacing word) fun found =>
      found.map (·.index) =
        Bitmap.ticksIn word (Bitmap.encode ticks spacing word) spacing := by
  have hcall : Meets n sure (Reading.word Function.tickBitmap pool [Function.intWord word])
      (· = Bitmap.encode ticks spacing word) := by
    refine (Meets.call (fun m hm => hshows m hm word hword)
      fun h m hm => (hserves h).words m hm word hword).bind fun returned hreturned => ?_
    rw [hreturned]
    exact .pure rfl
  refine (hcall.retry t.retries).bind fun bitmap hbitmap => ?_
  rw [hbitmap]
  refine (Meets.mapM fun i hi => meets_readTick fun h m hm => ?_).mono fun found hfound => ?_
  · exact (hserves h).ticks m hm i ((Bitmap.mem_ticksIn_encode hspaced).mp hi).1
  · rw [map_eq_map_of_forall₂ hfound, List.map_id']

theorem meets_readTicks (hspaced : Bitmap.Spaced ticks spacing)
    (hshows : n.Shows pool ticks spacing) (hserves : sure → n.Serves pool ticks spacing) :
    Meets n sure (t.readTicks pool spacing) fun found =>
      found.map (·.index) = (Bitmap.words spacing).flatMap fun word =>
        Bitmap.ticksIn word (Bitmap.encode ticks spacing word) spacing := by
  refine (Meets.mapM fun word hword => meets_readWord hspaced hshows hserves hword).bind
    fun found hfound => .pure ?_
  rw [List.map_flatten, map_eq_map_of_forall₂ hfound, List.flatMap_def]

/-- The words of the range give back the ticks that are written into them, and machine words are
wide enough for it. What is read from a node that shows the ticks is all of them, each once and in
ascending order, and a node that serves them is read to the end. -/
theorem bitmap_scanned_once (hspacing : 1 ≤ spacing) (hspacing' : spacing ≤ 2 ^ 15)
    (hspaced : Bitmap.Spaced ticks spacing) :
    ((Bitmap.words spacing).flatMap fun word =>
        Bitmap.ticksIn word (Bitmap.encode ticks spacing word) spacing) = ticks.sort (· ≤ ·) ∧
      Machine.wordRange spacing = (pure (Bitmap.wordRange spacing) : Machine Empty (Int × Int)) ∧
      (∀ word ∈ Bitmap.words spacing, ∀ bitmap : Nat, Machine.ticksIn word bitmap spacing =
        (pure (Bitmap.ticksIn word bitmap spacing) : Machine Empty (List Int))) ∧
      ∀ (t : TierScan) (pool : Address) (s : Source), s.node.Shows pool ticks spacing →
        (∀ found, ((t.readTicks pool spacing).run.run s).1 = some found →
          found.map (·.index) = ticks.sort (· ≤ ·)) ∧
        (s.node.Serves pool ticks spacing → ((t.readTicks pool spacing).run.run s).1.isSome) := by
  have hsorted := Bitmap.flatMap_encode hspacing hspaced
  refine ⟨hsorted, Machine.wordRange_safe hspacing,
    fun word hword bitmap => Machine.ticksIn_safe hspacing hspacing' hword bitmap, ?_⟩
  intro t pool s hshows
  have hmeets : Meets s.node (s.node.Serves pool ticks spacing) (t.readTicks pool spacing) _ :=
    meets_readTicks hspaced hshows id
  obtain ⟨-, hsound, hreads⟩ := hmeets s .now
  refine ⟨fun found hfound => ?_, hreads⟩
  rw [hsound found hfound, hsorted]

end TierScan

end Discovery

namespace Node

variable {n m : Node} {target : Address} {data : List UInt8} {es : List CallReplies}

private theorem take_fst {e : CallReplies} {reply : Option (List UInt8)}
    (h : (es.map (·.data)).Nodup)
    (he : e ∈ es) (hreply : e.replies = [reply]) : (take e.target e.data es).1 = reply := by
  induction es with
  | nil => exact absurd he List.not_mem_nil
  | cons first es ih =>
    rw [List.map_cons, List.nodup_cons] at h
    obtain rfl | he := List.mem_cons.mp he
    · simp only [take, and_self, if_true, CallReplies.next, hreply]
    · have hne : first.data ≠ e.data := fun heq => h.1 (heq ▸ List.mem_map_of_mem he)
      simp only [take, hne, and_false, if_false]
      exact ih h.2 he

private theorem take_snd (h : ∀ e ∈ es, e.replies.length = 1) : (take target data es).2 = es := by
  induction es with
  | nil => rfl
  | cons e es ih =>
    obtain ⟨hfirst, hrest⟩ := List.forall_mem_cons.mp h
    obtain ⟨reply, hreply⟩ := List.length_eq_one_iff.mp hfirst
    by_cases hmatch : e.target = target ∧ e.data = data
    · simp only [take, if_pos hmatch, CallReplies.next, hreply]
    · simp only [take, if_neg hmatch, ih hrest]

theorem Later.entries_eq (h : ∀ e ∈ n.entries, e.replies.length = 1) (hm : n.Later m) :
    m.entries = n.entries := by
  induction hm with
  | now => rfl
  | call target data hm ih => exact (take_snd (ih ▸ h)).trans ih

def answering (target : Address) (answers : List (Function × Int × List UInt8)) : Node :=
  ofEntries (answers.map fun a =>
    ⟨target, a.1.callData [Function.intWord a.2.1], [some a.2.2]⟩)

theorem ask_answering {answers : List (Function × Int × List UInt8)} {f : Function} {i : Int}
    {reply : List UInt8} (h : (answers.map fun a => Function.intWord a.2.1).Nodup)
    (ha : (f, i, reply) ∈ answers) (hm : (answering target answers).Later m) :
    m.ask f target i = f.result? reply := by
  have hone : ∀ e ∈ (answering target answers).entries, e.replies.length = 1 := by
    intro e he
    obtain ⟨_, -, rfl⟩ := List.mem_map.mp he
    rfl
  have hentries := hm.entries_eq hone
  have hdistinct : (m.entries.map (·.data)).Nodup := by
    rw [hentries, answering, ofEntries, List.map_map]
    refine List.pairwise_map.mpr ((List.pairwise_map.mp h).imp fun hne heq => hne ?_)
    exact Function.intWord_eq_of_callData heq
  have he : ⟨target, f.callData [Function.intWord i], [some reply]⟩ ∈ m.entries := by
    rw [hentries]
    exact List.mem_map_of_mem ha
  have hhas : m.has target (f.callData [Function.intWord i]) = true :=
    List.any_eq_true.mpr ⟨_, he, by simp⟩
  have htake := take_fst hdistinct he rfl
  simp only [ask, call, hhas, if_true, htake, Option.bind_some]

end Node

namespace Discovery.TierScan

def twoTicks : List (Function × Int × List UInt8) :=
  [(Function.tickBitmap, -1, Function.natWord (2 ^ 255)),
    (Function.tickBitmap, 0, Function.natWord 4),
    (Function.tick, -32768, (List.replicate 8 (Function.natWord 1)).flatten),
    (Function.tick, 65536, (List.replicate 8 (Function.natWord 1)).flatten)]

theorem bitmap_scanned_once_two_ticks :
    let ticks : Finset Int := {-32768, 65536}
    let n := Node.answering Address.zero twoTicks
    let s : Source := ⟨n, Connection.ofStore Store.empty⟩
    let t : TierScan := ⟨⟨⟨"dfk"⟩, [], []⟩, [3000], 2⟩
    Bitmap.Spaced ticks 32768 ∧ n.Shows Address.zero ticks 32768 ∧
      n.Serves Address.zero ticks 32768 ∧
      ∃ found, ((t.readTicks Address.zero 32768).run.run s).1 = some found ∧
        found.map (·.index) = [-32768, 65536] := by
  intro ticks n s t
  have hspaced : Bitmap.Spaced ticks 32768 := ⟨by decide, by decide⟩
  have hwords : Bitmap.words 32768 = [-1, 0] := by decide +kernel
  have hfirst : Bitmap.encode ticks 32768 (-1) = 2 ^ 255 := by decide +kernel
  have hlast : Bitmap.encode ticks 32768 0 = 4 := by decide +kernel
  have hask : ∀ {m f i reply}, n.Later m → (f, i, reply) ∈ twoTicks →
      m.ask f Address.zero i = f.result? reply :=
    fun hm ha => Node.ask_answering (by decide +kernel) ha hm
  have hwords' : ∀ m, n.Later m → ∀ word ∈ Bitmap.words 32768,
      m.ask Function.tickBitmap Address.zero word = some [Bitmap.encode ticks 32768 word] := by
    intro m hm word hword
    rw [hwords, List.mem_pair] at hword
    obtain rfl | rfl := hword
    · rw [hask hm (.head _), hfirst]
      decide +kernel
    · rw [hask hm (.tail _ (.head _)), hlast]
      decide +kernel
  have hshows : n.Shows Address.zero ticks 32768 := by
    intro m hm word hword returned hreturned
    rw [hwords' m hm word hword] at hreturned
    exact (Option.some.inj hreturned).symm
  have hserves : n.Serves Address.zero ticks 32768 := by
    refine ⟨fun m hm word hword => ?_, fun m hm i hi => ?_⟩
    · rw [hwords' m hm word hword]
      rfl
    · rw [Finset.mem_insert, Finset.mem_singleton] at hi
      obtain rfl | rfl := hi
      · rw [hask hm (.tail _ (.tail _ (.head _)))]
        decide +kernel
      · rw [hask hm (.tail _ (.tail _ (.tail _ (.head _))))]
        decide +kernel
  obtain ⟨hsorted, -, -, hscan⟩ := bitmap_scanned_once (by decide) (by decide) hspaced
  obtain ⟨hsound, hreads⟩ := hscan t Address.zero s hshows
  obtain ⟨found, hfound⟩ := Option.isSome_iff_exists.mp (hreads hserves)
  refine ⟨hspaced, hshows, hserves, found, hfound, ?_⟩
  rw [hsound found hfound, ← hsorted]
  decide +kernel

end Discovery.TierScan

end LiquidityGraph
