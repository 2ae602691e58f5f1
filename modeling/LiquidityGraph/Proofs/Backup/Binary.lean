import LiquidityGraph.Backup.Binary
import LiquidityGraph.Proofs.Text.Decimal
import LiquidityGraph.Proofs.Word
import Mathlib.Order.Nat

/-!
A backup is read back from its bytes, whatever stands behind them, and no bytes that are cut off
are read as a backup: a reader that succeeds goes by what it takes alone, so that it would leave
the missing bytes behind the backup that the whole was written from.
-/
namespace LiquidityGraph

namespace Binary

variable {α β : Type}

/-- What is read, and what is left, does not depend on what stands behind. -/
def Local (read : List UInt8 → Option (α × List UInt8)) : Prop :=
  ∀ ⦃bs a rest⦄, read bs = some (a, rest) → ∀ more, read (bs ++ more) = some (a, rest ++ more)

theorem local_pure (a : α) : Local fun bs => some (a, bs) := by
  rintro bs _ _ ⟨⟩ more
  rfl

theorem Local.bind {read : List UInt8 → Option (α × List UInt8)}
    {next : α × List UInt8 → Option (β × List UInt8)} (h : Local read)
    (hnext : ∀ a, Local fun bs => next (a, bs)) : Local fun bs => read bs >>= next := by
  intro bs b rest hread more
  obtain ⟨⟨a, left⟩, ha, hb⟩ := Option.bind_eq_some_iff.mp hread
  exact Option.bind_eq_some_iff.mpr ⟨(a, left ++ more), h ha more, hnext a hb more⟩

theorem local_check (x : Option α) : Local fun bs => do return (← x, bs) := by
  cases x with
  | none => exact fun _ _ _ h => nomatch h
  | some a => exact local_pure a

theorem local_readLittleEndian (size : Nat) : Local (readLittleEndian size) := by
  induction size with
  | zero => exact local_pure 0
  | succ size ih =>
    intro bs n rest h more
    cases bs with
    | nil => cases h
    | cons b bs => exact ih.bind (fun n => local_pure (b.toNat + 256 * n)) h more

theorem local_readInt32 : Local readInt32 :=
  (local_readLittleEndian 4).bind fun n => local_pure (Word.toSigned 32 n)

theorem local_take (n : Nat) : Local fun bs => (do
    if n ≤ bs.length then
      let s ← String.fromUTF8? ⟨(bs.take n).toArray⟩
      return (s, bs.drop n)
    else none) := by
  intro bs s rest h more
  beta_reduce at h ⊢
  by_cases hn : n ≤ bs.length
  · have hmore : n ≤ (bs ++ more).length := by
      rw [List.length_append]
      omega
    rw [if_pos hn] at h
    rw [if_pos hmore, List.take_append_of_le_length hn, List.drop_append_of_le_length hn]
    obtain ⟨s, hs, h⟩ := Option.bind_eq_some_iff.mp h
    cases h
    exact Option.bind_eq_some_iff.mpr ⟨s, hs, rfl⟩
  · rw [if_neg hn] at h
    cases h

theorem local_readText : Local readText :=
  (local_readLittleEndian 8).bind local_take

theorem local_readDecimal (parse : String → Option α) : Local (readDecimal parse) :=
  local_readText.bind fun s => local_check (parse s)

theorem local_readItems {read : List UInt8 → Option (α × List UInt8)} (h : Local read) (n : Nat) :
    Local (readItems read n) := by
  induction n with
  | zero => exact local_pure []
  | succ n ih => exact h.bind fun item => ih.bind fun items => local_pure (item :: items)

theorem local_readList {read : List UInt8 → Option (α × List UInt8)} (h : Local read) :
    Local (readList read) :=
  (local_readLittleEndian 8).bind (local_readItems h)

theorem local_readPool : Local readPool :=
  local_readText.bind fun _ => local_readText.bind fun _ => local_readText.bind fun _ =>
    local_readText.bind fun _ => local_readText.bind fun _ => local_pure _

theorem local_readEdge : Local readEdge :=
  local_readText.bind fun _ => local_readText.bind fun _ => local_readText.bind fun _ =>
    local_readText.bind fun _ => local_readText.bind fun _ => local_pure _

theorem local_readTick : Local readTick :=
  local_readInt32.bind fun _ => (local_readDecimal _).bind fun _ =>
    (local_readDecimal _).bind fun _ => local_pure _

theorem local_readTickSet : Local readTickSet :=
  local_readText.bind fun _ => local_readInt32.bind fun _ =>
    (local_readList local_readTick).bind fun _ => local_pure _

theorem local_readPoolFee : Local readPoolFee :=
  local_readText.bind fun _ => (local_readDecimal _).bind fun _ => local_pure _

theorem local_read : Local Backup.read :=
  (local_readDecimal _).bind fun _ => (local_readList local_readPool).bind fun _ =>
    (local_readList local_readEdge).bind fun _ => (local_readList local_readTickSet).bind fun _ =>
      (local_readList local_readPoolFee).bind fun _ => local_pure _

section ReadBack

theorem readLittleEndian_littleEndian {size n : Nat} (h : n < Word.size (8 * size))
    (rest : List UInt8) :
    readLittleEndian size (littleEndian size n ++ rest) = some (n, rest) := by
  induction size generalizing n with
  | zero =>
    have hzero : n = 0 := Nat.lt_one_iff.mp h
    rw [hzero]
    rfl
  | succ size ih =>
    have hsize : Word.size (8 * (size + 1)) = Word.size (8 * size) * 256 :=
      Word.size_add (8 * size) 8
    have hbyte : (UInt8.ofNat (n % 256)).toNat = n % 256 :=
      UInt8.toNat_ofNat_of_lt' (Nat.mod_lt n (by decide))
    have hread := ih (n := n / 256) (by omega)
    simp only [littleEndian, List.cons_append, readLittleEndian, hread, hbyte, Option.bind_eq_bind,
      Option.bind_some, Nat.mod_add_div]
    rfl

theorem readLength_length {n : Nat} (h : n < Word.size 64) (rest : List UInt8) :
    readLength (length n ++ rest) = some (n, rest) :=
  readLittleEndian_littleEndian h rest

theorem readInt32_int32 {i : Int} (hl : -(Word.size 31 : Int) ≤ i) (hh : i < Word.size 31)
    (rest : List UInt8) : readInt32 (int32 i ++ rest) = some (i, rest) := by
  have hword : Word.ofSigned 32 i < Word.size 32 := by
    have hmod := Int.emod_lt_of_pos i (show 0 < (Word.size 32 : Int) by decide)
    have hpos := Int.emod_nonneg i (show (Word.size 32 : Int) ≠ 0 by decide)
    unfold Word.ofSigned
    omega
  have hread : readLittleEndian 4 (littleEndian 4 (Word.ofSigned 32 i) ++ rest) =
      some (Word.ofSigned 32 i, rest) := readLittleEndian_littleEndian hword rest
  rw [readInt32, int32, hread]
  exact congrArg (fun i => some (i, rest)) (Word.toSigned_ofSigned 31 hl hh)

private theorem toList_loop (bytes : ByteArray) (i : Nat) (read : List UInt8) :
    ByteArray.toList.loop bytes i read = read.reverse ++ bytes.data.toList.drop i := by
  fun_induction ByteArray.toList.loop bytes i read with
  | case1 i read hi ih =>
    have hlength : i < bytes.data.toList.length := hi
    rw [ih, List.drop_eq_getElem_cons hlength]
    simp [ByteArray.get!, hi]
  | case2 i read hi =>
    rw [List.drop_eq_nil_of_le (Nat.le_of_not_lt hi), List.append_nil]

private theorem toList_eq_data (bytes : ByteArray) : bytes.toList = bytes.data.toList := by
  rw [ByteArray.toList, toList_loop]
  rfl

theorem readText_text {s : String} (h : s.utf8ByteSize < Word.size 64) (rest : List UInt8) :
    readText (text s ++ rest) = some (s, rest) := by
  have hlength : s.toUTF8.data.toList.length = s.utf8ByteSize := rfl
  have hutf : String.fromUTF8? s.toUTF8 = some s := dif_pos s.isValidUTF8
  have hfits : s.utf8ByteSize ≤ (s.toUTF8.data.toList ++ rest).length := by
    rw [List.length_append]
    omega
  rw [text, toList_eq_data, List.append_assoc, readText, readLength_length h]
  simp only [Option.bind_eq_bind, Option.bind_some, if_pos hfits, List.take_left' hlength,
    List.drop_left' hlength, Array.toArray_toList, hutf]
  rfl

theorem readDecimal_text {parse : String → Option α} {s : String} {a : α}
    (h : s.utf8ByteSize < Word.size 64) (hparse : parse s = some a) (rest : List UInt8) :
    readDecimal parse (text s ++ rest) = some (a, rest) := by
  rw [readDecimal, readText_text h]
  simp only [Option.bind_eq_bind, Option.bind_some, hparse]
  rfl

theorem readItems_flatMap {write : α → List UInt8} {read : List UInt8 → Option (α × List UInt8)}
    {items : List α} (h : ∀ a ∈ items, ∀ rest, read (write a ++ rest) = some (a, rest))
    (rest : List UInt8) :
    readItems read items.length (items.flatMap write ++ rest) = some (items, rest) := by
  induction items with
  | nil => rfl
  | cons a items ih =>
    obtain ⟨ha, hitems⟩ := List.forall_mem_cons.mp h
    simp only [List.length_cons, List.flatMap_cons, List.append_assoc, readItems, ha, ih hitems,
      Option.bind_eq_bind, Option.bind_some]
    rfl

theorem readList_list {write : α → List UInt8} {read : List UInt8 → Option (α × List UInt8)}
    {items : List α} (hlength : items.length < Word.size 64)
    (h : ∀ a ∈ items, ∀ rest, read (write a ++ rest) = some (a, rest)) (rest : List UInt8) :
    readList read (list write items ++ rest) = some (items, rest) := by
  rw [list, List.append_assoc, readList, readLength_length hlength]
  exact readItems_flatMap h rest

theorem readDecimal_ofNat {parse : String → Option Nat} {n : Nat} (h : n < Word.size 256)
    (hparse : parse (Decimal.ofNat n) = some n) (rest : List UInt8) :
    readDecimal parse (text (Decimal.ofNat n) ++ rest) = some (n, rest) := by
  refine readDecimal_text ?_ hparse rest
  have hdigits : n < Nat.pow 10 (77 + 1) := h.trans (by decide)
  exact (Decimal.utf8ByteSize_ofNat_le hdigits).trans_lt (by decide)

theorem readDecimal_ofInt {parse : String → Option Int} {i : Int} (h : i.natAbs < Word.size 256)
    (hparse : parse (Decimal.ofInt i) = some i) (rest : List UInt8) :
    readDecimal parse (text (Decimal.ofInt i) ++ rest) = some (i, rest) := by
  refine readDecimal_text ?_ hparse rest
  have hdigits : i.natAbs < Nat.pow 10 (77 + 1) := h.trans (by decide)
  exact (Decimal.utf8ByteSize_ofInt_le hdigits).trans_lt (by decide)

end ReadBack

end Binary

/-- Lengths are words of 64 bits. -/
def Pool.Sized (p : Pool) : Prop :=
  ∀ s ∈ [p.token0.text, p.token1.text, p.id.text, p.factory, p.chain.text],
    s.utf8ByteSize < Word.size 64

def EdgeRecord.Sized (r : EdgeRecord) : Prop :=
  ∀ s ∈ [r.key.chain.text, r.key.source.text, r.key.target.text, r.key.pool.text, r.data],
    s.utf8ByteSize < Word.size 64

structure Tick.Sized (t : Tick) : Prop where
  index : -(Word.size 31 : Int) ≤ t.index ∧ t.index < Word.size 31
  gross : t.gross < Word.size 128
  net : -(Word.size 127 : Int) ≤ t.net ∧ t.net < Word.size 127

structure TickSet.Sized (s : TickSet) : Prop where
  pool : s.pool.text.utf8ByteSize < Word.size 64
  spacing : -(Word.size 31 : Int) ≤ s.spacing ∧ s.spacing < Word.size 31
  length : s.ticks.length < Word.size 64
  ticks : ∀ t ∈ s.ticks, t.Sized

structure PoolFee.Sized (f : PoolFee) : Prop where
  pool : f.pool.text.utf8ByteSize < Word.size 64
  fee : f.fee < Word.size 256

/-- The numbers of a backup are machine words, and so are the lengths of its texts and lists. -/
structure Backup.Sized (b : Backup) : Prop where
  defaultFee : b.defaultFee < Word.size 256
  lengths : ∀ n ∈ [b.pools.length, b.edges.length, b.ticks.length, b.fees.length],
    n < Word.size 64
  pools : ∀ p ∈ b.pools, p.Sized
  edges : ∀ r ∈ b.edges, r.Sized
  ticks : ∀ s ∈ b.ticks, s.Sized
  fees : ∀ f ∈ b.fees, f.Sized

namespace Binary

theorem readPool_pool {p : Pool} (h : p.Sized) (rest : List UInt8) :
    readPool (pool p ++ rest) = some (p, rest) := by
  simp only [Pool.Sized, List.forall_mem_cons] at h
  obtain ⟨htoken0, htoken1, hid, hfactory, hchain, -⟩ := h
  simp only [readPool, pool, List.append_assoc, readText_text, htoken0, htoken1, hid, hfactory,
    hchain, Option.bind_eq_bind, Option.bind_some]
  rfl

theorem readEdge_edge {r : EdgeRecord} (h : r.Sized) (rest : List UInt8) :
    readEdge (edge r ++ rest) = some (r, rest) := by
  simp only [EdgeRecord.Sized, List.forall_mem_cons] at h
  obtain ⟨hchain, hsource, htarget, hpool, hdata, -⟩ := h
  simp only [readEdge, edge, List.append_assoc, readText_text, hchain, hsource, htarget, hpool,
    hdata, Option.bind_eq_bind, Option.bind_some]
  rfl

theorem readTick_tick {t : Tick} (h : t.Sized) (rest : List UInt8) :
    readTick (tick t ++ rest) = some (t, rest) := by
  obtain ⟨hindex, hgross, hnet⟩ := h
  have hgrossRead : Decimal.unsigned? 128 (Decimal.ofNat t.gross) = some t.gross := by
    simp [hgross]
  have hnetRead : Decimal.signed? 128 (Decimal.ofInt t.net) = some t.net := by
    rw [Decimal.signed?_ofInt]
    exact if_pos hnet
  have hwide : Word.size 128 < Word.size 256 := Word.size_lt (by decide)
  have hnetWide : t.net.natAbs < Word.size 256 := by
    have hless : Word.size 127 < Word.size 256 := Word.size_lt (by decide)
    omega
  simp only [readTick, tick, List.append_assoc, readInt32_int32 hindex.1 hindex.2,
    readDecimal_ofNat (hgross.trans hwide) hgrossRead, readDecimal_ofInt hnetWide hnetRead,
    Option.bind_eq_bind, Option.bind_some]
  rfl

theorem readTickSet_tickSet {s : TickSet} (h : s.Sized) (rest : List UInt8) :
    readTickSet (tickSet s ++ rest) = some (s, rest) := by
  have hticks := readList_list h.length fun t ht => readTick_tick (h.ticks t ht)
  simp only [readTickSet, tickSet, List.append_assoc, readText_text h.pool,
    readInt32_int32 h.spacing.1 h.spacing.2, hticks, Option.bind_eq_bind, Option.bind_some]
  rfl

theorem readDecimal_word {n : Nat} (h : n < Word.size 256) (rest : List UInt8) :
    readDecimal (Decimal.word? 256) (text (Decimal.ofNat n) ++ rest) = some (n, rest) := by
  refine readDecimal_ofNat h ?_ rest
  simp [h]

theorem readPoolFee_poolFee {f : PoolFee} (h : f.Sized) (rest : List UInt8) :
    readPoolFee (poolFee f ++ rest) = some (f, rest) := by
  simp only [readPoolFee, poolFee, List.append_assoc, readText_text h.pool,
    readDecimal_word h.fee, Option.bind_eq_bind, Option.bind_some]
  rfl

end Binary

namespace Backup

open Binary

theorem read_encode {b : Backup} (h : b.Sized) (rest : List UInt8) :
    read (b.encode ++ rest) = some (b, rest) := by
  obtain ⟨hfee, hlengths, hpools, hedges, hticks, hfees⟩ := h
  simp only [List.forall_mem_cons] at hlengths
  obtain ⟨hpoolsLength, hedgesLength, hticksLength, hfeesLength, -⟩ := hlengths
  have hpools := readList_list hpoolsLength fun p hp => readPool_pool (hpools p hp)
  have hedges := readList_list hedgesLength fun r hr => readEdge_edge (hedges r hr)
  have hticks := readList_list hticksLength fun s hs => readTickSet_tickSet (hticks s hs)
  have hfees := readList_list hfeesLength fun f hf => readPoolFee_poolFee (hfees f hf)
  simp only [read, encode, List.append_assoc, readDecimal_word hfee, hpools, hedges, hticks, hfees,
    Option.bind_eq_bind, Option.bind_some]
  rfl

/-- Bytes that are cut off are not read: what is missing would have been left behind. -/
theorem read_of_cut {b : Backup} (h : b.Sized) {bs : List UInt8} (hcut : bs <+: b.encode)
    (hne : bs ≠ b.encode) : read bs = none := by
  obtain ⟨more, hmore⟩ := hcut
  cases hread : read bs with
  | none => rfl
  | some found =>
    obtain ⟨b', rest⟩ := found
    have hwhole := local_read hread more
    have hback := read_encode h []
    rw [hmore] at hwhole
    rw [List.append_nil, hwhole] at hback
    have hleft : rest ++ more = [] := congrArg Prod.snd (Option.some.inj hback)
    have hnone : more = [] := (List.append_eq_nil_iff.mp hleft).2
    rw [hnone, List.append_nil] at hmore
    exact absurd hmore hne

/-- A backup is read back from its file, whatever stands behind it, and a file that is cut off is
refused. -/
theorem file_whole_or_refused {b : Backup} (h : b.Sized) :
    (∀ rest, decode (b.encode ++ rest) = some b ∧ ofFile (some (b.encode ++ rest)) = .ok b) ∧
      ∀ bs, bs <+: b.encode → bs ≠ b.encode →
        decode bs = none ∧ ofFile (some bs) = .error .undecodable := by
  refine ⟨fun rest => ?_, fun bs hcut hne => ?_⟩
  · have hdecode : decode (b.encode ++ rest) = some b := by
      rw [decode, read_encode h rest]
      rfl
    exact ⟨hdecode, by rw [ofFile, hdecode]; rfl⟩
  · have hdecode : decode bs = none := by
      rw [decode, read_of_cut h hcut hne]
      rfl
    exact ⟨hdecode, by rw [ofFile, hdecode]; rfl⟩

/-- One pool, with an edge, a tick set and the greatest fee. -/
def small : Backup where
  defaultFee := 3000
  pools := [⟨⟨"\"é\n"⟩, ⟨"😀"⟩, ⟨"pool"⟩, "", ⟨"chain"⟩⟩]
  edges := [⟨⟨⟨"\"é\n"⟩, ⟨"😀"⟩, ⟨"pool"⟩, ⟨"chain"⟩⟩, "no edge"⟩]
  ticks := [⟨⟨"pool"⟩, -60, [⟨-887272, 0, -170141183460469231731687303715884105728⟩, ⟨7, 1, 1⟩]⟩]
  fees := [⟨⟨"pool"⟩, Word.size 256 - 1⟩]

theorem file_whole_or_refused_small :
    let cut := text (Decimal.ofNat small.defaultFee) ++ list pool small.pools ++
      list edge small.edges ++ list tickSet small.ticks
    small.Sized ∧ ofFile (some (small.encode ++ [255])) = .ok small ∧
      cut <+: small.encode ∧ ofFile (some cut) = .error .undecodable := by
  intro cut
  have hpools : ∀ p ∈ small.pools, p.Sized := by
    unfold Pool.Sized
    decide
  have hedges : ∀ r ∈ small.edges, r.Sized := by
    unfold EdgeRecord.Sized
    decide
  have hticks : ∀ s ∈ small.ticks, s.Sized := by
    refine List.forall_mem_singleton.mpr ⟨by decide, by decide, by decide, ?_⟩
    refine List.forall_mem_cons.mpr ⟨⟨by decide, by decide, by decide⟩, ?_⟩
    exact List.forall_mem_singleton.mpr ⟨by decide, by decide, by decide⟩
  have hfees : ∀ f ∈ small.fees, f.Sized :=
    List.forall_mem_singleton.mpr ⟨by decide, by decide⟩
  have hsized : small.Sized := ⟨by decide, by decide, hpools, hedges, hticks, hfees⟩
  have hcut : cut <+: small.encode := List.prefix_append cut (list poolFee small.fees)
  have hne : cut ≠ small.encode := by
    intro h
    have hnone : list poolFee small.fees = [] := List.append_right_eq_self.mp h.symm
    simp [list, length, littleEndian] at hnone
  obtain ⟨hwhole, hrefused⟩ := file_whole_or_refused hsized
  exact ⟨hsized, (hwhole [255]).2, hcut, (hrefused cut hcut hne).2⟩

end Backup

end LiquidityGraph
