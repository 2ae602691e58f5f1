import LiquidityGraph.Backup.Basic

/-! Backups as JSON. -/
namespace LiquidityGraph

open Json (Value)

def Pool.toJson (p : Pool) : Value :=
  .record [("token0", .str p.token0.text), ("token1", .str p.token1.text),
    ("pair", .str p.id.text), ("factory", .str p.factory), ("chain", .str p.chain.text)]

def Pool.ofJson? (v : Value) : Option Pool := do
  let r ← Record.read? ["token0", "token1", "pair", "factory", "chain"] v
  return {
    token0 := ⟨← r.need "token0" Format.text?⟩
    token1 := ⟨← r.need "token1" Format.text?⟩
    id := ⟨← r.need "pair" Format.text?⟩
    factory := ← r.need "factory" Format.text?
    chain := ⟨← r.need "chain" Format.text?⟩ }

def EdgeRecord.toJson (r : EdgeRecord) : Value :=
  .record [("chain_id", .str r.key.chain.text), ("from_token", .str r.key.source.text),
    ("to_token", .str r.key.target.text), ("pool_id", .str r.key.pool.text),
    ("edge_data", .str r.data)]

def EdgeRecord.ofJson? (v : Value) : Option EdgeRecord := do
  let r ← Record.read? ["chain_id", "from_token", "to_token", "pool_id", "edge_data"] v
  let chain ← r.need "chain_id" Format.text?
  let source ← r.need "from_token" Format.text?
  let target ← r.need "to_token" Format.text?
  let pool ← r.need "pool_id" Format.text?
  return ⟨⟨⟨source⟩, ⟨target⟩, ⟨pool⟩, ⟨chain⟩⟩, ← r.need "edge_data" Format.text?⟩

def Tick.toJson (t : Tick) : Value :=
  .record [("index", .int t.index), ("liquidity_gross", .str (Decimal.ofNat t.gross)),
    ("liquidity_net", .str (Decimal.ofInt t.net))]

def Tick.ofJson? (v : Value) : Option Tick := do
  let r ← Record.read? ["index", "liquidity_gross", "liquidity_net"] v
  return {
    index := ← r.need "index" (Json.Value.integer? 32)
    gross := ← r.need "liquidity_gross" Record.uint128?
    net := ← r.need "liquidity_net" Record.int128? }

def TickSet.toJson (s : TickSet) : Value :=
  .record [("pool", .str s.pool.text), ("tick_spacing", .int s.spacing),
    ("ticks", .array (s.ticks.map Tick.toJson))]

def TickSet.ofJson? (v : Value) : Option TickSet := do
  let r ← Record.read? ["pool", "tick_spacing", "ticks"] v
  return {
    pool := ⟨← r.need "pool" Format.text?⟩
    spacing := ← r.need "tick_spacing" (Json.Value.integer? 32)
    ticks := ← r.need "ticks" (Record.list? Tick.ofJson?) }

def PoolFee.toJson (f : PoolFee) : Value :=
  .record [("pool", .str f.pool.text), ("fee", .str (Decimal.ofNat f.fee))]

def PoolFee.ofJson? (v : Value) : Option PoolFee := do
  let r ← Record.read? ["pool", "fee"] v
  return { pool := ⟨← r.need "pool" Format.text?⟩, fee := ← r.need "fee" Record.word? }

namespace Backup

def toJson (b : Backup) : Value :=
  .record [("default_fee", .str (Decimal.ofNat b.defaultFee)),
    ("pools", .array (b.pools.map Pool.toJson)), ("edges", .array (b.edges.map EdgeRecord.toJson)),
    ("ticks", .array (b.ticks.map TickSet.toJson)),
    ("pool_fees", .array (b.fees.map PoolFee.toJson))]

def ofJson? (v : Value) : Option Backup := do
  let r ← Record.read? ["default_fee", "pools", "edges", "ticks", "pool_fees"] v
  return {
    defaultFee := ← r.need "default_fee" Record.word?
    pools := ← r.need "pools" (Record.list? Pool.ofJson?)
    edges := ← r.need "edges" (Record.list? EdgeRecord.ofJson?)
    ticks := ← r.need "ticks" (Record.list? TickSet.ofJson?)
    fees := ← r.need "pool_fees" (Record.list? PoolFee.ofJson?) }

end Backup

end LiquidityGraph
