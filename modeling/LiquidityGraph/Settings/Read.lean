import LiquidityGraph.Record
import LiquidityGraph.Settings.Basic

/-! Reading settings from the values of a format. What is missing keeps its default. -/
namespace LiquidityGraph

variable {ν : Type} [Format ν]

def BridgeLink.read? (v : ν) : Option BridgeLink := do
  let r ← Record.read? ["from_chain", "from_token", "to_chain", "to_token", "forward_pool",
    "backward_pool"] v
  return {
    fromChain := ← r.need "from_chain" Format.text?
    fromToken := ← r.need "from_token" Format.text?
    toChain := ← r.need "to_chain" Format.text?
    toToken := ← r.need "to_token" Format.text?
    forwardPool := ← r.orElse "forward_pool" Format.text? "pool"
    backwardPool := ← r.orElse "backward_pool" Format.text? "pool1" }

def TokenInfo.read? (v : ν) : Option TokenInfo := do
  let r ← Record.read? ["address", "symbol", "name", "token_home", "token_remote"] v
  return {
    address := ← r.need "address" Format.text?
    symbol := ← r.orElse "symbol" Format.text? ""
    name := ← r.orElse "name" Format.text? ""
    home := ← r.orElse "token_home" Format.text? ""
    remote := ← r.orElse "token_remote" Format.text? "" }

def RouterSettings.read? (v : ν) : Option RouterSettings := do
  let r ← Record.read? ["amount_in", "default_builder_fee", "fee_tiers", "origin_chain",
    "sync_topic", "swap_v3_topic", "metrics_addr"] v
  let d : RouterSettings := {}
  let text? := Record.optional (ν := ν) Format.text?
  return {
    amount := ← r.orElse "amount_in" Record.word? d.amount
    defaultFee := ← r.orElse "default_builder_fee" Record.word? d.defaultFee
    feeTiers := ← r.orElse "fee_tiers" (Record.list? (Format.natural? 32)) d.feeTiers
    origin := ← r.orElse "origin_chain" Format.text? d.origin
    syncTopic := ← r.orElse "sync_topic" text? d.syncTopic
    swapTopic := ← r.orElse "swap_v3_topic" text? d.swapTopic
    metricsAddress := ← r.orElse "metrics_addr" text? d.metricsAddress }

def ChainSettings.factories? (v : ν) : Option (List String) := do
  (← Record.read? ["factories"] v).orElse "factories" (Record.list? Format.text?) []

def ChainSettings.read? (v : ν) : Option ChainSettings := do
  let r ← Record.read? ["chain_id", "rpc_url", "uniswap_v2", "uniswap_v3", "tokens"] v
  return {
    chainId := ← r.orElse "chain_id" (Format.natural? 64) 0
    url := ← r.orElse "rpc_url" (Record.optional Format.text?) none
    pairFactories := ← r.orElse "uniswap_v2" factories? []
    tierFactories := ← r.orElse "uniswap_v3" factories? []
    tokens := ← r.orElse "tokens" (Record.list? TokenInfo.read?) [] }

def IngestionSettings.read? (v : ν) : Option IngestionSettings := do
  let r ← Record.read? ["poll_interval_ms", "retry_delay_ms", "max_block_range", "start_block"] v
  let d : IngestionSettings := {}
  return {
    pollInterval := ← r.orElse "poll_interval_ms" (Format.natural? 64) d.pollInterval
    retryDelay := ← r.orElse "retry_delay_ms" (Format.natural? 64) d.retryDelay
    maxBlockRange := ← r.orElse "max_block_range" (Format.natural? 64) d.maxBlockRange
    startBlock := ← r.orElse "start_block" (Record.optional (Format.natural? 64)) none }

def DiscoverySettings.read? (v : ν) : Option DiscoverySettings := do
  let r ← Record.read? ["tick_pacing_ms", "tick_retry_delay_ms", "tick_fetch_retries"] v
  let d : DiscoverySettings := {}
  return {
    pacing := ← r.orElse "tick_pacing_ms" (Format.natural? 64) d.pacing
    retryDelay := ← r.orElse "tick_retry_delay_ms" (Format.natural? 64) d.retryDelay
    retries := ← r.orElse "tick_fetch_retries" (Format.natural? 64) d.retries }

def DatabaseSettings.read? (v : ν) : Option DatabaseSettings := do
  let r ← Record.read? ["url", "batch_size", "flush_interval_ms"] v
  let d : DatabaseSettings := {}
  return {
    url := ← r.orElse "url" (Record.optional Format.text?) none
    batchSize := ← r.orElse "batch_size" (Format.natural? 64) d.batchSize
    flushInterval := ← r.orElse "flush_interval_ms" (Format.natural? 64) d.flushInterval }

namespace Settings

/-- The chains by name; of a name that comes twice the last one counts. -/
def chains? (v : ν) : Option (Std.ExtTreeMap String ChainSettings) := do
  (← Format.members? v).foldlM (fun chains (name, v) => do
    return chains.insert (← name) (← ChainSettings.read? v)) ∅

def backupPath? (v : ν) : Option String := do
  (← Record.read? ["path"] v).orElse "path" Format.text? "data/backup"

def read? (v : ν) : Option Settings := do
  let r ← Record.read? ["router", "chains", "bridges", "ingestion", "discovery", "database",
    "backup"] v
  return {
    router := ← r.orElse "router" RouterSettings.read? {}
    chains := ← r.orElse "chains" chains? ∅
    bridges := ← r.orElse "bridges" (Record.list? BridgeLink.read?) []
    ingestion := ← r.orElse "ingestion" IngestionSettings.read? {}
    discovery := ← r.orElse "discovery" DiscoverySettings.read? {}
    database := ← r.orElse "database" DatabaseSettings.read? {}
    backupPath := ← r.orElse "backup" backupPath? "data/backup" }

end Settings

end LiquidityGraph
