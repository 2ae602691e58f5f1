import LiquidityGraph.Discovery.Bridges
import LiquidityGraph.Log
import LiquidityGraph.Registry

/-! The settings of the program, with their defaults, and what is derived from them. -/
namespace LiquidityGraph

open Std (ExtTreeMap)

inductive SettingsError where
  /-- The configuration cannot be read at all. -/
  | malformed
  | amount (key value : String)
  | feeTier (value : String)
  | topic (key : String) (cause : ReadError)
  deriving DecidableEq, Repr

def SettingsError.message : SettingsError → String
  | .malformed => "malformed configuration"
  | .amount key value => "invalid " ++ key ++ " value: " ++ value
  | .feeTier value => "invalid fee tier: " ++ value
  | .topic key cause => "invalid " ++ key ++ ": " ++ cause.message

structure RouterSettings where
  /-- The amount at which updates are priced and routes are asked for. -/
  amount : Nat := 1000000000000000000
  defaultFee : Nat := 0
  feeTiers : List Nat := [500, 3000, 10000]
  origin : String := "avalanche"
  syncTopic : Option String := none
  swapTopic : Option String := none
  metricsAddress : Option String := none
  deriving DecidableEq, Repr

structure ChainSettings where
  chainId : Nat := 0
  /-- Where the chain's node answers. -/
  url : Option String := none
  pairFactories : List String := []
  tierFactories : List String := []
  tokens : List TokenInfo := []
  deriving DecidableEq, Repr

/-- Times are in milliseconds. -/
structure IngestionSettings where
  pollInterval : Nat := 1000
  retryDelay : Nat := 5000
  maxBlockRange : Nat := 100
  startBlock : Option Nat := none
  deriving DecidableEq, Repr

/-- Times are in milliseconds. -/
structure DiscoverySettings where
  pacing : Nat := 50
  retryDelay : Nat := 500
  retries : Nat := 3
  deriving DecidableEq, Repr

/-- Times are in milliseconds. -/
structure DatabaseSettings where
  url : Option String := none
  batchSize : Nat := 100
  flushInterval : Nat := 50
  deriving DecidableEq, Repr

structure Settings where
  router : RouterSettings := {}
  chains : ExtTreeMap String ChainSettings := ∅
  bridges : List BridgeLink := []
  ingestion : IngestionSettings := {}
  discovery : DiscoverySettings := {}
  database : DatabaseSettings := {}
  backupPath : String := "data/backup"

namespace Settings

def chain? (s : Settings) (name : String) : Option ChainSettings :=
  (s.chains.toList.find? fun (key, _) => Text.sameIgnoringCase key name).map (·.2)

def topicOr (key : String) (default : Nat) : Option String → Except SettingsError Nat
  | none => .ok default
  | some text => (Bytes.readWord text).mapError (.topic key)

def syncTopic (s : Settings) : Except SettingsError Nat :=
  topicOr "SYNC_TOPIC" LiquidityGraph.syncTopic s.router.syncTopic

def swapTopic (s : Settings) : Except SettingsError Nat :=
  topicOr "SWAP_V3_TOPIC" LiquidityGraph.swapTopic s.router.swapTopic

def logContext (s : Settings) (chain : String) : Except SettingsError LogContext := do
  return ⟨ChainId.normalized chain, s.router.amount, ← s.syncTopic, ← s.swapTopic⟩

def origin (s : Settings) : ChainId := ChainId.normalized s.router.origin

def firstToken? (s : Settings) (chain : String) : Option String := do
  return (← (← s.chain? chain).tokens.head?).address

/-- The configured links, or else one between the first tokens of two well-known chains. -/
def links (s : Settings) : List BridgeLink :=
  if s.bridges.isEmpty then
    match s.firstToken? "AVALANCHE", s.firstToken? "COQNET" with
    | some fromToken, some toToken =>
      [{ fromChain := "avalanche", fromToken, toChain := "coqnet", toToken }]
    | _, _ => []
  else s.bridges

def registry (s : Settings) : Registry :=
  s.chains.toList.foldl (fun r (name, chain) => r.setChain name chain.tokens) Registry.empty

end Settings

end LiquidityGraph
