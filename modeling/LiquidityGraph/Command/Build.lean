import LiquidityGraph.Command.Error
import LiquidityGraph.Discovery.PairScan
import LiquidityGraph.Discovery.Persist
import LiquidityGraph.Discovery.TierScan
import LiquidityGraph.Network
import LiquidityGraph.Url

/-! Building a network from settings: pools are looked for on every chain that has a node. -/
namespace LiquidityGraph.Settings

open Command (Failure)

def endpoints (s : Settings) : Except Failure (List (String × ChainSettings × String)) :=
  (s.chains.toList.filterMap fun (name, chain) => chain.url.map (name, chain, ·)).mapM
    fun (name, chain, url) =>
      if Url.isValid url then .ok (name, chain, url) else .error (.url name)

def factories (texts : List String) : Except Failure (List Address) :=
  texts.mapM fun text => (Address.readDigits text.toList).mapError fun _ => .factory text

/-- The graph built so far, and the store that findings are saved to. -/
structure Site where
  graph : Graph
  connection : Connection

/-- Adds the pools found on a chain. What the store refuses to save is added all the same. -/
def addChain (s : Settings) (node : Node) (name : String) (chain : ChainSettings) (site : Site) :
    Except Failure Site := do
  let scope (factories : List Address) : Discovery.Scope :=
    ⟨ChainId.normalized name, factories, s.registry.tokens name⟩
  let pairs := scope (← factories chain.pairFactories)
  let tiers : Discovery.TierScan :=
    ⟨scope (← factories chain.tierFactories), s.router.feeTiers, s.discovery.retries⟩
  let (found, source) := pairs.scanPairs.run ⟨node, site.connection⟩
  let (more, source) := tiers.scan.run source
  let findings := Findings.ofList (found ++ more)
  let (_, connection) := findings.persist.run.run source.connection
  return ⟨findings.install site.graph, connection⟩

def withGraph (s : Settings) (g : Graph) : Network := ⟨g, s.registry.mapping, s.origin⟩

def network (s : Settings) (nodes : String → Node) : Except Failure Network := do
  let endpoints ← s.endpoints
  if s.database.url.isSome then throw .database
  let site ← endpoints.foldlM (fun site (name, chain, url) =>
    s.addChain (nodes url) name chain site)
    ⟨Graph.empty s.router.defaultFee, Connection.ofStore Store.empty⟩
  return s.withGraph (site.graph.addBridges s.links)

end LiquidityGraph.Settings
