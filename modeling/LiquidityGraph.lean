import LiquidityGraph.Backup.Binary
import LiquidityGraph.Backup.Json
import LiquidityGraph.Listener.Basic
import LiquidityGraph.Main
import LiquidityGraph.Store.PoolRow
import LiquidityGraph.Store.TickRow
import LiquidityGraph.Proofs.Route.Search
import LiquidityGraph.Proofs.Route.ReadBack
import LiquidityGraph.Proofs.Route.Shape
import LiquidityGraph.Proofs.Route.Amounts
import LiquidityGraph.Proofs.Edge.Quote
import LiquidityGraph.Proofs.Route.Gainless
import LiquidityGraph.Proofs.Except
import LiquidityGraph.Proofs.Price.MulDiv
import LiquidityGraph.Proofs.Price.Step
import LiquidityGraph.Proofs.Price.Honest
import LiquidityGraph.Proofs.Price.TickRatio
import LiquidityGraph.Proofs.Tick.Acceptance
import LiquidityGraph.Proofs.Tick.List
import LiquidityGraph.Proofs.Swap.Crossing
import LiquidityGraph.Proofs.Swap.Monotone
import LiquidityGraph.Proofs.Graph.MapEdges
import LiquidityGraph.Proofs.Edge.Update
import LiquidityGraph.Proofs.Graph.Dispatch
import LiquidityGraph.Proofs.Address
import LiquidityGraph.Proofs.Listener.Order
import LiquidityGraph.Proofs.Listener.Progress
import LiquidityGraph.Proofs.Text.Decimal
import LiquidityGraph.Proofs.Json.ReadBack
import LiquidityGraph.Proofs.Edge.Snapshot
import LiquidityGraph.Proofs.Fold
import LiquidityGraph.Proofs.Graph.Levels
import LiquidityGraph.Proofs.Graph.WellFormed
import LiquidityGraph.Proofs.Route.Quotes
import LiquidityGraph.Proofs.Graph.Bulk
import LiquidityGraph.Proofs.Backup.Rebuild
import LiquidityGraph.Proofs.Backup.Binary
import LiquidityGraph.Proofs.Discovery.Findings
import LiquidityGraph.Proofs.Graph.Twins
import LiquidityGraph.Proofs.Discovery.Directions
import LiquidityGraph.Proofs.Graph.Change
import LiquidityGraph.Proofs.Graph.Discovered
import LiquidityGraph.Proofs.Route.Drain
import LiquidityGraph.Proofs.Route.Frontier
import LiquidityGraph.Proofs.Route.Bridges
import LiquidityGraph.Proofs.Machine.Basic
import LiquidityGraph.Proofs.Machine.Price
import LiquidityGraph.Proofs.Machine.Tick
import LiquidityGraph.Proofs.Machine.Swap
import LiquidityGraph.Proofs.Swap.Termination
import LiquidityGraph.Proofs.Swap.Spot
import LiquidityGraph.Proofs.Tick.Scan
import LiquidityGraph.Proofs.Machine.Halving
import LiquidityGraph.Proofs.Tick.Bitmap
import LiquidityGraph.Proofs.Machine.Bitmap
import LiquidityGraph.Proofs.Discovery.TickScan
import LiquidityGraph.Proofs.Graph.Atomic
import LiquidityGraph.Proofs.Route.Spending
import LiquidityGraph.Proofs.Route.Direct
import LiquidityGraph.Proofs.Price.Inverse
import LiquidityGraph.Proofs.Edge.Synced
import LiquidityGraph.Proofs.Registry
import LiquidityGraph.Proofs.Discovery.Acceptance
import LiquidityGraph.Proofs.Discovery.Persist
import LiquidityGraph.Proofs.Graph.Deletion
import LiquidityGraph.Proofs.Price.Split
import LiquidityGraph.Proofs.Price.Requote
import LiquidityGraph.Proofs.Listener.Start
import LiquidityGraph.Proofs.Id
import LiquidityGraph.Proofs.Discovery.Pairs
