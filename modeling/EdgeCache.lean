import EdgeCache.Main
import EdgeCache.Origin.Site
import EdgeCache.Simulation.Basic
import EdgeCache.Proofs.Coordinator.Inversion
import EdgeCache.Proofs.Coordinator.SingleFlight
import EdgeCache.Proofs.Coordinator.Callers
import EdgeCache.Proofs.Coordinator.FanOut
import EdgeCache.Proofs.Keyed
import EdgeCache.Proofs.Store.Operations
import EdgeCache.Proofs.Store.History
import EdgeCache.Proofs.Store.Retention
import EdgeCache.Proofs.Coordinator.Losses
import EdgeCache.Proofs.Coordinator.Refetch
import EdgeCache.Proofs.Url.Path
import EdgeCache.Proofs.Url.Confinement
import EdgeCache.Proofs.Coordinator.Errors
import EdgeCache.Proofs.Coordinator.Cancellation
import EdgeCache.Proofs.Coordinator.Accounts
import EdgeCache.Proofs.Coordinator.Deposits
import EdgeCache.Proofs.Coordinator.Serving
import EdgeCache.Proofs.Coordinator.Deadlines
import EdgeCache.Proofs.Coordinator.Fetching
import EdgeCache.Proofs.Woven
import EdgeCache.Proofs.Store.Slot
import EdgeCache.Proofs.Coordinator.Steady
import EdgeCache.Proofs.Coordinator.Independence
import EdgeCache.Proofs.Simulation.Alike
import EdgeCache.Simulation.Session
import EdgeCache.Proofs.Simulation.Quiet
import EdgeCache.Proofs.Simulation.Session
import EdgeCache.Proofs.Simulation.Independence
import EdgeCache.Proofs.Simulation.Play
import EdgeCache.Proofs.Simulation.Journeys
import EdgeCache.Proofs.Simulation.Deadlines
import EdgeCache.Proofs.Key
import EdgeCache.Proofs.Http.Requests
import EdgeCache.Proofs.Http.Content
import EdgeCache.Proofs.Http.Delivery
import EdgeCache.Proofs.Http.Routing
import EdgeCache.Proofs.Plain
import EdgeCache.Proofs.Http.Prefixes
import EdgeCache.Proofs.Url.Joining
import EdgeCache.Proofs.Url.Bases
import EdgeCache.Proofs.Url.Literal
import EdgeCache.Proofs.Url.Addresses
import EdgeCache.Proofs.Store.Freshness
import EdgeCache.Proofs.Coordinator.Sweeping
import EdgeCache.Proofs.Simulation.Sweeping
import EdgeCache.Proofs.Coordinator.Lingering
import EdgeCache.Proofs.Simulation.Lingering
import EdgeCache.Proofs.Coordinator.Faring
import EdgeCache.Proofs.Http.Failures
import EdgeCache.Proofs.Settings.Documents
import EdgeCache.Proofs.Settings.Layers
import EdgeCache.Proofs.Store.Capacity
import EdgeCache.Proofs.Store.Eviction
import EdgeCache.Proofs.Store.Expiry
import EdgeCache.Proofs.Store.Ledger
