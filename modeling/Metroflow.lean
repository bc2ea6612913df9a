import Metroflow.Flow.EventRuns
import Metroflow.Flow.BridgeGroups
import Metroflow.Flow.RustKernel
import Metroflow.Sim.PlannedRoutes
import Metroflow.Sim.ProgressGate
import Metroflow.Ui.Cadence
import Metroflow.Sim.BlockedTails
import Metroflow.Sim.Throughput
import Metroflow.Multirate.Stepping
import Metroflow.Multirate.PotentialRoutes
import Metroflow.Replay.Separation
import Metroflow.Routing.RankedBest
import Metroflow.Timing.Independence
import Metroflow.City.GrowthCompile
import Metroflow.City.SegmentSearch
import Metroflow.City.ZonePartition
import Metroflow.Map.OsmCompile
import Metroflow.City.TurnTable
import Metroflow.City.RayOrder
import Metroflow.City.StreetTrees
import Metroflow.Routing.TopologyCache
import Metroflow.Learning.AuditClosures
import Metroflow.Multirate.EdgeKernels
import Metroflow.City.LoweringBijection
import Metroflow.City.StreetNormalization
import Metroflow.City.GatewayPaths
import Metroflow.Routing.CandidateChoice
import Metroflow.Sim.AgentBackends
import Metroflow.City.CanonicalPolygon
import Metroflow.City.LocalAxis
import Metroflow.City.OrganicWarp
import Metroflow.City.PlanarizedRoads
import Metroflow.City.RingGrouping
import Metroflow.City.StripMatching
import Metroflow.City.LandUse
import Metroflow.City.TazPartition
import Metroflow.Demand.Population
import Metroflow.City.CoincidentNodes
import Metroflow.Learning.PolicyBlend
import Metroflow.Map.LaneTags
import Metroflow.Learning.ActivePotential
import Metroflow.Learning.OdUcb
import Metroflow.Map.Simplification
import Metroflow.Map.CenterlineTouches
import Metroflow.City.Subdivision
import Metroflow.Timing.Invariants
import Metroflow.City.BlockCatalog
import Metroflow.City.StreetRoutes
