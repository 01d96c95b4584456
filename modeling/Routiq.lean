import Routiq.Edge.DeltaSync
import Routiq.Edge.AuthHistory
import Routiq.Edge.Slots
import Routiq.Edge.Identity
import Routiq.Edge.Isolation
import Routiq.Fleet.EdgeReach
import Routiq.Uam.RefreshRace
import Routiq.Uam.HonestSessions
import Routiq.Uam.Takeover
import Routiq.ControlPlane.MutationOrder
import Routiq.Uam.Redemptions
import Routiq.Uam.SessionFinality
import Routiq.Uam.ResetFailure
import Routiq.ControlPlane.Replay
import Routiq.ControlPlane.AdminNonces
import Routiq.ControlPlane.AgentThreads
import Routiq.Edge.ConfigWatch
import Routiq.Fleet.ChangeStream
import Routiq.ControlPlane.RestartStack
import Routiq.Fleet.Routing
import Routiq.Edge.HotSwap
import Routiq.Uam.FinalizeFailure
import Routiq.Uam.MigrationHistory
import Routiq.Fleet.Percentiles
import Routiq.Edge.GateSoundness
import Routiq.Edge.RateCoverage
import Routiq.Edge.Residency
import Routiq.Edge.BodyEnforcement
import Routiq.Fleet.QuotaHistory
import Routiq.Edge.SlotRaces
import Routiq.Edge.RateContention
import Routiq.Fleet.RateSync
import Routiq.Uam.BreakerCalls
import Routiq.Uam.Profile
import Routiq.Uam.Cursor
import Routiq.Fleet.RevocationLifetime
import Routiq.Edge.FormDecoding
import Routiq.ControlPlane.Polling
import Routiq.Edge.Probing
import Routiq.Edge.ServiceLimits
import Routiq.Edge.Addresses
import Routiq.Edge.Sampling
import Routiq.Fleet.ByteLimits
import Routiq.Edge.TokenSpelling
import Routiq.Demo.Users
