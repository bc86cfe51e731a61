import LiveRelay.Main
import LiveRelay.Relay.Exchange
import LiveRelay.Proofs.Delivery
import LiveRelay.Proofs.Consistency
import LiveRelay.Proofs.Isolation
import LiveRelay.Proofs.Liveness
import LiveRelay.Proofs.Latency
import LiveRelay.Proofs.Listeners
import LiveRelay.Proofs.Dispatch
import LiveRelay.Proofs.Relaying
import LiveRelay.Proofs.Conservation
import LiveRelay.Proofs.Gapless
import LiveRelay.Proofs.Sessions
import LiveRelay.Proofs.Membership
import LiveRelay.Proofs.Ordering
import LiveRelay.Proofs.Termination
import LiveRelay.Proofs.Shutdown
import LiveRelay.Proofs.Validation
import LiveRelay.Proofs.Binding
import LiveRelay.Proofs.Layering
import LiveRelay.Proofs.KnownChannels
import LiveRelay.Proofs.FanOut
import LiveRelay.Proofs.Registration
import LiveRelay.Proofs.ProbeRound
import LiveRelay.Proofs.Detaching
import LiveRelay.Proofs.Topic.Bindings
import LiveRelay.Proofs.Intake
import LiveRelay.Proofs.Queries
import LiveRelay.Proofs.Rebinding
import LiveRelay.Proofs.Text.Reading
import LiveRelay.Proofs.Net.Spelling
import LiveRelay.Proofs.Rereading
import LiveRelay.Proofs.NumberedChannels
import LiveRelay.Proofs.Scopes
import LiveRelay.Proofs.Startup
import LiveRelay.Proofs.WrittenRoutes
import LiveRelay.Proofs.Progression
import LiveRelay.Proofs.RoutePaths
