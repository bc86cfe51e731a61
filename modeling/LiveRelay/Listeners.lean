/-
Module: LiveRelay.Listeners
Purpose: The listeners that a configuration asks for, and opening them on a host.
Main exports: IngestGroup, Listener, RelayConfig.ingestGroups, RelayConfig.listeners, BindError,
  RelayConfig.bind, RelayConfig.ingestAddresses
-/
import LiveRelay.Config.Validate
import LiveRelay.Ingest.PathSyntax
import LiveRelay.Net.Host

namespace LiveRelay

open Net

/-- A route together with the place of the topic that configured it. -/
structure PlacedRoute where
  route : IngestRoute
  topic : Nat
deriving Repr, DecidableEq, Inhabited

/-- The routes that share one listener, in reading order. -/
structure IngestGroup where
  address : SocketAddress
  routes : List PlacedRoute
deriving Repr, DecidableEq, Inhabited

/-- Put a route into the group of its address, or behind all groups as a new one. -/
def IngestGroup.addTo (placed : PlacedRoute) : List IngestGroup → List IngestGroup
  | [] => [⟨placed.route.address, [placed]⟩]
  | group :: others =>
    if group.address = placed.route.address then
      { group with routes := group.routes ++ [placed] } :: others
    else group :: addTo placed others

/-- One listener: where the subscribers of a topic connect, or where sources push. -/
inductive Listener where
  | subscribe (topic : Nat) (address : SocketAddress)
  | ingest (group : IngestGroup)
deriving Repr, DecidableEq

namespace Listener

/-- Where a listener listens. -/
def address : Listener → SocketAddress
  | .subscribe _ address => address
  | .ingest group => group.address

/-- The routes that a listener serves. -/
def routes : Listener → List IngestRoute
  | .subscribe _ _ => []
  | .ingest group => group.routes.map PlacedRoute.route

end Listener

/-- Why a configuration cannot be served: it conflicts with itself, the host refuses an address,
or the paths of the routes at an address are no patterns that can stand side by side. -/
inductive BindError where
  | invalid (conflict : ConfigError)
  | unavailable (address : SocketAddress)
  | unservable (address : SocketAddress)
deriving Repr, DecidableEq

namespace RelayConfig

/-- Every route of every topic with the place of its topic, in reading order. -/
def placedRoutes (config : RelayConfig) : List PlacedRoute :=
  config.topics.zipIdx.flatMap fun (topic, place) => topic.ingest.map fun route => ⟨route, place⟩

/-- The groups of routes that share an address, in the order in which the addresses appear. -/
def ingestGroups (config : RelayConfig) : List IngestGroup :=
  config.placedRoutes.foldl (fun groups placed => IngestGroup.addTo placed groups) []

/-- All listeners: those for subscribers topic by topic, then those for sources. -/
def listeners (config : RelayConfig) : List Listener :=
  (config.topics.zipIdx.map fun (topic, place) => .subscribe place topic.subscribe) ++
    config.ingestGroups.map .ingest

/-- The listeners that serve the routes of a topic, by number and address: one for each route,
group by group. -/
def ingestAddresses (config : RelayConfig) (name : String) : List (Nat × SocketAddress) :=
  config.ingestGroups.zipIdx.flatMap fun (group, number) =>
    (group.routes.filter fun placed => config.topics[placed.topic]?.map (·.name) = some name).map
      fun _ => (number, group.address)

/-- Where the subscribers of a topic connect. -/
def subscribeAddress? (config : RelayConfig) (name : String) : Option SocketAddress :=
  (config.findTopic? name).map TopicConfig.subscribe

end RelayConfig

/-- Open listeners one after another, beside those that are open; the first that fails decides. -/
def openListeners (host : Host) (taken : List SocketAddress) :
    List Listener → Except BindError Unit
  | [] => .ok ()
  | listener :: others =>
    if host.permits taken listener.address = false then .error (.unavailable listener.address)
    else if canServe listener.routes = false then .error (.unservable listener.address)
    else openListeners host (taken ++ [listener.address]) others

/-- Check a configuration and open all its listeners. -/
def RelayConfig.bind (config : RelayConfig) (host : Host) :
    Except BindError (List Listener) :=
  match config.validate with
  | .error conflict => .error (.invalid conflict)
  | .ok () => (openListeners host [] config.listeners).map fun _ => config.listeners

end LiveRelay
