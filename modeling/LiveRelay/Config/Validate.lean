/-
Module: LiveRelay.Config.Validate
Purpose: The conflicts within a configuration, and the check that finds the first of them.
Main exports: ConfigError, ConfigError.message, RelayConfig.validate
-/
import LiveRelay.Config
import LiveRelay.Net.Address.Writer

namespace LiveRelay

open Net

/-- Why a configuration cannot be used. -/
inductive ConfigError where
  | noTopics
  | zeroProbeInterval
  | zeroIdleTimeout
  | zeroQueueCapacity
  | duplicateTopic (name : String)
  | noChannels (topic : String)
  | subscribeAddressTaken (address : SocketAddress)
  | routeTaken (route : IngestRoute)
  | ingestOnSubscribeAddress (address : SocketAddress)
deriving Repr, DecidableEq

/-- The text that reports a conflict. -/
def ConfigError.message : ConfigError → String
  | .noTopics => "configuration error: no topics configured"
  | .zeroProbeInterval => "configuration error: probe interval must be non-zero"
  | .zeroIdleTimeout => "configuration error: ingest idle timeout must be non-zero"
  | .zeroQueueCapacity => "configuration error: subscriber queue capacity must be non-zero"
  | .duplicateTopic name => "duplicate topic: " ++ name
  | .noChannels topic => "configuration error: topic " ++ topic ++ " has no channels"
  | .subscribeAddressTaken address =>
    "configuration error: subscribe address " ++ address.toText ++ " used by more than one topic"
  | .routeTaken route =>
    "configuration error: ingest route " ++ route.address.toText ++ route.path ++
      " used more than once"
  | .ingestOnSubscribeAddress address =>
    "configuration error: address " ++ address.toText ++
      " is both an ingest and a subscribe listener"

/-- What the topics checked so far have taken. A subscribe address with port zero is not taken:
each topic gets a fresh port. -/
structure Taken where
  names : List String
  subscribe : List SocketAddress
  routes : List IngestRoute
deriving Repr, Inhabited

namespace Taken

def nothing : Taken := ⟨[], [], []⟩

/-- Take routes one after another; the first that is taken already is a conflict. -/
def takeRoutes (taken : Taken) : List IngestRoute → Except ConfigError Taken
  | [] => .ok taken
  | route :: others =>
    if route ∈ taken.routes then .error (.routeTaken route)
    else takeRoutes { taken with routes := route :: taken.routes } others

/-- Take the name, the subscribe address and the routes of a topic, in this order. -/
def takeTopic (taken : Taken) (topic : TopicConfig) : Except ConfigError Taken :=
  if topic.name ∈ taken.names then .error (.duplicateTopic topic.name)
  else if topic.channels.isEmpty then .error (.noChannels topic.name)
  else if topic.subscribe.port = 0 then
    takeRoutes { taken with names := topic.name :: taken.names } topic.ingest
  else if topic.subscribe ∈ taken.subscribe then .error (.subscribeAddressTaken topic.subscribe)
  else
    takeRoutes
      { taken with
        names := topic.name :: taken.names
        subscribe := topic.subscribe :: taken.subscribe }
      topic.ingest

/-- Take topics one after another. -/
def takeTopics (taken : Taken) : List TopicConfig → Except ConfigError Taken
  | [] => .ok taken
  | topic :: others =>
    match taken.takeTopic topic with
    | .ok taken => taken.takeTopics others
    | .error conflict => .error conflict

/-- Check that no route uses a subscribe address that is taken. -/
def checkRoutes (taken : Taken) : List IngestRoute → Except ConfigError Unit
  | [] => .ok ()
  | route :: others =>
    if route.address ∈ taken.subscribe then .error (.ingestOnSubscribeAddress route.address)
    else taken.checkRoutes others

end Taken

namespace RelayConfig

/-- Find the first conflict: the shared options, then topic by topic, and only after all topics
the routes that use a subscribe address. -/
def validate (config : RelayConfig) : Except ConfigError Unit :=
  if config.topics = [] then .error .noTopics
  else if config.probeInterval = 0 then .error .zeroProbeInterval
  else if config.idleTimeout = 0 then .error .zeroIdleTimeout
  else if config.queueCapacity = 0 then .error .zeroQueueCapacity
  else
    match Taken.nothing.takeTopics config.topics with
    | .ok taken => taken.checkRoutes config.routes
    | .error conflict => .error conflict

end RelayConfig

end LiveRelay
