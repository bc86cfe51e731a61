/-
Module: LiveRelay.Config
Purpose: What a relay is configured with: its topics, their addresses and channels, and the options
  that all topics share.
Main exports: OverflowPolicy, TopicConfig, RelayConfig, RelayConfig.standard, RelayConfig.bindHost,
  RelayConfig.findTopic?
-/
import LiveRelay.ChannelSet
import LiveRelay.Ingest.Route

namespace LiveRelay

open Net

/-- What happens when data arrives for a subscriber whose queue is full: the data is dropped, or
the subscriber is disconnected as well. -/
inductive OverflowPolicy where
  | dropNewest
  | disconnect
deriving Repr, Inhabited, DecidableEq

/-- One independent relay: a name, the address where subscribers connect, the channels it accepts,
and the routes where sources push. -/
structure TopicConfig where
  name : String
  subscribe : SocketAddress
  channels : ChannelSet
  ingest : List IngestRoute
deriving Repr, DecidableEq, Inhabited

/-- A span of time in nanoseconds. -/
abbrev Span := Nat

/-- A span of whole milliseconds. -/
def Span.ofMillis (milliseconds : Nat) : Span := milliseconds * 1000000

/-- The whole milliseconds of a span. -/
def Span.millis (span : Span) : Nat := span / 1000000

/-- Everything a relay is configured with. -/
structure RelayConfig where
  topics : List TopicConfig
  probeInterval : Span
  idleTimeout : Span
  queueCapacity : UInt64
  overflow : OverflowPolicy
  rejectUnknown : Bool
deriving Repr, DecidableEq, Inhabited

namespace TopicConfig

/-- The topic with every address moved to another host; ports stay. -/
def bindHost (topic : TopicConfig) (host : IpAddress) : TopicConfig :=
  { topic with
    subscribe := topic.subscribe.withIp host
    ingest := topic.ingest.map fun route => { route with address := route.address.withIp host } }

end TopicConfig

namespace RelayConfig

/-- The three topics of the standard layout. They share one ingest listener on port 13300. -/
def standardTopics : List TopicConfig :=
  let onPort (port : UInt16) : SocketAddress := .ofIp .unspecified port
  [{ name := "video"
     subscribe := onPort 10002
     channels := .standard
     ingest := [.new (onPort 19650) "", .new (onPort 13300) "arcstream"] },
   { name := "encoder-status"
     subscribe := onPort 13200
     channels := .standard
     ingest := [.new (onPort 13100) "", .new (onPort 13300) "encoder"] },
   { name := "nicmonitor-status"
     subscribe := onPort 13400
     channels := .standard
     ingest := [.new (onPort 13300) "nicmonitor"] }]

/-- The standard layout: probes every two seconds, sources idle for at most thirty, and room for
256 chunks per subscriber. -/
def standard : RelayConfig where
  topics := standardTopics
  probeInterval := Span.ofMillis 2000
  idleTimeout := Span.ofMillis 30000
  queueCapacity := 256
  overflow := .dropNewest
  rejectUnknown := false

/-- The standard options without any topic. -/
def empty : RelayConfig := { standard with topics := [] }

/-- Add a topic behind the others. -/
def addTopic (config : RelayConfig) (topic : TopicConfig) : RelayConfig :=
  { config with topics := config.topics ++ [topic] }

/-- Move every listener to another host; ports stay. -/
def bindHost (config : RelayConfig) (host : IpAddress) : RelayConfig :=
  { config with topics := config.topics.map (·.bindHost host) }

/-- The first topic of a name. -/
def findTopic? (config : RelayConfig) (name : String) : Option TopicConfig :=
  config.topics.find? (·.name = name)

/-- Every route of every topic, in reading order. -/
def routes (config : RelayConfig) : List IngestRoute := config.topics.flatMap (·.ingest)

/-- Every address of a configuration, the one of each topic before those of its routes. -/
def addresses (config : RelayConfig) : List SocketAddress :=
  config.topics.flatMap fun topic => topic.subscribe :: topic.ingest.map IngestRoute.address

end RelayConfig

end LiveRelay
