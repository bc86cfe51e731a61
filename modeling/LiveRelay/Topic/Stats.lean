/-
Module: LiveRelay.Topic.Stats
Purpose: The counters of a topic.
Main exports: TopicStats and one function for each thing that is counted
-/

namespace LiveRelay

/-- The counters of a topic. All counters are 64 bits wide and wrap. -/
structure TopicStats where
  connectionsTotal : UInt64
  connectionsActive : UInt64
  ingestTotal : UInt64
  ingestActive : UInt64
  chunksRelayed : UInt64
  bytesRelayed : UInt64
  deliveries : UInt64
  dropped : UInt64
  livenessTerminations : UInt64
deriving Repr, Inhabited, DecidableEq

namespace TopicStats

def zero : TopicStats := ⟨0, 0, 0, 0, 0, 0, 0, 0, 0⟩

/-- Count a connection that was attached. -/
def connectionOpened (stats : TopicStats) : TopicStats :=
  { stats with
    connectionsTotal := stats.connectionsTotal + 1
    connectionsActive := stats.connectionsActive + 1 }

/-- Count a connection that was detached. -/
def connectionClosed (stats : TopicStats) : TopicStats :=
  { stats with connectionsActive := stats.connectionsActive - 1 }

/-- Count an ingest session that started. -/
def ingestStarted (stats : TopicStats) : TopicStats :=
  { stats with
    ingestTotal := stats.ingestTotal + 1
    ingestActive := stats.ingestActive + 1 }

/-- Count an ingest session that ended. -/
def ingestEnded (stats : TopicStats) : TopicStats :=
  { stats with ingestActive := stats.ingestActive - 1 }

/-- Count a chunk of some length that was fanned out. -/
def chunkRelayed (stats : TopicStats) (length delivered dropped : Nat) : TopicStats :=
  { stats with
    chunksRelayed := stats.chunksRelayed + 1
    bytesRelayed := stats.bytesRelayed + UInt64.ofNat length
    deliveries := stats.deliveries + UInt64.ofNat delivered
    dropped := stats.dropped + UInt64.ofNat dropped }

/-- Count connections that were terminated for showing no sign of life. -/
def livenessTerminated (stats : TopicStats) (connections : Nat) : TopicStats :=
  { stats with
    livenessTerminations := stats.livenessTerminations + UInt64.ofNat connections }

/-- The counters in their order of declaration. -/
def toList (stats : TopicStats) : List UInt64 :=
  [stats.connectionsTotal, stats.connectionsActive, stats.ingestTotal, stats.ingestActive,
    stats.chunksRelayed, stats.bytesRelayed, stats.deliveries, stats.dropped,
    stats.livenessTerminations]

end TopicStats

end LiveRelay
