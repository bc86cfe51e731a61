/-
Module: LiveRelay.Ingest.Session
Purpose: One push request while it lasts: where its data goes and what it adds up.
Main exports: IngestSession, IngestSession.new, IngestEnd
-/
import LiveRelay.Ingest.Totals
import LiveRelay.Topic

namespace LiveRelay

open Net

/-- How an ingest session ended: the source finished, fell silent for too long, or broke off. -/
inductive IngestEnd where
  | completed
  | timedOut
  | reset
deriving Repr, Inhabited, DecidableEq

/-- One push request. It is routed when its topic accepts its channel; what an unrouted session
receives is discarded. -/
structure IngestSession where
  id : UInt64
  peer : SocketAddress
  topic : String
  channel : Channel
  routed : Bool
  totals : IngestTotals
deriving Repr, Inhabited, DecidableEq

namespace IngestSession

/-- A session that has received nothing. -/
def new (id : UInt64) (peer : SocketAddress) (topic : Topic) (channel : Channel) : IngestSession :=
  ⟨id, peer, topic.name, channel, topic.isKnown channel, .zero⟩

/-- Account a chunk that was fanned out. -/
def relayed (session : IngestSession) (length : Nat) (report : FanOutReport) : IngestSession :=
  { session with totals := session.totals.relayed length report.delivered report.dropped }

/-- Account a chunk that was discarded. -/
def discarded (session : IngestSession) (length : Nat) : IngestSession :=
  { session with totals := session.totals.discard length }

end IngestSession

end LiveRelay
