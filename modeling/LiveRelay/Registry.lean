/-
Module: LiveRelay.Registry
Purpose: Which connections are subscribed to which channel of a topic, and which connections the
  topic has at all.
Main exports: Registry, Registry.register, Registry.unregister, Registry.members, Registry.counts,
  Tracker, UnknownChannel
-/
import LiveRelay.Connection
import LiveRelay.Data.Table

namespace LiveRelay

/-- A connection was to be registered under a channel that its topic does not accept. -/
structure UnknownChannel where
  topic : String
  channel : Channel
deriving Repr, DecidableEq

/-- The text that reports an unknown channel. -/
def UnknownChannel.message (fault : UnknownChannel) : String :=
  "unknown channel " ++ fault.channel ++ " on topic " ++ fault.topic

/-- The subscribers of a topic: under a channel and a number, a connection. The channels it accepts
never change. -/
structure Registry where
  topic : String
  known : ChannelSet
  members : Table (Channel × ConnId) ConnRef
deriving Inhabited

namespace Registry

/-- A registry without members. -/
def new (topic : String) (known : ChannelSet) : Registry := ⟨topic, known, .empty⟩

/-- Whether a channel is accepted. -/
def isKnown (registry : Registry) (channel : Channel) : Bool := registry.known.contains channel

/-- Register a connection under a channel and its number, in place of any older one there. An
unknown channel changes nothing. -/
def register (registry : Registry) (channel : Channel) (id : ConnId) (ref : ConnRef) :
    Except UnknownChannel Registry :=
  if registry.isKnown channel then
    .ok { registry with members := registry.members.insert (channel, id) ref }
  else .error ⟨registry.topic, channel⟩

/-- Remove what is registered under a channel and a number, and say whether there was anything. -/
def unregister (registry : Registry) (channel : Channel) (id : ConnId) : Bool × Registry :=
  (registry.members.contains (channel, id),
    { registry with members := registry.members.erase (channel, id) })

/-- The entries of one channel. -/
def entriesOf (registry : Registry) (channel : Channel) :
    List ((Channel × ConnId) × ConnRef) :=
  registry.members.entries.filter fun entry => entry.1.1 = channel

/-- The connections registered under a channel. -/
def membersOf (registry : Registry) (channel : Channel) : List ConnRef :=
  (registry.entriesOf channel).map Prod.snd

/-- The connections registered under a channel that are open. -/
def openMembers (registry : Registry) (conns : Connections) (channel : Channel) :
    List ConnRef :=
  (registry.membersOf channel).filter fun ref => (conns[ref]?.map Connection.isOpen).getD false

/-- How many connections are registered under a channel. -/
def count (registry : Registry) (channel : Channel) : Nat := (registry.entriesOf channel).length

/-- How many registrations there are under all channels together. -/
def total (registry : Registry) : Nat := registry.members.size

/-- How many connections each accepted channel has, in the order of the channels. -/
def counts (registry : Registry) : List (Channel × Nat) :=
  registry.known.channels.map fun channel => (channel, registry.count channel)

end Registry

/-- The connections of a topic by their numbers, whether they are registered or not. -/
abbrev Tracker := Table ConnId ConnRef

end LiveRelay
