/-
Module: LiveRelay.Connection
Purpose: One subscriber connection: its state, its two queues, and everything that other parts of
  the relay may do to it.
Main exports: ConnId, Payload, Connection, Connection.trySend, Connection.terminate,
  Connection.takeAlive, Connection.ping, Connection.receive
-/
import LiveRelay.Config
import LiveRelay.Connection.State

namespace LiveRelay

open Net

/-- The number of a connection within its topic. -/
abbrev ConnId := UInt64

/-- The bytes of one chunk. They are relayed as they are. -/
abbrev Payload := List UInt8

/-- A request to the task that writes to the connection. -/
inductive Control where
  | ping
deriving Repr, Inhabited, DecidableEq

/-- What waits to be written to a connection: data, and requests that are written first. -/
structure Queues where
  outbound : List Payload
  control : List Control
deriving Repr, Inhabited, DecidableEq

/-- One subscriber connection. Its queues are gone once the task that reads them is. -/
structure Connection where
  id : ConnId
  peer : SocketAddress
  channel : Option Channel
  capacity : Nat
  overflow : OverflowPolicy
  state : ConnState
  alive : Bool
  terminated : Bool
  queues : Option Queues
  delivered : UInt64
  dropped : UInt64
deriving Repr, Inhabited, DecidableEq

/-- What became of a payload offered to a connection. -/
inductive SendOutcome where
  | queued
  | skipped
  | dropped
  | closed
deriving Repr, Inhabited, DecidableEq

/-- What reading from a queue gives: the first item, nothing yet, or nothing ever again. -/
inductive Received (α : Type) where
  | item (value : α)
  | empty
  | gone
deriving Repr, DecidableEq

namespace Connection

/-- A new connection: connecting, alive, with empty queues. The outbound queue has room for at
least one payload. -/
def new (id : ConnId) (peer : SocketAddress) (channel : Option Channel) (capacity : Nat)
    (overflow : OverflowPolicy) : Connection where
  id := id
  peer := peer
  channel := channel
  capacity := max capacity 1
  overflow := overflow
  state := .connecting
  alive := true
  terminated := false
  queues := some ⟨[], []⟩
  delivered := 0
  dropped := 0

/-- Whether the connection is sent data. -/
def isOpen (conn : Connection) : Bool := conn.state = .open

/-- Open the connection if it is still connecting. -/
def markOpen (conn : Connection) : Connection := { conn with state := conn.state.opened.2 }

/-- Start closing the connection unless that has begun. -/
def beginClose (conn : Connection) : Connection := { conn with state := conn.state.closeBegun.2 }

/-- Finish closing the connection. -/
def finishClose (conn : Connection) : Connection := { conn with state := conn.state.closeFinished }

/-- Record a sign of life. -/
def markAlive (conn : Connection) : Connection := { conn with alive := true }

/-- Clear the sign of life, and say whether there was one. -/
def takeAlive (conn : Connection) : Bool × Connection := (conn.alive, { conn with alive := false })

/-- Force the connection closed. Only the first call has an effect. -/
def terminate (conn : Connection) : Connection :=
  if conn.terminated then conn else { conn with terminated := true }.beginClose

/-- Ask for a ping, and say whether somebody is there to send it. -/
def ping (conn : Connection) : Bool × Connection :=
  match conn.queues with
  | none => (false, conn)
  | some queues =>
    (true, { conn with queues := some { queues with control := queues.control ++ [.ping] } })

/-- Offer a payload without waiting. Only an open connection whose queues are there takes it, and
only while its queue has room. One that overflows may be terminated for it. -/
def trySend (conn : Connection) (payload : Payload) : SendOutcome × Connection :=
  if conn.state ≠ .open then (.skipped, conn)
  else
    match conn.queues with
    | none => (.closed, conn)
    | some queues =>
      if queues.outbound.length < conn.capacity then
        (.queued,
          { conn with
            queues := some { queues with outbound := queues.outbound ++ [payload] }
            delivered := conn.delivered + 1 })
      else
        let conn := { conn with dropped := conn.dropped + 1 }
        match conn.overflow with
        | .dropNewest => (.dropped, conn)
        | .disconnect => (.dropped, conn.terminate)

/-- Take the first payload that waits. -/
def receive (conn : Connection) : Received Payload × Connection :=
  match conn.queues with
  | none => (.gone, conn)
  | some ⟨[], _⟩ => (.empty, conn)
  | some ⟨payload :: others, control⟩ =>
    (.item payload, { conn with queues := some ⟨others, control⟩ })

/-- Take the first request that waits. -/
def receiveControl (conn : Connection) : Received Control × Connection :=
  match conn.queues with
  | none => (.gone, conn)
  | some ⟨_, []⟩ => (.empty, conn)
  | some ⟨outbound, request :: others⟩ =>
    (.item request, { conn with queues := some ⟨outbound, others⟩ })

/-- The payloads that wait. -/
def waiting (conn : Connection) : List Payload :=
  match conn.queues with
  | none => []
  | some queues => queues.outbound

/-- Take all payloads that wait. -/
def drain (conn : Connection) : List Payload × Connection :=
  (conn.waiting, { conn with queues := conn.queues.map fun queues => { queues with outbound := [] } })

/-- Drop the receiving ends of both queues, and what waits in them. -/
def dropQueues (conn : Connection) : Connection := { conn with queues := none }

end Connection

/-- The connections of a process in the order they were made. -/
abbrev Connections := List Connection

/-- A connection by its place among the connections. -/
abbrev ConnRef := Nat

namespace Connections

/-- Do something to one connection and keep its answer; the others stay as they are. -/
def act {α : Type} (conns : Connections) (ref : ConnRef) (f : Connection → α × Connection) :
    Option α × Connections :=
  match conns[ref]? with
  | none => (none, conns)
  | some conn => (some (f conn).1, conns.set ref (f conn).2)

/-- Do something to one connection; the others stay as they are. -/
def update (conns : Connections) (ref : ConnRef) (f : Connection → Connection) : Connections :=
  conns.modify ref f

end Connections

end LiveRelay
