/-
Module: LiveRelay.Relay.Settle
Purpose: Letting the tasks of a relay run until none of them has anything to do.
Main exports: Relay.work, Relay.settleOne, Relay.settle
-/
import LiveRelay.Relay

namespace LiveRelay.Relay

/-- The first task of a subscriber that has something to do, in the order in which they run:
attaching, ending what is terminated, reading, and writing. -/
def firstTurn? (relay : Relay) (c : Nat) : Option Relay :=
  (relay.turn? c .attach).orElse fun _ =>
    (relay.turn? c .reap).orElse fun _ =>
      (relay.turn? c .read).orElse fun _ => relay.turn? c .write

/-- How many turns the tasks of a subscriber take at most: one to attach it, one for everything
that has arrived or waits, and one to end it. -/
def work (relay : Relay) (c : Nat) : Nat :=
  match relay.subscribers[c]? with
  | none => 0
  | some subscriber =>
    let queued :=
      match subscriber.connection.bind fun ref => relay.hub.connections[ref]? with
      | none => 0
      | some conn =>
        match conn.queues with
        | none => 0
        | some queues => queues.outbound.length + queues.control.length
    subscriber.inbound.length + queued + 2

/-- Let the tasks of a subscriber take so many turns, or fewer where nothing is left to do. -/
def settleOne (relay : Relay) (c : Nat) : Nat → Relay
  | 0 => relay
  | turns + 1 =>
    match relay.firstTurn? c with
    | none => relay
    | some relay => settleOne relay c turns

/-- Let the tasks of all subscribers run until nothing is left to do. -/
def settle (relay : Relay) : Relay :=
  (List.range relay.subscribers.length).foldl
    (fun relay c => relay.settleOne c (relay.work c)) relay

end LiveRelay.Relay
