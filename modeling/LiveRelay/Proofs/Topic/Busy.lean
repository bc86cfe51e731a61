/-
Module: LiveRelay.Proofs.Topic.Busy
Purpose: A topic at which many things happen at once: every call that attaches or detaches a
  connection is taken one atomic step at a time, and the steps of all calls mix in any order with
  each other and with what is done to the connections.
Main exports: AttachStage, DetachStage, Seat, BusyTopic, BusyTopic.Move, BusyTopic.step,
  BusyTopic.run
-/
import LiveRelay.Proofs.Topic.Index
import LiveRelay.Proofs.Connection.Walk

namespace LiveRelay

open Net

/-- What stands in a list to which one item was added stood there before, or is that item. -/
theorem getElem?_concat_cases {α : Type} {items : List α} {last item : α} {place : Nat}
    (here : (items ++ [last])[place]? = some item) :
    items[place]? = some item ∨ place = items.length ∧ item = last := by
  obtain ⟨within, there⟩ := List.getElem?_eq_some_iff.1 here
  rw [List.length_append, List.length_singleton] at within
  rcases Nat.lt_or_eq_of_le (Nat.le_of_lt_succ within) with before | rfl
  · exact .inl ((List.getElem?_append_left before).symm.trans here)
  · exact .inr ⟨rfl, Option.some.inj (here.symm.trans List.getElem?_concat_length)⟩

/-- The next step of a call that attaches a connection, or that it has returned. -/
inductive AttachStage where
  | track
  | countOpened
  | enroll
  | markOpen
  | returned
deriving Repr, DecidableEq

/-- The next step of a call that detaches a connection, or that it has returned. The call that finds
the connection tracked counts it as closed; from then on it is known which one that was. -/
inductive DetachStage where
  | beginClose
  | withdraw
  | untrack
  | countClosed
  | finishClose (counted : Bool)
  | returned (counted : Bool)
deriving Repr, DecidableEq

/-- A connection with the call that attaches it and all calls that detach it. -/
structure Seat where
  conn : Connection
  attaching : AttachStage
  detaching : List DetachStage
deriving Repr, DecidableEq

/-- What may be done to a connection at any time by others than the calls that attach and detach
it. -/
inductive Touch where
  | offer (payload : Payload)
  | probe
  | terminate
  | markAlive
  | receive
  | receiveControl
  | dropQueues
deriving Repr, DecidableEq

/-- The connection after it was touched. -/
def Connection.touched (conn : Connection) : Touch → Connection
  | .offer payload => (conn.trySend payload).2
  | .probe => conn.probe.2
  | .terminate => conn.terminate
  | .markAlive => conn.markAlive
  | .receive => conn.receive.2
  | .receiveControl => conn.receiveControl.2
  | .dropQueues => conn.dropQueues

namespace Topic

/-- Remove a connection from the tracked ones. -/
def forget (topic : Topic) (id : ConnId) : Topic :=
  { topic with tracker := topic.tracker.erase id }

/-- Count a connection that is no longer tracked. -/
def countClosed (topic : Topic) : Topic := { topic with stats := topic.stats.connectionClosed }

end Topic

/-- One step of a call that attaches a connection: what it does to the topic and the connection, and
where the call is then. -/
def AttachStage.step (topic : Topic) (conn : Connection) (ref : ConnRef) :
    AttachStage → Topic × Connection × AttachStage
  | .track => (topic.track conn.id ref, conn, .countOpened)
  | .countOpened => (topic.countOpened, conn, .enroll)
  | .enroll => (topic.enroll conn.id conn.channel ref, conn, .markOpen)
  | .markOpen => (topic, conn.markOpen, .returned)
  | .returned => (topic, conn, .returned)

/-- One step of a call that detaches a connection. -/
def DetachStage.step (topic : Topic) (conn : Connection) :
    DetachStage → Topic × Connection × DetachStage
  | .beginClose => (topic, conn.beginClose, .withdraw)
  | .withdraw => (topic.withdraw conn.id conn.channel, conn, .untrack)
  | .untrack =>
    if topic.tracker.contains conn.id then (topic.forget conn.id, conn, .countClosed)
    else (topic, conn, .finishClose false)
  | .countClosed => (topic.countClosed, conn, .finishClose true)
  | .finishClose counted => (topic, conn.finishClose, .returned counted)
  | .returned counted => (topic, conn, .returned counted)

namespace Seat

/-- One step of the call that attaches the connection. -/
def attachStep (ref : ConnRef) (topic : Topic) (seat : Seat) : Topic × Seat :=
  let (topic, conn, stage) := seat.attaching.step topic seat.conn ref
  (topic, { seat with conn := conn, attaching := stage })

/-- One step of a call that detaches the connection. -/
def detachStep (call : Nat) (topic : Topic) (seat : Seat) : Topic × Seat :=
  match seat.detaching[call]? with
  | none => (topic, seat)
  | some stage =>
    let (topic, conn, stage) := stage.step topic seat.conn
    (topic, { seat with conn := conn, detaching := seat.detaching.set call stage })

/-- A step of a detaching call moves that call on, if it is there, and leaves the others as they
are. -/
theorem detachStep_cases (seat : Seat) (call : Nat) (topic : Topic) :
    seat.detachStep call topic = (topic, seat) ∨
      ∃ earlier stage later, seat.detaching = earlier ++ stage :: later ∧
        seat.detachStep call topic = ((stage.step topic seat.conn).1,
          ⟨(stage.step topic seat.conn).2.1, seat.attaching,
            earlier ++ (stage.step topic seat.conn).2.2 :: later⟩) := by
  cases found : seat.detaching[call]? with
  | none =>
      left
      rw [detachStep, found]
  | some stage =>
      right
      obtain ⟨within, rfl⟩ := List.getElem?_eq_some_iff.1 found
      refine ⟨seat.detaching.take call, seat.detaching[call],
        seat.detaching.drop (call + 1), ?_, ?_⟩
      · rw [List.getElem_cons_drop, List.take_append_drop]
      · rw [detachStep, found]
        simp only [List.set_eq_take_append_cons_drop, if_pos within]

end Seat

/-- A topic, and its connections with the calls that attach and detach them. -/
structure BusyTopic where
  topic : Topic
  seats : List Seat

namespace BusyTopic

/-- A topic at which nothing happens yet. -/
def idle (topic : Topic) : BusyTopic := ⟨topic, []⟩

/-- Everything that can happen next. A connection may be detached any number of times once the call
that attaches it has returned. -/
inductive Move where
  | attach (peer : SocketAddress) (channel : Option Channel)
  | attachStep (ref : ConnRef)
  | detach (ref : ConnRef)
  | detachStep (ref : ConnRef) (call : Nat)
  | touch (ref : ConnRef) (touch : Touch)
  | countRelayed (length delivered dropped : Nat)
  | countTerminated (connections : Nat)
deriving Repr, DecidableEq

/-- Let the topic and one seat change. -/
def onSeat (busy : BusyTopic) (ref : ConnRef) (f : Topic → Seat → Topic × Seat) : BusyTopic :=
  match busy.seats[ref]? with
  | none => busy
  | some seat => ⟨(f busy.topic seat).1, busy.seats.set ref (f busy.topic seat).2⟩

/-- One move. -/
def step (busy : BusyTopic) : Move → BusyTopic
  | .attach peer channel =>
    ⟨busy.topic.takeId, busy.seats ++ [⟨busy.topic.newConnection peer channel, .track, []⟩]⟩
  | .attachStep ref => busy.onSeat ref (Seat.attachStep ref)
  | .detach ref =>
    busy.onSeat ref fun topic seat =>
      (topic,
        if seat.attaching = .returned then
          { seat with detaching := seat.detaching ++ [.beginClose] }
        else seat)
  | .detachStep ref call => busy.onSeat ref (Seat.detachStep call)
  | .touch ref touch =>
    busy.onSeat ref fun topic seat => (topic, { seat with conn := seat.conn.touched touch })
  | .countRelayed length delivered dropped =>
    { busy with topic := { busy.topic with
      stats := busy.topic.stats.chunkRelayed length delivered dropped } }
  | .countTerminated connections =>
    { busy with topic := { busy.topic with
      stats := busy.topic.stats.livenessTerminated connections } }

/-- Moves one after another. -/
def run (busy : BusyTopic) (moves : List Move) : BusyTopic := moves.foldl step busy

/-- The connections of the topic. -/
def connections (busy : BusyTopic) : Connections := busy.seats.map Seat.conn

theorem run_cons (busy : BusyTopic) (move : Move) (moves : List Move) :
    busy.run (move :: moves) = (busy.step move).run moves := rfl

theorem run_append (busy : BusyTopic) (one two : List Move) :
    busy.run (one ++ two) = (busy.run one).run two := List.foldl_append

/-! ### Whole operations are series of moves -/

variable {busy : BusyTopic} {ref other : ConnRef} {seat : Seat}

theorem onSeat_of_present (here : busy.seats[ref]? = some seat)
    (f : Topic → Seat → Topic × Seat) :
    busy.onSeat ref f = ⟨(f busy.topic seat).1, busy.seats.set ref (f busy.topic seat).2⟩ := by
  rw [onSeat, here]

theorem seats_onSeat_of_ne (different : ref ≠ other) (f : Topic → Seat → Topic × Seat) :
    (busy.onSeat ref f).seats[other]? = busy.seats[other]? := by
  unfold onSeat
  split
  · rfl
  · exact List.getElem?_set_ne different

theorem seats_onSeat_self (f : Topic → Seat → Topic × Seat) :
    (busy.onSeat ref f).seats[ref]? = busy.seats[ref]?.map fun seat => (f busy.topic seat).2 := by
  cases here : busy.seats[ref]? with
  | none =>
      rw [onSeat, here]
      exact here
  | some seat =>
      rw [onSeat_of_present here]
      exact List.getElem?_set_self (List.getElem?_eq_some_iff.1 here).1

theorem onSeat_last (topic : Topic) (seats : List Seat) (f : Topic → Seat → Topic × Seat) :
    (⟨topic, seats ++ [seat]⟩ : BusyTopic).onSeat seats.length f =
      ⟨(f topic seat).1, seats ++ [(f topic seat).2]⟩ := by
  rw [onSeat_of_present List.getElem?_concat_length]
  simp

/-- A call that attaches a connection does what attaching does, if nothing comes in between. -/
theorem run_attach (busy : BusyTopic) (peer : SocketAddress) (channel : Option Channel) :
    let attached := busy.topic.attach busy.connections peer channel
    let last := busy.seats.length
    let after := busy.run (.attach peer channel :: List.replicate 4 (.attachStep last))
    attached.1 = last ∧ after.topic = attached.2.1 ∧ after.connections = attached.2.2 := by
  have length : busy.connections.length = busy.seats.length := List.length_map _
  intro attached last after
  have moved : after =
      ⟨busy.topic.join channel last,
        busy.seats ++ [⟨(busy.topic.newConnection peer channel).markOpen, .returned, []⟩]⟩ := by
    simp only [after, last, run, List.replicate, List.foldl_cons, List.foldl_nil, step, onSeat_last,
      Seat.attachStep, AttachStage.step]
    rfl
  rw [moved, connections, List.map_append]
  simp only [attached, Topic.attach_eq, length]
  exact ⟨rfl, rfl, rfl⟩

theorem onSeat_set (here : ref < busy.seats.length) (topic : Topic)
    (f : Topic → Seat → Topic × Seat) :
    (⟨topic, busy.seats.set ref seat⟩ : BusyTopic).onSeat ref f =
      ⟨(f topic seat).1, busy.seats.set ref (f topic seat).2⟩ := by
  rw [onSeat_of_present (List.getElem?_set_self here), List.set_set]

theorem detachStep_last (topic : Topic) (conn : Connection) (stages : List DetachStage)
    (stage : DetachStage) :
    Seat.detachStep stages.length topic ⟨conn, .returned, stages ++ [stage]⟩ =
      ((stage.step topic conn).1,
        ⟨(stage.step topic conn).2.1, .returned, stages ++ [(stage.step topic conn).2.2]⟩) := by
  rw [Seat.detachStep, List.getElem?_concat_length]
  simp

/-- What is done to a connection in its seat is done to it among the connections. -/
theorem connections_set (here : busy.seats[ref]? = some seat) {other : Seat}
    {f : Connection → Connection} (same : other.conn = f seat.conn) :
    (busy.seats.set ref other).map Seat.conn = busy.connections.update ref f := by
  have within : ref < busy.seats.length := (List.getElem?_eq_some_iff.1 here).1
  apply Connections.eq_update
  · rw [List.getElem?_map, List.getElem?_set_self within, connections, List.getElem?_map, here]
    exact congrArg some same
  · intro place different
    rw [List.getElem?_map, List.getElem?_set_ne different, connections, List.getElem?_map]

/-- A call that detaches a connection does what detaching does, if nothing comes in between. -/
theorem run_detach {conn : Connection} {stages : List DetachStage}
    (here : busy.seats[ref]? = some ⟨conn, .returned, stages⟩) :
    let after := busy.run (.detach ref :: List.replicate 5 (.detachStep ref stages.length))
    (after.topic, after.connections) = busy.topic.detach busy.connections ref := by
  intro after
  have within : ref < busy.seats.length := (List.getElem?_eq_some_iff.1 here).1
  have present : busy.connections[ref]? = some conn := by
    rw [connections, List.getElem?_map, here]
    rfl
  obtain ⟨counted, moved⟩ : ∃ counted, after =
      ⟨busy.topic.release conn.id conn.channel,
        busy.seats.set ref
          ⟨conn.beginClose.finishClose, .returned, stages ++ [.returned counted]⟩⟩ := by
    have began : after = (⟨busy.topic, busy.seats.set ref
        ⟨conn, .returned, stages ++ [.beginClose]⟩⟩ : BusyTopic).run
          (List.replicate 5 (.detachStep ref stages.length)) := by
      simp only [after, run_cons, step, onSeat_of_present here, if_true]
    have id : conn.beginClose.id = conn.id := rfl
    have channel : conn.beginClose.channel = conn.channel := rfl
    simp only [began, run, List.replicate, List.foldl_cons, List.foldl_nil, step, onSeat_set within,
      detachStep_last, DetachStage.step, Topic.release, Topic.untrack, Topic.forget,
      Topic.countClosed, id, channel]
    by_cases tracked : (busy.topic.withdraw conn.id conn.channel).tracker.contains conn.id = true
    · refine ⟨true, ?_⟩
      simp only [if_pos tracked]
    · refine ⟨false, ?_⟩
      simp only [if_neg tracked]
  have closed : ((busy.seats.set ref
      ⟨conn.beginClose.finishClose, .returned, stages ++ [.returned counted]⟩).map Seat.conn) =
        busy.connections.update ref fun conn => conn.beginClose.finishClose :=
    connections_set here rfl
  rw [moved, Topic.detach_eq present, connections, closed]

/-- Touching connections one after another changes them and nothing else. -/
theorem run_touch (busy : BusyTopic) (refs : List ConnRef) (touch : Touch) :
    (busy.run (refs.map (.touch · touch))).topic = busy.topic ∧
      (busy.run (refs.map (.touch · touch))).connections =
        busy.connections.updateEach refs (·.touched touch) := by
  induction refs generalizing busy with
  | nil => exact ⟨rfl, rfl⟩
  | cons ref others ih =>
      rw [List.map_cons, run_cons, (ih _).1, (ih _).2, step, Connections.updateEach_cons]
      cases here : busy.seats[ref]? with
      | none =>
          have beyond : busy.connections.length ≤ ref := by
            rw [connections, List.length_map]
            exact List.getElem?_eq_none_iff.1 here
          rw [onSeat, here, Connections.update, List.modify_eq_self beyond]
          exact ⟨rfl, rfl⟩
      | some seat =>
          have touched : (busy.seats.set ref
              { seat with conn := seat.conn.touched touch }).map Seat.conn =
                busy.connections.update ref (·.touched touch) := connections_set here rfl
          rw [onSeat_of_present here, ← touched]
          exact ⟨rfl, rfl⟩

/-- A broadcast is a series of offers and then the count of what came of them. -/
theorem run_broadcast (busy : BusyTopic) (channel : Channel) (payload : Payload) :
    let sent := busy.topic.broadcast busy.connections channel payload
    let offers := (busy.topic.registry.openMembers busy.connections channel).map
      (Move.touch · (.offer payload))
    let after := busy.run
      (offers ++ [.countRelayed payload.length sent.1.delivered sent.1.dropped])
    after.topic = sent.2.1 ∧ after.connections = sent.2.2 := by
  intro sent offers after
  obtain ⟨topic, connections⟩ := run_touch busy
    (busy.topic.registry.openMembers busy.connections channel) (.offer payload)
  constructor
  · simp only [after, run_append, run_cons, step]
    rw [topic]
    rfl
  · have walked : sent.2.2 = busy.connections.updateEach
        (busy.topic.registry.openMembers busy.connections channel)
        fun conn => (conn.trySend payload).2 := snd_sendEach _ _ _
    rw [walked]
    simp only [after, run_append]
    exact connections

/-- A probe round is a series of probes and then the count of the connections it terminated. -/
theorem run_probe (busy : BusyTopic) :
    let probed := busy.topic.probe busy.connections
    let after := busy.run (busy.topic.tracker.values.map (Move.touch · .probe) ++
      [.countTerminated probed.1.terminated])
    after.topic = probed.2.1 ∧ after.connections = probed.2.2 := by
  intro probed after
  obtain ⟨topic, connections⟩ := run_touch busy busy.topic.tracker.values .probe
  constructor
  · simp only [after, run_append, run_cons, step]
    rw [topic]
    rfl
  · have walked : probed.2.2 = busy.connections.updateEach busy.topic.tracker.values
        fun conn => conn.probe.2 := snd_probeEach _ _
    rw [walked]
    simp only [after, run_append]
    exact connections

/-- To terminate all connections is to terminate one after another. -/
theorem run_terminateAll (busy : BusyTopic) :
    let after := busy.run (busy.topic.tracker.values.map (Move.touch · .terminate))
    after.topic = busy.topic ∧
      after.connections = (busy.topic.terminateAll busy.connections).2 := by
  rw [Topic.terminateAll, terminateEach_eq]
  exact run_touch busy busy.topic.tracker.values .terminate

end BusyTopic

end LiveRelay
