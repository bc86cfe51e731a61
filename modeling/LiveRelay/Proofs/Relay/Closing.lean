/-
Module: LiveRelay.Proofs.Relay.Closing
Purpose: What closes the connection of a subscriber: a close frame, the end of its sending, silence, an
  overflow, or anything else that terminates the connection. Whatever it is, the subscriber has ended
  once its tasks have nothing to do but to write.
Main exports: Inbound.closes, Frame.reading_of_close, Subscriber.Leads, Relay.leads_step, Relay.Doomed,
  Relay.Closes, Relay.doomed_of_closes, Relay.ended_of_doomed
-/
import LiveRelay.Proofs.Relay.Account
import LiveRelay.Proofs.Relay.Tenants
import LiveRelay.Proofs.Sessions

namespace LiveRelay

open Net

/-- Whether what arrives closes the connection: the end of the sending, or a close frame. -/
def Inbound.closes : Inbound → Bool
  | .hangUp => true
  | .frame received => received.opcode = 8

/-- A close frame is answered, or it violates the protocol. -/
theorem Frame.reading_of_close {frame : Frame} (closing : frame.opcode = 8)
    (underWay : Option BegunMessage) :
    (∃ reply, (frame.reading underWay).1 = .closing reply) ∨
      (frame.reading underWay).1 = .violation := by
  have control : frame.isControl = true := by simp [isControl, closing]
  unfold reading
  split
  · exact .inr rfl
  simp only [readControl]
  split
  · exact .inr rfl
  rw [closing]
  cases closeReply? frame.payload with
  | some reply => exact .inl ⟨reply, rfl⟩
  | none => exact .inr rfl

/-- An open connection that is to be disconnected when it overflows is terminated by a payload for
which it has no room. -/
theorem Connection.terminated_of_full {conn : Connection} {payload : Payload}
    (opened : conn.state = .open) (attended : conn.outbound? ≠ none)
    (full : conn.capacity ≤ conn.waiting.length) (policy : conn.overflow = .disconnect) :
    (conn.trySend payload).2.terminated = true := by
  obtain ⟨waits, present⟩ := Option.ne_none_iff_exists'.1 attended
  obtain ⟨queues, there, rfl⟩ := Option.map_eq_some_iff.1 present
  rw [Connection.waiting_eq, present, Option.getD_some] at full
  rw [Connection.trySend_of_full opened there (Nat.not_lt.2 full), Connection.overflowed, policy]
  exact Connection.terminated_terminate _

namespace Subscriber

/-- From one state of a subscriber to a later one: it keeps its connection, once it has ended it stays
ended, and nothing that closes it is lost before. -/
structure Leads (earlier later : Subscriber) : Prop where
  ending : earlier.ending ≠ none → later.ending ≠ none
  connection : ∀ ref, earlier.connection = some ref → later.connection = some ref
  inbound : ∀ item ∈ earlier.inbound, item.closes = true →
    later.ending ≠ none ∨ item ∈ later.inbound

variable {earlier later : Subscriber}

theorem Leads.refl (subscriber : Subscriber) : subscriber.Leads subscriber :=
  ⟨id, fun _ => id, fun _ member _ => .inr member⟩

/-- It has ended in the meantime. -/
theorem Leads.of_ended (ended : later.ending ≠ none)
    (connection : later.connection = earlier.connection) : earlier.Leads later :=
  ⟨fun _ => ended, fun _ => connection.trans, fun _ _ _ => .inl ended⟩

/-- What closes it is still to be read, if there was anything. -/
theorem Leads.of_inbound (ending : later.ending = earlier.ending)
    (connection : later.connection = earlier.connection)
    (inbound : ∀ item ∈ earlier.inbound, item.closes = true → item ∈ later.inbound) :
    earlier.Leads later :=
  ⟨fun ended => ending ▸ ended, fun _ => connection.trans, fun item member closing =>
    .inr (inbound item member closing)⟩

end Subscriber

namespace Relay

variable {homes : List Attachment} {relay after : Relay} {c d t : Nat} {event : Event}
  {events : List Event} {subscriber one later : Subscriber} {ref : ConnRef} {conn : Connection}

/-! ### One event -/

/-- Reading ends a subscriber, or takes from what has arrived something that does not close it. -/
theorem leads_of_read (turn : relay.read? d = some after) :
    ∃ (one later : Subscriber), relay.subscribers[d]? = some one ∧ one.Leads later ∧
      after.subscribers = relay.subscribers.set d later := by
  unfold read? at turn
  split at turn
  · cases turn
  next subscriber ref conn attached =>
  have present := (connectionOf?_eq_some_iff.1 attached).1
  have ends {later : Subscriber} {reason : CloseReason}
      (connection : later.connection = subscriber.connection) :
      subscriber.Leads { later with ending := some reason } :=
    .of_ended (Option.some_ne_none _) connection
  split at turn
  · cases turn
  · cases turn
    exact ⟨subscriber, _, present, ends rfl, rfl⟩
  next frame others arrived =>
  -- Where the frame does not close it, all that does is among the rest.
  have goesOn {later : Subscriber} (opened : frame.opcode ≠ 8) (inbound : later.inbound = others)
      (ending : later.ending = subscriber.ending)
      (connection : later.connection = subscriber.connection) : subscriber.Leads later := by
    refine .of_inbound ending connection fun item member closing => ?_
    rw [arrived] at member
    rw [inbound]
    rcases List.mem_cons.1 member with rfl | rest
    · exact absurd (of_decide_eq_true closing : frame.opcode = 8) opened
    · exact rest
  have closes (closing : frame.opcode = 8) := Frame.reading_of_close closing subscriber.message
  dsimp only at turn
  split at turn <;> next reading =>
    cases turn
    refine ⟨subscriber, _, present, ?_, rfl⟩
    first
    | exact ends rfl
    | refine goesOn (fun closing => ?_) rfl rfl rfl
      rcases closes closing with ⟨reply, answered⟩ | violated
      · cases reading.symm.trans answered
      · cases reading.symm.trans violated

/-- Only connecting, arriving and serving change the subscribers of a relay. -/
theorem subscribers_of_course (course : Course relay event after)
    (connects : ∀ t peer handshake, event ≠ .connect t peer handshake)
    (arrives : ∀ c inbound, event ≠ .arrive c inbound) (turns : ∀ c task, event ≠ .turn c task) :
    after.subscribers = relay.subscribers := by
  cases course with
  | counted _ counts => exact counts.subscribers
  | fed _ counts => exact counts.subscribers
  | opened _ _ _ _ _ counts => exact counts.subscribers
  | connected => exact absurd rfl (connects _ _ _)
  | arrived => exact absurd rfl (arrives _ _)
  | turned => exact absurd rfl (turns _ _)
  | terminated => rfl
  | terminatedAll => rfl
  | advanced counts => exact counts.subscribers

/-- Whatever happens, a subscriber keeps its connection, and nothing that closes it is lost before it
has ended. -/
theorem leads_step (present : relay.subscribers[c]? = some subscriber) (event : Event) :
    ∃ later, (relay.step event).subscribers[c]? = some later ∧ subscriber.Leads later := by
  have same {after : Relay} (subscribers : after.subscribers = relay.subscribers) :
      ∃ later, after.subscribers[c]? = some later ∧ subscriber.Leads later :=
    ⟨subscriber, subscribers ▸ present, .refl subscriber⟩
  have replaced {after : Relay} {d : Nat} {one two : Subscriber}
      (there : relay.subscribers[d]? = some one)
      (subscribers : after.subscribers = relay.subscribers.set d two) (leads : one.Leads two) :
      ∃ later, after.subscribers[c]? = some later ∧ subscriber.Leads later := by
    rw [subscribers]
    by_cases own : d = c
    · subst own
      obtain rfl := Option.some.inj (present.symm.trans there)
      exact ⟨two, List.getElem?_set_self (List.getElem?_eq_some_iff.1 present).1, leads⟩
    · exact ⟨subscriber, (List.getElem?_set_ne own).trans present, .refl subscriber⟩
  cases event with
  | arrive d inbound =>
      change ∃ later, (relay.arrive d inbound).subscribers[c]? = some later ∧ subscriber.Leads later
      unfold arrive
      split
      · exact same rfl
      next one there =>
      split
      · exact same rfl
      · refine replaced there rfl (.of_inbound rfl rfl fun item member _ => ?_)
        exact List.mem_append_left _ member
  | turn d task =>
      change ∃ later, ((relay.turn? d task).getD relay).subscribers[c]? = some later ∧
        subscriber.Leads later
      cases turn : relay.turn? d task with
      | none => exact same rfl
      | some after =>
      rw [Option.getD_some]
      cases task with
      | read =>
          obtain ⟨one, two, there, leads, subscribers⟩ := leads_of_read turn
          exact replaced there subscribers leads
      | attach =>
          cases turned_of_attach turn with
          | @attached one there fresh _ =>
              refine replaced there rfl ⟨id, fun ref connected => ?_, fun _ member _ => .inr member⟩
              cases fresh.symm.trans connected
          | ended _ closing => rcases closing with closing | closing <;> cases closing
      | reap =>
          cases turned_of_reap turn with
          | ended attached _ alike =>
              exact replaced (connectionOf?_eq_some_iff.1 attached).1
                rfl (.of_ended (Option.some_ne_none _) alike.connection)
      | write =>
          cases turned_of_write turn with
          | ended _ closing => rcases closing with closing | closing <;> cases closing
          | pinged attached =>
              exact replaced (connectionOf?_eq_some_iff.1 attached).1
                rfl (.of_inbound rfl rfl fun _ member _ => member)
          | wrote attached _ =>
              exact replaced (connectionOf?_eq_some_iff.1 attached).1
                rfl (.of_inbound rfl rfl fun _ member _ => member)
  | connect t peer handshake =>
      have within := (List.getElem?_eq_some_iff.1 present).1
      have course := relay.course (.connect t peer handshake)
      generalize relay.step (.connect t peer handshake) = after at course
      cases course with
      | counted _ counts => exact same counts.subscribers
      | fed makes => cases makes
      | connected => exact ⟨subscriber, (List.getElem?_append_left within).trans present, .refl _⟩
  | _ => exact same (subscribers_of_course (relay.course _) (by simp) (by simp) (by simp))

/-! ### Until the end -/

/-- A subscriber that has ended or will: something that closes it has arrived, or its connection is
terminated. -/
def Doomed (relay : Relay) (c : Nat) : Prop :=
  ∃ subscriber, relay.subscribers[c]? = some subscriber ∧
    (subscriber.ending ≠ none ∨ (∃ item ∈ subscriber.inbound, item.closes = true) ∨
      ∃ ref, subscriber.connection = some ref ∧ relay.hub.isTerminated ref = true)

theorem Doomed.step (doomed : relay.Doomed c) (event : Event) : (relay.step event).Doomed c := by
  obtain ⟨subscriber, present, cause⟩ := doomed
  obtain ⟨later, there, leads⟩ := leads_step present event
  refine ⟨later, there, ?_⟩
  rcases cause with ended | ⟨item, member, closing⟩ | ⟨ref, connected, shut⟩
  · exact .inl (leads.ending ended)
  · exact (leads.inbound item member closing).imp_right fun still => .inl ⟨item, still, closing⟩
  · exact .inr (.inr ⟨ref, leads.connection ref connected, (onward_step relay event).terminated shut⟩)

theorem Doomed.run (doomed : relay.Doomed c) (events : List Event) : (relay.run events).Doomed c := by
  induction events generalizing relay with
  | nil => exact doomed
  | cons event others ih => exact ih (doomed.step event)

/-- A subscriber that is attached and has nothing to read has read everything. -/
theorem inbound_of_idle (attached : relay.connectionOf? c = some (subscriber, ref, conn))
    (idle : relay.read? c = none) : subscriber.inbound = [] := by
  rw [read?, attached] at idle
  dsimp only at idle
  split at idle
  · assumption
  · cases idle
  · split at idle <;> cases idle

/-- Once its tasks have nothing to do but to write, a subscriber that was to end has ended. -/
theorem ended_of_doomed (linked : Linked homes relay)
    (settled : ∀ task ≠ Task.write, relay.turn? c task = none) (doomed : relay.Doomed c) :
    ∃ subscriber, relay.subscribers[c]? = some subscriber ∧ subscriber.ending ≠ none := by
  obtain ⟨subscriber, present, cause⟩ := doomed
  refine ⟨subscriber, present, fun unended => ?_⟩
  obtain ⟨ref, conn, attached, running⟩ := linked.attended present unended settled
  rcases cause with ended | ⟨item, member, _⟩ | ⟨place, connected, shut⟩
  · exact ended unended
  · rw [inbound_of_idle attached (settled .read (by decide))] at member
    cases member
  · obtain ⟨_, _, connection, there⟩ := connectionOf?_eq_some_iff.1 attached
    obtain rfl := Option.some.inj (connection.symm.trans connected)
    rw [Hub.isTerminated_of_present there, running] at shut
    cases shut

/-! ### What closes a connection -/

/-- An event closes the connection of a subscriber: a close frame or the end of its sending arrives, a
round finds it silent, data overflows its queue while its policy is to disconnect, or the event
terminates it in any other way. -/
inductive Closes (relay : Relay) (c : Nat) : Event → Prop
  | closeFrame {subscriber : Subscriber} {frame : Frame}
      (present : relay.subscribers[c]? = some subscriber) (closing : frame.opcode = 8) :
      Closes relay c (.arrive c (.frame frame))
  | endOfStream {subscriber : Subscriber} (present : relay.subscribers[c]? = some subscriber) :
      Closes relay c (.arrive c .hangUp)
  | silence {span : Span} {subscriber : Subscriber} {ref : ConnRef} {conn : Connection}
      (attached : relay.connectionOf? c = some (subscriber, ref, conn))
      (silent : 2 ≤ relay.hub.roundsDue span subscriber.topic ∨
        relay.hub.roundsDue span subscriber.topic = 1 ∧ conn.alive = false) :
      Closes relay c (.advance span)
  | overflow {event : Event} {subscriber : Subscriber} {ref : ConnRef} {conn : Connection}
      {payload : Payload} (attached : relay.connectionOf? c = some (subscriber, ref, conn))
      (offers : relay.offered? c event = some payload)
      (full : conn.capacity ≤ conn.waiting.length) (policy : conn.overflow = .disconnect) :
      Closes relay c event
  | termination {event : Event} {subscriber : Subscriber} {ref : ConnRef} {conn : Connection}
      (attached : (relay.step event).connectionOf? c = some (subscriber, ref, conn))
      (terminated : conn.terminated = true) : Closes relay c event

/-- What arrives from a subscriber waits to be read, unless the subscriber has ended. -/
theorem doomed_of_arrive (present : relay.subscribers[c]? = some subscriber) {item : Inbound}
    (closing : item.closes = true) : (relay.step (.arrive c item)).Doomed c := by
  change (relay.arrive c item).Doomed c
  rw [arrive, present]
  dsimp only
  split
  · next ended =>
    refine ⟨subscriber, present, .inl fun unended => ?_⟩
    rw [unended] at ended
    cases ended
  · refine ⟨_, (getElem?_setSubscriber relay present c).trans (if_pos rfl), .inr (.inl ?_)⟩
    exact ⟨item, List.mem_append_right _ List.mem_cons_self, closing⟩

/-- A subscriber whose connection is terminated by an event. -/
theorem doomed_of_terminated (attached : relay.connectionOf? c = some (subscriber, ref, conn))
    (shut : (relay.step event).hub.isTerminated ref = true) : (relay.step event).Doomed c := by
  obtain ⟨present, _, connected, _⟩ := connectionOf?_eq_some_iff.1 attached
  obtain ⟨later, there, leads⟩ := leads_step present event
  exact ⟨later, there, .inr (.inr ⟨ref, leads.connection ref connected, shut⟩)⟩

theorem terminated_of_silence (linked : Linked homes relay) (tenanted : Tenanted relay)
    (few : relay.hub.connections.length < UInt64.size)
    (attached : relay.connectionOf? c = some (subscriber, ref, conn)) {span : Span}
    (silent : 2 ≤ relay.hub.roundsDue span subscriber.topic ∨
      relay.hub.roundsDue span subscriber.topic = 1 ∧ conn.alive = false) :
    (relay.step (.advance span)).hub.isTerminated ref = true := by
  obtain ⟨present, unended, connected, there⟩ := connectionOf?_eq_some_iff.1 attached
  have moved : (relay.step (.advance span)).hub.connections =
      (relay.hub.advance span).connections := (Counts.expire _ _).connections
  rw [Hub.isTerminated, moved]
  change (relay.hub.advance span).isTerminated ref = true
  cases shut : relay.hub.isTerminated ref with
  | true => exact Hub.isTerminated_of_terminated shut (.advance span)
  | false =>
      have tracked := (mem_trackedBy_of_present linked tenanted few present connected).2 unended
      have probes : relay.hub.probesDue subscriber.home ref span =
          relay.hub.roundsDue span subscriber.topic := if_pos tracked
      rw [((linked.resident present connected).advance shut span).1, probes,
        Hub.isAlive_of_present there]
      exact silent

/-- What is broadcast goes to a channel that its topic accepts. -/
theorem Judging.accepted (judging : Judging relay) {channel : Channel} {payload : Payload}
    (makes : relay.broadcast? event = some (t, channel, payload)) (peer : SocketAddress) :
    relay.hub.subscribes ⟨t, peer, some channel⟩ = true := by
  cases event with
  | body p arrived =>
      cases arrived with
      | frame data =>
          obtain ⟨request, present, sends⟩ := Option.bind_eq_some_iff.1 makes
          rw [Option.ite_none_right_eq_some] at sends
          obtain ⟨⟨_, _, routed⟩, same⟩ := sends
          cases same
          exact (judging _ (List.mem_map_of_mem (List.mem_of_getElem? present))).symm.trans routed
      | _ => cases makes
  | _ => cases makes

theorem broadcast?_of_offered (attached : relay.connectionOf? c = some (subscriber, ref, conn))
    {payload : Payload} (offers : relay.offered? c event = some payload) :
    ∃ channel, relay.broadcast? event = some (subscriber.topic, channel, payload) ∧
      subscriber.channel = some channel := by
  obtain ⟨⟨t, channel, data⟩, makes, offered⟩ := Option.bind_eq_some_iff.1 offers
  dsimp only at offered
  rw [attached, Option.bind_some, Option.ite_none_right_eq_some] at offered
  obtain ⟨⟨rfl, asked⟩, same⟩ := offered
  cases same
  exact ⟨channel, makes, asked⟩

/-- After a broadcast sources are counted, and nothing else happens. -/
theorem counts_of_broadcast {channel : Channel} {payload : Payload}
    (makes : relay.broadcast? event = some (t, channel, payload)) :
    (relay.withHub (relay.hub.step (.broadcast t channel payload)).2).Counts (relay.step event) := by
  have course := relay.course event
  generalize relay.step event = after at course
  cases course with
  | counted silent _ => cases silent.symm.trans makes
  | fed fed counts =>
      cases fed.symm.trans makes
      exact counts
  | _ => cases makes

theorem terminated_of_overflow (linked : Linked homes relay) (judging : Judging relay)
    (few : relay.hub.connections.length < UInt64.size)
    (attached : relay.connectionOf? c = some (subscriber, ref, conn)) {payload : Payload}
    (offers : relay.offered? c event = some payload) (full : conn.capacity ≤ conn.waiting.length)
    (policy : conn.overflow = .disconnect) : (relay.step event).hub.isTerminated ref = true := by
  obtain ⟨present, _, connected, there⟩ := connectionOf?_eq_some_iff.1 attached
  obtain ⟨channel, makes, asked⟩ := broadcast?_of_offered attached offers
  cases running : conn.terminated with
  | true =>
      refine (onward_step relay event).terminated ?_
      rw [Hub.isTerminated_of_present there]
      exact running
  | false =>
      obtain ⟨attended, opens⟩ := linked.standing c subscriber ref conn attached
      have accepted : relay.hub.subscribes subscriber.home = true := by
        rw [Subscriber.home, asked]
        exact judging.accepted makes subscriber.peer
      have resident := linked.resident present connected
      have offered := Hub.connections_step (linked.sound_of_few few) ⟨resident.found, there⟩
        (.broadcast subscriber.topic channel payload) (by simp) (by simp)
      have concerns : Concern.ofEvent? subscriber.home ref
          (.broadcast subscriber.topic channel payload) = some (.broadcast payload) :=
        if_pos ⟨rfl, asked⟩
      rw [concerns, Option.elim_some, Connection.undergo, if_pos accepted] at offered
      rw [Hub.isTerminated, (counts_of_broadcast makes).connections]
      change (relay.hub.step (.broadcast subscriber.topic channel payload)).2.connections[ref]?.any _ =
        true
      rw [offered]
      exact Connection.terminated_of_full (opens running) attended full policy

/-- Whatever closes the connection of a subscriber, the subscriber has ended or will. -/
theorem doomed_of_closes (linked : Linked homes relay) (tenanted : Tenanted relay)
    (judging : Judging relay) (few : relay.hub.connections.length < UInt64.size)
    (closes : relay.Closes c event) : (relay.step event).Doomed c := by
  cases closes with
  | closeFrame present closing => exact doomed_of_arrive present (decide_eq_true closing)
  | endOfStream present => exact doomed_of_arrive present rfl
  | silence attached silent =>
      exact doomed_of_terminated attached (terminated_of_silence linked tenanted few attached silent)
  | overflow attached offers full policy =>
      exact doomed_of_terminated attached
        (terminated_of_overflow linked judging few attached offers full policy)
  | termination attached terminated =>
      obtain ⟨present, _, connected, there⟩ := connectionOf?_eq_some_iff.1 attached
      refine ⟨_, present, .inr (.inr ⟨_, connected, ?_⟩)⟩
      rw [Hub.isTerminated_of_present there]
      exact terminated

end Relay

end LiveRelay
