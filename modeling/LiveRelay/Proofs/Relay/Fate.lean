/-
Module: LiveRelay.Proofs.Relay.Fate
Purpose: What one event does to one subscriber of a relay: a payload is offered to it or written to
  it, it joins, is attached or ends, and everything else leaves alone what it has and what waits for
  it.
Main exports: Relay.offered?, Relay.Spares, Relay.Fate, Relay.fate
-/
import LiveRelay.Proofs.Relay.Linked

namespace LiveRelay

open Net

namespace Relay

/-- The payload that an event offers to a subscriber: one that is broadcast on its topic and its
channel while it is attached. -/
def offered? (relay : Relay) (c : Nat) (event : Event) : Option Payload :=
  (relay.broadcast? event).bind fun (t, channel, payload) =>
    (relay.connectionOf? c).bind fun (subscriber, _, _) =>
      if subscriber.topic = t ∧ subscriber.channel = some channel then some payload else none

/-- A subscriber is left alone: what it is and has received stays, and so does what waits for it if
it is attached. -/
structure Spares (relay : Relay) (c : Nat) (after : Relay) : Prop where
  absent : relay.subscribers[c]? = none → after.subscribers[c]? = none
  subscriber : ∀ subscriber : Subscriber, relay.subscribers[c]? = some subscriber →
    ∃ later, after.subscribers[c]? = some later ∧ subscriber.Alike later
  connection : ∀ (subscriber : Subscriber) (ref : ConnRef) (conn : Connection),
    relay.connectionOf? c = some (subscriber, ref, conn) →
      ∃ later, after.hub.connections[ref]? = some later ∧ conn.Stays later

/-- What an event does to a subscriber. -/
inductive Fate (relay : Relay) (c : Nat) (event : Event) (after : Relay) : Prop
  /-- Nothing is offered to it, and it is left alone. -/
  | spared (silent : relay.offered? c event = none) (spares : relay.Spares c after)
  /-- It comes. -/
  | joined {t : Nat} {peer : SocketAddress} {channel : Option Channel}
      (nobody : relay.subscribers[c]? = none)
      (joins : after.subscribers[c]? = some (.new t peer channel))
  /-- It is attached, and nothing waits for it yet. -/
  | attached {subscriber : Subscriber} {ref : ConnRef} {conn : Connection}
      (present : relay.subscribers[c]? = some subscriber) (fresh : subscriber.connection = none)
      (attaches : after.connectionOf? c =
        some ({ subscriber with connection := some ref }, ref, conn))
      (nothing : conn.waiting = [])
  /-- A payload is offered to it, which joins what waits or does not. -/
  | offered {subscriber : Subscriber} {ref : ConnRef} {conn later : Connection}
      {channel : Channel} {payload : Payload}
      (attached : relay.connectionOf? c = some (subscriber, ref, conn))
      (asked : subscriber.channel = some channel)
      (offers : relay.offered? c event = some payload)
      (still : after.connectionOf? c = some (subscriber, ref, later))
      (survives : conn.Survives later)
      (joins : later.waiting = conn.waiting ++
        if ref ∈ relay.hub.listedBy subscriber.topic channel ∧ conn.state = .open ∧
          conn.waiting.length < conn.capacity then [payload] else [])
  /-- The first payload that waits is written to it. -/
  | wrote {subscriber : Subscriber} {ref : ConnRef} {conn later : Connection} {payload : Payload}
      (attached : relay.connectionOf? c = some (subscriber, ref, conn))
      (silent : relay.offered? c event = none)
      (still : after.connectionOf? c = some
        ({ subscriber with written := subscriber.written ++ [.data payload] }, ref, later))
      (survives : conn.Survives later) (takes : conn.waiting = payload :: later.waiting)
  /-- It ends, with what it has received. -/
  | ended {subscriber later : Subscriber} {ref : ConnRef} {conn : Connection}
      (attached : relay.connectionOf? c = some (subscriber, ref, conn))
      (turn : event = .turn c .read ∨ event = .turn c .reap)
      (present : after.subscribers[c]? = some later)
      (received : later.received = subscriber.received) (ending : later.ending ≠ none)

variable {homes : List Attachment} {relay middle after : Relay} {c d : Nat} {event : Event}
  {subscriber later : Subscriber} {ref : ConnRef} {conn : Connection}

/-! ### Subscribers that are left alone -/

namespace Spares

/-- A subscriber that is left alone while it is attached keeps its connection, for which the same
payloads wait. -/
theorem still (spares : relay.Spares c after)
    (attached : relay.connectionOf? c = some (subscriber, ref, conn)) :
    ∃ one other, after.connectionOf? c = some (one, ref, other) ∧ subscriber.Alike one ∧
      conn.Stays other := by
  obtain ⟨present, unended, connection, _⟩ := connectionOf?_eq_some_iff.1 attached
  obtain ⟨other, there, stays⟩ := spares.connection subscriber ref conn attached
  obtain ⟨one, later, alike⟩ := spares.subscriber subscriber present
  exact ⟨one, other, connectionOf?_eq_some_iff.2 ⟨later, alike.ending.trans unended,
    alike.connection.trans connection, there⟩, alike, stays⟩

theorem trans (one : relay.Spares c middle) (two : middle.Spares c after) :
    relay.Spares c after where
  absent := fun nobody => two.absent (one.absent nobody)
  subscriber := by
    intro subscriber present
    obtain ⟨_, between, alike⟩ := one.subscriber subscriber present
    obtain ⟨later, there, again⟩ := two.subscriber _ between
    exact ⟨later, there, alike.trans again⟩
  connection := by
    intro subscriber ref conn attached
    obtain ⟨_, middle, between, _, stays⟩ := one.still attached
    obtain ⟨later, there, again⟩ := two.connection _ ref middle between
    exact ⟨later, there, stays.trans again⟩

/-- The subscriber is the same, and what reaches its connection lets it stay. -/
theorem of_connections (same : after.subscribers[c]? = relay.subscribers[c]?)
    (stays : ∀ subscriber ref conn, relay.connectionOf? c = some (subscriber, ref, conn) →
      ∃ later, after.hub.connections[ref]? = some later ∧ conn.Stays later) :
    relay.Spares c after where
  absent := fun nobody => same.trans nobody
  subscriber := fun subscriber present => ⟨subscriber, same.trans present, .refl subscriber⟩
  connection := stays

theorem of_eq (subscribers : after.subscribers[c]? = relay.subscribers[c]?)
    (connections : after.hub.connections = relay.hub.connections) : relay.Spares c after :=
  of_connections subscribers fun _ _ conn attached =>
    ⟨conn, connections ▸ (connectionOf?_eq_some_iff.1 attached).2.2.2, .refl conn⟩

theorem of_counts (counts : relay.Counts after) : relay.Spares c after :=
  of_eq (by rw [counts.subscribers]) counts.connections

/-- Something happens on the hub that neither ends the connection of the subscriber nor touches what
waits for it. Of most events that holds by definition. -/
theorem of_hub (linked : Linked homes relay) (hubEvent : Hub.Event)
    (untouched : ∀ subscriber ref conn, relay.connectionOf? c = some (subscriber, ref, conn) →
      ¬ hubEvent.ends ref ∧ ¬ hubEvent.touches subscriber.home ref) :
    relay.Spares c (relay.withHub (relay.hub.step hubEvent).2) := by
  refine of_connections rfl fun subscriber ref conn attached => ?_
  obtain ⟨present, _, connection, there⟩ := connectionOf?_eq_some_iff.1 attached
  obtain ⟨spared, silent⟩ := untouched subscriber ref conn attached
  exact (linked.resident present connection).stays there spared silent

/-- A subscriber is replaced by a state of itself, or by anything if it is another one. -/
theorem setSubscriber (present : relay.subscribers[d]? = some subscriber)
    (alike : d = c → subscriber.Alike later) : relay.Spares c (relay.setSubscriber d later) where
  absent := by
    intro nobody
    rw [getElem?_setSubscriber relay present, if_neg, nobody]
    rintro rfl
    cases nobody.symm.trans present
  subscriber := by
    intro one here
    rw [getElem?_setSubscriber relay present]
    split
    · next same =>
      subst same
      obtain rfl := Option.some.inj (here.symm.trans present)
      exact ⟨later, rfl, alike rfl⟩
    · exact ⟨one, here, .refl one⟩
  connection := fun _ _ conn attached =>
    ⟨conn, (connectionOf?_eq_some_iff.1 attached).2.2.2, .refl conn⟩

/-- A subscriber is served: something happens on the hub, and it is replaced. -/
theorem served (linked : Linked homes relay) (hubEvent : Hub.Event)
    (untouched : ∀ subscriber ref conn, relay.connectionOf? c = some (subscriber, ref, conn) →
      ¬ hubEvent.ends ref ∧ ¬ hubEvent.touches subscriber.home ref)
    (present : relay.subscribers[d]? = some subscriber)
    (alike : d = c → subscriber.Alike later) :
    relay.Spares c ((relay.withHub (relay.hub.step hubEvent).2).setSubscriber d later) :=
  (of_hub linked hubEvent untouched).trans (setSubscriber present alike)

end Spares

/-- Different subscribers have different connections. -/
theorem Linked.ref_ne (linked : Linked homes relay) (different : d ≠ c)
    (attached : relay.connectionOf? d = some (subscriber, ref, conn)) {one : Subscriber}
    {place : ConnRef} {there : Connection}
    (own : relay.connectionOf? c = some (one, place, there)) : ref ≠ place := by
  obtain ⟨present, _, connection, _⟩ := connectionOf?_eq_some_iff.1 attached
  obtain ⟨here, _, connected, _⟩ := connectionOf?_eq_some_iff.1 own
  rintro rfl
  exact different (linked.apart d c subscriber one ref present here connection connected)

/-- The end of another subscriber is nothing to this one. -/
theorem Spares.endSubscriber (linked : Linked homes relay) (different : d ≠ c)
    (attached : relay.connectionOf? d = some (subscriber, ref, conn)) (reason : CloseReason) :
    relay.Spares c (relay.endSubscriber d later ref reason) := by
  have set : relay.Spares c (relay.setSubscriber d { later with ending := some reason }) :=
    setSubscriber (connectionOf?_eq_some_iff.1 attached).1 fun same => absurd same different
  refine ⟨set.absent, set.subscriber, fun one place there own => ?_⟩
  -- On the hub an end is two steps: the queues are dropped, and the connection is detached.
  obtain ⟨here, _, connected, found⟩ := connectionOf?_eq_some_iff.1 own
  have other : ref ≠ place := linked.ref_ne different attached own
  have resident := linked.resident here connected
  have kept : ¬ (Hub.Event.dropQueues ref).ends place := other
  have listed : ¬ (Hub.Event.detach later.topic ref).ends place := other
  obtain ⟨middle, between, stays⟩ := resident.stays found kept id
  obtain ⟨final, last, again⟩ := (resident.step (.dropQueues ref)).stays between listed id
  exact ⟨final, last, stays.trans again⟩

/-! ### Every event -/

theorem connectionOf?_setSubscriber (relay : Relay)
    (present : relay.subscribers[c]? = some subscriber) (unended : later.ending = none)
    (connection : later.connection = some ref) (there : relay.hub.connections[ref]? = some conn) :
    (relay.setSubscriber c later).connectionOf? c = some (later, ref, conn) :=
  connectionOf?_eq_some_iff.2
    ⟨(getElem?_setSubscriber relay present c).trans (if_pos rfl), unended, connection, there⟩

/-- A turn of a task is about one subscriber. -/
theorem fate_of_turned (linked : Linked homes relay) {task : Task}
    (turned : Turned relay d task after) : Fate relay c (.turn d task) after := by
  have silent : relay.offered? c (.turn d task) = none := rfl
  cases turned with
  | @attached subscriber present fresh placed =>
      by_cases same : d = c
      · subst same
        obtain ⟨conn, reached, nothing⟩ : ∃ conn : Connection,
            (relay.hub.step (.attach subscriber.topic subscriber.peer
              subscriber.channel)).2.connections[relay.hub.connections.length]? = some conn ∧
              conn.waiting = [] := by
          rw [Hub.step_attach (List.getElem?_eq_getElem placed)]
          exact ⟨_, List.getElem?_concat_length, rfl⟩
        exact .attached present fresh (connectionOf?_setSubscriber (relay.withHub _) present
          (linked.fresh d subscriber present fresh).2 rfl reached) nothing
      · exact .spared silent (.served linked _ (fun _ _ _ _ => ⟨id, id⟩) present
          fun own => absurd own same)
  | @ended _ subscriber later ref conn attached closing alike reason =>
      obtain ⟨present, _, _, _⟩ := connectionOf?_eq_some_iff.1 attached
      by_cases same : d = c
      · subst same
        have there : (relay.endSubscriber d later ref reason).subscribers[d]? =
            some { later with ending := some reason } :=
          (getElem?_setSubscriber relay present d).trans (if_pos rfl)
        exact .ended attached (closing.imp (congrArg _) (congrArg _)) there alike.received
          (Option.some_ne_none reason)
      · exact .spared silent (.endSubscriber linked same attached reason)
  | heard attached alike =>
      exact .spared silent
        (.setSubscriber (connectionOf?_eq_some_iff.1 attached).1 fun _ => alike)
  | alive attached alike =>
      exact .spared silent (.served linked _ (fun _ _ _ _ => ⟨id, id⟩)
        (connectionOf?_eq_some_iff.1 attached).1 fun _ => alike)
  | pinged attached =>
      refine .spared silent (.served linked _ (fun _ _ _ _ => ⟨id, id⟩)
        (connectionOf?_eq_some_iff.1 attached).1 fun _ => ?_)
      exact ⟨rfl, rfl, (Subscriber.received_write _ _).trans (List.append_nil _), rfl⟩
  | @wrote subscriber ref conn payload attached handed =>
      obtain ⟨present, unended, connection, there⟩ := connectionOf?_eq_some_iff.1 attached
      by_cases same : d = c
      · subst same
        obtain ⟨later, reached, survives, takes⟩ := Hub.survives_receive_step there handed
        exact .wrote attached silent (connectionOf?_setSubscriber (relay.withHub _) present unended
          connection reached) survives takes
      · exact .spared silent (.served linked _
          (fun _ _ _ own => ⟨id, linked.ref_ne same attached own⟩) present
          fun own => absurd own same)

/-- What is broadcast is offered to the subscribers of its topic and its channel that are
attached. -/
theorem fate_of_fed (linked : Linked homes relay) {t : Nat} {channel : Channel}
    {payload : Payload} (makes : relay.broadcast? event = some (t, channel, payload))
    (counts : (relay.withHub (relay.hub.step (.broadcast t channel payload)).2).Counts after) :
    Fate relay c event after := by
  by_cases asks : ∃ subscriber ref conn, relay.connectionOf? c = some (subscriber, ref, conn) ∧
      subscriber.topic = t ∧ subscriber.channel = some channel
  · obtain ⟨subscriber, ref, conn, attached, rfl, asked⟩ := asks
    obtain ⟨present, unended, connection, there⟩ := connectionOf?_eq_some_iff.1 attached
    obtain ⟨waits, attended⟩ :=
      Option.ne_none_iff_exists'.1 (linked.standing c subscriber ref conn attached).1
    obtain ⟨later, reached, survives, joins⟩ := (linked.resident present connection).offered there
      attended subscriber.topic channel payload
    have offers : relay.offered? c event = some payload := by
      simp [offered?, makes, attached, asked]
    refine .offered attached asked offers (connectionOf?_eq_some_iff.2
      ⟨?_, unended, connection, ?_⟩) survives ?_
    · rw [counts.subscribers]
      exact present
    · rw [counts.connections]
      exact reached
    · rw [Connection.waiting_eq, Connection.waiting_eq, joins, attended]
      rfl
  · refine .spared ?_ ((Spares.of_hub linked _ fun subscriber ref conn attached => ?_).trans
      (.of_counts counts))
    · rw [offered?, makes, Option.bind_some]
      cases attached : relay.connectionOf? c with
      | none => rfl
      | some found =>
          obtain ⟨subscriber, ref, conn⟩ := found
          exact if_neg fun asked => asks ⟨subscriber, ref, conn, attached, asked⟩
    · exact ⟨id, fun asked => asks ⟨subscriber, ref, conn, attached, asked⟩⟩

/-- A new subscriber stands behind all others. -/
theorem fate_of_connected {t : Nat} (peer : SocketAddress) (handshake : Handshake)
    (channel : Option Channel) :
    Fate relay c (.connect t peer handshake)
      { relay with subscribers := relay.subscribers ++ [.new t peer channel] } := by
  by_cases last : c = relay.subscribers.length
  · subst last
    exact .joined (List.getElem?_eq_none (Nat.le_refl _)) List.getElem?_concat_length
  · refine .spared rfl (.of_eq ?_ rfl)
    change (relay.subscribers ++ [Subscriber.new t peer channel])[c]? = _
    rw [List.getElem?_append]
    split
    · rfl
    · next beyond => rw [List.getElem?_singleton, if_neg (by omega), List.getElem?_eq_none (by omega)]

/-- Every event does one of these things to a subscriber. -/
theorem fate_of_course (linked : Linked homes relay) (course : Course relay event after) :
    Fate relay c event after := by
  cases course with
  | counted silent counts =>
      exact .spared (by rw [offered?, silent]; rfl) (.of_counts counts)
  | fed makes counts => exact fate_of_fed linked makes counts
  | opened _ _ _ _ _ counts =>
      exact .spared rfl (.of_eq (by rw [counts.subscribers]) counts.connections)
  | connected _ _ => exact fate_of_connected _ _ _
  | arrived present alike => exact .spared rfl (.setSubscriber present fun _ => alike)
  | turned turned => exact fate_of_turned linked turned
  | terminated _ => exact .spared rfl (.of_hub linked _ fun _ _ _ _ => ⟨id, id⟩)
  | terminatedAll t => exact .spared rfl (.of_hub linked _ fun _ _ _ _ => ⟨id, id⟩)
  | @advanced span _ counts =>
      exact .spared rfl ((Spares.of_hub linked (.advance span) fun _ _ _ _ => ⟨id, id⟩).trans
        (.of_counts counts))

theorem fate (linked : Linked homes relay) (c : Nat) (event : Event) :
    Fate relay c event (relay.step event) :=
  fate_of_course linked (relay.course event)

end Relay

end LiveRelay
