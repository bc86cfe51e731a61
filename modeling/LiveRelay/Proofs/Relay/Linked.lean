/-
Module: LiveRelay.Proofs.Relay.Linked
Purpose: Each subscriber of a relay has a connection of its own, attached for what the subscriber
  asked for, and the connection stands open with its queues until it is terminated or the subscriber
  ends. This holds after every run.
Main exports: Relay.Linked, Relay.Linked.step, Relay.Linked.run, Relay.Begun.linked
-/
import LiveRelay.Proofs.Hub.Standing
import LiveRelay.Proofs.Relay.Grows

namespace LiveRelay

open Net

namespace Relay

/-- The tables of the hub are in place, each subscriber that is attached has a connection that was
attached for it, no two have the same one, one that is not attached has received nothing and has not
ended, and the connection of one that has not ended stands open with its queues unless it is
terminated. -/
structure Linked (homes : List Attachment) (relay : Relay) : Prop where
  tidy : Hub.Tidy homes relay.hub
  sound : homes.length < UInt64.size → Hub.Sound homes relay.hub
  placed : ∀ (c : Nat) (subscriber : Subscriber), relay.subscribers[c]? = some subscriber →
    subscriber.topic < relay.hub.topics.length
  attached : ∀ (c : Nat) (subscriber : Subscriber) (ref : ConnRef),
    relay.subscribers[c]? = some subscriber → subscriber.connection = some ref →
    homes[ref]? = some subscriber.home
  apart : ∀ (c d : Nat) (subscriber other : Subscriber) (ref : ConnRef),
    relay.subscribers[c]? = some subscriber → relay.subscribers[d]? = some other →
    subscriber.connection = some ref → other.connection = some ref → c = d
  fresh : ∀ (c : Nat) (subscriber : Subscriber), relay.subscribers[c]? = some subscriber →
    subscriber.connection = none → subscriber.received = [] ∧ subscriber.ending = none
  standing : ∀ (c : Nat) (subscriber : Subscriber) (ref : ConnRef) (conn : Connection),
    relay.connectionOf? c = some (subscriber, ref, conn) →
    conn.outbound? ≠ none ∧ (conn.terminated = false → conn.state = .open)

variable {homes : List Attachment} {relay before after : Relay} {c d : Nat} {event : Event}
  {events : List Event} {subscriber later other : Subscriber} {ref : ConnRef} {conn : Connection}

theorem getElem?_setSubscriber (relay : Relay)
    (present : relay.subscribers[c]? = some subscriber) (d : Nat) :
    (relay.setSubscriber c later).subscribers[d]? =
      if c = d then some later else relay.subscribers[d]? := by
  rw [setSubscriber, List.getElem?_set]
  split
  · next same =>
    subst same
    rw [if_pos (List.getElem?_eq_some_iff.1 present).1]
  · rfl

/-- The connection of a subscriber depends on the subscribers and on the connections alone. -/
theorem connectionOf?_congr (subscribers : after.subscribers[c]? = before.subscribers[c]?)
    (connections : after.hub.connections = before.hub.connections) :
    after.connectionOf? c = before.connectionOf? c := by
  rw [connectionOf?, connectionOf?, subscribers, connections]

namespace Linked

/-- The connection of a subscriber came about as the subscriber asked for it. -/
theorem resident (linked : Linked homes relay) (present : relay.subscribers[c]? = some subscriber)
    (connection : subscriber.connection = some ref) :
    Hub.Resident homes relay.hub ref subscriber.home :=
  ⟨linked.tidy, linked.attached c subscriber ref present connection⟩

/-- A subscriber that is attached has a connection until it ends. -/
theorem exists_connectionOf (linked : Linked homes relay)
    (present : relay.subscribers[c]? = some subscriber)
    (connection : subscriber.connection = some ref) (unended : subscriber.ending = none) :
    ∃ conn, relay.connectionOf? c = some (subscriber, ref, conn) := by
  obtain ⟨conn, there⟩ := (linked.resident present connection).present
  exact ⟨conn, connectionOf?_eq_some_iff.2 ⟨present, unended, connection, there⟩⟩

theorem connectionOf?_eq_none (linked : Linked homes relay) (absent : relay.connectionOf? c = none)
    (present : relay.subscribers[c]? = some subscriber) :
    subscriber.connection = none ∨ subscriber.ending ≠ none := by
  cases connection : subscriber.connection with
  | none => exact .inl rfl
  | some ref =>
      refine .inr fun unended => ?_
      obtain ⟨conn, attached⟩ := linked.exists_connectionOf present connection unended
      cases absent.symm.trans attached

/-! ### One event -/

theorem of_counts (linked : Linked homes before) (counts : before.Counts after) :
    Linked homes after where
  tidy := linked.tidy.of_continues ⟨counts.topics, by rw [counts.connections]⟩
  sound := fun few => (linked.sound few).of_continues ⟨counts.topics, by rw [counts.connections]⟩
  placed := by
    have length := congrArg List.length counts.topics
    rw [List.length_map, List.length_map] at length
    rw [counts.subscribers, length]
    exact linked.placed
  attached := by
    rw [counts.subscribers]
    exact linked.attached
  apart := by
    rw [counts.subscribers]
    exact linked.apart
  fresh := by
    rw [counts.subscribers]
    exact linked.fresh
  standing := by
    intro c subscriber ref conn attached
    rw [connectionOf?_congr (by rw [counts.subscribers]) counts.connections] at attached
    exact linked.standing c subscriber ref conn attached

/-- Something happens on the hub that attaches nobody, detaches at home if it does, and ends the
connection of no subscriber that has not ended. -/
theorem of_hub (linked : Linked homes relay) (event : Hub.Event)
    (settled : relay.hub.attachment? event = none)
    (atHome : ∀ t ref, event = .detach t ref → ∀ home, homes[ref]? = some home → home.topic = t)
    (spared : ∀ c subscriber ref conn, relay.connectionOf? c = some (subscriber, ref, conn) →
      ¬ event.ends ref) :
    Linked homes (relay.withHub (relay.hub.step event).2) where
  tidy := by
    have tidy := linked.tidy.step event
    rwa [settled, Option.toList_none, List.append_nil] at tidy
  sound := by
    intro few
    have sound := (linked.sound few).step event
    rw [settled, Option.toList_none, List.append_nil] at sound
    exact sound few atHome
  placed := by
    intro c subscriber present
    exact (Hub.length_topics_step relay.hub event).symm ▸ linked.placed c subscriber present
  attached := linked.attached
  apart := linked.apart
  fresh := linked.fresh
  standing := by
    intro c subscriber ref later attached
    obtain ⟨present, unended, connection, there⟩ := connectionOf?_eq_some_iff.1 attached
    obtain ⟨conn, earlier⟩ := linked.exists_connectionOf present connection unended
    obtain ⟨reached, same, survives⟩ := Hub.survives_step (connectionOf?_eq_some_iff.1 earlier).2.2.2
      (spared c subscriber ref conn earlier)
    obtain rfl := Option.some.inj (there.symm.trans same)
    obtain ⟨attended, opened⟩ := linked.standing c subscriber ref conn earlier
    refine ⟨survives.attended attended, fun running => ?_⟩
    obtain ⟨ran, still⟩ := survives.running running
    exact still.trans (opened ran)

/-- A subscriber is replaced by a later state of itself. -/
theorem setSubscriber (linked : Linked homes relay)
    (present : relay.subscribers[c]? = some subscriber) (home : later.home = subscriber.home)
    (connection : later.connection = subscriber.connection)
    (fresh : later.connection = none → later.received = [] ∧ later.ending = none)
    (ending : later.ending = none → subscriber.ending = none) :
    Linked homes (relay.setSubscriber c later) := by
  -- Every subscriber afterwards is the later state or was there before.
  have origin {d : Nat} {one : Subscriber}
      (there : (relay.setSubscriber c later).subscribers[d]? = some one) :
      ∃ earlier, relay.subscribers[d]? = some earlier ∧ one.home = earlier.home ∧
        one.connection = earlier.connection ∧ (one.ending = none → earlier.ending = none) ∧
        (one.connection = none → one.received = [] ∧ one.ending = none) := by
    rw [getElem?_setSubscriber relay present] at there
    split at there
    · next same =>
      subst same
      obtain rfl := Option.some.inj there
      exact ⟨subscriber, present, home, connection, ending, fresh⟩
    · exact ⟨one, there, rfl, rfl, id, linked.fresh d one there⟩
  constructor
  case tidy => exact linked.tidy
  case sound => exact linked.sound
  case placed =>
    intro d one there
    obtain ⟨earlier, was, home, _⟩ := origin there
    have topic : one.topic = earlier.topic := congrArg Attachment.topic home
    rw [topic]
    exact linked.placed d earlier was
  case attached =>
    intro d one ref there connected
    obtain ⟨earlier, was, home, connection, _⟩ := origin there
    rw [home]
    exact linked.attached d earlier ref was (connection.symm.trans connected)
  case apart =>
    intro d e one two ref there here first second
    obtain ⟨_, was, _, connection, _⟩ := origin there
    obtain ⟨_, also, _, link, _⟩ := origin here
    exact linked.apart d e _ _ ref was also (connection.symm.trans first) (link.symm.trans second)
  case fresh =>
    intro d one there
    obtain ⟨_, _, _, _, _, fresh⟩ := origin there
    exact fresh
  case standing =>
    intro d one ref conn attached
    obtain ⟨there, unended, connected, found⟩ := connectionOf?_eq_some_iff.1 attached
    obtain ⟨earlier, was, _, connection, ending, _⟩ := origin there
    exact linked.standing d earlier ref conn
      (connectionOf?_eq_some_iff.2 ⟨was, ending unended, connection.symm.trans connected, found⟩)

/-- The connection of a subscriber is attached. -/
theorem attach (linked : Linked homes relay) (present : relay.subscribers[c]? = some subscriber)
    {hub : Hub} (attaches : (relay.hub.step
      (.attach subscriber.topic subscriber.peer subscriber.channel)).2 = hub) :
    Linked (homes ++ [subscriber.home])
      ((relay.withHub hub).setSubscriber c
        { subscriber with connection := some relay.hub.connections.length }) := by
  have placed := linked.placed c subscriber present
  have even := linked.tidy.even
  have made : relay.hub.attachment? (.attach subscriber.topic subscriber.peer subscriber.channel) =
      some subscriber.home := by
    rw [Hub.attachment?, if_pos placed]
    rfl
  have length := Hub.length_topics_step relay.hub
    (.attach subscriber.topic subscriber.peer subscriber.channel)
  have tidy := linked.tidy.step (.attach subscriber.topic subscriber.peer subscriber.channel)
  have sound (few : homes.length < UInt64.size) := (linked.sound few).step
    (.attach subscriber.topic subscriber.peer subscriber.channel)
  obtain ⟨topic, connections⟩ : ∃ topic : Topic, hub.connections = relay.hub.connections ++
      [(topic.newConnection subscriber.peer subscriber.channel).markOpen] := by
    refine ⟨relay.hub.topics[subscriber.topic], ?_⟩
    rw [← attaches, Hub.step_attach (List.getElem?_eq_getElem placed)]
  rw [made, attaches, Option.toList_some] at tidy sound
  rw [attaches] at length
  -- The new connection is none of those that were there.
  have new_or_old {d : Nat} {one : Subscriber} {ref : ConnRef}
      (there : ((relay.withHub hub).setSubscriber c
        { subscriber with connection := some relay.hub.connections.length }).subscribers[d]? =
          some one) (connected : one.connection = some ref) :
      (d = c ∧ ref = relay.hub.connections.length ∧ one.home = subscriber.home) ∨
      (relay.subscribers[d]? = some one ∧ ref < relay.hub.connections.length) := by
    rw [getElem?_setSubscriber (relay.withHub hub) present] at there
    split at there
    · next same =>
      cases there
      exact .inl ⟨same.symm, (Option.some.inj connected).symm, rfl⟩
    · exact .inr ⟨there, (linked.resident there connected).lt⟩
  constructor
  case tidy => exact tidy
  case sound =>
    intro few
    have before : homes.length < UInt64.size := by
      rw [List.length_append] at few
      omega
    exact sound before few fun t ref same => by cases same
  case placed =>
    intro d one there
    rw [getElem?_setSubscriber (relay.withHub hub) present] at there
    refine length.symm ▸ ?_
    split at there
    · cases there
      exact placed
    · exact linked.placed d one there
  case attached =>
    intro d one ref there connected
    rcases new_or_old there connected with ⟨rfl, rfl, home⟩ | ⟨was, earlier⟩
    · rw [home, ← even, List.getElem?_concat_length]
    · rw [List.getElem?_append_left (even ▸ earlier)]
      exact linked.attached d one ref was connected
  case apart =>
    intro d e one two ref there here first second
    rcases new_or_old there first with ⟨rfl, rfl, _⟩ | ⟨was, earlier⟩
    · rcases new_or_old here second with ⟨rfl, _, _⟩ | ⟨_, earlier⟩
      · rfl
      · exact absurd earlier (Nat.lt_irrefl _)
    · rcases new_or_old here second with ⟨_, rfl, _⟩ | ⟨also, _⟩
      · exact absurd earlier (Nat.lt_irrefl _)
      · exact linked.apart d e one two ref was also first second
  case fresh =>
    intro d one there unattached
    rw [getElem?_setSubscriber (relay.withHub hub) present] at there
    split at there
    · cases there
      cases unattached
    · exact linked.fresh d one there unattached
  case standing =>
    intro d one ref conn attached
    obtain ⟨there, unended, connected, found⟩ := connectionOf?_eq_some_iff.1 attached
    change hub.connections[ref]? = some conn at found
    rw [connections] at found
    rcases new_or_old there connected with ⟨rfl, rfl, _⟩ | ⟨was, earlier⟩
    · rw [List.getElem?_concat_length] at found
      cases found
      exact ⟨Option.some_ne_none [], fun _ => rfl⟩
    · rw [List.getElem?_append_left earlier] at found
      exact linked.standing d one ref conn
        (connectionOf?_eq_some_iff.2 ⟨was, unended, connected, found⟩)

/-- The end of a subscriber ends its own connection alone. -/
theorem endSubscriber (linked : Linked homes relay)
    (attached : relay.connectionOf? c = some (subscriber, ref, conn))
    (alike : subscriber.Alike later) (reason : CloseReason) :
    Linked homes (relay.endSubscriber c later ref reason) := by
  obtain ⟨present, _, connection, _⟩ := connectionOf?_eq_some_iff.1 attached
  have own := linked.attached c subscriber ref present connection
  let closed := relay.setSubscriber c { later with ending := some reason }
  have ended : Linked homes closed :=
    linked.setSubscriber present alike.home alike.connection
      (fun unattached => by cases (alike.connection.symm.trans unattached).symm.trans connection)
      nofun
  -- No other subscriber has the connection.
  have spared {hub : Hub} {event : Hub.Event} (ends : ∀ other, event.ends other → other = ref)
      (d : Nat) (one : Subscriber) (place : ConnRef) (there : Connection)
      (here : (closed.withHub hub).connectionOf? d = some (one, place, there)) :
      ¬ event.ends place := by
    intro ending
    obtain ⟨other, unended, connected, _⟩ := connectionOf?_eq_some_iff.1 here
    obtain rfl := ends place ending
    change closed.subscribers[d]? = some one at other
    rw [getElem?_setSubscriber relay present] at other
    split at other
    · cases other
      cases unended
    · next different =>
      exact different (linked.apart c d _ _ place present other connection connected)
  have dropped := ended.of_hub (.dropQueues ref) rfl nofun
    (spared fun other same => same.symm)
  refine dropped.of_hub (.detach later.topic ref) rfl ?_ (spared fun other same => same.symm)
  rintro t place same home found
  cases same
  obtain rfl := Option.some.inj (own.symm.trans found)
  exact (congrArg Attachment.topic alike.home).symm

/-- Something mild happens on the hub to the connection of a subscriber, which reads or writes. -/
theorem served (linked : Linked homes relay) {hubEvent : Hub.Event}
    (settled : relay.hub.attachment? hubEvent = none) (mild : ∀ ref, ¬ hubEvent.ends ref)
    (attached : relay.connectionOf? c = some (subscriber, ref, conn))
    (home : later.home = subscriber.home) (connection : later.connection = subscriber.connection)
    (ending : later.ending = subscriber.ending) :
    Linked homes ((relay.withHub (relay.hub.step hubEvent).2).setSubscriber c later) := by
  obtain ⟨present, _, connected, _⟩ := connectionOf?_eq_some_iff.1 attached
  have hub := linked.of_hub hubEvent settled
    (fun t ref detaches => absurd (detaches ▸ rfl) (mild ref)) fun _ _ ref _ _ => mild ref
  refine hub.setSubscriber present home connection (fun unattached => ?_) (ending ▸ id)
  cases (connection.symm.trans unattached).symm.trans connected

/-- Nothing is attached. -/
theorem alone (linked : Linked homes after) : ∃ more, Linked (homes ++ more) after :=
  ⟨[], (List.append_nil homes).symm ▸ linked⟩

theorem of_turned (linked : Linked homes relay) {task : Task} (turned : Turned relay c task after) :
    ∃ more, Linked (homes ++ more) after := by
  cases turned with
  | attached present fresh _ => exact ⟨_, linked.attach present rfl⟩
  | ended attached _ alike reason => exact (linked.endSubscriber attached alike reason).alone
  | heard attached alike =>
      obtain ⟨present, _, connected, _⟩ := connectionOf?_eq_some_iff.1 attached
      refine (linked.setSubscriber present alike.home alike.connection ?_ (alike.ending ▸ id)).alone
      intro unattached
      cases (alike.connection.symm.trans unattached).symm.trans connected
  | alive attached alike =>
      exact alone (linked.served rfl (fun _ => id) attached alike.home alike.connection
        alike.ending)
  | pinged attached => exact alone (linked.served rfl (fun _ => id) attached rfl rfl rfl)
  | wrote attached _ => exact alone (linked.served rfl (fun _ => id) attached rfl rfl rfl)

theorem connect (linked : Linked homes relay) {t : Nat} (within : t < relay.hub.topics.length)
    (peer : SocketAddress) (channel : Option Channel) :
    Linked homes { relay with subscribers := relay.subscribers ++ [.new t peer channel] } := by
  -- A subscriber afterwards was there before, or is the new one, which is not attached.
  have origin {d : Nat} {one : Subscriber}
      (there : (relay.subscribers ++ [Subscriber.new t peer channel])[d]? = some one) :
      relay.subscribers[d]? = some one ∨ one = .new t peer channel := by
    rw [List.getElem?_append] at there
    split at there
    · exact .inl there
    · exact .inr (List.mem_singleton.1 (List.mem_of_getElem? there))
  have attached {d : Nat} {one : Subscriber} {ref : ConnRef}
      (there : (relay.subscribers ++ [Subscriber.new t peer channel])[d]? = some one)
      (connected : one.connection = some ref) : relay.subscribers[d]? = some one := by
    rcases origin there with was | rfl
    · exact was
    · cases connected
  constructor
  case tidy => exact linked.tidy
  case sound => exact linked.sound
  case placed =>
    intro d one there
    rcases origin there with was | rfl
    · exact linked.placed d one was
    · exact within
  case attached =>
    exact fun d one ref there connected =>
      linked.attached d one ref (attached there connected) connected
  case apart =>
    exact fun d e one two ref there here first second =>
      linked.apart d e one two ref (attached there first) (attached here second) first second
  case fresh =>
    intro d one there unattached
    rcases origin there with was | rfl
    · exact linked.fresh d one was unattached
    · exact ⟨rfl, rfl⟩
  case standing =>
    intro d one ref conn here
    obtain ⟨there, rest⟩ := connectionOf?_eq_some_iff.1 here
    exact linked.standing d one ref conn
      (connectionOf?_eq_some_iff.2 ⟨attached there rest.2.1, rest⟩)

theorem of_course (linked : Linked homes relay) (course : Course relay event after) :
    ∃ more, Linked (homes ++ more) after := by
  have mild (hubEvent : Hub.Event) (settled : relay.hub.attachment? hubEvent = none)
      (mild : ∀ ref, ¬ hubEvent.ends ref) :
      Linked homes (relay.withHub (relay.hub.step hubEvent).2) :=
    linked.of_hub hubEvent settled
      (fun t ref detaches => absurd (detaches ▸ rfl) (mild ref)) fun _ _ ref _ _ => mild ref
  cases course with
  | counted _ counts => exact (linked.of_counts counts).alone
  | fed _ counts => exact alone ((mild _ rfl fun _ => id).of_counts counts)
  | @opened _ _ _ _ _ _ _ request _ _ _ _ _ _ counts =>
      have longer : Linked homes { relay with requests := relay.requests ++ [request] } :=
        ⟨linked.tidy, linked.sound, linked.placed, linked.attached, linked.apart, linked.fresh,
          linked.standing⟩
      exact (longer.of_counts counts).alone
  | connected here _ => exact (linked.connect (List.getElem?_eq_some_iff.1 here).1 _ _).alone
  | arrived present alike =>
      refine (linked.setSubscriber present alike.home alike.connection ?_ (alike.ending ▸ id)).alone
      intro unattached
      rw [alike.received, alike.ending]
      exact linked.fresh _ _ present (alike.connection.symm.trans unattached)
  | turned turned => exact linked.of_turned turned
  | terminated _ => exact alone (mild _ rfl fun _ => id)
  | terminatedAll t => exact alone (mild _ rfl fun _ => id)
  | @advanced span _ counts =>
      exact alone ((mild (.advance span) rfl fun _ => id).of_counts counts)

/-- Every event keeps subscribers and connections together, and attaches connections behind those
that are there. -/
theorem step (linked : Linked homes relay) (event : Event) :
    ∃ more, Linked (homes ++ more) (relay.step event) :=
  linked.of_course (relay.course event)

/-- So does every run. -/
theorem run (linked : Linked homes relay) (events : List Event) :
    ∃ more, Linked (homes ++ more) (relay.run events) := by
  induction events generalizing relay homes with
  | nil => exact linked.alone
  | cons event others ih =>
      obtain ⟨first, next⟩ := linked.step event
      obtain ⟨later, rest⟩ := ih next
      exact ⟨first ++ later, List.append_assoc homes first later ▸ rest⟩

end Linked

/-- On a relay that begins, nobody is attached. -/
theorem Begun.linked {router : Router PlacedRoute} {config : RelayConfig} {host : Host}
    (begun : Begun router config host relay) : Linked [] relay := by
  have nobody (c : Nat) (subscriber : Subscriber) : relay.subscribers[c]? ≠ some subscriber := by
    rw [begun.subscribers]
    exact nofun
  have fresh : Hub.Fresh { relay.hub with monitors := [] } := by
    refine ⟨fun topic member => ?_, begun.connections, rfl⟩
    change topic ∈ relay.hub.topics at member
    rw [begun.topics] at member
    obtain ⟨one, _, rfl⟩ := List.mem_map.1 member
    exact ⟨one, config, rfl⟩
  exact {
    tidy := ⟨fresh.tidy.even, fresh.tidy.tables⟩
    sound := fun _ => ⟨fresh.sound.even, fresh.sound.placed, fresh.sound.indexed⟩
    placed := fun c subscriber present => absurd present (nobody c subscriber)
    attached := fun c subscriber _ present => absurd present (nobody c subscriber)
    apart := fun c _ subscriber _ _ present => absurd present (nobody c subscriber)
    fresh := fun c subscriber present => absurd present (nobody c subscriber)
    standing := fun c subscriber _ _ attached =>
      absurd (connectionOf?_eq_some_iff.1 attached).1 (nobody c subscriber) }

end Relay

end LiveRelay
