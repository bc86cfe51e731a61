/-
Module: LiveRelay.Proofs.Relay.Course
Purpose: Everything that one event can do to a relay: what its hub undergoes, which requests begin,
  and what becomes of the subscriber that the event is about.
Main exports: Feed, Relay.Counts, Relay.open_of_admit, Relay.open_of_refusal, Relay.broadcast?,
  Relay.Turned, Relay.Course, Relay.course
-/
import LiveRelay.Relay
import LiveRelay.Proofs.Hub.Sound

namespace LiveRelay

open Net

/-- What a push request feeds: a channel of a topic, which the topic accepts or not. -/
structure Feed where
  topic : Nat
  channel : Channel
  routed : Bool
deriving Repr, DecidableEq

def PushRequest.feed (request : PushRequest) : Feed :=
  ⟨request.topic, request.session.channel, request.session.routed⟩

namespace Subscriber

/-- What the connection of a subscriber is attached for. -/
def home (subscriber : Subscriber) : Attachment :=
  ⟨subscriber.topic, subscriber.peer, subscriber.channel⟩

/-- Two states of one subscriber that differ at most in what is read from it and in what is written
to it beside data. -/
structure Alike (earlier later : Subscriber) : Prop where
  home : later.home = earlier.home
  connection : later.connection = earlier.connection
  received : later.received = earlier.received
  ending : later.ending = earlier.ending

theorem Alike.refl (subscriber : Subscriber) : subscriber.Alike subscriber := ⟨rfl, rfl, rfl, rfl⟩

theorem Alike.trans {one two three : Subscriber} (first : one.Alike two) (second : two.Alike three) :
    one.Alike three :=
  ⟨second.home.trans first.home, second.connection.trans first.connection,
    second.received.trans first.received, second.ending.trans first.ending⟩

theorem received_write (subscriber : Subscriber) (message : Message) :
    { subscriber with written := subscriber.written ++ [message] }.received =
      subscriber.received ++
        [message].filterMap fun
          | .data payload => some payload
          | _ => none :=
  List.filterMap_append

end Subscriber

namespace Relay

/-- A relay with another hub. -/
def withHub (relay : Relay) (hub : Hub) : Relay := { relay with hub := hub }

/-! ### Sources -/

/-- Two states of a relay that differ at most in what is counted and in how far the requests are. -/
structure Counts (before after : Relay) : Prop where
  config : after.config = before.config
  host : after.host = before.host
  router : after.router = before.router
  groups : after.listeners.map IngestListener.group = before.listeners.map IngestListener.group
  topics : after.hub.topics.map Topic.uncounted = before.hub.topics.map Topic.uncounted
  connections : after.hub.connections = before.hub.connections
  feeds : after.requests.map PushRequest.feed = before.requests.map PushRequest.feed
  subscribers : after.subscribers = before.subscribers

namespace Counts

variable {before middle after relay : Relay} {p t : Nat} {request later : PushRequest}

theorem refl (relay : Relay) : relay.Counts relay := ⟨rfl, rfl, rfl, rfl, rfl, rfl, rfl, rfl⟩

theorem trans (one : before.Counts middle) (two : middle.Counts after) : before.Counts after :=
  ⟨two.config.trans one.config, two.host.trans one.host, two.router.trans one.router,
    two.groups.trans one.groups, two.topics.trans one.topics,
    two.connections.trans one.connections, two.feeds.trans one.feeds,
    two.subscribers.trans one.subscribers⟩

theorem count (f : TopicStats → TopicStats) : relay.Counts (relay.count t f) := by
  refine ⟨rfl, rfl, rfl, rfl, ?_, ?_, rfl, rfl⟩
  · refine (Hub.Continues.onTopic fun topic _ => ⟨?_, rfl⟩).topics
    rfl
  · change (relay.hub.onTopic t _).2.connections = _
    unfold Hub.onTopic
    split <;> rfl

theorem setRequest (present : relay.requests[p]? = some request) (same : later.feed = request.feed) :
    relay.Counts (relay.setRequest p later) :=
  ⟨rfl, rfl, rfl, rfl, rfl, rfl, map_set_of_eq present same, rfl⟩

theorem endRequest (present : relay.requests[p]? = some request) (ending : IngestEnd) :
    relay.Counts (relay.endRequest p request ending) :=
  (setRequest present (rfl : ({ request with ending := some ending } : PushRequest).feed = _)).trans
    (count _)

theorem expire (relay : Relay) (places : List Nat) : relay.Counts (relay.expire places) := by
  induction places generalizing relay with
  | nil => exact refl relay
  | cons p others ih =>
      rw [Relay.expire]
      split
      · exact ih relay
      · next request present =>
        split
        · exact (endRequest present _).trans (ih _)
        · exact ih relay

end Counts

section Openings

variable {relay : Relay} {l : Nat} {listener : IngestListener} {peer : SocketAddress}
  {head : RequestHead} {placed : PlacedRoute} {channel : Channel} {topic : Topic}

theorem open_of_admit (listening : relay.listeners[l]? = some listener)
    (reachable : relay.isReachable = true)
    (admitted : listener.group.admit relay.router head = .ok (placed, channel))
    (here : relay.hub.topics[placed.topic]? = some topic) :
    ∃ after request, relay.open l peer head = (.started relay.requests.length, after) ∧
      after.requests[relay.requests.length]? = some request ∧
      request.feed = ⟨placed.topic, channel, topic.isKnown channel⟩ := by
  rw [«open», listening]
  simp only [reachable, Bool.true_eq_false, if_false, admitted, startSession, here]
  refine ⟨_, _, Prod.ext (congrArg Opened.started (by simp)) rfl, List.getElem?_concat_length, rfl⟩

theorem open_of_refusal {status : Status} (listening : relay.listeners[l]? = some listener)
    (reachable : relay.isReachable = true)
    (refused : listener.group.admit relay.router head = .error status) :
    relay.open l peer head = (.turnedAway status, relay) := by
  rw [«open», listening]
  simp only [reachable, Bool.true_eq_false, if_false, refused]

end Openings

/-- The broadcast that an event makes: data arrives for an open request on a channel that its topic
accepts. -/
def broadcast? (relay : Relay) : Event → Option (Nat × Channel × Payload)
  | .body p (.frame data) =>
    relay.requests[p]?.bind fun request =>
      if request.isOpen ∧ data ≠ [] ∧ request.session.routed then
        some (request.topic, request.session.channel, data)
      else none
  | _ => none

/-! ### Subscribers -/

/-- What one turn of a task does. -/
inductive Turned (relay : Relay) (c : Nat) : Task → Relay → Prop
  | attached {subscriber : Subscriber} (present : relay.subscribers[c]? = some subscriber)
      (fresh : subscriber.connection = none)
      (placed : subscriber.topic < relay.hub.topics.length) :
      Turned relay c .attach
        ((relay.withHub (relay.hub.step
          (.attach subscriber.topic subscriber.peer subscriber.channel)).2).setSubscriber c
          { subscriber with connection := some relay.hub.connections.length })
  | ended {task : Task} {subscriber later : Subscriber} {ref : ConnRef} {conn : Connection}
      (attached : relay.connectionOf? c = some (subscriber, ref, conn))
      (closing : task = .read ∨ task = .reap) (alike : subscriber.Alike later)
      (reason : CloseReason) : Turned relay c task (relay.endSubscriber c later ref reason)
  | heard {subscriber later : Subscriber} {ref : ConnRef} {conn : Connection}
      (attached : relay.connectionOf? c = some (subscriber, ref, conn))
      (alike : subscriber.Alike later) : Turned relay c .read (relay.setSubscriber c later)
  | alive {subscriber later : Subscriber} {ref : ConnRef} {conn : Connection}
      (attached : relay.connectionOf? c = some (subscriber, ref, conn))
      (alike : subscriber.Alike later) :
      Turned relay c .read
        ((relay.withHub (relay.hub.step (.markAlive ref)).2).setSubscriber c later)
  | pinged {subscriber : Subscriber} {ref : ConnRef} {conn : Connection}
      (attached : relay.connectionOf? c = some (subscriber, ref, conn)) :
      Turned relay c .write
        ((relay.withHub (relay.hub.step (.receiveControl ref)).2).setSubscriber c
          { subscriber with written := subscriber.written ++ [Message.ping] })
  | wrote {subscriber : Subscriber} {ref : ConnRef} {conn : Connection} {payload : Payload}
      (attached : relay.connectionOf? c = some (subscriber, ref, conn))
      (handed : (relay.hub.step (.receive ref)).1 = .received (.item payload)) :
      Turned relay c .write
        ((relay.withHub (relay.hub.step (.receive ref)).2).setSubscriber c
          { subscriber with written := subscriber.written ++ [Message.data payload] })

variable {relay after : Relay} {c : Nat} {task : Task} {subscriber : Subscriber} {ref : ConnRef}
  {conn : Connection}

/-- The connection of a subscriber is there while it is attached and has not ended. -/
theorem connectionOf?_eq_some_iff :
    relay.connectionOf? c = some (subscriber, ref, conn) ↔
      relay.subscribers[c]? = some subscriber ∧ subscriber.ending = none ∧
        subscriber.connection = some ref ∧ relay.hub.connections[ref]? = some conn := by
  rw [connectionOf?]
  cases present : relay.subscribers[c]? with
  | none => simp
  | some other =>
      cases ended : other.ending with
      | some reason =>
          simp only [ended, Option.isSome_some, if_true, reduceCtorEq, Option.some.injEq, false_iff]
          rintro ⟨rfl, open', _⟩
          cases ended.symm.trans open'
      | none =>
          cases linked : other.connection with
          | none =>
              simp only [ended, Option.isSome_none, linked, Option.some.injEq, false_iff,
                Bool.false_eq_true, if_false, reduceCtorEq]
              rintro ⟨rfl, _, attached, _⟩
              cases linked.symm.trans attached
          | some place =>
              simp only [ended, Option.isSome_none, linked, Option.some.injEq,
                Bool.false_eq_true, if_false, Option.map_eq_some_iff, Prod.mk.injEq]
              constructor
              · rintro ⟨_, found, rfl, rfl, rfl⟩
                exact ⟨rfl, ended, linked, found⟩
              · rintro ⟨rfl, _, attached, found⟩
                obtain rfl := Option.some.inj (linked.symm.trans attached)
                exact ⟨conn, found, rfl, rfl, rfl⟩

theorem turned_of_attach (turn : relay.attach? c = some after) : Turned relay c .attach after := by
  unfold attach? at turn
  split at turn
  · cases turn
  next subscriber present =>
  split at turn
  · cases turn
  next fresh =>
  cases here : relay.hub.topics[subscriber.topic]? with
  | none =>
      rw [Hub.step_attach_of_none here] at turn
      cases turn
  | some topic =>
      have placed := (List.getElem?_eq_some_iff.1 here).1
      have unattached : subscriber.connection = none := by simpa using fresh
      have known := Turned.attached present unattached placed
      rw [Hub.step_attach here] at turn known
      cases turn
      exact known

theorem turned_of_reap (turn : relay.reap? c = some after) : Turned relay c .reap after := by
  unfold reap? at turn
  split at turn
  · cases turn
  next subscriber ref conn attached =>
  split at turn
  · cases turn
    exact .ended attached (.inr rfl) (.refl _) _
  · cases turn

theorem turned_of_read (turn : relay.read? c = some after) : Turned relay c .read after := by
  unfold read? at turn
  split at turn
  · cases turn
  next subscriber ref conn attached =>
  split at turn
  · cases turn
  · cases turn
    exact .ended attached (.inl rfl) (.refl _) _
  · next frame others arrived =>
    dsimp only at turn
    split at turn <;> cases turn
    · exact .heard attached ⟨rfl, rfl, rfl, rfl⟩
    · exact .alive attached ⟨rfl, rfl, rfl, rfl⟩
    · refine .heard attached ⟨rfl, rfl, ?_, rfl⟩
      exact (Subscriber.received_write _ _).trans (List.append_nil _)
    · refine .ended attached (.inl rfl) ?_ _
      exact ⟨rfl, rfl, (Subscriber.received_write _ _).trans (List.append_nil _), rfl⟩
    · refine .ended attached (.inl rfl) ?_ _
      exact ⟨rfl, rfl, rfl, rfl⟩

theorem turned_of_write (turn : relay.write? c = some after) : Turned relay c .write after := by
  unfold write? at turn
  split at turn
  · cases turn
  next subscriber ref conn attached =>
  dsimp only at turn
  split at turn
  · next hub asked =>
    have known := Turned.pinged attached
    rw [asked] at known
    cases turn
    exact known
  · split at turn
    · next payload hub taken =>
      have handed : (relay.hub.step (.receive ref)).1 = .received (.item payload) := by rw [taken]
      have known := Turned.wrote attached handed
      rw [taken] at known
      cases turn
      exact known
    · cases turn

/-- A turn of a task does one of the things that turns do. -/
theorem turned_of_turn (turn : relay.turn? c task = some after) : Turned relay c task after := by
  cases task with
  | attach => exact turned_of_attach turn
  | reap => exact turned_of_reap turn
  | read => exact turned_of_read turn
  | write => exact turned_of_write turn

/-! ### Every event -/

/-- What one event does to a relay. -/
inductive Course (relay : Relay) : Event → Relay → Prop
  | counted {event : Event} {after : Relay} (silent : relay.broadcast? event = none)
      (counts : relay.Counts after) : Course relay event after
  | fed {event : Event} {after : Relay} {t : Nat} {channel : Channel} {payload : Payload}
      (makes : relay.broadcast? event = some (t, channel, payload))
      (counts : (relay.withHub (relay.hub.step (.broadcast t channel payload)).2).Counts
        after) : Course relay event after
  | opened {l : Nat} {peer : SocketAddress} {head : RequestHead} {listener : IngestListener}
      {placed : PlacedRoute} {channel : Channel} {topic : Topic} {request : PushRequest}
      {after : Relay} (listening : relay.listeners[l]? = some listener)
      (reachable : relay.isReachable = true)
      (admitted : listener.group.admit relay.router head = .ok (placed, channel))
      (here : relay.hub.topics[placed.topic]? = some topic)
      (feed : request.feed = ⟨placed.topic, channel, topic.isKnown channel⟩)
      (counts : { relay with requests := relay.requests ++ [request] }.Counts after) :
      Course relay (.open l peer head) after
  | connected {t : Nat} {peer : SocketAddress} {handshake : Handshake} {topic : Topic}
      {channel : Option Channel} (here : relay.hub.topics[t]? = some topic)
      (answered : topic.answerHandshake handshake = .ok channel) :
      Course relay (.connect t peer handshake)
        { relay with subscribers := relay.subscribers ++ [.new t peer channel] }
  | arrived {c : Nat} {inbound : Inbound} {subscriber later : Subscriber}
      (present : relay.subscribers[c]? = some subscriber) (alike : subscriber.Alike later) :
      Course relay (.arrive c inbound) (relay.setSubscriber c later)
  | turned {c : Nat} {task : Task} {after : Relay} (turned : Turned relay c task after) :
      Course relay (.turn c task) after
  | terminated {c : Nat} {subscriber : Subscriber} {ref : ConnRef} {conn : Connection}
      (attached : relay.connectionOf? c = some (subscriber, ref, conn)) :
      Course relay (.terminate c) (relay.withHub (relay.hub.step (.terminate ref)).2)
  | terminatedAll (t : Nat) :
      Course relay (.terminateAll t) (relay.withHub (relay.hub.step (.terminateAll t)).2)
  | advanced {span : Span} {after : Relay}
      (counts : (relay.withHub (relay.hub.advance span)).Counts after) :
      Course relay (.advance span) after

theorem course_open (relay : Relay) (l : Nat) (peer : SocketAddress) (head : RequestHead) :
    Course relay (.open l peer head) (relay.open l peer head).2 := by
  unfold «open»
  split
  · exact .counted rfl (.refl relay)
  next listener listening =>
  split
  · exact .counted rfl (.refl relay)
  next unrefused =>
  have reachable : relay.isReachable = true := by simpa using unrefused
  split
  · exact .counted rfl (.refl relay)
  next placed channel admitted =>
  unfold startSession
  split
  · exact .counted rfl (.refl relay)
  next topic here =>
  let request : PushRequest := ⟨placed.topic, head.framing,
    .new listener.nextSession peer topic channel, relay.hub.now, none⟩
  let next : IngestListener := { listener with nextSession := listener.nextSession + 1 }
  have groups : (relay.listeners.set l next).map IngestListener.group =
      relay.listeners.map IngestListener.group := map_set_of_eq listening rfl
  have numbered : { relay with requests := relay.requests ++ [request] }.Counts
      { relay with
        listeners := relay.listeners.set l next
        requests := relay.requests ++ [request] } := ⟨rfl, rfl, rfl, groups, rfl, rfl, rfl, rfl⟩
  exact .opened listening reachable admitted here rfl (numbered.trans (.count _))

theorem course_body (relay : Relay) (p : Nat) (event : BodyEvent) :
    Course relay (.body p event) (relay.serve p event).2 := by
  unfold serve
  split
  · next absent =>
    refine .counted ?_ (.refl relay)
    cases event with
    | frame data => rw [broadcast?, absent, Option.bind_none]
    | ended => rfl
    | broken => rfl
  next request present =>
  split
  · next closed =>
    refine .counted ?_ (.refl relay)
    cases event with
    | frame data => simp [broadcast?, present, closed]
    | ended => rfl
    | broken => rfl
  next opened =>
  cases event with
  | ended => exact .counted rfl (.endRequest present _)
  | broken => exact .counted rfl (.endRequest present _)
  | frame data =>
      dsimp only
      split
      · next empty =>
        refine .counted ?_ (.setRequest present rfl)
        simp [broadcast?, present, empty]
      next nonempty =>
      split
      · next routed =>
        have makes : relay.broadcast? (.body p (.frame data)) =
            some (request.topic, request.session.channel, data) := by
          simp [broadcast?, present, opened, nonempty, routed]
        refine .fed makes ?_
        split
        · next report hub fanned =>
          rw [fanned]
          exact .setRequest present rfl
        · next outcome hub other =>
          rw [other]
          exact .refl _
      · next unrouted =>
        refine .counted ?_ (.setRequest present rfl)
        simp [broadcast?, present, unrouted]

theorem step_terminateAll (relay : Relay) (t : Nat) :
    relay.step (.terminateAll t) = relay.withHub (relay.hub.step (.terminateAll t)).2 := by
  change (relay.terminateAll t).2 = _
  unfold terminateAll
  split
  · next answered => rw [answered]; rfl
  · next answered => rw [answered]; rfl

/-- Every event does one of the things that events do. -/
theorem course (relay : Relay) (event : Event) : Course relay event (relay.step event) := by
  cases event with
  | «open» l peer head => exact relay.course_open l peer head
  | body p event => exact relay.course_body p event
  | connect t peer handshake =>
      change Course relay _ (relay.connect t peer handshake).2
      unfold connect
      split
      · exact .counted rfl (.refl relay)
      next topic here =>
      split
      · exact .counted rfl (.refl relay)
      split
      · exact .counted rfl (.refl relay)
      next channel answered => exact .connected here answered
  | arrive c inbound =>
      change Course relay _ (relay.arrive c inbound)
      unfold arrive
      split
      · exact .counted rfl (.refl relay)
      next subscriber present =>
      split
      · exact .counted rfl (.refl relay)
      · exact .arrived present ⟨rfl, rfl, rfl, rfl⟩
  | turn c task =>
      change Course relay _ ((relay.turn? c task).getD relay)
      cases turn : relay.turn? c task with
      | none => exact .counted rfl (.refl relay)
      | some after => exact .turned (turned_of_turn turn)
  | terminate c =>
      change Course relay _ (relay.terminate c)
      unfold terminate
      split
      · exact .counted rfl (.refl relay)
      next subscriber ref conn attached => exact .terminated attached
  | terminateAll t =>
      rw [step_terminateAll]
      exact .terminatedAll t
  | advance span => exact .advanced (.expire _ _)
  | stopListening => exact .counted rfl ⟨rfl, rfl, rfl, rfl, rfl, rfl, rfl, rfl⟩

end Relay

end LiveRelay
