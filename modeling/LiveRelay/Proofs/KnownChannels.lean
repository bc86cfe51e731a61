/-
Module: LiveRelay.Proofs.KnownChannels
Purpose: Which channels a topic knows is decided in several places, from the set of its channels and
  from the tables that are made of it. All of them agree, after every run. So a relay that rejects
  unknown channels never has a connection without a known one, and one that does not serves such a
  connection like any other, but never registers it.
Main exports: TopicConfig.Accepts, Hub.Onward.exists_changes, ChecksAgree, checksAgree_of_changes,
  Relay.Begun.topic_of_run, Relay.Begun.accepts_of_rejecting, Relay.known_channels
-/
import LiveRelay.Proofs.Membership
import LiveRelay.Proofs.Topic.Tiered

namespace LiveRelay

open Net

/-- Whether a channel is asked for that a topic is configured with. -/
def TopicConfig.Accepts (configured : TopicConfig) (channel : Option Channel) : Prop :=
  ∃ name, channel = some name ∧ name ∈ configured.channels.channels

/-! ### The registries that a topic can have -/

namespace Topic

variable {topic : Topic}

theorem registry_enroll (id : ConnId) (channel : Option Channel) (ref : ConnRef) :
    (topic.enroll id channel ref).registry =
      topic.registry.after (channel.toList.map fun name => .register name id ref) := by
  cases channel with
  | none => rfl
  | some name =>
      change _ = (topic.registry.register name id ref).toOption.getD topic.registry
      rw [enroll]
      cases topic.registry.register name id ref <;> rfl

/-- Attaching registers a connection under the channel that it asked for. -/
theorem registry_join (channel : Option Channel) (ref : ConnRef) :
    (topic.join channel ref).registry =
      topic.registry.after (channel.toList.map fun name => .register name topic.nextId ref) :=
  registry_enroll topic.nextId channel ref

/-- Detaching removes a connection from the channel that it asked for. -/
theorem registry_release (id : ConnId) (channel : Option Channel) :
    (topic.release id channel).registry =
      topic.registry.after (channel.toList.map fun name => .unregister name id) := by
  rw [release, registry_untrack]
  cases channel <;> rfl

end Topic

theorem Registry.after_append (registry : Registry) (first second : List Change) :
    registry.after (first ++ second) = (registry.after first).after second :=
  List.foldl_append

namespace Hub

variable {before after hub : Hub} {t : Nat} {topic : Topic}

/-- An event registers and removes connections, if it does anything to a registry. -/
theorem exists_changes_step (event : Event) (here : (hub.step event).2.topics[t]? = some topic) :
    ∃ earlier changes, hub.topics[t]? = some earlier ∧
      topic.registry = earlier.registry.after changes := by
  obtain ⟨earlier, was, same⟩ := topic_of_step here
  have registry : topic.registry = (hub.becomes t earlier event).registry :=
    congrArg (fun topic => topic.registry) same
  have still (kept : hub.becomes t earlier event = earlier) :
      ∃ earlier changes, hub.topics[t]? = some earlier ∧
        topic.registry = earlier.registry.after changes :=
    ⟨earlier, [], was, registry.trans (congrArg Topic.registry kept)⟩
  cases event with
  | attach s peer channel =>
      rw [becomes] at registry still
      split at registry
      · exact ⟨earlier, _, was, registry.trans (Topic.registry_join channel _)⟩
      · next elsewhere => exact still (if_neg elsewhere)
  | detach s ref =>
      rw [becomes] at registry still
      split at registry
      · cases present : hub.connections[ref]? with
        | none =>
            rw [present] at registry
            exact ⟨earlier, [], was, registry⟩
        | some conn =>
            rw [present] at registry
            exact ⟨earlier, _, was, registry.trans (Topic.registry_release conn.id conn.channel)⟩
      · next elsewhere => exact still (if_neg elsewhere)
  | broadcast s channel payload =>
      refine ⟨earlier, [], was, registry.trans ?_⟩
      rw [becomes]
      split <;> rfl
  | _ => exact still rfl

/-- The registry of a topic at a later time comes about by registering and removing connections. -/
theorem Onward.exists_changes (onward : before.Onward after)
    (here : after.topics[t]? = some topic) :
    ∃ earlier changes, before.topics[t]? = some earlier ∧
      topic.registry = earlier.registry.after changes := by
  induction onward generalizing topic with
  | still => exact ⟨topic, [], here, rfl⟩
  | happens _ event ih =>
      obtain ⟨middle, later, there, last⟩ := exists_changes_step event here
      obtain ⟨earlier, changes, was, first⟩ := ih there
      exact ⟨earlier, changes ++ later, was, by rw [last, first, Registry.after_append]⟩
  | counts _ topics _ ih =>
      obtain ⟨middle, there, same⟩ := exists_getElem?_of_map_eq topics here
      obtain ⟨earlier, changes, was, first⟩ := ih there
      exact ⟨earlier, changes, was, (congrArg (fun topic => topic.registry) same).symm.trans first⟩

end Hub

/-! ### The checks agree -/

/-- Everything that decides whether topic `topic`, configured as `configured`, knows a channel: what is
asked where sources and subscribers come, whether a connection can be registered, and what is counted;
`tiered` is the registry of the topic as a table of tables. -/
structure ChecksAgree (configured : TopicConfig) (topic : Topic) (tiered : TieredRegistry)
    (channel : Channel) : Prop where
  asked : topic.isKnown channel = true ↔ channel ∈ configured.channels.channels
  asked_tiered : tiered.isKnown channel = true ↔ channel ∈ configured.channels.channels
  routed : ∀ id peer, (IngestSession.new id peer topic channel).routed = true ↔
    channel ∈ configured.channels.channels
  registered : ∀ id ref, (topic.registry.register channel id ref).toOption.isSome = true ↔
    channel ∈ configured.channels.channels
  registered_tiered : ∀ id ref, (tiered.register channel id ref).toOption.isSome = true ↔
    channel ∈ configured.channels.channels
  counted : channel ∈ topic.registry.counts.map Prod.fst ↔ channel ∈ configured.channels.channels
  counted_tiered : channel ∈ tiered.counts.map Prod.fst ↔ channel ∈ configured.channels.channels

theorem Tiers.checksAgree {configured : TopicConfig} {topic : Topic} {tiered : TieredRegistry}
    (tiers : Tiers tiered topic.registry) (known : topic.registry.known = configured.channels)
    (channel : Channel) : ChecksAgree configured topic tiered channel := by
  have asked : topic.registry.isKnown channel = true ↔ channel ∈ configured.channels.channels := by
    rw [Registry.isKnown, known, ChannelSet.contains_iff]
  have counted : channel ∈ topic.registry.counts.map Prod.fst ↔
      channel ∈ configured.channels.channels := by
    rw [Registry.counts, List.map_map, known]
    exact Iff.of_eq (congrArg (channel ∈ ·) (List.map_id _))
  have registers (id : ConnId) (ref : ConnRef) :
      (topic.registry.isKnown channel = true ↔
        (topic.registry.register channel id ref).toOption.isSome = true) ∧
      (topic.registry.isKnown channel = true ↔
        (tiered.register channel id ref).toOption.isSome = true) := by
    rcases tiers.register channel id ref with
      ⟨accepted, _, _, one, two, _⟩ | ⟨refused, _, one, two⟩
    · simp [accepted, one, two, Except.toOption]
    · simp [refused, one, two, Except.toOption]
  exact {
    asked := asked
    asked_tiered := by rw [TieredRegistry.isKnown, tiers.known]; exact asked
    routed := fun _ _ => asked
    registered := fun id ref => (registers id ref).1.symm.trans asked
    registered_tiered := fun id ref => (registers id ref).2.symm.trans asked
    counted := counted
    counted_tiered := tiers.counts ▸ counted }

/-- Whatever is registered and removed, all checks go on asking for the configured channels. -/
theorem checksAgree_of_changes {configured : TopicConfig} {topic : Topic}
    {changes : List Registry.Change}
    (registry : topic.registry = (Registry.new configured.name configured.channels).after changes)
    (channel : Channel) :
    ChecksAgree configured topic
      ((TieredRegistry.new configured.name configured.channels).after changes) channel := by
  have tiers := (Tiers.new configured.name configured.channels).after changes
  rw [← registry] at tiers
  exact tiers.checksAgree (registry ▸ Registry.known_after changes) channel

/-! ### Answers to upgrade requests -/

/-- An upgrade request without fault is turned away only for its channel. -/
theorem Topic.answerHandshake_of_upgrade {topic : Topic} {handshake : Handshake}
    (method : handshake.method = "GET") (upgrade : handshake.isUpgrade = true) :
    topic.answerHandshake handshake =
      if topic.rejectUnknown ∧
        topic.knowsChannel (channelOfQuery (queryOfTarget handshake.target)) = false
      then .error .notFound else .ok (channelOfQuery (queryOfTarget handshake.target)) := by
  rw [answerHandshake, if_neg (not_not.2 method), if_neg (by simp [upgrade])]

/-- A topic that rejects unknown channels accepts only upgrades for a channel that it knows. -/
theorem Topic.knowsChannel_of_answered {topic : Topic} {handshake : Handshake}
    {channel : Option Channel} (rejecting : topic.rejectUnknown = true)
    (answered : topic.answerHandshake handshake = .ok channel) :
    topic.knowsChannel channel = true := by
  rw [answerHandshake] at answered
  split at answered
  · cases answered
  split at answered
  · cases answered
  dsimp only at answered
  split at answered
  · cases answered
  · next accepted =>
    cases answered
    simpa [rejecting] using accepted

namespace Relay

variable {router : Router PlacedRoute} {config : RelayConfig} {host : Host}
  {homes : List Attachment} {started relay : Relay} {c t : Nat} {events : List Event}
  {subscriber : Subscriber} {topic : Topic} {configured : TopicConfig} {ref : ConnRef}
  {conn : Connection} {home : Attachment}

/-! ### The topics of a relay -/

/-- A topic of a running relay is configured as at the start. -/
theorem Begun.topic_of_run (begun : Begun router config host started) (events : List Event)
    (here : (started.run events).hub.topics[t]? = some topic) :
    ∃ configured, config.topics[t]? = some configured ∧
      topic.cleared = (Topic.new configured config).cleared := by
  obtain ⟨earlier, was, same⟩ := exists_getElem?_of_map_eq (Grows.run started events).topics here
  rw [begun.topics, List.getElem?_map] at was
  obtain ⟨configured, there, rfl⟩ := Option.map_eq_some_iff.1 was
  exact ⟨configured, there, same.symm⟩

/-- Each configured topic is there. -/
theorem Begun.exists_topic (begun : Begun router config host started) (events : List Event)
    (there : config.topics[t]? = some configured) :
    ∃ topic, (started.run events).hub.topics[t]? = some topic ∧
      topic.cleared = (Topic.new configured config).cleared :=
  begun.exists_topic_of_grows (Grows.run started events) there

/-- What of a topic is as configured. -/
theorem known_of_cleared (same : topic.cleared = (Topic.new configured config).cleared) :
    topic.registry.known = configured.channels ∧ topic.rejectUnknown = config.rejectUnknown :=
  ⟨congrArg (fun topic => topic.registry.known) same, congrArg (fun topic => topic.rejectUnknown) same⟩

/-- A topic knows the channel that is asked for exactly if it is configured with it. -/
theorem knowsChannel_iff (known : topic.registry.known = configured.channels)
    {channel : Option Channel} : topic.knowsChannel channel = true ↔ configured.Accepts channel := by
  rw [Topic.knowsChannel, Option.any_eq_true, TopicConfig.Accepts]
  refine exists_congr fun name => and_congr_right fun _ => ?_
  rw [Topic.isKnown, Registry.isKnown, known, ChannelSet.contains_iff]

/-- The registry of a topic of a running relay comes about from a new one by changes. -/
theorem Begun.exists_changes (begun : Begun router config host started) (events : List Event)
    (there : config.topics[t]? = some configured)
    (here : (started.run events).hub.topics[t]? = some topic) :
    ∃ changes, topic.registry = (Registry.new configured.name configured.channels).after changes := by
  obtain ⟨earlier, changes, was, registry⟩ := (onward_run started events).exists_changes here
  rw [begun.topics, List.getElem?_map, there, Option.map_some] at was
  obtain rfl := Option.some.inj was
  exact ⟨changes, registry⟩

/-! ### Unknown channels -/

/-- How an upgrade request for a channel that is not accepted is answered. -/
theorem Begun.connect_of_unknown (begun : Begun router config host started) (events : List Event)
    (there : config.topics[t]? = some configured) (peer : SocketAddress) {handshake : Handshake}
    (reachable : (started.run events).isReachable = true) (method : handshake.method = "GET")
    (upgrade : handshake.isUpgrade = true)
    (unknown : ¬ configured.Accepts (channelOfQuery (queryOfTarget handshake.target))) :
    (started.run events).connect t peer handshake =
      if config.rejectUnknown then (.turnedAway .notFound, started.run events)
      else (.accepted (started.run events).subscribers.length,
        { started.run events with subscribers := (started.run events).subscribers ++
          [.new t peer (channelOfQuery (queryOfTarget handshake.target))] }) := by
  obtain ⟨topic, here, same⟩ := begun.exists_topic events there
  obtain ⟨known, rejecting⟩ := known_of_cleared same
  have refused : topic.knowsChannel (channelOfQuery (queryOfTarget handshake.target)) = false := by
    rw [← Bool.not_eq_true, knowsChannel_iff known]
    exact unknown
  rw [connect, here]
  simp only [reachable, Bool.true_eq_false, if_false,
    Topic.answerHandshake_of_upgrade method upgrade, refused, rejecting, and_true]
  cases config.rejectUnknown <;> rfl

/-- An accepted upgrade was answered by its topic at some time. -/
theorem exists_upgrade (member : home ∈ relay.upgrades events) :
    ∃ before event, (relay.run before).upgrade? event = some home := by
  induction events generalizing relay with
  | nil => exact absurd member List.not_mem_nil
  | cons event others ih =>
      rcases List.mem_append.1 member with now | later
      · exact ⟨[], event, Option.mem_toList.1 now⟩
      · obtain ⟨before, last, accepted⟩ := ih later
        exact ⟨event :: before, last, accepted⟩

/-- Where unknown channels are rejected, every subscriber asked for a channel of its topic. -/
theorem Begun.accepts_of_rejecting (begun : Begun router config host started)
    (rejecting : config.rejectUnknown = true) (events : List Event)
    (member : subscriber ∈ (started.run events).subscribers) :
    ∃ configured, config.topics[subscriber.topic]? = some configured ∧
      configured.Accepts subscriber.channel := by
  have homes := homes_run begun.linked events
  rw [begun.subscribers, List.map_nil, List.nil_append] at homes
  have upgraded : subscriber.home ∈ started.upgrades events :=
    homes ▸ List.mem_map_of_mem member
  obtain ⟨before, event, accepted⟩ := exists_upgrade upgraded
  unfold upgrade? at accepted
  split at accepted
  · next t peer handshake =>
    rw [Option.ite_none_right_eq_some] at accepted
    obtain ⟨topic, here, answers⟩ := Option.bind_eq_some_iff.1 accepted.2
    obtain ⟨channel, answered, home⟩ := Option.map_eq_some_iff.1 answers
    obtain ⟨configured, there, same⟩ := begun.topic_of_run before here
    obtain ⟨known, strict⟩ := known_of_cleared same
    have asked : topic.answerHandshake handshake = .ok channel := by
      cases answer : topic.answerHandshake handshake with
      | error status => rw [answer] at answered; cases answered
      | ok found =>
          rw [answer] at answered
          exact congrArg Except.ok (Option.some.inj answered)
    have own : t = subscriber.topic := congrArg Attachment.topic home
    have wants : channel = subscriber.channel := congrArg Attachment.channel home
    subst own wants
    exact ⟨configured, there,
      (knowsChannel_iff known).1 (Topic.knowsChannel_of_answered (strict.trans rejecting) asked)⟩
  · cases accepted

/-! ### Every connection -/

/-- There are no more connections than subscribers. -/
theorem Tenanted.length_connections_le (tenanted : Tenanted relay) :
    relay.hub.connections.length ≤ relay.subscribers.length := by
  have seats := tenanted.seated.length_eq
  rw [List.length_range, bonds, List.length_map] at seats
  rw [← seats]
  exact (List.length_filterMap_le _ _).trans_eq (List.length_map _)

/-- A registered connection belongs to a subscriber that asked for the channel, and the topic knows
it. -/
theorem asked_of_registered (linked : Linked homes relay)
    (here : relay.hub.topics[t]? = some topic) (present : relay.subscribers[c]? = some subscriber)
    (connected : subscriber.connection = some ref) {channel : Channel}
    (registered : ref ∈ topic.registry.membersOf channel) :
    subscriber.topic = t ∧ subscriber.channel = some channel ∧ topic.isKnown channel = true := by
  obtain ⟨id, entry⟩ := Registry.mem_membersOf.1 registered
  obtain ⟨home, found, own, asked, known⟩ := (linked.tidy.tables t topic here).listed_own _ entry
  obtain rfl := Option.some.inj ((linked.attached c subscriber ref present connected).symm.trans found)
  exact ⟨own, asked, known⟩

/-- Where every subscriber of a topic asked for a channel that the topic knows, what the topic tracks
is what it has registered. -/
theorem tracked_perm_registered (linked : Linked homes relay) (tenanted : Tenanted relay)
    (few : relay.hub.connections.length < UInt64.size)
    (here : relay.hub.topics[t]? = some topic)
    (known : ∀ subscriber ∈ relay.subscribers, subscriber.topic = t →
      topic.knowsChannel subscriber.channel = true) :
    topic.tracker.values.Perm topic.registry.members.values := by
  have tidy := linked.tidy.tables t topic here
  refine (List.perm_ext_iff_of_nodup tidy.tracked_once tidy.listed_once).2 fun ref => ?_
  have listed : ref ∈ topic.registry.members.values ↔
      ∃ channel, ref ∈ topic.registry.membersOf channel := by
    rw [Table.mem_values]
    constructor
    · rintro ⟨⟨channel, id⟩, entry⟩
      exact ⟨channel, Registry.mem_membersOf.2 ⟨id, entry⟩⟩
    · rintro ⟨channel, member⟩
      obtain ⟨id, entry⟩ := Registry.mem_membersOf.1 member
      exact ⟨_, entry⟩
  have named : relay.hub.trackedBy t = topic.tracker.values := Hub.named_of_here here
  rw [listed, ← named, mem_trackedBy_iff linked tenanted few]
  constructor
  · rintro ⟨subscriber, member, own, unended, connected⟩
    obtain ⟨channel, asked, accepted⟩ := (Option.any_eq_true _ _).1 (known subscriber member own)
    exact ⟨channel, (mem_membersOf_iff linked tenanted few here).2
      ⟨accepted, subscriber, member, own, unended, asked, connected⟩⟩
  · rintro ⟨channel, member⟩
    obtain ⟨_, subscriber, present, own, unended, _, connected⟩ :=
      (mem_membersOf_iff linked tenanted few here).1 member
    exact ⟨subscriber, present, own, unended, connected⟩

/-- After the turn of a task, a subscriber with a connection is tracked unless it has ended. -/
theorem tracks_of_turn (linked : Linked homes relay) (tenanted : Tenanted relay)
    (few : relay.subscribers.length < UInt64.size) {task : Task} {after : Relay}
    (later : Subscriber) (turn : relay.turn? c task = some after)
    (subscribers : after.subscribers = relay.subscribers.set c later)
    (present : relay.subscribers[c]? = some subscriber) (connected : later.connection = some ref) :
    after.subscribers[c]? = some later ∧ (after.tracks c = true ↔ later.ending = none) := by
  have there : after.subscribers[c]? = some later := by
    rw [subscribers, List.getElem?_set_self (List.getElem?_eq_some_iff.1 present).1]
  have whole : relay.step (.turn c task) = after := by
    change (relay.turn? c task).getD relay = after
    rw [turn, Option.getD_some]
  obtain ⟨_, linkedThen⟩ := linked.step (.turn c task)
  have tenantedThen := tenanted.step linked (.turn c task)
  rw [whole] at linkedThen tenantedThen
  have fewThen : after.hub.connections.length < UInt64.size := by
    refine Nat.lt_of_le_of_lt tenantedThen.length_connections_le ?_
    rwa [subscribers, List.length_set]
  refine ⟨there, ?_⟩
  rw [tracks, there, Option.any_some, connected, Option.any_some, decide_eq_true_eq]
  exact mem_trackedBy_of_present linkedThen tenantedThen fewThen there connected

/-- A subscriber that is not attached can be, and is tracked then. -/
theorem exists_attached (linked : Linked homes relay) (tenanted : Tenanted relay)
    (few : relay.subscribers.length < UInt64.size)
    (present : relay.subscribers[c]? = some subscriber) (fresh : subscriber.connection = none) :
    ∃ after, relay.turn? c .attach = some after ∧ after.tracks c = true := by
  have here := List.getElem?_eq_getElem (linked.placed c subscriber present)
  let later := { subscriber with connection := some relay.hub.connections.length }
  have turn : relay.turn? c .attach = some ((relay.withHub (relay.hub.step
      (.attach subscriber.topic subscriber.peer subscriber.channel)).2).setSubscriber c later) := by
    change relay.attach? c = some _
    simp only [attach?, present, fresh, Hub.step_attach here]
    rfl
  have tracked := (tracks_of_turn linked tenanted few later turn rfl present rfl).2
  exact ⟨_, turn, tracked.2 (linked.fresh c subscriber present fresh).2⟩

/-- A subscriber whose connection is terminated can be reaped, and is not tracked any more then. -/
theorem exists_reaped (linked : Linked homes relay) (tenanted : Tenanted relay)
    (few : relay.subscribers.length < UInt64.size)
    (attached : relay.connectionOf? c = some (subscriber, ref, conn))
    (terminated : conn.terminated = true) :
    ∃ after, relay.turn? c .reap = some after ∧ after.tracks c = false ∧
      after.subscribers[c]? = some { subscriber with ending := some .terminated } := by
  obtain ⟨present, _, connected, _⟩ := connectionOf?_eq_some_iff.1 attached
  have turn : relay.turn? c .reap = some (relay.endSubscriber c subscriber ref .terminated) := by
    change relay.reap? c = _
    rw [reap?, attached]
    exact if_pos terminated
  obtain ⟨there, tracked⟩ := tracks_of_turn linked tenanted few
    { subscriber with ending := some .terminated } turn rfl present connected
  exact ⟨_, turn, Bool.eq_false_iff.2 fun still => Option.some_ne_none _ (tracked.1 still), there⟩

/-- When the clock moves, the connection of a subscriber is probed by each round of its topic. -/
theorem probed_of_advance (linked : Linked homes relay) (tenanted : Tenanted relay)
    (few : relay.hub.connections.length < UInt64.size)
    (attached : relay.connectionOf? c = some (subscriber, ref, conn)) (span : Span) :
    (relay.step (.advance span)).hub.connections[ref]? =
      some ((fun conn => conn.probe.2)^[relay.hub.roundsDue span subscriber.topic] conn) := by
  obtain ⟨present, unended, connected, there⟩ := connectionOf?_eq_some_iff.1 attached
  have moved : (relay.step (.advance span)).hub.connections =
      (relay.hub.step (.advance span)).2.connections := (Counts.expire _ _).connections
  have tracked := (mem_trackedBy_of_present linked tenanted few present connected).2 unended
  have home := linked.attached c subscriber ref present connected
  have rounds : (relay.hub.reached (.advance span)).count ref =
      relay.hub.roundsDue span subscriber.topic :=
    (linked.tidy.count_advance home span).trans (if_pos tracked)
  rw [moved, Hub.getElem?_step there, rounds]
  rfl

/-! ### Every run -/

/-- A topic knows exactly the channels that it is configured with, wherever this is checked: for
every registry that comes about by registering and removing connections, as one table and as a table
of tables, what is asked of the set of channels, what can be registered and what is counted agree. In
every run of a relay that starts, the registries of its topics are such. An upgrade request for no
channel or for another one is turned away and changes nothing where unknown channels are rejected,
and accepted otherwise. Where they are rejected, the connections that a topic tracks are those that it
has registered. Every subscriber can be attached, is tracked until it ends, is probed by every round
and can be reaped once it is terminated, whatever it asked for; but without a channel of its topic it
is never registered. Connections are numbered with 64 bits, so that fewer than `2 ^ 64` subscribers
get each a number of its own. -/
theorem known_channels (begins : startWith router config host = .ok started) (events : List Event) :
    (∀ (configured : TopicConfig) (topic : Topic) (changes : List Registry.Change),
      topic.registry = (Registry.new configured.name configured.channels).after changes →
      ∀ channel : String, ChecksAgree configured topic
        ((TieredRegistry.new configured.name configured.channels).after changes) channel) ∧
    (∀ (t : Nat) (configured : TopicConfig) (topic : Topic), config.topics[t]? = some configured →
      (started.run events).hub.topics[t]? = some topic →
      ∃ changes,
        topic.registry = (Registry.new configured.name configured.channels).after changes) ∧
    (∀ (t : Nat) (configured : TopicConfig) (peer : SocketAddress) (handshake : Handshake),
      config.topics[t]? = some configured →
      (started.run events).isReachable = true → handshake.method = "GET" →
      handshake.isUpgrade = true →
      ¬ configured.Accepts (channelOfQuery (queryOfTarget handshake.target)) →
      (started.run events).connect t peer handshake =
        if config.rejectUnknown then (.turnedAway .notFound, started.run events)
        else (.accepted (started.run events).subscribers.length,
          { started.run events with subscribers := (started.run events).subscribers ++
            [.new t peer (channelOfQuery (queryOfTarget handshake.target))] })) ∧
    ((started.run events).subscribers.length < UInt64.size →
      (config.rejectUnknown = true → ∀ (t : Nat) (topic : Topic),
        (started.run events).hub.topics[t]? = some topic →
        topic.tracker.values.Perm topic.registry.members.values) ∧
      ∀ (c : Nat) (subscriber : Subscriber),
        (started.run events).subscribers[c]? = some subscriber →
        (subscriber.connection = none → ∃ after,
          (started.run events).turn? c .attach = some after ∧ after.tracks c = true) ∧
        (∀ ref : ConnRef, subscriber.connection = some ref →
          (ref ∈ (started.run events).hub.trackedBy subscriber.topic ↔ subscriber.ending = none)) ∧
        (∀ (ref : ConnRef) (conn : Connection),
          (started.run events).connectionOf? c = some (subscriber, ref, conn) →
          (∀ span : Span, ((started.run events).step (.advance span)).hub.connections[ref]? =
            some ((fun conn => conn.probe.2)^[(started.run events).hub.roundsDue span
              subscriber.topic] conn)) ∧
          (conn.terminated = true → ∃ after,
            (started.run events).turn? c .reap = some after ∧ after.tracks c = false ∧
              after.subscribers[c]? = some { subscriber with ending := some .terminated })) ∧
        ∀ configured : TopicConfig, config.topics[subscriber.topic]? = some configured →
          ¬ configured.Accepts subscriber.channel →
          ∀ (t : Nat) (topic : Topic) (channel : String) (ref : ConnRef),
            (started.run events).hub.topics[t]? = some topic →
            subscriber.connection = some ref → ref ∉ topic.registry.membersOf channel) := by
  have begun := (begun_of_startWith begins).2
  obtain ⟨homes, linked⟩ := begun.linked.run events
  have tenanted := begun.tenanted.run begun.linked events
  refine ⟨fun _ _ _ registry => checksAgree_of_changes registry,
    fun t configured topic there here => begun.exists_changes events there here,
    fun t configured peer handshake there reachable method upgrade unknown =>
      begun.connect_of_unknown events there peer reachable method upgrade unknown, fun few => ?_⟩
  have fewConnections := Nat.lt_of_le_of_lt tenanted.length_connections_le few
  refine ⟨fun rejecting t topic here => ?_, fun c subscriber present => ⟨?_, ?_, ?_, ?_⟩⟩
  · refine tracked_perm_registered linked tenanted fewConnections here fun subscriber member own => ?_
    obtain ⟨configured, there, accepts⟩ := begun.accepts_of_rejecting rejecting events member
    obtain ⟨other, again, same⟩ := begun.topic_of_run events here
    rw [own, again] at there
    obtain rfl := Option.some.inj there
    exact (knowsChannel_iff (known_of_cleared same).1).2 accepts
  · exact exists_attached linked tenanted few present
  · exact fun ref connected => mem_trackedBy_of_present linked tenanted fewConnections present connected
  · exact fun ref conn attached =>
      ⟨probed_of_advance linked tenanted fewConnections attached,
        exists_reaped linked tenanted few attached⟩
  · intro configured there unknown t topic channel ref here connected registered
    obtain ⟨rfl, asked, known⟩ := asked_of_registered linked here present connected registered
    obtain ⟨other, again, same⟩ := begun.topic_of_run events here
    obtain rfl := Option.some.inj (there.symm.trans again)
    refine unknown ((knowsChannel_iff (known_of_cleared same).1).1 ?_)
    rw [asked]
    exact known

/-- One topic with one channel that turns away who asks for another. -/
def closedChannel : RelayConfig := { oneChannel with rejectUnknown := true }

/-- Two subscribers, of which the first asks for a channel that there is not. -/
def strayAndGuest : List Event :=
  [.connect 0 default (upgradeTo "/?channel=b"), .connect 0 default (upgradeTo "/?channel=a"),
    .turn 0 .attach, .turn 1 .attach]

/-- The channel that a request for channel `b` asks for is not configured. -/
theorem not_accepts_stray {configured : TopicConfig} (there : oneChannel.topics[0]? = some configured) :
    ¬ configured.Accepts (channelOfQuery (queryOfTarget (upgradeTo "/?channel=b").target)) := by
  obtain rfl := Option.some.inj there
  rintro ⟨name, asked, member⟩
  have stray : channelOfQuery (queryOfTarget (upgradeTo "/?channel=b").target) = some "b" := by
    decide +kernel
  obtain rfl := Option.some.inj (stray.symm.trans asked)
  revert member
  decide +kernel

/-- Where unknown channels are rejected, the first subscriber is turned away, and the topic tracks the
one that it has registered. Otherwise the topic tracks both of them, and has registered the second. -/
theorem known_channels_of_strayAndGuest :
    (∃ started, startWith search closedChannel .linked = .ok started ∧
      (started.run strayAndGuest).connect 0 default (upgradeTo "/?channel=b") =
        (.turnedAway .notFound, started.run strayAndGuest) ∧
      ∃ topic, (started.run strayAndGuest).hub.topics[0]? = some topic ∧
        topic.tracker.values = [0] ∧ topic.tracker.values.Perm topic.registry.members.values) ∧
    ∃ started, startWith search oneChannel .linked = .ok started ∧
      ((started.run strayAndGuest).connect 0 default (upgradeTo "/?channel=b")).1 = .accepted 2 ∧
      (0 ∈ (started.run strayAndGuest).hub.trackedBy 0) ∧
      ∃ topic, (started.run strayAndGuest).hub.topics[0]? = some topic ∧
        topic.registry.membersOf "a" = [1] ∧ ∀ channel, 0 ∉ topic.registry.membersOf channel := by
  have upgrade : (upgradeTo "/?channel=b").isUpgrade = true := by decide +kernel
  constructor
  · have outcome : (startWith search closedChannel .linked).toOption.any (fun started =>
        (started.run strayAndGuest).isReachable ∧
          (started.run strayAndGuest).subscribers.length = 1 ∧
          (started.run strayAndGuest).hub.topics[0]?.any fun topic =>
            topic.tracker.values = [0]) = true := by decide +kernel
    obtain ⟨started, begins, evaluated⟩ := exists_started outcome
    obtain ⟨reachable, one, onTopic⟩ := of_decide_eq_true evaluated
    obtain ⟨topic, here, tracked⟩ := (Option.any_eq_true _ _).1 onTopic
    have few : (started.run strayAndGuest).subscribers.length < UInt64.size := by
      rw [one]
      decide
    obtain ⟨_, _, answers, afterwards⟩ := known_channels begins strayAndGuest
    refine ⟨started, begins, ?_, topic, here, of_decide_eq_true tracked,
      (afterwards few).1 rfl 0 topic here⟩
    exact answers 0 _ default (upgradeTo "/?channel=b") rfl reachable rfl upgrade
      (not_accepts_stray rfl)
  · have outcome : (startWith search oneChannel .linked).toOption.any (fun started =>
        (started.run strayAndGuest).isReachable ∧
          (started.run strayAndGuest).subscribers.length = 2 ∧
          ((started.run strayAndGuest).subscribers[0]?.any fun subscriber =>
            subscriber.topic = 0 ∧ subscriber.connection = some 0 ∧ subscriber.ending = none ∧
              subscriber.channel = some "b") ∧
          (started.run strayAndGuest).hub.topics[0]?.any fun topic =>
            topic.registry.membersOf "a" = [1]) = true := by decide +kernel
    obtain ⟨started, begins, evaluated⟩ := exists_started outcome
    obtain ⟨reachable, two, stray, onTopic⟩ := of_decide_eq_true evaluated
    obtain ⟨subscriber, present, still⟩ := (Option.any_eq_true _ _).1 stray
    obtain ⟨first, connected, unended, asked⟩ := of_decide_eq_true still
    obtain ⟨topic, here, guest⟩ := (Option.any_eq_true _ _).1 onTopic
    have few : (started.run strayAndGuest).subscribers.length < UInt64.size := by
      rw [two]
      decide
    obtain ⟨_, _, answers, afterwards⟩ := known_channels begins strayAndGuest
    obtain ⟨_, tracked, _, never⟩ := (afterwards few).2 0 subscriber present
    have home : oneChannel.topics[subscriber.topic]? = oneChannel.topics[0]? := by rw [first]
    refine ⟨started, begins, ?_, first ▸ (tracked 0 connected).2 unended, topic, here,
      of_decide_eq_true guest, fun channel => ?_⟩
    · rw [answers 0 _ default (upgradeTo "/?channel=b") rfl reachable rfl upgrade
        (not_accepts_stray rfl), ← two]
      rfl
    · refine never _ home (fun accepts => not_accepts_stray rfl ?_) 0 topic channel 0 here connected
      rw [asked] at accepts
      convert accepts using 1
      decide +kernel

end Relay

end LiveRelay
