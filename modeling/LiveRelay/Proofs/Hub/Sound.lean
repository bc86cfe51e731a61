/-
Module: LiveRelay.Proofs.Hub.Sound
Purpose: On a hub where connections are detached only on their own topics, every topic keeps its
  tables in order, whatever happens and in whatever order.
Main exports: Hub.attachments, Hub.Fresh, Hub.Orderly, Hub.Continues, Hub.Sound, Hub.Sound.step,
  Hub.Sound.run, Hub.Fresh.sound_run
-/
import LiveRelay.Hub
import LiveRelay.Proofs.Topic.Members

namespace LiveRelay

open Net

/-! ### Lists that agree in one respect -/

section

variable {α β : Type} {f : α → β} {entries others : List α} {i : Nat} {entry later : α}

/-- An entry may be replaced by one that agrees with it. -/
theorem map_set_of_eq (present : entries[i]? = some entry) (same : f later = f entry) :
    (entries.set i later).map f = entries.map f := by
  obtain ⟨within, rfl⟩ := List.getElem?_eq_some_iff.1 present
  rw [List.map_set, same, ← List.map_set, List.set_getElem_self]

/-- What stands in one of the lists has something that agrees with it in the other. -/
theorem exists_getElem?_of_map_eq (agree : entries.map f = others.map f)
    (present : entries[i]? = some entry) : ∃ other, others[i]? = some other ∧ f other = f entry := by
  have there : (others.map f)[i]? = some (f entry) := by
    rw [← agree, List.getElem?_map, present, Option.map_some]
  rw [List.getElem?_map] at there
  exact Option.map_eq_some_iff.1 there

end

/-- Two topics whose connections have room for two payloads each. -/
def RelayConfig.twoTopics : RelayConfig :=
  { RelayConfig.standard with
    topics := [⟨"one", default, .ofList ["a", "b"], []⟩, ⟨"two", default, .ofList ["a"], []⟩]
    queueCapacity := 2 }

namespace Hub

/-- The attachment that an event makes. On a topic that is not there it makes none. -/
def attachment? (hub : Hub) : Event → Option Attachment
  | .attach t peer channel => if t < hub.topics.length then some ⟨t, peer, channel⟩ else none
  | _ => none

/-- The attachments that events make, in the order of the connections. -/
def attachments (hub : Hub) (events : List Event) : List Attachment :=
  events.filterMap hub.attachment?

/-- Nothing has happened on a hub: its topics are as they were configured, each perhaps with options
of its own, and it has no connections and no monitors. -/
structure Fresh (hub : Hub) : Prop where
  topics : ∀ topic ∈ hub.topics, ∃ config relay, topic = Topic.new config relay
  connections : hub.connections = []
  monitors : hub.monitors = []

theorem fresh_new (config : RelayConfig) : (Hub.new config).Fresh where
  topics := by
    intro topic member
    obtain ⟨topic, _, rfl⟩ := List.mem_map.1 member
    exact ⟨topic, config, rfl⟩
  connections := rfl
  monitors := rfl

/-- The numbers of connections do not run out, and each connection is detached only on the topic
that it was attached to. -/
structure Orderly (homes : List Attachment) (events : List Event) : Prop where
  few : homes.length < UInt64.size
  atHome : ∀ t ref, Event.detach t ref ∈ events →
    ∀ home, homes[ref]? = some home → home.topic = t

/-- Whether an event detaches a connection, if any, on its own topic. -/
def isAtHome (homes : List Attachment) : Event → Bool
  | .detach t ref => homes[ref]?.all fun home => home.topic = t
  | _ => true

theorem orderly_iff {homes : List Attachment} {events : List Event} :
    Orderly homes events ↔
      homes.length < UInt64.size ∧ ∀ event ∈ events, isAtHome homes event = true := by
  constructor
  · rintro ⟨few, atHome⟩
    refine ⟨few, fun event member => ?_⟩
    cases event with
    | detach t ref => simpa [isAtHome, Option.all_eq_true] using atHome t ref member
    | _ => rfl
  · rintro ⟨few, atHome⟩
    refine ⟨few, fun t ref member => ?_⟩
    simpa [isAtHome, Option.all_eq_true] using atHome _ member

instance (homes : List Attachment) (events : List Event) : Decidable (Orderly homes events) :=
  decidable_of_iff _ orderly_iff.symm

/-- Every topic has its tables in order. -/
structure Sound (homes : List Attachment) (hub : Hub) : Prop where
  even : homes.length = hub.connections.length
  placed : ∀ home ∈ homes, home.topic < hub.topics.length
  indexed : ∀ (t : Nat) (topic : Topic), hub.topics[t]? = some topic →
    topic.Indexes homes (hub.connections.map Connection.bond) t

theorem connections_onConnection {α : Type} (hub : Hub) (ref : ConnRef)
    (f : Connection → α × Connection) :
    (hub.onConnection ref f).2.connections = hub.connections.update ref fun conn => (f conn).2 :=
  Connections.snd_act f

/-- The hub after a monitor ran the rounds that are due. -/
def afterRounds (hub : Hub) (monitor : Monitor) : Hub :=
  let ran := hub.probeTimes monitor.topic (monitor.catchUp hub.now).1
  { ran with monitors := ran.monitors ++ [(monitor.catchUp hub.now).2] }

theorem runMonitors_cons (hub : Hub) (monitor : Monitor) (others : List Monitor) :
    hub.runMonitors (monitor :: others) = (hub.afterRounds monitor).runMonitors others := rfl

/-! ### Events that attach and detach nothing -/

/-- Between two states of a hub nothing was attached or detached. -/
structure Continues (before after : Hub) : Prop where
  topics : after.topics.map Topic.uncounted = before.topics.map Topic.uncounted
  bonds : after.connections.map Connection.bond = before.connections.map Connection.bond

namespace Continues

variable {hub before middle after : Hub} {t : Nat} {ref : ConnRef}

theorem refl (hub : Hub) : hub.Continues hub := ⟨rfl, rfl⟩

theorem trans (one : before.Continues middle) (two : middle.Continues after) :
    before.Continues after :=
  ⟨two.topics.trans one.topics, two.bonds.trans one.bonds⟩

theorem onTopic {α : Type} {f : Topic → Connections → α × Topic × Connections}
    (kept : ∀ topic, hub.topics[t]? = some topic →
      (f topic hub.connections).2.1.uncounted = topic.uncounted ∧
        (f topic hub.connections).2.2.map Connection.bond =
          hub.connections.map Connection.bond) :
    hub.Continues (hub.onTopic t f).2 := by
  unfold Hub.onTopic
  split
  · exact refl hub
  · next topic here =>
    obtain ⟨tables, bonds⟩ := kept topic here
    exact ⟨map_set_of_eq here tables, bonds⟩

theorem onConnection {α : Type} {f : Connection → α × Connection}
    (kept : ∀ conn, (f conn).2.bond = conn.bond) : hub.Continues (hub.onConnection ref f).2 := by
  refine ⟨rfl, ?_⟩
  rw [connections_onConnection]
  exact Connections.map_bond_update kept

theorem broadcast (channel : Channel) (payload : Payload) :
    hub.Continues
      (hub.onTopic t fun topic conns => topic.broadcast conns channel payload).2 := by
  apply onTopic
  intro topic _
  refine ⟨rfl, ?_⟩
  rw [Topic.broadcast, Topic.broadcastTo, snd_sendEach]
  exact Connections.map_bond_updateEach fun conn => conn.bond_trySend payload

theorem probe : hub.Continues (hub.onTopic t Topic.probe).2 := by
  apply onTopic
  intro topic _
  refine ⟨rfl, ?_⟩
  rw [Topic.probe, Topic.probeIn, snd_probeEach]
  exact Connections.map_bond_updateEach Connection.bond_probe

theorem terminateAll :
    hub.Continues (hub.onTopic t fun topic conns =>
      ((topic.terminateAll conns).1, topic, (topic.terminateAll conns).2)).2 := by
  apply onTopic
  intro topic _
  refine ⟨rfl, ?_⟩
  rw [Topic.terminateAll, terminateEach_eq]
  exact Connections.map_bond_updateEach Connection.bond_terminate

theorem probeTimes (rounds : Nat) : hub.Continues (hub.probeTimes t rounds) := by
  induction rounds generalizing hub with
  | zero => exact refl hub
  | succ rounds ih => exact probe.trans ih

theorem afterRounds (monitor : Monitor) : hub.Continues (hub.afterRounds monitor) :=
  (probeTimes _).trans ⟨rfl, rfl⟩

theorem runMonitors (monitors : List Monitor) : hub.Continues (hub.runMonitors monitors) := by
  induction monitors generalizing hub with
  | nil => exact refl hub
  | cons monitor others ih =>
      rw [runMonitors_cons]
      exact (afterRounds monitor).trans ih

theorem advance (span : Span) : hub.Continues (hub.advance span) :=
  have waits : hub.Continues { hub with
      now := hub.now + span
      monitors := (hub.monitors.partition (·.isReady (hub.now + span))).2 } := ⟨rfl, rfl⟩
  waits.trans (runMonitors _)

theorem spawnMonitor : hub.Continues (hub.spawnMonitor t) := by
  unfold Hub.spawnMonitor
  split
  · exact refl hub
  · exact ⟨rfl, rfl⟩

theorem cleared (goes : before.Continues after) :
    after.topics.map Topic.cleared = before.topics.map Topic.cleared := by
  have uncounted (topics : List Topic) :
      topics.map Topic.cleared = (topics.map Topic.uncounted).map Topic.cleared := by
    rw [List.map_map]
    rfl
  rw [uncounted, goes.topics, ← uncounted]

/-- Only attaching and detaching do more than go on with the connections that are there. -/
theorem step (event : Event) (attaches : ∀ t peer channel, event ≠ .attach t peer channel)
    (detaches : ∀ t ref, event ≠ .detach t ref) : hub.Continues (hub.step event).2 := by
  cases event with
  | attach t peer channel => exact absurd rfl (attaches t peer channel)
  | detach t ref => exact absurd rfl (detaches t ref)
  | broadcast t channel payload => exact broadcast channel payload
  | probe t => exact probe
  | terminateAll t => exact terminateAll
  | terminate ref => exact onConnection Connection.bond_terminate
  | markAlive ref => exact onConnection Connection.bond_markAlive
  | receive ref => exact onConnection Connection.bond_receive
  | receiveControl ref => exact onConnection Connection.bond_receiveControl
  | dropQueues ref => exact onConnection Connection.bond_dropQueues
  | spawnMonitor t => exact spawnMonitor
  | advance span => exact advance span

end Continues

/-! ### Attaching and detaching on a hub -/

section

variable {hub : Hub} {topic : Topic} {t : Nat} {ref : ConnRef} {conn : Connection}
  {peer : SocketAddress} {channel : Option Channel}

theorem step_attach (here : hub.topics[t]? = some topic) :
    hub.step (.attach t peer channel) =
      (.attached hub.connections.length,
        { hub with
          topics := hub.topics.set t (topic.join channel hub.connections.length)
          connections := hub.connections ++ [(topic.newConnection peer channel).markOpen] }) := by
  simp [step, onTopic, here, Topic.attach_eq]

theorem step_attach_of_none (absent : hub.topics[t]? = none) :
    hub.step (.attach t peer channel) = (.done, hub) := by
  simp [step, onTopic, absent]

theorem step_detach (here : hub.topics[t]? = some topic)
    (present : hub.connections[ref]? = some conn) :
    hub.step (.detach t ref) =
      (.done,
        { hub with
          topics := hub.topics.set t (topic.release conn.id conn.channel)
          connections := hub.connections.update ref
            fun conn => conn.beginClose.finishClose }) := by
  simp [step, onTopic, here, Topic.detach_eq present]

theorem step_detach_of_none (absent : hub.topics[t]? = none ∨ hub.connections[ref]? = none) :
    (hub.step (.detach t ref)).2 = hub := by
  cases here : hub.topics[t]? with
  | none => simp [step, onTopic, here]
  | some topic =>
      have missing : hub.connections[ref]? = none := by simpa [here] using absent
      obtain ⟨within, rfl⟩ := List.getElem?_eq_some_iff.1 here
      simp [step, onTopic, here, Topic.detach, missing]

end

namespace Sound

variable {homes : List Attachment} {hub after : Hub} {t : Nat} {ref : ConnRef}

theorem of_continues (sound : Sound homes hub) (goes : hub.Continues after) :
    Sound homes after where
  even := by
    have same : after.connections.length = hub.connections.length := by
      simpa using congrArg List.length goes.bonds
    rw [same]
    exact sound.even
  placed := by
    have same : after.topics.length = hub.topics.length := by
      simpa using congrArg List.length goes.topics
    rw [same]
    exact sound.placed
  indexed := by
    intro t topic here
    obtain ⟨earlier, there, uncounted⟩ := exists_getElem?_of_map_eq goes.topics here
    rw [goes.bonds]
    exact (sound.indexed t earlier there).of_uncounted uncounted.symm

theorem attach (sound : Sound homes hub) (few : homes.length + 1 < UInt64.size)
    {topic : Topic} (here : hub.topics[t]? = some topic) {peer : SocketAddress}
    {channel : Option Channel} :
    Sound (homes ++ [⟨t, peer, channel⟩]) (hub.step (.attach t peer channel)).2 := by
  have within : t < hub.topics.length := (List.getElem?_eq_some_iff.1 here).1
  have even : homes.length = (hub.connections.map Connection.bond).length := by
    rw [List.length_map]
    exact sound.even
  rw [step_attach here]
  constructor
  case even => simp [sound.even]
  case placed =>
    intro home member
    rw [List.length_set]
    rcases List.mem_append.1 member with member | added
    · exact sound.placed home member
    · rw [List.mem_singleton.1 added]
      exact within
  case indexed =>
    intro other there present
    rw [List.map_append, List.map_singleton, Connection.bond_markOpen]
    by_cases same : t = other
    · subst same
      obtain rfl : topic.join channel hub.connections.length = there := by
        rw [List.getElem?_set_self within] at present
        exact Option.some.inj present
      have joined := (sound.indexed t topic here).join even few peer channel
      rw [List.length_map] at joined
      exact joined
    · rw [List.getElem?_set_ne same] at present
      exact (sound.indexed other there present).append_elsewhere even same

theorem detach (sound : Sound homes hub)
    (atHome : ∀ home, homes[ref]? = some home → home.topic = t) :
    Sound homes (hub.step (.detach t ref)).2 := by
  cases here : hub.topics[t]? with
  | none =>
      rw [step_detach_of_none (.inl here)]
      exact sound
  | some topic =>
  cases present : hub.connections[ref]? with
  | none =>
      rw [step_detach_of_none (.inr present)]
      exact sound
  | some conn =>
      have within : t < hub.topics.length := (List.getElem?_eq_some_iff.1 here).1
      have placed : ref < homes.length := by
        rw [sound.even]
        exact (List.getElem?_eq_some_iff.1 present).1
      have found : homes[ref]? = some homes[ref] := List.getElem?_eq_getElem placed
      have home := atHome homes[ref] found
      have housed : Housed homes (hub.connections.map Connection.bond) t ref conn.bond := by
        refine ⟨?_, homes[ref], found, home⟩
        rw [List.getElem?_map, present]
        rfl
      have bonds : (hub.connections.update ref fun conn => conn.beginClose.finishClose).map
          Connection.bond = (hub.connections.map Connection.bond).modify ref Bond.gone :=
        Connections.map_bond_update_close ref
      rw [step_detach here present]
      constructor
      case even => simp [Connections.update, sound.even]
      case placed =>
        rw [List.length_set]
        exact sound.placed
      case indexed =>
        intro other there opened
        rw [bonds]
        by_cases same : t = other
        · subst same
          obtain rfl : topic.release conn.id conn.channel = there := by
            rw [List.getElem?_set_self within] at opened
            exact Option.some.inj opened
          exact (sound.indexed t topic here).release housed
        · rw [List.getElem?_set_ne same] at opened
          exact (sound.indexed other there opened).modify_elsewhere found (home ▸ same)

/-- One event keeps every topic in order. -/
theorem step (sound : Sound homes hub) (event : Event)
    (few : (homes ++ (hub.attachment? event).toList).length < UInt64.size)
    (atHome : ∀ t ref, event = .detach t ref →
      ∀ home, homes[ref]? = some home → home.topic = t) :
    Sound (homes ++ (hub.attachment? event).toList) (hub.step event).2 := by
  by_cases attaches : ∃ t peer channel, event = .attach t peer channel
  · obtain ⟨t, peer, channel, rfl⟩ := attaches
    cases here : hub.topics[t]? with
    | none =>
        have beyond : ¬ t < hub.topics.length := Nat.not_lt.2 (List.getElem?_eq_none_iff.1 here)
        simp only [attachment?, if_neg beyond, Option.toList_none, List.append_nil]
        rw [step_attach_of_none here]
        exact sound
    | some topic =>
        have within : t < hub.topics.length := (List.getElem?_eq_some_iff.1 here).1
        simp only [attachment?, if_pos within, Option.toList_some] at few ⊢
        rw [List.length_append, List.length_singleton] at few
        exact sound.attach few here
  · have nothing : hub.attachment? event = none := by
      cases event with
      | attach t peer channel => exact absurd ⟨t, peer, channel, rfl⟩ attaches
      | _ => rfl
    rw [nothing, Option.toList_none, List.append_nil]
    by_cases detaches : ∃ t ref, event = .detach t ref
    · obtain ⟨t, ref, rfl⟩ := detaches
      exact sound.detach (atHome t ref rfl)
    · refine sound.of_continues (Continues.step event ?_ ?_)
      · intro t peer channel same
        exact attaches ⟨t, peer, channel, same⟩
      · intro t ref same
        exact detaches ⟨t, ref, same⟩

end Sound

/-! ### What never changes about the topics of a hub -/

/-- An event leaves the configuration and the options of every topic as they are. -/
theorem cleared_step (hub : Hub) (event : Event) :
    (hub.step event).2.topics.map Topic.cleared = hub.topics.map Topic.cleared := by
  have replaced {t : Nat} {topic other : Topic} (here : hub.topics[t]? = some topic)
      (same : other.cleared = topic.cleared) :
      (hub.topics.set t other).map Topic.cleared = hub.topics.map Topic.cleared :=
    map_set_of_eq here same
  by_cases attaches : ∃ t peer channel, event = .attach t peer channel
  · obtain ⟨t, peer, channel, rfl⟩ := attaches
    cases here : hub.topics[t]? with
    | none => rw [step_attach_of_none here]
    | some topic =>
        rw [step_attach here]
        exact replaced here (Topic.cleared_join _)
  · by_cases detaches : ∃ t ref, event = .detach t ref
    · obtain ⟨t, ref, rfl⟩ := detaches
      cases here : hub.topics[t]? with
      | none => rw [step_detach_of_none (.inl here)]
      | some topic =>
      cases present : hub.connections[ref]? with
      | none => rw [step_detach_of_none (.inr present)]
      | some conn =>
          rw [step_detach here present]
          exact replaced here (Topic.cleared_release _)
    · have goes : hub.Continues (hub.step event).2 := by
        refine Continues.step event ?_ ?_
        · intro t peer channel same
          exact attaches ⟨t, peer, channel, same⟩
        · intro t ref same
          exact detaches ⟨t, ref, same⟩
      exact goes.cleared

theorem length_topics_step (hub : Hub) (event : Event) :
    (hub.step event).2.topics.length = hub.topics.length := by
  simpa using congrArg List.length (cleared_step hub event)

theorem attachment?_step (hub : Hub) (event : Event) :
    (hub.step event).2.attachment? = hub.attachment? := by
  funext other
  cases other with
  | attach t peer channel => simp only [attachment?, length_topics_step]
  | _ => rfl

theorem attachments_step (hub : Hub) (event : Event) (events : List Event) :
    (hub.step event).2.attachments events = hub.attachments events := by
  rw [attachments, attachment?_step, attachments]

theorem attachments_cons (hub : Hub) (event : Event) (events : List Event) :
    hub.attachments (event :: events) =
      (hub.attachment? event).toList ++ hub.attachments events := by
  rw [attachments, List.filterMap_cons]
  cases hub.attachment? event <;> rfl

theorem attachments_append (hub : Hub) (one two : List Event) :
    hub.attachments (one ++ two) = hub.attachments one ++ hub.attachments two :=
  List.filterMap_append

/-! ### Runs -/

theorem run_cons (hub : Hub) (event : Event) (events : List Event) :
    hub.run (event :: events) =
      ((hub.step event).1 :: ((hub.step event).2.run events).1,
        ((hub.step event).2.run events).2) := rfl

theorem run_append (hub : Hub) (one two : List Event) :
    hub.run (one ++ two) =
      ((hub.run one).1 ++ ((hub.run one).2.run two).1, ((hub.run one).2.run two).2) := by
  induction one generalizing hub with
  | nil => rfl
  | cons event others ih => rw [List.cons_append, run_cons, ih, run_cons]; rfl

theorem cleared_run (hub : Hub) (events : List Event) :
    (hub.run events).2.topics.map Topic.cleared = hub.topics.map Topic.cleared := by
  induction events generalizing hub with
  | nil => rfl
  | cons event others ih => rw [run_cons, ih, cleared_step]

theorem attachments_run (hub : Hub) (one two : List Event) :
    (hub.run one).2.attachments two = hub.attachments two := by
  induction one generalizing hub with
  | nil => rfl
  | cons event others ih => rw [run_cons, ih, attachments_step]

namespace Orderly

variable {homes : List Attachment} {hub : Hub} {event : Event} {one two events : List Event}

theorem of_append (orderly : Orderly (hub.attachments (one ++ two)) (one ++ two)) :
    Orderly (hub.attachments one) one where
  few := by
    have total := orderly.few
    rw [attachments_append, List.length_append] at total
    exact Nat.lt_of_le_of_lt (Nat.le_add_right _ _) total
  atHome := by
    intro t ref member home found
    refine orderly.atHome t ref (List.mem_append_left _ member) home ?_
    rw [attachments_append, List.getElem?_append_left (List.getElem?_eq_some_iff.1 found).1]
    exact found

theorem rest (orderly : Orderly (hub.attachments (one ++ two)) (one ++ two)) :
    Orderly (hub.attachments one ++ (hub.run one).2.attachments two) two := by
  rw [attachments_append] at orderly
  rw [attachments_run]
  exact ⟨orderly.few, fun t ref member => orderly.atHome t ref (List.mem_append_right _ member)⟩

theorem tail (orderly : Orderly (homes ++ hub.attachments (event :: events)) (event :: events)) :
    Orderly (homes ++ (hub.attachment? event).toList ++ (hub.step event).2.attachments events)
      events where
  few := by
    have total := orderly.few
    rw [attachments_cons, ← List.append_assoc] at total
    rw [attachments_step]
    exact total
  atHome := by
    intro t ref member home found
    rw [attachments_step, List.append_assoc, ← attachments_cons] at found
    exact orderly.atHome t ref (List.mem_cons_of_mem _ member) home found

theorem detached (orderly : Orderly (homes ++ hub.attachments (event :: events)) (event :: events))
    {ref : ConnRef} {home : Attachment} (found : homes[ref]? = some home) (t : Nat)
    (detach : event = .detach t ref) : home.topic = t := by
  subst detach
  refine orderly.atHome t ref List.mem_cons_self home ?_
  rw [List.getElem?_append_left (List.getElem?_eq_some_iff.1 found).1]
  exact found

end Orderly

/-- The first event of a run keeps every topic in order. -/
theorem Sound.next {homes : List Attachment} {hub : Hub} {event : Event} {events : List Event}
    (sound : Sound homes hub)
    (orderly : Orderly (homes ++ hub.attachments (event :: events)) (event :: events)) :
    Sound (homes ++ (hub.attachment? event).toList) (hub.step event).2 := by
  apply sound.step event
  · have total := orderly.few
    rw [attachments_cons, ← List.append_assoc, List.length_append] at total
    exact Nat.lt_of_le_of_lt (Nat.le_add_right _ _) total
  · intro t ref same home found
    exact orderly.detached found t same

/-- A whole run keeps every topic in order. -/
theorem Sound.run {homes : List Attachment} {hub : Hub} {events : List Event}
    (sound : Sound homes hub) (orderly : Orderly (homes ++ hub.attachments events) events) :
    Sound (homes ++ hub.attachments events) (hub.run events).2 := by
  induction events generalizing homes hub with
  | nil =>
      rw [attachments, List.filterMap_nil, List.append_nil]
      exact sound
  | cons event others ih =>
      have rest := ih (sound.next orderly) orderly.tail
      rw [attachments_step, List.append_assoc, ← attachments_cons] at rest
      exact rest

/-- A hub on which nothing has happened is in order. -/
theorem Fresh.sound {hub : Hub} (fresh : hub.Fresh) : Sound [] hub where
  even := by rw [fresh.connections]; rfl
  placed := by
    intro home member
    cases member
  indexed := by
    intro t topic here
    obtain ⟨config, relay, rfl⟩ := fresh.topics topic (List.mem_of_getElem? here)
    rw [fresh.connections]
    exact .new config relay

/-- The connections of a run are those that its events attach, and every topic is in order. -/
theorem Fresh.sound_run {hub : Hub} {events : List Event} (fresh : hub.Fresh)
    (orderly : Orderly (hub.attachments events) events) :
    Sound (hub.attachments events) (hub.run events).2 := by
  have sound : Sound ([] ++ hub.attachments events) (hub.run events).2 :=
    fresh.sound.run (by rwa [List.nil_append])
  rwa [List.nil_append] at sound

end Hub

end LiveRelay
