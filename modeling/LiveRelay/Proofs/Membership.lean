/-
Module: LiveRelay.Proofs.Membership
Purpose: Whenever the tasks of a relay have nothing to do but to write, each topic tracks the open
  connections of its subscribers that have not ended, registers each of them under the channel that it
  asked for, and counts them. Whatever closes a connection removes it once.
Main exports: Relay.onlyWrites_iff, Relay.Mirrors, Relay.mirrors_of_onlyWrites, Relay.membership
-/
import LiveRelay.Proofs.Relay.Closing

namespace LiveRelay

open Net

/-! ### Lists of which every entry gives something -/

theorem map_eq_map_some {α β : Type} {f : α → Option β} {entries : List α}
    (something : ∀ entry ∈ entries, f entry ≠ none) :
    entries.map f = (entries.filterMap f).map some := by
  induction entries with
  | nil => rfl
  | cons entry others ih =>
      have rest := ih fun other member => something other (List.mem_cons_of_mem _ member)
      cases here : f entry with
      | none => exact absurd here (something entry List.mem_cons_self)
      | some value => rw [List.map_cons, List.filterMap_cons_some here, List.map_cons, here, rest]

theorem map_getElem?_range {α : Type} (entries : List α) :
    (List.range entries.length).map (fun i => entries[i]?) = entries.map some := by
  apply List.ext_getElem?
  intro i
  rw [List.getElem?_map, List.getElem?_map]
  by_cases within : i < entries.length
  · rw [List.getElem?_range within, Option.map_some, List.getElem?_eq_getElem within,
      Option.map_some]
  · have beyond := Nat.not_lt.1 within
    rw [List.getElem?_eq_none beyond, List.getElem?_eq_none (by simpa using beyond)]
    rfl

namespace Relay

variable {router : Router PlacedRoute} {config : RelayConfig} {host : Host}
  {homes : List Attachment} {started relay : Relay} {c t : Nat} {events : List Event}
  {subscriber : Subscriber} {topic : Topic}

/-! ### Settled tasks -/

/-- Only the tasks of subscribers that are there have anything to do. -/
theorem onlyWrites_iff : relay.OnlyWrites ↔ ∀ c < relay.subscribers.length,
    ∀ task ∈ [Task.attach, .reap, .read], (relay.turn? c task).isNone = true := by
  constructor
  · intro settled c _ task among
    refine Option.isNone_iff_eq_none.2 (settled c task ?_)
    rintro rfl
    exact absurd among (by decide)
  · intro settled c task other
    by_cases within : c < relay.subscribers.length
    · refine Option.isNone_iff_eq_none.1 (settled c within task ?_)
      cases task with
      | write => exact absurd rfl other
      | _ => decide
    · have nobody := List.getElem?_eq_none (Nat.not_lt.1 within)
      have unattached : relay.connectionOf? c = none := by rw [connectionOf?, nobody]
      cases task with
      | attach => change relay.attach? c = none; rw [attach?, nobody]
      | reap => change relay.reap? c = none; rw [reap?, unattached]
      | read => change relay.read? c = none; rw [read?, unattached]
      | write => exact absurd rfl other

instance (relay : Relay) : Decidable relay.OnlyWrites := decidable_of_iff _ onlyWrites_iff.symm

/-- A subscriber that is not to be attached is attached. -/
theorem connection_ne_none (linked : Linked homes relay) (settled : relay.OnlyWrites)
    (member : subscriber ∈ relay.subscribers) : subscriber.connection ≠ none := by
  obtain ⟨c, present⟩ := List.getElem?_of_mem member
  intro unattached
  obtain ⟨_, _, attached, _⟩ :=
    linked.attended present (linked.fresh c subscriber present unattached).2 (settled c)
  cases unattached.symm.trans (connectionOf?_eq_some_iff.1 attached).2.2.1

/-! ### One topic -/

/-- The tables of topic `t` hold the connections of its subscribers that have not ended, all of them
open and none terminated, each registered under the channel that it asked for if the topic accepts the
channel; and their number is the count of active connections. -/
structure Mirrors (relay : Relay) (t : Nat) (topic : Topic) : Prop where
  tracked : (topic.tracker.values.map some).Perm
    ((relay.subscribers.filter fun subscriber =>
      subscriber.topic = t ∧ subscriber.ending = none).map Subscriber.connection)
  standing : ∀ ref ∈ topic.tracker.values, ∃ conn, relay.hub.connections[ref]? = some conn ∧
    conn.state = .open ∧ conn.terminated = false
  registered : ∀ channel, topic.isKnown channel = true →
    ((topic.registry.membersOf channel).map some).Perm
      ((relay.subscribers.filter fun subscriber => subscriber.topic = t ∧
        subscriber.ending = none ∧ subscriber.channel = some channel).map Subscriber.connection)
  unknown : ∀ channel, topic.isKnown channel = false → topic.registry.membersOf channel = []
  active : topic.stats.connectionsActive.toNat = topic.tracker.size

/-- Different subscribers have different connections, so a table that names some connections once each
lists subscribers. -/
theorem Tenanted.perm_of_mem_iff (tenanted : Tenanted relay) (linked : Linked homes relay)
    (settled : relay.OnlyWrites) {refs : List ConnRef} (once : refs.Nodup) {p : Subscriber → Prop}
    [DecidablePred p] (named : ∀ ref, ref ∈ refs ↔
      ∃ subscriber ∈ relay.subscribers, p subscriber ∧ subscriber.connection = some ref) :
    (refs.map some).Perm
      ((relay.subscribers.filter fun subscriber => p subscriber).map Subscriber.connection) := by
  have apart : (relay.subscribers.filterMap Subscriber.connection).Nodup := by
    have seats := tenanted.seated.nodup_iff.2 List.nodup_range
    rwa [tenants, List.filterMap_map] at seats
  rw [map_eq_map_some fun subscriber member =>
    connection_ne_none linked settled (List.mem_filter.1 member).1]
  refine List.Perm.map some ((List.perm_ext_iff_of_nodup once
    (apart.sublist (List.filter_sublist.filterMap _))).2 fun ref => ?_)
  rw [named, List.mem_filterMap]
  constructor
  · rintro ⟨subscriber, member, holds, connected⟩
    exact ⟨subscriber, List.mem_filter.2 ⟨member, decide_eq_true holds⟩, connected⟩
  · rintro ⟨subscriber, member, connected⟩
    obtain ⟨present, holds⟩ := List.mem_filter.1 member
    exact ⟨subscriber, present, of_decide_eq_true holds, connected⟩

/-- Where the tasks have nothing to do but to write, every topic mirrors its subscribers. -/
theorem mirrors_of_onlyWrites (linked : Linked homes relay) (tenanted : Tenanted relay)
    (settled : relay.OnlyWrites) (few : relay.hub.connections.length < UInt64.size)
    (numbered : relay.hub.Numbered) (here : relay.hub.topics[t]? = some topic) :
    relay.Mirrors t topic := by
  have tidy := linked.tidy.tables t topic here
  have tracked (ref : ConnRef) : ref ∈ topic.tracker.values ↔
      ∃ subscriber ∈ relay.subscribers, (subscriber.topic = t ∧ subscriber.ending = none) ∧
        subscriber.connection = some ref := by
    have named : relay.hub.trackedBy t = topic.tracker.values := Hub.named_of_here here
    rw [← named, mem_trackedBy_iff linked tenanted few]
    simp only [and_assoc]
  constructor
  case tracked =>
    exact tenanted.perm_of_mem_iff linked settled tidy.tracked_once tracked
  case standing =>
    intro ref member
    obtain ⟨subscriber, among, ⟨_, unended⟩, connected⟩ := (tracked ref).1 member
    obtain ⟨c, present⟩ := List.getElem?_of_mem among
    obtain ⟨place, conn, attached, running⟩ := linked.attended present unended (settled c)
    obtain ⟨_, _, connection, there⟩ := connectionOf?_eq_some_iff.1 attached
    obtain rfl := Option.some.inj (connection.symm.trans connected)
    exact ⟨conn, there, (linked.standing c subscriber _ conn attached).2 running, running⟩
  case registered =>
    intro channel accepted
    refine tenanted.perm_of_mem_iff linked settled
      (tidy.listed_once.sublist (topic.registry.membersOf_sublist channel)) fun ref => ?_
    rw [mem_membersOf_iff linked tenanted few here]
    simp only [accepted, true_and, and_assoc]
  case unknown =>
    intro channel refused
    refine List.eq_nil_iff_forall_not_mem.2 fun ref member => ?_
    cases refused.symm.trans ((mem_membersOf_iff linked tenanted few here).1 member).1
  case active =>
    rw [(numbered few t topic here).active]
    apply UInt64.toNat_ofNat_of_lt'
    calc topic.tracker.size ≤ homes.length := tidy.size_le
      _ = relay.hub.connections.length := linked.tidy.even
      _ < UInt64.size := few

/-- Where the tasks have nothing to do but to write, the attachments that were made are what the
subscribers asked for. -/
theorem Tenanted.homes_perm (tenanted : Tenanted relay) (linked : Linked homes relay)
    (settled : relay.OnlyWrites) : (relay.subscribers.map Subscriber.home).Perm homes := by
  have attached (subscriber : Subscriber) (member : subscriber ∈ relay.subscribers) :=
    connection_ne_none linked settled member
  have seats := tenanted.seated
  rw [tenants, List.filterMap_map, bonds, List.length_map, ← linked.tidy.even] at seats
  have places : (relay.subscribers.map Subscriber.connection).Perm
      ((List.range homes.length).map some) := by
    rw [map_eq_map_some attached]
    exact seats.map some
  have found := places.map fun place : Option ConnRef => place.bind fun ref => homes[ref]?
  rw [List.map_map, List.map_map] at found
  have named : (relay.subscribers.map fun subscriber =>
      subscriber.connection.bind fun ref => homes[ref]?) =
      (relay.subscribers.map Subscriber.home).map some := by
    rw [List.map_map]
    refine List.map_congr_left fun subscriber member => ?_
    obtain ⟨c, present⟩ := List.getElem?_of_mem member
    obtain ⟨ref, connected⟩ := Option.ne_none_iff_exists'.1 (attached subscriber member)
    rw [connected, Option.bind_some, linked.attached c subscriber ref present connected]
    rfl
  have whole : ((relay.subscribers.map Subscriber.home).map some).Perm (homes.map some) :=
    named ▸ found.trans (.of_eq (map_getElem?_range homes))
  exact (List.map_perm_map_iff (Option.some_injective _)).1 whole

/-- Where the tasks have nothing to do but to write, a topic has counted the subscribers that came to
it. -/
theorem connectionsTotal_of_onlyWrites (linked : Linked homes relay) (tenanted : Tenanted relay)
    (settled : relay.OnlyWrites) (few : relay.hub.connections.length < UInt64.size)
    (numbered : relay.hub.Numbered) (here : relay.hub.topics[t]? = some topic) :
    topic.stats.connectionsTotal.toNat =
      (relay.subscribers.map Subscriber.home).countP (·.topic = t) := by
  have next := ((linked.sound_of_few few).indexed t topic here).next
  rw [(numbered few t topic here).next, UInt64.ofNat_add] at next
  rw [(tenanted.homes_perm linked settled).countP_eq, add_right_cancel next]
  apply UInt64.toNat_ofNat_of_lt'
  calc homes.countP (·.topic = t) ≤ homes.length := List.countP_le_length
    _ = relay.hub.connections.length := linked.tidy.even
    _ < UInt64.size := few

/-! ### Every run -/

theorem Begun.numbered (begun : Begun router config host started) : started.hub.Numbered := by
  intro _ t topic here
  rw [begun.topics] at here
  obtain ⟨one, _, rfl⟩ := List.mem_map.1 (List.mem_of_getElem? here)
  exact (Topic.Numbered.new one config).mono (Nat.zero_le _)

/-- One topic whose connections have room for one payload each and are disconnected when they
overflow. -/
def strictChannel : RelayConfig :=
  { oneChannel with queueCapacity := 1, overflow := .disconnect }

/-- An upgrade request for a path. -/
def upgradeTo (target : String) : Handshake :=
  ⟨"GET", target, [("Connection", "Upgrade"), ("Upgrade", "websocket"),
    ("Sec-WebSocket-Version", "13"), ("Sec-WebSocket-Key", "")]⟩

/-- Six subscribers, of which the last two ask for no channel, and a request that is no upgrade. The
second subscriber sends a close frame, the third hangs up, the fourth overflows and then hangs up as
well, and the fifth falls silent. In the end the first is sent something that it does not read. -/
def everyClosing : List Event :=
  [.connect 0 default (upgradeTo "/?channel=a"), .connect 0 default (upgradeTo "/?channel=a"),
    .connect 0 default ⟨"POST", "/", []⟩, .connect 0 default (upgradeTo "/?channel=a"),
    .connect 0 default (upgradeTo "/?channel=a"), .connect 0 default (upgradeTo "/"),
    .connect 0 default (upgradeTo "/"), .turn 0 .attach, .turn 1 .attach, .turn 2 .attach,
    .turn 3 .attach, .turn 4 .attach, .turn 5 .attach,
    .arrive 1 (.frame (.close [])), .turn 1 .read, .arrive 2 .hangUp, .turn 2 .read,
    .open 0 default ⟨"POST", "/a", .chunked⟩, .body 0 (.frame [1]), .turn 0 .write,
    .body 0 (.frame [2]), .arrive 3 .hangUp, .turn 0 .write,
    .advance (Span.ofMillis 2000), .turn 0 .write, .turn 4 .write, .turn 5 .write,
    .arrive 0 (.frame (.pong [])), .arrive 5 (.frame (.pong [])), .turn 0 .read, .turn 5 .read,
    .advance (Span.ofMillis 2000), .turn 0 .write, .turn 5 .write, .turn 3 .reap, .turn 4 .reap,
    .body 0 (.frame [3])]

/-- In every run of a relay that starts, whatever its subscribers, its sources and its clock do and in
whatever order, and whenever the tasks have settled, but for writing to subscribers that do not read:
the subscribers are those whose upgrades were accepted, the tables of each topic hold the connections
of those that have not ended, and the topic has counted all that came to it. The connection of a
subscriber that has ended was removed once, and any other never. A subscriber whose connection was
closed at any time, for whatever reasons, has ended. Connections are numbered with 64 bits, so that
fewer than `2 ^ 64` subscribers get each a number of its own. -/
theorem membership (begins : startWith router config host = .ok started) (events : List Event)
    (settled : (started.run events).OnlyWrites)
    (few : (started.run events).subscribers.length < UInt64.size) :
    (started.run events).subscribers.map Subscriber.home = started.upgrades events ∧
      (∀ t topic, (started.run events).hub.topics[t]? = some topic →
        (started.run events).Mirrors t topic ∧
          topic.stats.connectionsTotal.toNat = (started.upgrades events).countP (·.topic = t)) ∧
      (∀ c subscriber, (started.run events).subscribers[c]? = some subscriber →
        started.removals c events = if subscriber.ending = none then 0 else 1) ∧
      ∀ before event after c, events = before ++ event :: after →
        (started.run before).Closes c event → ∃ subscriber,
          (started.run events).subscribers[c]? = some subscriber ∧ subscriber.ending ≠ none ∧
            started.removals c events = 1 := by
  have begun := (begun_of_startWith begins).2
  have linkedStart := begun.linked
  have tenantedStart := begun.tenanted
  obtain ⟨homes, linked⟩ := linkedStart.run events
  rw [List.nil_append] at linked
  have tenanted := tenantedStart.run linkedStart events
  have numbered := begun.numbered.onward (onward_run started events)
  have homesRun := homes_run linkedStart events
  rw [begun.subscribers, List.map_nil, List.nil_append] at homesRun
  have fewConnections : (started.run events).hub.connections.length < UInt64.size := by
    have even := (tenanted.homes_perm linked settled).length_eq
    rw [List.length_map, linked.tidy.even] at even
    exact even ▸ few
  have removed (c : Nat) (subscriber : Subscriber)
      (present : (started.run events).subscribers[c]? = some subscriber) :
      started.removals c events = if subscriber.ending = none then 0 else 1 := by
    have counted := removals_run linkedStart tenantedStart fewConnections c
    have nobody : started.hasLeft c = false := by
      rw [hasLeft, tenants, begun.subscribers]
      rfl
    rw [nobody, hasLeft, getElem?_tenants_of_present present, Option.any_some] at counted
    refine counted.trans ?_
    change subscriber.ending.isSome.toNat = _
    cases subscriber.ending <;> rfl
  refine ⟨homesRun, fun t topic here => ⟨?_, ?_⟩, removed, ?_⟩
  · exact mirrors_of_onlyWrites linked tenanted settled fewConnections numbered here
  · rw [← homesRun]
    exact connectionsTotal_of_onlyWrites linked tenanted settled fewConnections numbered here
  · rintro before event after c rfl closes
    have split := run_append started before (event :: after)
    obtain ⟨_, linkedThen⟩ := linkedStart.run before
    rw [List.nil_append] at linkedThen
    have fewThen : (started.run before).hub.connections.length < UInt64.size := by
      have later := (onward_run (started.run before) (event :: after)).length_le
      rw [← split] at later
      exact Nat.lt_of_le_of_lt later fewConnections
    have doomed := doomed_of_closes linkedThen (tenantedStart.run linkedStart before)
      (begun.judging.run before) fewThen closes
    have last := doomed.run after
    change ((started.run before).run (event :: after)).Doomed c at last
    rw [← split] at last
    obtain ⟨subscriber, present, ended⟩ := ended_of_doomed linked (settled c) last
    exact ⟨subscriber, present, ended, (removed c subscriber present).trans (if_neg ended)⟩

/-- Of the six subscribers the first and the last are tracked in the end, and the first is registered,
although something still waits for it. Each of the others had its own cause to end, the fourth two of
them, and was removed once. -/
theorem membership_of_everyClosing :
    ∃ started, startWith search strictChannel .linked = .ok started ∧
      (started.run everyClosing).OnlyWrites ∧
      ((started.run everyClosing).turn? 0 .write).isSome = true ∧
      (started.upgrades everyClosing).length = 6 ∧
      (∃ topic, (started.run everyClosing).hub.topics[0]? = some topic ∧
        (started.run everyClosing).Mirrors 0 topic ∧ topic.tracker.values = [0, 5] ∧
        topic.registry.membersOf "a" = [0] ∧ topic.stats.connectionsActive.toNat = 2 ∧
        topic.stats.connectionsTotal.toNat = 6) ∧
      (started.run (everyClosing.take 13)).Closes 1 (.arrive 1 (.frame (.close []))) ∧
      (started.run (everyClosing.take 15)).Closes 2 (.arrive 2 .hangUp) ∧
      (started.run (everyClosing.take 20)).Closes 3 (.body 0 (.frame [2])) ∧
      (started.run (everyClosing.take 21)).Closes 3 (.arrive 3 .hangUp) ∧
      (started.run (everyClosing.take 31)).Closes 4 (.advance (Span.ofMillis 2000)) ∧
      (∀ c ∈ [1, 2, 3, 4], started.removals c everyClosing = 1) ∧
      ∀ c ∈ [0, 5], started.removals c everyClosing = 0 := by
  have outcome : (startWith search strictChannel .linked).toOption.any (fun started =>
      (started.run everyClosing).OnlyWrites ∧
        ((started.run everyClosing).turn? 0 .write).isSome = true ∧
        (started.run everyClosing).subscribers.length = 6 ∧
        started.upgrades everyClosing = (List.replicate 4 ⟨0, default, some "a"⟩) ++
          List.replicate 2 ⟨0, default, none⟩ ∧
        ((started.run everyClosing).hub.topics[0]?.any fun topic =>
          topic.tracker.values = [0, 5] ∧ topic.registry.membersOf "a" = [0]) ∧
        ((started.run (everyClosing.take 13)).subscribers[1]?.isSome) ∧
        ((started.run (everyClosing.take 15)).subscribers[2]?.isSome) ∧
        (started.run (everyClosing.take 20)).offered? 3 (.body 0 (.frame [2])) = some [2] ∧
        ((started.run (everyClosing.take 20)).connectionOf? 3).any (fun place =>
          place.2.2.capacity ≤ place.2.2.waiting.length ∧ place.2.2.overflow = .disconnect) ∧
        ((started.run (everyClosing.take 21)).subscribers[3]?.isSome) ∧
        ((started.run (everyClosing.take 31)).connectionOf? 4).any (fun place =>
          (started.run (everyClosing.take 31)).hub.roundsDue (Span.ofMillis 2000)
            place.1.topic = 1 ∧ place.2.2.alive = false) ∧
        ((started.run everyClosing).subscribers[0]?.any fun subscriber =>
          subscriber.ending = none) ∧
        (started.run everyClosing).subscribers[5]?.any fun subscriber =>
          subscriber.ending = none) = true := by decide +kernel
  obtain ⟨started, begins, evaluated⟩ := exists_started outcome
  obtain ⟨settled, unwritten, six, upgrades, onTopic, second, third, offers, fourth, again, fifth,
    first, last⟩ := of_decide_eq_true evaluated
  have few : (started.run everyClosing).subscribers.length < UInt64.size := by
    rw [six]
    decide
  obtain ⟨_, topics, removals, closings⟩ := membership begins everyClosing settled few
  -- What closes the connections of four subscribers, each at its time.
  have closeFrame : (started.run (everyClosing.take 13)).Closes 1 (.arrive 1 (.frame (.close []))) := by
    obtain ⟨subscriber, present⟩ := Option.isSome_iff_exists.1 second
    exact .closeFrame present (by decide)
  have endOfStream : (started.run (everyClosing.take 15)).Closes 2 (.arrive 2 .hangUp) := by
    obtain ⟨subscriber, present⟩ := Option.isSome_iff_exists.1 third
    exact .endOfStream present
  have overflow : (started.run (everyClosing.take 20)).Closes 3 (.body 0 (.frame [2])) := by
    obtain ⟨⟨subscriber, ref, conn⟩, attached, strict⟩ := (Option.any_eq_true _ _).1 fourth
    obtain ⟨full, policy⟩ := of_decide_eq_true strict
    exact .overflow attached offers full policy
  have hangUp : (started.run (everyClosing.take 21)).Closes 3 (.arrive 3 .hangUp) := by
    obtain ⟨subscriber, present⟩ := Option.isSome_iff_exists.1 again
    exact .endOfStream present
  have silence : (started.run (everyClosing.take 31)).Closes 4 (.advance (Span.ofMillis 2000)) := by
    obtain ⟨⟨subscriber, ref, conn⟩, attached, silent⟩ := (Option.any_eq_true _ _).1 fifth
    exact .silence attached (.inr (of_decide_eq_true silent))
  have stays {c : Nat} (there : (started.run everyClosing).subscribers[c]?.any
      (fun subscriber => subscriber.ending = none) = true) : started.removals c everyClosing = 0 := by
    obtain ⟨subscriber, present, unended⟩ := (Option.any_eq_true _ _).1 there
    exact (removals c subscriber present).trans (if_pos (of_decide_eq_true unended))
  refine ⟨started, begins, settled, unwritten, ?_, ?_, closeFrame, endOfStream, overflow, hangUp,
    silence, ?_, ?_⟩
  · rw [upgrades]
    rfl
  · obtain ⟨topic, here, tables⟩ := (Option.any_eq_true _ _).1 onTopic
    obtain ⟨tracked, registered⟩ := of_decide_eq_true tables
    obtain ⟨mirrors, total⟩ := topics 0 topic here
    refine ⟨topic, here, mirrors, tracked, registered, ?_, ?_⟩
    · have size := congrArg List.length tracked
      rw [Table.values, List.length_map] at size
      exact mirrors.active.trans size
    · rw [total, upgrades]
      decide
  · intro c member
    simp only [List.mem_cons, List.not_mem_nil, or_false] at member
    rcases member with rfl | rfl | rfl | rfl
    · exact (closings _ _ (everyClosing.drop 14) 1 rfl closeFrame).choose_spec.2.2
    · exact (closings _ _ (everyClosing.drop 16) 2 rfl endOfStream).choose_spec.2.2
    · exact (closings _ _ (everyClosing.drop 21) 3 rfl overflow).choose_spec.2.2
    · exact (closings _ _ (everyClosing.drop 32) 4 rfl silence).choose_spec.2.2
  · intro c member
    simp only [List.mem_cons, List.not_mem_nil, or_false] at member
    rcases member with rfl | rfl
    · exact stays first
    · exact stays last

end Relay

end LiveRelay
