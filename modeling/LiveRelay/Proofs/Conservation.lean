/-
Module: LiveRelay.Proofs.Conservation
Purpose: The counters of a topic agree with the counters of its connections and with what was done
  to it, and each connection accounts for every payload that it counts.
Main exports: Hub.ofTopic, Hub.attachedTo, Hub.Balanced, Hub.Balanced.run, Hub.counters_conserved
-/
import LiveRelay.Proofs.Hub.Counting
import LiveRelay.Proofs.Hub.Queued
import Mathlib.Algebra.BigOperators.Group.List.Basic
import Mathlib.Tactic.Abel

namespace LiveRelay

open Net

/-! ### What one walk over connections counts -/

/-- What the outcomes of one broadcast add to the counts of deliveries and of drops. -/
def FanOutReport.mark (report : FanOutReport) : UInt64 × UInt64 :=
  (UInt64.ofNat report.delivered, UInt64.ofNat report.dropped)

theorem FanOutReport.mark_add (report : FanOutReport) (outcome : SendOutcome) :
    (report.add outcome).mark = report.mark + outcome.mark := by
  cases outcome with
  | queued => exact Prod.ext (UInt64.ofNat_add _ 1) (add_zero _).symm
  | dropped => exact Prod.ext (add_zero _).symm (UInt64.ofNat_add _ 1)
  | skipped | closed => exact (add_zero report.mark).symm

/-- What a topic has counted of deliveries and of drops. -/
def TopicStats.tally (stats : TopicStats) : UInt64 × UInt64 := (stats.deliveries, stats.dropped)

theorem Connections.map_updateEach {α : Type} {conns : Connections} {refs : List ConnRef}
    {f : Connection → Connection} (view : Connection → α) (kept : ∀ conn, view (f conn) = view conn) :
    (conns.updateEach refs f).map view = conns.map view := by
  apply List.ext_getElem?
  intro ref
  have same : (view ∘ f^[refs.count ref]) = view :=
    funext (Connection.iterate_same view kept _)
  rw [List.getElem?_map, getElem?_updateEach, Option.map_map, same, List.getElem?_map]

namespace Hub

/-- Of what belongs to connections one by one, what belongs to the connections of a topic. -/
def ofTopic {α : Type} (homes : List Attachment) (t : Nat) (each : List α) : List α :=
  ((homes.zip each).filter fun entry => entry.1.topic = t).map Prod.snd

/-- What the connections of a topic have counted together. -/
def tallied (homes : List Attachment) (t : Nat) (conns : Connections) : UInt64 × UInt64 :=
  ((ofTopic homes t conns).map Connection.tally).sum

variable {homes : List Attachment} {hub : Hub} {t s : Nat} {topic : Topic} {ref : ConnRef}
  {home : Attachment} {conn : Connection} {conns after : Connections} {event : Event}
  {events : List Event} {payload : Payload}

theorem ofTopic_cons {α : Type} (first : α) (each : List α) :
    ofTopic (home :: homes) t (first :: each) =
      (if home.topic = t then [first] else []) ++ ofTopic homes t each := by
  by_cases own : home.topic = t <;> simp [ofTopic, own]

theorem ofTopic_concat {α : Type} {each : List α} (even : homes.length = each.length)
    (home : Attachment) (last : α) :
    ofTopic (homes ++ [home]) t (each ++ [last]) =
      ofTopic homes t each ++ if home.topic = t then [last] else [] := by
  rw [ofTopic, List.zip_append even]
  by_cases own : home.topic = t <;> simp [ofTopic, own]

theorem tallied_eq (homes : List Attachment) (t : Nat) (conns : Connections) :
    tallied homes t conns = (ofTopic homes t (conns.map Connection.tally)).sum := by
  rw [tallied, ofTopic, ofTopic, List.zip_map_right, List.filter_map, List.map_map, List.map_map]
  rfl

/-- Connections that count what they counted before count the same together. -/
theorem tallied_congr (same : after.map Connection.tally = conns.map Connection.tally) :
    tallied homes t after = tallied homes t conns := by
  rw [tallied_eq, tallied_eq, same]

/-- Where one connection counts more, the connections of its topic together count as much more, and
those of other topics count what they counted. -/
theorem tallied_update {f : Connection → Connection} {extra : UInt64 × UInt64}
    (found : homes[ref]? = some home) (present : conns[ref]? = some conn)
    (grows : (f conn).tally = conn.tally + extra) :
    tallied homes t (conns.update ref f) =
      tallied homes t conns + if home.topic = t then extra else 0 := by
  induction homes generalizing conns ref with
  | nil => cases found
  | cons first others ih =>
      cases conns with
      | nil => cases present
      | cons other rest =>
          cases ref with
          | zero =>
              obtain rfl : first = home := Option.some.inj found
              obtain rfl : other = conn := Option.some.inj present
              change tallied (first :: others) t (f other :: rest) = _
              rw [tallied, tallied, ofTopic_cons, ofTopic_cons]
              by_cases own : first.topic = t
              · simp only [if_pos own, List.map_append, List.sum_append, List.map_cons, List.map_nil,
                  List.sum_cons, List.sum_nil, grows]
                abel
              · simp only [if_neg own, add_zero]
          | succ ref =>
              have rest_later := ih found present
              change tallied (first :: others) t (other :: Connections.update rest ref f) = _
              rw [tallied, tallied] at rest_later ⊢
              rw [ofTopic_cons, ofTopic_cons, List.map_append, List.map_append, List.sum_append,
                List.sum_append, rest_later, add_assoc]

/-- A walk over connections of a topic counts in its report what they count together. -/
theorem tallied_sendEach {refs : List ConnRef} (even : homes.length = conns.length)
    (own : ∀ ref ∈ refs, ∃ home, homes[ref]? = some home ∧ home.topic = s) :
    tallied homes t (sendEach payload refs conns).2 =
      tallied homes t conns + if s = t then (sendEach payload refs conns).1.mark else 0 := by
  induction refs generalizing conns with
  | nil =>
      have nothing : (sendEach payload [] conns).1.mark = 0 := rfl
      rw [nothing, ite_self]
      exact (add_zero _).symm
  | cons ref others ih =>
      obtain ⟨home, found, place⟩ := own ref List.mem_cons_self
      have within : ref < conns.length := even ▸ (List.getElem?_eq_some_iff.1 found).1
      have present := List.getElem?_eq_getElem within
      have first : tallied homes t (conns.act ref (·.trySend payload)).2 = _ :=
        (congrArg (tallied homes t) (Connections.snd_act _)).trans
          (tallied_update found present (conns[ref].tally_trySend payload))
      have later : homes.length = (conns.act ref (·.trySend payload)).2.length := by
        rw [Connections.snd_act, Connections.update, List.length_modify, even]
      have rest := ih later fun other member => own other (List.mem_cons_of_mem _ member)
      have outcome : (conns.act ref (·.trySend payload)).1 =
          some (conns[ref].trySend payload).1 := by
        rw [Connections.fst_act, present]
        rfl
      have report : (sendEach payload (ref :: others) conns).1 =
          (sendEach payload others (conns.act ref (·.trySend payload)).2).1.add
            (conns[ref].trySend payload).1 := by
        rw [← Option.getD_some (a := (conns[ref].trySend payload).1) (b := .skipped), ← outcome]
        rfl
      change tallied homes t (sendEach payload others (conns.act ref (·.trySend payload)).2).2 = _
      rw [rest, first, report, FanOutReport.mark_add, place]
      by_cases same : s = t
      · simp only [if_pos same]
        abel
      · simp only [if_neg same, add_zero]

/-! ### One event -/

/-- Every topic has counted of deliveries and of drops what its connections have counted together. -/
def Balanced (homes : List Attachment) (hub : Hub) : Prop :=
  ∀ (t : Nat) (topic : Topic), hub.topics[t]? = some topic →
    topic.stats.tally = tallied homes t hub.connections

theorem Fresh.balanced (fresh : hub.Fresh) : Balanced [] hub := by
  intro t topic here
  obtain ⟨config, relay, rfl⟩ := fresh.topics topic (List.mem_of_getElem? here)
  rfl

/-- What is neither data nor an attachment leaves alone what connections count. -/
theorem tally_step (noData : ∀ t channel payload, event ≠ .broadcast t channel payload)
    (attaches : hub.added event = []) :
    (hub.step event).2.connections.map Connection.tally =
      hub.connections.map Connection.tally := by
  rw [connections_step_eq, attaches, List.append_nil]
  exact Connections.map_updateEach _ (Event.tally_effect noData)

theorem tally_join (topic : Topic) (channel : Option Channel) (ref : ConnRef) :
    (topic.join channel ref).stats.tally = topic.stats.tally := by
  rw [Topic.stats_join]
  rfl

theorem tally_release (topic : Topic) (id : ConnId) (channel : Option Channel) :
    (topic.release id channel).stats.tally = topic.stats.tally := by
  rw [Topic.stats_release]
  split <;> rfl

/-- The connections of a topic count together what its report of a broadcast says. -/
theorem Tidy.tallied_broadcast (tidy : Tidy homes hub) (there : hub.topics[s]? = some topic)
    (channel : Channel) (payload : Payload) (t : Nat) :
    tallied homes t (hub.step (.broadcast s channel payload)).2.connections =
      tallied homes t hub.connections +
        if s = t then (topic.broadcast hub.connections channel payload).1.mark else 0 := by
  rw [step_broadcast there]
  apply tallied_sendEach tidy.even
  intro ref member
  obtain ⟨id, entered⟩ := Registry.mem_membersOf.1 (List.mem_filter.1 member).1
  obtain ⟨home, found, own, _⟩ := (tidy.tables s topic there).listed_own _ entered
  exact ⟨home, found, own⟩

/-- A connection that is attached has counted nothing yet. -/
theorem Tidy.tallied_attach (tidy : Tidy homes hub) (t : Nat) (event : Event)
    (attaches : ∃ s peer channel, event = .attach s peer channel) :
    tallied (homes ++ (hub.attachment? event).toList) t (hub.step event).2.connections =
      tallied homes t hub.connections := by
  obtain ⟨s, peer, channel, rfl⟩ := attaches
  cases there : hub.topics[s]? with
  | none =>
      have beyond : ¬ s < hub.topics.length := Nat.not_lt.2 (List.getElem?_eq_none_iff.1 there)
      rw [step_attach_of_none there, attachment?, if_neg beyond, Option.toList_none,
        List.append_nil]
  | some topic =>
      rw [step_attach there, attachment?, if_pos (List.getElem?_eq_some_iff.1 there).1,
        Option.toList_some, tallied, ofTopic_concat tidy.even, List.map_append, List.sum_append]
      split
      · exact add_zero _
      · exact add_zero _

/-- Every event keeps the counts of a topic and of its connections in agreement. -/
theorem Balanced.step (balanced : Balanced homes hub) (tidy : Tidy homes hub) (event : Event) :
    Balanced (homes ++ (hub.attachment? event).toList) (hub.step event).2 := by
  intro t later next
  obtain ⟨topic, here, same⟩ := topic_of_step next
  have counted : later.stats.tally = (hub.becomes t topic event).stats.tally :=
    congrArg (fun topic => topic.stats.tally) same
  rw [counted]
  have before := balanced t topic here
  -- Where neither the topic nor its connections count anything, they still agree.
  have still (noData : ∀ t channel payload, event ≠ .broadcast t channel payload)
      (attaches : hub.added event = []) (nobody : hub.attachment? event = none)
      (kept : (hub.becomes t topic event).stats.tally = topic.stats.tally) :
      (hub.becomes t topic event).stats.tally =
        tallied (homes ++ (hub.attachment? event).toList) t (hub.step event).2.connections := by
    rw [kept, before, nobody, Option.toList_none, List.append_nil]
    exact (tallied_congr (tally_step noData attaches)).symm
  cases event with
  | attach s peer channel =>
      rw [tidy.tallied_attach t _ ⟨s, peer, channel, rfl⟩, ← before, becomes]
      split
      · exact tally_join _ _ _
      · rfl
  | broadcast s channel payload =>
      cases there : hub.topics[s]? with
      | none =>
          have different := ne_of_topic here there
          have nothing : (hub.step (.broadcast s channel payload)).2 = hub := by
            simp [Hub.step, onTopic, there]
          rw [nothing, becomes, if_neg different, before]
          exact congrArg (tallied · t hub.connections) (List.append_nil homes).symm
      | some other =>
          have alone : homes ++ (hub.attachment? (.broadcast s channel payload)).toList = homes :=
            List.append_nil homes
          rw [alone, tidy.tallied_broadcast there, becomes, ← before]
          by_cases own : s = t
          · subst own
            obtain rfl := Option.some.inj (there.symm.trans here)
            rw [if_pos rfl, if_pos rfl]
            rfl
          · rw [if_neg own, if_neg own, add_zero]
  | detach s ref =>
      refine still (by simp) rfl rfl ?_
      rw [becomes]
      split
      · cases hub.connections[ref]? with
        | none => rfl
        | some conn => exact tally_release _ _ _
      · rfl
  | _ => exact still (by simp) rfl rfl rfl

/-! ### Runs -/

/-- Data on known and unknown channels of a topic, while a reader leaves what waits for it, and its
connection is offered more than it has room for. -/
def discardedQueue : List Event :=
  [.attach 0 default (some "a"), .attach 1 default (some "a"), .attach 0 default (some "a"),
    .broadcast 0 "a" [1], .broadcast 0 "a" [2, 2], .receive 0, .broadcast 0 "z" [3],
    .broadcast 0 "a" [4], .dropQueues 0, .broadcast 0 "a" [5], .terminate 2, .broadcast 0 "a" [6],
    .detach 0 0, .probe 0, .advance 1]

/-- Whether an event attaches a connection to a topic. -/
def Event.attachesTo (t : Nat) : Event → Bool
  | .attach s _ _ => s = t
  | _ => false

/-- The payloads that are broadcast on a topic, on whatever channel. -/
def broadcastsTo (t : Nat) (events : List Event) : List Payload :=
  events.filterMap fun
    | .broadcast s _ payload => if s = t then some payload else none
    | _ => none

/-- The connections ever attached to a topic in a run, as they are at its end. -/
def attachedTo (hub : Hub) (t : Nat) (events : List Event) : List Connection :=
  ofTopic (hub.attachments events) t (hub.run events).2.connections

/-- What a topic counts of a run besides deliveries and drops. -/
structure Counted (t : Nat) (events : List Event) (before after : TopicStats) : Prop where
  connections : after.connectionsTotal =
    before.connectionsTotal + UInt64.ofNat (events.countP (Event.attachesTo t))
  chunks : after.chunksRelayed =
    before.chunksRelayed + UInt64.ofNat (broadcastsTo t events).length
  bytes : after.bytesRelayed =
    before.bytesRelayed + UInt64.ofNat ((broadcastsTo t events).map List.length).sum

namespace Counted

theorem nothing (noCount : Event.attachesTo t event = false) (noData : broadcastsTo t [event] = [])
    {before after : TopicStats} (connections : after.connectionsTotal = before.connectionsTotal)
    (chunks : after.chunksRelayed = before.chunksRelayed)
    (bytes : after.bytesRelayed = before.bytesRelayed) : Counted t [event] before after := by
  constructor
  · rw [connections, List.countP_singleton, noCount]
    exact (UInt64.add_zero _).symm
  · rw [chunks, noData]
    exact (UInt64.add_zero _).symm
  · rw [bytes, noData]
    exact (UInt64.add_zero _).symm

theorem append {one two : List Event} {before middle after : TopicStats}
    (first : Counted t one before middle) (second : Counted t two middle after) :
    Counted t (one ++ two) before after := by
  have data : broadcastsTo t (one ++ two) = broadcastsTo t one ++ broadcastsTo t two :=
    List.filterMap_append
  constructor
  · rw [second.connections, first.connections, List.countP_append, UInt64.ofNat_add,
      UInt64.add_assoc]
  · rw [second.chunks, first.chunks, data, List.length_append, UInt64.ofNat_add, UInt64.add_assoc]
  · rw [second.bytes, first.bytes, data, List.map_append, List.sum_append, UInt64.ofNat_add,
      UInt64.add_assoc]

theorem step (hub : Hub) (t : Nat) (topic : Topic) (event : Event) :
    Counted t [event] topic.stats (hub.becomes t topic event).stats := by
  cases event with
  | attach s peer channel =>
      by_cases same : s = t
      · rw [becomes, if_pos same, Topic.stats_join]
        constructor
        · simp [Event.attachesTo, same, TopicStats.connectionOpened]
        · exact (UInt64.add_zero _).symm
        · exact (UInt64.add_zero _).symm
      · have away : Event.attachesTo t (.attach s peer channel) = false := decide_eq_false same
        rw [becomes, if_neg same]
        exact nothing away rfl rfl rfl rfl
  | detach s ref =>
      rw [becomes]
      split
      · cases hub.connections[ref]? with
        | none => exact nothing rfl rfl rfl rfl rfl
        | some conn =>
            rw [Option.elim_some, Topic.stats_release]
            split <;> exact nothing rfl rfl rfl rfl rfl
      · exact nothing rfl rfl rfl rfl rfl
  | broadcast s channel payload =>
      by_cases same : s = t
      · rw [becomes, if_pos same]
        have data : broadcastsTo t [.broadcast s channel payload] = [payload] := by
          simp [broadcastsTo, same]
        constructor
        · exact (UInt64.add_zero _).symm
        · rw [data]
          rfl
        · rw [data]
          simp [Topic.broadcast, Topic.broadcastTo, TopicStats.chunkRelayed]
      · rw [becomes, if_neg same]
        exact nothing rfl (by simp [broadcastsTo, same]) rfl rfl rfl
  | _ => exact nothing rfl rfl rfl rfl rfl

end Counted

/-- A run keeps the counts of every topic in agreement, and counts on a topic what was done to it. -/
theorem Balanced.run (balanced : Balanced homes hub) (tidy : Tidy homes hub)
    (here : hub.topics[t]? = some topic) (events : List Event) :
    Balanced (homes ++ hub.attachments events) (hub.run events).2 ∧
      ∃ later, (hub.run events).2.topics[t]? = some later ∧
        Counted t events topic.stats later.stats := by
  induction events generalizing homes hub topic with
  | nil =>
      have none_yet : homes ++ hub.attachments [] = homes := List.append_nil homes
      rw [none_yet]
      exact ⟨balanced, topic, here, (UInt64.add_zero _).symm, (UInt64.add_zero _).symm,
        (UInt64.add_zero _).symm⟩
  | cons event others ih =>
      obtain ⟨next, there, same⟩ := topic_step here event
      have first : Counted t [event] topic.stats next.stats := by
        have made := Counted.step hub t topic event
        exact
          ⟨(congrArg (·.stats.connectionsTotal) same).trans made.connections,
            (congrArg (·.stats.chunksRelayed) same).trans made.chunks,
            (congrArg (·.stats.bytesRelayed) same).trans made.bytes⟩
      obtain ⟨agree, later, present, rest⟩ := ih (balanced.step tidy event) (tidy.step event) there
      rw [attachments_step, List.append_assoc, ← attachments_cons] at agree
      exact ⟨agree, later, present, first.append rest⟩

/-- No event lets more payloads wait for a connection than it has room for. -/
theorem Event.room_effect (event : Event) (conn : Connection)
    (room : conn.waiting.length ≤ conn.capacity) :
    (event.effect conn).waiting.length ≤ (event.effect conn).capacity := by
  have capacity : (event.effect conn).capacity = conn.capacity :=
    congrArg (fun terms => terms.2.1) (event.terms_effect conn)
  rw [capacity]
  rcases event.effect_cases with
    ⟨t, ref, rfl⟩ | ⟨ref, rfl⟩ | ⟨ref, rfl⟩ | ⟨t, channel, payload, rfl⟩ | stays
  · exact room
  · exact Nat.zero_le _
  · refine Nat.le_trans ?_ room
    change conn.receive.2.waiting.length ≤ _
    rw [Connection.waiting_eq, Connection.waiting_eq]
    cases attended : conn.outbound? with
    | none => rw [Connection.receive_of_none attended, attended]
    | some waits =>
        rcases Connection.receive_of_outbound attended with
          ⟨rfl, _, rest⟩ | ⟨payload, others, rfl, _, rest⟩
        · rw [rest]
        · rw [rest]
          exact Nat.le_succ _
  · change (conn.trySend payload).2.waiting.length ≤ _
    rcases conn.trySend_cases payload with
      ⟨_, outcome⟩ | ⟨_, _, outcome⟩ | ⟨queues, _, held, fits, outcome⟩ | ⟨queues, _, _, _, outcome⟩
    · rwa [outcome]
    · rwa [outcome]
    · rw [conn.waiting_trySend, outcome, if_pos rfl, List.length_append]
      have waits : conn.waiting = queues.outbound := by rw [Connection.waiting, held]
      rw [waits]
      exact fits
    · rw [conn.waiting_trySend, outcome, if_neg (by simp), List.append_nil]
      exact room
  · rwa [Connection.waiting_eq, (stays conn).waits, ← Connection.waiting_eq]

/-- In every run of a hub, the counters of a topic agree with those of the connections ever attached
to it, with what was broadcast on it and with how often a connection was attached to it. Each of its
connections has counted as delivered what its reader received, what still waits and what was
discarded with its queue, and never has more waiting than its topic has room for. -/
theorem counters_conserved (fresh : hub.Fresh) (here : hub.topics[t]? = some topic)
    (events : List Event) :
    ∃ later, (hub.run events).2.topics[t]? = some later ∧
      later.stats.deliveries = ((hub.attachedTo t events).map Connection.delivered).sum ∧
      later.stats.dropped = ((hub.attachedTo t events).map Connection.dropped).sum ∧
      later.stats.chunksRelayed = UInt64.ofNat (broadcastsTo t events).length ∧
      later.stats.bytesRelayed = UInt64.ofNat ((broadcastsTo t events).map List.length).sum ∧
      later.stats.connectionsTotal = UInt64.ofNat (events.countP (Event.attachesTo t)) ∧
      ∀ ref peer channel, (hub.attachments events)[ref]? = some ⟨t, peer, channel⟩ →
        ∃ conn, (hub.run events).2.connections[ref]? = some conn ∧
          conn.delivered = UInt64.ofNat ((hub.receivedFrom ref events).length +
            conn.waiting.length + (hub.discardedFrom ref events).length) ∧
          conn.waiting.length ≤ max topic.queueCapacity 1 := by
  obtain ⟨agree, later, present, counted⟩ := fresh.balanced.run fresh.tidy here events
  have zero : topic.stats = .zero := by
    obtain ⟨config, relay, rfl⟩ := fresh.topics topic (List.mem_of_getElem? here)
    rfl
  rw [zero] at counted
  rw [List.nil_append] at agree
  have together : later.stats.tally = ((hub.attachedTo t events).map Connection.tally).sum :=
    agree t later present
  refine ⟨later, present, ?deliveries, ?dropped, ?chunks, ?bytes, ?connections, ?each⟩
  case deliveries =>
    have sum := map_list_sum (AddMonoidHom.fst UInt64 UInt64)
      ((hub.attachedTo t events).map Connection.tally)
    rw [← together, List.map_map] at sum
    exact sum
  case dropped =>
    have sum := map_list_sum (AddMonoidHom.snd UInt64 UInt64)
      ((hub.attachedTo t events).map Connection.tally)
    rw [← together, List.map_map] at sum
    exact sum
  case chunks => exact counted.chunks.trans (UInt64.zero_add _)
  case bytes => exact counted.bytes.trans (UInt64.zero_add _)
  case connections => exact counted.connections.trans (UInt64.zero_add _)
  case each =>
    intro ref peer channel found
    obtain ⟨life, rfl, own, rfl, _⟩ := Life.exists_of_attached found
    have place : hub.topics[life.home.topic]? = some topic := by rw [own]; exact here
    obtain ⟨_, id, begins⟩ := Life.born fresh place
    obtain ⟨conn, ends, room, terms⟩ := kept_run
      (P := fun conn => conn.waiting.length ≤ conn.capacity ∧
        conn.terms = (life.newborn topic id).terms)
      (fun event conn kept => ⟨event.room_effect conn kept.1,
        (event.terms_effect conn).trans kept.2⟩)
      begins ⟨Nat.zero_le _, rfl⟩ life.after
    rw [← Life.ended_eq] at ends
    refine ⟨conn, ends, ?_, ?_⟩
    · have delivered := fresh.tidy.delivered_run (life.ref hub) life.events
      have account := congrArg List.length (fresh.tidy.queuedOn_eq (life.ref hub) life.events)
      have nobody : hub.connections[life.ref hub]? = none := by
        rw [fresh.connections]
        rfl
      rw [deliveredTo, deliveredTo, nobody] at delivered
      rw [waiting, waiting, nobody] at account
      have final : (hub.run life.events).2.connections[life.ref hub]? = some conn := ends
      simp only [final, Option.elim_some, Option.elim_none, List.nil_append, List.length_append,
        UInt64.zero_add] at delivered account
      rw [delivered, ← account]
      congr 1
      omega
    · have capacity : conn.capacity = max topic.queueCapacity 1 :=
        congrArg (fun terms => terms.2.1) terms
      exact capacity ▸ room

/-- The reader of one connection leaves, and the other connection overflows: five payloads are counted
as delivered and two as dropped. Of the three that the first connection took, one was received and
two were discarded. -/
theorem counters_conserved_of_discardedQueue :
    (Hub.new .twoTopics).Fresh ∧
      (∃ later, ((Hub.new .twoTopics).run discardedQueue).2.topics[0]? = some later ∧
        later.stats.deliveries = 5 ∧ later.stats.dropped = 2 ∧ later.stats.chunksRelayed = 6 ∧
        later.stats.bytesRelayed = 7 ∧ later.stats.connectionsTotal = 2) ∧
      (Hub.new .twoTopics).receivedFrom 0 discardedQueue = [[1]] ∧
      (Hub.new .twoTopics).discardedFrom 0 discardedQueue = [[2, 2], [4]] ∧
      ∃ conn, ((Hub.new .twoTopics).run discardedQueue).2.connections[0]? = some conn ∧
        conn.delivered = UInt64.ofNat (1 + conn.waiting.length + 2) ∧ conn.waiting.length ≤ 2 := by
  have fresh := fresh_new .twoTopics
  obtain ⟨topic, here, room⟩ : ∃ topic, (Hub.new .twoTopics).topics[0]? = some topic ∧
      topic.queueCapacity = 2 := ⟨_, rfl, rfl⟩
  have received : (Hub.new .twoTopics).receivedFrom 0 discardedQueue = [[1]] := by decide +kernel
  have discarded : (Hub.new .twoTopics).discardedFrom 0 discardedQueue = [[2, 2], [4]] := by
    decide +kernel
  obtain ⟨later, present, deliveries, dropped, chunks, bytes, connections, each⟩ :=
    counters_conserved fresh here discardedQueue
  obtain ⟨conn, found, account, bounded⟩ := each 0 default (some "a") (by decide +kernel)
  rw [received, discarded] at account
  rw [room] at bounded
  refine ⟨fresh, ⟨later, present, deliveries.trans ?_, dropped.trans ?_, chunks.trans ?_,
    bytes.trans ?_, connections.trans ?_⟩, received, discarded, conn, found, account, bounded⟩
  all_goals decide +kernel

end Hub

end LiveRelay
