/-
Module: LiveRelay.Proofs.Topic.Offering
Purpose: What it does to offer one payload to all open members of a channel. They are gone through in
  some order, and each is offered the payload if it is open when its turn comes. The order does not
  show in what becomes of the connections and of the counters, and everything else stays as it was.
Main exports: visitEach, visitEach_eq, FanOutReport.ofOutcomes, fst_sendEach, Topic.Takes,
  Connection.Shut, Topic.Equips, Topic.Serves, FanOutEffect, FansOut, Topic.Serves.fansOut
-/
import LiveRelay.Proofs.Hub.Reach
import LiveRelay.Proofs.Topic.Stages

namespace LiveRelay

open Net Connections

/-! ### Going through connections -/

namespace Connections

/-- Whether a connection is there and open. -/
def isOpenAt (conns : Connections) (ref : ConnRef) : Bool :=
  (conns[ref]?.map Connection.isOpen).getD false

/-- What comes of a payload that is offered to a connection, if it is there. -/
def answer (conns : Connections) (payload : Payload) (ref : ConnRef) : SendOutcome :=
  (conns[ref]?.map fun conn => (conn.trySend payload).1).getD .skipped

variable {conns : Connections} {ref other : ConnRef} {refs others : List ConnRef}

theorem isOpenAt_iff :
    conns.isOpenAt ref = true ↔ ∃ conn, conns[ref]? = some conn ∧ conn.state = .open := by
  cases present : conns[ref]? with
  | none => simp [isOpenAt, present]
  | some conn => simp [isOpenAt, present, Connection.isOpen]

/-- Acting on a connection leaves those as they are that it is none of. -/
theorem getElem?_act_of_mem {α : Type} (f : Connection → α × Connection) (absent : ref ∉ others)
    (member : other ∈ others) : (conns.act ref f).2[other]? = conns[other]? := by
  have different : ref ≠ other := fun same => absent (same ▸ member)
  rw [snd_act, getElem?_update_of_ne different]

/-- In which order connections are acted on does not show. -/
theorem updateEach_perm (same : refs.Perm others) (f : Connection → Connection) :
    conns.updateEach refs f = conns.updateEach others f := by
  apply List.ext_getElem?
  intro ref
  rw [getElem?_updateEach, getElem?_updateEach, same.count_eq]

end Connections

/-- Go through connections one after another and offer a payload to each that is open when its turn
comes: to whom it was offered, and what came of it. -/
def visitEach (payload : Payload) :
    List ConnRef → Connections → List ConnRef × FanOutReport × Connections
  | [], conns => ([], .nothing, conns)
  | ref :: others, conns =>
    if conns.isOpenAt ref then
      let (outcome, conns) := conns.act ref (·.trySend payload)
      let (visited, report, conns) := visitEach payload others conns
      (ref :: visited, report.add (outcome.getD .skipped), conns)
    else visitEach payload others conns

/-- What became of a payload, counted over some offers. -/
def FanOutReport.ofOutcomes (outcomes : List SendOutcome) : FanOutReport where
  delivered := outcomes.count .queued
  dropped := outcomes.count .dropped
  skipped := outcomes.count .skipped + outcomes.count .closed

section Walk

variable {payload : Payload} {order refs others : List ConnRef}

/-- A connection that is open when its turn comes is offered the payload before the others are
come to. -/
theorem visitEach_cons_of_open {ref : ConnRef} {conns : Connections}
    (opened : conns.isOpenAt ref = true) :
    visitEach payload (ref :: others) conns =
      (ref :: (visitEach payload others (conns.act ref (·.trySend payload)).2).1,
        (visitEach payload others (conns.act ref (·.trySend payload)).2).2.1.add
          ((conns.act ref (·.trySend payload)).1.getD .skipped),
        (visitEach payload others (conns.act ref (·.trySend payload)).2).2.2) := by
  rw [visitEach, if_pos opened]

/-- Different connections do not get in each other's way: those that are open when their turn comes
are those that were open at first. -/
theorem visitEach_eq (distinct : order.Nodup) (conns : Connections) :
    visitEach payload order conns =
      (order.filter conns.isOpenAt, sendEach payload (order.filter conns.isOpenAt) conns) := by
  induction order generalizing conns with
  | nil => rfl
  | cons ref others ih =>
      obtain ⟨absent, rest⟩ := List.nodup_cons.1 distinct
      by_cases opened : conns.isOpenAt ref = true
      · have later : others.filter (conns.act ref (·.trySend payload)).2.isOpenAt =
            others.filter conns.isOpenAt := by
          refine List.filter_congr fun other member => ?_
          rw [isOpenAt, getElem?_act_of_mem _ absent member, isOpenAt]
        rw [visitEach_cons_of_open opened, ih rest, later, List.filter_cons_of_pos opened]
        rfl
      · rw [visitEach, if_neg opened, List.filter_cons_of_neg opened, ih rest]

namespace FanOutReport

theorem ofOutcomes_cons (outcome : SendOutcome) (outcomes : List SendOutcome) :
    ofOutcomes (outcome :: outcomes) = (ofOutcomes outcomes).add outcome := by
  cases outcome <;> simp [ofOutcomes, add] <;> omega

theorem ofOutcomes_perm {one two : List SendOutcome} (same : one.Perm two) :
    ofOutcomes one = ofOutcomes two := by
  simp only [ofOutcomes, same.count_eq]

/-- A report counts every offer once. -/
theorem total_ofOutcomes (outcomes : List SendOutcome) :
    (ofOutcomes outcomes).delivered + (ofOutcomes outcomes).dropped +
      (ofOutcomes outcomes).skipped = outcomes.length := by
  induction outcomes with
  | nil => rfl
  | cons outcome others ih =>
      rw [ofOutcomes_cons, List.length_cons, ← ih]
      cases outcome <;> simp only [add] <;> omega

end FanOutReport

/-- Offers to different connections are reported as what each of them answers by itself. -/
theorem fst_sendEach (distinct : refs.Nodup) (conns : Connections) :
    (sendEach payload refs conns).1 = .ofOutcomes (refs.map (conns.answer payload)) := by
  induction refs generalizing conns with
  | nil => rfl
  | cons ref others ih =>
      obtain ⟨absent, rest⟩ := List.nodup_cons.1 distinct
      have later : others.map ((conns.act ref (·.trySend payload)).2.answer payload) =
          others.map (conns.answer payload) := by
        refine List.map_congr_left fun other member => ?_
        rw [answer, getElem?_act_of_mem _ absent member, answer]
      have first : (conns.act ref (·.trySend payload)).1.getD .skipped =
          conns.answer payload ref := by rw [fst_act, answer]
      rw [List.map_cons, FanOutReport.ofOutcomes_cons, ← later, ← ih rest, ← first]
      rfl

/-- In which order different connections are offered a payload does not show. -/
theorem sendEach_perm (distinct : refs.Nodup) (same : refs.Perm others) (conns : Connections) :
    sendEach payload refs conns = sendEach payload others conns := by
  refine Prod.ext ?_ ?_
  · rw [fst_sendEach distinct, fst_sendEach (same.nodup_iff.1 distinct)]
    exact FanOutReport.ofOutcomes_perm (same.map _)
  · rw [snd_sendEach, snd_sendEach, updateEach_perm same]

end Walk

/-! ### One offer -/

theorem ConnState.closing_le_closeBegun (state : ConnState) :
    ConnState.closing.rank ≤ state.closeBegun.2.rank := by
  cases state <;> decide

namespace Connection

variable {conn later : Connection}

/-- Once a connection is terminated, it has begun to close. -/
def Shut (conn : Connection) : Prop :=
  conn.terminated = true → ConnState.closing.rank ≤ conn.state.rank

namespace Shut

/-- A state never goes back. -/
theorem of_rank_le (shut : conn.Shut) (terminated : later.terminated = conn.terminated)
    (state : conn.state.rank ≤ later.state.rank) : later.Shut :=
  fun ended => Nat.le_trans (shut (terminated ▸ ended)) state

theorem terminate (shut : conn.Shut) : conn.terminate.Shut := by
  unfold Connection.terminate
  split
  · exact shut
  · exact fun _ => conn.state.closing_le_closeBegun

theorem touched (shut : conn.Shut) (touch : Touch) : (conn.touched touch).Shut := by
  have requeued (queues : Option Queues) : Shut { conn with queues := queues } := shut
  cases touch with
  | offer payload =>
      rw [Connection.touched]
      rcases conn.trySend_cases payload with
        ⟨_, outcome⟩ | ⟨_, _, outcome⟩ | ⟨_, _, _, _, outcome⟩ | ⟨_, _, _, _, outcome⟩
      all_goals rw [outcome]
      · exact shut
      · exact shut
      · exact shut
      · have counted : Shut { conn with dropped := conn.dropped + 1 } := shut
        rw [overflowed]
        split
        · exact counted
        · exact counted.terminate
  | probe =>
      have silent : conn.takeAlive.2.Shut := shut
      rw [Connection.touched, snd_probe]
      split
      · exact shut
      · split
        · obtain ⟨queues, pinged⟩ := conn.takeAlive.2.snd_ping
          rw [pinged]
          exact shut
        · exact silent.terminate
  | terminate => exact shut.terminate
  | markAlive => exact shut
  | receive =>
      obtain ⟨queues, read⟩ := conn.snd_receive
      rw [Connection.touched, read]
      exact requeued queues
  | receiveControl =>
      obtain ⟨queues, read⟩ := conn.snd_receiveControl
      rw [Connection.touched, read]
      exact requeued queues
  | dropQueues => exact shut

end Shut

end Connection

namespace Topic

variable {topic later : Topic} {conn next : Connection} {payload : Payload}

/-- What comes of a payload that is offered to an open connection of a topic, and what it makes of the
connection. Nothing else about the connection changes. -/
inductive Takes (topic : Topic) (payload : Payload) (conn : Connection) :
    SendOutcome → Connection → Prop where
  /-- Nobody reads what is queued. -/
  | unattended (gone : conn.queues = none) : Takes topic payload conn .closed conn
  /-- The queue has room. -/
  | queued {queues : Queues} (present : conn.queues = some queues)
      (room : queues.outbound.length < max topic.queueCapacity 1) :
      Takes topic payload conn .queued
        { conn with
          queues := some { queues with outbound := queues.outbound ++ [payload] }
          delivered := conn.delivered + 1 }
  /-- The queue is full, and the payload is lost. -/
  | lost {queues : Queues} (present : conn.queues = some queues)
      (full : max topic.queueCapacity 1 ≤ queues.outbound.length)
      (policy : topic.overflow = .dropNewest) :
      Takes topic payload conn .dropped { conn with dropped := conn.dropped + 1 }
  /-- The queue is full, and the connection is terminated for it. -/
  | disconnected {queues : Queues} (present : conn.queues = some queues)
      (full : max topic.queueCapacity 1 ≤ queues.outbound.length)
      (policy : topic.overflow = .disconnect) :
      Takes topic payload conn .dropped
        { conn with dropped := conn.dropped + 1, terminated := true, state := .closing }

/-- A connection has the room that its topic gives it, and does what its topic says where that is
short. -/
structure Equips (topic : Topic) (conn : Connection) : Prop where
  capacity : conn.capacity = max topic.queueCapacity 1
  policy : conn.overflow = topic.overflow
  shut : conn.Shut

namespace Equips

theorem congr (same : topic.cleared = later.cleared) (equips : topic.Equips conn) :
    later.Equips conn := by
  obtain ⟨capacity, overflow⟩ := options_of_cleared same
  exact ⟨capacity ▸ equips.capacity, overflow ▸ equips.policy, equips.shut⟩

/-- A new connection is made so. -/
theorem newborn (topic : Topic) (peer : SocketAddress) (channel : Option Channel) :
    topic.Equips (topic.newConnection peer channel) := ⟨rfl, rfl, nofun⟩

theorem markOpen (equips : topic.Equips conn) : topic.Equips conn.markOpen :=
  ⟨equips.capacity, equips.policy, equips.shut.of_rank_le rfl conn.state.rank_opened⟩

theorem beginClose (equips : topic.Equips conn) : topic.Equips conn.beginClose :=
  ⟨equips.capacity, equips.policy, equips.shut.of_rank_le rfl conn.state.rank_closeBegun⟩

theorem finishClose (equips : topic.Equips conn) : topic.Equips conn.finishClose :=
  ⟨equips.capacity, equips.policy, equips.shut.of_rank_le rfl conn.state.rank_closeFinished⟩

theorem touched (equips : topic.Equips conn) (touch : Touch) :
    topic.Equips (conn.touched touch) := by
  have bond := conn.bond_touched touch
  exact ⟨(congrArg (fun bond => bond.capacity) bond).trans equips.capacity,
    (congrArg (fun bond => bond.overflow) bond).trans equips.policy, equips.shut.touched touch⟩

/-- What an open connection does with a payload. -/
theorem takes (equips : topic.Equips conn) (opened : conn.state = .open) (payload : Payload) :
    topic.Takes payload conn (conn.trySend payload).1 (conn.trySend payload).2 := by
  rcases conn.trySend_cases payload with
    ⟨shut, _⟩ | ⟨_, gone, outcome⟩ | ⟨queues, _, present, room, outcome⟩ |
      ⟨queues, _, present, full, outcome⟩
  · exact absurd opened shut
  · rw [outcome]
    exact .unattended gone
  · rw [outcome]
    exact .queued present (equips.capacity ▸ room)
  · have full : max topic.queueCapacity 1 ≤ queues.outbound.length :=
      equips.capacity ▸ Nat.not_lt.1 full
    rw [outcome]
    unfold Connection.overflowed
    split
    · next policy => exact .lost present full (equips.policy ▸ policy)
    · next policy =>
      -- An open connection is not terminated yet, so that terminating it has its effect.
      have running : conn.terminated = false := by
        refine Bool.eq_false_iff.2 fun already => ?_
        have closes := equips.shut already
        rw [opened] at closes
        revert closes
        decide
      have ends : { conn with dropped := conn.dropped + 1 }.terminate =
          { conn with dropped := conn.dropped + 1, terminated := true, state := .closing } := by
        simp only [Connection.terminate, Connection.beginClose, running, opened,
          Bool.false_eq_true, if_false]
        rfl
      rw [ends]
      exact .disconnected present full (equips.policy ▸ policy)

end Equips

end Topic

/-! ### All offers -/

/-- A topic that has counted a payload and what became of it. Its counters are 64 bits wide, and
nothing else about it changes. -/
def Topic.relayed (topic : Topic) (payload : Payload) (report : FanOutReport) : Topic :=
  { topic with
    stats := { topic.stats with
      chunksRelayed := topic.stats.chunksRelayed + 1
      bytesRelayed := topic.stats.bytesRelayed + UInt64.ofNat payload.length
      deliveries := topic.stats.deliveries + UInt64.ofNat report.delivered
      dropped := topic.stats.dropped + UInt64.ofNat report.dropped } }

/-- What offering a payload to the open members of a channel does to connections, where it was offered
to those `visited`. -/
structure FanOutEffect (topic : Topic) (channel : Channel) (payload : Payload)
    (before : Connections) (visited : List ConnRef) (report : FanOutReport) (after : Connections) :
    Prop where
  mem_visited : ∀ ref, ref ∈ visited ↔
    ref ∈ topic.registry.membersOf channel ∧ ∃ conn, before[ref]? = some conn ∧ conn.state = .open
  once : visited.Nodup
  unknown : topic.isKnown channel = false → visited = []
  takes : ∀ ref ∈ visited, ∃ conn later, before[ref]? = some conn ∧ after[ref]? = some later ∧
    topic.Takes payload conn (before.answer payload ref) later
  others : ∀ ref, ref ∉ visited → after[ref]? = before[ref]?
  counted : report = .ofOutcomes (visited.map (before.answer payload))
  total : report.delivered + report.dropped + report.skipped = visited.length

/-- In whatever order the members of a channel are gone through, the report and the connections in the
end are these. -/
def FansOut (topic : Topic) (channel : Channel) (payload : Payload) (before : Connections)
    (report : FanOutReport) (after : Connections) : Prop :=
  ∀ order : List ConnRef, order.Perm (topic.registry.membersOf channel) →
    ∃ visited, visitEach payload order before = (visited, report, after) ∧
      FanOutEffect topic channel payload before visited report after

/-- The channels of a topic name different connections, under known channels only, that have the room
and the policy of the topic. -/
structure Topic.Serves (topic : Topic) (conns : Connections) : Prop where
  once : ∀ channel, (topic.registry.membersOf channel).Nodup
  known : ∀ channel, ∀ ref ∈ topic.registry.membersOf channel, topic.isKnown channel = true
  equips : ∀ channel, ∀ ref ∈ topic.registry.membersOf channel, ∀ conn,
    conns[ref]? = some conn → topic.Equips conn

namespace Topic.Serves

variable {topic : Topic} {conns : Connections} {channel : Channel}

theorem fanOutEffect (serves : topic.Serves conns) (payload : Payload) {order : List ConnRef}
    (members : order.Perm (topic.registry.membersOf channel)) :
    FanOutEffect topic channel payload conns (order.filter conns.isOpenAt)
      (sendEach payload (order.filter conns.isOpenAt) conns).1
      (sendEach payload (order.filter conns.isOpenAt) conns).2 := by
  have once := (members.nodup_iff.2 (serves.once channel)).filter conns.isOpenAt
  have listed {ref : ConnRef} (member : ref ∈ order.filter conns.isOpenAt) :
      ref ∈ topic.registry.membersOf channel := members.mem_iff.1 (List.mem_filter.1 member).1
  refine ⟨fun ref => ?_, once, fun unknown => ?_, fun ref member => ?_, fun ref missed => ?_,
    fst_sendEach once _, ?_⟩
  · rw [List.mem_filter, members.mem_iff, isOpenAt_iff]
  · rw [List.eq_nil_iff_forall_not_mem]
    intro ref member
    cases unknown.symm.trans (serves.known channel ref (listed member))
  · obtain ⟨conn, present, opened⟩ := isOpenAt_iff.1 (List.mem_filter.1 member).2
    refine ⟨conn, (conn.trySend payload).2, present, ?_, ?_⟩
    · rw [snd_sendEach, getElem?_updateEach_of_mem once member, present, Option.map_some]
    · rw [answer, present, Option.map_some, Option.getD_some]
      exact (serves.equips channel ref (listed member) conn present).takes opened payload
  · rw [snd_sendEach, getElem?_updateEach_of_not_mem missed]
  · rw [fst_sendEach once, FanOutReport.total_ofOutcomes, List.length_map]

/-- A broadcast offers its payload to the open members of its channel, and counts it. -/
theorem fansOut (serves : topic.Serves conns) (channel : Channel) (payload : Payload) :
    ∃ report after,
      topic.broadcast conns channel payload = (report, topic.relayed payload report, after) ∧
        FansOut topic channel payload conns report after := by
  have distinct := serves.once channel
  refine ⟨_, _, rfl, fun order members => ?_⟩
  have same : sendEach payload (order.filter conns.isOpenAt) conns =
      sendEach payload (topic.registry.openMembers conns channel) conns :=
    sendEach_perm ((members.nodup_iff.2 distinct).filter _) (members.filter conns.isOpenAt) conns
  refine ⟨order.filter conns.isOpenAt,
    (visitEach_eq (members.nodup_iff.2 distinct) conns).trans ?_, ?_⟩
  · rw [same]
  · rw [← same]
    exact serves.fanOutEffect payload members

end Topic.Serves

end LiveRelay
