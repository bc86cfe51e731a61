/-
Module: LiveRelay.Proofs.Gapless
Purpose: Where a topic disconnects a connection that overflows, a connection never misses a payload
  in between: what is queued for it is the beginning of what is broadcast on its channel, and the
  first payload that it misses is the last that is offered to it.
Main exports: Connection.Strict, Hub.Deaf, Hub.Resident.queuedOn_prefix, Life.gapless
-/
import LiveRelay.Proofs.Connection.Signs
import LiveRelay.Proofs.Hub.Queued

namespace LiveRelay

open Net

/-- Two topics that disconnect connections for which more than two payloads wait. -/
def RelayConfig.strictTopics : RelayConfig :=
  { RelayConfig.twoTopics with overflow := .disconnect }

/-! ### One connection -/

namespace Connection

variable {conn : Connection}

/-- A connection that is disconnected when it overflows: it is not open once it is terminated, and
if anything was dropped, it was one payload, and the connection was terminated for it. -/
structure Strict (conn : Connection) : Prop where
  policy : conn.overflow = .disconnect
  shut : conn.terminated = true → conn.state ≠ .open
  dropped : conn.dropped = 0 ∨ conn.dropped = 1 ∧ conn.terminated = true

theorem terminate_not_open (shut : conn.terminated = true → conn.state ≠ .open) :
    conn.terminate.state ≠ .open := by
  unfold terminate
  split
  · next terminated => exact shut terminated
  · exact ConnState.closeBegun_ne_open _

namespace Strict

theorem terminate (strict : conn.Strict) : conn.terminate.Strict where
  policy := by
    unfold Connection.terminate
    split <;> exact strict.policy
  shut := fun _ => terminate_not_open strict.shut
  dropped := by
    have same : conn.terminate.dropped = conn.dropped := congrArg Prod.snd conn.tally_terminate
    rw [same]
    exact strict.dropped.imp_right fun ⟨once, _⟩ => ⟨once, terminated_terminate conn⟩

theorem trySend (strict : conn.Strict) (payload : Payload) : (conn.trySend payload).2.Strict := by
  rcases conn.trySend_cases payload with
    ⟨_, outcome⟩ | ⟨_, _, outcome⟩ | ⟨queues, _, _, _, outcome⟩ | ⟨queues, opened, _, _, outcome⟩
  all_goals rw [outcome]
  · exact strict
  · exact strict
  · exact ⟨strict.policy, strict.shut, strict.dropped⟩
  · -- An open connection is not terminated yet, so nothing was dropped before.
    have running : conn.terminated = false := Bool.eq_false_iff.2 fun already =>
      strict.shut already opened
    have untouched : conn.dropped = 0 := strict.dropped.resolve_right fun ended =>
      strict.shut ended.2 opened
    have ends : conn.overflowed =
        { conn with dropped := conn.dropped + 1, terminated := true }.beginClose := by
      rw [overflowed, strict.policy]
      exact if_neg (Bool.eq_false_iff.1 running)
    rw [ends]
    exact ⟨strict.policy, fun _ => ConnState.closeBegun_ne_open _,
      .inr ⟨(congrArg (· + 1) untouched).trans (UInt64.zero_add 1), rfl⟩⟩

end Strict

end Connection

namespace Hub

open Connection

variable {homes : List Attachment} {hub : Hub} {ref : ConnRef} {home : Attachment}
  {conn : Connection} {event : Event} {t : Nat} {channel : Channel}

/-- No event changes that a connection is disconnected when it overflows. -/
theorem Event.strict_effect (event : Event) (conn : Connection) (strict : conn.Strict) :
    (event.effect conn).Strict := by
  have requeued (queues : Option Queues) (alive : Bool) :
      Strict { conn with queues := queues, alive := alive } :=
    ⟨strict.policy, strict.shut, strict.dropped⟩
  have probed : conn.probe.2.Strict := by
    rw [snd_probe]
    split
    · exact strict
    · split
      · obtain ⟨queues, same⟩ := conn.takeAlive.2.snd_ping
        rw [same]
        exact requeued queues false
      · exact (requeued conn.queues false).terminate
  cases event with
  | attach | spawnMonitor => exact strict
  | detach t ref => exact ⟨strict.policy, fun _ => nofun, strict.dropped⟩
  | broadcast t channel payload => exact strict.trySend payload
  | probe | advance => exact probed
  | terminateAll | terminate => exact strict.terminate
  | markAlive => exact requeued conn.queues true
  | receive =>
      obtain ⟨queues, same⟩ := conn.snd_receive
      change conn.receive.2.Strict
      rw [same]
      exact requeued queues conn.alive
  | receiveControl =>
      obtain ⟨queues, same⟩ := conn.snd_receiveControl
      change conn.receiveControl.2.Strict
      rw [same]
      exact requeued queues conn.alive
  | dropQueues => exact requeued none conn.alive

/-- A connection that is not open is never opened again. -/
theorem Event.shut_effect (event : Event) (conn : Connection) (shut : conn.state ≠ .open) :
    (event.effect conn).state ≠ .open := by
  have terminated : conn.terminate.state ≠ .open := terminate_not_open fun _ => shut
  have probed : conn.probe.2.state ≠ .open := by
    rw [snd_probe]
    split
    · exact shut
    · split
      · obtain ⟨queues, same⟩ := conn.takeAlive.2.snd_ping
        rw [same]
        exact shut
      · exact terminate_not_open fun _ => shut
  cases event with
  | attach | spawnMonitor | markAlive | dropQueues => exact shut
  | detach => nofun
  | broadcast t channel payload =>
      change (conn.trySend payload).2.state ≠ .open
      rw [trySend_of_not_open shut]
      exact shut
  | probe | advance => exact probed
  | terminateAll | terminate => exact terminated
  | receive =>
      obtain ⟨queues, same⟩ := conn.snd_receive
      change conn.receive.2.state ≠ .open
      rw [same]
      exact shut
  | receiveControl =>
      obtain ⟨queues, same⟩ := conn.snd_receiveControl
      change conn.receiveControl.2.state ≠ .open
      rw [same]
      exact shut

/-! ### Connections that take nothing any more -/

/-- A connection that nothing on a channel of a topic is queued for: it is not registered under the
channel, or it is not open, or its queue is gone. -/
def Deaf (hub : Hub) (t : Nat) (channel : Channel) (ref : ConnRef) (conn : Connection) : Prop :=
  ref ∉ hub.listedBy t channel ∨ conn.state ≠ .open ∨ conn.outbound? = none

/-- A connection that is there is never registered anew. -/
theorem mem_listedBy_of_step (present : ref < hub.connections.length) (event : Event)
    (listed : ref ∈ (hub.step event).2.listedBy t channel) : ref ∈ hub.listedBy t channel := by
  refine mem_named_of_step (fun _ => rfl) (fun topic asked place => ?_) (fun topic id asked => ?_)
    present event listed
  · intro other member
    obtain ⟨id, entered⟩ := Registry.mem_membersOf.1 member
    rcases Topic.mem_members_join.1 entered with ⟨_, _, _, rfl⟩ | ⟨before, _⟩
    · exact List.mem_append_right _ (List.mem_singleton_self _)
    · exact List.mem_append_left _ (Registry.mem_membersOf.2 ⟨id, before⟩)
  · intro other member
    obtain ⟨number, entered⟩ := Registry.mem_membersOf.1 member
    exact Registry.mem_membersOf.2 ⟨number, (Topic.mem_members_release.1 entered).1⟩

/-- A connection that takes nothing any more never takes anything again. -/
theorem Deaf.step (deaf : hub.Deaf t channel ref conn) (present : hub.connections[ref]? = some conn)
    (event : Event) :
    ∃ later, (hub.step event).2.connections[ref]? = some later ∧
      (hub.step event).2.Deaf t channel ref later := by
  refine ⟨_, getElem?_step present event, ?_⟩
  rcases deaf with unlisted | shut | gone
  · exact .inl fun listed =>
      unlisted (mem_listedBy_of_step (List.getElem?_eq_some_iff.1 present).1 event listed)
  · exact .inr (.inl (Function.Iterate.rec (fun conn : Connection => conn.state ≠ .open) shut
      event.shut_effect _))
  · exact .inr (.inr (Function.Iterate.rec (fun conn : Connection => conn.outbound? = none) gone
      (fun _ => Event.effect_of_gone) _))

namespace Resident

/-- A broadcast reaches a connection only on its own topic and on the channel that it asked for,
while it is registered there and open. -/
theorem of_mem_reached (resident : Resident homes hub ref home)
    (present : hub.connections[ref]? = some conn) {s : Nat} {other : Channel} {payload : Payload}
    (member : ref ∈ hub.reached (.broadcast s other payload)) :
    home.topic = s ∧ home.channel = some other ∧ ref ∈ hub.listedBy s other ∧
      conn.state = .open := by
  obtain ⟨listed, opened⟩ := List.mem_filter.1 member
  obtain ⟨own, asked, _⟩ := resident.tidy.home_of_mem_listedBy resident.found listed
  refine ⟨own, asked, listed, ?_⟩
  rw [isOpen, present] at opened
  exact of_decide_eq_true opened

/-- What is queued for a connection was broadcast on its topic and its channel. -/
theorem of_queued? (resident : Resident homes hub ref home) (asked : home.channel = some channel)
    {payload : Payload} (queued : hub.queued? ref event = some payload) :
    event = .broadcast home.topic channel payload := by
  obtain ⟨conn, present⟩ := resident.present
  cases event with
  | broadcast s other data =>
      rw [queued?, Option.ite_none_right_eq_some] at queued
      obtain ⟨⟨member, _⟩, same⟩ := queued
      obtain ⟨rfl, there, _⟩ := resident.of_mem_reached present member
      obtain rfl := Option.some.inj (asked.symm.trans there)
      rw [Option.some.inj same]
  | _ => cases queued

/-- Nothing is queued for a connection that takes nothing any more. -/
theorem queued?_of_deaf (resident : Resident homes hub ref home)
    (asked : home.channel = some channel) (present : hub.connections[ref]? = some conn)
    (deaf : hub.Deaf home.topic channel ref conn) : hub.queued? ref event = none := by
  cases queued : hub.queued? ref event with
  | none => rfl
  | some payload =>
      obtain rfl := resident.of_queued? asked queued
      rw [queued?, Option.ite_none_right_eq_some, present, Option.any_some] at queued
      obtain ⟨⟨member, taken⟩, _⟩ := queued
      obtain ⟨_, _, listed, opened⟩ := resident.of_mem_reached present member
      rcases deaf with unlisted | shut | gone
      · exact absurd listed unlisted
      · exact absurd opened shut
      · have unattended : conn.queues = none := Option.map_eq_none_iff.1 gone
        rw [trySend_of_unattended opened unattended] at taken
        cases taken

theorem queuedOn_of_deaf (resident : Resident homes hub ref home)
    (asked : home.channel = some channel) (present : hub.connections[ref]? = some conn)
    (deaf : hub.Deaf home.topic channel ref conn) (events : List Event) :
    hub.queuedOn ref events = [] := by
  induction events generalizing homes hub conn with
  | nil => rfl
  | cons event others ih =>
      obtain ⟨later, there, still⟩ := deaf.step present event
      rw [queuedOn, resident.queued?_of_deaf asked present deaf,
        ih (resident.step event) there still]
      rfl

/-- A payload that is broadcast for a connection is queued for it, or it takes nothing any more. -/
theorem queued_or_deaf (resident : Resident homes hub ref home)
    (present : hub.connections[ref]? = some conn) (strict : conn.Strict) (payload : Payload) :
    hub.queued? ref (.broadcast home.topic channel payload) = some payload ∨
      ∃ later, (hub.step (.broadcast home.topic channel payload)).2.connections[ref]? = some later ∧
        (hub.step (.broadcast home.topic channel payload)).2.Deaf home.topic channel ref later := by
  by_cases member : ref ∈ hub.reached (.broadcast home.topic channel payload)
  · have next := resident.tidy.broadcast_step present member
    rcases conn.trySend_cases payload with
      ⟨shut, outcome⟩ | ⟨_, gone, outcome⟩ | ⟨_, _, _, _, outcome⟩ | ⟨_, _, _, _, outcome⟩
    · refine .inr ⟨_, next, .inr (.inl ?_)⟩
      rw [outcome]
      exact shut
    · refine .inr ⟨_, next, .inr (.inr ?_)⟩
      rw [outcome]
      exact Option.map_eq_none_iff.2 gone
    · left
      rw [queued?, if_pos ⟨member, by simp [present, outcome]⟩]
    · -- What has no room for the payload is terminated for it.
      refine .inr ⟨_, next, .inr (.inl ?_)⟩
      rw [outcome, overflowed, strict.policy]
      exact terminate_not_open strict.shut
  · right
    have deaf : hub.Deaf home.topic channel ref conn := by
      by_cases listed : ref ∈ hub.listedBy home.topic channel
      · refine .inr (.inl fun opened => member (List.mem_filter.2 ⟨listed, ?_⟩))
        simp [isOpen, present, Connection.isOpen, opened]
      · exact .inl listed
    exact deaf.step present _

end Resident

/-! ### Runs -/

/-- The payloads that are broadcast on a channel of a topic. -/
def broadcastsOn (t : Nat) (channel : Channel) (events : List Event) : List Payload :=
  events.filterMap fun
    | .broadcast s other payload => if s = t ∧ other = channel then some payload else none
    | _ => none

theorem broadcastsOn_cons_data (payload : Payload) (events : List Event) :
    broadcastsOn t channel (.broadcast t channel payload :: events) =
      payload :: broadcastsOn t channel events := by
  simp [broadcastsOn]

theorem broadcastsOn_cons_other (others : ∀ payload, event ≠ .broadcast t channel payload)
    (events : List Event) : broadcastsOn t channel (event :: events) = broadcastsOn t channel events := by
  cases event with
  | broadcast s other payload =>
      have elsewhere : ¬ (s = t ∧ other = channel) := by
        rintro ⟨rfl, rfl⟩
        exact others payload rfl
      simp [broadcastsOn, elsewhere]
  | _ => rfl

theorem Deaf.run (deaf : hub.Deaf t channel ref conn) (present : hub.connections[ref]? = some conn)
    (events : List Event) :
    ∃ later, (hub.run events).2.connections[ref]? = some later ∧
      (hub.run events).2.Deaf t channel ref later := by
  induction events generalizing hub conn with
  | nil => exact ⟨conn, present, deaf⟩
  | cons event others ih =>
      obtain ⟨later, there, still⟩ := deaf.step present event
      exact ih still there

/-- What is broadcast on the channel of a connection is queued for it, up to some payload. If that
payload is not the last, the connection takes nothing any more. -/
theorem Resident.queuedOn_append_missed (resident : Resident homes hub ref home)
    (asked : home.channel = some channel) (present : hub.connections[ref]? = some conn)
    (strict : conn.Strict) (events : List Event) :
    ∃ missed later, (hub.run events).2.connections[ref]? = some later ∧
      broadcastsOn home.topic channel events = hub.queuedOn ref events ++ missed ∧
      (missed = [] ∨ (hub.run events).2.Deaf home.topic channel ref later) := by
  induction events generalizing homes hub conn with
  | nil => exact ⟨[], conn, present, rfl, .inl rfl⟩
  | cons event others ih =>
      have stricter := Function.Iterate.rec Connection.Strict strict event.strict_effect
        ((hub.reached event).count ref)
      obtain ⟨missed, last, ends, rest, quiet⟩ :=
        ih (resident.step event) (getElem?_step present event) stricter
      by_cases data : ∃ payload, event = .broadcast home.topic channel payload
      · obtain ⟨payload, rfl⟩ := data
        cases queued : hub.queued? ref (.broadcast home.topic channel payload) with
        | some other =>
            cases resident.of_queued? asked queued
            refine ⟨missed, last, ends, ?_, quiet⟩
            rw [broadcastsOn_cons_data, rest, queuedOn, queued]
            rfl
        | none =>
            obtain taken | ⟨later, there, deaf⟩ := resident.queued_or_deaf present strict payload
            · cases queued.symm.trans taken
            · refine ⟨broadcastsOn home.topic channel
                (.broadcast home.topic channel payload :: others), last, ends, ?_, .inr ?_⟩
              · rw [queuedOn, queued, (resident.step _).queuedOn_of_deaf asked there deaf]
                rfl
              · obtain ⟨final, found, still⟩ := deaf.run there others
                obtain rfl := Option.some.inj (ends.symm.trans found)
                exact still
      · have unqueued : hub.queued? ref event = none := by
          cases queued : hub.queued? ref event with
          | none => rfl
          | some payload => exact absurd ⟨payload, resident.of_queued? asked queued⟩ data
        have other : ∀ payload, event ≠ .broadcast home.topic channel payload :=
          not_exists.1 data
        refine ⟨missed, last, ends, ?_, quiet⟩
        rw [broadcastsOn_cons_other other, rest, queuedOn, unqueued]
        rfl

/-! ### Drops -/

/-- A connection counts a drop only at a broadcast on its topic and its channel. -/
theorem Resident.dropped_step (resident : Resident homes hub ref home)
    (asked : home.channel = some channel) (present : hub.connections[ref]? = some conn)
    {later : Connection} (next : (hub.step event).2.connections[ref]? = some later)
    (changed : later.dropped ≠ conn.dropped) :
    ∃ payload, event = .broadcast home.topic channel payload := by
  by_cases data : ∃ s other payload, event = .broadcast s other payload
  · obtain ⟨s, other, payload, rfl⟩ := data
    by_cases member : ref ∈ hub.reached (.broadcast s other payload)
    · obtain ⟨rfl, there, _⟩ := resident.of_mem_reached present member
      obtain rfl := Option.some.inj (asked.symm.trans there)
      exact ⟨payload, rfl⟩
    · rw [getElem?_step_of_not_mem present member] at next
      obtain rfl := Option.some.inj next
      exact absurd rfl changed
  · have noData : ∀ s other payload, event ≠ .broadcast s other payload := by simpa using data
    rw [getElem?_step present] at next
    obtain rfl := Option.some.inj next
    have same := iterate_same Connection.tally (Event.tally_effect noData)
      ((hub.reached event).count ref) conn
    exact absurd (congrArg Prod.snd same) changed

/-- Once it has counted a drop, a connection counts no other. -/
theorem Event.dropped_effect (event : Event) (conn : Connection)
    (ended : conn.Strict ∧ conn.dropped = 1) :
    (event.effect conn).Strict ∧ (event.effect conn).dropped = 1 := by
  obtain ⟨strict, once⟩ := ended
  refine ⟨event.strict_effect conn strict, ?_⟩
  by_cases data : ∃ s other payload, event = .broadcast s other payload
  · obtain ⟨s, other, payload, rfl⟩ := data
    obtain untouched | ⟨_, terminated⟩ := strict.dropped
    · cases untouched.symm.trans once
    · change (conn.trySend payload).2.dropped = 1
      rw [trySend_of_not_open (strict.shut terminated)]
      exact once
  · have noData : ∀ s other payload, event ≠ .broadcast s other payload := by simpa using data
    exact (congrArg Prod.snd (Event.tally_effect noData conn)).trans once

end Hub

namespace Life

open Hub

variable {hub : Hub} {life : Life} {topic : Topic} {channel : Channel}

/-- A connection that overflows, and whose reader then makes room again. -/
def drainedTooLate : Life where
  before := [.attach 0 default (some "a")]
  home := ⟨0, default, some "a"⟩
  after := [.broadcast 0 "a" [1], .broadcast 0 "b" [9], .broadcast 0 "a" [2], .receive 1,
    .broadcast 0 "a" [3], .broadcast 0 "a" [4], .receive 1, .broadcast 0 "a" [5]]

/-- On a topic that disconnects what overflows, the payloads ever queued for a connection are the
first of those that were broadcast on its channel since it was attached, and all of them as long as
it takes any. A connection drops at most one payload, at a broadcast on its channel. From then on it
is terminated and not open, no broadcast reaches it and nothing is queued for it: its reader is at
most handed what waited already. -/
theorem gapless (fresh : hub.Fresh) (here : hub.topics[life.home.topic]? = some topic)
    (strict : topic.overflow = .disconnect) (asked : life.home.channel = some channel) :
    ∃ conn, (life.ended hub).connections[life.ref hub]? = some conn ∧
      (life.begun hub).queuedOn (life.ref hub) life.after <+:
        broadcastsOn life.home.topic channel life.after ∧
      ((life.begun hub).queuedOn (life.ref hub) life.after =
          broadcastsOn life.home.topic channel life.after ∨
        (life.ended hub).Deaf life.home.topic channel (life.ref hub) conn) ∧
      (life.begun hub).receivedFrom (life.ref hub) life.after ++
          (life.begun hub).discardedFrom (life.ref hub) life.after ++ conn.waiting =
        (life.begun hub).queuedOn (life.ref hub) life.after ∧
      (conn.dropped = 0 ∨ conn.dropped = 1) ∧
      (∀ event later, ((life.ended hub).step event).2.connections[life.ref hub]? = some later →
        later.dropped ≠ conn.dropped →
          ∃ payload, event = .broadcast life.home.topic channel payload) ∧
      (conn.dropped = 1 → ∀ events, ∃ later,
        ((life.ended hub).run events).2.connections[life.ref hub]? = some later ∧
          later.dropped = 1 ∧ later.terminated = true ∧ later.state ≠ .open ∧
          (∀ t other payload, life.ref hub ∉
            ((life.ended hub).run events).2.reached (.broadcast t other payload)) ∧
          (life.ended hub).queuedOn (life.ref hub) events = [] ∧
          (life.ended hub).receivedFrom (life.ref hub) events ++
              (life.ended hub).discardedFrom (life.ref hub) events ++ later.waiting =
            conn.waiting) := by
  obtain ⟨resident, id, begins⟩ := born fresh here
  have begun : (life.newborn topic id).Strict := ⟨strict, nofun, .inl rfl⟩
  obtain ⟨conn, ends, stricter⟩ := kept_run Event.strict_effect begins begun life.after
  have settled := resident.run life.after
  obtain ⟨missed, final, present, whole, quiet⟩ :=
    resident.queuedOn_append_missed asked begins begun life.after
  obtain rfl := Option.some.inj (ends.symm.trans present)
  have account := resident.tidy.queuedOn_eq (life.ref hub) life.after
  have nothing : (life.begun hub).waiting (life.ref hub) = [] := by
    rw [waiting, begins]
    rfl
  rw [nothing, List.nil_append, waiting, ends, Option.elim_some] at account
  rw [← ended_eq] at ends settled quiet
  refine ⟨conn, ends, ?_, ?_, account, ?_, ?_, ?_⟩
  · rw [whole]
    exact List.prefix_append _ _
  · refine quiet.imp_left fun nothing => ?_
    rw [whole, nothing, List.append_nil]
  · exact stricter.dropped.imp_right And.left
  · intro event later next changed
    exact settled.dropped_step asked ends next changed
  · intro once events
    obtain ⟨later, there, still, again⟩ :=
      kept_run Event.dropped_effect ends ⟨stricter, once⟩ events
    obtain untouched | ⟨_, terminated⟩ := still.dropped
    · cases untouched.symm.trans again
    have shut := still.shut terminated
    have deaf : (life.ended hub).Deaf life.home.topic channel (life.ref hub) conn := by
      obtain untouched | ⟨_, terminated⟩ := stricter.dropped
      · cases untouched.symm.trans once
      · exact .inr (.inl (stricter.shut terminated))
    have unqueued := settled.queuedOn_of_deaf asked ends deaf events
    have rest := settled.tidy.queuedOn_eq (life.ref hub) events
    rw [unqueued, List.append_nil, waiting, waiting, there, ends, Option.elim_some,
      Option.elim_some] at rest
    refine ⟨later, there, again, terminated, shut, ?_, unqueued, rest⟩
    intro t other payload member
    exact shut ((settled.run events).of_mem_reached there member).2.2.2

/-- A connection with room for two payloads gets the first three of five: it was full at the fourth,
and the fifth comes too late although there is room again. -/
theorem gapless_of_drainedTooLate :
    (Hub.new .strictTopics).Fresh ∧
      (∃ topic, (Hub.new .strictTopics).topics[0]? = some topic ∧
        topic.overflow = .disconnect ∧ topic.isKnown "a" = true) ∧
      broadcastsOn 0 "a" drainedTooLate.after = [[1], [2], [3], [4], [5]] ∧
      (drainedTooLate.begun (Hub.new .strictTopics)).queuedOn 1 drainedTooLate.after <+:
        broadcastsOn 0 "a" drainedTooLate.after ∧
      (drainedTooLate.begun (Hub.new .strictTopics)).queuedOn 1 drainedTooLate.after =
        [[1], [2], [3]] ∧
      ∃ conn, (drainedTooLate.ended (Hub.new .strictTopics)).connections[1]? = some conn ∧
        conn.waiting.length < conn.capacity ∧ conn.dropped = 1 ∧ conn.terminated = true ∧
        conn.state ≠ .open := by
  have fresh := fresh_new .strictTopics
  obtain ⟨topic, here, strict, known⟩ : ∃ topic,
      (Hub.new .strictTopics).topics[drainedTooLate.home.topic]? = some topic ∧
        topic.overflow = .disconnect ∧ topic.isKnown "a" = true := ⟨_, rfl, rfl, by decide⟩
  have asked : drainedTooLate.home.channel = some "a" := rfl
  obtain ⟨conn, ends, first, _, _, _, _, stopped⟩ := gapless fresh here strict asked
  have drained : (drainedTooLate.ended (Hub.new .strictTopics)).connections[1]?.any (fun conn =>
      conn.waiting.length < conn.capacity ∧ conn.dropped = 1) = true := by decide +kernel
  have present : (drainedTooLate.ended (Hub.new .strictTopics)).connections[1]? = some conn := ends
  rw [present, Option.any_some, decide_eq_true_eq] at drained
  obtain ⟨later, there, _, terminated, shut, _⟩ := stopped drained.2 []
  obtain rfl := Option.some.inj (ends.symm.trans there)
  exact ⟨fresh, ⟨topic, here, strict, known⟩, by decide, first, by decide +kernel, conn, present,
    drained.1, drained.2, terminated, shut⟩

end Life

end LiveRelay
