/-
Module: LiveRelay.Proofs.Isolation
Purpose: Connections do not interfere: in two runs in which the same things happen to a connection,
  it comes out the same and its reader is told the same, whatever happens to others.
Main exports: Connection.renumber, Connection.replies, Hub.repliesTo, Life.isolated
-/
import LiveRelay.Proofs.Hub.Life

namespace LiveRelay

open Net Hub

namespace Connection

/-! ### The number of a connection means nothing to it -/

/-- The connection under another number. -/
def renumber (conn : Connection) (id : ConnId) : Connection := { conn with id := id }

variable (conn : Connection) (id : ConnId)

@[simp] theorem renumber_state : (conn.renumber id).state = conn.state := rfl

@[simp] theorem renumber_overflow : (conn.renumber id).overflow = conn.overflow := rfl

@[simp] theorem renumber_queues : (conn.renumber id).queues = conn.queues := rfl

@[simp] theorem renumber_alive : (conn.renumber id).alive = conn.alive := rfl

@[simp] theorem renumber_terminated : (conn.renumber id).terminated = conn.terminated := rfl

theorem terminate_renumber : (conn.renumber id).terminate = conn.terminate.renumber id := by
  rw [terminate, terminate, renumber_terminated]
  split <;> rfl

theorem overflowed_renumber : (conn.renumber id).overflowed = conn.overflowed.renumber id := by
  rw [overflowed, overflowed, renumber_overflow]
  split
  · rfl
  · exact terminate_renumber { conn with dropped := conn.dropped + 1 } id

theorem trySend_renumber (payload : Payload) :
    ((conn.renumber id).trySend payload).2 = (conn.trySend payload).2.renumber id := by
  rcases trySend_cases conn payload with
    ⟨shut, outcome⟩ | ⟨opened, gone, outcome⟩ | ⟨queues, opened, present, room, outcome⟩ |
      ⟨queues, opened, present, full, outcome⟩
  · have renumbered : (conn.renumber id).trySend payload = _ := trySend_of_not_open shut
    rw [outcome, renumbered]
  · have renumbered : (conn.renumber id).trySend payload = _ := trySend_of_unattended opened gone
    rw [outcome, renumbered]
  · have renumbered : (conn.renumber id).trySend payload = _ :=
      trySend_of_room opened present room
    rw [outcome, renumbered]
    rfl
  · have renumbered : (conn.renumber id).trySend payload = _ :=
      trySend_of_full opened present full
    rw [outcome, renumbered]
    exact overflowed_renumber conn id

theorem ping_renumber : (conn.renumber id).ping.2 = conn.ping.2.renumber id := by
  rw [ping, ping, renumber_queues]
  split <;> rfl

theorem probe_renumber : (conn.renumber id).probe.2 = conn.probe.2.renumber id := by
  rw [snd_probe, snd_probe, renumber_terminated, renumber_alive]
  split
  · rfl
  · split
    · exact ping_renumber conn.takeAlive.2 id
    · exact terminate_renumber conn.takeAlive.2 id

theorem receive_renumber :
    (conn.renumber id).receive = (conn.receive.1, conn.receive.2.renumber id) := by
  rw [receive, receive, renumber_queues]
  split <;> rfl

theorem receiveControl_renumber :
    (conn.renumber id).receiveControl =
      (conn.receiveControl.1, conn.receiveControl.2.renumber id) := by
  rw [receiveControl, receiveControl, renumber_queues]
  split <;> rfl

theorem undergo_renumber (subscribed : Bool) (concern : Concern) :
    (conn.renumber id).undergo subscribed concern =
      (conn.undergo subscribed concern).renumber id := by
  cases concern with
  | detach => rfl
  | broadcast payload =>
      rw [undergo, undergo]
      split
      · exact trySend_renumber conn id payload
      · rfl
  | probe =>
      rw [undergo, undergo, renumber_state]
      split
      · rfl
      · exact probe_renumber conn id
  | terminateAll =>
      rw [undergo, undergo, renumber_state]
      split
      · rfl
      · exact terminate_renumber conn id
  | terminate => exact terminate_renumber conn id
  | markAlive => rfl
  | receive => exact congrArg Prod.snd (receive_renumber conn id)
  | receiveControl => exact congrArg Prod.snd (receiveControl_renumber conn id)
  | dropQueues => rfl

theorem foldl_renumber (subscribed : Bool) (concerns : List Concern) :
    concerns.foldl (undergo subscribed) (conn.renumber id) =
      (concerns.foldl (undergo subscribed) conn).renumber id := by
  induction concerns generalizing conn with
  | nil => rfl
  | cons concern others ih => rw [List.foldl_cons, undergo_renumber, ih, List.foldl_cons]

/-! ### What the reader of a connection is told -/

/-- The answer to a concern that comes from the reader. -/
def reply? (conn : Connection) : Concern → Option Hub.Outcome
  | .receive => some (.received conn.receive.1)
  | .receiveControl => some (.requested conn.receiveControl.1)
  | _ => none

/-- The answers to the reader while a connection undergoes some concerns. -/
def replies (subscribed : Bool) (conn : Connection) : List Concern → List Hub.Outcome
  | [] => []
  | concern :: others =>
    (conn.reply? concern).toList ++ (conn.undergo subscribed concern).replies subscribed others

theorem replies_renumber (subscribed : Bool) (concerns : List Concern) :
    (conn.renumber id).replies subscribed concerns = conn.replies subscribed concerns := by
  induction concerns generalizing conn with
  | nil => rfl
  | cons concern others ih =>
      have same : (conn.renumber id).reply? concern = conn.reply? concern := by
        cases concern with
        | receive => rw [reply?, reply?, receive_renumber]
        | receiveControl => rw [reply?, reply?, receiveControl_renumber]
        | _ => rfl
      rw [replies, replies, same, undergo_renumber, ih]

theorem replies_append (subscribed : Bool) (one two : List Concern) :
    conn.replies subscribed (one ++ two) =
      conn.replies subscribed one ++
        (one.foldl (undergo subscribed) conn).replies subscribed two := by
  induction one generalizing conn with
  | nil => rfl
  | cons concern others ih =>
      rw [List.cons_append, replies, ih, replies, List.foldl_cons, List.append_assoc]

theorem replies_eq_nil (subscribed : Bool) (concerns : List Concern)
    (unread : Concern.receive ∉ concerns ∧ Concern.receiveControl ∉ concerns) :
    conn.replies subscribed concerns = [] := by
  induction concerns generalizing conn with
  | nil => rfl
  | cons concern others ih =>
      have none : conn.reply? concern = none := by
        cases concern with
        | receive => simp at unread
        | receiveControl => simp at unread
        | _ => rfl
      rw [replies, none, ih _ ⟨fun member => unread.1 (List.mem_cons_of_mem _ member),
        fun member => unread.2 (List.mem_cons_of_mem _ member)⟩]
      rfl

end Connection

namespace Hub

variable {homes : List Attachment} {hub : Hub} {ref : ConnRef} {home : Attachment}
  {conn : Connection} {events : List Event}

/-- The answer of an event to the reader of a connection. -/
def reply? (ref : ConnRef) : Event × Outcome → Option Outcome
  | (.receive other, outcome) | (.receiveControl other, outcome) =>
    if other = ref then some outcome else none
  | _ => none

/-- All answers of a run to the reader of a connection. -/
def repliesTo (hub : Hub) (ref : ConnRef) (events : List Event) : List Outcome :=
  (events.zip (hub.run events).1).filterMap (reply? ref)

theorem repliesTo_cons (hub : Hub) (ref : ConnRef) (event : Event) (events : List Event) :
    hub.repliesTo ref (event :: events) =
      (reply? ref (event, (hub.step event).1)).toList ++
        (hub.step event).2.repliesTo ref events := by
  rw [repliesTo, run_cons, List.zip_cons_cons, List.filterMap_cons]
  cases reply? ref (event, (hub.step event).1) <;> rfl

/-- What an event answers to the reader of a connection depends on the connection alone. -/
theorem Holds.reply_step (holds : Holds homes hub ref home conn) (event : Event) :
    (reply? ref (event, (hub.step event).1)).toList =
      conn.replies (hub.subscribes home) (hub.concernsOf home ref event) := by
  have unread := conn.replies_eq_nil (hub.subscribes home)
  cases event with
  | receive other =>
      by_cases same : other = ref
      · subst same
        rw [outcome_receive, holds.present]
        simp [reply?, concernsOf, Concern.ofEvent?, Connection.replies, Connection.reply?]
      · simp [reply?, concernsOf, Concern.ofEvent?, same, Connection.replies]
  | receiveControl other =>
      by_cases same : other = ref
      · subst same
        rw [outcome_receiveControl, holds.present]
        simp [reply?, concernsOf, Concern.ofEvent?, Connection.replies, Connection.reply?]
      · simp [reply?, concernsOf, Concern.ofEvent?, same, Connection.replies]
  | _ =>
      rw [unread]
      · rfl
      · grind [concernsOf, Concern.ofEvent?]

theorem Holds.replies_run (holds : Holds homes hub ref home conn) (sound : Sound homes hub)
    (orderly : Orderly (homes ++ hub.attachments events) events) :
    hub.repliesTo ref events =
      conn.replies (hub.subscribes home) (hub.concerns home ref events) := by
  induction events generalizing homes hub conn with
  | nil => rfl
  | cons event others ih =>
      have next := holds.step sound event (orderly.detached holds.found)
      rw [repliesTo_cons, holds.reply_step, ih next (sound.next orderly) orderly.tail,
        subscribes_step, concerns, Connection.replies_append]

end Hub

namespace Life

variable {hub : Hub}

/-- All answers to the reader of the connection. -/
def replies (hub : Hub) (life : Life) : List Hub.Outcome :=
  (life.begun hub).repliesTo (life.ref hub) life.after

/-- In two runs in which a connection is attached in the same way and the same things happen to it
from then on, it comes out the same but for its number, and its reader is told the same: what
happens to other connections, on other channels and on other topics makes no difference to it. -/
theorem isolated (fresh : hub.Fresh) {one two : Life} (alike : one.home = two.home)
    (placed : one.home.topic < hub.topics.length)
    (orderlyOne : Orderly (hub.attachments one.events) one.events)
    (orderlyTwo : Orderly (hub.attachments two.events) two.events)
    (same : one.concerns hub = two.concerns hub) :
    ∃ conn other, (one.ended hub).connections[one.ref hub]? = some conn ∧
      (two.ended hub).connections[two.ref hub]? = some other ∧
      { conn with id := other.id } = other ∧ one.replies hub = two.replies hub := by
  obtain ⟨topic, id, here, soundOne, holdsOne⟩ := begins fresh orderlyOne placed
  obtain ⟨_, number, there, soundTwo, holdsTwo⟩ := begins fresh orderlyTwo (alike ▸ placed)
  rw [← alike] at there
  obtain rfl := Option.some.inj (here.symm.trans there)
  -- The two connections begin alike but for their numbers.
  have born : two.newborn topic number = (one.newborn topic id).renumber number := by
    rw [newborn, newborn, alike]
    rfl
  rw [born] at holdsTwo
  have endTwo := ends soundTwo holdsTwo orderlyTwo
  rw [← same, ← alike, Connection.foldl_renumber] at endTwo
  refine ⟨_, _, ends soundOne holdsOne orderlyOne, endTwo, ?_, ?_⟩
  · rfl
  · have repliesTwo := holdsTwo.replies_run soundTwo (orderly_after orderlyTwo)
    have concerns : (two.begun hub).concerns two.home (two.ref hub) two.after =
        one.concerns hub := same.symm
    rw [concerns, Connection.replies_renumber, begun, subscribes_run, ← alike] at repliesTwo
    have repliesOne := holdsOne.replies_run soundOne (orderly_after orderlyOne)
    rw [begun, subscribes_run] at repliesOne
    exact repliesOne.trans repliesTwo.symm

/-- A connection next to a full one of its channel, with traffic on another channel and another
topic. -/
def crowded : Life where
  before := [.attach 0 default (some "a"), .broadcast 0 "a" [7], .broadcast 0 "a" [8]]
  home := ⟨0, default, some "a"⟩
  after := [.broadcast 0 "a" [1], .broadcast 0 "b" [5], .attach 1 default (some "a"), .probe 0,
    .terminate 0, .broadcast 1 "a" [6], .receive 1, .detach 0 0, .receiveControl 1, .probe 1,
    .broadcast 0 "a" [2], .terminateAll 1, .probe 0]

/-- The same connection by itself. -/
def alone : Life where
  before := []
  home := ⟨0, default, some "a"⟩
  after := [.broadcast 0 "a" [1], .probe 0, .receive 0, .receiveControl 0, .broadcast 0 "a" [2],
    .probe 0]

theorem isolated_in_a_crowd :
    (Hub.new .twoTopics).Fresh ∧ crowded.home = alone.home ∧
      crowded.home.topic < (Hub.new .twoTopics).topics.length ∧
      Orderly ((Hub.new .twoTopics).attachments crowded.events) crowded.events ∧
      Orderly ((Hub.new .twoTopics).attachments alone.events) alone.events ∧
      crowded.concerns (Hub.new .twoTopics) = alone.concerns (Hub.new .twoTopics) ∧
      ∃ conn other,
        (crowded.ended (Hub.new .twoTopics)).connections[1]? = some conn ∧
        (alone.ended (Hub.new .twoTopics)).connections[0]? = some other ∧
        { conn with id := other.id } = other ∧
        crowded.replies (Hub.new .twoTopics) = alone.replies (Hub.new .twoTopics) := by
  have fresh := fresh_new .twoTopics
  have alike : crowded.home = alone.home := rfl
  have placed : crowded.home.topic < (Hub.new .twoTopics).topics.length := by decide
  have orderlyOne :
      Orderly ((Hub.new .twoTopics).attachments crowded.events) crowded.events := by
    decide
  have orderlyTwo : Orderly ((Hub.new .twoTopics).attachments alone.events) alone.events := by
    decide
  have same : crowded.concerns (Hub.new .twoTopics) = alone.concerns (Hub.new .twoTopics) := by
    decide +kernel
  exact ⟨fresh, alike, placed, orderlyOne, orderlyTwo, same,
    isolated fresh alike placed orderlyOne orderlyTwo same⟩

end Life

end LiveRelay
