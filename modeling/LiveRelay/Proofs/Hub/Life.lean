/-
Module: LiveRelay.Proofs.Hub.Life
Purpose: The life of one connection in a run: how it begins, and that from then on only what
  concerns the connection makes it what it is.
Main exports: Life, Life.events, Life.ref, Life.concerns, Life.exists_of_attached, Life.born,
  Life.begins, Life.ends
-/
import LiveRelay.Proofs.Hub.Tidy

namespace LiveRelay

open Net Hub

/-- A run around the attachment of one connection: what happens before it and after it. -/
structure Life where
  before : List Hub.Event
  home : Attachment
  after : List Hub.Event
deriving Repr, DecidableEq

namespace Life

/-- The event that attaches the connection. -/
def attach (life : Life) : Event := .attach life.home.topic life.home.peer life.home.channel

/-- The whole run. -/
def events (life : Life) : List Event := life.before ++ life.attach :: life.after

/-- The connection: the next one after those that were attached before. -/
def ref (hub : Hub) (life : Life) : ConnRef := (hub.attachments life.before).length

/-- The hub right after the connection was attached. -/
def begun (hub : Hub) (life : Life) : Hub := (hub.run (life.before ++ [life.attach])).2

/-- The hub at the end. -/
def ended (hub : Hub) (life : Life) : Hub := (hub.run life.events).2

/-- Everything that happens to the connection. -/
def concerns (hub : Hub) (life : Life) : List Concern :=
  (life.begun hub).concerns life.home (life.ref hub) life.after

/-- A connection as its topic makes it, under some number. -/
def newborn (life : Life) (topic : Topic) (id : ConnId) : Connection :=
  (Connection.new id life.home.peer life.home.channel topic.queueCapacity topic.overflow).markOpen

variable {hub : Hub} {life : Life} {events : List Event} {ref : ConnRef} {home : Attachment}

theorem events_eq (life : Life) : life.events = (life.before ++ [life.attach]) ++ life.after := by
  rw [events, List.append_assoc, List.singleton_append]

theorem run_events (hub : Hub) (life : Life) :
    hub.run life.events =
      ((hub.run (life.before ++ [life.attach])).1 ++ ((life.begun hub).run life.after).1,
        ((life.begun hub).run life.after).2) := by
  rw [events_eq, run_append]
  rfl

theorem ended_eq (hub : Hub) (life : Life) :
    life.ended hub = ((life.begun hub).run life.after).2 := by
  rw [ended, run_events]

/-- The attachments up to that of the connection. -/
theorem attachments_begun (placed : life.home.topic < hub.topics.length) :
    hub.attachments (life.before ++ [life.attach]) =
      hub.attachments life.before ++ [life.home] := by
  rw [attachments_append, attachments_cons, attach, attachment?, if_pos placed]
  rfl

/-- A connection that came about in a run has its life in it. -/
theorem exists_of_attached (found : (hub.attachments events)[ref]? = some home) :
    ∃ life : Life, life.events = events ∧ life.home = home ∧ life.ref hub = ref ∧
      home.topic < hub.topics.length := by
  induction events generalizing ref with
  | nil => cases found
  | cons event others ih =>
      rw [attachments_cons] at found
      cases attaches : hub.attachment? event with
      | none =>
          rw [attaches] at found
          obtain ⟨life, same, own, rfl, placed⟩ := ih found
          refine ⟨⟨event :: life.before, life.home, life.after⟩, ?_, own, ?_, placed⟩
          · rw [← same]
            rfl
          · rw [Life.ref, attachments_cons, attaches]
            rfl
      | some first =>
          rw [attaches, Option.toList_some, List.singleton_append] at found
          cases ref with
          | zero =>
              obtain rfl : first = home := Option.some.inj found
              cases event with
              | attach t peer channel =>
                  rw [attachment?, Option.ite_none_right_eq_some] at attaches
                  obtain ⟨placed, same⟩ := attaches
                  cases same
                  exact ⟨⟨[], ⟨t, peer, channel⟩, others⟩, rfl, rfl, rfl, placed⟩
              | _ => cases attaches
          | succ ref =>
              obtain ⟨life, same, own, rfl, placed⟩ := ih found
              refine ⟨⟨event :: life.before, life.home, life.after⟩, ?_, own, ?_, placed⟩
              · rw [← same]
                rfl
              · rw [Life.ref, attachments_cons, attaches, Option.toList_some,
                  List.singleton_append, List.length_cons]
                rfl

/-- A connection begins its life open, with empty queues, and with the options of its topic. Nothing
that happened before shows, except in its number. -/
theorem born (fresh : hub.Fresh) {topic : Topic}
    (here : hub.topics[life.home.topic]? = some topic) :
    Resident (hub.attachments (life.before ++ [life.attach])) (life.begun hub) (life.ref hub)
        life.home ∧
      ∃ id, (life.begun hub).connections[life.ref hub]? = some (life.newborn topic id) := by
  have placed := (List.getElem?_eq_some_iff.1 here).1
  have even := (fresh.tidy_run life.before).even
  have cleared : ((hub.run life.before).2.topics.map Topic.cleared)[life.home.topic]? =
      (hub.topics.map Topic.cleared)[life.home.topic]? := by rw [cleared_run]
  rw [List.getElem?_map, List.getElem?_map, here] at cleared
  obtain ⟨later, there, same⟩ := Option.map_eq_some_iff.1 cleared
  have options := Topic.options_of_cleared same
  have begun : life.begun hub = ((hub.run life.before).2.step life.attach).2 := by
    rw [Life.begun, run_append]
    rfl
  refine ⟨⟨fresh.tidy_run _, ?_⟩, later.nextId, ?_⟩
  · rw [attachments_begun placed, Life.ref, List.getElem?_concat_length]
  · rw [begun, attach, step_attach there, Life.ref, even, List.getElem?_concat_length,
      Topic.newConnection, options.1, options.2]
    rfl

/-- On a hub in order, the life of a connection begins in order. -/
theorem begins (fresh : hub.Fresh) (orderly : Orderly (hub.attachments life.events) life.events)
    (placed : life.home.topic < hub.topics.length) :
    ∃ topic id, hub.topics[life.home.topic]? = some topic ∧
      Sound (hub.attachments (life.before ++ [life.attach])) (life.begun hub) ∧
      Holds (hub.attachments (life.before ++ [life.attach])) (life.begun hub) (life.ref hub)
        life.home (life.newborn topic id) := by
  rw [events_eq] at orderly
  have here := List.getElem?_eq_getElem placed
  obtain ⟨resident, id, present⟩ := born fresh here
  exact ⟨_, id, here, fresh.sound_run orderly.of_append, resident.found, present⟩

/-- What follows its attachment is in order. -/
theorem orderly_after (orderly : Orderly (hub.attachments life.events) life.events) :
    Orderly (hub.attachments (life.before ++ [life.attach]) ++
      (life.begun hub).attachments life.after) life.after := by
  rw [events_eq] at orderly
  exact orderly.rest

/-- A connection ends its life as what happened to it makes it. -/
theorem ends {conn : Connection}
    (sound : Sound (hub.attachments (life.before ++ [life.attach])) (life.begun hub))
    (holds : Holds (hub.attachments (life.before ++ [life.attach])) (life.begun hub) (life.ref hub)
      life.home conn)
    (orderly : Orderly (hub.attachments life.events) life.events) :
    (life.ended hub).connections[life.ref hub]? =
      some ((life.concerns hub).foldl (Connection.undergo (hub.subscribes life.home)) conn) := by
  rw [ended_eq, holds.run sound (orderly_after orderly), begun, subscribes_run]
  rfl

end Life

end LiveRelay
