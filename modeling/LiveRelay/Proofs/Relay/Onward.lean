/-
Module: LiveRelay.Proofs.Relay.Onward
Purpose: Whatever happens to a relay, its hub goes on: things happen to the hub and sources are counted
  on its topics, and nothing else.
Main exports: Relay.onward_count, Relay.onward_serve, Relay.onward_step, Relay.onward_run
-/
import LiveRelay.Proofs.Hub.Numbered
import LiveRelay.Proofs.Relay.Course

namespace LiveRelay.Relay

open Net

variable {relay after : Relay} {c : Nat} {task : Task}

/-- Only sources are counted on a topic. -/
theorem onward_count {f : TopicStats → TopicStats}
    (sources : ∀ topic : Topic, { topic with stats := f topic.stats }.unfed = topic.unfed)
    (relay : Relay) (t : Nat) : relay.hub.Onward (relay.count t f).hub := by
  have whole : (relay.count t f).hub =
      (relay.hub.onTopic t fun topic conns => ((), { topic with stats := f topic.stats }, conns)).2 :=
    rfl
  rw [whole]
  cases here : relay.hub.topics[t]? with
  | none =>
      rw [Hub.onTopic_of_none here]
      exact .still
  | some topic =>
      refine .counts .still ?_ (Hub.connections_onTopic here)
      rw [Hub.topics_onTopic here]
      exact map_set_of_eq here (sources topic)

theorem onward_endRequest (relay : Relay) (p : Nat) (request : PushRequest) (ending : IngestEnd) :
    relay.hub.Onward (relay.endRequest p request ending).hub :=
  onward_count (fun _ => rfl) (relay.setRequest p _) request.topic

theorem onward_expire (relay : Relay) (places : List Nat) :
    relay.hub.Onward (relay.expire places).hub := by
  induction places generalizing relay with
  | nil => exact .still
  | cons p others ih =>
      rw [expire]
      split
      · exact ih relay
      · split
        · exact (onward_endRequest relay p _ _).trans (ih _)
        · exact ih relay

theorem onward_open (relay : Relay) (l : Nat) (peer : SocketAddress) (head : RequestHead) :
    relay.hub.Onward (relay.open l peer head).2.hub := by
  unfold «open»
  split
  · exact .still
  split
  · exact .still
  split
  · exact .still
  unfold startSession
  split
  · exact .still
  · exact onward_count (fun _ => rfl) _ _

theorem onward_serve (relay : Relay) (p : Nat) (event : BodyEvent) :
    relay.hub.Onward (relay.serve p event).2.hub := by
  unfold serve
  split
  · exact .still
  next request _ =>
  split
  · exact .still
  cases event with
  | ended => exact onward_endRequest relay p request _
  | broken => exact onward_endRequest relay p request _
  | frame data =>
      dsimp only
      split
      · exact .still
      split
      · have fanned := Hub.Onward.event relay.hub
          (.broadcast request.topic request.session.channel data)
        split <;> next answered => rwa [answered] at fanned
      · exact .still

theorem onward_turned (turned : Turned relay c task after) : relay.hub.Onward after.hub := by
  cases turned with
  | attached => exact .event _ _
  | ended => exact (Hub.Onward.event _ (.dropQueues _)).happens (.detach _ _)
  | heard => exact .still
  | alive => exact .event _ _
  | pinged => exact .event _ _
  | wrote => exact .event _ _

/-- At every event the hub of a relay goes on. -/
theorem onward_step (relay : Relay) (event : Event) : relay.hub.Onward (relay.step event).hub := by
  cases event with
  | «open» l peer head => exact onward_open relay l peer head
  | body p event => exact onward_serve relay p event
  | connect t peer handshake =>
      change relay.hub.Onward (relay.connect t peer handshake).2.hub
      unfold connect
      split
      · exact .still
      split
      · exact .still
      split <;> exact .still
  | arrive c inbound =>
      change relay.hub.Onward (relay.arrive c inbound).hub
      unfold arrive
      split
      · exact .still
      split <;> exact .still
  | turn c task =>
      change relay.hub.Onward ((relay.turn? c task).getD relay).hub
      cases turn : relay.turn? c task with
      | none => exact .still
      | some after => exact onward_turned (turned_of_turn turn)
  | terminate c =>
      change relay.hub.Onward (relay.terminate c).hub
      unfold terminate
      split
      · exact .still
      · exact .event _ _
  | terminateAll t =>
      rw [step_terminateAll]
      exact .event _ _
  | advance span =>
      have moved : relay.hub.Onward (relay.withHub (relay.hub.step (.advance span)).2).hub :=
        .event _ _
      exact moved.trans (onward_expire _ _)
  | stopListening => exact .counts .still rfl rfl

/-- So it does in every run. -/
theorem onward_run (relay : Relay) (events : List Event) :
    relay.hub.Onward (relay.run events).hub := by
  induction events generalizing relay with
  | nil => exact .still
  | cons event others ih => exact (onward_step relay event).trans (ih _)

end LiveRelay.Relay
