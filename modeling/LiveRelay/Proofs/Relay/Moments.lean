/-
Module: LiveRelay.Proofs.Relay.Moments
Purpose: A relay from one moment to the next. The clock may move without any source being looked
  after, so that what falls together with a deadline may come before it or after it.
Main exports: Relay.Moment, Relay.undergo, Relay.undergoAll, Relay.Grows.undergoAll,
  Relay.now_undergo
-/
import LiveRelay.Proofs.Hub.Watch
import LiveRelay.Proofs.Relay.Grows

namespace LiveRelay

open Net

namespace Relay

/-! ### Moments -/

/-- What can happen to a relay from one moment to the next: an event; something on its hub alone, so
that the clock may move while no source is looked after; or a look at some sources, which ends those
that are silent for too long by then. -/
inductive Moment where
  | event (event : Event)
  | hub (event : Hub.Event)
  | look (places : List Nat)
deriving Repr, DecidableEq

/-- The relay after a moment. -/
def undergo (relay : Relay) : Moment → Relay
  | .event event => relay.step event
  | .hub event => relay.withHub (relay.hub.step event).2
  | .look places => relay.expire places

/-- The relay after moments that follow one another. -/
def undergoAll (relay : Relay) (moments : List Moment) : Relay := moments.foldl undergo relay

/-- How far the clock moves. -/
def Moment.elapsed : Moment → Span
  | .event (.advance span) => span
  | .hub happening => happening.elapsed
  | _ => 0

variable {relay after : Relay} {t : Nat}

theorem undergoAll_cons (relay : Relay) (moment : Moment) (others : List Moment) :
    relay.undergoAll (moment :: others) = (relay.undergo moment).undergoAll others := rfl

theorem undergoAll_append (relay : Relay) (one two : List Moment) :
    relay.undergoAll (one ++ two) = (relay.undergoAll one).undergoAll two :=
  List.foldl_append

theorem undergoAll_concat (relay : Relay) (moments : List Moment) (moment : Moment) :
    relay.undergoAll (moments ++ [moment]) = (relay.undergoAll moments).undergo moment :=
  List.foldl_concat undergo relay moment moments

/-- A run consists of moments at which events happen. -/
theorem undergoAll_event (relay : Relay) (events : List Event) :
    relay.undergoAll (events.map .event) = relay.run events :=
  List.foldl_map

/-- Every moment leaves a later state of the relay. -/
theorem Grows.undergo (relay : Relay) (moment : Moment) : relay.Grows (relay.undergo moment) := by
  cases moment with
  | event event => exact step relay event
  | hub event => exact of_hub event
  | look places => exact of_counts (.expire relay places)

theorem Grows.undergoAll (relay : Relay) (moments : List Moment) :
    relay.Grows (relay.undergoAll moments) := by
  induction moments generalizing relay with
  | nil => exact refl relay
  | cons moment others ih => exact (undergo relay moment).trans (ih _)

/-! ### The clock -/

theorem now_count (f : TopicStats → TopicStats) : (relay.count t f).hub.now = relay.hub.now :=
  (Hub.now_onTopic _).1

theorem now_expire (places : List Nat) : (relay.expire places).hub.now = relay.hub.now := by
  induction places generalizing relay with
  | nil => rfl
  | cons p others ih =>
      rw [expire]
      split
      · exact ih
      · split
        · exact ih.trans (now_count _)
        · exact ih

theorem now_endSubscriber {c : Nat} {subscriber : Subscriber} {ref : ConnRef}
    {reason : CloseReason} :
    (relay.endSubscriber c subscriber ref reason).hub.now = relay.hub.now :=
  (Hub.now_step _ _).trans (Hub.now_step relay.hub (.dropQueues ref))

theorem now_turned {c : Nat} {task : Task} (turned : Turned relay c task after) :
    after.hub.now = relay.hub.now := by
  cases turned with
  | attached => exact Hub.now_step relay.hub _
  | ended => exact now_endSubscriber
  | heard => rfl
  | alive => exact Hub.now_step relay.hub _
  | pinged => exact Hub.now_step relay.hub _
  | wrote => exact Hub.now_step relay.hub _

theorem now_step (event : Event) :
    (relay.step event).hub.now = relay.hub.now + (Moment.event event).elapsed := by
  cases event with
  | «open» l peer head =>
      change (relay.open l peer head).2.hub.now = relay.hub.now
      unfold «open»
      split
      · rfl
      split
      · rfl
      split
      · rfl
      unfold startSession
      split
      · rfl
      · exact now_count _
  | body p event =>
      change (relay.serve p event).2.hub.now = relay.hub.now
      unfold serve
      split
      · rfl
      split
      · rfl
      cases event with
      | ended => exact now_count _
      | broken => exact now_count _
      | frame data =>
          dsimp only
          split
          · rfl
          split
          · next request _ _ _ _ =>
            have still := Hub.now_step relay.hub
              (.broadcast request.topic request.session.channel data)
            split <;> next same => exact (same ▸ still :)
          · rfl
  | connect t peer handshake =>
      change (relay.connect t peer handshake).2.hub.now = relay.hub.now
      unfold connect
      split
      · rfl
      split
      · rfl
      split <;> rfl
  | arrive c inbound =>
      change (relay.arrive c inbound).hub.now = relay.hub.now
      unfold arrive
      split
      · rfl
      split <;> rfl
  | turn c task =>
      change ((relay.turn? c task).getD relay).hub.now = relay.hub.now
      cases turn : relay.turn? c task with
      | none => rfl
      | some after => exact now_turned (turned_of_turn turn)
  | terminate c =>
      change (relay.terminate c).hub.now = relay.hub.now
      unfold terminate
      split
      · rfl
      · exact Hub.now_step relay.hub _
  | terminateAll t =>
      rw [step_terminateAll]
      exact Hub.now_step relay.hub (.terminateAll t)
  | advance span => exact (now_expire _).trans (Hub.now_advance relay.hub span)
  | stopListening => rfl

/-- The clock moves as far as the moment says. -/
theorem now_undergo (moment : Moment) :
    (relay.undergo moment).hub.now = relay.hub.now + moment.elapsed := by
  cases moment with
  | event event => exact now_step event
  | hub event => exact Hub.now_step relay.hub event
  | look places => exact now_expire places

end Relay

end LiveRelay
