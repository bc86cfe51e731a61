/-
Module: LiveRelay.Proofs.Topic.Standing
Purpose: What the state of a connection says of its termination and of the calls that attach and
  detach it, and what nothing at its topic takes back.
Main exports: Connection.touched_cases, Seat.Standing, Seat.Onward, BusyTopic.onward_step,
  BusyTopic.Standing.step
-/
import LiveRelay.Proofs.Topic.Busy
import LiveRelay.Proofs.Connection.Signs

namespace LiveRelay

open Net

namespace Connection

/-- Touching a connection leaves its state alone unless it terminates the connection. -/
theorem touched_cases (conn : Connection) (touch : Touch) :
    (conn.touched touch).terminated = true ∨
      (conn.touched touch).terminated = conn.terminated ∧
        (conn.touched touch).state = conn.state := by
  cases touch with
  | offer payload =>
      rw [touched]
      rcases conn.trySend_cases payload with
        ⟨_, outcome⟩ | ⟨_, _, outcome⟩ | ⟨_, _, _, _, outcome⟩ | ⟨_, _, _, _, outcome⟩
      · exact .inr (by rw [outcome]; exact ⟨rfl, rfl⟩)
      · exact .inr (by rw [outcome]; exact ⟨rfl, rfl⟩)
      · exact .inr (by rw [outcome]; exact ⟨rfl, rfl⟩)
      · rw [outcome, overflowed]
        split
        · exact .inr ⟨rfl, rfl⟩
        · exact .inl (terminated_terminate _)
  | probe =>
      rw [touched, snd_probe]
      split
      · exact .inr ⟨rfl, rfl⟩
      · split
        · obtain ⟨queues, pinged⟩ := conn.takeAlive.2.snd_ping
          rw [pinged]
          exact .inr ⟨rfl, rfl⟩
        · exact .inl (terminated_terminate _)
  | terminate => exact .inl (terminated_terminate conn)
  | markAlive => exact .inr ⟨rfl, rfl⟩
  | receive =>
      obtain ⟨queues, read⟩ := conn.snd_receive
      rw [touched, read]
      exact .inr ⟨rfl, rfl⟩
  | receiveControl =>
      obtain ⟨queues, read⟩ := conn.snd_receiveControl
      rw [touched, read]
      exact .inr ⟨rfl, rfl⟩
  | dropQueues => exact .inr ⟨rfl, rfl⟩

end Connection

/-! ### One connection -/

namespace Seat

variable {seat : Seat}

/-- A connection that was not terminated and that nobody detaches is open as soon as the call that
attaches it has returned. -/
def Standing (seat : Seat) : Prop :=
  seat.conn.terminated = false → seat.detaching = [] →
    seat.conn.state = if seat.attaching = .returned then .open else .connecting

/-- Nothing takes back that a connection was terminated or is being detached. -/
structure Onward (earlier later : Seat) : Prop where
  terminated : earlier.conn.terminated = true → later.conn.terminated = true
  detaching : earlier.detaching ≠ [] → later.detaching ≠ []

theorem Onward.refl (seat : Seat) : Onward seat seat := ⟨id, id⟩

theorem Standing.touched (standing : seat.Standing) (touch : Touch) :
    Standing { seat with conn := seat.conn.touched touch } := by
  intro unterminated undetached
  rcases seat.conn.touched_cases touch with terminated | ⟨same, state⟩
  · exact absurd unterminated (by simp [terminated])
  · exact state.trans (standing (same.symm.trans unterminated) undetached)

theorem Onward.touched (seat : Seat) (touch : Touch) :
    Onward seat { seat with conn := seat.conn.touched touch } where
  terminated terminated := by
    rcases seat.conn.touched_cases touch with after | ⟨same, _⟩
    · exact after
    · exact same.trans terminated
  detaching := id

theorem Standing.attachStep (standing : seat.Standing) (ref : ConnRef) (topic : Topic) :
    (seat.attachStep ref topic).2.Standing := by
  obtain ⟨conn, attaching, detaching⟩ := seat
  intro unterminated undetached
  cases attaching with
  | returned => exact standing unterminated undetached
  | markOpen =>
      have connecting : conn.state = .connecting := standing unterminated undetached
      exact congrArg (fun state : ConnState => state.opened.2) connecting
  | _ => exact standing unterminated undetached

theorem Onward.attachStep (seat : Seat) (ref : ConnRef) (topic : Topic) :
    Onward seat (seat.attachStep ref topic).2 := by
  obtain ⟨conn, attaching, detaching⟩ := seat
  cases attaching <;> exact ⟨id, id⟩

/-- A call that detaches a connection does not begin by its steps. -/
theorem detachStep_of_undetached (undetached : seat.detaching = []) (call : Nat) (topic : Topic) :
    seat.detachStep call topic = (topic, seat) := by
  rw [Seat.detachStep, undetached]
  rfl

theorem Onward.detachStep (seat : Seat) (call : Nat) (topic : Topic) :
    Onward seat (seat.detachStep call topic).2 := by
  rcases seat.detachStep_cases call topic with same | ⟨earlier, stage, later, split, moved⟩
  · rw [same]
    exact .refl seat
  · rw [moved]
    refine ⟨fun terminated => ?_, fun _ => by simp⟩
    cases stage with
    | untrack =>
        dsimp only [DetachStage.step]
        split
        · exact terminated
        · exact terminated
    | _ => exact terminated

theorem Standing.detachStep (standing : seat.Standing) (call : Nat) (topic : Topic) :
    (seat.detachStep call topic).2.Standing := by
  by_cases undetached : seat.detaching = []
  · rw [detachStep_of_undetached undetached]
    exact standing
  · intro _ nobody
    exact absurd nobody ((Onward.detachStep seat call topic).detaching undetached)

end Seat

namespace BusyTopic

variable {busy : BusyTopic} {ref : ConnRef} {seat : Seat}

/-- A step on one seat moves all seats onward if it does so with that one. -/
theorem onward_onSeat {f : Topic → Seat → Topic × Seat} {place : ConnRef}
    (onward : Seat.Onward seat (f busy.topic seat).2) (here : busy.seats[place]? = some seat) :
    ∃ later, (busy.onSeat ref f).seats[place]? = some later ∧ Seat.Onward seat later := by
  by_cases same : ref = place
  · subst same
    exact ⟨_, (seats_onSeat_self f).trans (congrArg (Option.map _) here), onward⟩
  · exact ⟨seat, (seats_onSeat_of_ne same f).trans here, .refl seat⟩

theorem onward_step (here : busy.seats[ref]? = some seat) (move : Move) :
    ∃ later, (busy.step move).seats[ref]? = some later ∧ Seat.Onward seat later := by
  cases move with
  | attach peer channel =>
      have within := (List.getElem?_eq_some_iff.1 here).1
      exact ⟨seat, (List.getElem?_append_left within).trans here, .refl seat⟩
  | attachStep place => exact onward_onSeat (.attachStep seat place busy.topic) here
  | detach place =>
      rw [step]
      refine onward_onSeat ?_ here
      dsimp only
      split
      · exact ⟨id, fun _ => by simp⟩
      · exact .refl seat
  | detachStep place call => exact onward_onSeat (.detachStep seat call busy.topic) here
  | touch place touch =>
      rw [step]
      exact onward_onSeat (.touched seat touch) here
  | countRelayed length delivered dropped => exact ⟨seat, here, .refl seat⟩
  | countTerminated connections => exact ⟨seat, here, .refl seat⟩

/-- All connections of a topic stand as their calls say. -/
def Standing (busy : BusyTopic) : Prop := ∀ seat ∈ busy.seats, seat.Standing

theorem Standing.onSeat (standing : busy.Standing) {f : Topic → Seat → Topic × Seat}
    (stands : ∀ seat : Seat, seat.Standing → (f busy.topic seat).2.Standing) :
    (busy.onSeat ref f).Standing := by
  unfold BusyTopic.onSeat
  split
  · exact standing
  · next seat here =>
    intro other member
    rcases List.mem_or_eq_of_mem_set member with before | rfl
    · exact standing other before
    · exact stands seat (standing seat (List.mem_of_getElem? here))

theorem Standing.step (standing : busy.Standing) (move : Move) : (busy.step move).Standing := by
  cases move with
  | attach peer channel =>
      intro seat member
      rcases List.mem_append.1 member with before | last
      · exact standing seat before
      · obtain rfl := List.mem_singleton.1 last
        exact fun _ _ => rfl
  | attachStep ref => exact standing.onSeat fun _ stands => stands.attachStep ref busy.topic
  | detach ref =>
      rw [BusyTopic.step]
      refine standing.onSeat fun seat stands => ?_
      dsimp only
      split
      · intro _ nobody
        simp at nobody
      · exact stands
  | detachStep ref call => exact standing.onSeat fun _ stands => stands.detachStep call busy.topic
  | touch ref touch =>
      rw [BusyTopic.step]
      exact standing.onSeat fun _ stands => stands.touched touch
  | countRelayed length delivered dropped => exact standing
  | countTerminated connections => exact standing

end BusyTopic

end LiveRelay
