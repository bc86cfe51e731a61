/-
Module: LiveRelay.Proofs.Connection.Signs
Purpose: How the sign of life of a connection, its termination and the end of its closing come
  about.
Main exports: Connection.terminated_undergo, Connection.closed_undergo, Connection.alive_undergo,
  Connection.undergo_probe
-/
import LiveRelay.Proofs.Hub.Concern

namespace LiveRelay

namespace Connection

variable {conn : Connection} {subscribed : Bool} {concern : Concern}

/-! ### Terminating and closing last -/

theorem terminated_terminate (conn : Connection) : conn.terminate.terminated = true := by
  unfold terminate
  split
  · assumption
  · rfl

theorem terminated_trySend (terminated : conn.terminated = true) (payload : Payload) :
    (conn.trySend payload).2.terminated = true := by
  rcases trySend_cases conn payload with
    ⟨_, outcome⟩ | ⟨_, _, outcome⟩ | ⟨queues, _, _, _, outcome⟩ | ⟨queues, _, _, _, outcome⟩
  · rw [outcome]
    exact terminated
  · rw [outcome]
    exact terminated
  · rw [outcome]
    exact terminated
  · rw [outcome, overflowed]
    split
    · exact terminated
    · exact terminated_terminate _

/-- A terminated connection stays terminated. -/
theorem terminated_undergo (terminated : conn.terminated = true) :
    (conn.undergo subscribed concern).terminated = true := by
  cases concern with
  | detach => exact terminated
  | broadcast payload =>
      rw [undergo]
      split
      · exact terminated_trySend terminated payload
      · exact terminated
  | probe =>
      rw [undergo, snd_probe, if_pos terminated, ite_self]
      exact terminated
  | terminateAll =>
      rw [undergo]
      split
      · exact terminated
      · exact terminated_terminate conn
  | terminate => exact terminated_terminate conn
  | markAlive => exact terminated
  | receive =>
      obtain ⟨queues, read⟩ := conn.snd_receive
      rw [undergo, read]
      exact terminated
  | receiveControl =>
      obtain ⟨queues, read⟩ := conn.snd_receiveControl
      rw [undergo, read]
      exact terminated
  | dropQueues => exact terminated

theorem terminated_foldl (terminated : conn.terminated = true) (concerns : List Concern) :
    (concerns.foldl (undergo subscribed) conn).terminated = true := by
  induction concerns generalizing conn with
  | nil => exact terminated
  | cons concern others ih => exact ih (terminated_undergo terminated)

theorem bond_undergo (attached : concern ≠ .detach) :
    (conn.undergo subscribed concern).bond = conn.bond := by
  cases concern with
  | detach => exact absurd rfl attached
  | broadcast payload =>
      rw [undergo]
      split
      · exact bond_trySend conn payload
      · rfl
  | probe =>
      rw [undergo]
      split
      · rfl
      · exact bond_probe conn
  | terminateAll =>
      rw [undergo]
      split
      · rfl
      · exact bond_terminate conn
  | terminate => exact bond_terminate conn
  | markAlive => rfl
  | receive => exact bond_receive conn
  | receiveControl => exact bond_receiveControl conn
  | dropQueues => rfl

/-- A connection is closed for good once it is detached, and by nothing else. -/
theorem closed_undergo :
    (conn.undergo subscribed concern).state = .closed ↔
      concern = .detach ∨ conn.state = .closed := by
  by_cases detaches : concern = .detach
  · subst detaches
    simp [undergo, finishClose, ConnState.closeFinished]
  · rw [← isGone_bond, bond_undergo detaches, isGone_bond]
    simp [detaches]

/-! ### The sign of life -/

theorem alive_terminate (conn : Connection) : conn.terminate.alive = conn.alive := by
  unfold terminate
  split <;> rfl

theorem alive_trySend (conn : Connection) (payload : Payload) :
    (conn.trySend payload).2.alive = conn.alive := by
  rcases trySend_cases conn payload with
    ⟨_, outcome⟩ | ⟨_, _, outcome⟩ | ⟨queues, _, _, _, outcome⟩ | ⟨queues, _, _, _, outcome⟩
  · rw [outcome]
  · rw [outcome]
  · rw [outcome]
    rfl
  · rw [outcome, overflowed]
    split
    · rfl
    · exact alive_terminate _

/-- Only a probe takes the sign of life, and only marking the connection alive gives it. -/
theorem alive_undergo (unprobed : concern ≠ .probe) (unmarked : concern ≠ .markAlive) :
    (conn.undergo subscribed concern).alive = conn.alive := by
  cases concern with
  | detach => rfl
  | broadcast payload =>
      rw [undergo]
      split
      · exact alive_trySend conn payload
      · rfl
  | probe => exact absurd rfl unprobed
  | terminateAll =>
      rw [undergo]
      split
      · rfl
      · exact alive_terminate conn
  | terminate => exact alive_terminate conn
  | markAlive => exact absurd rfl unmarked
  | receive =>
      obtain ⟨queues, read⟩ := conn.snd_receive
      rw [undergo, read]
  | receiveControl =>
      obtain ⟨queues, read⟩ := conn.snd_receiveControl
      rw [undergo, read]
  | dropQueues => rfl

/-- A probe terminates a connection that has given no sign of life, and takes the sign of life from
one that has. -/
theorem probe_of_running (running : conn.terminated = false) :
    (conn.probe.2.terminated = true ↔ conn.alive = false) ∧ conn.probe.2.alive = false := by
  rw [snd_probe, running]
  cases alive : conn.alive with
  | false => simp [terminated_terminate, alive_terminate, takeAlive]
  | true =>
      obtain ⟨queues, pinged⟩ := conn.takeAlive.2.snd_ping
      simp only [Bool.false_eq_true, if_false, if_true, pinged]
      simp [takeAlive, running]

theorem undergo_probe (attached : conn.state ≠ .closed) (running : conn.terminated = false) :
    ((conn.undergo subscribed .probe).terminated = true ↔ conn.alive = false) ∧
      (conn.undergo subscribed .probe).alive = false := by
  rw [undergo, if_neg attached]
  exact probe_of_running running

end Connection

end LiveRelay
