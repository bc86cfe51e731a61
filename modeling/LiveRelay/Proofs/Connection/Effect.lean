/-
Module: LiveRelay.Proofs.Connection.Effect
Purpose: What offering a payload to a connection, reading from it and probing it do, case by case,
  so that nothing else needs to open their definitions.
Main exports: Connection.trySend_of_room, Connection.trySend_of_full, Connection.trySend_cases,
  Connection.snd_receive, Connection.snd_ping, Connection.snd_probe, Connection.fst_probe_eq_silent
-/
import LiveRelay.Topic

namespace LiveRelay

/-- Beginning to close neither finishes a closing nor undoes one. -/
theorem ConnState.closeBegun_eq_closed {state : ConnState} :
    state.closeBegun.2 = closed ↔ state = closed := by
  cases state <;> decide

theorem ConnState.opened_eq_closed {state : ConnState} :
    state.opened.2 = closed ↔ state = closed := by
  cases state <;> decide

/-- A connection that has begun to close is not open. -/
theorem ConnState.closeBegun_ne_open (state : ConnState) : state.closeBegun.2 ≠ .open := by
  cases state <;> decide

namespace Connection

variable {conn : Connection} {payload : Payload} {queues : Queues}

/-! ### Offering a payload -/

/-- The connection after its queue took a payload. -/
def enqueue (conn : Connection) (queues : Queues) (payload : Payload) : Connection :=
  { conn with
    queues := some { queues with outbound := queues.outbound ++ [payload] }
    delivered := conn.delivered + 1 }

/-- The connection after its queue had no room for a payload. -/
def overflowed (conn : Connection) : Connection :=
  match conn.overflow with
  | .dropNewest => { conn with dropped := conn.dropped + 1 }
  | .disconnect => { conn with dropped := conn.dropped + 1 }.terminate

theorem trySend_of_not_open (shut : conn.state ≠ .open) :
    conn.trySend payload = (.skipped, conn) := by
  rw [trySend, if_pos shut]

theorem trySend_of_unattended (opened : conn.state = .open) (gone : conn.queues = none) :
    conn.trySend payload = (.closed, conn) := by
  rw [trySend, if_neg fun shut => shut opened, gone]

theorem trySend_of_room (opened : conn.state = .open) (present : conn.queues = some queues)
    (room : queues.outbound.length < conn.capacity) :
    conn.trySend payload = (.queued, conn.enqueue queues payload) := by
  rw [trySend, if_neg fun shut => shut opened]
  simp only [present, if_pos room]
  rfl

theorem trySend_of_full (opened : conn.state = .open) (present : conn.queues = some queues)
    (full : ¬ queues.outbound.length < conn.capacity) :
    conn.trySend payload = (.dropped, conn.overflowed) := by
  rw [trySend, if_neg fun shut => shut opened]
  cases conn with
  | mk id peer channel capacity overflow state alive terminated held delivered dropped =>
      obtain rfl : held = some queues := present
      simp only [if_neg full]
      cases overflow <;> rfl

/-- Everything that can become of a payload offered to a connection. -/
theorem trySend_cases (conn : Connection) (payload : Payload) :
    conn.state ≠ .open ∧ conn.trySend payload = (.skipped, conn) ∨
    conn.state = .open ∧ conn.queues = none ∧ conn.trySend payload = (.closed, conn) ∨
    (∃ queues, conn.state = .open ∧ conn.queues = some queues ∧
      queues.outbound.length < conn.capacity ∧
      conn.trySend payload = (.queued, conn.enqueue queues payload)) ∨
    ∃ queues, conn.state = .open ∧ conn.queues = some queues ∧
      ¬ queues.outbound.length < conn.capacity ∧
      conn.trySend payload = (.dropped, conn.overflowed) := by
  by_cases opened : conn.state = .open
  · cases present : conn.queues with
    | none => exact .inr (.inl ⟨opened, rfl, trySend_of_unattended opened present⟩)
    | some queues =>
        by_cases room : queues.outbound.length < conn.capacity
        · exact .inr (.inr (.inl ⟨queues, opened, rfl, room, trySend_of_room opened present room⟩))
        · exact .inr (.inr (.inr ⟨queues, opened, rfl, room, trySend_of_full opened present room⟩))
  · exact .inl ⟨opened, trySend_of_not_open opened⟩

/-! ### Reading -/

/-- Reading changes nothing but the queues. -/
theorem snd_receive (conn : Connection) :
    ∃ queues, conn.receive.2 = { conn with queues := queues } := by
  unfold receive
  split
  · exact ⟨conn.queues, rfl⟩
  · exact ⟨conn.queues, rfl⟩
  · exact ⟨_, rfl⟩

theorem snd_receiveControl (conn : Connection) :
    ∃ queues, conn.receiveControl.2 = { conn with queues := queues } := by
  unfold receiveControl
  split
  · exact ⟨conn.queues, rfl⟩
  · exact ⟨conn.queues, rfl⟩
  · exact ⟨_, rfl⟩

/-! ### Probing -/

/-- To ask for a ping changes nothing but the queues. -/
theorem snd_ping (conn : Connection) : ∃ queues, conn.ping.2 = { conn with queues := queues } := by
  unfold ping
  split
  · exact ⟨conn.queues, rfl⟩
  · exact ⟨_, rfl⟩

/-- A probe, by what is known of the connection beforehand. -/
theorem snd_probe (conn : Connection) :
    conn.probe.2 =
      if conn.terminated then conn
      else if conn.alive then conn.takeAlive.2.ping.2
      else conn.takeAlive.2.terminate := by
  unfold probe
  cases terminated : conn.terminated with
  | true => rfl
  | false =>
      cases alive : conn.alive with
      | false => simp [takeAlive, alive]
      | true =>
          simp only [takeAlive, alive, if_true, Bool.false_eq_true, if_false]
          cases conn.queues <;> simp [ping]

/-- A probe finds a connection silent exactly when it is not terminated yet and has given no sign of
life. -/
theorem fst_probe_eq_silent :
    conn.probe.1 = .silent ↔ conn.terminated = false ∧ conn.alive = false := by
  unfold probe
  cases terminated : conn.terminated with
  | true => simp
  | false =>
      cases alive : conn.alive with
      | false => simp [takeAlive, alive]
      | true =>
          simp only [takeAlive, alive, Bool.false_eq_true, if_false]
          cases conn.queues <;> simp [ping]

end Connection

end LiveRelay
