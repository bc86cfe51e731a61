/-
Module: LiveRelay.Proofs.Connection.Outbound
Purpose: Which of the things that can happen to a connection touch the payloads that wait for it.
Main exports: Connection.outbound?, Concern.isQuiet, Connection.outbound?_undergo,
  Connection.outbound?_trySend, Connection.receive_of_outbound, Connection.outbound?_foldl_of_none
-/
import LiveRelay.Proofs.Hub.Concern

namespace LiveRelay

/-- Whether a concern leaves the payloads alone that wait. -/
def Concern.isQuiet : Concern → Bool
  | .broadcast _ | .receive | .dropQueues => false
  | .detach | .probe | .terminateAll | .terminate | .markAlive | .receiveControl => true

namespace Connection

variable {conn : Connection} {payload : Payload} {waits : List Payload}

/-- The payloads that wait, as long as somebody is there to read them. -/
def outbound? (conn : Connection) : Option (List Payload) := conn.queues.map Queues.outbound

theorem waiting_eq (conn : Connection) : conn.waiting = conn.outbound?.getD [] := by
  unfold waiting outbound?
  cases conn.queues <;> rfl

/-! ### What leaves the waiting payloads alone -/

theorem outbound?_terminate (conn : Connection) : conn.terminate.outbound? = conn.outbound? := by
  unfold terminate
  split <;> rfl

theorem outbound?_ping (conn : Connection) : conn.ping.2.outbound? = conn.outbound? := by
  unfold ping outbound?
  split
  · rfl
  · next queues present => rw [present]; rfl

theorem outbound?_probe (conn : Connection) : conn.probe.2.outbound? = conn.outbound? := by
  rw [snd_probe]
  split
  · rfl
  · split
    · rw [outbound?_ping]
      rfl
    · rw [outbound?_terminate]
      rfl

theorem outbound?_receiveControl (conn : Connection) :
    conn.receiveControl.2.outbound? = conn.outbound? := by
  unfold receiveControl outbound?
  split
  · rfl
  · rfl
  · next outbound request others present => rw [present]; rfl

/-- Only data, the reader and the end of the reader touch what waits. -/
theorem outbound?_undergo (subscribed : Bool) (conn : Connection) {concern : Concern}
    (quiet : concern.isQuiet = true) :
    (conn.undergo subscribed concern).outbound? = conn.outbound? := by
  cases concern with
  | broadcast payload => cases quiet
  | receive => cases quiet
  | dropQueues => cases quiet
  | detach => rfl
  | probe =>
      rw [undergo]
      split
      · rfl
      · exact outbound?_probe conn
  | terminateAll =>
      rw [undergo]
      split
      · rfl
      · exact outbound?_terminate conn
  | terminate => exact outbound?_terminate conn
  | markAlive => rfl
  | receiveControl => exact outbound?_receiveControl conn

theorem outbound?_foldl (subscribed : Bool) (conn : Connection) {concerns : List Concern}
    (quiet : ∀ concern ∈ concerns, concern.isQuiet = true) :
    (concerns.foldl (undergo subscribed) conn).outbound? = conn.outbound? := by
  induction concerns generalizing conn with
  | nil => rfl
  | cons concern others ih =>
      rw [List.foldl_cons, ih _ fun other member => quiet other (List.mem_cons_of_mem _ member),
        outbound?_undergo subscribed conn (quiet concern List.mem_cons_self)]

/-! ### Data and its reader -/

/-- A payload that is offered joins those that wait exactly if the connection is open and there is
room for it. -/
theorem outbound?_trySend (attended : conn.outbound? = some waits) (payload : Payload) :
    (conn.trySend payload).2.outbound? =
      some (waits ++
        if conn.state = .open ∧ waits.length < conn.capacity then [payload] else []) := by
  obtain ⟨queues, held, rfl⟩ := Option.map_eq_some_iff.1 attended
  rcases trySend_cases conn payload with
    ⟨shut, outcome⟩ | ⟨_, gone, _⟩ | ⟨_, opened, present, room, outcome⟩ |
      ⟨_, opened, present, full, outcome⟩
  · rw [outcome, attended, if_neg fun reached => shut reached.1, List.append_nil]
  · cases gone.symm.trans held
  · obtain rfl := Option.some.inj (held.symm.trans present)
    rw [outcome, if_pos ⟨opened, room⟩]
    rfl
  · obtain rfl := Option.some.inj (held.symm.trans present)
    rw [outcome, if_neg fun reached => full reached.2, List.append_nil, ← attended, overflowed]
    split
    · rfl
    · rw [outbound?_terminate]
      rfl

theorem outbound?_trySend_of_none (gone : conn.outbound? = none) (payload : Payload) :
    (conn.trySend payload).2.outbound? = none := by
  have unattended : conn.queues = none := Option.map_eq_none_iff.1 gone
  by_cases opened : conn.state = .open
  · rw [trySend_of_unattended opened unattended]
    exact gone
  · rw [trySend_of_not_open opened]
    exact gone

/-- The reader takes the payloads in their order. -/
theorem receive_of_outbound (attended : conn.outbound? = some waits) :
    (waits = [] ∧ conn.receive.1 = .empty ∧ conn.receive.2.outbound? = some []) ∨
      ∃ payload others, waits = payload :: others ∧ conn.receive.1 = .item payload ∧
        conn.receive.2.outbound? = some others := by
  obtain ⟨⟨outbound, control⟩, held, rfl⟩ := Option.map_eq_some_iff.1 attended
  cases outbound with
  | nil =>
      have nothing : conn.receive = (.empty, conn) := by simp [receive, held]
      exact .inl ⟨rfl, by rw [nothing], by rw [nothing, attended]⟩
  | cons payload others =>
      have taken : conn.receive =
          (.item payload, { conn with queues := some ⟨others, control⟩ }) := by
        simp [receive, held]
      exact .inr ⟨payload, others, rfl, by rw [taken], by rw [taken]; rfl⟩

theorem receive_of_none (gone : conn.outbound? = none) : conn.receive = (.gone, conn) := by
  have unattended : conn.queues = none := Option.map_eq_none_iff.1 gone
  rw [receive, unattended]

/-- A reader that is gone never comes back. -/
theorem outbound?_undergo_of_none (subscribed : Bool) (gone : conn.outbound? = none)
    (concern : Concern) : (conn.undergo subscribed concern).outbound? = none := by
  cases concern with
  | broadcast payload =>
      rw [undergo]
      split
      · exact outbound?_trySend_of_none gone payload
      · exact gone
  | receive =>
      rw [undergo, receive_of_none gone]
      exact gone
  | dropQueues => rfl
  | _ =>
      rw [outbound?_undergo subscribed conn rfl]
      exact gone

theorem outbound?_foldl_of_none (subscribed : Bool) (gone : conn.outbound? = none)
    (concerns : List Concern) : (concerns.foldl (undergo subscribed) conn).outbound? = none := by
  induction concerns generalizing conn with
  | nil => exact gone
  | cons concern others ih => exact ih (outbound?_undergo_of_none subscribed gone concern)

end Connection

end LiveRelay
