/-
Module: LiveRelay.Proofs.Connection.Bond
Purpose: What stays the same about a connection while things happen to it, and that only the end of
  its closing changes it.
Main exports: Bond, Connection.bond, Connection.bond_trySend, Connection.bond_probe,
  Connection.bond_close
-/
import LiveRelay.Proofs.Connection.Effect

namespace LiveRelay

open Net

/-- What stays the same about a connection until it is detached: what it was made with, and whether
its closing has been finished. -/
structure Bond where
  id : ConnId
  peer : SocketAddress
  channel : Option Channel
  capacity : Nat
  overflow : OverflowPolicy
  isGone : Bool
deriving Repr, DecidableEq

/-- The bond of a connection whose closing is finished. -/
def Bond.gone (bond : Bond) : Bond := { bond with isGone := true }

namespace Connection

/-- The lasting part of a connection. -/
def bond (conn : Connection) : Bond where
  id := conn.id
  peer := conn.peer
  channel := conn.channel
  capacity := conn.capacity
  overflow := conn.overflow
  isGone := conn.state = .closed

/-! ### Steps that keep the bond -/

@[simp] theorem bond_markOpen (conn : Connection) : conn.markOpen.bond = conn.bond := by
  simp [markOpen, bond, ConnState.opened_eq_closed]

@[simp] theorem bond_beginClose (conn : Connection) : conn.beginClose.bond = conn.bond := by
  simp [beginClose, bond, ConnState.closeBegun_eq_closed]

@[simp] theorem bond_markAlive (conn : Connection) : conn.markAlive.bond = conn.bond := rfl

@[simp] theorem bond_takeAlive (conn : Connection) : conn.takeAlive.2.bond = conn.bond := rfl

@[simp] theorem bond_dropQueues (conn : Connection) : conn.dropQueues.bond = conn.bond := rfl

@[simp] theorem bond_terminate (conn : Connection) : conn.terminate.bond = conn.bond := by
  unfold terminate
  split
  · rfl
  · rw [bond_beginClose]
    rfl

@[simp] theorem bond_overflowed (conn : Connection) : conn.overflowed.bond = conn.bond := by
  unfold overflowed
  split
  · rfl
  · rw [bond_terminate]
    rfl

@[simp] theorem bond_trySend (conn : Connection) (payload : Payload) :
    (conn.trySend payload).2.bond = conn.bond := by
  rcases trySend_cases conn payload with
    ⟨_, outcome⟩ | ⟨_, _, outcome⟩ | ⟨queues, _, _, _, outcome⟩ | ⟨queues, _, _, _, outcome⟩
  · rw [outcome]
  · rw [outcome]
  · rw [outcome]
    rfl
  · rw [outcome]
    exact bond_overflowed conn

@[simp] theorem bond_receive (conn : Connection) : conn.receive.2.bond = conn.bond := by
  obtain ⟨queues, read⟩ := conn.snd_receive
  rw [read]
  rfl

@[simp] theorem bond_receiveControl (conn : Connection) :
    conn.receiveControl.2.bond = conn.bond := by
  obtain ⟨queues, read⟩ := conn.snd_receiveControl
  rw [read]
  rfl

@[simp] theorem bond_probe (conn : Connection) : conn.probe.2.bond = conn.bond := by
  rw [snd_probe]
  split
  · rfl
  · split
    · obtain ⟨queues, pinged⟩ := conn.takeAlive.2.snd_ping
      rw [pinged]
      rfl
    · rw [bond_terminate, bond_takeAlive]

/-! ### The end of a connection -/

/-- Closing a connection for good changes nothing else that lasts. -/
theorem bond_close (conn : Connection) :
    conn.beginClose.finishClose.bond = conn.bond.gone := by
  simp [finishClose, beginClose, bond, Bond.gone, ConnState.closeFinished]

theorem isGone_bond {conn : Connection} : conn.bond.isGone = true ↔ conn.state = .closed := by
  simp [bond]

end Connection

end LiveRelay
