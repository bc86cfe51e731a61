/-
Module: LiveRelay.Proofs.Hub.Queued
Purpose: What was ever queued for a connection and what became of it. Each payload was received, or
  was discarded together with the queue, or still waits, and the connection counts all of them.
Main exports: Hub.queued?, Hub.queuedOn, Hub.discardedFrom, Hub.Tidy.connection_origin,
  Hub.Tidy.queuedOn_eq, Hub.Tidy.delivered_run
-/
import LiveRelay.Proofs.Delivery
import LiveRelay.Proofs.Hub.Life
import LiveRelay.Proofs.Hub.Standing
import Mathlib.Algebra.Group.Prod
import Mathlib.Data.UInt

namespace LiveRelay

open Net

theorem Connections.length_updateEach (conns : Connections) (refs : List ConnRef)
    (f : Connection → Connection) : (conns.updateEach refs f).length = conns.length := by
  induction refs generalizing conns with
  | nil => rfl
  | cons ref others ih => rw [updateEach_cons, ih, update, List.length_modify]

/-! ### What a connection counts -/

/-- What the outcome of an offer adds to the counts of deliveries and of drops. -/
def SendOutcome.mark : SendOutcome → UInt64 × UInt64
  | .queued => (1, 0)
  | .dropped => (0, 1)
  | .skipped | .closed => (0, 0)

namespace Connection

/-- What a connection counts: the payloads that were queued, and those that found no room. -/
def tally (conn : Connection) : UInt64 × UInt64 := (conn.delivered, conn.dropped)

/-- What a connection is made with: its channel, its room, and what it does where that is short. -/
def terms (conn : Connection) : Option Channel × Nat × OverflowPolicy :=
  (conn.channel, conn.capacity, conn.overflow)

theorem tally_terminate (conn : Connection) : conn.terminate.tally = conn.tally := by
  unfold terminate
  split <;> rfl

theorem tally_receive (conn : Connection) : conn.receive.2.tally = conn.tally := by
  obtain ⟨queues, same⟩ := conn.snd_receive
  rw [same]
  rfl

theorem tally_receiveControl (conn : Connection) : conn.receiveControl.2.tally = conn.tally := by
  obtain ⟨queues, same⟩ := conn.snd_receiveControl
  rw [same]
  rfl

theorem tally_probe (conn : Connection) : conn.probe.2.tally = conn.tally := by
  rw [snd_probe]
  split
  · rfl
  · split
    · obtain ⟨queues, same⟩ := conn.takeAlive.2.snd_ping
      rw [same]
      rfl
    · exact tally_terminate conn.takeAlive.2

/-- A connection counts what becomes of a payload that it is offered. -/
theorem tally_trySend (conn : Connection) (payload : Payload) :
    (conn.trySend payload).2.tally = conn.tally + (conn.trySend payload).1.mark := by
  rcases trySend_cases conn payload with
    ⟨_, outcome⟩ | ⟨_, _, outcome⟩ | ⟨queues, _, _, _, outcome⟩ | ⟨queues, _, _, _, outcome⟩
  · rw [outcome]
    exact (add_zero conn.tally).symm
  · rw [outcome]
    exact (add_zero conn.tally).symm
  · rw [outcome]
    exact Prod.ext rfl (add_zero conn.dropped).symm
  · have counted : conn.overflowed.tally = (conn.delivered, conn.dropped + 1) := by
      rw [overflowed]
      split
      · rfl
      · exact tally_terminate _
    rw [outcome, counted]
    exact Prod.ext (add_zero conn.delivered).symm rfl

/-- A payload that is offered joins what waits exactly if it is queued. -/
theorem waiting_trySend (conn : Connection) (payload : Payload) :
    (conn.trySend payload).2.waiting =
      conn.waiting ++ if (conn.trySend payload).1 = .queued then [payload] else [] := by
  rcases trySend_cases conn payload with
    ⟨_, outcome⟩ | ⟨_, _, outcome⟩ | ⟨queues, _, present, _, outcome⟩ | ⟨queues, _, _, _, outcome⟩
  · simp [outcome]
  · simp [outcome]
  · simp [outcome, enqueue, waiting, present]
  · have same : conn.overflowed.outbound? = conn.outbound? := by
      rw [overflowed]
      split
      · rfl
      · exact outbound?_terminate _
    simp [outcome, waiting_eq, same]

end Connection

namespace Hub

variable {homes : List Attachment} {hub : Hub} {ref : ConnRef} {home : Attachment}
  {conn : Connection} {event : Event} {events : List Event}

/-- Whatever is not data leaves alone what a connection counts. -/
theorem Event.tally_effect (noData : ∀ t channel payload, event ≠ .broadcast t channel payload)
    (conn : Connection) : (event.effect conn).tally = conn.tally := by
  cases event with
  | broadcast t channel payload => exact absurd rfl (noData t channel payload)
  | probe | advance => exact conn.tally_probe
  | terminateAll | terminate => exact conn.tally_terminate
  | receive => exact conn.tally_receive
  | receiveControl => exact conn.tally_receiveControl
  | attach | detach | markAlive | dropQueues | spawnMonitor => rfl

/-- A queue that is gone stays gone. -/
theorem Event.effect_of_gone (gone : conn.outbound? = none) :
    (event.effect conn).outbound? = none := by
  rcases event.effect_cases with
    ⟨t, ref, rfl⟩ | ⟨ref, rfl⟩ | ⟨ref, rfl⟩ | ⟨t, channel, payload, rfl⟩ | stays
  · exact gone
  · rfl
  · exact (congrArg (·.2.outbound?) (Connection.receive_of_none gone)).trans gone
  · exact Connection.outbound?_trySend_of_none gone payload
  · exact (stays conn).waits.trans gone

/-- No event changes what a connection was made with. -/
theorem Event.terms_effect (event : Event) (conn : Connection) :
    (event.effect conn).terms = conn.terms := by
  have of_bond {later : Connection} (same : later.bond = conn.bond) : later.terms = conn.terms :=
    congrArg (fun bond => (bond.channel, bond.capacity, bond.overflow)) same
  cases event with
  | broadcast t channel payload => exact of_bond (conn.bond_trySend payload)
  | probe | advance => exact of_bond conn.bond_probe
  | terminateAll | terminate => exact of_bond conn.bond_terminate
  | receive => exact of_bond conn.bond_receive
  | receiveControl => exact of_bond conn.bond_receiveControl
  | attach | detach | markAlive | dropQueues | spawnMonitor => rfl

/-! ### Where a connection comes from -/

/-- A connection after an event is one that was there, with whatever the event did to it, or the one
that the event attached. -/
theorem connection_origin {later : Connection}
    (present : (hub.step event).2.connections[ref]? = some later) :
    (∃ conn, hub.connections[ref]? = some conn ∧
      later = event.effect^[(hub.reached event).count ref] conn) ∨
    ∃ t peer channel topic, event = .attach t peer channel ∧ hub.topics[t]? = some topic ∧
      ref = hub.connections.length ∧ later = (topic.newConnection peer channel).markOpen := by
  cases there : hub.connections[ref]? with
  | some conn =>
      rw [getElem?_step there] at present
      exact .inl ⟨conn, rfl, (Option.some.inj present).symm⟩
  | none =>
      have beyond : hub.connections.length ≤ ref := List.getElem?_eq_none_iff.1 there
      have kept := hub.connections.length_updateEach (hub.reached event) event.effect
      rw [connections_step_eq, List.getElem?_append_right (kept ▸ beyond), kept] at present
      right
      cases event with
      | attach t peer channel =>
          cases here : hub.topics[t]? with
          | none =>
              rw [added, here] at present
              cases present
          | some topic =>
              rw [added, here, Option.elim_some, List.getElem?_singleton,
                Option.ite_none_right_eq_some] at present
              obtain ⟨last, same⟩ := present
              exact ⟨t, peer, channel, topic, rfl, here,
                Nat.le_antisymm (Nat.sub_eq_zero_iff_le.1 last) beyond,
                (Option.some.inj same).symm⟩
      | _ => cases present

/-- What every event keeps about a connection, every run keeps. -/
theorem kept_run {P : Connection → Prop} (each : ∀ event conn, P conn → P (Event.effect event conn))
    (present : hub.connections[ref]? = some conn) (holds : P conn) (events : List Event) :
    ∃ later, (hub.run events).2.connections[ref]? = some later ∧ P later := by
  induction events generalizing hub conn with
  | nil => exact ⟨conn, present, holds⟩
  | cons event others ih =>
      have still : P (event.effect^[(hub.reached event).count ref] conn) :=
        Function.Iterate.rec P holds (each event) _
      exact ih (getElem?_step present event) still

/-! ### The payloads of a connection -/

/-- The payload that an event queues for a connection: one that is broadcast, to this connection
among others, and that the connection takes. -/
def queued? (hub : Hub) (ref : ConnRef) : Event → Option Payload
  | .broadcast t channel payload =>
    if ref ∈ hub.reached (.broadcast t channel payload) ∧
        hub.connections[ref]?.any fun conn => (conn.trySend payload).1 = .queued
    then some payload else none
  | _ => none

/-- The payloads that a run ever queues for a connection, in their order. -/
def queuedOn (hub : Hub) (ref : ConnRef) : List Event → List Payload
  | [] => []
  | event :: events => (hub.queued? ref event).toList ++ (hub.step event).2.queuedOn ref events

/-- The payloads that an event discards together with the queue of a connection. -/
def discarded (hub : Hub) (ref : ConnRef) : Event → List Payload
  | .dropQueues other => if other = ref then hub.waiting ref else []
  | _ => []

/-- The payloads that a run discards together with the queue of a connection. -/
def discardedFrom (hub : Hub) (ref : ConnRef) : List Event → List Payload
  | [] => []
  | event :: events => hub.discarded ref event ++ (hub.step event).2.discardedFrom ref events

/-- What a connection has counted as delivered, if it is there. -/
def deliveredTo (hub : Hub) (ref : ConnRef) : UInt64 :=
  hub.connections[ref]?.elim 0 Connection.delivered

theorem queued?_eq_none (noData : ∀ t channel payload, event ≠ .broadcast t channel payload) :
    hub.queued? ref event = none := by
  cases event with
  | broadcast t channel payload => exact absurd rfl (noData t channel payload)
  | _ => rfl

theorem queued?_of_not_mem (missed : ref ∉ hub.reached event) : hub.queued? ref event = none := by
  cases event with
  | broadcast t channel payload => exact if_neg fun taken => missed taken.1
  | _ => rfl

theorem discarded_of_not_mem (missed : ref ∉ hub.reached event) :
    hub.discarded ref event = [] := by
  cases event with
  | dropQueues other => exact if_neg fun same => missed (List.mem_singleton.2 same.symm)
  | _ => rfl

theorem handed?_of_not_mem (missed : ref ∉ hub.reached event) (outcome : Outcome) :
    handed? ref (event, outcome) = none := by
  apply handed?_eq_none
  rintro rfl
  exact missed (List.mem_singleton.2 rfl)

/-- A connection that is not there yet has nothing queued. It begins with nothing. -/
theorem queued_step_of_absent (absent : hub.connections[ref]? = none) (event : Event) :
    handed? ref (event, (hub.step event).1) = none ∧ hub.discarded ref event = [] ∧
      (hub.step event).2.waiting ref = [] ∧ hub.queued? ref event = none ∧
      (hub.step event).2.deliveredTo ref = 0 := by
  have begins : (hub.step event).2.waiting ref = [] ∧ (hub.step event).2.deliveredTo ref = 0 := by
    rw [waiting, deliveredTo]
    cases present : (hub.step event).2.connections[ref]? with
    | none => exact ⟨rfl, rfl⟩
    | some later =>
        obtain ⟨conn, there, _⟩ | ⟨_, _, _, _, _, _, _, rfl⟩ := connection_origin present
        · cases absent.symm.trans there
        · exact ⟨rfl, rfl⟩
  refine ⟨?_, ?_, begins.1, ?_, begins.2⟩
  · by_cases reads : event = .receive ref
    · subst reads
      rw [outcome_receive, absent]
      rfl
    · exact handed?_eq_none reads _
  · cases event with
    | dropQueues other => simp [discarded, waiting, absent]
    | _ => rfl
  · cases event with
    | broadcast t channel payload => simp [queued?, absent]
    | _ => rfl

/-- The reader of a connection is handed the first payload that waits, and the others still wait. -/
theorem handed_receive (present : hub.connections[ref]? = some conn) :
    (handed? ref (.receive ref, (hub.step (.receive ref)).1)).toList ++
      (hub.step (.receive ref)).2.waiting ref = hub.waiting ref := by
  have once : (hub.reached (.receive ref)).count ref = 1 := by simp [reached]
  have later : (hub.step (.receive ref)).2.connections[ref]? = some conn.receive.2 := by
    rw [getElem?_step present, once]
    rfl
  rw [outcome_receive, present, Option.elim_some, waiting_of_present later,
    waiting_of_present present]
  cases attended : conn.outbound? with
  | none =>
      rw [Connection.receive_of_none attended, attended]
      rfl
  | some waits =>
      rcases Connection.receive_of_outbound attended with
        ⟨rfl, nothing, rest⟩ | ⟨payload, others, rfl, first, rest⟩
      · rw [nothing, rest]
        rfl
      · rw [first, rest]
        simp [handed?]

/-- Nothing waits for a connection whose queues are dropped. -/
theorem gone_dropQueues (present : hub.connections[ref]? = some conn) :
    ∃ later, (hub.step (.dropQueues ref)).2.connections[ref]? = some later ∧
      later.outbound? = none := by
  have once : (hub.reached (.dropQueues ref)).count ref = 1 := by simp [reached]
  refine ⟨conn.dropQueues, ?_, rfl⟩
  rw [getElem?_step present, once]
  rfl

namespace Tidy

/-- A broadcast reaches a connection at most once. -/
theorem broadcast_step (tidy : Tidy homes hub) (present : hub.connections[ref]? = some conn)
    {t : Nat} {channel : Channel} {payload : Payload}
    (member : ref ∈ hub.reached (.broadcast t channel payload)) :
    (hub.step (.broadcast t channel payload)).2.connections[ref]? =
      some (conn.trySend payload).2 := by
  have once : (hub.reached (.broadcast t channel payload)).count ref = 1 :=
    List.count_eq_one_of_mem ((tidy.nodup_listedBy t channel).filter _) member
  rw [getElem?_step present, once]
  rfl

/-- What an event hands to the reader of a connection, what it discards, and what then waits is what
waited and what the event queued. -/
theorem queued_step (tidy : Tidy homes hub) (ref : ConnRef) (event : Event) :
    (handed? ref (event, (hub.step event).1)).toList ++ hub.discarded ref event ++
        (hub.step event).2.waiting ref =
      hub.waiting ref ++ (hub.queued? ref event).toList := by
  cases present : hub.connections[ref]? with
  | none =>
      obtain ⟨unread, undropped, empty, unqueued, _⟩ := queued_step_of_absent present event
      have before : hub.waiting ref = [] := by rw [waiting, present, Option.elim_none]
      rw [unread, undropped, empty, unqueued, before]
      rfl
  | some conn =>
  by_cases member : ref ∈ hub.reached event
  · -- What leaves the queue alone hands out nothing, discards nothing and queues nothing.
    have quiet (waits : ∀ conn, (event.effect conn).outbound? = conn.outbound?)
        (noRead : event ≠ .receive ref) (noDrop : hub.discarded ref event = [])
        (noData : hub.queued? ref event = none) :
        (handed? ref (event, (hub.step event).1)).toList ++ hub.discarded ref event ++
            (hub.step event).2.waiting ref =
          hub.waiting ref ++ (hub.queued? ref event).toList := by
      have same :=
        Connection.iterate_same Connection.outbound? waits ((hub.reached event).count ref) conn
      rw [handed?_eq_none noRead, noDrop, noData, waiting_of_present (getElem?_step present event),
        waiting_of_present present, same]
      simp
    cases event with
    | broadcast t channel payload =>
        rw [handed?_eq_none (by simp), waiting, waiting, present,
          tidy.broadcast_step present member, Option.elim_some, Option.elim_some,
          Connection.waiting_trySend, queued?, present, Option.any_some]
        by_cases taken : (conn.trySend payload).1 = .queued
        · simp [discarded, member, taken]
        · simp [discarded, taken]
    | receive other =>
        obtain rfl := List.mem_singleton.1 member
        have undropped : hub.discarded ref (.receive ref) = [] := rfl
        have unqueued : hub.queued? ref (.receive ref) = none := rfl
        rw [undropped, List.append_nil, handed_receive present, unqueued, Option.toList_none,
          List.append_nil]
    | dropQueues other =>
        obtain rfl := List.mem_singleton.1 member
        obtain ⟨later, there, gone⟩ := gone_dropQueues present
        rw [waiting_of_present there, gone, discarded, if_pos rfl, handed?_eq_none (by simp)]
        rfl
    | detach t other => exact quiet (fun _ => rfl) (by simp) rfl rfl
    | terminate | terminateAll =>
        exact quiet Connection.outbound?_terminate (by simp) rfl rfl
    | probe | advance => exact quiet Connection.outbound?_probe (by simp) rfl rfl
    | receiveControl => exact quiet Connection.outbound?_receiveControl (by simp) rfl rfl
    | attach | markAlive | spawnMonitor => exact quiet (fun _ => rfl) (by simp) rfl rfl
  · rw [handed?_of_not_mem member, discarded_of_not_mem member, queued?_of_not_mem member,
      waiting, waiting, getElem?_step_of_not_mem present member, present]
    simp

/-- A connection counts what is queued for it. -/
theorem delivered_step (tidy : Tidy homes hub) (ref : ConnRef) (event : Event) :
    (hub.step event).2.deliveredTo ref =
      hub.deliveredTo ref + UInt64.ofNat (hub.queued? ref event).toList.length := by
  cases present : hub.connections[ref]? with
  | none =>
      obtain ⟨_, _, _, unqueued, begins⟩ := queued_step_of_absent present event
      rw [begins, unqueued, deliveredTo, present]
      rfl
  | some conn =>
  by_cases member : ref ∈ hub.reached event
  · by_cases noData : ∀ t channel payload, event ≠ .broadcast t channel payload
    · have same := Connection.iterate_same Connection.tally (Event.tally_effect noData)
        ((hub.reached event).count ref) conn
      rw [queued?_eq_none noData, deliveredTo, deliveredTo, getElem?_step present, present]
      exact (congrArg Prod.fst same).trans (UInt64.add_zero _).symm
    · obtain ⟨t, channel, payload, rfl⟩ : ∃ t channel payload,
          event = .broadcast t channel payload := by simpa using noData
      have counted : (conn.trySend payload).2.delivered =
          conn.delivered + (conn.trySend payload).1.mark.1 :=
        congrArg Prod.fst (conn.tally_trySend payload)
      rw [deliveredTo, deliveredTo, present, tidy.broadcast_step present member,
        Option.elim_some, Option.elim_some, counted, queued?, present, Option.any_some]
      cases outcome : (conn.trySend payload).1 <;> simp [member, SendOutcome.mark]
  · rw [queued?_of_not_mem member, deliveredTo, deliveredTo,
      getElem?_step_of_not_mem present member, present]
    exact (UInt64.add_zero _).symm

end Tidy

/-! ### Runs -/

/-- Once its queues are gone, nothing of a connection is handed out or discarded any more. -/
theorem nothing_of_gone (present : hub.connections[ref]? = some conn)
    (gone : conn.outbound? = none) (events : List Event) :
    hub.receivedFrom ref events = [] ∧ hub.discardedFrom ref events = [] := by
  induction events generalizing hub conn with
  | nil => exact ⟨rfl, rfl⟩
  | cons event others ih =>
      have later := getElem?_step present event
      have still : (event.effect^[(hub.reached event).count ref] conn).outbound? = none :=
        Function.Iterate.rec (fun conn : Connection => conn.outbound? = none) gone
          (fun _ => Event.effect_of_gone) _
      obtain ⟨unread, undropped⟩ := ih later still
      have silent : handed? ref (event, (hub.step event).1) = none := by
        by_cases reads : event = .receive ref
        · subst reads
          rw [outcome_receive, present, Option.elim_some, Connection.receive_of_none gone]
          rfl
        · exact handed?_eq_none reads _
      have nothing : hub.discarded ref event = [] := by
        cases event with
        | dropQueues other => simp [discarded, waiting_of_present present, gone]
        | _ => rfl
      rw [receivedFrom_cons, discardedFrom, silent, unread, nothing, undropped]
      exact ⟨rfl, rfl⟩

namespace Tidy

/-- Whatever is queued for a connection in a run is received, or is discarded with its queue, or
still waits. -/
theorem queuedOn_eq (tidy : Tidy homes hub) (ref : ConnRef) (events : List Event) :
    hub.receivedFrom ref events ++ hub.discardedFrom ref events ++ (hub.run events).2.waiting ref =
      hub.waiting ref ++ hub.queuedOn ref events := by
  induction events generalizing homes hub with
  | nil => exact (List.append_nil _).symm
  | cons event others ih =>
      have first := tidy.queued_step ref event
      have rest := ih (tidy.step event)
      -- What is discarded now can trade places with what is received later: there is only one of it.
      have apart : (hub.step event).2.receivedFrom ref others = [] ∨
          hub.discarded ref event = [] := by
        cases event with
        | dropQueues other =>
            by_cases same : other = ref
            · subst same
              cases present : hub.connections[other]? with
              | none => exact .inr (queued_step_of_absent present (.dropQueues other)).2.1
              | some conn =>
                  obtain ⟨later, there, gone⟩ := gone_dropQueues present
                  exact .inl (nothing_of_gone there gone others).1
            · exact .inr (if_neg same)
        | _ => exact .inr rfl
      calc hub.receivedFrom ref (event :: others) ++ hub.discardedFrom ref (event :: others) ++
            ((hub.step event).2.run others).2.waiting ref
          = (handed? ref (event, (hub.step event).1)).toList ++ hub.discarded ref event ++
              ((hub.step event).2.receivedFrom ref others ++
                (hub.step event).2.discardedFrom ref others ++
                ((hub.step event).2.run others).2.waiting ref) := by
            rw [receivedFrom_cons, discardedFrom]
            rcases apart with none | none <;> simp [none]
        _ = hub.waiting ref ++ ((hub.queued? ref event).toList ++
              (hub.step event).2.queuedOn ref others) := by
            rw [rest, ← List.append_assoc, first, List.append_assoc]

/-- A connection counts as delivered what is queued for it in a run. -/
theorem delivered_run (tidy : Tidy homes hub) (ref : ConnRef) (events : List Event) :
    (hub.run events).2.deliveredTo ref =
      hub.deliveredTo ref + UInt64.ofNat (hub.queuedOn ref events).length := by
  induction events generalizing homes hub with
  | nil => exact (UInt64.add_zero _).symm
  | cons event others ih =>
      rw [run_cons, ih (tidy.step event), tidy.delivered_step, queuedOn, List.length_append,
        UInt64.ofNat_add, UInt64.add_assoc]

end Tidy

end Hub

end LiveRelay
