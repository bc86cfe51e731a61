/-
Module: LiveRelay.Proofs.Hub.Standing
Purpose: What an event leaves of a connection that it does not end: which events keep its queues and
  its state, unless it is terminated, and which of these leave what waits for it alone as well.
Main exports: Connection.Survives, Connection.Stays, Hub.Event.ends, Hub.Event.touches,
  Hub.survives_step, Hub.survives_receive_step, Hub.Sound.mem_listedBy, Hub.Resident.stays,
  Hub.Resident.offered
-/
import LiveRelay.Proofs.Connection.Outbound
import LiveRelay.Proofs.Hub.Tidy

namespace LiveRelay

open Net

namespace Connection

/-- A later state of a connection whose queues nobody dropped and that nobody detached: as long as it
is not terminated, it stands as it stood. -/
structure Survives (before after : Connection) : Prop where
  attended : before.outbound? ≠ none → after.outbound? ≠ none
  running : after.terminated = false → before.terminated = false ∧ after.state = before.state

/-- A later state of a connection for which the same payloads wait. -/
structure Stays (before after : Connection) : Prop where
  waits : after.outbound? = before.outbound?
  running : after.terminated = false → before.terminated = false ∧ after.state = before.state

variable {conn middle after : Connection} {f : Connection → Connection}

theorem Stays.survives (stays : conn.Stays after) : conn.Survives after where
  attended := fun attended => stays.waits ▸ attended
  running := stays.running

theorem Stays.refl (conn : Connection) : conn.Stays conn := ⟨rfl, fun running => ⟨running, rfl⟩⟩

theorem Stays.trans (one : conn.Stays middle) (two : middle.Stays after) : conn.Stays after where
  waits := two.waits.trans one.waits
  running := fun running =>
    have still := two.running running
    have before := one.running still.1
    ⟨before.1, still.2.trans before.2⟩

theorem Survives.refl (conn : Connection) : conn.Survives conn := (Stays.refl conn).survives

theorem Survives.trans (one : conn.Survives middle) (two : middle.Survives after) :
    conn.Survives after where
  attended := fun attended => two.attended (one.attended attended)
  running := fun running =>
    have still := two.running running
    have before := one.running still.1
    ⟨before.1, still.2.trans before.2⟩

/-- What holds at each step of a walk holds over all its steps. -/
theorem iterate_of_step {R : Connection → Connection → Prop} (refl : ∀ conn, R conn conn)
    (trans : ∀ {one two three}, R one two → R two three → R one three)
    (each : ∀ conn, R conn (f conn)) (n : Nat) (conn : Connection) : R conn (f^[n] conn) := by
  induction n generalizing conn with
  | zero => exact refl conn
  | succ n ih => exact trans (each conn) (ih (f conn))

theorem stays_terminate (conn : Connection) : conn.Stays conn.terminate where
  waits := outbound?_terminate conn
  running := by
    intro running
    unfold terminate at running ⊢
    split at running
    · next already => cases already.symm.trans running
    · cases running

theorem stays_markAlive (conn : Connection) : conn.Stays conn.markAlive :=
  ⟨rfl, fun running => ⟨running, rfl⟩⟩

theorem stays_receiveControl (conn : Connection) : conn.Stays conn.receiveControl.2 where
  waits := outbound?_receiveControl conn
  running := by
    obtain ⟨queues, same⟩ := snd_receiveControl conn
    rw [same]
    exact fun running => ⟨running, rfl⟩

theorem stays_probe (conn : Connection) : conn.Stays conn.probe.2 where
  waits := outbound?_probe conn
  running := by
    rw [snd_probe]
    split
    · exact fun running => ⟨running, rfl⟩
    · split
      · obtain ⟨queues, same⟩ := snd_ping conn.takeAlive.2
        rw [same]
        exact fun running => ⟨running, rfl⟩
      · exact (stays_terminate conn.takeAlive.2).running

theorem survives_receive (conn : Connection) : conn.Survives conn.receive.2 where
  attended := by
    intro attended
    obtain ⟨waits, present⟩ := Option.ne_none_iff_exists'.1 attended
    rcases receive_of_outbound present with ⟨_, _, rest⟩ | ⟨_, _, _, _, rest⟩ <;> simp [rest]
  running := by
    obtain ⟨queues, same⟩ := snd_receive conn
    rw [same]
    exact fun running => ⟨running, rfl⟩

theorem survives_trySend (conn : Connection) (payload : Payload) :
    conn.Survives (conn.trySend payload).2 where
  attended := by
    intro attended
    obtain ⟨waits, present⟩ := Option.ne_none_iff_exists'.1 attended
    rw [outbound?_trySend present]
    simp
  running := by
    intro running
    rcases trySend_cases conn payload with
      ⟨_, outcome⟩ | ⟨_, _, outcome⟩ | ⟨_, _, _, _, outcome⟩ | ⟨_, _, _, _, outcome⟩
    all_goals rw [outcome] at running ⊢
    · exact ⟨running, rfl⟩
    · exact ⟨running, rfl⟩
    · exact ⟨running, rfl⟩
    · unfold overflowed at running ⊢
      split at running
      · exact ⟨running, rfl⟩
      · exact (stays_terminate { conn with dropped := conn.dropped + 1 }).running running

end Connection

namespace Hub

/-- Whether an event drops the queues of a connection or detaches it. -/
def Event.ends (ref : ConnRef) : Event → Prop
  | .detach _ other | .dropQueues other => other = ref
  | _ => False

/-- Whether an event reads from a connection or offers it a payload. -/
def Event.touches (home : Attachment) (ref : ConnRef) : Event → Prop
  | .receive other => other = ref
  | .broadcast t channel _ => home.topic = t ∧ home.channel = some channel
  | _ => False

variable {homes : List Attachment} {hub : Hub} {ref : ConnRef} {home : Attachment}
  {conn : Connection} {event : Event}

/-- A connection that an event does not reach stays as it is. -/
theorem getElem?_step_of_not_mem (present : hub.connections[ref]? = some conn)
    (missed : ref ∉ hub.reached event) : (hub.step event).2.connections[ref]? = some conn := by
  rw [getElem?_step present, List.count_eq_zero.2 missed]
  rfl

/-- Only data, the reader, the end of the reader and a detachment do more to the connections that
they reach than terminate them. -/
theorem Event.effect_cases (event : Event) :
    (∃ t ref, event = .detach t ref) ∨ (∃ ref, event = .dropQueues ref) ∨
    (∃ ref, event = .receive ref) ∨ (∃ t channel payload, event = .broadcast t channel payload) ∨
    ∀ conn, Connection.Stays conn (event.effect conn) := by
  have quiet {P Q R S : Prop} (each : ∀ conn, Connection.Stays conn (event.effect conn)) :
      P ∨ Q ∨ R ∨ S ∨ ∀ conn, Connection.Stays conn (event.effect conn) :=
    .inr (.inr (.inr (.inr each)))
  cases event with
  | attach t peer channel => exact quiet .refl
  | detach t ref => exact .inl ⟨t, ref, rfl⟩
  | broadcast t channel payload => exact .inr (.inr (.inr (.inl ⟨t, channel, payload, rfl⟩)))
  | probe t => exact quiet Connection.stays_probe
  | terminateAll t => exact quiet Connection.stays_terminate
  | terminate ref => exact quiet Connection.stays_terminate
  | markAlive ref => exact quiet Connection.stays_markAlive
  | receive ref => exact .inr (.inr (.inl ⟨ref, rfl⟩))
  | receiveControl ref => exact quiet Connection.stays_receiveControl
  | dropQueues ref => exact .inr (.inl ⟨ref, rfl⟩)
  | spawnMonitor t => exact quiet .refl
  | advance span => exact quiet Connection.stays_probe

theorem ends_of_mem_reached {event : Event}
    (ending : (∃ t ref, event = .detach t ref) ∨ ∃ ref, event = .dropQueues ref)
    (member : ref ∈ hub.reached event) : event.ends ref := by
  rcases ending with ⟨t, other, rfl⟩ | ⟨other, rfl⟩
  · rw [reached] at member
    split at member
    · exact (List.mem_singleton.1 member).symm
    · cases member
  · exact (List.mem_singleton.1 member).symm

/-- An event that neither drops the queues of a connection nor detaches it leaves it standing. -/
theorem survives_step (present : hub.connections[ref]? = some conn) (spared : ¬ event.ends ref) :
    ∃ later, (hub.step event).2.connections[ref]? = some later ∧ conn.Survives later := by
  by_cases member : ref ∈ hub.reached event
  · refine ⟨_, getElem?_step present event, Connection.iterate_of_step .refl .trans ?_ _ conn⟩
    rcases event.effect_cases with
      detach | drop | ⟨other, rfl⟩ | ⟨t, channel, payload, rfl⟩ | each
    · exact absurd (ends_of_mem_reached (.inl detach) member) spared
    · exact absurd (ends_of_mem_reached (.inr drop) member) spared
    · exact Connection.survives_receive
    · exact fun conn => Connection.survives_trySend conn payload
    · exact fun conn => (each conn).survives
  · exact ⟨conn, getElem?_step_of_not_mem present member, .refl conn⟩

/-- What the reader of a connection is handed is the first payload that waits. -/
theorem survives_receive_step {payload : Payload} (present : hub.connections[ref]? = some conn)
    (handed : (hub.step (.receive ref)).1 = .received (.item payload)) :
    ∃ later, (hub.step (.receive ref)).2.connections[ref]? = some later ∧ conn.Survives later ∧
      conn.waiting = payload :: later.waiting := by
  obtain ⟨later, reached, survives⟩ : ∃ later,
      (hub.step (.receive ref)).2.connections[ref]? = some later ∧ conn.Survives later :=
    survives_step present id
  refine ⟨later, reached, survives, ?_⟩
  have once : (hub.reached (.receive ref)).count ref = 1 := by simp [Hub.reached]
  rw [getElem?_step present, once] at reached
  obtain rfl : conn.receive.2 = later := Option.some.inj reached
  rw [outcome_receive, present] at handed
  have first : conn.receive.1 = .item payload := Outcome.received.inj handed
  rw [Connection.waiting_eq, Connection.waiting_eq]
  cases attended : conn.outbound? with
  | none =>
      rw [Connection.receive_of_none attended] at first
      cases first
  | some waits =>
      rcases Connection.receive_of_outbound attended with
        ⟨_, nothing, _⟩ | ⟨_, others, rfl, taken, rest⟩
      · cases nothing.symm.trans first
      · cases taken.symm.trans first
        rw [rest]
        rfl

/-- A connection that is open is registered under the channel that it asked for, if its topic
accepts the channel. -/
theorem Sound.mem_listedBy (sound : Sound homes hub) (found : homes[ref]? = some home)
    (present : hub.connections[ref]? = some conn) (opened : conn.state = .open)
    {channel : Channel} (asked : home.channel = some channel)
    (accepted : hub.subscribes home = true) : ref ∈ hub.listedBy home.topic channel := by
  obtain ⟨topic, spot⟩ := (⟨found, present⟩ : Holds homes hub ref home conn).spot sound
  rw [spot.subscribes, asked, Option.any_some] at accepted
  have member := (spot.mem_openMembers sound).2 ⟨asked, accepted, opened⟩
  rw [listedBy, named_of_here spot.here]
  exact (List.mem_filter.1 member).1

namespace Resident

/-- An event that does not read from a connection either, and offers it nothing, leaves what waits
for it alone. -/
theorem stays (resident : Resident homes hub ref home)
    (present : hub.connections[ref]? = some conn) (spared : ¬ event.ends ref)
    (untouched : ¬ event.touches home ref) :
    ∃ later, (hub.step event).2.connections[ref]? = some later ∧ conn.Stays later := by
  by_cases member : ref ∈ hub.reached event
  · refine ⟨_, getElem?_step present event, Connection.iterate_of_step .refl .trans ?_ _ conn⟩
    rcases event.effect_cases with
      detach | drop | ⟨other, rfl⟩ | ⟨t, channel, payload, rfl⟩ | each
    · exact absurd (ends_of_mem_reached (.inl detach) member) spared
    · exact absurd (ends_of_mem_reached (.inr drop) member) spared
    · exact absurd (List.mem_singleton.1 member).symm untouched
    · obtain ⟨own, asked, _⟩ :=
        resident.tidy.home_of_mem_listedBy resident.found (List.mem_filter.1 member).1
      exact absurd ⟨own, asked⟩ untouched
    · exact each
  · exact ⟨conn, getElem?_step_of_not_mem present member, .refl conn⟩

/-- A payload that is broadcast on the channel of a connection joins what waits for it, or it does
not; it does where the connection is registered and open and has room. -/
theorem offered (resident : Resident homes hub ref home)
    (present : hub.connections[ref]? = some conn) {waits : List Payload}
    (attended : conn.outbound? = some waits) (t : Nat) (channel : Channel) (payload : Payload) :
    ∃ later, (hub.step (.broadcast t channel payload)).2.connections[ref]? = some later ∧
      conn.Survives later ∧
      later.outbound? = some (waits ++
        if ref ∈ hub.listedBy t channel ∧ conn.state = .open ∧ waits.length < conn.capacity
        then [payload] else []) := by
  obtain ⟨later, reached, survives⟩ : ∃ later,
      (hub.step (.broadcast t channel payload)).2.connections[ref]? = some later ∧
        conn.Survives later := survives_step present id
  refine ⟨later, reached, survives, ?_⟩
  have isOpen : hub.isOpen ref = true ↔ conn.state = .open := by
    simp [Hub.isOpen, present, Connection.isOpen]
  have count : (hub.reached (.broadcast t channel payload)).count ref = _ :=
    resident.tidy.count_listedBy t channel
  simp only [getElem?_step present, count, isOpen, Option.some.injEq] at reached
  subst reached
  by_cases listed : ref ∈ hub.listedBy t channel
  · by_cases opened : conn.state = .open
    · have once : Event.effect (.broadcast t channel payload) conn = (conn.trySend payload).2 := rfl
      simp only [listed, opened, and_self, if_true, Function.iterate_one, true_and, once,
        Connection.outbound?_trySend attended]
    · simp [opened, attended]
  · simp [listed, attended]

end Resident

end Hub

end LiveRelay
