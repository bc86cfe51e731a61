/-
Module: LiveRelay.Proofs.Relay.Account
Purpose: What a subscriber has received together with what waits for it, from one event to the next:
  it grows by what its connection takes of what is offered to it, and by nothing else. A subscriber
  whose tasks have nothing to do has received all of it.
Main exports: Relay.account, Relay.takes, Relay.Ends, Relay.account_next, Relay.Thrives,
  Relay.takes_of_thrives, Relay.Linked.attended, Relay.Linked.waiting_eq_nil
-/
import LiveRelay.Proofs.Relay.Fate

namespace LiveRelay

open Net

namespace Relay

/-- What a subscriber has received, followed by what waits for it while it is attached. -/
def account (relay : Relay) (c : Nat) : List Payload :=
  relay.subscribers[c]?.elim [] Subscriber.received ++
    (relay.connectionOf? c).elim [] fun (_, _, conn) => conn.waiting

/-- Whether fewer payloads wait for a subscriber that is attached than its queue has room for. -/
def hasRoom (relay : Relay) (c : Nat) : Bool :=
  (relay.connectionOf? c).any fun (_, _, conn) => conn.waiting.length < conn.capacity

/-- Whether the connection of a subscriber takes what is offered to it: it is registered and open,
and its queue has room. -/
def takes (relay : Relay) (c : Nat) : Bool :=
  relay.hasRoom c && (relay.connectionOf? c).any fun (subscriber, ref, conn) =>
    subscriber.channel.any fun channel =>
      decide (ref ∈ relay.hub.listedBy subscriber.topic channel ∧ conn.state = .open)

/-- A subscriber that had not ended has ended, with what it had received. -/
def Ends (relay : Relay) (c : Nat) (after : Relay) : Prop :=
  ∃ earlier later, relay.subscribers[c]? = some earlier ∧ earlier.ending = none ∧
    after.subscribers[c]? = some later ∧ later.ending ≠ none ∧ later.received = earlier.received

/-- A subscriber that is there has not ended, and its connection is not terminated. -/
def Thrives (relay : Relay) (c : Nat) : Prop :=
  ∀ subscriber, relay.subscribers[c]? = some subscriber → subscriber.ending = none ∧
    ∀ ref conn, relay.connectionOf? c = some (subscriber, ref, conn) → conn.terminated = false

variable {homes : List Attachment} {relay after : Relay} {c : Nat} {event : Event}
  {subscriber : Subscriber} {ref : ConnRef} {conn : Connection}

/-! ### The account of a subscriber -/

theorem account_of_attached (attached : relay.connectionOf? c = some (subscriber, ref, conn)) :
    relay.account c = subscriber.received ++ conn.waiting := by
  rw [account, attached, (connectionOf?_eq_some_iff.1 attached).1]
  rfl

theorem account_of_unattached (absent : relay.connectionOf? c = none)
    (present : relay.subscribers[c]? = some subscriber) :
    relay.account c = subscriber.received := by
  rw [account, absent, present]
  exact List.append_nil _

theorem account_of_none (nobody : relay.subscribers[c]? = none) : relay.account c = [] := by
  rw [account, connectionOf?, nobody]
  rfl

theorem connectionOf?_of_unattached (present : relay.subscribers[c]? = some subscriber)
    (unattached : subscriber.connection = none ∨ subscriber.ending ≠ none) :
    relay.connectionOf? c = none := by
  rw [Option.eq_none_iff_forall_not_mem]
  rintro ⟨other, ref, conn⟩ attached
  obtain ⟨there, unended, connected, _⟩ := connectionOf?_eq_some_iff.1 attached
  obtain rfl := Option.some.inj (present.symm.trans there)
  rcases unattached with unattached | ended
  · cases unattached.symm.trans connected
  · exact ended unended

/-- A subscriber that is left alone keeps its account. -/
theorem Spares.account (linked : Linked homes relay) (spares : relay.Spares c after) :
    after.account c = relay.account c := by
  cases present : relay.subscribers[c]? with
  | none => rw [account_of_none present, account_of_none (spares.absent present)]
  | some subscriber =>
      cases attached : relay.connectionOf? c with
      | some found =>
          obtain ⟨one, ref, conn⟩ := found
          obtain ⟨later, other, still, alike, stays⟩ := spares.still attached
          rw [account_of_attached attached, account_of_attached still, alike.received,
            Connection.waiting_eq, Connection.waiting_eq, stays.waits]
      | none =>
          obtain ⟨later, there, alike⟩ := spares.subscriber subscriber present
          have unattached := linked.connectionOf?_eq_none attached present
          rw [← alike.connection, ← alike.ending] at unattached
          rw [account_of_unattached attached present,
            account_of_unattached (connectionOf?_of_unattached there unattached) there,
            alike.received]

/-- At one event the account of a subscriber grows by what is offered and taken, or the subscriber
ends, and what waited for it is lost. -/
theorem account_next (linked : Linked homes relay) (fate : Fate relay c event after) :
    after.account c =
      relay.account c ++ (if relay.takes c then (relay.offered? c event).toList else []) ∨
    (event = .turn c .read ∨ event = .turn c .reap) ∧ relay.Ends c after ∧
      (after.account c).Sublist (relay.account c) := by
  cases fate with
  | spared silent spares =>
      left
      rw [spares.account linked, silent, Option.toList_none, ite_self, List.append_nil]
  | joined nobody joins =>
      left
      -- It is not attached yet, so that nothing can be offered to it.
      have absent : relay.connectionOf? c = none := by rw [connectionOf?, nobody]
      rw [account_of_none nobody, takes, absent, Option.any_none, Bool.and_false,
        account_of_unattached (connectionOf?_of_unattached joins (.inl rfl)) joins]
      rfl
  | attached present fresh attaches nothing =>
      left
      have absent := connectionOf?_of_unattached present (.inl fresh)
      rw [account_of_unattached absent present, account_of_attached attaches, nothing, takes,
        absent, Option.any_none, Bool.and_false]
      rfl
  | @offered subscriber ref conn later channel payload attached asked offers still survives joins =>
      left
      have taken : relay.takes c = true ↔ ref ∈ relay.hub.listedBy subscriber.topic channel ∧
          conn.state = .open ∧ conn.waiting.length < conn.capacity := by
        simp only [takes, hasRoom, attached, Option.any_some, asked, Bool.and_eq_true,
          decide_eq_true_eq]
        tauto
      rw [account_of_attached attached, account_of_attached still, joins, offers,
        Option.toList_some, ← List.append_assoc, if_congr taken.symm rfl rfl]
  | wrote attached silent still survives written =>
      left
      rw [account_of_attached attached, account_of_attached still, written, silent,
        Option.toList_none, ite_self, List.append_nil, Subscriber.received_write]
      exact List.append_assoc _ _ _
  | ended attached turn present received ending =>
      obtain ⟨there, unended, _⟩ := connectionOf?_eq_some_iff.1 attached
      refine .inr ⟨turn, ⟨_, _, there, unended, present, ending, received⟩, ?_⟩
      rw [account_of_attached attached,
        account_of_unattached (connectionOf?_of_unattached present (.inr ending)) present, received]
      exact List.sublist_append_left _ _

/-! ### Subscribers that nothing stands in the way of -/

/-- A subscriber that thrives has thriven since it came. -/
theorem thrives_of_fate (fate : Fate relay c event after) (thrives : after.Thrives c) :
    relay.Thrives c := by
  -- A connection that is attached and of which the later one is not terminated.
  have running {subscriber one : Subscriber} {ref : ConnRef} {conn later : Connection}
      (attached : relay.connectionOf? c = some (subscriber, ref, conn))
      (still : after.connectionOf? c = some (one, ref, later))
      (runs : later.terminated = false → conn.terminated = false) : relay.Thrives c := by
    intro other here
    obtain ⟨present, unended, _⟩ := connectionOf?_eq_some_iff.1 attached
    obtain rfl := Option.some.inj (present.symm.trans here)
    refine ⟨unended, fun place there own => ?_⟩
    cases attached.symm.trans own
    exact runs ((thrives one (connectionOf?_eq_some_iff.1 still).1).2 ref later still)
  cases fate with
  | spared silent spares =>
      intro subscriber present
      obtain ⟨later, there, alike⟩ := spares.subscriber subscriber present
      refine ⟨alike.ending ▸ (thrives later there).1, fun ref conn attached => ?_⟩
      obtain ⟨_, other, still, _, stays⟩ := spares.still attached
      exact ((running attached still fun runs => (stays.running runs).1) subscriber present).2 ref
        conn attached
  | joined nobody joins =>
      intro subscriber present
      cases nobody.symm.trans present
  | attached present fresh attaches nothing =>
      intro subscriber here
      obtain rfl := Option.some.inj (present.symm.trans here)
      refine ⟨(connectionOf?_eq_some_iff.1 attaches).2.1, fun ref conn attached => ?_⟩
      cases (connectionOf?_of_unattached present (.inl fresh)).symm.trans attached
  | offered attached asked offers still survives joins =>
      exact running attached still fun runs => (survives.running runs).1
  | wrote attached silent still survives takes =>
      exact running attached still fun runs => (survives.running runs).1
  | ended attached turn present received ending =>
      exact absurd (thrives _ present).1 ending

/-- A subscriber that thrives takes what is offered to it as long as its queue has room, if its topic
accepts the channel that it asked for and numbers have not run out. -/
theorem takes_of_thrives (linked : Linked homes relay) (few : homes.length < UInt64.size)
    (thrives : relay.Thrives c) (attached : relay.connectionOf? c = some (subscriber, ref, conn))
    (accepted : relay.hub.subscribes subscriber.home = true) (room : relay.hasRoom c = true) :
    relay.takes c = true := by
  obtain ⟨present, _, connection, there⟩ := connectionOf?_eq_some_iff.1 attached
  have opened := (linked.standing c subscriber ref conn attached).2
    ((thrives subscriber present).2 ref conn attached)
  cases asked : subscriber.channel with
  | none => simp [Hub.subscribes, Subscriber.home, asked] at accepted
  | some channel =>
      have listed : ref ∈ relay.hub.listedBy subscriber.topic channel :=
        (linked.sound few).mem_listedBy (linked.attached c subscriber ref present connection) there
          opened asked accepted
      simp [takes, room, attached, asked, listed, opened]

/-- A subscriber that has not ended, and that is neither to be attached nor to be ended, is attached,
and its connection is not terminated. -/
theorem Linked.attended (linked : Linked homes relay)
    (present : relay.subscribers[c]? = some subscriber) (unended : subscriber.ending = none)
    (settled : ∀ task ≠ Task.write, relay.turn? c task = none) :
    ∃ ref conn, relay.connectionOf? c = some (subscriber, ref, conn) ∧ conn.terminated = false := by
  obtain ⟨ref, connection⟩ : ∃ ref, subscriber.connection = some ref := by
    cases connection : subscriber.connection with
    | some ref => exact ⟨ref, rfl⟩
    | none =>
        have idle : relay.attach? c = none := settled .attach (by decide)
        have placed := linked.placed c subscriber present
        simp [attach?, present, connection,
          Hub.step_attach (List.getElem?_eq_getElem placed)] at idle
  obtain ⟨conn, attached⟩ := linked.exists_connectionOf present connection unended
  have idle : relay.reap? c = none := settled .reap (by decide)
  exact ⟨ref, conn, attached, by simpa [reap?, attached] using idle⟩

/-- Nothing waits for an attached subscriber to which nothing is to be written. -/
theorem Linked.waiting_eq_nil (linked : Linked homes relay)
    (attached : relay.connectionOf? c = some (subscriber, ref, conn)) (idle : relay.write? c = none) :
    conn.waiting = [] := by
  -- The queue of an attached subscriber is there, so a payload in it would be handed over.
  obtain ⟨waits, attended⟩ :=
    Option.ne_none_iff_exists'.1 (linked.standing c subscriber ref conn attached).1
  rw [write?, attached] at idle
  dsimp only at idle
  split at idle
  · cases idle
  · split at idle
    · cases idle
    · next unread =>
      rw [Connection.waiting_eq, attended, Option.getD_some]
      rcases Connection.receive_of_outbound attended with
        ⟨rfl, _⟩ | ⟨payload, others, rfl, first, _⟩
      · rfl
      · have handed : (relay.hub.step (.receive ref)).1 = .received (.item payload) := by
          rw [Hub.outcome_receive, (connectionOf?_eq_some_iff.1 attached).2.2.2, ← first]
          rfl
        exact (unread payload _ (Prod.ext handed rfl)).elim

end Relay

end LiveRelay
