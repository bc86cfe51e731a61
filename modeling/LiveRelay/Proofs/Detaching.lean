/-
Module: LiveRelay.Proofs.Detaching
Purpose: Detaching a connection, as an operation on a topic and all connections. To do it again changes
  nothing, for several connections the order makes no difference, and it touches nothing that does not
  belong to the connection.
Main exports: Table.erase_erase, Table.erase_comm, Topic.release_eq, Topic.release_release,
  Topic.release_comm, Topic.Detaches, Topic.detach_laws
-/
import LiveRelay.Proofs.Hub.Numbered
import LiveRelay.Proofs.Topic.Bindings

namespace LiveRelay

open Net Connections

/-! ### Tables -/

namespace Table

variable {κ ν : Type} [DecidableEq κ] {key other : κ}

omit [DecidableEq κ] in
theorem ext_entries {one two : Table κ ν} (same : one.entries = two.entries) : one = two := by
  obtain ⟨_, _⟩ := one
  obtain ⟨_, _⟩ := two
  cases same
  rfl

theorem erase_erase (table : Table κ ν) (key : κ) : (table.erase key).erase key = table.erase key := by
  apply ext_entries
  simp only [erase, without, List.filter_filter, Bool.and_self]

theorem erase_comm (table : Table κ ν) (key other : κ) :
    (table.erase key).erase other = (table.erase other).erase key := by
  apply ext_entries
  simp only [erase, without, List.filter_filter]
  exact List.filter_congr fun _ _ => Bool.and_comm _ _

theorem erase_of_absent {table : Table κ ν} (absent : table.contains key = false) :
    table.erase key = table := by
  apply ext_entries
  refine List.filter_eq_self.2 fun entry member => ?_
  simpa using List.any_eq_false.1 absent entry member

theorem contains_erase (table : Table κ ν) (key other : κ) :
    (table.erase key).contains other = if other = key then false else table.contains other := by
  rw [contains_eq_isSome_get?, get?_erase, contains_eq_isSome_get?]
  split <;> rfl

end Table

namespace Connections

variable {conns : Connections} {ref other : ConnRef} {f g : Connection → Connection}

theorem update_update : (conns.update ref f).update ref g = conns.update ref fun conn => g (f conn) :=
  List.modify_modify_eq ..

theorem update_comm (different : ref ≠ other) :
    (conns.update ref f).update other g = (conns.update other g).update ref f := by
  apply eq_update
  · rw [getElem?_update_of_ne (Ne.symm different), getElem?_update_self,
      getElem?_update_of_ne (Ne.symm different)]
  · intro place elsewhere
    by_cases here : other = place
    · subst here
      rw [getElem?_update_self, getElem?_update_self, getElem?_update_of_ne different]
    · rw [getElem?_update_of_ne here, getElem?_update_of_ne elsewhere, getElem?_update_of_ne here]

theorem update_of_none (absent : conns[ref]? = none) : conns.update ref f = conns :=
  List.modify_eq_self (List.getElem?_eq_none_iff.1 absent)

end Connections

/-! ### Letting a connection go -/

/-- A registry without what a connection is registered for, if it asked for a channel. -/
def Registry.released (registry : Registry) (id : ConnId) : Option Channel → Registry
  | none => registry
  | some name => { registry with members := registry.members.erase (name, id) }

namespace Registry

variable {registry : Registry}

theorem released_released (registry : Registry) (id : ConnId) (channel : Option Channel) :
    (registry.released id channel).released id channel = registry.released id channel := by
  cases channel with
  | none => rfl
  | some name => simp only [released, Table.erase_erase]

theorem released_comm (registry : Registry) (one two : ConnId) (first second : Option Channel) :
    (registry.released one first).released two second =
      (registry.released two second).released one first := by
  cases first with
  | none => rfl
  | some name =>
      cases second with
      | none => rfl
      | some other => simp only [released, Table.erase_comm _ (name, one)]

end Registry

namespace Topic

variable {topic : Topic} {conns : Connections} {ref : ConnRef} {conn : Connection}

/-- The connection leaves both tables, and is counted as closed if it was tracked. -/
theorem release_eq (topic : Topic) (id : ConnId) (channel : Option Channel) :
    topic.release id channel =
      { topic with
        registry := topic.registry.released id channel
        tracker := topic.tracker.erase id
        stats :=
          if topic.tracker.contains id then topic.stats.connectionClosed else topic.stats } := by
  have withdrawn : topic.withdraw id channel =
      { topic with registry := topic.registry.released id channel } := by
    cases channel <;> rfl
  rw [release, withdrawn, untrack]
  split
  · rfl
  · next untracked => rw [Table.erase_of_absent (Bool.eq_false_iff.2 untracked)]

theorem release_release (topic : Topic) (id : ConnId) (channel : Option Channel) :
    (topic.release id channel).release id channel = topic.release id channel := by
  simp only [release_eq, Registry.released_released, Table.erase_erase, Table.contains_erase,
    if_true, Bool.false_eq_true, if_false]

theorem release_comm (topic : Topic) (one two : ConnId) (first second : Option Channel) :
    (topic.release one first).release two second =
      (topic.release two second).release one first := by
  have counted : ((topic.release one first).release two second).stats =
      ((topic.release two second).release one first).stats := by
    simp only [release_eq, Table.contains_erase]
    by_cases same : two = one
    · simp [same]
    · rw [if_neg same, if_neg (Ne.symm same)]
      split <;> split <;> rfl
  simp only [release_eq] at counted ⊢
  simp only [mk.injEq, true_and, and_true]
  exact ⟨topic.registry.released_comm one two first second, topic.tracker.erase_comm one two,
    counted⟩

/-! ### Detaching several times, and several connections -/

theorem detach_of_none (absent : conns[ref]? = none) : topic.detach conns ref = (topic, conns) := by
  rw [detach, absent]

/-- To detach a connection a second time changes nothing. -/
theorem detach_detach (topic : Topic) (conns : Connections) (ref : ConnRef) :
    (topic.detach conns ref).1.detach (topic.detach conns ref).2 ref = topic.detach conns ref := by
  cases present : conns[ref]? with
  | none =>
      rw [detach_of_none present]
      exact detach_of_none present
  | some conn =>
      have later : (conns.update ref fun conn => conn.beginClose.finishClose)[ref]? =
          some conn.beginClose.finishClose := by
        rw [getElem?_update_self, present, Option.map_some]
      rw [detach_eq present, detach_eq later]
      exact Prod.ext (topic.release_release conn.id conn.channel) update_update

theorem getElem?_detach_of_ne {other : ConnRef} (different : ref ≠ other) :
    (topic.detach conns ref).2[other]? = conns[other]? := by
  cases present : conns[ref]? with
  | none => rw [detach_of_none present]
  | some conn => rw [detach_eq present, getElem?_update_of_ne different]

/-- In which order connections are detached makes no difference. -/
theorem detach_comm (topic : Topic) (conns : Connections) (one two : ConnRef) :
    (topic.detach conns one).1.detach (topic.detach conns one).2 two =
      (topic.detach conns two).1.detach (topic.detach conns two).2 one := by
  by_cases same : one = two
  · rw [same]
  have first : (topic.detach conns two).2[one]? = conns[one]? := getElem?_detach_of_ne (Ne.symm same)
  have second : (topic.detach conns one).2[two]? = conns[two]? := getElem?_detach_of_ne same
  cases here : conns[one]? with
  | none =>
      rw [detach_of_none (first.trans here), detach_of_none here]
  | some conn =>
  cases there : conns[two]? with
  | none =>
      rw [detach_of_none (second.trans there), detach_of_none there]
  | some other =>
      rw [detach_eq (second.trans there), detach_eq (first.trans here), detach_eq here,
        detach_eq there]
      exact Prod.ext (topic.release_comm conn.id other.id conn.channel other.channel)
        (update_comm same)

/-- Whether a connection was terminated before it is detached shows in nothing but that it is. -/
theorem detach_terminate (topic : Topic) (conns : Connections) (ref : ConnRef) :
    topic.detach (conns.update ref Connection.terminate) ref =
      ((topic.detach conns ref).1,
        (topic.detach conns ref).2.update ref fun conn => { conn with terminated := true }) := by
  cases present : conns[ref]? with
  | none => rw [update_of_none present, detach_of_none present, update_of_none present]
  | some conn =>
      have later : (conns.update ref Connection.terminate)[ref]? = some conn.terminate := by
        rw [getElem?_update_self, present, Option.map_some]
      have id : conn.terminate.id = conn.id :=
        congrArg (fun bond => bond.id) conn.bond_terminate
      have channel : conn.terminate.channel = conn.channel :=
        congrArg (fun bond => bond.channel) conn.bond_terminate
      have ended (conn : Connection) : conn.terminate.beginClose.finishClose =
          { conn.beginClose.finishClose with terminated := true } := by
        unfold Connection.terminate
        split
        · next already =>
          obtain ⟨_, _, _, _, _, _, _, _, _, _, _⟩ := conn
          cases already
          rfl
        · rfl
      rw [detach_eq later, detach_eq present, id, channel, update_update, update_update]
      simp only [ended]

end Topic

/-! ### What belongs to a connection -/

theorem Registry.entries_released (registry : Registry) (id : ConnId) (channel : Option Channel) :
    (registry.released id channel).members.entries =
      registry.members.entries.filter fun entry =>
        ¬ (channel = some entry.1.1 ∧ entry.1.2 = id) := by
  cases channel with
  | none => exact (List.filter_eq_self.2 fun _ _ => by simp).symm
  | some name =>
      refine List.filter_congr fun entry _ => ?_
      obtain ⟨⟨channel, number⟩, place⟩ := entry
      simp [eq_comm]

/-- What detaching a connection leaves of a topic and of the connections: only what the tables had of
this connection is gone, only this connection is closed, and it is no longer counted as active if it
was tracked. -/
structure Topic.Detaches (topic : Topic) (before : Connections) (ref : ConnRef) (conn : Connection)
    (later : Topic) (after : Connections) : Prop where
  registered : later.registry.members.entries =
    topic.registry.members.entries.filter fun entry => entry.2 ≠ ref
  tracked : later.tracker.entries = topic.tracker.entries.filter fun entry => entry.2 ≠ ref
  active : later.stats.connectionsActive =
    if ref ∈ topic.tracker.values then topic.stats.connectionsActive - 1
    else topic.stats.connectionsActive
  positive : ref ∈ topic.tracker.values →
    later.stats.connectionsActive.toNat + 1 = topic.stats.connectionsActive.toNat
  rest : later =
    { topic with
      registry := { topic.registry with members := later.registry.members }
      tracker := later.tracker
      stats := { topic.stats with connectionsActive := later.stats.connectionsActive } }
  others : ∀ other, other ≠ ref → after[other]? = before[other]?
  self : before[ref]? = some conn ∧ after[ref]? = some { conn with state := .closed }

namespace Topic

variable {homes : List Attachment} {conns : Connections} {t : Nat} {topic : Topic} {ref : ConnRef}
  {conn : Connection}

namespace Indexes

variable (indexes : Indexes homes (conns.map Connection.bond) t topic)
  (housed : Housed homes (conns.map Connection.bond) t ref conn.bond)

include indexes housed

/-- What is tracked under the number of a connection is this connection. -/
theorem tracked_own {entry : ConnId × ConnRef} (member : entry ∈ topic.tracker.entries) :
    entry.1 = conn.id ↔ entry.2 = ref := by
  obtain ⟨bond, there, own, _⟩ := (indexes.tracked entry.1 entry.2).1 member
  rw [← own]
  exact (indexes.sole housed).number_iff there

/-- What is registered where a connection would be is this connection, and it is registered nowhere
else. -/
theorem registered_own {entry : (Channel × ConnId) × ConnRef}
    (member : entry ∈ topic.registry.members.entries) :
    conn.channel = some entry.1.1 ∧ entry.1.2 = conn.id ↔ entry.2 = ref := by
  have sole := indexes.sole housed
  obtain ⟨bond, there, own, _, asked, _⟩ :=
    (indexes.registered entry.1.1 entry.1.2 entry.2).1 member
  rw [← own]
  constructor
  · exact fun found => (sole.number_iff there).1 found.2
  · intro same
    obtain rfl : bond = conn.bond := sole.same bond (same ▸ there)
    exact ⟨asked, rfl⟩

theorem contains_own : topic.tracker.contains conn.id = true ↔ ref ∈ topic.tracker.values := by
  rw [Table.contains_iff, Table.mem_values]
  constructor
  · rintro ⟨place, member⟩
    obtain rfl : place = ref := (indexes.tracked_own housed member).1 rfl
    exact ⟨_, member⟩
  · rintro ⟨id, member⟩
    obtain rfl : id = conn.id := (indexes.tracked_own housed member).2 rfl
    exact ⟨_, member⟩

/-- A topic has its own connections in its tables, each under its own number. -/
theorem detaches (tidy : Tidy homes t topic) (numbered : Numbered homes.length topic)
    (few : homes.length < UInt64.size) (present : conns[ref]? = some conn) :
    topic.Detaches conns ref conn (topic.detach conns ref).1 (topic.detach conns ref).2 := by
  have contains := indexes.contains_own housed
  constructor
  case registered =>
    rw [detach_eq present, release_eq, Registry.entries_released]
    refine List.filter_congr fun entry member => ?_
    simp only [indexes.registered_own housed member]
  case tracked =>
    rw [detach_eq present, release_eq]
    refine List.filter_congr fun entry member => ?_
    simp only [ne_eq, indexes.tracked_own housed member]
  case active =>
    rw [detach_eq present, release_eq]
    simp only [contains]
    split <;> rfl
  case positive =>
    intro tracked
    have size := Table.size_erase (contains.2 tracked)
    have most := tidy.size_le
    have active := numbered.active
    have later := (numbered.release conn.id conn.channel).active
    rw [release_eq] at later
    rw [detach_eq present, release_eq, active, later]
    change (UInt64.ofNat (topic.tracker.erase conn.id).size).toNat + 1 = _
    rw [UInt64.toNat_ofNat_of_lt' (by omega), UInt64.toNat_ofNat_of_lt' (by omega), size]
  case rest =>
    rw [detach_eq present, release_eq]
    cases conn.channel <;> split <;> rfl
  case others =>
    exact fun other different => getElem?_detach_of_ne (Ne.symm different)
  case self =>
    rw [detach_eq present, getElem?_update_self, present]
    exact ⟨rfl, rfl⟩

end Indexes

end Topic

/-! ### Payloads that wait -/

namespace Hub

variable {hub : Hub} {ref : ConnRef} {conn : Connection}

theorem step_receive (present : hub.connections[ref]? = some conn) :
    hub.step (.receive ref) =
      (.received conn.receive.1,
        { hub with connections := hub.connections.set ref conn.receive.2 }) := by
  simp [step, onConnection, act, present]

/-- The payloads that wait for a connection can be received one after another. -/
theorem run_receive (present : hub.connections[ref]? = some conn) :
    (hub.run (List.replicate conn.waiting.length (.receive ref))).1 =
      conn.waiting.map fun payload => .received (.item payload) := by
  induction waits : conn.waiting generalizing hub conn with
  | nil => rfl
  | cons payload others ih =>
      have attended : conn.outbound? = some (payload :: others) := by
        rw [Connection.waiting_eq] at waits
        cases held : conn.outbound? with
        | none => simp [held] at waits
        | some items => simpa [held] using waits
      rcases Connection.receive_of_outbound attended with ⟨none, _⟩ | ⟨first, rest, split, item, left⟩
      · cases none
      · cases split
        have within : ref < hub.connections.length := (List.getElem?_eq_some_iff.1 present).1
        have waiting : conn.receive.2.waiting = others := by
          rw [Connection.waiting_eq, left, Option.getD_some]
        have next : (hub.step (.receive ref)).2.connections[ref]? = some conn.receive.2 := by
          rw [step_receive present]
          exact List.getElem?_set_self within
        rw [List.length_cons, List.replicate_succ, run_cons, ih next waiting,
          step_receive present, item]
        rfl

theorem Fresh.numbered (fresh : hub.Fresh) : hub.Numbered := by
  intro _ t topic here
  obtain ⟨config, relay, rfl⟩ := fresh.topics topic (List.mem_of_getElem? here)
  exact (Topic.Numbered.new config relay).mono (Nat.zero_le _)

theorem Numbered.run (numbered : Numbered hub) (events : List Event) :
    Numbered (hub.run events).2 := by
  induction events generalizing hub with
  | nil => exact numbered
  | cons event others ih => exact ih (numbered.step event)

end Hub

/-! ### The laws -/

/-- Detaching, as an operation on a topic and all connections: done twice it does the same as once, of
two connections either may go first, and a connection that is terminated before is left as it would
have been, only terminated. On a hub, at any time, it takes out of a topic what belongs to the
connection and nothing else, and all that waits for the connection can still be received. The reason
for which a connection is detached is told in the log only. -/
theorem Topic.detach_laws :
    (∀ (topic : Topic) (conns : Connections) (one two : ConnRef),
      (topic.detach conns one).1.detach (topic.detach conns one).2 one = topic.detach conns one ∧
      (topic.detach conns one).1.detach (topic.detach conns one).2 two =
        (topic.detach conns two).1.detach (topic.detach conns two).2 one ∧
      topic.detach (conns.update one Connection.terminate) one =
        ((topic.detach conns one).1,
          (topic.detach conns one).2.update one fun conn => { conn with terminated := true })) ∧
    ∀ (hub : Hub) (events : List Hub.Event), hub.Fresh →
      Hub.Orderly (hub.attachments events) events →
      ∀ (ref : ConnRef) (home : Attachment), (hub.attachments events)[ref]? = some home →
        ∃ (topic : Topic) (conn : Connection),
          (hub.run events).2.topics[home.topic]? = some topic ∧
          topic.Detaches (hub.run events).2.connections ref conn
            (topic.detach (hub.run events).2.connections ref).1
            (topic.detach (hub.run events).2.connections ref).2 ∧
          ((hub.run events).2.step (.detach home.topic ref)).2 =
            { (hub.run events).2 with
              topics := (hub.run events).2.topics.set home.topic
                (topic.detach (hub.run events).2.connections ref).1
              connections := (topic.detach (hub.run events).2.connections ref).2 } ∧
          (((hub.run events).2.step (.detach home.topic ref)).2.run
              (List.replicate conn.waiting.length (.receive ref))).1 =
            conn.waiting.map fun payload => .received (.item payload) := by
  constructor
  · intro topic conns one two
    exact ⟨topic.detach_detach conns one, topic.detach_comm conns one two,
      topic.detach_terminate conns one⟩
  · intro hub events fresh orderly ref home found
    have sound := fresh.sound_run orderly
    have tidy := fresh.tidy_run events
    have numbered := fresh.numbered.run events
    generalize (hub.run events).2 = later at sound tidy numbered ⊢
    obtain ⟨topic, here⟩ : ∃ topic, later.topics[home.topic]? = some topic :=
      ⟨_, List.getElem?_eq_getElem (sound.placed home (List.mem_of_getElem? found))⟩
    obtain ⟨conn, present⟩ : ∃ conn, later.connections[ref]? = some conn :=
      ⟨_, List.getElem?_eq_getElem (sound.even ▸ (List.getElem?_eq_some_iff.1 found).1)⟩
    have housed : Housed (hub.attachments events) (later.connections.map Connection.bond) home.topic
        ref conn.bond := by
      refine ⟨?_, home, found, rfl⟩
      rw [List.getElem?_map, present, Option.map_some]
    have few : later.connections.length < UInt64.size := sound.even ▸ orderly.few
    have detaches := (sound.indexed home.topic topic here).detaches housed
      (tidy.tables home.topic topic here) (sound.even ▸ numbered few home.topic topic here)
      orderly.few present
    have step : (later.step (.detach home.topic ref)).2 =
        { later with
          topics := later.topics.set home.topic (topic.detach later.connections ref).1
          connections := (topic.detach later.connections ref).2 } := by
      rw [Hub.step_detach here present, Topic.detach_eq present]
    have closed : (later.step (.detach home.topic ref)).2.connections[ref]? =
        some { conn with state := .closed } := by
      rw [step]
      exact detaches.self.2
    have received := Hub.run_receive closed
    exact ⟨topic, conn, here, detaches, step, received⟩

/-- Three connections, of which two are sent two payloads each. The second is detached already. -/
def twoPayloads : List Hub.Event :=
  [.attach 0 default (some "a"), .attach 0 default (some "a"), .attach 0 default none,
    .broadcast 0 "a" [1], .broadcast 0 "a" [2], .detach 0 1]

/-- When the first is detached, the third alone is tracked and counted as active; the payloads can
still be received. The third may as well be detached before it. -/
theorem Topic.detach_laws_of_twoPayloads :
    let hub := ((Hub.new .twoTopics).run twoPayloads).2
    ∃ (topic : Topic) (conn : Connection),
      topic.Detaches hub.connections 0 conn (topic.detach hub.connections 0).1
        (topic.detach hub.connections 0).2 ∧
      (topic.detach hub.connections 0).1.tracker.values = [2] ∧
      (topic.detach hub.connections 0).1.stats.connectionsActive = 1 ∧
      ((hub.step (.detach 0 0)).2.run (List.replicate 2 (.receive 0))).1 =
        [.received (.item [1]), .received (.item [2])] ∧
      (topic.detach hub.connections 0).1.detach (topic.detach hub.connections 0).2 2 =
        (topic.detach hub.connections 2).1.detach (topic.detach hub.connections 2).2 0 := by
  intro hub
  obtain ⟨laws, hubs⟩ := Topic.detach_laws
  have orderly : Hub.Orderly ((Hub.new .twoTopics).attachments twoPayloads) twoPayloads := by
    decide +kernel
  obtain ⟨topic, conn, here, detaches, _, received⟩ :=
    hubs _ twoPayloads (Hub.fresh_new .twoTopics) orderly 0 ⟨0, default, some "a"⟩
      (by decide +kernel)
  have waits : hub.connections[0]?.any (fun conn => conn.waiting = [[1], [2]]) = true := by
    decide +kernel
  rw [detaches.self.1, Option.any_some, decide_eq_true_eq] at waits
  have left : hub.topics[0]?.any (fun topic =>
      (topic.detach hub.connections 0).1.tracker.values = [2] ∧
        (topic.detach hub.connections 0).1.stats.connectionsActive = 1) = true := by
    decide +kernel
  rw [here, Option.any_some, decide_eq_true_eq] at left
  rw [waits] at received
  exact ⟨topic, conn, detaches, left.1, left.2, received, (laws topic hub.connections 0 2).2.1⟩

end LiveRelay
