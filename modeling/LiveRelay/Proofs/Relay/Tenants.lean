/-
Module: LiveRelay.Proofs.Relay.Tenants
Purpose: The connections of a relay have one subscriber each, and a connection is closed for good
  exactly when its subscriber has ended. A topic tracks the connections of its subscribers that are
  attached and have not ended, and an event that ends a subscriber removes its connection.
Main exports: Tenant, Relay.upgrades, Relay.Moves, Relay.moves, Relay.Tenanted, Relay.Tenanted.run,
  Relay.mem_trackedBy_iff, Relay.mem_membersOf_iff, Relay.removals, Relay.removals_run
-/
import LiveRelay.Proofs.Relay.Linked
import LiveRelay.Proofs.Relay.Onward

namespace LiveRelay

open Net

/-- Where an entry of a list that gave nothing comes to give something, that is all that is new. -/
theorem filterMap_set_perm {α β : Type} {f : α → Option β} {entries : List α} {i : Nat}
    {entry later : α} {value : β} (present : entries[i]? = some entry) (nothing : f entry = none)
    (something : f later = some value) :
    ((entries.set i later).filterMap f).Perm (entries.filterMap f ++ [value]) := by
  induction entries generalizing i with
  | nil => cases present
  | cons first others ih =>
      cases i with
      | zero =>
          obtain rfl := Option.some.inj present
          rw [List.set_cons_zero, List.filterMap_cons_some something,
            List.filterMap_cons_none nothing]
          exact (List.perm_append_singleton value _).symm
      | succ i =>
          have rest := ih present
          rw [List.set_cons_succ, List.filterMap_cons, List.filterMap_cons]
          cases f first with
          | none => exact rest
          | some other => exact rest.cons other

/-! ### Tenants -/

/-- A subscriber as the tenant of its connection: what it asked for, the connection that it has, and
whether it has ended. -/
structure Tenant where
  home : Attachment
  connection : Option ConnRef
  hasLeft : Bool

/-- Whether a tenant has moved in and not left again. -/
def Tenant.isIn (tenant : Tenant) : Bool := tenant.connection.isSome && !tenant.hasLeft

def Subscriber.tenant (subscriber : Subscriber) : Tenant :=
  ⟨subscriber.home, subscriber.connection, subscriber.ending.isSome⟩

theorem Subscriber.Alike.tenant {subscriber later : Subscriber} (alike : subscriber.Alike later) :
    later.tenant = subscriber.tenant := by
  rw [Subscriber.tenant, alike.home, alike.connection, alike.ending]
  rfl

namespace Relay

def tenants (relay : Relay) : List Tenant := relay.subscribers.map Subscriber.tenant

/-- What lasts of the connections of a relay. -/
def bonds (relay : Relay) : List Bond := relay.hub.connections.map Connection.bond

/-- The upgrade that an event makes, if it is accepted: on which topic, by whom, and for which
channel. -/
def upgrade? (relay : Relay) : Event → Option Attachment
  | .connect t peer handshake =>
    if relay.isReachable then
      relay.hub.topics[t]?.bind fun topic =>
        (topic.answerHandshake handshake).toOption.map fun channel => ⟨t, peer, channel⟩
    else none
  | _ => none

/-- The upgrades that are accepted in a run. -/
def upgrades (relay : Relay) : List Event → List Attachment
  | [] => []
  | event :: others => (relay.upgrade? event).toList ++ (relay.step event).upgrades others

/-- What an event does to tenants and connections: nothing, or somebody comes, moves in, or leaves. -/
inductive Moves (relay : Relay) (event : Event) (after : Relay) : Prop
  | stays (nobody : relay.upgrade? event = none) (tenants : after.tenants = relay.tenants)
      (bonds : after.bonds = relay.bonds)
  | comes {home : Attachment} (accepted : relay.upgrade? event = some home)
      (tenants : after.tenants = relay.tenants ++ [⟨home, none, false⟩])
      (bonds : after.bonds = relay.bonds)
  | attaches {c : Nat} {home : Attachment} {bond : Bond} (nobody : relay.upgrade? event = none)
      (present : relay.tenants[c]? = some ⟨home, none, false⟩)
      (tenants : after.tenants = relay.tenants.set c ⟨home, some relay.bonds.length, false⟩)
      (bonds : after.bonds = relay.bonds ++ [bond]) (fresh : bond.isGone = false)
  | leaves {c : Nat} {home : Attachment} {ref : ConnRef} (nobody : relay.upgrade? event = none)
      (present : relay.tenants[c]? = some ⟨home, some ref, false⟩)
      (tenants : after.tenants = relay.tenants.set c ⟨home, some ref, true⟩)
      (bonds : after.bonds = relay.bonds.modify ref Bond.gone)

variable {homes : List Attachment} {relay after : Relay} {c d t : Nat} {event : Event}
  {events : List Event} {subscriber later : Subscriber} {tenant : Tenant} {ref : ConnRef}

theorem getElem?_tenants : relay.tenants[c]? = some tenant ↔
    ∃ subscriber, relay.subscribers[c]? = some subscriber ∧ subscriber.tenant = tenant := by
  rw [tenants, List.getElem?_map]
  exact Option.map_eq_some_iff

theorem getElem?_tenants_of_present (present : relay.subscribers[c]? = some subscriber) :
    relay.tenants[c]? = some subscriber.tenant := getElem?_tenants.2 ⟨subscriber, present, rfl⟩

theorem tenants_setSubscriber (relay : Relay) (c : Nat) (subscriber : Subscriber) :
    (relay.setSubscriber c subscriber).tenants = relay.tenants.set c subscriber.tenant :=
  List.map_set

/-- A subscriber is replaced by a state that has the same connection. -/
theorem tenants_setSubscriber_of_alike (present : relay.subscribers[c]? = some subscriber)
    (alike : subscriber.Alike later) : (relay.setSubscriber c later).tenants = relay.tenants :=
  map_set_of_eq present alike.tenant

/-! ### Every event -/

theorem moves_of_turned (linked : Linked homes relay) {task : Task}
    (nobody : relay.upgrade? event = none) (turned : Turned relay c task after) :
    Moves relay event after := by
  -- What reads or writes leaves everybody where they are.
  have serves {hubEvent : Hub.Event} {subscriber later : Subscriber} {ref : ConnRef}
      {conn : Connection} (attached : relay.connectionOf? c = some (subscriber, ref, conn))
      (tenant : later.tenant = subscriber.tenant)
      (goes : relay.hub.Continues (relay.hub.step hubEvent).2) :
      Moves relay event
        ((relay.withHub (relay.hub.step hubEvent).2).setSubscriber c later) :=
    .stays nobody (map_set_of_eq (connectionOf?_eq_some_iff.1 attached).1 tenant) goes.bonds
  cases turned with
  | @attached subscriber present fresh placed =>
      have unended := (linked.fresh c subscriber present fresh).2
      have here := List.getElem?_eq_getElem placed
      have was : relay.tenants[c]? = some ⟨subscriber.home, none, false⟩ := by
        rw [getElem?_tenants_of_present present, Subscriber.tenant, fresh, unended]
        rfl
      have opened : (relay.hub.topics[subscriber.topic].newConnection subscriber.peer
          subscriber.channel).markOpen.bond.isGone = false := by
        rw [Connection.bond_markOpen]
        rfl
      refine .attaches nobody was ?_ ?_ opened
      · rw [tenants_setSubscriber, Subscriber.tenant, bonds, List.length_map, unended]
        rfl
      · rw [Hub.step_attach here]
        exact List.map_append
  | @ended _ subscriber later ref conn attached _ alike reason =>
      obtain ⟨present, unended, connection, there⟩ := connectionOf?_eq_some_iff.1 attached
      have was : relay.tenants[c]? = some ⟨subscriber.home, some ref, false⟩ := by
        rw [getElem?_tenants_of_present present, Subscriber.tenant, connection, unended]
        rfl
      refine .leaves nobody was ?_ ?_
      · have left : ({ later with ending := some reason } : Subscriber).tenant =
            ⟨subscriber.home, some ref, true⟩ := by
          rw [← alike.home, ← connection, ← alike.connection]
          rfl
        exact (tenants_setSubscriber _ c _).trans (congrArg (relay.tenants.set c) left)
      · -- The queues go first, which changes nothing that lasts.
        have dropped : relay.hub.Continues (relay.hub.step (.dropQueues ref)).2 :=
          .step _ (by simp) (by simp)
        have placed := linked.placed c subscriber present
        have own : later.topic = subscriber.topic := congrArg Attachment.topic alike.home
        rw [← own, ← Hub.length_topics_step relay.hub (.dropQueues ref)] at placed
        have detached := Hub.step_detach (List.getElem?_eq_getElem placed)
          (Hub.getElem?_step there (.dropQueues ref))
        change (((relay.hub.step (.dropQueues ref)).2.step (.detach later.topic ref)).2).connections.map
          Connection.bond = _
        rw [detached, bonds, ← dropped.bonds]
        exact Connections.map_bond_update_close ref
  | heard attached alike =>
      exact .stays nobody
        (tenants_setSubscriber_of_alike (connectionOf?_eq_some_iff.1 attached).1 alike) rfl
  | alive attached alike => exact serves attached alike.tenant (.step _ (by simp) (by simp))
  | pinged attached => exact serves attached rfl (.step _ (by simp) (by simp))
  | wrote attached _ => exact serves attached rfl (.step _ (by simp) (by simp))

theorem moves_of_connect (relay : Relay) (t : Nat) (peer : SocketAddress) (handshake : Handshake) :
    Moves relay (.connect t peer handshake) (relay.connect t peer handshake).2 := by
  cases here : relay.hub.topics[t]? with
  | none =>
      have refused : relay.upgrade? (.connect t peer handshake) = none := by
        simp [upgrade?, here]
      rw [connect, here]
      exact .stays refused rfl rfl
  | some topic =>
  cases reachable : relay.isReachable with
  | false =>
      have refused : relay.upgrade? (.connect t peer handshake) = none := by
        simp [upgrade?, reachable]
      rw [connect, here]
      simp only [reachable, if_true]
      exact .stays refused rfl rfl
  | true =>
  rw [connect, here]
  simp only [reachable, Bool.true_eq_false, if_false]
  cases answered : topic.answerHandshake handshake with
  | error status =>
      have refused : relay.upgrade? (.connect t peer handshake) = none := by
        simp [upgrade?, reachable, here, answered, Except.toOption]
      exact .stays refused rfl rfl
  | ok channel =>
      have accepted : relay.upgrade? (.connect t peer handshake) = some ⟨t, peer, channel⟩ := by
        simp [upgrade?, reachable, here, answered, Except.toOption]
      exact .comes accepted List.map_append rfl

theorem moves_of_course (linked : Linked homes relay) (nobody : relay.upgrade? event = none)
    (course : Course relay event after)
    (other : ∀ t peer handshake, event ≠ .connect t peer handshake) : Moves relay event after := by
  have same {between : Relay} (counts : between.Counts after)
      (tenants : between.tenants = relay.tenants) (bonds : between.bonds = relay.bonds) :
      Moves relay event after :=
    .stays nobody ((congrArg (List.map Subscriber.tenant) counts.subscribers).trans tenants)
      ((congrArg (List.map Connection.bond) counts.connections).trans bonds)
  cases course with
  | counted _ counts => exact same counts rfl rfl
  | fed _ counts => exact same counts rfl (Hub.Continues.broadcast _ _).bonds
  | opened _ _ _ _ _ counts => exact same counts rfl rfl
  | connected => exact absurd rfl (other _ _ _)
  | arrived present alike => exact .stays nobody (tenants_setSubscriber_of_alike present alike) rfl
  | turned turned => exact moves_of_turned linked nobody turned
  | terminated => exact .stays nobody rfl (Hub.Continues.step _ (by simp) (by simp)).bonds
  | terminatedAll => exact .stays nobody rfl (Hub.Continues.step _ (by simp) (by simp)).bonds
  | advanced counts => exact same counts rfl (Hub.Continues.advance _).bonds

/-- At every event nothing happens to tenants and connections, or somebody comes, moves in, or
leaves. -/
theorem moves (linked : Linked homes relay) (event : Event) :
    Moves relay event (relay.step event) := by
  cases event with
  | connect t peer handshake => exact moves_of_connect relay t peer handshake
  | _ => exact moves_of_course linked rfl (relay.course _) (by simp)

/-! ### Who has which connection -/

/-- Every connection has one tenant, and it is closed for good exactly when the tenant has left. -/
structure Tenanted (relay : Relay) : Prop where
  seated : (relay.tenants.filterMap Tenant.connection).Perm (List.range relay.bonds.length)
  gone : ∀ (c : Nat) (tenant : Tenant) (ref : ConnRef), relay.tenants[c]? = some tenant →
    tenant.connection = some ref → relay.bonds[ref]?.map Bond.isGone = some tenant.hasLeft

/-- Different tenants have different connections. -/
theorem Linked.tenant_unique (linked : Linked homes relay) {one two : Tenant}
    (here : relay.tenants[c]? = some one) (there : relay.tenants[d]? = some two)
    (first : one.connection = some ref) (second : two.connection = some ref) : c = d := by
  obtain ⟨subscriber, present, rfl⟩ := getElem?_tenants.1 here
  obtain ⟨other, also, rfl⟩ := getElem?_tenants.1 there
  exact linked.apart c d subscriber other ref present also first second

namespace Tenanted

theorem of_moves (tenanted : Tenanted relay) (linked : Linked homes relay)
    (moves : Moves relay event after) : Tenanted after := by
  -- A tenant afterwards is the one that changed, or was there before.
  have origin {i d : Nat} {next one : Tenant} {tenants : List Tenant}
      (set : tenants = relay.tenants.set i next) (there : tenants[d]? = some one) :
      d = i ∧ one = next ∨ d ≠ i ∧ relay.tenants[d]? = some one := by
    rw [set, List.getElem?_set] at there
    by_cases same : i = d
    · subst same
      rw [if_pos rfl, Option.ite_none_right_eq_some] at there
      exact .inl ⟨rfl, (Option.some.inj there.2).symm⟩
    · rw [if_neg same] at there
      exact .inr ⟨Ne.symm same, there⟩
  cases moves with
  | stays _ tenants bonds =>
      constructor
      · rw [tenants, bonds]
        exact tenanted.seated
      · rw [tenants, bonds]
        exact tenanted.gone
  | @comes home _ tenants bonds =>
      constructor
      · rw [tenants, bonds, List.filterMap_append]
        exact (List.append_nil _).symm ▸ tenanted.seated
      · intro d one ref there connected
        rw [tenants, List.getElem?_append] at there
        rw [bonds]
        split at there
        · exact tenanted.gone d one ref there connected
        · obtain rfl := List.mem_singleton.1 (List.mem_of_getElem? there)
          cases connected
  | @attaches i home bond _ present tenants bonds fresh =>
      constructor
      · rw [tenants, bonds, List.length_append, List.length_singleton, List.range_succ]
        have joins : ((relay.tenants.set i ⟨home, some relay.bonds.length, false⟩).filterMap
            Tenant.connection).Perm
            (relay.tenants.filterMap Tenant.connection ++ [relay.bonds.length]) :=
          filterMap_set_perm present rfl rfl
        exact joins.trans (tenanted.seated.append_right _)
      · intro d one ref there connected
        rw [bonds]
        rcases origin tenants there with ⟨_, rfl⟩ | ⟨_, was⟩
        · obtain rfl := Option.some.inj connected
          rw [List.getElem?_concat_length, Option.map_some, fresh]
        · have earlier := tenanted.gone d one ref was connected
          obtain ⟨bond, found, _⟩ := Option.map_eq_some_iff.1 earlier
          rw [List.getElem?_append_left (List.getElem?_eq_some_iff.1 found).1]
          exact earlier
  | @leaves i home ref _ present tenants bonds =>
      constructor
      · have same : after.tenants.map Tenant.connection = relay.tenants.map Tenant.connection := by
          rw [tenants]
          exact map_set_of_eq present rfl
        have connections : after.tenants.filterMap Tenant.connection =
            relay.tenants.filterMap Tenant.connection := by
          have whole := congrArg (List.filterMap id) same
          rwa [List.filterMap_map, List.filterMap_map] at whole
        rw [connections, bonds, List.length_modify]
        exact tenanted.seated
      · intro d one place there connected
        rw [bonds]
        rcases origin tenants there with ⟨_, rfl⟩ | ⟨different, was⟩
        · obtain rfl := Option.some.inj connected
          obtain ⟨bond, found, _⟩ :=
            Option.map_eq_some_iff.1 (tenanted.gone i _ ref present rfl)
          rw [List.getElem?_modify_eq, found]
          rfl
        · have elsewhere : ref ≠ place := by
            rintro rfl
            exact different (linked.tenant_unique was present connected rfl)
          rw [List.getElem?_modify_ne _ _ elsewhere]
          exact tenanted.gone d one place was connected

theorem step (tenanted : Tenanted relay) (linked : Linked homes relay) (event : Event) :
    Tenanted (relay.step event) := tenanted.of_moves linked (moves linked event)

theorem run (tenanted : Tenanted relay) (linked : Linked homes relay) (events : List Event) :
    Tenanted (relay.run events) := by
  induction events generalizing relay homes with
  | nil => exact tenanted
  | cons event others ih =>
      obtain ⟨_, next⟩ := linked.step event
      exact ih (tenanted.step linked event) next

/-- A connection has a subscriber that it was attached for. -/
theorem exists_subscriber (tenanted : Tenanted relay)
    (within : ref < relay.hub.connections.length) :
    ∃ (c : Nat) (subscriber : Subscriber), relay.subscribers[c]? = some subscriber ∧
      subscriber.connection = some ref := by
  have inRange : ref ∈ List.range relay.bonds.length := by
    rw [List.mem_range, bonds, List.length_map]
    exact within
  obtain ⟨tenant, member, connected⟩ := List.mem_filterMap.1 (tenanted.seated.mem_iff.2 inRange)
  obtain ⟨c, there⟩ := List.getElem?_of_mem member
  obtain ⟨subscriber, present, rfl⟩ := getElem?_tenants.1 there
  exact ⟨c, subscriber, present, connected⟩

end Tenanted

theorem Begun.tenanted {router : Router PlacedRoute} {config : RelayConfig} {host : Host}
    (begun : Begun router config host relay) : Tenanted relay := by
  have nobody : relay.tenants = [] := by
    rw [tenants, begun.subscribers]
    rfl
  constructor
  · rw [nobody, bonds, begun.connections]
    exact .nil
  · rw [nobody]
    nofun

/-- The subscribers of a relay are those whose upgrades were accepted, in the order in which they
came. -/
theorem homes_run (linked : Linked homes relay) (events : List Event) :
    (relay.run events).subscribers.map Subscriber.home =
      relay.subscribers.map Subscriber.home ++ relay.upgrades events := by
  induction events generalizing relay homes with
  | nil => exact (List.append_nil _).symm
  | cons event others ih =>
      have read (relay : Relay) :
          relay.subscribers.map Subscriber.home = relay.tenants.map Tenant.home := by
        rw [tenants, List.map_map]
        rfl
      have first : (relay.step event).tenants.map Tenant.home =
          relay.tenants.map Tenant.home ++ (relay.upgrade? event).toList := by
        cases moves linked event with
        | stays nobody tenants _ => rw [tenants, nobody, Option.toList_none, List.append_nil]
        | comes accepted tenants _ => rw [tenants, accepted, List.map_append]; rfl
        | attaches nobody present tenants _ _ =>
            rw [tenants, nobody, Option.toList_none, List.append_nil]
            exact map_set_of_eq present rfl
        | leaves nobody present tenants _ =>
            rw [tenants, nobody, Option.toList_none, List.append_nil]
            exact map_set_of_eq present rfl
      obtain ⟨_, next⟩ := linked.step event
      have rest := ih next
      rw [read (relay.step event), first, ← read, List.append_assoc] at rest
      exact rest

/-! ### What topics track -/

/-- Numbers have not run out. -/
theorem Linked.sound_of_few (linked : Linked homes relay)
    (few : relay.hub.connections.length < UInt64.size) : Hub.Sound homes relay.hub :=
  linked.sound (linked.tidy.even ▸ few)

theorem mem_trackedBy_of_present (linked : Linked homes relay) (tenanted : Tenanted relay)
    (few : relay.hub.connections.length < UInt64.size)
    (present : relay.subscribers[c]? = some subscriber)
    (connected : subscriber.connection = some ref) :
    ref ∈ relay.hub.trackedBy subscriber.topic ↔ subscriber.ending = none := by
  have sound := linked.sound_of_few few
  have resident := linked.resident present connected
  obtain ⟨conn, there⟩ := resident.present
  obtain ⟨topic, spot⟩ := (⟨resident.found, there⟩ : Hub.Holds _ _ _ _ conn).spot sound
  have gone := tenanted.gone c _ ref (getElem?_tenants_of_present present) connected
  rw [bonds, List.getElem?_map, there, Option.map_some, Option.map_some] at gone
  have left : conn.bond.isGone = subscriber.ending.isSome := Option.some.inj gone
  have topical : relay.hub.trackedBy subscriber.topic = topic.tracker.values :=
    Hub.named_of_here spot.here
  rw [topical, spot.mem_tracked sound, Ne, ← Connection.isGone_bond, left, Bool.not_eq_true,
    Option.isSome_eq_false_iff, Option.isNone_iff_eq_none]

/-- A topic tracks the connections of its subscribers that are attached and have not ended. -/
theorem mem_trackedBy_iff (linked : Linked homes relay) (tenanted : Tenanted relay)
    (few : relay.hub.connections.length < UInt64.size) :
    ref ∈ relay.hub.trackedBy t ↔ ∃ subscriber ∈ relay.subscribers,
      subscriber.topic = t ∧ subscriber.ending = none ∧ subscriber.connection = some ref := by
  constructor
  · intro tracked
    have within : ref < relay.hub.connections.length := by
      have here := tracked
      rw [Hub.trackedBy, Hub.named] at here
      cases found : relay.hub.topics[t]? with
      | none =>
          rw [found] at here
          cases here
      | some topic =>
          rw [found] at here
          rw [← linked.tidy.even]
          exact (linked.tidy.tables t topic found).tracked_lt here
    obtain ⟨c, subscriber, present, connected⟩ := tenanted.exists_subscriber within
    obtain rfl : subscriber.topic = t := linked.tidy.topic_of_mem_trackedBy
      (linked.attached c subscriber ref present connected) tracked
    exact ⟨subscriber, List.mem_of_getElem? present, rfl,
      (mem_trackedBy_of_present linked tenanted few present connected).1 tracked, connected⟩
  · rintro ⟨subscriber, member, rfl, unended, connected⟩
    obtain ⟨c, present⟩ := List.getElem?_of_mem member
    exact (mem_trackedBy_of_present linked tenanted few present connected).2 unended

/-- Under a channel that it accepts, a topic has registered the connections that it tracks and that
asked for the channel, and under any other channel nothing. -/
theorem mem_membersOf_iff (linked : Linked homes relay) (tenanted : Tenanted relay)
    (few : relay.hub.connections.length < UInt64.size) {topic : Topic}
    (here : relay.hub.topics[t]? = some topic) {channel : Channel} :
    ref ∈ topic.registry.membersOf channel ↔ topic.isKnown channel = true ∧
      ∃ subscriber ∈ relay.subscribers, subscriber.topic = t ∧ subscriber.ending = none ∧
        subscriber.channel = some channel ∧ subscriber.connection = some ref := by
  have indexes := (linked.sound_of_few few).indexed t topic here
  have tracked : ref ∈ topic.tracker.values ↔ ∃ subscriber ∈ relay.subscribers,
      subscriber.topic = t ∧ subscriber.ending = none ∧ subscriber.connection = some ref := by
    rw [← mem_trackedBy_iff linked tenanted few, Hub.trackedBy, Hub.named_of_here here]
  -- A connection has the channel that its subscriber asked for.
  have asked {bond : Bond} (housed : Housed homes relay.bonds t ref bond)
      {subscriber : Subscriber} (member : subscriber ∈ relay.subscribers)
      (connected : subscriber.connection = some ref) : bond.channel = subscriber.channel := by
    obtain ⟨c, present⟩ := List.getElem?_of_mem member
    exact (indexes.made ref bond _ housed
      (linked.attached c subscriber ref present connected)).2.1
  rw [Registry.mem_membersOf, (indexes.listed_registry channel).exists_entry_iff]
  constructor
  · rintro ⟨bond, housed, attached, wants, accepted⟩
    obtain ⟨subscriber, member, own, unended, connected⟩ :=
      tracked.1 (indexes.mem_tracked.2 ⟨bond, housed, attached⟩)
    exact ⟨accepted, subscriber, member, own, unended,
      (asked housed member connected).symm.trans wants, connected⟩
  · rintro ⟨accepted, subscriber, member, own, unended, wants, connected⟩
    obtain ⟨bond, housed, attached⟩ :=
      indexes.mem_tracked.1 (tracked.2 ⟨subscriber, member, own, unended, connected⟩)
    exact ⟨bond, housed, attached, (asked housed member connected).trans wants, accepted⟩

/-! ### Removals -/

/-- Whether the topic of a subscriber tracks the connection of the subscriber. -/
def tracks (relay : Relay) (c : Nat) : Bool :=
  relay.subscribers[c]?.any fun subscriber => subscriber.connection.any fun ref =>
    ref ∈ relay.hub.trackedBy subscriber.topic

/-- How often in a run the connection of a subscriber is tracked before an event and is not tracked
after it. -/
def removals (relay : Relay) (c : Nat) : List Event → Nat
  | [] => 0
  | event :: others =>
    (relay.tracks c && !(relay.step event).tracks c).toNat + (relay.step event).removals c others

/-- Whether a subscriber has ended. -/
def hasLeft (relay : Relay) (c : Nat) : Bool := relay.tenants[c]?.any Tenant.hasLeft

theorem tracks_eq (linked : Linked homes relay) (tenanted : Tenanted relay)
    (few : relay.hub.connections.length < UInt64.size) (c : Nat) :
    relay.tracks c = relay.tenants[c]?.any Tenant.isIn := by
  rw [tracks, tenants, List.getElem?_map, Option.any_map]
  cases present : relay.subscribers[c]? with
  | none => rfl
  | some subscriber =>
      change subscriber.connection.any _ = (subscriber.connection.isSome && !subscriber.ending.isSome)
      cases connected : subscriber.connection with
      | none => rfl
      | some ref =>
          rw [Option.any_some, Option.isSome_some, Bool.true_and]
          have tracked := mem_trackedBy_of_present linked tenanted few present connected
          cases ended : subscriber.ending with
          | none => exact decide_eq_true (tracked.2 ended)
          | some reason => exact decide_eq_false fun member => absurd (tracked.1 member) (ended ▸ nofun)

/-- An event removes the connection of a subscriber exactly if the subscriber ends at it. -/
theorem removal_step (moves : Moves relay event after) (c : Nat) :
    (relay.tenants[c]?.any Tenant.isIn && !after.tenants[c]?.any Tenant.isIn).toNat +
      (relay.hasLeft c).toNat = (after.hasLeft c).toNat := by
  rw [hasLeft, hasLeft]
  have same (tenants : after.tenants[c]? = relay.tenants[c]?) :
      (relay.tenants[c]?.any Tenant.isIn && !after.tenants[c]?.any Tenant.isIn).toNat +
        (relay.tenants[c]?.any Tenant.hasLeft).toNat =
          (after.tenants[c]?.any Tenant.hasLeft).toNat := by
    rw [tenants, Bool.and_not_self]
    exact Nat.zero_add _
  cases moves with
  | stays _ tenants _ => exact same (by rw [tenants])
  | comes _ tenants _ =>
      by_cases earlier : c < relay.tenants.length
      · exact same (by rw [tenants, List.getElem?_append_left earlier])
      · have nobody := List.getElem?_eq_none (Nat.not_lt.1 earlier)
        rw [tenants, List.getElem?_append_right (Nat.not_lt.1 earlier), nobody]
        cases c - relay.tenants.length <;> rfl
  | @attaches d home _ _ present tenants _ _ =>
      by_cases own : d = c
      · subst own
        rw [tenants, List.getElem?_set_self (List.getElem?_eq_some_iff.1 present).1, present]
        rfl
      · exact same (by rw [tenants, List.getElem?_set_ne own])
  | @leaves d home ref _ present tenants _ =>
      by_cases own : d = c
      · subst own
        rw [tenants, List.getElem?_set_self (List.getElem?_eq_some_iff.1 present).1, present]
        rfl
      · exact same (by rw [tenants, List.getElem?_set_ne own])

/-- Over a whole run the connection of a subscriber is removed once if the subscriber ends, and not at
all otherwise. -/
theorem removals_run (linked : Linked homes relay) (tenanted : Tenanted relay)
    (few : (relay.run events).hub.connections.length < UInt64.size) (c : Nat) :
    relay.removals c events + (relay.hasLeft c).toNat = ((relay.run events).hasLeft c).toNat := by
  induction events generalizing relay homes with
  | nil => exact Nat.zero_add _
  | cons event others ih =>
      have later := (onward_run (relay.step event) others).length_le
      have earlier := (onward_step relay event).length_le
      have fewNext := Nat.lt_of_le_of_lt later few
      obtain ⟨_, next⟩ := linked.step event
      have stays := tenanted.step linked event
      have rest := ih next stays few
      have first := removal_step (moves linked event) c
      rw [← tracks_eq linked tenanted (Nat.lt_of_le_of_lt earlier fewNext),
        ← tracks_eq next stays fewNext] at first
      rw [removals]
      exact (Nat.add_right_comm _ _ _).trans ((congrArg (· + _) first).trans
        ((Nat.add_comm _ _).trans rest))

end Relay

end LiveRelay
