/-
Module: LiveRelay.Proofs.Hub.Concern
Purpose: What happens on a hub, as one connection sees it. Of all events only those that concern the
  connection change it, and what they do depends on nothing but the connection itself.
Main exports: Concern, Concern.ofEvent?, Connection.undergo, Hub.At, Hub.Holds, Hub.concerns,
  Hub.Holds.step, Hub.Holds.run, Hub.concerns_of_idle
-/
import LiveRelay.Proofs.Hub.Sound
import Mathlib.Algebra.GroupWithZero.Nat

namespace LiveRelay

open Net Hub

/-- What can happen to a connection once it is attached. -/
inductive Concern where
  | detach
  | broadcast (payload : Payload)
  | probe
  | terminateAll
  | terminate
  | markAlive
  | receive
  | receiveControl
  | dropQueues
deriving Repr, DecidableEq

/-- How an event concerns connection `ref`, if it does: it names the connection, or the topic that
the connection is attached to, and for data also its channel. -/
def Concern.ofEvent? (home : Attachment) (ref : ConnRef) : Hub.Event → Option Concern
  | .attach _ _ _ => none
  | .detach _ other => if other = ref then some .detach else none
  | .broadcast t channel payload =>
    if t = home.topic ∧ home.channel = some channel then some (.broadcast payload) else none
  | .probe t => if t = home.topic then some .probe else none
  | .terminateAll t => if t = home.topic then some .terminateAll else none
  | .terminate other => if other = ref then some .terminate else none
  | .markAlive other => if other = ref then some .markAlive else none
  | .receive other => if other = ref then some .receive else none
  | .receiveControl other => if other = ref then some .receiveControl else none
  | .dropQueues other => if other = ref then some .dropQueues else none
  | .spawnMonitor _ => none
  | .advance _ => none

/-- What a concern does to a connection. Data reaches it only if its topic accepts the channel it
asked for, and the walks over a topic pass it by once it is closed. -/
def Connection.undergo (subscribed : Bool) (conn : Connection) : Concern → Connection
  | .detach => conn.beginClose.finishClose
  | .broadcast payload => if subscribed then (conn.trySend payload).2 else conn
  | .probe => if conn.state = .closed then conn else conn.probe.2
  | .terminateAll => if conn.state = .closed then conn else conn.terminate
  | .terminate => conn.terminate
  | .markAlive => conn.markAlive
  | .receive => conn.receive.2
  | .receiveControl => conn.receiveControl.2
  | .dropQueues => conn.dropQueues

/-- Whether the topic of a connection accepts the channel that it asked for. -/
def Hub.subscribes (hub : Hub) (home : Attachment) : Bool :=
  hub.topics[home.topic]?.any fun topic => home.channel.any topic.isKnown

namespace Hub

variable {homes : List Attachment} {hub : Hub} {ref other : ConnRef} {home : Attachment}
  {topic : Topic} {conn : Connection}

/-- A connection, the topic that it is attached to, and how it came about. -/
structure At (homes : List Attachment) (hub : Hub) (ref : ConnRef) (home : Attachment)
    (topic : Topic) (conn : Connection) : Prop where
  found : homes[ref]? = some home
  here : hub.topics[home.topic]? = some topic
  present : hub.connections[ref]? = some conn

theorem At.subscribes (spot : At homes hub ref home topic conn) :
    hub.subscribes home = home.channel.any topic.isKnown := by
  rw [Hub.subscribes, spot.here, Option.any_some]

theorem At.housed (spot : At homes hub ref home topic conn) :
    Housed homes (hub.connections.map Connection.bond) home.topic ref conn.bond := by
  refine ⟨?_, home, spot.found, rfl⟩
  rw [List.getElem?_map, spot.present]
  rfl

theorem At.topic_ne_of_none (spot : At homes hub ref home topic conn) {t : Nat}
    (absent : hub.topics[t]? = none) : t ≠ home.topic := by
  rintro rfl
  cases absent.symm.trans spot.here

/-- A connection has the channel that it asked for. -/
theorem At.channel (spot : At homes hub ref home topic conn) (sound : Sound homes hub) :
    conn.channel = home.channel :=
  ((sound.indexed _ _ spot.here).made ref conn.bond home spot.housed spot.found).2.1

/-! ### The walks over a topic, as one connection sees them -/

theorem At.mem_tracked (spot : At homes hub ref home topic conn) (sound : Sound homes hub) :
    ref ∈ topic.tracker.values ↔ conn.state ≠ .closed := by
  rw [(sound.indexed _ _ spot.here).mem_tracked]
  constructor
  · rintro ⟨bond, housed, attached⟩ closed
    obtain rfl := housed.bond_unique spot.housed
    rw [Connection.isGone_bond.2 closed] at attached
    cases attached
  · intro attached
    refine ⟨conn.bond, spot.housed, ?_⟩
    rw [← Bool.not_eq_true, Connection.isGone_bond]
    exact attached

/-- A connection is never among the tracked connections of another topic. -/
theorem At.not_mem_tracked (spot : At homes hub ref home topic conn) (sound : Sound homes hub)
    {t : Nat} {elsewhere : Topic} (there : hub.topics[t]? = some elsewhere)
    (different : t ≠ home.topic) : ref ∉ elsewhere.tracker.values := by
  rw [(sound.indexed _ _ there).mem_tracked]
  rintro ⟨_, ⟨_, other, found, same⟩, _⟩
  cases spot.found.symm.trans found
  exact different same.symm

theorem At.mem_openMembers (spot : At homes hub ref home topic conn) (sound : Sound homes hub)
    {channel : Channel} : ref ∈ topic.registry.openMembers hub.connections channel ↔
      home.channel = some channel ∧ topic.isKnown channel = true ∧ conn.state = .open := by
  rw [(sound.indexed _ _ spot.here).mem_openMembers, ← spot.channel sound]
  constructor
  · rintro ⟨other, present, _, rest⟩
    cases spot.present.symm.trans present
    exact rest
  · intro rest
    exact ⟨conn, spot.present, spot.housed, rest⟩

theorem At.not_mem_openMembers (spot : At homes hub ref home topic conn) (sound : Sound homes hub)
    {t : Nat} {elsewhere : Topic} (there : hub.topics[t]? = some elsewhere)
    (different : t ≠ home.topic) {channel : Channel} :
    ref ∉ elsewhere.registry.openMembers hub.connections channel := by
  rw [(sound.indexed _ _ there).mem_openMembers]
  rintro ⟨_, _, ⟨_, other, found, same⟩, _⟩
  cases spot.found.symm.trans found
  exact different same.symm

/-! ### Events -/

theorem connections_onTopic {α : Type} {t : Nat} {f : Topic → Connections → α × Topic × Connections}
    (there : hub.topics[t]? = some topic) :
    (hub.onTopic t f).2.connections = (f topic hub.connections).2.2 := by
  rw [onTopic, there]

theorem onTopic_of_none {α : Type} {t : Nat} {f : Topic → Connections → α × Topic × Connections}
    (absent : hub.topics[t]? = none) : hub.onTopic t f = (none, hub) := by
  rw [onTopic, absent]

/-- Data offered on a channel reaches a connection that asked for it on the same topic. -/
theorem At.broadcast (spot : At homes hub ref home topic conn) (sound : Sound homes hub) (t : Nat)
    (channel : Channel) (payload : Payload) :
    (hub.step (.broadcast t channel payload)).2.connections[ref]? =
      some (((Concern.ofEvent? home ref (.broadcast t channel payload)).elim conn
        (conn.undergo (hub.subscribes home)))) := by
  have stays : (hub.step (.broadcast t channel payload)).2 =
      (hub.onTopic t fun topic conns => topic.broadcast conns channel payload).2 := rfl
  rw [stays]
  cases there : hub.topics[t]? with
  | none =>
      have different := spot.topic_ne_of_none there
      simp [onTopic_of_none there, spot.present, Concern.ofEvent?, different]
  | some elsewhere =>
      rw [connections_onTopic there, Topic.broadcast, Topic.broadcastTo, snd_sendEach]
      by_cases same : t = home.topic
      · subst same
        obtain rfl : topic = elsewhere := Option.some.inj (spot.here.symm.trans there)
        by_cases asked : home.channel = some channel
        · simp only [Concern.ofEvent?, asked, and_self, if_true, Option.elim_some,
            Connection.undergo, spot.subscribes, Option.any_some]
          by_cases reached : topic.isKnown channel = true ∧ conn.state = .open
          · have member := (spot.mem_openMembers sound).2 ⟨asked, reached⟩
            rw [Connections.getElem?_updateEach_of_mem
              (sound.indexed _ _ spot.here).nodup_openMembers member, spot.present,
              if_pos reached.1]
            rfl
          · have absent : ref ∉ topic.registry.openMembers hub.connections channel := fun member =>
              reached ((spot.mem_openMembers sound).1 member).2
            rw [Connections.getElem?_updateEach_of_not_mem absent, spot.present]
            split
            · next known =>
              rw [Connection.trySend_of_not_open fun opened => reached ⟨known, opened⟩]
            · rfl
        · have absent : ref ∉ topic.registry.openMembers hub.connections channel := fun member =>
            asked ((spot.mem_openMembers sound).1 member).1
          rw [Connections.getElem?_updateEach_of_not_mem absent, spot.present]
          simp [Concern.ofEvent?, asked]
      · rw [Connections.getElem?_updateEach_of_not_mem
          (spot.not_mem_openMembers sound there same), spot.present]
        simp [Concern.ofEvent?, same]

/-- A walk over the tracked connections of a topic reaches a connection of it until it is closed. -/
theorem At.walk (spot : At homes hub ref home topic conn) (sound : Sound homes hub) {t : Nat}
    {elsewhere : Topic} (there : hub.topics[t]? = some elsewhere) (f : Connection → Connection) :
    (hub.connections.updateEach elsewhere.tracker.values f)[ref]? =
      some (if t = home.topic then if conn.state = .closed then conn else f conn else conn) := by
  by_cases same : t = home.topic
  · subst same
    obtain rfl : topic = elsewhere := Option.some.inj (spot.here.symm.trans there)
    rw [if_pos rfl]
    by_cases closed : conn.state = .closed
    · have absent : ref ∉ topic.tracker.values := fun member =>
        (spot.mem_tracked sound).1 member closed
      rw [Connections.getElem?_updateEach_of_not_mem absent, spot.present, if_pos closed]
    · rw [Connections.getElem?_updateEach_of_mem (sound.indexed _ _ there).nodup_tracked
        ((spot.mem_tracked sound).2 closed), spot.present, if_neg closed]
      rfl
  · rw [Connections.getElem?_updateEach_of_not_mem (spot.not_mem_tracked sound there same),
      spot.present, if_neg same]

/-- What a topic does in a walk over its tracked connections reaches a connection of it likewise. -/
theorem At.onTopic_walk {α : Type} (spot : At homes hub ref home topic conn)
    (sound : Sound homes hub) (t : Nat) {f : Topic → Connections → α × Topic × Connections}
    {g : Connection → Connection}
    (walks : ∀ topic conns, (f topic conns).2.2 = conns.updateEach topic.tracker.values g) :
    (hub.onTopic t f).2.connections[ref]? =
      some (if t = home.topic then if conn.state = .closed then conn else g conn else conn) := by
  cases there : hub.topics[t]? with
  | none =>
      have different := spot.topic_ne_of_none there
      rw [onTopic_of_none there, if_neg different]
      exact spot.present
  | some elsewhere => rw [connections_onTopic there, walks, spot.walk sound there]

/-- Connection `ref` came about as `home` says, and it is `conn` now. -/
structure Holds (homes : List Attachment) (hub : Hub) (ref : ConnRef) (home : Attachment)
    (conn : Connection) : Prop where
  found : homes[ref]? = some home
  present : hub.connections[ref]? = some conn

/-- The topic of a connection is there. -/
theorem Holds.spot (holds : Holds homes hub ref home conn) (sound : Sound homes hub) :
    ∃ topic, At homes hub ref home topic conn := by
  have within := sound.placed home (List.mem_of_getElem? holds.found)
  exact ⟨_, holds.found, List.getElem?_eq_getElem within, holds.present⟩

/-- Where a connection is, there is an attachment that it came about by. -/
theorem Sound.holds (sound : Sound homes hub) (present : hub.connections[ref]? = some conn) :
    ∃ home, Holds homes hub ref home conn := by
  have within : ref < homes.length := by
    rw [sound.even]
    exact (List.getElem?_eq_some_iff.1 present).1
  exact ⟨homes[ref], List.getElem?_eq_getElem within, present⟩

/-- An event that is not a move of the clock does to a connection what its concern does, and
nothing where it does not concern the connection. -/
theorem connections_step (sound : Sound homes hub) (holds : Holds homes hub ref home conn)
    (event : Event) (untimed : ∀ span, event ≠ .advance span)
    (atHome : ∀ t, event = .detach t ref → home.topic = t) :
    (hub.step event).2.connections[ref]? =
      some ((Concern.ofEvent? home ref event).elim conn
        (conn.undergo (hub.subscribes home))) := by
  obtain ⟨topic, spot⟩ := holds.spot sound
  -- What is done to one connection alone reaches `ref` exactly if it names `ref`.
  have single {α : Type} (other : ConnRef) (f : Connection → α × Connection) (concern : Concern)
      (does : conn.undergo (hub.subscribes home) concern = (f conn).2) :
      (hub.onConnection other f).2.connections[ref]? =
        some ((if other = ref then some concern else none).elim conn
          (conn.undergo (hub.subscribes home))) := by
    rw [connections_onConnection]
    by_cases same : other = ref
    · subst same
      rw [Connections.getElem?_update_self, spot.present, if_pos rfl, Option.elim_some, does]
      rfl
    · rw [Connections.getElem?_update_of_ne same, spot.present, if_neg same, Option.elim_none]
  cases event with
  | attach t peer channel =>
      cases there : hub.topics[t]? with
      | none =>
          rw [step_attach_of_none there]
          exact spot.present
      | some elsewhere =>
          rw [step_attach there]
          exact (List.getElem?_append_left (List.getElem?_eq_some_iff.1 spot.present).1).trans
            spot.present
  | detach t other =>
      by_cases same : other = ref
      · subst same
        obtain rfl := atHome t rfl
        rw [step_detach spot.here spot.present]
        simp only [Concern.ofEvent?, if_true, Option.elim_some]
        rw [Connections.getElem?_update_self, spot.present]
        rfl
      · simp only [Concern.ofEvent?, if_neg same, Option.elim_none]
        cases there : hub.topics[t]? with
        | none => rw [step_detach_of_none (.inl there), spot.present]
        | some elsewhere =>
        cases found : hub.connections[other]? with
        | none => rw [step_detach_of_none (.inr found), spot.present]
        | some away =>
            rw [step_detach there found]
            exact (Connections.getElem?_update_of_ne same).trans spot.present
  | broadcast t channel payload => exact spot.broadcast sound t channel payload
  | probe t =>
      have walked : (hub.step (.probe t)).2.connections[ref]? = _ :=
        spot.onTopic_walk sound t (f := Topic.probe) fun _ _ => snd_probeEach _ _
      rw [walked]
      by_cases same : t = home.topic
      · simp [Concern.ofEvent?, same, Connection.undergo]
      · simp [Concern.ofEvent?, same]
  | terminateAll t =>
      have walked : (hub.step (.terminateAll t)).2.connections[ref]? = _ :=
        spot.onTopic_walk sound t
          (f := fun topic conns => ((topic.terminateAll conns).1, topic,
            (topic.terminateAll conns).2)) fun _ _ => terminateEach_eq _ _
      rw [walked]
      by_cases same : t = home.topic
      · simp [Concern.ofEvent?, same, Connection.undergo]
      · simp [Concern.ofEvent?, same]
  | terminate other => exact single other _ .terminate rfl
  | markAlive other => exact single other _ .markAlive rfl
  | receive other => exact single other _ .receive rfl
  | receiveControl other => exact single other _ .receiveControl rfl
  | dropQueues other => exact single other _ .dropQueues rfl
  | spawnMonitor t =>
      have same : (hub.step (.spawnMonitor t)).2.connections = hub.connections := by
        change (hub.spawnMonitor t).connections = hub.connections
        unfold spawnMonitor
        split <;> rfl
      rw [same]
      exact spot.present
  | advance span => exact absurd rfl (untimed span)

/-! ### What stays the same for a connection -/

/-- Which channels a hub accepts depends on nothing that happens to it. -/
theorem subscribes_congr {one two : Hub}
    (same : one.topics.map Topic.cleared = two.topics.map Topic.cleared) (home : Attachment) :
    one.subscribes home = two.subscribes home := by
  have topics : (one.topics.map Topic.cleared)[home.topic]? =
      (two.topics.map Topic.cleared)[home.topic]? := by rw [same]
  rw [List.getElem?_map, List.getElem?_map] at topics
  unfold subscribes
  cases here : one.topics[home.topic]? with
  | none =>
      cases there : two.topics[home.topic]? with
      | none => rfl
      | some topic => simp [here, there] at topics
  | some topic =>
      cases there : two.topics[home.topic]? with
      | none => simp [here, there] at topics
      | some other =>
          rw [here, there] at topics
          have known := Topic.isKnown_of_cleared (Option.some.inj topics)
          rw [Option.any_some, Option.any_some, funext known]

theorem subscribes_step (hub : Hub) (event : Event) (home : Attachment) :
    (hub.step event).2.subscribes home = hub.subscribes home :=
  subscribes_congr (cleared_step hub event) home

theorem subscribes_run (hub : Hub) (events : List Event) (home : Attachment) :
    (hub.run events).2.subscribes home = hub.subscribes home :=
  subscribes_congr (cleared_run hub events) home

theorem subscribes_of_continues {before after : Hub} (goes : before.Continues after)
    (home : Attachment) : after.subscribes home = before.subscribes home :=
  subscribes_congr goes.cleared home

theorem Holds.append (holds : Holds homes hub ref home conn) (more : List Attachment) :
    Holds (homes ++ more) hub ref home conn where
  found := by
    rw [List.getElem?_append_left (List.getElem?_eq_some_iff.1 holds.found).1]
    exact holds.found
  present := holds.present

/-! ### The clock -/

/-- The rounds that monitors run on a topic at an instant. -/
def roundsAt (monitors : List Monitor) (now : Span) (t : Nat) : Nat :=
  ((monitors.filter fun monitor => monitor.topic = t).map fun monitor =>
    (monitor.catchUp now).1).sum

/-- The rounds that are due on a topic when the clock moves. -/
def roundsDue (hub : Hub) (span : Span) (t : Nat) : Nat :=
  roundsAt (hub.monitors.filter (·.isReady (hub.now + span))) (hub.now + span) t

theorem now_probeTimes (hub : Hub) (t rounds : Nat) : (hub.probeTimes t rounds).now = hub.now := by
  induction rounds generalizing hub with
  | zero => rfl
  | succ rounds ih =>
      rw [probeTimes, ih, onTopic]
      split <;> rfl

/-- Rounds on its own topic are probes of a connection; those on other topics are nothing to it. -/
theorem connections_probeTimes (sound : Sound homes hub) (holds : Holds homes hub ref home conn)
    (t rounds : Nat) :
    (hub.probeTimes t rounds).connections[ref]? =
      some ((List.replicate (if t = home.topic then rounds else 0) Concern.probe).foldl
        (Connection.undergo (hub.subscribes home)) conn) := by
  induction rounds generalizing hub conn with
  | zero =>
      rw [ite_self]
      exact holds.present
  | succ rounds ih =>
      have first := connections_step sound holds (.probe t) (by simp) (by simp)
      have rest := ih (sound.of_continues .probe) ⟨holds.found, first⟩
      rw [subscribes_of_continues .probe] at rest
      rw [probeTimes, rest]
      by_cases same : t = home.topic
      · simp [Concern.ofEvent?, same, List.replicate_succ]
      · simp [Concern.ofEvent?, same]

theorem connections_runMonitors (sound : Sound homes hub)
    (holds : Holds homes hub ref home conn) (monitors : List Monitor) :
    (hub.runMonitors monitors).connections[ref]? =
      some ((List.replicate (roundsAt monitors hub.now home.topic) Concern.probe).foldl
        (Connection.undergo (hub.subscribes home)) conn) := by
  induction monitors generalizing hub conn with
  | nil => exact holds.present
  | cons monitor others ih =>
      have goes : hub.Continues (hub.afterRounds monitor) := .afterRounds monitor
      have first := connections_probeTimes sound holds monitor.topic (monitor.catchUp hub.now).1
      have rest := ih (sound.of_continues goes) ⟨holds.found, first⟩
      have now : (hub.afterRounds monitor).now = hub.now := now_probeTimes hub _ _
      rw [subscribes_of_continues goes, now, ← List.foldl_append,
        List.replicate_append_replicate] at rest
      rw [runMonitors_cons, rest]
      by_cases same : monitor.topic = home.topic <;> simp [roundsAt, same]

/-- When the clock moves, the rounds that are due on the topic of a connection probe it. -/
theorem connections_advance (sound : Sound homes hub) (holds : Holds homes hub ref home conn)
    (span : Span) :
    (hub.advance span).connections[ref]? =
      some ((List.replicate (hub.roundsDue span home.topic) Concern.probe).foldl
        (Connection.undergo (hub.subscribes home)) conn) := by
  let now := hub.now + span
  let waiting := { hub with
    now := now
    monitors := hub.monitors.filter fun monitor => !monitor.isReady now }
  let ready := (hub.monitors.filter (·.isReady now)).mergeSort fun one other => one.due ≤ other.due
  have moved : hub.advance span = waiting.runMonitors ready := by
    simp [advance, List.partition_eq_filter_filter, waiting, ready, now, Function.comp_def]
  have still : Sound homes waiting := sound.of_continues ⟨rfl, rfl⟩
  have probed := connections_runMonitors still ⟨holds.found, holds.present⟩ ready
  have rounds : roundsAt ready now home.topic = hub.roundsDue span home.topic := by
    have same := List.mergeSort_perm (hub.monitors.filter (·.isReady now))
      fun one other => decide (one.due ≤ other.due)
    exact ((same.filter _).map _).sum_nat
  rw [moved, probed, rounds]
  rfl

/-! ### Runs -/

/-- Everything that an event does to a connection, one thing after another. -/
def concernsOf (hub : Hub) (home : Attachment) (ref : ConnRef) : Event → List Concern
  | .advance span => List.replicate (hub.roundsDue span home.topic) .probe
  | event => (Concern.ofEvent? home ref event).toList

/-- Everything that happens to a connection in a run. -/
def concerns (hub : Hub) (home : Attachment) (ref : ConnRef) : List Event → List Concern
  | [] => []
  | event :: events => hub.concernsOf home ref event ++ (hub.step event).2.concerns home ref events

/-- An event does to a connection what concerns it, and nothing else. -/
theorem Holds.step (holds : Holds homes hub ref home conn) (sound : Sound homes hub)
    (event : Event) (atHome : ∀ t, event = .detach t ref → home.topic = t) :
    Holds (homes ++ (hub.attachment? event).toList) (hub.step event).2 ref home
      ((hub.concernsOf home ref event).foldl (Connection.undergo (hub.subscribes home)) conn) := by
  refine Holds.append ⟨holds.found, ?_⟩ _
  by_cases timed : ∃ span, event = .advance span
  · obtain ⟨span, rfl⟩ := timed
    exact connections_advance sound holds span
  · have untimed : ∀ span, event ≠ .advance span := fun span same => timed ⟨span, same⟩
    have single : hub.concernsOf home ref event = (Concern.ofEvent? home ref event).toList := by
      cases event with
      | advance span => exact absurd rfl (untimed span)
      | _ => rfl
    rw [connections_step sound holds event untimed atHome, single]
    cases Concern.ofEvent? home ref event <;> rfl

/-- A run does to a connection what concerns it, and nothing else. -/
theorem Holds.run (holds : Holds homes hub ref home conn) (sound : Sound homes hub)
    {events : List Event} (orderly : Orderly (homes ++ hub.attachments events) events) :
    (hub.run events).2.connections[ref]? =
      some ((hub.concerns home ref events).foldl
        (Connection.undergo (hub.subscribes home)) conn) := by
  induction events generalizing homes hub conn with
  | nil => exact holds.present
  | cons event others ih =>
      have next := holds.step sound event (orderly.detached holds.found)
      rw [run_cons, ih next (sound.next orderly) orderly.tail, subscribes_step, concerns,
        List.foldl_append]

/-! ### Answers to the reader of a connection -/

theorem fst_onConnection {α : Type} (f : Connection → α × Connection) :
    (hub.onConnection ref f).1 = hub.connections[ref]?.map fun conn => (f conn).1 :=
  Connections.fst_act f

/-- What a reader is told depends on the connection alone. -/
theorem outcome_receive (hub : Hub) (ref : ConnRef) :
    (hub.step (.receive ref)).1 =
      hub.connections[ref]?.elim .done fun conn => .received conn.receive.1 := by
  change ((hub.onConnection ref Connection.receive).1.map Outcome.received).getD .done = _
  rw [fst_onConnection]
  cases hub.connections[ref]? <;> rfl

theorem outcome_receiveControl (hub : Hub) (ref : ConnRef) :
    (hub.step (.receiveControl ref)).1 =
      hub.connections[ref]?.elim .done fun conn => .requested conn.receiveControl.1 := by
  change ((hub.onConnection ref Connection.receiveControl).1.map Outcome.requested).getD .done = _
  rw [fst_onConnection]
  cases hub.connections[ref]? <;> rfl

/-! ### Runs without monitors -/

/-- Monitors start only where they are asked for. -/
theorem monitors_step (idle : hub.monitors = []) (event : Event)
    (manual : ∀ t, event ≠ .spawnMonitor t) : (hub.step event).2.monitors = [] := by
  have onTopic {α : Type} (t : Nat) (f : Topic → Connections → α × Topic × Connections) :
      (hub.onTopic t f).2.monitors = [] := by
    unfold Hub.onTopic
    split <;> exact idle
  cases event with
  | spawnMonitor t => exact absurd rfl (manual t)
  | attach t peer channel => exact onTopic t fun topic conns => topic.attach conns peer channel
  | detach t ref => exact onTopic t fun topic conns => ((), topic.detach conns ref)
  | broadcast t channel payload =>
      exact onTopic t fun topic conns => topic.broadcast conns channel payload
  | probe t => exact onTopic t Topic.probe
  | terminateAll t =>
      exact onTopic t fun topic conns =>
        ((topic.terminateAll conns).1, topic, (topic.terminateAll conns).2)
  | advance span =>
      change (hub.advance span).monitors = []
      simp [advance, idle, runMonitors]
  | terminate | markAlive | receive | receiveControl | dropQueues => exact idle

theorem monitors_run (idle : hub.monitors = []) {events : List Event}
    (manual : ∀ t, Event.spawnMonitor t ∉ events) : (hub.run events).2.monitors = [] := by
  induction events generalizing hub with
  | nil => exact idle
  | cons event others ih =>
      refine ih (monitors_step idle event ?_) fun t member =>
        manual t (List.mem_cons_of_mem _ member)
      rintro t rfl
      exact manual t List.mem_cons_self

/-- Where no monitor runs, what happens to a connection can be read off the events. -/
theorem concerns_of_idle (idle : hub.monitors = []) {events : List Event}
    (manual : ∀ t, Event.spawnMonitor t ∉ events) :
    hub.concerns home ref events = events.filterMap (Concern.ofEvent? home ref) := by
  induction events generalizing hub with
  | nil => rfl
  | cons event others ih =>
      have first : hub.concernsOf home ref event = (Concern.ofEvent? home ref event).toList := by
        cases event with
        | advance span => simp [concernsOf, roundsDue, roundsAt, idle, Concern.ofEvent?]
        | _ => rfl
      have later : (hub.step event).2.monitors = [] := by
        apply monitors_step idle
        rintro t rfl
        exact manual t List.mem_cons_self
      have rest := ih later fun t member => manual t (List.mem_cons_of_mem _ member)
      rw [concerns, first, rest, List.filterMap_cons]
      cases Concern.ofEvent? home ref event <;> rfl

end Hub

end LiveRelay
