/-
Module: LiveRelay.Proofs.Relay.Grows
Purpose: What lasts in a relay, whatever happens: its configuration, its listeners and what they
  serve, what its topics accept, what each request feeds, and what each subscriber asked for.
Main exports: Relay.Begun, Relay.begun_of_startWith, Relay.Grows, Relay.Grows.run,
  Relay.Grows.feed, Relay.Grows.home
-/
import LiveRelay.Proofs.Relay.Course

namespace LiveRelay

open Net

namespace Relay

/-! ### The beginning -/

/-- A relay on which nothing has happened: its listeners serve the routes of its configuration, its
topics are as configured, and it has no requests, no subscribers and no connections. -/
structure Begun (router : Router PlacedRoute) (config : RelayConfig) (host : Host)
    (relay : Relay) : Prop where
  router : relay.router = router
  host : relay.host = host
  listening : relay.listening = true
  groups : relay.listeners.map IngestListener.group = config.ingestGroups
  topics : relay.hub.topics = config.topics.map fun topic => Topic.new topic config
  connections : relay.hub.connections = []
  requests : relay.requests = []
  subscribers : relay.subscribers = []

theorem spawnMonitors (hub : Hub) (ts : List Nat) :
    (ts.foldl Hub.spawnMonitor hub).topics = hub.topics ∧
      (ts.foldl Hub.spawnMonitor hub).connections = hub.connections := by
  induction ts generalizing hub with
  | nil => exact ⟨rfl, rfl⟩
  | cons t others ih =>
      have first : (hub.spawnMonitor t).topics = hub.topics ∧
          (hub.spawnMonitor t).connections = hub.connections := by
        unfold Hub.spawnMonitor
        split <;> exact ⟨rfl, rfl⟩
      rw [List.foldl_cons, (ih _).1, (ih _).2]
      exact first

variable {router : Router PlacedRoute} {config : RelayConfig} {host : Host}
  {relay before middle after : Relay} {event : Event} {events : List Event}

/-- A relay that starts has bound its configuration, and begins with nothing. -/
theorem begun_of_startWith (started : startWith router config host = .ok relay) :
    config.bind host = .ok config.listeners ∧ Begun router config host relay := by
  unfold startWith at started
  split at started
  · cases started
  next listeners bound =>
  have whole : listeners = config.listeners := by
    unfold RelayConfig.bind at bound
    split at bound
    · cases bound
    · cases opened : openListeners host [] config.listeners with
      | error fault =>
          rw [opened] at bound
          cases bound
      | ok _ =>
          rw [opened] at bound
          exact (Except.ok.inj bound).symm
  cases started
  obtain ⟨topics, connections⟩ := spawnMonitors (.new config) (List.range config.topics.length)
  exact ⟨whole ▸ bound, rfl, rfl, rfl, by simp [Function.comp_def], topics, connections, rfl, rfl⟩

/-- Of a relay that starts and passes a check, the start and the check. -/
theorem exists_started {check : Relay → Bool}
    (passes : (startWith router config host).toOption.any check = true) :
    ∃ started, startWith router config host = .ok started ∧ check started = true := by
  cases begins : startWith router config host with
  | error fault =>
      rw [begins] at passes
      cases passes
  | ok started =>
      rw [begins] at passes
      exact ⟨started, rfl, passes⟩

/-! ### What lasts -/

/-- A later state of a relay. -/
structure Grows (before after : Relay) : Prop where
  config : after.config = before.config
  host : after.host = before.host
  router : after.router = before.router
  groups : after.listeners.map IngestListener.group = before.listeners.map IngestListener.group
  topics : after.hub.topics.map Topic.cleared = before.hub.topics.map Topic.cleared
  feeds : before.requests.map PushRequest.feed <+: after.requests.map PushRequest.feed
  homes : before.subscribers.map Subscriber.home <+: after.subscribers.map Subscriber.home

/-- What stands in a list has a successor in a later one, as far as the two agree. -/
theorem exists_getElem?_of_map_prefix {α β : Type} {f : α → β} {earlier later : List α}
    (agree : earlier.map f <+: later.map f) {i : Nat} {item : α} (present : earlier[i]? = some item) :
    ∃ other, later[i]? = some other ∧ f other = f item := by
  have there : (earlier.map f)[i]? = some (f item) := by
    rw [List.getElem?_map, present, Option.map_some]
  obtain ⟨more, whole⟩ := agree
  have still : (later.map f)[i]? = some (f item) := by
    rw [← whole, List.getElem?_append_left (List.getElem?_eq_some_iff.1 there).1]
    exact there
  rw [List.getElem?_map] at still
  exact Option.map_eq_some_iff.1 still

namespace Grows

theorem refl (relay : Relay) : relay.Grows relay :=
  ⟨rfl, rfl, rfl, rfl, rfl, List.prefix_rfl, List.prefix_rfl⟩

theorem trans (one : before.Grows middle) (two : middle.Grows after) : before.Grows after :=
  ⟨two.config.trans one.config, two.host.trans one.host, two.router.trans one.router,
    two.groups.trans one.groups, two.topics.trans one.topics, one.feeds.trans two.feeds,
    one.homes.trans two.homes⟩

theorem of_counts (counts : before.Counts after) : before.Grows after where
  config := counts.config
  host := counts.host
  router := counts.router
  groups := counts.groups
  topics := by
    have uncounted (topics : List Topic) :
        topics.map Topic.cleared = (topics.map Topic.uncounted).map Topic.cleared := by
      rw [List.map_map]
      rfl
    rw [uncounted, counts.topics, ← uncounted]
  feeds := counts.feeds ▸ List.prefix_rfl
  homes := counts.subscribers ▸ List.prefix_rfl

/-- Something happens on the hub. -/
theorem of_hub (event : Hub.Event) : relay.Grows (relay.withHub (relay.hub.step event).2) :=
  ⟨rfl, rfl, rfl, rfl, Hub.cleared_step _ _, List.prefix_rfl, List.prefix_rfl⟩

/-- A subscriber is replaced by a state of itself. -/
theorem setSubscriber {c : Nat} {subscriber later : Subscriber}
    (present : relay.subscribers[c]? = some subscriber) (same : later.home = subscriber.home) :
    relay.Grows (relay.setSubscriber c later) := by
  have homes : (relay.setSubscriber c later).subscribers.map Subscriber.home =
      relay.subscribers.map Subscriber.home := map_set_of_eq present same
  exact ⟨rfl, rfl, rfl, rfl, rfl, List.prefix_rfl, homes ▸ List.prefix_rfl⟩

theorem endSubscriber {c : Nat} {subscriber later : Subscriber} {ref : ConnRef}
    {reason : CloseReason} (present : relay.subscribers[c]? = some subscriber)
    (same : later.home = subscriber.home) :
    relay.Grows (relay.endSubscriber c later ref reason) :=
  ((of_hub (.dropQueues ref)).trans (of_hub (.detach later.topic ref))).trans
    (setSubscriber present same)

theorem of_turned {c : Nat} {task : Task} (turned : Turned relay c task after) :
    relay.Grows after := by
  cases turned with
  | attached present _ _ => exact (of_hub _).trans (setSubscriber present rfl)
  | ended attached _ alike reason =>
      exact endSubscriber (connectionOf?_eq_some_iff.1 attached).1 alike.home
  | heard attached alike => exact setSubscriber (connectionOf?_eq_some_iff.1 attached).1 alike.home
  | alive attached alike =>
      exact (of_hub _).trans (setSubscriber (connectionOf?_eq_some_iff.1 attached).1 alike.home)
  | pinged attached =>
      exact (of_hub _).trans (setSubscriber (connectionOf?_eq_some_iff.1 attached).1 rfl)
  | wrote attached _ =>
      exact (of_hub _).trans (setSubscriber (connectionOf?_eq_some_iff.1 attached).1 rfl)

theorem of_course (course : Course relay event after) : relay.Grows after := by
  cases course with
  | counted _ counts => exact of_counts counts
  | fed _ counts => exact (of_hub _).trans (of_counts counts)
  | @opened _ _ _ _ _ _ _ request _ _ _ _ _ _ counts =>
      have longer : relay.Grows { relay with requests := relay.requests ++ [request] } := by
        refine ⟨rfl, rfl, rfl, rfl, rfl, ?_, List.prefix_rfl⟩
        rw [List.map_append]
        exact List.prefix_append _ _
      exact longer.trans (of_counts counts)
  | connected _ _ =>
      refine ⟨rfl, rfl, rfl, rfl, rfl, List.prefix_rfl, ?_⟩
      rw [List.map_append]
      exact List.prefix_append _ _
  | arrived present alike => exact setSubscriber present alike.home
  | turned turned => exact of_turned turned
  | terminated _ => exact of_hub _
  | terminatedAll t => exact of_hub _
  | advanced counts => exact (of_hub (.advance _)).trans (of_counts counts)

/-- Every event leaves a later state of the relay. -/
theorem step (relay : Relay) (event : Event) : relay.Grows (relay.step event) :=
  of_course (relay.course event)

/-- So does every run. -/
theorem run (relay : Relay) (events : List Event) : relay.Grows (relay.run events) := by
  induction events generalizing relay with
  | nil => exact refl relay
  | cons event others ih => exact (step relay event).trans (ih _)

/-- A request feeds what it fed. -/
theorem feed (grows : before.Grows after) {p : Nat} {request : PushRequest}
    (present : before.requests[p]? = some request) :
    ∃ later, after.requests[p]? = some later ∧ later.feed = request.feed :=
  exists_getElem?_of_map_prefix grows.feeds present

/-- A subscriber is there for what it asked for. -/
theorem home (grows : before.Grows after) {c : Nat} {subscriber : Subscriber}
    (present : before.subscribers[c]? = some subscriber) :
    ∃ later, after.subscribers[c]? = some later ∧ later.home = subscriber.home :=
  exists_getElem?_of_map_prefix grows.homes present

end Grows

end Relay

end LiveRelay
