/-
Module: LiveRelay.Proofs.Relay.Requests
Purpose: Where the requests of a relay come from. Each was started by a source that a listener
  admitted to a route of the topic that it feeds, on the channel that its path names there, and what
  it sends is broadcast exactly if the topic accepts the channel.
Main exports: RelayConfig.accepts, RelayConfig.Starts, Relay.Begun.served_of_admit,
  Relay.feeds_of_course, Relay.starts_of_request
-/
import LiveRelay.Proofs.Hub.Concern
import LiveRelay.Proofs.Ingest.Groups
import LiveRelay.Proofs.Ingest.Routing
import LiveRelay.Proofs.Relay.Grows
import Mathlib.Data.List.Induction

namespace LiveRelay

open Net

namespace RelayConfig

/-- Whether a topic is there and accepts the channel that is asked for on it. -/
def accepts (config : RelayConfig) (t : Nat) (channel : Option Channel) : Bool :=
  config.topics[t]?.any fun topic => channel.any topic.channels.contains

/-- An event starts the session of request `p`: a source comes to a listener, where a route of topic
`t` serves its path, which names the channel there. -/
inductive Starts (config : RelayConfig) (relay : Relay) (p t : Nat) (channel : Channel) :
    Relay.Event → Prop
  | admitted {l : Nat} {peer : SocketAddress} {head : RequestHead} {listener : IngestListener}
      {topic : TopicConfig} {route : IngestRoute}
      (listening : relay.listeners[l]? = some listener)
      (served : listener.group.admit relay.router head = .ok (⟨route, t⟩, channel))
      (configured : config.topics[t]? = some topic) (own : route ∈ topic.ingest)
      (here : route.address = listener.group.address)
      (answered : (relay.open l peer head).1 = .started p) :
      Starts config relay p t channel (.open l peer head)

end RelayConfig

/-- A source is admitted to a route of the listener. -/
theorem IngestGroup.mem_of_admit {group : IngestGroup} {router : Router PlacedRoute}
    {head : RequestHead} {placed : PlacedRoute} {channel : Channel} (picks : router.Picks)
    (admitted : group.admit router head = .ok (placed, channel)) : placed ∈ group.routes := by
  unfold IngestGroup.admit at admitted
  split at admitted
  · cases admitted
  next capture target dispatched =>
  have listed : target ∈ group.routes := by
    obtain ⟨segments, _, found⟩ := Option.bind_eq_some_iff.1 dispatched
    obtain ⟨pattern, member⟩ := picks _ _ _ _ found
    obtain ⟨⟨route, placed⟩, among, written⟩ := List.mem_flatMap.1 member
    obtain ⟨_, _, same⟩ := List.mem_map.1 written
    cases same
    exact (mem_served.1 among).1
  split at admitted
  · cases admitted
  split at admitted
  · cases admitted
    exact listed
  · cases admitted

namespace Relay

variable {router : Router PlacedRoute} {config : RelayConfig} {host : Host}
  {started relay after : Relay} {event : Event} {events : List Event} {p t : Nat} {feed : Feed}

theorem run_append (relay : Relay) (one two : List Event) :
    relay.run (one ++ two) = (relay.run one).run two :=
  List.foldl_append

theorem run_concat (relay : Relay) (events : List Event) (event : Event) :
    relay.run (events ++ [event]) = (relay.run events).step event :=
  List.foldl_concat step relay event events

/-- The topics of a relay accept what they are configured to accept, at any time. -/
theorem subscribes_of_grows (begun : Begun router config host started)
    (grows : started.Grows relay) (home : Attachment) :
    relay.hub.subscribes home = config.accepts home.topic home.channel := by
  rw [Hub.subscribes_congr grows.topics, Hub.subscribes, begun.topics, List.getElem?_map,
    Option.any_map]
  rfl

theorem isKnown_of_grows (begun : Begun router config host started) (grows : started.Grows relay)
    {topic : Topic} (here : relay.hub.topics[t]? = some topic) (channel : Channel) :
    topic.isKnown channel = config.accepts t (some channel) := by
  rw [← subscribes_of_grows begun grows ⟨t, default, some channel⟩, Hub.subscribes, here]
  rfl

/-- Each configured topic is there at any time. -/
theorem Begun.exists_topic_of_grows (begun : Begun router config host started)
    (grows : started.Grows relay) {configured : TopicConfig}
    (there : config.topics[t]? = some configured) :
    ∃ topic, relay.hub.topics[t]? = some topic ∧
      topic.cleared = (Topic.new configured config).cleared := by
  have was : started.hub.topics[t]? = some (Topic.new configured config) := by
    rw [begun.topics, List.getElem?_map, there, Option.map_some]
  exact exists_getElem?_of_map_eq grows.topics.symm was

/-- A source is admitted to a route that a topic is configured with at the listener. -/
theorem Begun.served_of_admit (begun : Begun router config host started) (picks : router.Picks)
    (grows : started.Grows relay) {l : Nat} {listener : IngestListener} {head : RequestHead}
    {placed : PlacedRoute} {channel : Channel} (listening : relay.listeners[l]? = some listener)
    (admitted : listener.group.admit relay.router head = .ok (placed, channel)) :
    placed.route.address = listener.group.address ∧
      ∃ topic, config.topics[placed.topic]? = some topic ∧ placed.route ∈ topic.ingest := by
  have member : listener.group ∈ config.ingestGroups := by
    rw [← begun.groups, ← grows.groups]
    exact List.mem_map_of_mem (List.mem_of_getElem? listening)
  rw [grows.router.trans begun.router] at admitted
  exact (RelayConfig.mem_routes member).1 (IngestGroup.mem_of_admit picks admitted)

/-- At one event the requests go on with what they feed, or a source starts one more. -/
theorem feeds_of_course (begun : Begun router config host started) (picks : router.Picks)
    (grows : started.Grows relay) (course : Course relay event after) :
    after.requests.map PushRequest.feed = relay.requests.map PushRequest.feed ∨
      ∃ t channel, config.Starts relay relay.requests.length t channel event ∧
        after.requests.map PushRequest.feed =
          relay.requests.map PushRequest.feed ++
            [⟨t, channel, config.accepts t (some channel)⟩] := by
  cases course with
  | counted _ counts => exact .inl counts.feeds
  | fed _ counts => exact .inl counts.feeds
  | @opened l peer head listener placed channel topic request _ listening reachable admitted here
      feed counts =>
      obtain ⟨route, t⟩ := placed
      refine .inr ⟨t, channel, ?_, ?_⟩
      · obtain ⟨address, configuring, place, own⟩ :=
          begun.served_of_admit picks grows listening admitted
        obtain ⟨_, _, opened, _⟩ := open_of_admit listening reachable admitted here
        exact .admitted listening admitted place own address (by rw [opened])
      · rw [counts.feeds, List.map_append, List.map_singleton, feed,
          isKnown_of_grows begun grows here]
  | connected _ _ => exact .inl rfl
  | arrived _ _ => exact .inl rfl
  | turned turned => cases turned <;> exact .inl rfl
  | terminated _ => exact .inl rfl
  | terminatedAll _ => exact .inl rfl
  | advanced counts => exact .inl counts.feeds

/-- Every request of a run was started by a source that came along before. -/
theorem starts_of_feed (begun : Begun router config host started) (picks : router.Picks)
    (fed : ((started.run events).requests.map PushRequest.feed)[p]? = some feed) :
    feed.routed = config.accepts feed.topic (some feed.channel) ∧
      ∃ before event later, events = before ++ event :: later ∧
        config.Starts (started.run before) p feed.topic feed.channel event := by
  -- From the end of the run: what a request feeds stays, so only the last event could be new.
  induction events using List.reverseRecOn with
  | nil =>
      change (started.requests.map PushRequest.feed)[p]? = some feed at fed
      rw [begun.requests] at fed
      cases fed
  | append_singleton events event ih =>
      have earlier (was : ((started.run events).requests.map PushRequest.feed)[p]? = some feed) :
          feed.routed = config.accepts feed.topic (some feed.channel) ∧
            ∃ before one later, events ++ [event] = before ++ one :: later ∧
              config.Starts (started.run before) p feed.topic feed.channel one := by
        obtain ⟨routed, before, one, later, rfl, starts⟩ := ih was
        refine ⟨routed, before, one, later ++ [event], ?_, starts⟩
        rw [List.append_assoc, List.cons_append]
      rw [run_concat] at fed
      rcases feeds_of_course begun picks (Grows.run started events)
        ((started.run events).course event) with same | ⟨t, channel, starts, longer⟩
      · rw [same] at fed
        exact earlier fed
      · rw [longer, List.getElem?_append] at fed
        split at fed
        · exact earlier fed
        · next beyond =>
          rw [List.getElem?_singleton] at fed
          split at fed
          · next last =>
            rw [List.length_map] at beyond last
            obtain rfl : p = (started.run events).requests.length := by omega
            cases fed
            exact ⟨rfl, events, event, [], rfl, starts⟩
          · cases fed

/-- A request feeds a topic and a channel that a source was admitted to, and what it sends is
broadcast exactly if the topic accepts the channel. -/
theorem starts_of_request (begun : Begun router config host started) (picks : router.Picks)
    {request : PushRequest} (present : (started.run events).requests[p]? = some request) :
    request.session.routed = config.accepts request.topic (some request.session.channel) ∧
      ∃ before event later, events = before ++ event :: later ∧
        config.Starts (started.run before) p request.topic request.session.channel event := by
  have fed : ((started.run events).requests.map PushRequest.feed)[p]? = some request.feed := by
    rw [List.getElem?_map, present, Option.map_some]
  exact starts_of_feed begun picks fed

end Relay

end LiveRelay
