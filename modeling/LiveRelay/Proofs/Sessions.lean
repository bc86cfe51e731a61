/-
Module: LiveRelay.Proofs.Sessions
Purpose: What the sessions of a topic add up is what the topic counts of its sources, for any sessions
  in any order and however they end.
Main exports: Relay.sessionsOf, Relay.knownSessions, Relay.admitted, Relay.sessions_conserved
-/
import LiveRelay.Proofs.Relay.Booked
import LiveRelay.Proofs.Relaying

namespace LiveRelay

open Net

/-! ### The parts of the books -/

/-- What requests add to the books of a topic: the traffic of its sessions on channels that it
accepts, how many they are in all, and how many are in progress. -/
theorem PushRequest.sum_share (t : Nat) (requests : List PushRequest) :
    (requests.map (PushRequest.share t)).sum =
      (((requests.filter fun request => request.topic = t ∧ request.session.routed).map
          (·.session.totals.traffic)).sum,
        UInt64.ofNat (requests.countP fun request => request.topic = t),
        UInt64.ofNat (requests.countP fun request => request.topic = t ∧ request.isOpen)) := by
  induction requests with
  | nil => rfl
  | cons request others ih =>
      rw [List.map_cons, List.sum_cons, ih]
      by_cases own : request.topic = t
      · have share : request.share t =
            (if request.session.routed then request.session.totals.traffic else 0, 1,
              if request.isOpen then 1 else 0) := if_pos own
        rw [share]
        refine Prod.ext ?_ (Prod.ext ?_ ?_)
        · by_cases routed : request.session.routed = true <;> simp [own, routed]
        · simp [own, UInt64.ofNat_add, add_comm]
        · by_cases opened : request.isOpen = true
          · simp [own, opened, UInt64.ofNat_add, add_comm]
          · simp [opened]
      · simp [share_of_ne own, own]

namespace Relay

variable {router : Router PlacedRoute} {config : RelayConfig} {host : Host}
  {started relay after : Relay} {event : Event} {events : List Event} {t : Nat} {topic : Topic}

/-- The requests that push to a topic, ended ones among them. -/
def sessionsOf (relay : Relay) (t : Nat) : List PushRequest :=
  relay.requests.filter fun request => request.topic = t

/-- The requests that push to a topic on channels that the topic accepts. -/
def knownSessions (relay : Relay) (t : Nat) (topic : Topic) : List PushRequest :=
  (relay.sessionsOf t).filter fun request => topic.isKnown request.session.channel

/-! ### Which requests there are -/

/-- Whether an event is a request that is admitted to a route of a topic. -/
def admits (relay : Relay) (t : Nat) : Event → Bool
  | .open l _ head =>
    relay.isReachable && relay.listeners[l]?.any fun listener =>
      match listener.group.admit relay.router head with
      | .ok (placed, _) => placed.topic = t
      | .error _ => false
  | _ => false

/-- How many requests of a run are admitted to routes of a topic. -/
def admitted (t : Nat) (relay : Relay) : List Event → Nat
  | [] => 0
  | event :: events => (relay.admits t event).toNat + admitted t (relay.step event) events

/-- Nothing but a request that arrives brings a request about. -/
theorem feeds_kept (course : Course relay event after)
    (other : ∀ l peer head, event ≠ .open l peer head) :
    after.requests.map PushRequest.feed = relay.requests.map PushRequest.feed := by
  cases course with
  | counted _ counts => exact counts.feeds
  | fed _ counts => exact counts.feeds
  | opened => exact absurd rfl (other _ _ _)
  | connected => rfl
  | arrived => rfl
  | turned turned => cases turned <;> rfl
  | terminated => rfl
  | terminatedAll => rfl
  | advanced counts => exact counts.feeds

/-- A request joins those of a topic exactly if it is admitted to a route of the topic. -/
theorem countP_requests_step (here : relay.hub.topics[t]? = some topic) (event : Event) :
    (relay.step event).requests.countP (fun request => request.topic = t) =
      relay.requests.countP (fun request => request.topic = t) + (relay.admits t event).toNat := by
  have same (feeds : (relay.step event).requests.map PushRequest.feed =
      relay.requests.map PushRequest.feed) (silent : relay.admits t event = false) :
      (relay.step event).requests.countP (fun request => request.topic = t) =
        relay.requests.countP (fun request => request.topic = t) +
          (relay.admits t event).toNat := by
    have counted := congrArg (List.countP fun feed => decide (feed.topic = t)) feeds
    rw [List.countP_map, List.countP_map] at counted
    rw [silent]
    exact counted
  cases event with
  | «open» l peer head =>
      cases listening : relay.listeners[l]? with
      | none =>
          refine same ?_ (by simp [admits, listening])
          change (relay.open l peer head).2.requests.map PushRequest.feed = _
          rw [«open», listening]
      | some listener =>
      cases reachable : relay.isReachable with
      | false =>
          refine same ?_ (by simp [admits, reachable])
          change (relay.open l peer head).2.requests.map PushRequest.feed = _
          rw [«open», listening]
          simp only [reachable, if_true]
      | true =>
      cases admission : listener.group.admit relay.router head with
      | error status =>
          refine same ?_ (by simp [admits, listening, admission])
          change (relay.open l peer head).2.requests.map PushRequest.feed = _
          rw [open_of_refusal listening reachable admission]
      | ok found =>
          obtain ⟨placed, channel⟩ := found
          have answer : relay.admits t (.open l peer head) = decide (placed.topic = t) := by
            simp [admits, listening, reachable, admission]
          change (relay.open l peer head).2.requests.countP _ = _
          rw [answer, «open», listening]
          simp only [reachable, Bool.true_eq_false, if_false, admission, startSession]
          cases there : relay.hub.topics[placed.topic]? with
          | none =>
              simp [Hub.ne_of_topic here there]
          | some other =>
              change (relay.requests ++ [_]).countP _ = _
              rw [List.countP_append, List.countP_singleton]
              by_cases own : placed.topic = t <;> simp [own]
  | _ => exact same (feeds_kept (relay.course _) (by simp)) rfl

/-- A topic has the requests that were admitted to its routes. -/
theorem countP_requests_run (here : t < relay.hub.topics.length) (events : List Event) :
    (relay.run events).requests.countP (fun request => request.topic = t) =
      relay.requests.countP (fun request => request.topic = t) + relay.admitted t events := by
  induction events generalizing relay with
  | nil => rfl
  | cons event others ih =>
      have length := congrArg List.length (Grows.step relay event).topics
      rw [List.length_map, List.length_map] at length
      have rest := ih (length ▸ here)
      rw [countP_requests_step (List.getElem?_eq_getElem here)] at rest
      exact rest.trans (Nat.add_assoc _ _ _)

/-- Every session is routed exactly if its topic accepts its channel. -/
def Judging (relay : Relay) : Prop :=
  ∀ feed ∈ relay.requests.map PushRequest.feed,
    feed.routed = relay.hub.subscribes ⟨feed.topic, default, some feed.channel⟩

theorem Judging.of_course (judging : Judging relay) (grows : relay.Grows after)
    (course : Course relay event after) : Judging after := by
  have still {feed : Feed} (member : feed ∈ relay.requests.map PushRequest.feed) :
      feed.routed = after.hub.subscribes ⟨feed.topic, default, some feed.channel⟩ := by
    rw [Hub.subscribes_congr grows.topics]
    exact judging feed member
  by_cases opens : ∃ l peer head, event = .open l peer head
  · obtain ⟨l, peer, head, rfl⟩ := opens
    cases course with
    | counted _ counts => exact fun feed member => still (counts.feeds ▸ member)
    | fed _ counts => exact fun feed member => still (counts.feeds ▸ member)
    | opened _ _ _ here fed counts =>
        intro feed member
        rw [counts.feeds, List.map_append, List.map_singleton, fed] at member
        rcases List.mem_append.1 member with before | last
        · exact still before
        · rw [List.mem_singleton.1 last, Hub.subscribes_congr grows.topics, Hub.subscribes, here]
          rfl
  · intro feed member
    rw [feeds_kept course fun l peer head same => opens ⟨l, peer, head, same⟩] at member
    exact still member

theorem Judging.run (judging : Judging relay) (events : List Event) :
    Judging (relay.run events) := by
  induction events generalizing relay with
  | nil => exact judging
  | cons event others ih =>
      exact ih (judging.of_course (Grows.step relay event) (relay.course event))

theorem Judging.routed (judging : Judging relay) (here : relay.hub.topics[t]? = some topic)
    {request : PushRequest} (member : request ∈ relay.sessionsOf t) :
    request.session.routed = topic.isKnown request.session.channel := by
  obtain ⟨present, own⟩ := List.mem_filter.1 member
  obtain rfl := of_decide_eq_true own
  have judged := judging request.feed (List.mem_map_of_mem present)
  rw [Hub.subscribes] at judged
  change request.session.routed = relay.hub.topics[request.topic]?.any _ at judged
  rw [here] at judged
  exact judged

theorem Judging.knownSessions_eq (judging : Judging relay)
    (here : relay.hub.topics[t]? = some topic) :
    relay.knownSessions t topic =
      relay.requests.filter fun request => request.topic = t ∧ request.session.routed := by
  rw [knownSessions]
  have same : (relay.sessionsOf t).filter (fun request => topic.isKnown request.session.channel) =
      (relay.sessionsOf t).filter fun request => request.session.routed :=
    List.filter_congr fun request member => (judging.routed here member).symm
  rw [same, sessionsOf, List.filter_filter]
  apply List.filter_congr
  intro request _
  simp [Bool.and_comm]

theorem Begun.booked (begun : Begun router config host started) : Booked started where
  sums := by
    intro t topic here
    rw [begun.topics] at here
    obtain ⟨one, _, rfl⟩ := List.mem_map.1 (List.mem_of_getElem? here)
    rw [begun.requests]
    rfl
  honest := by
    rw [begun.requests]
    exact fun request member => absurd member List.not_mem_nil

theorem Begun.judging (begun : Begun router config host started) : Judging started := by
  rw [Judging, begun.requests]
  exact fun feed member => absurd member List.not_mem_nil

/-- Four sessions on one topic, all in progress at some time: one ends in order, one breaks off, one
is on a channel that nobody knows and falls silent, and one goes on. A request for the topic by
another method starts none. -/
def interleavedSources : List Event :=
  [.connect 0 default ⟨"GET", "/?channel=a", [("Connection", "Upgrade"), ("Upgrade", "websocket"),
      ("Sec-WebSocket-Version", "13"), ("Sec-WebSocket-Key", "")]⟩,
    .turn 0 .attach, .open 0 default ⟨"POST", "/a", .chunked⟩,
    .open 0 default ⟨"POST", "/b", .chunked⟩, .open 0 default ⟨"GET", "/a", .chunked⟩,
    .open 0 default ⟨"PUT", "/a", .chunked⟩, .body 0 (.frame [1]), .body 1 (.frame [9, 9]),
    .body 2 (.frame [2, 3]), .body 0 .ended, .body 2 (.frame [4]), .body 2 .broken,
    .body 2 (.frame [5]), .advance (Span.ofMillis 30000), .open 0 default ⟨"POST", "/a", .chunked⟩,
    .body 3 (.frame [6])]

/-- In every run of a relay that starts, whatever its sources do and in whatever order: what a topic
has counted of chunks, bytes, deliveries and drops are the sums over its sessions on channels that
it accepts. A session on any other channel discards all its chunks and delivers and drops nothing,
and one on an accepted channel discards nothing. The sessions in all are the requests that were
admitted to a route of the topic, and those in progress the ones that have not ended, so that their
count never falls below zero. -/
theorem sessions_conserved (begins : startWith router config host = .ok started)
    (events : List Event) (here : (started.run events).hub.topics[t]? = some topic) :
    topic.stats.chunksRelayed =
        (((started.run events).knownSessions t topic).map (·.session.totals.chunks)).sum ∧
      topic.stats.bytesRelayed =
        (((started.run events).knownSessions t topic).map (·.session.totals.bytes)).sum ∧
      topic.stats.deliveries =
        (((started.run events).knownSessions t topic).map (·.session.totals.deliveries)).sum ∧
      topic.stats.dropped =
        (((started.run events).knownSessions t topic).map (·.session.totals.dropped)).sum ∧
      (∀ request ∈ (started.run events).sessionsOf t,
        (topic.isKnown request.session.channel = true → request.session.totals.discarded = 0) ∧
        (topic.isKnown request.session.channel = false →
          request.session.totals.discarded = request.session.totals.chunks ∧
            request.session.totals.deliveries = 0 ∧ request.session.totals.dropped = 0)) ∧
      topic.stats.ingestTotal = UInt64.ofNat (started.admitted t events) ∧
      topic.stats.ingestActive =
        UInt64.ofNat (((started.run events).sessionsOf t).countP PushRequest.isOpen) ∧
      ((started.run events).requests.length < UInt64.size → topic.stats.ingestActive.toNat =
        ((started.run events).sessionsOf t).countP PushRequest.isOpen) := by
  have begun := (begun_of_startWith begins).2
  have booked := begun.booked.run events
  have judging := begun.judging.run events
  have books := booked.sums t topic here
  rw [PushRequest.sum_share, ← judging.knownSessions_eq here] at books
  have traffic : (topic.stats.chunksRelayed, topic.stats.bytesRelayed, topic.stats.deliveries,
      topic.stats.dropped) =
        (((started.run events).knownSessions t topic).map (·.session.totals.traffic)).sum :=
    congrArg Prod.fst books
  -- The sum of the traffic is taken apart into the sums of its four counts.
  have part (count : UInt64 × UInt64 × UInt64 × UInt64 →+ UInt64) :
      count (topic.stats.chunksRelayed, topic.stats.bytesRelayed, topic.stats.deliveries,
        topic.stats.dropped) = (((started.run events).knownSessions t topic).map
          fun request => count request.session.totals.traffic).sum := by
    rw [traffic, map_list_sum, List.map_map]
    rfl
  have active : topic.stats.ingestActive =
      UInt64.ofNat (((started.run events).sessionsOf t).countP PushRequest.isOpen) := by
    have counted : topic.stats.ingestActive = UInt64.ofNat _ := congrArg (·.2.2) books
    rw [counted, sessionsOf, List.countP_filter]
    simp only [Bool.decide_and, Bool.decide_eq_true, Bool.and_comm]
  refine ⟨part (.fst _ _), part ((AddMonoidHom.fst _ _).comp (.snd _ _)),
    part (((AddMonoidHom.fst _ _).comp (.snd _ _)).comp (.snd _ _)),
    part (((AddMonoidHom.snd _ _).comp (.snd _ _)).comp (.snd _ _)), ?_, ?_, active, ?_⟩
  · intro request member
    have honest := booked.honest request (List.mem_filter.1 member).1
    rw [← judging.routed here member]
    exact ⟨honest.routed, honest.unrouted⟩
  · have counted : topic.stats.ingestTotal = UInt64.ofNat _ := congrArg (·.2.1) books
    have within : t < started.hub.topics.length := by
      have length := congrArg List.length (Grows.run started events).topics
      rw [List.length_map, List.length_map] at length
      exact length ▸ (List.getElem?_eq_some_iff.1 here).1
    rw [counted, countP_requests_run within, begun.requests, List.countP_nil, Nat.zero_add]
  · intro few
    rw [active]
    apply UInt64.toNat_ofNat_of_lt'
    calc ((started.run events).sessionsOf t).countP PushRequest.isOpen
        ≤ ((started.run events).sessionsOf t).length := List.countP_le_length
      _ ≤ (started.run events).requests.length := List.length_filter_le _ _
      _ < UInt64.size := few

/-- The topic has relayed the four chunks of three of its sessions, and one of its four sessions is
in progress. -/
theorem sessions_conserved_of_interleavedSources :
    ∃ started, startWith search oneChannel .linked = .ok started ∧
      ∃ topic, (started.run interleavedSources).hub.topics[0]? = some topic ∧
        topic.stats.chunksRelayed = 4 ∧ topic.stats.bytesRelayed = 5 ∧
        topic.stats.deliveries = 4 ∧ topic.stats.dropped = 0 ∧ topic.stats.ingestTotal = 4 ∧
        topic.stats.ingestActive.toNat = 1 ∧
        ((started.run interleavedSources).sessionsOf 0).map (·.ending) =
          [some .completed, some .timedOut, some .reset, none] ∧
        ∀ request ∈ (started.run interleavedSources).sessionsOf 0,
          topic.isKnown request.session.channel = false →
            request.session.totals.discarded = request.session.totals.chunks := by
  have outcome : (startWith search oneChannel .linked).toOption.any (fun started =>
      (started.run interleavedSources).hub.topics[0]?.any fun topic =>
        let known := (started.run interleavedSources).knownSessions 0 topic
        (known.map (·.session.totals.chunks)).sum = 4 ∧
          (known.map (·.session.totals.bytes)).sum = 5 ∧
          (known.map (·.session.totals.deliveries)).sum = 4 ∧
          (known.map (·.session.totals.dropped)).sum = 0 ∧
          ((started.run interleavedSources).sessionsOf 0).map (·.ending) =
            [some .completed, some .timedOut, some .reset, none] ∧
          ((started.run interleavedSources).sessionsOf 0).countP PushRequest.isOpen = 1 ∧
          (started.run interleavedSources).requests.length = 4 ∧
          started.admitted 0 interleavedSources = 4) = true := by decide +kernel
  obtain ⟨started, begins, there⟩ := exists_started outcome
  obtain ⟨topic, here, evaluated⟩ := (Option.any_eq_true _ _).1 there
  obtain ⟨fourChunks, fiveBytes, fourTaken, noneLost, endings, one, four, admitted⟩ :=
    of_decide_eq_true evaluated
  obtain ⟨chunks, bytes, deliveries, dropped, honest, total, _, active⟩ :=
    sessions_conserved begins interleavedSources here
  have few : (started.run interleavedSources).requests.length < UInt64.size := by
    rw [four]
    decide
  rw [admitted] at total
  exact ⟨started, begins, topic, here, chunks.trans fourChunks, bytes.trans fiveBytes,
    deliveries.trans fourTaken, dropped.trans noneLost, total, (active few).trans one, endings,
    fun request member unknown => ((honest request member).2 unknown).1⟩

end Relay

end LiveRelay
