/-
Module: LiveRelay.Proofs.Startup
Purpose: What the parts that a configuration starts demand of its values: the queue of a connection
  of its capacity, the monitor of a topic of its period, the router of a listener of its paths. The
  check of a configuration sees to the lower bounds, and a path starts with a slash in any case. The
  check does not ask whether a queue can have so much room, nor whether a base can stand in a path.
  How much room a queue can have is not for the relay to say, and stays a parameter.
Main exports: RegularPath, IngestRoute.regular_paths_iff, IngestRoute.IsMarked,
  RelayConfig.MeetsDemands, RelayConfig.meetsDemands_iff, RelayConfig.startup_demands
-/
import LiveRelay.Proofs.Binding
import LiveRelay.Proofs.Dispatch
import LiveRelay.Proofs.KnownChannels

namespace LiveRelay

open Text Net

/-! ### Paths that a router takes as they look -/

namespace Text

/-- The pieces of a text hold its characters but the separators. -/
theorem exists_mem_pieces_iff {separator c : Char} {text : List Char} :
    (∃ piece ∈ pieces separator text, c ∈ piece) ↔ c ∈ text ∧ c ≠ separator := by
  induction text with
  | nil => simp [pieces]
  | cons d rest ih =>
      rw [pieces]
      split
      · next same =>
        subst same
        have skip : (∃ piece ∈ [] :: pieces d rest, c ∈ piece) ↔
            ∃ piece ∈ pieces d rest, c ∈ piece := by
          rw [List.exists_mem_cons_iff, or_iff_right List.not_mem_nil]
        rw [skip, ih, List.mem_cons]
        exact and_congr_left fun other => (or_iff_right other).symm
      · next different =>
        split
        · next parts => exact absurd parts (pieces_ne_nil separator rest)
        · next first others parts =>
          rw [parts, List.exists_mem_cons_iff] at ih
          rw [List.exists_mem_cons_iff, List.mem_cons, or_assoc, ih, List.mem_cons, or_and_right]
          refine or_congr_left (iff_self_and.2 ?_)
          rintro rfl
          exact different

end Text

/-- The segments of a path in which a brace stands. -/
def bracedSegments (path : List Char) : List (List Char) :=
  (pieces '/' path).filter fun segment => '\x7b' ∈ segment ∨ '\x7d' ∈ segment

/-- What a router demands of a written path: it starts with a slash, no segment starts with a colon
or a star, and the only braces are those of a channel and of a rest behind it. -/
structure RegularPath (path : List Char) : Prop where
  rooted : path.head? = some '/'
  starts : ∀ segment ∈ pieces '/' path, segment.head? ≠ some ':' ∧ segment.head? ≠ some '*'
  braces : bracedSegments path = ["\x7bchannel\x7d".toList] ∨
    bracedSegments path = ["\x7bchannel\x7d".toList, "\x7b*rest\x7d".toList]

theorem bracedSegments_append (first second : List Char) :
    bracedSegments (first ++ '/' :: second) = bracedSegments first ++ bracedSegments second := by
  rw [bracedSegments, pieces_append, List.filter_append]
  rfl

theorem bracedSegments_eq_nil_iff {path : List Char} :
    bracedSegments path = [] ↔ ∀ c ∈ path, c ≠ '\x7b' ∧ c ≠ '\x7d' := by
  have opening := @exists_mem_pieces_iff '/' '\x7b' path
  have closing := @exists_mem_pieces_iff '/' '\x7d' path
  rw [bracedSegments, List.filter_eq_nil_iff]
  simp only [decide_eq_true_eq, not_or]
  constructor
  · intro plain c member
    constructor
    · rintro rfl
      obtain ⟨segment, among, inside⟩ := opening.2 ⟨member, by decide⟩
      exact (plain segment among).1 inside
    · rintro rfl
      obtain ⟨segment, among, inside⟩ := closing.2 ⟨member, by decide⟩
      exact (plain segment among).2 inside
  · intro plain segment among
    constructor
    · intro inside
      exact (plain _ (opening.1 ⟨segment, among, inside⟩).1).1 rfl
    · intro inside
      exact (plain _ (closing.1 ⟨segment, among, inside⟩).1).2 rfl

namespace IngestRoute

variable {route : IngestRoute}

/-- A route some segment of whose base starts with a colon or a star. -/
def IsMarked (route : IngestRoute) : Prop :=
  ∃ segment ∈ pieces '/' route.base.toList, segment.head? = some ':' ∨ segment.head? = some '*'

/-- The segments in front of the last slash before the channel are those of the base. -/
theorem starts_root_iff (route : IngestRoute) :
    (∀ segment ∈ pieces '/' route.root, segment.head? ≠ some ':' ∧ segment.head? ≠ some '*') ↔
      ∀ segment ∈ pieces '/' route.base.toList,
        segment.head? ≠ some ':' ∧ segment.head? ≠ some '*' := by
  rw [root]
  split
  · next none => simp [none]
  · simp [pieces]

theorem braceless_root_iff (route : IngestRoute) :
    (∀ c ∈ route.root, c ≠ '\x7b' ∧ c ≠ '\x7d') ↔
      ∀ c ∈ route.base.toList, c ≠ '\x7b' ∧ c ≠ '\x7d' := by
  rw [root]
  split
  · next none => simp [none]
  · simp

theorem head?_root_append (route : IngestRoute) (tail : List Char) :
    (route.root ++ '/' :: tail).head? = some '/' := by
  rw [root]
  split <;> rfl

/-- What holds of the paths of a route holds of the texts that they are. -/
theorem forall_mem_paths_iff (route : IngestRoute) (holds : List Char → Prop) :
    (∀ path ∈ route.paths, holds path.toList) ↔
      ∀ ending ∈ endings, holds (route.root ++ ending.1) := by
  rw [← List.forall_mem_map, map_toList_paths, List.forall_mem_map]

/-- Every path starts with a slash. -/
theorem head?_of_mem_paths (route : IngestRoute) :
    ∀ path ∈ route.paths, path.toList.head? = some '/' := by
  apply (route.forall_mem_paths_iff fun text => text.head? = some '/').2
  intro ending member
  have slash : ∀ ending ∈ endings, ∃ tail, ending.1 = '/' :: tail := by simp [endings]
  obtain ⟨tail, same⟩ := slash ending member
  rw [same]
  exact route.head?_root_append tail

/-- All paths of a route are regular exactly if its base is plain. -/
theorem regular_paths_iff (route : IngestRoute) :
    (∀ path ∈ route.paths, RegularPath path.toList) ↔ route.IsPlain := by
  have tails : ∀ ending ∈ endings, ∃ tail, ending.1 = '/' :: tail ∧
      (∀ segment ∈ pieces '/' tail, segment.head? ≠ some ':' ∧ segment.head? ≠ some '*') ∧
      (bracedSegments tail = ["\x7bchannel\x7d".toList] ∨
        bracedSegments tail = ["\x7bchannel\x7d".toList, "\x7b*rest\x7d".toList]) := by
    simp only [endings, List.forall_mem_cons]
    exact ⟨⟨_, rfl, by decide, by decide⟩, ⟨_, rfl, by decide, by decide⟩,
      ⟨_, rfl, by decide, by decide⟩, fun _ none => absurd none List.not_mem_nil⟩
  rw [forall_mem_paths_iff, IsPlain, ← braceless_root_iff, ← bracedSegments_eq_nil_iff,
    ← starts_root_iff]
  constructor
  · -- The path that ends with the channel has no other brace.
    intro regular
    obtain ⟨_, fine, braces⟩ :=
      regular ("/\x7bchannel\x7d".toList, [.char '/', .part]) (by simp [endings])
    have alone : bracedSegments "\x7bchannel\x7d".toList = ["\x7bchannel\x7d".toList] := by decide
    have path : route.root ++ "/\x7bchannel\x7d".toList =
        route.root ++ '/' :: "\x7bchannel\x7d".toList := rfl
    rw [path, pieces_append] at fine
    rw [path, bracedSegments_append, alone] at braces
    refine ⟨?_, fun segment present => fine segment (List.mem_append_left _ present)⟩
    rcases braces with channel | rest
    · exact List.append_left_eq_self.1 channel
    · have two : bracedSegments route.root ++ ["\x7bchannel\x7d".toList] =
          ["\x7bchannel\x7d".toList] ++ ["\x7b*rest\x7d".toList] := rest
      exact absurd (List.append_inj' two rfl).2 (by decide)
  · rintro ⟨plain, fine⟩ ending member
    obtain ⟨tail, same, behind, marks⟩ := tails ending member
    rw [same]
    constructor
    case rooted => exact route.head?_root_append tail
    case starts =>
      rw [pieces_append]
      intro segment present
      exact (List.mem_append.1 present).elim (fine segment) (behind segment)
    case braces =>
      rw [bracedSegments_append, plain]
      exact marks

/-- A segment that starts with a colon or a star keeps the path of its route from being read. -/
theorem IsMarked.readPath?_path (marked : route.IsMarked) : readPath? route.path = none := by
  obtain ⟨segment, among, first⟩ : ∃ segment ∈ pieces '/' route.root,
      segment.head? = some ':' ∨ segment.head? = some '*' := by
    by_contra unmarked
    obtain ⟨segment, among, first⟩ := marked
    have fine := route.starts_root_iff.1 fun segment among =>
      ⟨fun colon => unmarked ⟨segment, among, .inl colon⟩,
        fun star => unmarked ⟨segment, among, .inr star⟩⟩
    exact first.elim (fine segment among).1 (fine segment among).2
  have text : route.path.toList = route.root ++ '/' :: "\x7bchannel\x7d".toList :=
    route.toList_path
  have found : ((pieces '/' route.path.toList).any fun segment =>
      segment.head? = some ':' ∨ segment.head? = some '*') = true := by
    rw [text, pieces_append, List.any_eq_true]
    exact ⟨segment, List.mem_append_left _ among, decide_eq_true first⟩
  rw [readPath?, found]
  cases readTokens? _ (withoutDoubledBraces route.path.toList) <;> rfl

end IngestRoute

/-- Where one item is not read, the list is not. -/
theorem mapM_eq_none_of_mem {α β : Type} {f : α → Option β} {elements : List α} {x : α}
    (member : x ∈ elements) (unread : f x = none) : elements.mapM f = none := by
  obtain ⟨before, after, rfl⟩ := List.append_of_mem member
  rw [List.mapM_append, List.mapM_cons, unread]
  cases before.mapM f <;> rfl

theorem canServe_of_isMarked {routes : List IngestRoute} {route : IngestRoute}
    (member : route ∈ routes) (marked : route.IsMarked) : canServe routes = false := by
  have path : route.path ∈ routes.flatMap IngestRoute.paths :=
    List.mem_flatMap.2 ⟨route, member, route.path_mem_paths⟩
  rw [canServe, mapM_eq_none_of_mem path marked.readPath?_path]

/-! ### What a configuration hands to its parts -/

/-- Monitors of topics that are there start with the period of those topics. -/
theorem Hub.monitors_spawnMonitors {hub : Hub} {period : Span} {ts : List Nat}
    (paced : ∀ topic ∈ hub.topics, topic.probeInterval = period)
    (there : ∀ t ∈ ts, t < hub.topics.length) :
    (ts.foldl Hub.spawnMonitor hub).monitors =
      hub.monitors ++ ts.map fun t => ⟨t, period, hub.now + period⟩ := by
  induction ts generalizing hub with
  | nil => exact (List.append_nil _).symm
  | cons t others ih =>
      obtain ⟨within, rest⟩ := List.forall_mem_cons.1 there
      let next : Hub := { hub with monitors := hub.monitors ++ [⟨t, period, hub.now + period⟩] }
      have first : hub.spawnMonitor t = next := by
        have interval := paced _ (List.getElem_mem within)
        rw [spawnMonitor, List.getElem?_eq_getElem within]
        simp only [interval, next]
      rw [List.foldl_cons, first, @ih next paced rest, List.append_assoc, List.map_cons]
      rfl

namespace RelayConfig

variable {config : RelayConfig} {route : IngestRoute} {host : Host}

/-- What the parts that a configuration starts demand of it: a queue has room for something, and for
no more than the most that a queue can have; a monitor has a period; and the paths at every listener
are regular. -/
structure MeetsDemands (config : RelayConfig) (most : Nat) : Prop where
  room : 1 ≤ config.queueCapacity.toNat ∧ config.queueCapacity.toNat ≤ most
  period : config.probeInterval ≠ 0
  paths : ∀ group ∈ config.ingestGroups, ∀ placed ∈ group.routes, ∀ path ∈ placed.route.paths,
    RegularPath path.toList

/-- The routes at all listeners are those of the configuration. -/
theorem forall_ingestGroups_iff (config : RelayConfig) (holds : IngestRoute → Prop) :
    (∀ group ∈ config.ingestGroups, ∀ placed ∈ group.routes, holds placed.route) ↔
      ∀ route ∈ config.routes, holds route := by
  constructor
  · intro each route member
    obtain ⟨topic, among, own⟩ := List.mem_flatMap.1 member
    obtain ⟨t, here⟩ := List.getElem?_of_mem among
    obtain ⟨group, grouped, _, placed⟩ := exists_group here own
    exact each group grouped _ placed
  · intro each group grouped placed inGroup
    obtain ⟨_, topic, here, own⟩ := (mem_routes grouped).1 inGroup
    exact each _ (List.mem_flatMap.2 ⟨topic, List.mem_of_getElem? here, own⟩)

theorem one_le_queueCapacity (accepted : config.validate = .ok ()) :
    1 ≤ config.queueCapacity.toNat := by
  have positive := (validate_eq_ok_iff.1 accepted).queueCapacity
  rw [Nat.one_le_iff_ne_zero]
  exact fun zero => positive (UInt64.toNat_inj.1 zero)

/-- An accepted configuration meets the demands exactly if no queue is asked for too much room and
every base is plain. -/
theorem meetsDemands_iff (accepted : config.validate = .ok ()) (most : Nat) :
    config.MeetsDemands most ↔
      config.queueCapacity.toNat ≤ most ∧ ∀ route ∈ config.routes, route.IsPlain := by
  have regular : (∀ group ∈ config.ingestGroups, ∀ placed ∈ group.routes,
      ∀ path ∈ placed.route.paths, RegularPath path.toList) ↔
        ∀ route ∈ config.routes, route.IsPlain := by
    rw [config.forall_ingestGroups_iff fun route => ∀ path ∈ route.paths, RegularPath path.toList]
    exact forall₂_congr fun route _ => route.regular_paths_iff
  constructor
  · rintro ⟨⟨_, room⟩, _, paths⟩
    exact ⟨room, regular.1 paths⟩
  · rintro ⟨room, plain⟩
    exact ⟨⟨one_le_queueCapacity accepted, room⟩, (validate_eq_ok_iff.1 accepted).probeInterval,
      regular.2 plain⟩

/-- A configuration with a marked route is started by no host. -/
theorem exists_error_of_isMarked (accepted : config.validate = .ok ()) (own : route ∈ config.routes)
    (marked : route.IsMarked) (host : Host) : ∃ error, config.bind host = .error error := by
  cases outcome : config.bind host with
  | error error => exact ⟨error, rfl⟩
  | ok opened =>
      rw [bind, accepted] at outcome
      cases opening : openListeners host [] config.listeners with
      | error error =>
          rw [opening] at outcome
          cases outcome
      | ok _ =>
          have opens := openListeners_eq_ok_iff.1 opening
          have unmarked := config.forall_ingestGroups_iff fun route => ¬ route.IsMarked
          refine absurd marked (unmarked.1 ?_ route own)
          intro group grouped placed inGroup marked
          have serves := opens.servable (.ingest group)
            (List.mem_append_right _ (List.mem_map_of_mem grouped))
          have fails := canServe_of_isMarked (List.mem_map_of_mem inGroup) marked
          cases serves.symm.trans fails

/-- The configuration with another base for each base. -/
def rebased (config : RelayConfig) (rename : String → String) : RelayConfig :=
  { config with topics := config.topics.map fun topic =>
      { topic with ingest := topic.ingest.map fun route =>
          { route with base := rename route.base } } }

theorem routes_rebased (config : RelayConfig) (rename : String → String) :
    (config.rebased rename).routes =
      config.routes.map fun route => { route with base := rename route.base } := by
  rw [routes, rebased, List.flatMap_map, routes, List.map_flatMap]

/-- The check asks only whether bases are the same. -/
theorem validate_rebased (accepted : config.validate = .ok ()) {rename : String → String}
    (injective : Function.Injective rename) : (config.rebased rename).validate = .ok () := by
  obtain ⟨topics, probeInterval, idleTimeout, queueCapacity, separate, apart⟩ :=
    validate_eq_ok_iff.1 accepted
  have sameSubscribe :
      fixedSubscribe (config.rebased rename).topics = fixedSubscribe config.topics := by
    simp [fixedSubscribe, rebased, Function.comp_def]
  refine validate_eq_ok_iff.2 ⟨?_, probeInterval, idleTimeout, queueCapacity, ⟨?_, ?_, ?_, ?_⟩, ?_⟩
  · simpa [rebased] using topics
  · simpa [rebased, Function.comp_def] using separate.names
  · simpa [rebased] using separate.channels
  · rw [sameSubscribe]
    exact separate.subscribe
  · change (config.rebased rename).routes.Nodup
    rw [routes_rebased]
    refine List.Nodup.map (fun one other same => ?_) separate.routes
    cases one
    cases other
    simp only [IngestRoute.mk.injEq] at same
    rw [same.1, injective same.2]
  · rw [routes_rebased, sameSubscribe]
    simpa using apart

theorem validate_queueCapacity (accepted : config.validate = .ok ()) {capacity : UInt64}
    (positive : capacity ≠ 0) : { config with queueCapacity := capacity }.validate = .ok () := by
  obtain ⟨topics, probeInterval, idleTimeout, _, separate, apart⟩ := validate_eq_ok_iff.1 accepted
  exact validate_eq_ok_iff.2 ⟨topics, probeInterval, idleTimeout, positive, separate, apart⟩

end RelayConfig

namespace Relay

variable {router : Router PlacedRoute} {config : RelayConfig} {host : Host} {started : Relay}

/-- A relay starts one monitor for each topic, with the period of its configuration. -/
theorem monitors_of_startWith (begins : startWith router config host = .ok started) :
    started.hub.monitors = (List.range config.topics.length).map fun t =>
      ⟨t, config.probeInterval, config.probeInterval⟩ := by
  unfold startWith at begins
  split at begins
  · cases begins
  cases begins
  have paced : ∀ topic ∈ (Hub.new config).topics, topic.probeInterval = config.probeInterval := by
    intro topic member
    obtain ⟨configured, _, rfl⟩ := List.mem_map.1 member
    rfl
  have there : ∀ t ∈ List.range config.topics.length, t < (Hub.new config).topics.length := by
    intro t member
    rw [Hub.new, List.length_map]
    exact List.mem_range.1 member
  rw [Hub.monitors_spawnMonitors paced there]
  simp [Hub.new]

/-- Whatever happens to a relay, a connection is given the room that its configuration says, which
is never none. -/
theorem capacity_newConnection (begun : Begun router config host started)
    (accepted : config.validate = .ok ()) (events : List Event) {t : Nat} {topic : Topic}
    (here : (started.run events).hub.topics[t]? = some topic) (peer : SocketAddress)
    (channel : Option Channel) :
    (topic.newConnection peer channel).capacity = config.queueCapacity.toNat := by
  obtain ⟨configured, _, same⟩ := begun.topic_of_run events here
  have options : topic.queueCapacity = config.queueCapacity.toNat :=
    (Topic.options_of_cleared same).1
  change max topic.queueCapacity 1 = _
  rw [options, max_eq_left (RelayConfig.one_le_queueCapacity accepted)]

end Relay

namespace RelayConfig

/-- What an accepted configuration guarantees to the parts that it starts: room for something in
each queue, a period for each monitor, and paths that start with a slash. It meets all demands exactly
if no queue is asked for too much room either and every base is plain, and then a host that has its
addresses starts it. These values are what the parts are given: each monitor of a started relay has
the period, and each connection that is ever attached the room. The check does not see to the rest: it
accepts every room but none, and any other bases that differ where the old ones did, while no host
starts a configuration with a marked route. -/
theorem startup_demands {config : RelayConfig} (accepted : config.validate = .ok ()) :
    (1 ≤ config.queueCapacity.toNat ∧ config.probeInterval ≠ 0 ∧
      ∀ route ∈ config.routes, ∀ path ∈ route.paths, path.toList.head? = some '/') ∧
    (∀ most, config.MeetsDemands most ↔
      config.queueCapacity.toNat ≤ most ∧ ∀ route ∈ config.routes, route.IsPlain) ∧
    (∀ most, config.MeetsDemands most → ∀ host,
      (∀ address, config.bind host ≠ .error (.unavailable address)) →
        config.bind host = .ok config.listeners) ∧
    (∀ router host started, Relay.startWith router config host = .ok started →
      (started.hub.monitors = (List.range config.topics.length).map fun t =>
        ⟨t, config.probeInterval, config.probeInterval⟩) ∧
      ∀ (events : List Relay.Event) (t : Nat) (topic : Topic),
        (started.run events).hub.topics[t]? = some topic → ∀ peer channel,
          (topic.newConnection peer channel).capacity = config.queueCapacity.toNat) ∧
    (∀ capacity : UInt64, capacity ≠ 0 →
      { config with queueCapacity := capacity }.validate = .ok ()) ∧
    (∀ rename : String → String, Function.Injective rename →
      (config.rebased rename).validate = .ok ()) ∧
    ∀ route ∈ config.routes, route.IsMarked → ∀ host, ∃ error, config.bind host = .error error := by
  refine ⟨⟨one_le_queueCapacity accepted, (validate_eq_ok_iff.1 accepted).probeInterval, ?rooted⟩,
    meetsDemands_iff accepted, ?starts, ?values, fun capacity => validate_queueCapacity accepted,
    fun rename => validate_rebased accepted,
    fun route own marked host => exists_error_of_isMarked accepted own marked host⟩
  case rooted =>
    exact fun route _ => route.head?_of_mem_paths
  case starts =>
    intro most demands host available
    exact bind_of_plain accepted ((meetsDemands_iff accepted most).1 demands).2 available
  case values =>
    intro router host started begins
    refine ⟨Relay.monitors_of_startWith begins, fun events t topic here peer channel => ?_⟩
    exact Relay.capacity_newConnection (Relay.begun_of_startWith begins).2 accepted events here peer
      channel

/-- The standard layout meets all demands where a queue can have room for `2 ^ 61 - 1` payloads. A
host that has its addresses starts it, with three monitors whose rounds are two seconds apart, and
every connection ever attached has room for 256 payloads. -/
theorem startup_demands_of_standard :
    standard.validate = .ok () ∧ standard.MeetsDemands (2 ^ 61 - 1) ∧
      standard.bind .unlinked = .ok standard.listeners ∧
      ∃ started, Relay.startWith search standard .unlinked = .ok started ∧
        started.hub.monitors.map Monitor.period = List.replicate 3 (Span.ofMillis 2000) ∧
        ∀ (events : List Relay.Event) (t : Nat) (topic : Topic),
          (started.run events).hub.topics[t]? = some topic → ∀ peer channel,
            (topic.newConnection peer channel).capacity = 256 := by
  have accepted : standard.validate = .ok () := by decide +kernel
  have outcome :
      (Relay.startWith search standard .unlinked).toOption.any (fun _ => true) = true := by
    decide +kernel
  obtain ⟨_, demands, starts, values, _⟩ := startup_demands accepted
  obtain ⟨started, begins, _⟩ := Relay.exists_started outcome
  obtain ⟨monitors, capacity⟩ := values search .unlinked started begins
  have meets : standard.MeetsDemands (2 ^ 61 - 1) := (demands _).2 (by decide +kernel)
  have available (address : SocketAddress) :
      standard.bind .unlinked ≠ .error (.unavailable address) := by
    rw [(Relay.begun_of_startWith begins).1]
    exact nofun
  refine ⟨accepted, meets, starts _ meets .unlinked available, started, begins, ?_, capacity⟩
  rw [monitors]
  rfl

/-- One topic with one route, in whose base a segment starts with a star. -/
def starRoute : RelayConfig :=
  { standard with
    topics := [⟨"one", .ofIp .localhost 0, .ofList ["a"], [.new (.ofIp .localhost 0) "a/*b"]⟩] }

/-- The configuration is accepted and does not meet the demands, however much room a queue can have.
It is not started where all its addresses are at hand. -/
theorem accepted_without_demands :
    starRoute.validate = .ok () ∧ (∀ most, ¬ starRoute.MeetsDemands most) ∧
      starRoute.bind .unlinked = .error (.unservable (.ofIp .localhost 0)) := by
  have accepted : starRoute.validate = .ok () := by decide +kernel
  refine ⟨accepted, fun most demands => ?_, by decide +kernel⟩
  exact absurd ((meetsDemands_iff accepted most).1 demands).2 (by decide +kernel)

end RelayConfig

end LiveRelay
