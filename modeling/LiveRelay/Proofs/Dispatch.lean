/-
Module: LiveRelay.Proofs.Dispatch
Purpose: A push request is handled by the route with the longest base among those of its listener
  that its path fits, and feeds the topic that configured the route, on the channel that the path
  names there. A path that fits no route changes nothing.
Main exports: RelayConfig.Handles, IngestGroup.ReliesOn, RelayConfig.bind_of_plain,
  Relay.open_by_longest_base
-/
import LiveRelay.Proofs.Ingest.Groups
import LiveRelay.Proofs.Ingest.Servable
import LiveRelay.Proofs.Relay.Grows
import Mathlib.Data.Finset.Max

namespace LiveRelay

open Text Net

namespace RelayConfig

variable {config : RelayConfig} {group : IngestGroup} {placed other : PlacedRoute} {host : Host}

/-! ### Listeners of plain routes -/

/-- One route of a listener belongs to one topic. -/
theorem placed_unique (accepted : config.validate = .ok ()) (member : group ∈ config.ingestGroups)
    (first : placed ∈ group.routes) (second : other ∈ group.routes)
    (same : other.route.base = placed.route.base) : other = placed := by
  have distinct := nodup_bases_of_group accepted member
  rw [List.map_map] at distinct
  exact List.inj_on_of_nodup_map distinct second first same

theorem canServe_of_mem_ingestGroups (accepted : config.validate = .ok ())
    (plain : ∀ route ∈ config.routes, route.IsPlain) (member : group ∈ config.ingestGroups) :
    canServe (group.routes.map PlacedRoute.route) = true := by
  refine canServe_of_plain (fun route listed => ?_) (nodup_bases_of_group accepted member)
  rw [map_route_of_group member] at listed
  exact plain route (List.mem_of_mem_filter listed)

/-- A configuration with plain bases that is accepted can be served, unless the host refuses an
address. -/
theorem bind_of_plain (accepted : config.validate = .ok ())
    (plain : ∀ route ∈ config.routes, route.IsPlain)
    (available : ∀ address, config.bind host ≠ .error (.unavailable address)) :
    config.bind host = .ok config.listeners := by
  have servable : ∀ listener ∈ config.listeners, canServe listener.routes = true := by
    intro listener member
    rcases List.mem_append.1 member with subscribe | ingest
    · obtain ⟨_, _, rfl⟩ := List.mem_map.1 subscribe
      rfl
    · obtain ⟨group, grouped, rfl⟩ := List.mem_map.1 ingest
      exact canServe_of_mem_ingestGroups accepted plain grouped
  have opens (taken : List SocketAddress) (listeners : List Listener)
      (fine : ∀ listener ∈ listeners, canServe listener.routes = true) :
      openListeners host taken listeners = .ok () ∨
        ∃ address, openListeners host taken listeners = .error (.unavailable address) := by
    induction listeners generalizing taken with
    | nil => exact .inl rfl
    | cons listener others ih =>
        obtain ⟨first, rest⟩ := List.forall_mem_cons.1 fine
        rw [openListeners, first]
        split
        · exact .inr ⟨_, rfl⟩
        · exact ih _ rest
  rw [bind, accepted] at available ⊢
  rcases opens [] config.listeners servable with opened | ⟨address, refused⟩
  · rw [opened]
    rfl
  · rw [refused] at available
    exact absurd rfl (available address)

/-! ### The route that handles a path -/

/-- Of the routes at an address, one of topic `t` has the longest base among those that a path fits,
and the path names a channel there. -/
structure Handles (config : RelayConfig) (address : SocketAddress) (path : List Char) (t : Nat)
    (route : IngestRoute) (channel : List Char) : Prop where
  configured : ∃ topic, config.topics[t]? = some topic ∧ route ∈ topic.ingest
  here : route.address = address
  fits : route.Fits path channel
  longest : ∀ other ∈ config.routes, other.address = address →
    ∀ name, other.Fits path name → other.base.length ≤ route.base.length

/-- Where a path fits any route at an address, one handles it. -/
theorem exists_handles {address : SocketAddress} {path channel : List Char} {route : IngestRoute}
    (member : route ∈ config.routes) (here : route.address = address)
    (fits : route.Fits path channel) :
    ∃ t route channel, config.Handles address path t route channel := by
  classical
  let fitting := config.routes.filter fun other =>
    other.address = address ∧ ∃ name, other.Fits path name
  have mem_fitting (other : IngestRoute) : other ∈ fitting.toFinset ↔
      other ∈ config.routes ∧ other.address = address ∧ ∃ name, other.Fits path name := by
    simp [fitting]
  obtain ⟨best, listed, most⟩ := Finset.exists_max_image fitting.toFinset
    (fun other => other.base.length) ⟨route, (mem_fitting route).2 ⟨member, here, _, fits⟩⟩
  obtain ⟨present, there, name, fitted⟩ := (mem_fitting best).1 listed
  obtain ⟨topic, inTopics, own⟩ := List.mem_flatMap.1 present
  obtain ⟨t, place⟩ := List.getElem?_of_mem inTopics
  refine ⟨t, best, name, ⟨topic, place, own⟩, there, fitted, ?_⟩
  intro other among near named also
  exact most other ((mem_fitting other).2 ⟨among, near, named, also⟩)

end RelayConfig

namespace IngestGroup

/-- What is relied on of a router at a path: it finds the best of the patterns that match, and what
the path captures is text once it is decoded. -/
structure ReliesOn (group : IngestGroup) (router : Router PlacedRoute) (path : List Char) :
    Prop where
  follows : ∀ segments, segments? path = some segments →
    router.Follows (candidates group.served) segments
  decodes : ∀ capture placed, dispatch router group.served path = some (capture, placed) →
    ∀ text ∈ capture.texts, ∃ decoded, percentDecoded? text = some decoded

variable {config : RelayConfig} {group : IngestGroup} {router : Router PlacedRoute}
  {head : RequestHead} {t : Nat} {route : IngestRoute} {path channel : List Char}

/-- The search can be relied on at every path where no slash follows another and whatever is
captured is text. -/
theorem reliesOn_search (single : ∀ segments, segments? path = some segments →
      ∀ segment ∈ segments.dropLast, segment ≠ [])
    (decodes : ∀ capture placed, dispatch search group.served path = some (capture, placed) →
      ∀ text ∈ capture.texts, ∃ decoded, percentDecoded? text = some decoded) :
    group.ReliesOn search path where
  follows := fun segments cut => search_follows_candidates fun _ _ found =>
    search_nonempty (single segments cut) found
  decodes := decodes

/-- A request that pushes data is admitted to the topic that configured the route that handles its
path, on the channel that the path names, decoded. -/
theorem admit_of_handles (accepted : config.validate = .ok ())
    (member : group ∈ config.ingestGroups) (relies : group.ReliesOn router (pathOfTarget head.target))
    (pushes : isPushMethod head.method = true)
    (handles : config.Handles group.address (pathOfTarget head.target) t route channel) :
    ∃ name, percentDecoded? channel = some name ∧
      group.admit router head = .ok (⟨route, t⟩, name) := by
  obtain ⟨topic, here, own⟩ := handles.configured
  have placed : ⟨route, t⟩ ∈ group.routes :=
    (RelayConfig.mem_routes member).2 ⟨handles.here, topic, here, own⟩
  have longest : ∀ other ∈ group.served, ∀ name, other.1.Fits (pathOfTarget head.target) name →
      other.1.base.length ≤ route.base.length := by
    rintro ⟨other, one⟩ listed name fits
    obtain ⟨inGroup, rfl⟩ := mem_served.1 listed
    obtain ⟨address, configuring, there, among⟩ := (RelayConfig.mem_routes member).1 inGroup
    exact handles.longest one.route
      (List.mem_flatMap.2 ⟨configuring, List.mem_of_getElem? there, among⟩) address name fits
  obtain ⟨capture, found, winner, dispatched, listed, base, captured⟩ :=
    dispatch_of_longest relies.follows (mem_served.2 ⟨placed, rfl⟩) handles.fits longest
  obtain ⟨inGroup, rfl⟩ := mem_served.1 listed
  -- Two routes of one listener with one base would not have been accepted.
  obtain rfl := RelayConfig.placed_unique accepted member placed inGroup base
  have texts : capture.texts = channel :: capture.rest.toList := by
    rw [Capture.texts, captured]
    rfl
  have decodes := relies.decodes capture _ dispatched
  rw [texts] at decodes
  obtain ⟨⟨name, decoded⟩, rest⟩ := List.forall_mem_cons.1 decodes
  obtain ⟨others, decodedRest⟩ : ∃ others, capture.rest.toList.mapM percentDecoded? = some others := by
    cases after : capture.rest with
    | none => exact ⟨[], rfl⟩
    | some text =>
        obtain ⟨other, same⟩ := rest text (by simp [after])
        exact ⟨[other], by simp [same]⟩
  refine ⟨name, decoded, ?_⟩
  unfold IngestGroup.admit
  rw [dispatched]
  simp only [pushes, Bool.true_eq_false, if_false, texts, List.mapM_cons, decoded, decodedRest]
  rfl

/-- A path that fits no route is not found, whatever the method. -/
theorem admit_of_unfit (member : group ∈ config.ingestGroups)
    (relies : group.ReliesOn router (pathOfTarget head.target))
    (unfit : ∀ route ∈ config.routes, route.address = group.address →
      ∀ channel, ¬ route.Fits (pathOfTarget head.target) channel) :
    group.admit router head = .error .notFound := by
  have nothing : dispatch router group.served (pathOfTarget head.target) = none := by
    refine dispatch_of_unfit relies.follows ?_
    rintro ⟨route, placed⟩ listed channel
    obtain ⟨inGroup, rfl⟩ := mem_served.1 listed
    obtain ⟨address, topic, here, own⟩ := (RelayConfig.mem_routes member).1 inGroup
    exact unfit _ (List.mem_flatMap.2 ⟨topic, List.mem_of_getElem? here, own⟩) address channel
  unfold IngestGroup.admit
  rw [nothing]

end IngestGroup

namespace Relay

/-- A relay starts on every accepted configuration with plain bases, unless the host refuses an
address. From then on, at any time and on every listener for sources: a request that pushes data is
handled by the route with the longest base among those of the listener that its path fits, and it
feeds the topic that configured this route, on the channel that the path names there, decoded,
whatever follows in the path. Some route handles the path as soon as it fits any. A path that fits
none is not found, and the relay stays as it is. -/
theorem open_by_longest_base {router : Router PlacedRoute} {config : RelayConfig} {host : Host}
    (accepted : config.validate = .ok ()) (plain : ∀ route ∈ config.routes, route.IsPlain)
    (available : ∀ address, config.bind host ≠ .error (.unavailable address)) :
    ∃ started, startWith router config host = .ok started ∧
      ∀ (events : List Event) (l : Nat) (listener : IngestListener) (peer : SocketAddress)
        (head : RequestHead), (started.run events).listeners[l]? = some listener →
        (started.run events).isReachable = true →
        listener.group.ReliesOn router (pathOfTarget head.target) →
        (∀ t route channel,
          config.Handles listener.group.address (pathOfTarget head.target) t route channel →
          isPushMethod head.method = true →
          ∃ name p after, percentDecoded? channel = some name ∧
            (started.run events).open l peer head = (.started p, after) ∧
            ∀ later, ∃ request, (after.run later).requests[p]? = some request ∧
              request.topic = t ∧ request.session.channel = name) ∧
        ((∃ route ∈ config.routes, route.address = listener.group.address ∧
            ∃ channel, route.Fits (pathOfTarget head.target) channel) →
          ∃ t route channel,
            config.Handles listener.group.address (pathOfTarget head.target) t route channel) ∧
        ((∀ route ∈ config.routes, route.address = listener.group.address →
            ∀ channel, ¬ route.Fits (pathOfTarget head.target) channel) →
          (started.run events).open l peer head =
            (.turnedAway .notFound, started.run events)) := by
  have bound := RelayConfig.bind_of_plain accepted plain available
  obtain ⟨started, begins⟩ : ∃ started, startWith router config host = .ok started := by
    rw [startWith, bound]
    exact ⟨_, rfl⟩
  have begun := (begun_of_startWith begins).2
  refine ⟨started, begins, fun events l listener peer head listening reachable relies => ?_⟩
  have grows := Grows.run started events
  have routed : (started.run events).router = router := grows.router.trans begun.router
  have member : listener.group ∈ config.ingestGroups := by
    rw [← begun.groups, ← grows.groups]
    exact List.mem_map_of_mem (List.mem_of_getElem? listening)
  refine ⟨fun t route channel handles pushes => ?_, ?_, fun unfit => ?_⟩
  · obtain ⟨name, decoded, admitted⟩ :=
      IngestGroup.admit_of_handles accepted member relies pushes handles
    obtain ⟨topic, here⟩ : ∃ topic, (started.run events).hub.topics[t]? = some topic := by
      obtain ⟨configured, place, _⟩ := handles.configured
      have length := congrArg List.length grows.topics
      rw [List.length_map, List.length_map, begun.topics, List.length_map] at length
      have within := (List.getElem?_eq_some_iff.1 place).1
      exact ⟨_, List.getElem?_eq_getElem (length ▸ within)⟩
    rw [← routed] at admitted
    obtain ⟨after, request, opened, present, feed⟩ :=
      open_of_admit listening reachable admitted here
    refine ⟨name, _, after, decoded, opened, fun later => ?_⟩
    obtain ⟨still, kept, same⟩ := (Grows.run after later).feed present
    rw [feed] at same
    exact ⟨still, kept, congrArg Feed.topic same, congrArg Feed.channel same⟩
  · rintro ⟨route, among, here, channel, fits⟩
    exact RelayConfig.exists_handles among here fits
  · have refused := IngestGroup.admit_of_unfit member relies unfit
    rw [← routed] at refused
    exact open_of_refusal listening reachable refused

/-- The address of a listener. -/
def sharedAddress : SocketAddress := .ofIp (.v4 127 0 0 1) 7000

/-- Two topics that share a listener, one of them behind a base. -/
def sharedListener : RelayConfig :=
  { RelayConfig.standard with
    topics := [⟨"one", .ofIp (.v4 127 0 0 1) 0, .ofList ["a"], [.new sharedAddress ""]⟩,
      ⟨"two", .ofIp (.v4 127 0 0 1) 0, .ofList ["1"], [.new sharedAddress "a"]⟩] }

/-- A path that also fits the shorter base feeds the topic behind the longer one, on a channel that is
written with an escape. A path that names no channel is not found. -/
theorem open_by_longest_base_of_sharedListener :
    sharedListener.validate = .ok () ∧ ∃ started,
      startWith search sharedListener .linked = .ok started ∧
      (∃ p after request,
        started.open 0 default ⟨"POST", "/a/%31/x?y", .chunked⟩ = (.started p, after) ∧
          after.requests[p]? = some request ∧ request.topic = 1 ∧ request.session.channel = "1") ∧
      started.open 0 default ⟨"PUT", "/", .chunked⟩ = (.turnedAway .notFound, started) := by
  have accepted : sharedListener.validate = .ok () := by decide +kernel
  have bound : sharedListener.bind .linked = .ok sharedListener.listeners := by decide +kernel
  obtain ⟨started, begins, rule⟩ := @open_by_longest_base search sharedListener .linked accepted
    (by decide +kernel) (fun address refused => by cases bound.symm.trans refused)
  have begun := (begun_of_startWith begins).2
  have reachable : started.isReachable = true := by
    simp [isReachable, begun.listening, begun.host, Host.linked, Host.alone]
  obtain ⟨listener, listening, group⟩ : ∃ listener, started.listeners[0]? = some listener ∧
      listener.group =
        ⟨sharedAddress, [⟨.new sharedAddress "", 0⟩, ⟨.new sharedAddress "a", 1⟩]⟩ := by
    have first : (started.listeners.map IngestListener.group)[0]? = some
        ⟨sharedAddress, [⟨.new sharedAddress "", 0⟩, ⟨.new sharedAddress "a", 1⟩]⟩ := by
      rw [begun.groups]
      decide +kernel
    rw [List.getElem?_map] at first
    exact Option.map_eq_some_iff.1 first
  refine ⟨accepted, started, begins, ?_, ?_⟩
  · have served : dispatch search listener.group.served (pathOfTarget "/a/%31/x?y") =
        some (⟨some "%31".toList, some "x".toList⟩, ⟨.new sharedAddress "a", 1⟩) := by
      rw [group]
      decide +kernel
    have cut : segments? (pathOfTarget "/a/%31/x?y") =
        some ["a".toList, "%31".toList, "x".toList] := by decide +kernel
    have relies : listener.group.ReliesOn search (pathOfTarget "/a/%31/x?y") := by
      apply IngestGroup.reliesOn_search
      · rw [cut]
        rintro segments ⟨⟩
        decide
      · rw [served]
        rintro capture placed ⟨⟩
        have texts : (⟨some "%31".toList, some "x".toList⟩ : Capture).texts =
            ["%31".toList, "x".toList] := rfl
        rw [texts, List.forall_mem_cons, List.forall_mem_singleton]
        exact ⟨⟨"1", by decide +kernel⟩, ⟨"x", by decide +kernel⟩⟩
    have handles : sharedListener.Handles listener.group.address (pathOfTarget "/a/%31/x?y") 1
        (.new sharedAddress "a") "%31".toList := by
      rw [group]
      refine ⟨⟨_, rfl, by decide +kernel⟩, by decide +kernel, ?_, ?_⟩
      · refine IngestRoute.fits_iff.2 ⟨by decide, ["x".toList], ?_⟩
        rw [cut]
        decide +kernel
      · have all : ∀ other ∈ sharedListener.routes, other.base.length ≤
            (IngestRoute.new sharedAddress "a").base.length := by decide +kernel
        exact fun other among _ _ _ => all other among
    obtain ⟨name, p, after, decoded, opened, feeds⟩ :=
      (rule [] 0 listener default ⟨"POST", "/a/%31/x?y", .chunked⟩ listening reachable relies).1
        _ _ _ handles (by decide)
    obtain ⟨request, present, topic, channel⟩ := feeds []
    have one : percentDecoded? "%31".toList = some "1" := by decide +kernel
    obtain rfl := Option.some.inj (one.symm.trans decoded)
    exact ⟨p, after, request, opened, present, topic, channel⟩
  · have cut : segments? (pathOfTarget "/") = some [[]] := by decide +kernel
    have missed : dispatch search listener.group.served (pathOfTarget "/") = none := by
      rw [group]
      decide +kernel
    have relies : listener.group.ReliesOn search (pathOfTarget "/") := by
      apply IngestGroup.reliesOn_search
      · rw [cut]
        rintro segments ⟨⟩
        decide
      · rw [missed]
        rintro capture placed ⟨⟩
    refine (rule [] 0 listener default ⟨"PUT", "/", .chunked⟩ listening reachable relies).2.2 ?_
    intro route _ _ channel fits
    obtain ⟨named, more, whole⟩ := IngestRoute.fits_iff.1 fits
    rw [cut] at whole
    -- One segment that is empty is no base and a channel.
    cases base : route.segments with
    | nil =>
        rw [base] at whole
        cases whole
        exact named rfl
    | cons first others =>
        rw [base] at whole
        simp at whole

end Relay

end LiveRelay
