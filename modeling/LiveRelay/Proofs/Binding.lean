/-
Module: LiveRelay.Proofs.Binding
Purpose: What starting a configuration without conflicts comes down to: each route has one listener,
  no two listeners are in each other's way, and the first one that a host refuses, or whose routes
  cannot be served together, is the only thing that stops it.
Main exports: Listener.refusal?, Host.Opens, Host.FirstRefused, openListeners_eq_error_iff,
  RelayConfig.map_address_ingestGroups, RelayConfig.bind_outcome, RelayConfig.colonRoute
-/
import LiveRelay.Proofs.Config.Accepted
import LiveRelay.Proofs.Ingest.Groups
import Mathlib.Data.Finset.Card

namespace LiveRelay

open Net

/-! ### Opening one listener after another -/

/-- Why a listener does not open beside those at some addresses, if it does not. -/
def Listener.refusal? (host : Host) (taken : List SocketAddress) (listener : Listener) :
    Option BindError :=
  if host.permits taken listener.address = false then some (.unavailable listener.address)
  else if canServe listener.routes = false then some (.unservable listener.address)
  else none

/-- Listeners that all open beside those at some addresses: each may stand where it wants next to
those before it, and can serve its routes. -/
structure Net.Host.Opens (host : Host) (taken : List SocketAddress) (listeners : List Listener) :
    Prop where
  admitted : ∀ (n : Nat) (listener : Listener), listeners[n]? = some listener →
    host.permits (taken ++ (listeners.take n).map Listener.address) listener.address = true
  servable : ∀ listener ∈ listeners, canServe listener.routes = true

/-- The first of a list of addresses that a host refuses, each asked for beside those before it. -/
def Net.Host.FirstRefused (host : Host) (addresses : List SocketAddress)
    (address : SocketAddress) : Prop :=
  ∃ n, addresses[n]? = some address ∧ host.permits (addresses.take n) address = false ∧
    ∀ m < n, ∀ earlier ∈ addresses[m]?, host.permits (addresses.take m) earlier = true

section Opening

variable {host : Host} {taken : List SocketAddress} {listener : Listener}
  {listeners others : List Listener} {error : BindError}

theorem Listener.refusal?_eq_none_iff : listener.refusal? host taken = none ↔
    host.permits taken listener.address = true ∧ canServe listener.routes = true := by
  rw [refusal?]
  cases host.permits taken listener.address <;> cases canServe listener.routes <;> simp

theorem Listener.refusal?_eq_some_iff : listener.refusal? host taken = some error ↔
    (host.permits taken listener.address = false ∧ error = .unavailable listener.address) ∨
    (host.permits taken listener.address = true ∧ canServe listener.routes = false ∧
      error = .unservable listener.address) := by
  rw [refusal?]
  cases host.permits taken listener.address <;> cases canServe listener.routes <;>
    simp [eq_comm]

theorem openListeners_cons (host : Host) (taken : List SocketAddress) (listener : Listener)
    (others : List Listener) :
    openListeners host taken (listener :: others) =
      match listener.refusal? host taken with
      | some error => .error error
      | none => openListeners host (taken ++ [listener.address]) others := by
  rw [openListeners, Listener.refusal?]
  split
  · rfl
  · split <;> rfl

namespace Net.Host.Opens

theorem nil : host.Opens taken [] where
  admitted := fun _ _ none => by simp at none
  servable := fun _ member => absurd member List.not_mem_nil

theorem cons_iff : host.Opens taken (listener :: others) ↔
    listener.refusal? host taken = none ∧ host.Opens (taken ++ [listener.address]) others := by
  rw [Listener.refusal?_eq_none_iff]
  constructor
  · rintro ⟨admitted, servable⟩
    obtain ⟨serves, rest⟩ := List.forall_mem_cons.1 servable
    refine ⟨⟨?_, serves⟩, ⟨?_, rest⟩⟩
    · simpa using admitted 0 listener rfl
    · intro n next there
      simpa using admitted (n + 1) next there
  · rintro ⟨⟨permitted, serves⟩, admitted, servable⟩
    refine ⟨?_, List.forall_mem_cons.2 ⟨serves, servable⟩⟩
    intro n next there
    cases n with
    | zero =>
        cases there
        simpa using permitted
    | succ n => simpa using admitted n next there

end Net.Host.Opens

/-- Listeners are opened exactly if all of them open one after another. -/
theorem openListeners_eq_ok_iff :
    openListeners host taken listeners = .ok () ↔ host.Opens taken listeners := by
  induction listeners generalizing taken with
  | nil => exact ⟨fun _ => .nil, fun _ => rfl⟩
  | cons first others ih =>
      rw [openListeners_cons, Host.Opens.cons_iff]
      cases first.refusal? host taken with
      | some error => simp
      | none => simpa using ih

/-- Opening listeners fails exactly with the first one that does not open. -/
theorem openListeners_eq_error_iff :
    openListeners host taken listeners = .error error ↔
      ∃ (n : Nat) (listener : Listener), listeners[n]? = some listener ∧
        host.Opens taken (listeners.take n) ∧ listener.refusal? host
          (taken ++ (listeners.take n).map Listener.address) = some error := by
  induction listeners generalizing taken with
  | nil => simp [openListeners]
  | cons first others ih =>
      rw [openListeners_cons]
      cases refusal : first.refusal? host taken with
      | some found =>
          constructor
          · rintro ⟨⟩
            exact ⟨0, first, rfl, .nil, by simpa using refusal⟩
          · rintro ⟨n, listener, there, opens, refused⟩
            cases n with
            | zero =>
                cases there
                rw [List.take_zero, List.map_nil, List.append_nil, refusal] at refused
                rw [Option.some.inj refused]
            | succ n =>
                -- The first listener does not open.
                rw [List.take_succ_cons] at opens
                rw [(Host.Opens.cons_iff.1 opens).1] at refusal
                cases refusal
      | none =>
          apply ih.trans
          constructor
          · rintro ⟨n, listener, there, opens, refused⟩
            exact ⟨n + 1, listener, there, Host.Opens.cons_iff.2 ⟨refusal, opens⟩,
              by simpa using refused⟩
          · rintro ⟨n, listener, there, opens, refused⟩
            cases n with
            | zero =>
                cases there
                rw [List.take_zero, List.map_nil, List.append_nil, refusal] at refused
                cases refused
            | succ n =>
                rw [List.take_succ_cons] at opens
                exact ⟨n, listener, there, (Host.Opens.cons_iff.1 opens).2, by simpa using refused⟩

end Opening

/-! ### The listeners of a configuration -/

/-- An element that is there already appears no second time. -/
theorem eraseDups_concat {α : Type} [DecidableEq α] (elements : List α) (x : α) :
    (elements ++ [x]).eraseDups =
      if x ∈ elements then elements.eraseDups else elements.eraseDups ++ [x] := by
  rw [List.eraseDups_append, List.removeAll]
  split
  · next member => simp [member]
  · next absent => simp [absent, List.eraseDups_cons]

namespace RelayConfig

variable {config : RelayConfig} {topic : TopicConfig} {t : Nat} {host : Host} {error : BindError}

/-- The addresses of the groups come in the order in which routes first ask for them. -/
theorem map_address_ingestGroups (config : RelayConfig) :
    config.ingestGroups.map IngestGroup.address =
      (config.routes.map IngestRoute.address).eraseDups := by
  have each (placed : List PlacedRoute) :
      (placed.foldl (fun groups one => IngestGroup.addTo one groups) []).map IngestGroup.address =
        (placed.map PlacedRoute.address).eraseDups := by
    induction placed using List.reverseRecOn with
    | nil => rfl
    | append_singleton earlier last ih =>
        rw [List.foldl_concat, IngestGroup.map_address_addTo, ih, List.map_append,
          List.map_singleton, eraseDups_concat]
        simp only [List.mem_eraseDups]
  rw [← map_route_placedRoutes, List.map_map]
  exact each config.placedRoutes

theorem map_address_listeners (config : RelayConfig) :
    config.listeners.map Listener.address =
      config.topics.map TopicConfig.subscribe ++ config.ingestGroups.map IngestGroup.address := by
  have subscribe : config.topics.zipIdx.map (fun entry => entry.1.subscribe) =
      config.topics.map TopicConfig.subscribe := by
    conv_rhs => rw [← List.zipIdx_map_fst 0 config.topics, List.map_map]
    rfl
  rw [listeners, List.map_append, List.map_map, List.map_map, ← subscribe]
  rfl

/-- There is one listener for each topic and one for each address that routes ask for. -/
theorem length_listeners (config : RelayConfig) :
    config.listeners.length =
      config.topics.length + (config.routes.map IngestRoute.address).toFinset.card := by
  have distinct : (config.routes.map IngestRoute.address).toFinset.card =
      (config.ingestGroups.map IngestGroup.address).length := by
    rw [← List.toFinset_card_of_nodup config.grouping.distinct, map_address_ingestGroups]
    congr 1
    ext address
    simp only [List.mem_toFinset, List.mem_eraseDups]
  rw [distinct, ← List.length_map Listener.address, map_address_listeners, List.length_append,
    List.length_map]

/-- Where nothing is in conflict, each route of each topic is in one group, once, and with its own
topic. -/
theorem exists_only_group (accepted : config.validate = .ok ())
    (here : config.topics[t]? = some topic) {route : IngestRoute} (own : route ∈ topic.ingest) :
    ∃ group ∈ config.ingestGroups, group.address = route.address ∧
      group.routes.count ⟨route, t⟩ = 1 ∧
      ∀ other ∈ config.ingestGroups, ∀ place, ⟨route, place⟩ ∈ other.routes →
        other = group ∧ place = t := by
  have once : (config.placedRoutes.map PlacedRoute.route).Nodup := by
    rw [map_route_placedRoutes]
    exact (validate_eq_ok_iff.1 accepted).separate.routes
  obtain ⟨group, member, address, placed⟩ := exists_group here own
  refine ⟨group, member, address, ?_, ?_⟩
  · refine List.count_eq_one_of_mem ?_ placed
    rw [config.grouping.routes group member]
    exact (once.of_map _).filter _
  · intro other also place elsewhere
    obtain ⟨same, _, there, _⟩ := (mem_routes also).1 elsewhere
    constructor
    · exact List.inj_on_of_nodup_map config.grouping.distinct also member (same.symm.trans address.symm)
    · have first : ⟨route, t⟩ ∈ config.placedRoutes := mem_placedRoutes.2 ⟨topic, here, own⟩
      have second : ⟨route, place⟩ ∈ config.placedRoutes :=
        mem_placedRoutes.2 ((mem_routes also).1 elsewhere).2
      exact congrArg PlacedRoute.topic (List.inj_on_of_nodup_map once second first rfl)

/-- Where nothing is in conflict, listeners share an address only if each of them gets a port of its
own. -/
theorem pairwise_address_listeners (accepted : config.validate = .ok ()) :
    (config.listeners.map Listener.address).Pairwise fun one other =>
      one = other → one.port = 0 := by
  obtain ⟨_, _, _, _, separate, apart⟩ := validate_eq_ok_iff.1 accepted
  rw [map_address_listeners, List.pairwise_append]
  refine ⟨?_, ?_, ?_⟩
  · refine (List.pairwise_filter.1 separate.subscribe).imp ?_
    rintro one other different rfl
    by_contra fixed
    exact different (decide_eq_true fixed) (decide_eq_true fixed) rfl
  · exact config.grouping.distinct.imp fun different same => absurd same different
  · rintro address subscribe _ ingest rfl
    by_contra fixed
    rw [map_address_ingestGroups, List.mem_eraseDups] at ingest
    obtain ⟨route, own, rfl⟩ := List.mem_map.1 ingest
    exact apart route own (List.mem_filter.2 ⟨subscribe, decide_eq_true fixed⟩)

theorem bind_eq_ok_iff (accepted : config.validate = .ok ()) :
    config.bind host = .ok config.listeners ↔ host.Opens [] config.listeners := by
  rw [← openListeners_eq_ok_iff, bind, accepted]
  cases openListeners host [] config.listeners <;> simp [Except.map]

theorem bind_eq_error_iff (accepted : config.validate = .ok ()) :
    config.bind host = .error error ↔
      ∃ (n : Nat) (listener : Listener), config.listeners[n]? = some listener ∧
        host.Opens [] (config.listeners.take n) ∧
        listener.refusal? host ((config.listeners.take n).map Listener.address) = some error := by
  rw [bind, accepted]
  refine Iff.trans ?_ openListeners_eq_error_iff
  cases openListeners host [] config.listeners <;> simp [Except.map]

/-- Where every group can be served, only the addresses decide. -/
theorem bind_eq_error_iff_of_servable (accepted : config.validate = .ok ())
    (servable : ∀ group ∈ config.ingestGroups,
      canServe (group.routes.map PlacedRoute.route) = true) :
    config.bind host = .error error ↔ ∃ address,
      host.FirstRefused (config.listeners.map Listener.address) address ∧
        error = .unavailable address := by
  have serves : ∀ listener ∈ config.listeners, canServe listener.routes = true := by
    intro listener member
    rcases List.mem_append.1 member with subscribe | ingest
    · obtain ⟨_, _, rfl⟩ := List.mem_map.1 subscribe
      rfl
    · obtain ⟨group, grouped, rfl⟩ := List.mem_map.1 ingest
      exact servable group grouped
  rw [bind_eq_error_iff accepted]
  constructor
  · rintro ⟨n, listener, there, opens, refused⟩
    rcases Listener.refusal?_eq_some_iff.1 refused with ⟨denied, rfl⟩ | ⟨_, unservable, _⟩
    · refine ⟨_, ⟨n, by rw [List.getElem?_map, there]; rfl, by rwa [← List.map_take], ?_⟩, rfl⟩
      intro m less earlier found
      rw [List.getElem?_map] at found
      obtain ⟨before, among, rfl⟩ := Option.map_eq_some_iff.1 found
      have admitted := opens.admitted m before (by rwa [List.getElem?_take_of_lt less])
      rwa [List.nil_append, List.take_take, Nat.min_eq_left less.le, List.map_take] at admitted
    · rw [serves listener (List.mem_of_getElem? there)] at unservable
      cases unservable
  · rintro ⟨_, ⟨n, found, refused, admitted⟩, rfl⟩
    rw [List.getElem?_map] at found
    obtain ⟨listener, there, rfl⟩ := Option.map_eq_some_iff.1 found
    refine ⟨n, listener, there, ⟨?_, ?_⟩,
      Listener.refusal?_eq_some_iff.2 (.inl ⟨by rwa [List.map_take], rfl⟩)⟩
    · intro m earlier among
      rw [List.getElem?_take] at among
      split at among
      · next less =>
        rw [List.nil_append, List.take_take, Nat.min_eq_left less.le, List.map_take]
        exact admitted m less earlier.address (by rw [List.getElem?_map, among]; rfl)
      · cases among
    · intro earlier member
      exact serves earlier (List.mem_of_mem_take member)

/-- A configuration that is accepted does not get in its own way. Each route of each topic is in one
group, that of its own address, once and with its own topic. The groups have different addresses, in
the order of their first appearance, and hold their routes in reading order. The listeners are those
of the topics and then those of the groups, and two of them at one address have port zero. Starting
them opens as many as there are topics and different addresses of routes, or fails with the first
one that does not open; where the routes of each group can be served together, this is the first
address that the host refuses. -/
theorem bind_outcome (accepted : config.validate = .ok ()) :
    (∀ t topic, config.topics[t]? = some topic → ∀ route ∈ topic.ingest,
      ∃ group ∈ config.ingestGroups, group.address = route.address ∧
        group.routes.count ⟨route, t⟩ = 1 ∧
        ∀ other ∈ config.ingestGroups, ∀ place, ⟨route, place⟩ ∈ other.routes →
          other = group ∧ place = t) ∧
    (config.ingestGroups.map IngestGroup.address).Nodup ∧
    config.ingestGroups.map IngestGroup.address =
      (config.routes.map IngestRoute.address).eraseDups ∧
    (∀ group ∈ config.ingestGroups, group.routes =
      config.placedRoutes.filter fun placed => placed.route.address = group.address) ∧
    config.listeners.map Listener.address =
      config.topics.map TopicConfig.subscribe ++ config.ingestGroups.map IngestGroup.address ∧
    ((config.listeners.map Listener.address).Pairwise fun one other =>
      one = other → one.port = 0) ∧
    config.listeners.length =
      config.topics.length + (config.routes.map IngestRoute.address).toFinset.card ∧
    (∀ host, (config.bind host = .ok config.listeners ∧ host.Opens [] config.listeners) ∨
      ∃ (n : Nat) (listener : Listener) (error : BindError), config.bind host = .error error ∧
        config.listeners[n]? = some listener ∧ host.Opens [] (config.listeners.take n) ∧
        listener.refusal? host ((config.listeners.take n).map Listener.address) = some error) ∧
    ((∀ group ∈ config.ingestGroups, canServe (group.routes.map PlacedRoute.route) = true) →
      ∀ host error, config.bind host = .error error ↔ ∃ address,
        host.FirstRefused (config.listeners.map Listener.address) address ∧
          error = .unavailable address) := by
  refine ⟨fun _ _ here _ own => exists_only_group accepted here own, config.grouping.distinct,
    config.map_address_ingestGroups, config.grouping.routes, config.map_address_listeners,
    pairwise_address_listeners accepted, config.length_listeners, ?_,
    fun servable _ _ => bind_eq_error_iff_of_servable accepted servable⟩
  intro host
  cases outcome : config.bind host with
  | ok opened =>
      have all : opened = config.listeners := by
        rw [bind, accepted] at outcome
        cases opening : openListeners host [] config.listeners with
        | error error => simp [opening, Except.map] at outcome
        | ok _ => simpa [opening, Except.map, eq_comm] using outcome
      subst all
      exact .inl ⟨rfl, (bind_eq_ok_iff accepted).1 outcome⟩
  | error error =>
      obtain ⟨n, listener, there, opens, refused⟩ := (bind_eq_error_iff accepted).1 outcome
      exact .inr ⟨n, listener, error, rfl, there, opens, refused⟩

/-- Two topics that share the listener of one address and have another of their own each; every
listener of the first address of the machine gets a port of its own. -/
def sharedListeners : RelayConfig :=
  { standard with
    topics := [⟨"one", .ofIp .localhost 0, .ofList ["a"],
        [.new (.ofIp .localhost 0) "a", .new (.ofIp .localhost 2000) "b"]⟩,
      ⟨"two", .ofIp .localhost 0, .ofList ["a"],
        [.new (.ofIp (.v4 192 0 2 1) 0) "a", .new (.ofIp .localhost 2000) "c"]⟩] }

/-- Two topics with four routes at three addresses have five listeners, and starting them fails with
the address that does not belong to the machine. -/
theorem bind_outcome_of_sharedListeners :
    sharedListeners.validate = .ok () ∧ sharedListeners.listeners.length = 5 ∧
      sharedListeners.ingestGroups.map IngestGroup.address =
        [.ofIp .localhost 0, .ofIp .localhost 2000, .ofIp (.v4 192 0 2 1) 0] ∧
      sharedListeners.bind .linked = .error (.unavailable (.ofIp (.v4 192 0 2 1) 0)) := by
  have accepted : sharedListeners.validate = .ok () := by decide +kernel
  obtain ⟨_, _, addresses, _, listed, _, length, _, failing⟩ := bind_outcome accepted
  have first : (sharedListeners.routes.map IngestRoute.address).eraseDups =
      [.ofIp .localhost 0, .ofIp .localhost 2000, .ofIp (.v4 192 0 2 1) 0] := by decide +kernel
  have different : (sharedListeners.routes.map IngestRoute.address).toFinset.card = 3 := by
    decide +kernel
  have servable : ∀ group ∈ sharedListeners.ingestGroups,
      canServe (group.routes.map PlacedRoute.route) = true := by decide +kernel
  have refused : Host.linked.FirstRefused (sharedListeners.listeners.map Listener.address)
      (.ofIp (.v4 192 0 2 1) 0) := ⟨4, by decide +kernel⟩
  exact ⟨accepted, length.trans (by rw [different]; rfl), addresses.trans first,
    (failing servable .linked _).2 ⟨_, refused, rfl⟩⟩

/-- One topic with one route, whose base starts with a colon. -/
def colonRoute : RelayConfig :=
  { standard with
    topics := [⟨"one", .ofIp .localhost 0, .ofList ["a"], [.new (.ofIp .localhost 0) ":x"]⟩] }

/-- The configuration is accepted and the machine refuses no address, but its routes cannot be
served. -/
theorem colonRoute_bind :
    colonRoute.validate = .ok () ∧
      (∀ address, ¬ Host.unlinked.FirstRefused (colonRoute.listeners.map Listener.address) address) ∧
      colonRoute.bind .unlinked = .error (.unservable (.ofIp .localhost 0)) := by
  refine ⟨by decide +kernel, ?_, by decide +kernel⟩
  have permitted : ∀ n < 2, ∀ address ∈ (colonRoute.listeners.map Listener.address)[n]?,
      Host.unlinked.permits ((colonRoute.listeners.map Listener.address).take n) address = true := by
    decide +kernel
  rintro address ⟨n, there, refused, _⟩
  have within : n < 2 := (List.getElem?_eq_some_iff.1 there).1
  rw [permitted n within address there] at refused
  cases refused

end RelayConfig

end LiveRelay
