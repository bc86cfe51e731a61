/-
Module: LiveRelay.Proofs.Listeners
Purpose: In which order the addresses of the routes of a topic are told: listener by listener, which
  is not always the order in which the routes are configured.
Main exports: RelayConfig.servedAt, RelayConfig.ingestAddresses_eq,
  RelayConfig.ingestAddresses_order, RelayConfig.shuffledRoutes
-/
import LiveRelay.Proofs.Config.Accepted
import LiveRelay.Proofs.Ingest.Groups
import Mathlib.Data.List.Sort

namespace LiveRelay

open Net

namespace RelayConfig

variable {config : RelayConfig} {topic : TopicConfig} {t : Nat}

/-- Where the listeners for sources listen, in the order of their numbers. -/
def ingestListeners (config : RelayConfig) : List SocketAddress :=
  config.ingestGroups.map IngestGroup.address

/-- The listener that serves a route, by number and address. -/
def servedAt (config : RelayConfig) (route : IngestRoute) : Nat × SocketAddress :=
  (config.ingestListeners.idxOf route.address, route.address)

theorem idxOf_ingestListeners {group : IngestGroup} {number : Nat}
    (numbered : config.ingestGroups[number]? = some group) :
    config.ingestListeners.idxOf group.address = number := by
  obtain ⟨within, rfl⟩ := List.getElem?_eq_some_iff.1 numbered
  have bound : number < config.ingestListeners.length := by rwa [ingestListeners, List.length_map]
  have listed : config.ingestListeners[number] = config.ingestGroups[number].address := by
    simp only [ingestListeners, List.getElem_map]
  rw [← listed]
  exact config.grouping.distinct.idxOf_getElem number bound

/-- The listener that serves a route of a topic is there under its number, and it hands what arrives
at the route to the topic. -/
theorem listeners_servedAt (here : config.topics[t]? = some topic) {route : IngestRoute}
    (own : route ∈ topic.ingest) :
    ∃ group, config.listeners[config.topics.length + (config.servedAt route).1]? =
        some (.ingest group) ∧
      group.address = (config.servedAt route).2 ∧ ⟨route, t⟩ ∈ group.routes := by
  obtain ⟨group, member, same, placed⟩ := exists_group here own
  obtain ⟨number, numbered⟩ := List.getElem?_of_mem member
  refine ⟨group, ?_, same, placed⟩
  rw [servedAt, ← same, idxOf_ingestListeners numbered, listeners,
    List.getElem?_append_right (by simp)]
  simp [numbered]

/-- The addresses of a topic, told listener by listener. -/
theorem ingestAddresses_eq (names : (config.topics.map TopicConfig.name).Nodup)
    (here : config.topics[t]? = some topic) :
    config.ingestAddresses topic.name = config.ingestListeners.flatMap fun address =>
      (topic.ingest.filter fun route => route.address = address).map config.servedAt := by
  -- A route belongs to the topic exactly if its topic has the name.
  have named : ∀ placed ∈ config.placedRoutes,
      decide (config.topics[placed.topic]?.map (·.name) = some topic.name) =
        decide (placed.topic = t) := by
    intro placed member
    obtain ⟨other, there, _⟩ := mem_placedRoutes.1 member
    have within : placed.topic < (config.topics.map TopicConfig.name).length := by
      rw [List.length_map]
      exact (List.getElem?_eq_some_iff.1 there).1
    have same : config.topics[placed.topic]?.map (·.name) = some topic.name ↔ placed.topic = t := by
      rw [← List.getElem?_inj within names, List.getElem?_map, List.getElem?_map, here]
      rfl
    simp only [same]
  have told (group : IngestGroup) (number : Nat)
      (entry : (group, number) ∈ config.ingestGroups.zipIdx) :
      ((group.routes.filter fun placed =>
        config.topics[placed.topic]?.map (·.name) = some topic.name).map
          fun _ => (number, group.address)) =
        (topic.ingest.filter fun route => route.address = group.address).map config.servedAt := by
    have numbered := List.mem_zipIdx_iff_getElem?.1 entry
    have own : (config.placedRoutes.filter fun placed => placed.address = group.address).filter
          (fun placed => config.topics[placed.topic]?.map (·.name) = some topic.name) =
        (config.placedRoutes.filter fun placed => placed.topic = t).filter
          fun placed => placed.address = group.address := by
      rw [List.filter_filter, List.filter_filter]
      apply List.filter_congr
      intro placed member
      rw [named placed member, Bool.and_comm]
    rw [config.grouping.routes group (List.mem_of_getElem? numbered), own,
      placedRoutes_of_topic here, List.filter_map, List.map_map]
    apply List.map_congr_left
    intro route member
    have same : route.address = group.address := of_decide_eq_true (List.mem_filter.1 member).2
    rw [servedAt, same, idxOf_ingestListeners numbered]
    rfl
  calc config.ingestAddresses topic.name
      = config.ingestGroups.zipIdx.flatMap fun entry =>
          (topic.ingest.filter fun route => route.address = entry.1.address).map config.servedAt :=
        List.flatMap_congr fun ⟨group, number⟩ entry => told group number entry
    _ = (config.ingestGroups.zipIdx.map Prod.fst).flatMap fun group =>
          (topic.ingest.filter fun route => route.address = group.address).map config.servedAt :=
        (List.flatMap_map Prod.fst (fun group : IngestGroup => (topic.ingest.filter fun route =>
          route.address = group.address).map config.servedAt) _).symm
    _ = _ := by rw [List.zipIdx_map_fst, ingestListeners, List.flatMap_map]

theorem address_mem_ingestListeners (here : config.topics[t]? = some topic) :
    ∀ route ∈ topic.ingest, route.address ∈ config.ingestListeners := by
  intro route own
  obtain ⟨group, member, same, _⟩ := exists_group here own
  exact List.mem_map.2 ⟨group, member, same⟩

/-- The addresses of the routes of a topic are told listener by listener: one for each route, each
of the listener that serves the route, sorted by the numbers of the listeners. So they are told in
the order in which the routes are configured exactly if that order is sorted already. -/
theorem ingestAddresses_order (accepted : config.validate = .ok ())
    (here : config.topics[t]? = some topic) :
    (config.ingestAddresses topic.name).length = topic.ingest.length ∧
    (config.ingestAddresses topic.name).Perm (topic.ingest.map config.servedAt) ∧
    (config.ingestAddresses topic.name).Pairwise (·.1 ≤ ·.1) ∧
    (config.ingestAddresses topic.name = topic.ingest.map config.servedAt ↔
      (topic.ingest.map config.servedAt).Pairwise (·.1 ≤ ·.1)) ∧
    ∀ route ∈ topic.ingest, ∃ group,
      config.listeners[config.topics.length + (config.servedAt route).1]? = some (.ingest group) ∧
      group.address = (config.servedAt route).2 ∧ ⟨route, t⟩ ∈ group.routes := by
  have names := (validate_eq_ok_iff.1 accepted).separate.names
  have told := ingestAddresses_eq names here
  have distinct : config.ingestListeners.Nodup := config.grouping.distinct
  have same : (config.ingestAddresses topic.name).Perm (topic.ingest.map config.servedAt) := by
    rw [told, ← List.map_flatMap]
    exact (perm_flatMap_filter IngestRoute.address distinct
      (address_mem_ingestListeners here)).map config.servedAt
  have sorted : (config.ingestAddresses topic.name).Pairwise (·.1 ≤ ·.1) := by
    have number {address : SocketAddress} {entry : Nat × SocketAddress}
        (member : entry ∈ (topic.ingest.filter fun route => route.address = address).map
          config.servedAt) : entry.1 = config.ingestListeners.idxOf address := by
      obtain ⟨route, kept, rfl⟩ := List.mem_map.1 member
      rw [servedAt, of_decide_eq_true (List.mem_filter.1 kept).2]
    rw [told, List.pairwise_flatMap]
    constructor
    · intro address _
      apply List.pairwise_of_forall_mem_list
      intro one first two second
      rw [number first, number second]
    · rw [List.pairwise_iff_getElem]
      intro i j before behind less one first two second
      rw [number first, number second, distinct.idxOf_getElem, distinct.idxOf_getElem]
      exact Nat.le_of_lt less
  refine ⟨by simpa using same.length_eq, same, sorted, ?_, fun route own => listeners_servedAt here own⟩
  constructor
  · intro inOrder
    rwa [inOrder] at sorted
  · intro configured
    refine same.eq_of_pairwise ?_ sorted configured
    -- Entries of one listener are one entry.
    intro one two first second le ge
    obtain ⟨route, own, rfl⟩ := List.mem_map.1 (same.subset first)
    obtain ⟨other, also, rfl⟩ := List.mem_map.1 second
    have number : config.ingestListeners.idxOf route.address =
        config.ingestListeners.idxOf other.address := Nat.le_antisymm le ge
    have address := (List.idxOf_inj (address_mem_ingestListeners here route own)).1 number
    rw [servedAt, servedAt, address]

/-- One topic whose routes change between two listeners and back. -/
def shuffledRoutes : RelayConfig :=
  { standard with
    topics := [⟨"one", .ofIp (.v4 127 0 0 1) 0, .ofList ["a"],
      [.new (.ofIp (.v4 127 0 0 1) 0) "a", .new (.ofIp (.v4 127 0 0 2) 0) "b",
        .new (.ofIp (.v4 127 0 0 1) 0) "c"]⟩] }

/-- The addresses of such a topic are sorted by listener, which its routes are not. -/
theorem ingestAddresses_order_of_shuffledRoutes :
    shuffledRoutes.validate = .ok () ∧ ∃ topic, shuffledRoutes.topics[0]? = some topic ∧
      (shuffledRoutes.ingestAddresses topic.name).length = 3 ∧
      (shuffledRoutes.ingestAddresses topic.name).Pairwise (·.1 ≤ ·.1) ∧
      ¬ (topic.ingest.map shuffledRoutes.servedAt).Pairwise (·.1 ≤ ·.1) ∧
      shuffledRoutes.ingestAddresses topic.name ≠ topic.ingest.map shuffledRoutes.servedAt := by
  have accepted : shuffledRoutes.validate = .ok () := by decide +kernel
  have here : shuffledRoutes.topics[0]? = some _ := rfl
  obtain ⟨length, _, sorted, inOrder, _⟩ := ingestAddresses_order accepted here
  have unsorted : ¬ (List.map shuffledRoutes.servedAt
      [.new (.ofIp (.v4 127 0 0 1) 0) "a", .new (.ofIp (.v4 127 0 0 2) 0) "b",
        .new (.ofIp (.v4 127 0 0 1) 0) "c"]).Pairwise (·.1 ≤ ·.1) := by decide +kernel
  exact ⟨accepted, _, here, length, sorted, unsorted, fun same => unsorted (inOrder.1 same)⟩

/-- The configuration is accepted and all its listeners open. Its routes are served by the first, the
second and the first listener again, and the addresses told are two of the first and then one of the
second. -/
theorem shuffledRoutes_ingestAddresses :
    shuffledRoutes.bind .unlinked = .ok shuffledRoutes.listeners ∧
      ∃ topic, shuffledRoutes.topics[0]? = some topic ∧
        topic.ingest.map shuffledRoutes.servedAt =
          [(0, .ofIp (.v4 127 0 0 1) 0), (1, .ofIp (.v4 127 0 0 2) 0),
            (0, .ofIp (.v4 127 0 0 1) 0)] ∧
        shuffledRoutes.ingestAddresses topic.name =
          [(0, .ofIp (.v4 127 0 0 1) 0), (0, .ofIp (.v4 127 0 0 1) 0),
            (1, .ofIp (.v4 127 0 0 2) 0)] :=
  ⟨by decide +kernel, _, rfl, by decide +kernel, by decide +kernel⟩

end RelayConfig

end LiveRelay
