/-
Module: LiveRelay.Proofs.Ingest.Groups
Purpose: The routes of all topics sorted by listener: every address has one group, and it holds the
  routes of that address in reading order, each with the topic that configured it. Where the
  configuration is accepted, they have different bases.
Main exports: Grouping, Grouping.addTo, RelayConfig.grouping, RelayConfig.mem_placedRoutes,
  RelayConfig.placedRoutes_of_topic, RelayConfig.mem_routes, RelayConfig.map_route_of_group,
  RelayConfig.nodup_bases_of_group, IngestGroup.mem_served
-/
import LiveRelay.Ingest.Request
import LiveRelay.Proofs.Config.Accepted
import Mathlib.Data.List.Nodup

namespace LiveRelay

open Net

/-- Elements that are told class by class are the same elements. -/
theorem perm_flatMap_filter {α κ : Type} [DecidableEq κ] (key : α → κ) {keys : List κ}
    (distinct : keys.Nodup) {elements : List α} (covered : ∀ x ∈ elements, key x ∈ keys) :
    (keys.flatMap fun k => elements.filter fun x => key x = k).Perm elements := by
  induction keys generalizing elements with
  | nil =>
      have none : elements = [] := by
        rw [List.eq_nil_iff_forall_not_mem]
        exact fun x member => List.not_mem_nil (covered x member)
      rw [none]
      exact List.Perm.nil
  | cons k others ih =>
      obtain ⟨absent, distinct⟩ := List.nodup_cons.1 distinct
      let rest := elements.filter fun x => !decide (key x = k)
      have others_rest : (others.flatMap fun other => rest.filter fun x => key x = other) =
          others.flatMap fun other => elements.filter fun x => key x = other := by
        apply List.flatMap_congr
        intro other member
        rw [List.filter_filter]
        apply List.filter_congr
        intro x _
        have different : k ≠ other := fun same => absent (same ▸ member)
        by_cases own : key x = other <;> simp [own, Ne.symm different]
      have covers : ∀ x ∈ rest, key x ∈ others := by
        intro x member
        obtain ⟨present, different⟩ := List.mem_filter.1 member
        exact (List.mem_cons.1 (covered x present)).resolve_left (by simpa using different)
      rw [List.flatMap_cons, ← others_rest]
      exact ((ih distinct covers).append_left _).trans
        (List.filter_append_perm (fun x => key x = k) elements)

/-- Where the listener of a route listens. -/
def PlacedRoute.address (placed : PlacedRoute) : SocketAddress := placed.route.address

namespace IngestGroup

variable {placed : PlacedRoute} {group : IngestGroup} {groups : List IngestGroup}

/-- A route goes to the group of its address; a new group stands behind the others. -/
theorem map_address_addTo (placed : PlacedRoute) (groups : List IngestGroup) :
    (addTo placed groups).map address =
      if placed.address ∈ groups.map address then groups.map address
      else groups.map address ++ [placed.address] := by
  induction groups with
  | nil => rfl
  | cons first others ih =>
      rw [addTo]
      by_cases here : first.address = placed.route.address
      · have own : placed.address ∈ (first :: others).map address :=
          List.mem_map.2 ⟨first, List.mem_cons_self, here⟩
        rw [if_pos here, if_pos own]
        rfl
      · have absent : placed.address ≠ first.address := fun same => here same.symm
        rw [if_neg here, List.map_cons, ih, List.map_cons]
        simp only [List.mem_cons, absent, false_or]
        split <;> rfl

/-- After a route was added, a group is one of another address, or the one of its own address with
the route behind those that were there. -/
theorem mem_addTo (distinct : (groups.map address).Nodup) (member : group ∈ addTo placed groups) :
    (group ∈ groups ∧ group.address ≠ placed.address) ∨
    (∃ earlier ∈ groups, earlier.address = placed.address ∧
      group = { earlier with routes := earlier.routes ++ [placed] }) ∨
    (placed.address ∉ groups.map address ∧ group = ⟨placed.address, [placed]⟩) := by
  induction groups with
  | nil => exact .inr (.inr ⟨List.not_mem_nil, List.mem_singleton.1 member⟩)
  | cons first others ih =>
      rw [List.map_cons, List.nodup_cons] at distinct
      rw [addTo] at member
      split at member
      · next here =>
        rcases List.mem_cons.1 member with rfl | member
        · exact .inr (.inl ⟨first, List.mem_cons_self, here, rfl⟩)
        · refine .inl ⟨List.mem_cons_of_mem _ member, fun same => distinct.1 ?_⟩
          exact List.mem_map.2 ⟨group, member, same.trans here.symm⟩
      · next elsewhere =>
        rcases List.mem_cons.1 member with rfl | member
        · exact .inl ⟨List.mem_cons_self, elsewhere⟩
        · rcases ih distinct.2 member with ⟨old, other⟩ | ⟨earlier, old, rest⟩ | ⟨absent, new⟩
          · exact .inl ⟨List.mem_cons_of_mem _ old, other⟩
          · exact .inr (.inl ⟨earlier, List.mem_cons_of_mem _ old, rest⟩)
          · refine .inr (.inr ⟨?_, new⟩)
            rw [List.map_cons, List.mem_cons, not_or]
            exact ⟨fun same => elsewhere same.symm, absent⟩

end IngestGroup

/-- Groups sort routes by address: no two groups have one address, each holds exactly the routes of
its address in their order, and every route has a group. -/
structure Grouping (placed : List PlacedRoute) (groups : List IngestGroup) : Prop where
  distinct : (groups.map IngestGroup.address).Nodup
  routes : ∀ group ∈ groups,
    group.routes = placed.filter fun one => one.address = group.address
  covered : ∀ one ∈ placed, one.address ∈ groups.map IngestGroup.address

namespace Grouping

variable {earlier : List PlacedRoute} {groups : List IngestGroup}

theorem nil : Grouping [] [] where
  distinct := List.nodup_nil
  routes := fun _ member => absurd member List.not_mem_nil
  covered := fun _ member => absurd member List.not_mem_nil

theorem addTo (grouping : Grouping earlier groups) (placed : PlacedRoute) :
    Grouping (earlier ++ [placed]) (IngestGroup.addTo placed groups) := by
  have addresses := IngestGroup.map_address_addTo placed groups
  constructor
  case distinct =>
    rw [addresses]
    split
    · exact grouping.distinct
    · next absent =>
      refine grouping.distinct.append (List.nodup_singleton _) ?_
      rw [List.disjoint_singleton]
      exact absent
  case routes =>
    intro group member
    rw [List.filter_append]
    rcases IngestGroup.mem_addTo grouping.distinct member with
      ⟨old, other⟩ | ⟨before, old, own, rfl⟩ | ⟨absent, rfl⟩
    · rw [grouping.routes group old]
      simp [Ne.symm other]
    · simp only [grouping.routes before old]
      simp [own]
    · have none : earlier.filter (fun one => one.address = placed.address) = [] := by
        rw [List.filter_eq_nil_iff]
        intro one before
        simp only [decide_eq_true_eq]
        exact fun same => absent (same ▸ grouping.covered one before)
      simp [none]
  case covered =>
    intro one member
    rw [addresses]
    rcases List.mem_append.1 member with before | last
    · have had := grouping.covered one before
      split
      · exact had
      · exact List.mem_append_left _ had
    · rw [List.mem_singleton.1 last]
      split
      · assumption
      · exact List.mem_append_right _ (List.mem_singleton_self _)

theorem foldl (grouping : Grouping earlier groups) (placed : List PlacedRoute) :
    Grouping (earlier ++ placed)
      (placed.foldl (fun groups one => IngestGroup.addTo one groups) groups) := by
  induction placed generalizing earlier groups with
  | nil =>
      rw [List.append_nil]
      exact grouping
  | cons one others ih =>
      have rest := ih (grouping.addTo one)
      rwa [List.append_assoc, List.singleton_append] at rest

end Grouping

namespace RelayConfig

variable {config : RelayConfig} {topic : TopicConfig} {t : Nat} {placed : PlacedRoute}
  {group : IngestGroup}

/-- The groups of a configuration sort all its routes. -/
theorem grouping (config : RelayConfig) : Grouping config.placedRoutes config.ingestGroups :=
  Grouping.nil.foldl config.placedRoutes

theorem mem_placedRoutes :
    placed ∈ config.placedRoutes ↔
      ∃ topic, config.topics[placed.topic]? = some topic ∧ placed.route ∈ topic.ingest := by
  obtain ⟨route, t⟩ := placed
  simp only [placedRoutes, List.mem_flatMap, List.mem_map, Prod.exists, PlacedRoute.mk.injEq]
  constructor
  · rintro ⟨topic, place, member, _, own, rfl, rfl⟩
    exact ⟨topic, List.mem_zipIdx_iff_getElem?.1 member, own⟩
  · rintro ⟨topic, here, own⟩
    exact ⟨topic, t, List.mem_zipIdx_iff_getElem?.2 here, route, own, rfl, rfl⟩

theorem map_route_placedRoutes (config : RelayConfig) :
    config.placedRoutes.map PlacedRoute.route = config.routes := by
  have each (first : Nat) (topics : List TopicConfig) :
      ((topics.zipIdx first).flatMap fun entry =>
        entry.1.ingest.map fun route => (⟨route, entry.2⟩ : PlacedRoute)).map PlacedRoute.route =
          topics.flatMap TopicConfig.ingest := by
    induction topics generalizing first with
    | nil => rfl
    | cons topic others ih =>
        rw [List.zipIdx_cons, List.flatMap_cons, List.map_append, ih, List.map_map,
          List.flatMap_cons]
        exact congrArg (· ++ _) (List.map_id _)
  exact each 0 config.topics

/-- What is taken from the place of one topic alone. -/
theorem flatMap_zipIdx_of_place {β : Type} (f : TopicConfig → List β) (topics : List TopicConfig)
    (first t : Nat) :
    ((topics.zipIdx first).flatMap fun entry =>
      if entry.2 = first + t then f entry.1 else []) = topics[t]?.elim [] f := by
  induction topics generalizing first t with
  | nil => rfl
  | cons topic others ih =>
      rw [List.zipIdx_cons, List.flatMap_cons]
      cases t with
      | zero =>
          have later : ((others.zipIdx (first + 1)).flatMap fun entry =>
              if entry.2 = first + 0 then f entry.1 else []) = [] := by
            rw [List.flatMap_eq_nil_iff]
            rintro ⟨other, place⟩ member
            have behind := (List.mem_zipIdx member).1
            exact if_neg (by omega)
          rw [later, List.append_nil, Nat.add_zero]
          exact if_pos rfl
      | succ t =>
          have rest := ih (first + 1) t
          rw [Nat.add_right_comm] at rest
          rw [if_neg (by omega), List.nil_append]
          exact rest

/-- The routes of one topic among all routes, in their order. -/
theorem placedRoutes_of_topic (here : config.topics[t]? = some topic) :
    config.placedRoutes.filter (fun placed => placed.topic = t) =
      topic.ingest.map fun route => ⟨route, t⟩ := by
  have single := flatMap_zipIdx_of_place
    (fun topic => topic.ingest.map fun route => (⟨route, t⟩ : PlacedRoute)) config.topics 0 t
  rw [here, Option.elim_some, Nat.zero_add] at single
  rw [placedRoutes, List.filter_flatMap, ← single]
  congr 1
  funext ⟨other, place⟩
  rw [List.filter_map]
  by_cases own : place = t
  · subst own
    simp [Function.comp_def]
  · simp [Function.comp_def, own]

/-- A group holds the routes of its address, each with a topic that configured it. -/
theorem mem_routes (member : group ∈ config.ingestGroups) :
    placed ∈ group.routes ↔ placed.route.address = group.address ∧
      ∃ topic, config.topics[placed.topic]? = some topic ∧ placed.route ∈ topic.ingest := by
  rw [config.grouping.routes group member, List.mem_filter, mem_placedRoutes, decide_eq_true_eq]
  exact and_comm

/-- They are the routes of all topics that have the address, in their order. -/
theorem map_route_of_group (member : group ∈ config.ingestGroups) :
    group.routes.map PlacedRoute.route =
      config.routes.filter fun route => route.address = group.address := by
  rw [config.grouping.routes group member, ← map_route_placedRoutes, List.filter_map]
  rfl

/-- Where a configuration is accepted, the routes of a group have different bases. -/
theorem nodup_bases_of_group (accepted : config.validate = .ok ())
    (member : group ∈ config.ingestGroups) :
    ((group.routes.map PlacedRoute.route).map IngestRoute.base).Nodup := by
  have distinct : config.routes.Nodup := (validate_eq_ok_iff.1 accepted).separate.routes
  rw [map_route_of_group member]
  refine (distinct.filter _).map_on ?_
  rintro ⟨_, base⟩ one ⟨_, _⟩ two (rfl : base = _)
  have first := (List.mem_filter.1 one).2
  have second := (List.mem_filter.1 two).2
  simp only [decide_eq_true_eq] at first second
  rw [first, second]

/-- Every route has a group. -/
theorem exists_group (here : config.topics[t]? = some topic) {route : IngestRoute}
    (own : route ∈ topic.ingest) :
    ∃ group ∈ config.ingestGroups, group.address = route.address ∧ ⟨route, t⟩ ∈ group.routes := by
  have placed : ⟨route, t⟩ ∈ config.placedRoutes := mem_placedRoutes.2 ⟨topic, here, own⟩
  obtain ⟨group, member, same⟩ := List.mem_map.1 (config.grouping.covered _ placed)
  exact ⟨group, member, same, (mem_routes member).2 ⟨same.symm, topic, here, own⟩⟩

end RelayConfig

/-- Each route of a group stands for itself. -/
theorem IngestGroup.mem_served {group : IngestGroup} {route : IngestRoute} {placed : PlacedRoute} :
    (route, placed) ∈ group.served ↔ placed ∈ group.routes ∧ placed.route = route := by
  simp only [served, List.mem_map, Prod.mk.injEq]
  constructor
  · rintro ⟨_, member, rfl, rfl⟩
    exact ⟨member, rfl⟩
  · rintro ⟨member, rfl⟩
    exact ⟨placed, member, rfl, rfl⟩

end LiveRelay
