/-
Module: LiveRelay.Proofs.RoutePaths
Purpose: The paths at a listener are different texts, whatever stands in the bases: a path tells the
  base of its route, and which of the three paths of the route it is. Routes that are made have the
  same paths where their bases differ in outer slashes alone.
Main exports: IngestRoute.nodup_flatMap_paths, IngestRoute.mem_paths_congr_iff,
  IngestRoute.trimmedBase_congr_iff, RelayConfig.paths_apart
-/
import LiveRelay.Proofs.Ingest.Groups
import LiveRelay.Proofs.Ingest.Servable
import LiveRelay.Proofs.Text.Trimmed

namespace LiveRelay

open Text Net

namespace IngestRoute

variable {route other : IngestRoute}

/-- A route has three different paths. -/
theorem nodup_paths (route : IngestRoute) : route.paths.Nodup := by
  have endings_nodup : endings.Nodup := by decide
  refine List.Nodup.of_map String.toList ?_
  rw [map_toList_paths]
  exact endings_nodup.map_on fun one here two there same => (ending_unique here there same).2

/-- The paths of routes with different bases are different. -/
theorem nodup_flatMap_paths {routes : List IngestRoute} (distinct : (routes.map base).Nodup) :
    (routes.flatMap paths).Nodup := by
  refine List.nodup_flatMap.2 ⟨fun route _ => route.nodup_paths, ?_⟩
  exact (List.pairwise_map.1 distinct).imp fun different path own also =>
    different (base_of_shared_path own also)

/-- Routes have the same paths, in whatever order, exactly if they have the same base. -/
theorem mem_paths_congr_iff :
    (∀ path, path ∈ route.paths ↔ path ∈ other.paths) ↔ route.base = other.base := by
  constructor
  · intro same
    exact base_of_shared_path route.path_mem_paths ((same route.path).1 route.path_mem_paths)
  · intro base path
    rw [paths, paths, IngestRoute.path, IngestRoute.path, base]

/-- Two bases are trimmed to the same exactly if they are one text without outer slashes, with any
slashes around it. -/
theorem trimmedBase_congr_iff {one two : String} :
    trimmedBase one = trimmedBase two ↔ ∃ core, Bare (· == '/') core ∧
      Wraps (· == '/') one.toList core ∧ Wraps (· == '/') two.toList core := by
  have texts : trimmedBase one = trimmedBase two ↔
      trimWhere (· == '/') one.toList = trimWhere (· == '/') two.toList := String.ofList_inj
  rw [texts]
  constructor
  · intro same
    exact ⟨trimWhere (· == '/') one.toList, bare_trimWhere _ _, wraps_trimWhere _ _,
      same ▸ wraps_trimWhere _ _⟩
  · rintro ⟨core, bare, first, second⟩
    rw [trimWhere_eq_iff.2 ⟨bare, first⟩, trimWhere_eq_iff.2 ⟨bare, second⟩]

end IngestRoute

namespace RelayConfig

/-- The paths at each listener for sources are those of the routes of all topics that have its address,
three for each; and where the configuration is accepted, no two of these paths are the same text,
whatever stands in the bases. Routes that are made have the same paths exactly if the bases that were
given are one text without outer slashes, with any slashes around it. -/
theorem paths_apart (config : RelayConfig) :
    (∀ group, .ingest group ∈ config.listeners →
      (Listener.ingest group).routes =
        (config.topics.flatMap TopicConfig.ingest).filter
          (fun route => route.address = group.address) ∧
      ((Listener.ingest group).routes.flatMap IngestRoute.paths).length =
        3 * (Listener.ingest group).routes.length ∧
      (config.validate = .ok () →
        ((Listener.ingest group).routes.flatMap IngestRoute.paths).Nodup)) ∧
    ∀ (address : SocketAddress) (one two : String),
      (∀ path, path ∈ (IngestRoute.new address one).paths ↔
          path ∈ (IngestRoute.new address two).paths) ↔
        ∃ core, Bare (· == '/') core ∧ Wraps (· == '/') one.toList core ∧
          Wraps (· == '/') two.toList core := by
  constructor
  · intro group listens
    have grouped : group ∈ config.ingestGroups := by simpa [listeners] using listens
    refine ⟨map_route_of_group grouped, ?_, fun accepted => ?_⟩
    · simp [IngestRoute.paths, Nat.mul_comm]
    · exact IngestRoute.nodup_flatMap_paths (nodup_bases_of_group accepted grouped)
  · intro address one two
    rw [IngestRoute.mem_paths_congr_iff]
    exact IngestRoute.trimmedBase_congr_iff

/-- Where sources of two topics push. -/
def crookedAddress : SocketAddress := .ofIp (.v4 127 0 0 1) 7000

/-- Two topics whose routes at one address have bases with slashes around them, and bases that look
like the paths of others. -/
def crookedBases : RelayConfig :=
  { standard with
    topics := [
      ⟨"one", .ofIp .localhost 0, .standard, ["", "/", "x", "x/"].map (.mk crookedAddress)⟩,
      ⟨"two", .ofIp .localhost 0, .standard,
        ["//x", "\x7bchannel\x7d", "x/\x7bchannel\x7d", "x/\x7bchannel\x7d/\x7b*rest\x7d"].map
          (.mk crookedAddress)⟩] }

/-- The eight routes share a listener, and their 24 paths are different. Of routes that are made, the
slashes around a base do not count, and those within it do. -/
theorem paths_apart_of_crookedBases :
    crookedBases.validate = .ok () ∧
      (∃ group, .ingest group ∈ crookedBases.listeners ∧
        ((Listener.ingest group).routes.flatMap IngestRoute.paths).length = 24 ∧
        ((Listener.ingest group).routes.flatMap IngestRoute.paths).Nodup) ∧
      (∀ path, path ∈ (IngestRoute.new crookedAddress "//x/").paths ↔
        path ∈ (IngestRoute.new crookedAddress "x").paths) ∧
      ¬ ∀ path, path ∈ (IngestRoute.new crookedAddress "x/x").paths ↔
        path ∈ (IngestRoute.new crookedAddress "x").paths := by
  have accepted : crookedBases.validate = .ok () := by decide +kernel
  obtain ⟨apart, made⟩ := paths_apart crookedBases
  refine ⟨accepted, ?_, ?_, ?_⟩
  · have first : crookedBases.topics[0]? = some _ := rfl
    obtain ⟨group, grouped, address, _⟩ := exists_group first List.mem_cons_self
    have listens : .ingest group ∈ crookedBases.listeners :=
      List.mem_append_right _ (List.mem_map_of_mem grouped)
    obtain ⟨served, three, distinct⟩ := apart group listens
    refine ⟨group, listens, ?_, distinct accepted⟩
    rw [three, served, address]
    decide +kernel
  · exact (made crookedAddress "//x/" "x").2
      (IngestRoute.trimmedBase_congr_iff.1 (by decide +kernel))
  · intro same
    have core := (made crookedAddress "x/x" "x").1 same
    exact absurd (IngestRoute.trimmedBase_congr_iff.2 core) (by decide +kernel)

end RelayConfig

end LiveRelay
