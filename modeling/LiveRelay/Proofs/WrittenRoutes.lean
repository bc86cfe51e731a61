/-
Module: LiveRelay.Proofs.WrittenRoutes
Purpose: The bases of routes that are loaded. A base is kept as it is written, so that the slashes
  around it stay, while routes that are made have none; and the check tells bases apart by all their
  characters.
Main exports: IngestRoute.IsBare, IngestRoute.paths_new_eq_iff, IngestRoute.WrittenAs,
  IngestRoute.ofSetting?_eq_some_iff, TopicConfig.RoutesWrittenAs, RelayConfig.loaded_routes
-/
import LiveRelay.Proofs.Config.Accepted
import LiveRelay.Proofs.Ingest.Servable
import LiveRelay.Proofs.Layering
import LiveRelay.Proofs.Text.Trimmed

namespace LiveRelay

open Text Net

/-! ### Bases without outer slashes -/

namespace IngestRoute

variable {route other : IngestRoute}

/-- A route whose base neither begins nor ends with a slash. -/
def IsBare (route : IngestRoute) : Prop := Bare (· == '/') route.base.toList

instance (route : IngestRoute) : Decidable route.IsBare :=
  inferInstanceAs (Decidable (Bare (· == '/') route.base.toList))

/-- Trimming leaves the base of a route exactly if there is nothing to trim. -/
theorem trimmedBase_eq_iff (route : IngestRoute) :
    trimmedBase route.base = route.base ↔ route.IsBare := by
  rw [← String.toList_inj, trimmedBase, String.toList_ofList, trimWhere_eq_iff]
  exact and_iff_left (Wraps.refl _)

/-- A route that is made is bare. -/
theorem isBare_new (address : SocketAddress) (base : String) : (new address base).IsBare := by
  rw [IsBare, new, trimmedBase, String.toList_ofList]
  exact bare_trimWhere _ _

/-- Routes with the same paths have the same base. -/
theorem paths_eq_iff : route.paths = other.paths ↔ route.base = other.base := by
  constructor
  · intro same
    exact base_of_shared_path route.path_mem_paths (same ▸ route.path_mem_paths)
  · intro same
    rw [paths, paths, path, path, same]

/-- A route serves what a route made with its address and base would serve exactly if it is bare. -/
theorem paths_new_eq_iff (route : IngestRoute) :
    route.paths = (new route.address route.base).paths ↔ route.IsBare := by
  rw [paths_eq_iff, eq_comm]
  exact route.trimmedBase_eq_iff

end IngestRoute

/-! ### Reading what is written -/

/-- A list is read item by item. -/
theorem mapM_eq_some_iff {α β : Type} {f : α → Option β} {items : List α} {results : List β} :
    items.mapM f = some results ↔
      List.Forall₂ (fun item result => f item = some result) items results := by
  induction items generalizing results with
  | nil => simp [eq_comm]
  | cons item others ih =>
      rw [List.mapM_cons, List.forall₂_cons_left_iff]
      simp only [Option.bind_eq_bind, Option.bind_eq_some_iff, ih, Option.pure_def,
        Option.some.injEq]
      constructor
      · rintro ⟨result, reads, rest, each, rfl⟩
        exact ⟨result, rest, reads, each, rfl⟩
      · rintro ⟨result, rest, reads, each, rfl⟩
        exact ⟨result, reads, rest, each, rfl⟩

namespace Setting

variable {setting : Setting}

theorem toText?_eq_some_iff {text : String} :
    setting.toText? = some text ↔ setting = .text text := by
  cases setting <;> simp [toText?]

theorem toAddress?_eq_some_iff {address : SocketAddress} :
    setting.toAddress? = some address ↔
      ∃ text, setting = .text text ∧ SocketAddress.ofString? text = some address := by
  simp only [toAddress?, Option.bind_eq_some_iff, toText?_eq_some_iff]

theorem toList?_eq_some_iff {α : Type} {read : Setting → Option α} {results : List α} :
    setting.toList? read = some results ↔
      ∃ items, setting = .list items ∧
        List.Forall₂ (fun item result => read item = some result) items results := by
  cases setting <;> simp [toList?, mapM_eq_some_iff]

end Setting

namespace Layer

variable {α : Type} {layer : Layer} {key : String} {default value : α} {read : Setting → Option α}

theorem required?_eq_some_iff :
    layer.required? key read = some value ↔
      ∃ setting, layer.lookup key = some setting ∧ read setting = some value :=
  Option.bind_eq_some_iff

theorem optional?_eq_some_iff :
    layer.optional? key default read = some value ↔
      (layer.lookup key = none ∧ value = default) ∨
        ∃ setting, layer.lookup key = some setting ∧ read setting = some value := by
  rw [optional?]
  cases layer.lookup key <;> simp [eq_comm]

end Layer

/-- What is written as a route: a table or an array of its fields. The address is a text that reads
as one. The base is a text and kept as it stands, or it is missing and empty. -/
inductive IngestRoute.WrittenAs : Setting → IngestRoute → Prop
  /-- A table with an address and a base. -/
  | table {entries : Layer} {text base : String} {address : SocketAddress}
      (addressed : entries.lookup "addr" = some (.text text))
      (reads : SocketAddress.ofString? text = some address)
      (based : entries.lookup "prefix" = some (.text base)) :
      WrittenAs (.table entries) ⟨address, base⟩
  /-- A table with an address alone. -/
  | baselessTable {entries : Layer} {text : String} {address : SocketAddress}
      (addressed : entries.lookup "addr" = some (.text text))
      (reads : SocketAddress.ofString? text = some address)
      (baseless : entries.lookup "prefix" = none) :
      WrittenAs (.table entries) ⟨address, ""⟩
  /-- An array of an address, a base, and anything behind them. -/
  | array {text base : String} {others : List Setting} {address : SocketAddress}
      (reads : SocketAddress.ofString? text = some address) :
      WrittenAs (.list (.text text :: .text base :: others)) ⟨address, base⟩
  /-- An array of an address alone. -/
  | baselessArray {text : String} {address : SocketAddress}
      (reads : SocketAddress.ofString? text = some address) :
      WrittenAs (.list [.text text]) ⟨address, ""⟩

namespace IngestRoute

variable {setting : Setting} {route : IngestRoute}

/-- What the fields of a route read as. -/
theorem exists_fields_of_ofSetting? (reads : ofSetting? setting = some route) :
    ∃ fields text, setting.toRecord? keys = some fields ∧ fields.lookup "addr" = some (.text text) ∧
      SocketAddress.ofString? text = some route.address ∧
      (fields.lookup "prefix" = none ∧ route.base = "" ∨
        fields.lookup "prefix" = some (.text route.base)) := by
  simp only [ofSetting?, Option.bind_eq_bind, Option.bind_eq_some_iff, Option.some.injEq] at reads
  obtain ⟨fields, record, address, addressed, base, based, rfl⟩ := reads
  obtain ⟨found, there, textual⟩ := Layer.required?_eq_some_iff.1 addressed
  obtain ⟨text, rfl, spelled⟩ := Setting.toAddress?_eq_some_iff.1 textual
  refine ⟨fields, text, record, there, spelled, ?_⟩
  rcases Layer.optional?_eq_some_iff.1 based with missing | ⟨value, present, plain⟩
  · exact .inl missing
  · exact .inr (Setting.toText?_eq_some_iff.1 plain ▸ present)

/-- A route is read exactly from what is written as one. -/
theorem ofSetting?_eq_some_iff : ofSetting? setting = some route ↔ WrittenAs setting route := by
  constructor
  · intro reads
    obtain ⟨fields, text, record, addressed, spelled, based⟩ := exists_fields_of_ofSetting? reads
    obtain ⟨address, base⟩ := route
    cases setting with
    | table entries =>
        cases record
        rcases based with ⟨missing, rfl⟩ | present
        · exact .baselessTable addressed spelled missing
        · exact .table addressed spelled present
    | list items =>
        cases record
        -- An array has its address in the first place and its base in the second.
        rcases items with _ | ⟨first, _ | ⟨second, others⟩⟩
        · cases addressed
        · cases addressed
          rcases based with ⟨_, rfl⟩ | present
          · exact .baselessArray spelled
          · cases present
        · cases addressed
          rcases based with ⟨missing, _⟩ | present
          · cases missing
          · cases present
            exact .array spelled
    | _ => cases record
  · intro written
    cases written with
    | table addressed reads based =>
        simp [ofSetting?, Setting.toRecord?, Layer.required?, Layer.optional?, Setting.toAddress?,
          Setting.toText?, addressed, reads, based]
    | baselessTable addressed reads baseless =>
        simp [ofSetting?, Setting.toRecord?, Layer.required?, Layer.optional?, Setting.toAddress?,
          Setting.toText?, addressed, reads, baseless]
    | array reads =>
        simp [ofSetting?, Setting.toRecord?, Layer.ofItems, keys, Layer.required?, Layer.optional?,
          Setting.toAddress?, Setting.toText?, reads, List.lookup_cons]
    | baselessArray reads =>
        simp [ofSetting?, Setting.toRecord?, Layer.ofItems, keys, Layer.required?, Layer.optional?,
          Setting.toAddress?, Setting.toText?, reads, List.lookup_cons]

end IngestRoute

/-- What is written as the routes of a topic: an array of routes, or nothing at all. -/
def TopicConfig.RoutesWrittenAs (setting : Setting) (topic : TopicConfig) : Prop :=
  ∃ fields, setting.toRecord? keys = some fields ∧
    (fields.lookup "ingest" = none ∧ topic.ingest = [] ∨
      ∃ items, fields.lookup "ingest" = some (.list items) ∧
        List.Forall₂ IngestRoute.WrittenAs items topic.ingest)

theorem TopicConfig.routesWrittenAs_of_ofSetting? {setting : Setting} {topic : TopicConfig}
    (reads : ofSetting? setting = some topic) : RoutesWrittenAs setting topic := by
  simp only [ofSetting?, Option.bind_eq_bind, Option.bind_eq_some_iff, Option.some.injEq] at reads
  obtain ⟨fields, record, _, _, _, _, _, _, ingest, written, rfl⟩ := reads
  refine ⟨fields, record, ?_⟩
  rcases Layer.optional?_eq_some_iff.1 written with missing | ⟨value, present, listed⟩
  · exact .inl missing
  · obtain ⟨items, rfl, each⟩ := Setting.toList?_eq_some_iff.1 listed
    exact .inr ⟨items, present, each.imp fun _ _ => IngestRoute.ofSetting?_eq_some_iff.1⟩

/-! ### Loaded configurations -/

namespace RelayConfig

variable {config : RelayConfig} {layer : Layer} {document : Option String}
  {environment : List (String × String)}

/-- What the variables, or else the document, set as the topics. -/
def topicsSet? (layer : Layer) (environment : List (String × String)) : Option Setting :=
  ((Variable.layer environment).lookup "topics").or (layer.lookup "topics")

theorem exists_layer_of_load? (loaded : load? document environment = some config) :
    ∃ layer, documentLayer? document = some layer ∧
      ofLayer? (sources layer environment) = some config := by
  cases valid : documentLayer? document with
  | some layer => exact ⟨layer, rfl, (load?_eq valid).symm.trans loaded⟩
  | none =>
      -- Only a document that is not TOML sets no layer, and then nothing is loaded.
      cases document with
      | none => cases valid
      | some text =>
          have unread : Toml.layer? text = none := valid
          simp [load?, unread] at loaded

/-- The routes of the standard layout are bare. -/
theorem isBare_of_standard : ∀ route ∈ standard.routes, route.IsBare := by decide +kernel

/-- The topics are the standard ones where no source sets them, and otherwise what is set. -/
theorem topics_of_load (reads : ofLayer? (sources layer environment) = some config) :
    (topicsSet? layer environment = none ∧ config.topics = standard.topics) ∨
      ∃ items, topicsSet? layer environment = some (.list items) ∧
        List.Forall₂ TopicConfig.RoutesWrittenAs items config.topics := by
  have somewhere := isSome_lookup_sources layer environment
  have each := (ofLayer?_eq_some_iff_of_set somewhere).1 reads .topics
  have found : (sources layer environment).lookup OptionKey.topics.name =
      (topicsSet? layer environment).or (standard.settings.lookup "topics") := by
    rw [sources, Layer.lookup_over, Layer.lookup_over, ← Option.or_assoc]
    rfl
  rw [found] at each
  cases set : topicsSet? layer environment with
  | none =>
      obtain ⟨setting, there, read⟩ := standard_settings .topics
      have standing : standard.settings.lookup "topics" = some setting := there
      rw [set, Option.none_or, standing] at each
      exact .inl ⟨rfl, Option.some.inj (each.symm.trans read)⟩
  | some setting =>
      rw [set, Option.some_or, Option.bind_some] at each
      obtain ⟨items, rfl, topics⟩ := Setting.toList?_eq_some_iff.1 each
      exact .inr ⟨items, rfl, topics.imp fun _ _ => TopicConfig.routesWrittenAs_of_ofSetting?⟩

/-- Where a configuration is accepted, routes at one address have different bases; two of them that
are bare also differ in more than the slashes around them. -/
theorem pairwise_base_of_validate (accepted : config.validate = .ok ()) :
    config.routes.Pairwise fun one other => one.address = other.address →
      one.base ≠ other.base ∧ (one.IsBare → other.IsBare →
        IngestRoute.trimmedBase one.base ≠ IngestRoute.trimmedBase other.base) := by
  have distinct : config.routes.Nodup := (validate_eq_ok_iff.1 accepted).separate.routes
  refine distinct.imp fun {one other} different address => ?_
  have bases : one.base ≠ other.base := by
    intro base
    cases one
    cases other
    exact different (congr (congrArg IngestRoute.mk address) base)
  refine ⟨bases, fun first second => ?_⟩
  rwa [one.trimmedBase_eq_iff.2 first, other.trimmedBase_eq_iff.2 second]

/-- What becomes of the bases of routes when a configuration is loaded. A route made with the
address and the base of a loaded one is bare, and serves the same exactly if the loaded one is bare,
too. All are bare where no source sets the topics; otherwise each is what is written for it, with the
slashes that are written. The check keeps routes at one address apart by their bases as they stand,
so that only bare ones are kept apart by more than slashes. -/
theorem loaded_routes (loaded : load? document environment = some config) :
    (∀ route ∈ config.routes, (IngestRoute.new route.address route.base).IsBare ∧
      (route.paths = (IngestRoute.new route.address route.base).paths ↔ route.IsBare)) ∧
    (∃ layer, documentLayer? document = some layer ∧
      ((topicsSet? layer environment = none ∧ config.topics = standard.topics ∧
          ∀ route ∈ config.routes, route.IsBare) ∨
        ∃ items, topicsSet? layer environment = some (.list items) ∧
          List.Forall₂ TopicConfig.RoutesWrittenAs items config.topics)) ∧
    (config.validate = .ok () →
      config.routes.Pairwise fun one other => one.address = other.address →
        one.base ≠ other.base ∧ (one.IsBare → other.IsBare →
          IngestRoute.trimmedBase one.base ≠ IngestRoute.trimmedBase other.base)) := by
  refine ⟨fun route _ => ⟨IngestRoute.isBare_new _ _, route.paths_new_eq_iff⟩, ?_,
    pairwise_base_of_validate⟩
  obtain ⟨layer, valid, reads⟩ := exists_layer_of_load? loaded
  refine ⟨layer, valid, ?_⟩
  rcases topics_of_load reads with ⟨unset, same⟩ | written
  · refine .inl ⟨unset, same, ?_⟩
    rw [routes, same]
    exact isBare_of_standard
  · exact .inr written

/-- A document with two routes at one address: a table and an array, whose bases differ in the
slashes around them. -/
def slashedDocument : String :=
  "[[topics]]\nname = 'a'\nsubscribe_addr = '127.0.0.1:0'\n" ++
    "ingest = [\x7baddr = '127.0.0.1:0', prefix = 'x'\x7d, ['127.0.0.1:0', '/x/']]\n"

/-- What the document sets. -/
def slashedRoutes : RelayConfig :=
  { standard with
    topics := [⟨"a", .ofIp .localhost 0, .standard,
      [⟨.ofIp .localhost 0, "x"⟩, ⟨.ofIp .localhost 0, "/x/"⟩]⟩] }

/-- The document is loaded as it is written. The first of its routes serves what a route made so
would serve, and the second one does not; to the check, their bases are different. -/
theorem loaded_routes_of_slashedDocument :
    load? (some slashedDocument) [] = some slashedRoutes ∧
      slashedRoutes.routes.map (fun route =>
          decide (route.paths = (IngestRoute.new route.address route.base).paths)) = [true, false] ∧
      slashedRoutes.routes.Pairwise fun one other => one.address = other.address →
        one.base ≠ other.base := by
  have loaded : load? (some slashedDocument) [] = some slashedRoutes := by decide +kernel
  have accepted : slashedRoutes.validate = .ok () := by decide +kernel
  obtain ⟨serves, _, apart⟩ := loaded_routes loaded
  refine ⟨loaded, ?_, (apart accepted).imp fun different address => (different address).1⟩
  have bare : slashedRoutes.routes.map (fun route => decide route.IsBare) = [true, false] := by
    decide +kernel
  rw [← bare]
  exact List.map_congr_left fun route member => decide_eq_decide.2 (serves route member).2

/-- The document is loaded and accepted, although a route in it serves other paths than one made
with its address and base would, and although it has two routes at one address whose bases differ in
the slashes around them alone. -/
theorem slashes_accepted :
    ∃ config, load? (some slashedDocument) [] = some config ∧ config.validate = .ok () ∧
      (∃ route ∈ config.routes,
        route.paths ≠ (IngestRoute.new route.address route.base).paths) ∧
      ∃ one ∈ config.routes, ∃ other ∈ config.routes, one.address = other.address ∧
        one.base ≠ other.base ∧
        IngestRoute.trimmedBase one.base = IngestRoute.trimmedBase other.base := by
  refine ⟨slashedRoutes, by decide +kernel, by decide +kernel, ?_, ?_⟩
  · exact ⟨⟨.ofIp .localhost 0, "/x/"⟩, by decide +kernel, by decide +kernel⟩
  · exact ⟨⟨.ofIp .localhost 0, "x"⟩, by decide +kernel, ⟨.ofIp .localhost 0, "/x/"⟩,
      by decide +kernel, rfl, by decide +kernel, by decide +kernel⟩

end RelayConfig

end LiveRelay
