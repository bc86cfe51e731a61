/-
Module: LiveRelay.Proofs.Layering
Purpose: Loading a configuration key by key: each option is read from the last source that sets its
  key, and nothing else that the sources hold makes a difference.
Main exports: OptionKey, documentLayer?, Undotted, effective?, Layer.fused, RelayConfig.load_by_key
-/
import LiveRelay.Proofs.Config.Written
import Mathlib.Data.List.Basic

namespace LiveRelay

open Text

/-- A truth value is read from itself only. -/
theorem Setting.eq_boolean_of_toBool? {setting : Setting} {value : Bool}
    (read : setting.toBool? = some value) : setting = .boolean value := by
  cases setting with
  | boolean _ => exact congrArg Setting.boolean (Option.some.inj read)
  | _ => cases read

/-! ### The options -/

/-- The options of a configuration. -/
inductive OptionKey where
  | topics
  | probeInterval
  | idleTimeout
  | queueCapacity
  | overflow
  | rejectUnknown
deriving Repr, DecidableEq

namespace OptionKey

/-- The key under which sources set an option. -/
def name : OptionKey → String
  | topics => "topics"
  | probeInterval => "probe_interval_ms"
  | idleTimeout => "ingest_idle_timeout_ms"
  | queueCapacity => "subscriber_queue_capacity"
  | overflow => "overflow_policy"
  | rejectUnknown => "reject_unknown_channels"

/-- What an option holds. -/
abbrev Value : OptionKey → Type
  | topics => List TopicConfig
  | probeInterval | idleTimeout => Span
  | queueCapacity => UInt64
  | overflow => OverflowPolicy
  | rejectUnknown => Bool

/-- What a configuration has for an option. -/
def get : (key : OptionKey) → RelayConfig → key.Value
  | topics => RelayConfig.topics
  | probeInterval => RelayConfig.probeInterval
  | idleTimeout => RelayConfig.idleTimeout
  | queueCapacity => RelayConfig.queueCapacity
  | overflow => RelayConfig.overflow
  | rejectUnknown => RelayConfig.rejectUnknown

/-- How the value that a source gives to an option is read. -/
def read? : (key : OptionKey) → Setting → Option key.Value
  | topics => Setting.toList? TopicConfig.ofSetting?
  | probeInterval | idleTimeout => Span.ofSetting?
  | queueCapacity => Setting.toUInt64?
  | overflow => fun setting => setting.toText?.bind OverflowPolicy.ofName?
  | rejectUnknown => Setting.toBool?

/-- No option is read from a table. -/
theorem read?_table (key : OptionKey) (entries : Layer) : key.read? (.table entries) = none := by
  cases key <;> rfl

end OptionKey

/-- Reading a layer reads every option, each on its own. -/
theorem RelayConfig.ofLayer?_eq_some_iff {layer : Layer} {config : RelayConfig} :
    ofLayer? layer = some config ↔
      ∀ key : OptionKey,
        layer.optional? key.name (key.get standard) key.read? = some (key.get config) := by
  simp only [ofLayer?, Option.bind_eq_bind, Option.bind_eq_some_iff, Option.some.injEq]
  constructor
  · rintro ⟨_, topics, _, probeInterval, _, idleTimeout, _, queueCapacity, _, overflow, _,
      rejectUnknown, rfl⟩ key
    cases key
    exacts [topics, probeInterval, idleTimeout, queueCapacity, overflow, rejectUnknown]
  · intro each
    exact ⟨_, each .topics, _, each .probeInterval, _, each .idleTimeout, _, each .queueCapacity, _,
      each .overflow, _, each .rejectUnknown, rfl⟩

/-- Under each key the settings of a configuration hold what is read as its value, without the flow
information of addresses and in whole milliseconds where that is a span. -/
theorem RelayConfig.lookup_settings {config : RelayConfig}
    (probe : config.probeInterval < Span.ofMillis UInt64.size)
    (idle : config.idleTimeout < Span.ofMillis UInt64.size) (key : OptionKey) :
    ∃ setting, config.settings.lookup key.name = some setting ∧
      key.read? setting = some (key.get config.withoutFlows.wholeMillis) := by
  cases key
  case topics =>
    exact ⟨_, rfl, Setting.toList?_list_map TopicConfig.ofSetting?_setting config.topics⟩
  case probeInterval => exact ⟨_, rfl, Span.ofSetting?_setting probe⟩
  case idleTimeout => exact ⟨_, rfl, Span.ofSetting?_setting idle⟩
  case queueCapacity => exact ⟨_, rfl, Setting.toUInt64?_integer config.queueCapacity⟩
  case overflow => exact ⟨_, rfl, OverflowPolicy.ofName?_name config.overflow⟩
  case rejectUnknown => exact ⟨_, rfl, rfl⟩

/-- Under each key the standard settings hold what is read as the standard value. -/
theorem RelayConfig.standard_settings (key : OptionKey) :
    ∃ setting, standard.settings.lookup key.name = some setting ∧
      key.read? setting = some (key.get standard) := by
  have probe : standard.probeInterval < Span.ofMillis UInt64.size := by decide
  have idle : standard.idleTimeout < Span.ofMillis UInt64.size := by decide
  have flows : standard.withoutFlows = standard := rfl
  have whole : standard.wholeMillis = standard := wholeMillis_eq ⟨2000, rfl⟩ ⟨30000, rfl⟩
  obtain ⟨setting, found, reads⟩ := lookup_settings probe idle key
  rw [flows, whole] at reads
  exact ⟨setting, found, reads⟩

/-! ### The sources -/

/-- The layer that a document sets: none without a document. -/
def documentLayer? : Option String → Option Layer
  | none => some []
  | some text => Toml.layer? text

/-- No variable that belongs to the relay has a dot in its name. -/
def Undotted (environment : List (String × String)) : Prop :=
  ∀ named ∈ environment, (Variable.key? named.1).isSome → '.' ∉ named.1.toList

instance (environment : List (String × String)) : Decidable (Undotted environment) :=
  inferInstanceAs <| Decidable <|
    ∀ named ∈ environment, (Variable.key? named.1).isSome → '.' ∉ named.1.toList

/-- The value that the variables give to a key: that of the last one which sets it. -/
def Variable.effective? (environment : List (String × String)) (key : String) : Option Setting :=
  environment.reverse.findSome? fun named =>
    if Variable.key? named.1 = some key.toList then some (Variable.value named.2) else none

/-- The value that counts for a key: the variables go before the document, and the document before
the standard settings. -/
def effective? (document : Layer) (environment : List (String × String)) (key : String) :
    Option Setting :=
  (Variable.effective? environment key).or <|
    (document.lookup key).or (RelayConfig.standard.settings.lookup key)

namespace Variable

variable {name : String} {key : List Char}

/-- Only the dot becomes a dot in lower case. -/
theorem toLower_eq_dot {c : Char} (lowered : c.toLower = '.') : c = '.' := by
  unfold Char.toLower at lowered
  split at lowered
  · next upper =>
    have letter : (c.val + ('a'.val - 'A'.val)).toNat = 46 := congrArg Char.toNat lowered
    have least : 65 ≤ c.val.toNat := upper.1
    have most : c.val.toNat ≤ 90 := upper.2
    rw [UInt32.toNat_add, show ('a'.val - 'A'.val).toNat = 32 from rfl] at letter
    omega
  · exact lowered

theorem mem_of_mem_trimBlank {text : List Char} {c : Char} (member : c ∈ trimBlank text) :
    c ∈ text := by
  rw [trimBlank, trimWhere, List.mem_reverse] at member
  have trimmed := (List.dropWhile_suffix isBlank).subset member
  exact (List.dropWhile_suffix isBlank).subset (List.mem_reverse.1 trimmed)

/-- The key of a variable has a dot only if the name has one. -/
theorem dot_not_mem_key (found : key? name = some key) (undotted : '.' ∉ name.toList) :
    '.' ∉ key := by
  intro member
  rw [key?] at found
  split at found
  · cases found
    obtain ⟨c, among, lowered⟩ :=
      List.mem_map.1 (List.mem_of_mem_drop (mem_of_mem_trimBlank member))
    exact undotted (toLower_eq_dot lowered ▸ mem_of_mem_trimBlank among)
  · cases found

/-- A variable without a dot in its name sets one key, unless the key would be empty. -/
theorem entry?_of_undotted (undotted : (key? name).isSome → '.' ∉ name.toList) (written : String) :
    entry? name written = (key? name).bind fun key =>
      if key = [] then none else some (String.ofList key, value written) := by
  unfold entry?
  cases found : key? name with
  | none => rfl
  | some key =>
      have plain := dot_not_mem_key found (undotted (by rw [found]; rfl))
      simp only [Option.bind_eq_bind, Option.bind_some, pieces_of_not_mem plain,
        List.mem_singleton, eq_comm (a := ([] : List Char))]
      rfl

/-- A key of the layer of variables has the value of the last variable that sets it. -/
theorem lookup_layer {environment : List (String × String)} (undotted : Undotted environment)
    {key : String} (nonempty : key ≠ "") :
    (layer environment).lookup key = effective? environment key := by
  rw [layer, ← List.filterMap_reverse, effective?]
  have each : ∀ named ∈ environment.reverse, (key? named.1).isSome → '.' ∉ named.1.toList :=
    fun named member => undotted named (List.mem_reverse.1 member)
  generalize environment.reverse = latest at each
  induction latest with
  | nil => rfl
  | cons named others ih =>
      obtain ⟨first, rest⟩ := List.forall_mem_cons.1 each
      rw [List.filterMap_cons, entry?_of_undotted first, List.findSome?_cons, ← ih rest]
      cases found : key? named.1 with
      | none => rfl
      | some text =>
          by_cases own : text = key.toList
          · simp [own, nonempty]
          · have other : key ≠ String.ofList text := by
              rintro rfl
              exact own (String.toList_ofList).symm
            by_cases empty : text = []
            · subst empty
              simp [nonempty]
            · simp [own, empty, List.lookup_cons, beq_false_of_ne other]

end Variable

/-! ### Layers put together -/

/-- An upper value on a lower one under the same key: the upper one counts, but of two tables one
table is made in some way. -/
def Setting.onto (fuse : Layer → Layer → Layer) : Setting → Setting → Setting
  | .table upper, .table lower => .table (fuse upper lower)
  | upper, _ => upper

/-- An upper layer on a lower one where tables under the same key are put together in some way. -/
def Layer.fused (fuse : Layer → Layer → Layer) (upper lower : Layer) : Layer :=
  (upper.map fun entry =>
    (entry.1, (lower.lookup entry.1).elim entry.2 (entry.2.onto fuse))) ++ lower

section Fused

variable {fuse : Layer → Layer → Layer}

/-- An option is not read from tables, so it does not matter how they are put together. -/
theorem OptionKey.read?_onto (key : OptionKey) (upper lower : Setting) :
    key.read? (upper.onto fuse lower) = key.read? upper := by
  unfold Setting.onto
  split
  · rw [read?_table, read?_table]
  · rfl

theorem Layer.lookup_fused (upper lower : Layer) (key : String) :
    (upper.fused fuse lower).lookup key =
      ((upper.lookup key).map fun setting =>
        (lower.lookup key).elim setting (setting.onto fuse)).or (lower.lookup key) := by
  rw [fused, List.lookup_append]
  congr 1
  induction upper with
  | nil => rfl
  | cons entry others ih =>
      rw [List.map_cons, List.lookup_cons, List.lookup_cons]
      by_cases own : key = entry.1
      · simp [own]
      · simp only [beq_false_of_ne own]
        exact ih

theorem Layer.isSome_lookup_fused {upper lower : Layer} {key : String}
    (set : (lower.lookup key).isSome) : ((upper.fused fuse lower).lookup key).isSome := by
  rw [lookup_fused, Option.isSome_or, set, Bool.or_true]

/-- An option of fused layers is read as if the upper layer hid the lower one. -/
theorem OptionKey.bind_lookup_fused (key : OptionKey) {upper lower other : Layer}
    (same : (lower.lookup key.name).bind key.read? = (other.lookup key.name).bind key.read?) :
    ((upper.fused fuse lower).lookup key.name).bind key.read? =
      ((upper.over other).lookup key.name).bind key.read? := by
  rw [Layer.lookup_fused, Layer.lookup_over]
  cases upper.lookup key.name with
  | none => exact same
  | some setting =>
      cases lower.lookup key.name with
      | none => rfl
      | some hidden => exact key.read?_onto setting hidden

end Fused

/-! ### Loading -/

namespace RelayConfig

variable {layer other : Layer} {config : RelayConfig} {document : Option String}
  {environment : List (String × String)}

/-- Where every key is set, no default is used. -/
theorem ofLayer?_eq_some_iff_of_set (set : ∀ key : OptionKey, (layer.lookup key.name).isSome) :
    ofLayer? layer = some config ↔
      ∀ key : OptionKey, (layer.lookup key.name).bind key.read? = some (key.get config) := by
  rw [ofLayer?_eq_some_iff]
  refine forall_congr' fun key => ?_
  obtain ⟨setting, found⟩ := Option.isSome_iff_exists.1 (set key)
  rw [Layer.optional?, found]
  exact Iff.rfl

/-- Layers whose values read alike give one configuration. -/
theorem ofLayer?_congr (set : ∀ key : OptionKey, (layer.lookup key.name).isSome)
    (also : ∀ key : OptionKey, (other.lookup key.name).isSome)
    (same : ∀ key : OptionKey,
      (layer.lookup key.name).bind key.read? = (other.lookup key.name).bind key.read?) :
    ofLayer? layer = ofLayer? other := by
  refine Option.ext fun config => ?_
  rw [ofLayer?_eq_some_iff_of_set set, ofLayer?_eq_some_iff_of_set also]
  exact forall_congr' fun key => by rw [same key]

/-- All sources of a configuration as one layer. -/
def sources (document : Layer) (environment : List (String × String)) : Layer :=
  Layer.over (Variable.layer environment) (Layer.over document standard.settings)

theorem load?_eq (valid : documentLayer? document = some layer) :
    load? document environment = ofLayer? (sources layer environment) := by
  cases document with
  | none =>
      cases valid
      rfl
  | some text =>
      have read : Toml.layer? text = some layer := valid
      simp only [load?, read, Option.bind_eq_bind, Option.bind_some]
      rfl

/-- The sources together hold the value that counts. -/
theorem lookup_sources (undotted : Undotted environment) (key : OptionKey) :
    (sources layer environment).lookup key.name = effective? layer environment key.name := by
  have nonempty : key.name ≠ "" := by cases key <;> decide
  rw [sources, Layer.lookup_over, Layer.lookup_over, Variable.lookup_layer undotted nonempty,
    effective?]

/-- Some value counts for every option, since the standard settings hold each of them. -/
theorem isSome_lookup_sources (layer : Layer) (environment : List (String × String))
    (key : OptionKey) : ((sources layer environment).lookup key.name).isSome := by
  obtain ⟨setting, found, _⟩ := standard_settings key
  rw [sources, Layer.lookup_over, Layer.lookup_over, found, Option.isSome_or, Option.isSome_or,
    Option.isSome_some, Bool.or_true, Bool.or_true]

/-- A configuration is loaded exactly if the value that counts for each option reads as what the
configuration has for it. -/
theorem load?_eq_some_iff (valid : documentLayer? document = some layer)
    (undotted : Undotted environment) :
    load? document environment = some config ↔ ∀ key : OptionKey,
      (effective? layer environment key.name).bind key.read? = some (key.get config) := by
  rw [load?_eq valid, ofLayer?_eq_some_iff_of_set (isSome_lookup_sources layer environment)]
  exact forall_congr' fun key => by rw [lookup_sources undotted]

/-- An option that no source sets has its standard value. -/
theorem get_of_unset (valid : documentLayer? document = some layer)
    (undotted : Undotted environment) (loaded : load? document environment = some config)
    (key : OptionKey) (unset : Variable.effective? environment key.name = none)
    (unwritten : layer.lookup key.name = none) : key.get config = key.get standard := by
  obtain ⟨setting, found, read⟩ := standard_settings key
  have counts := (load?_eq_some_iff valid undotted).1 loaded key
  rw [effective?, unset, unwritten, found] at counts
  exact Option.some.inj (counts.symm.trans read)

/-- However tables under one key are put together, the same configuration is loaded. -/
theorem load?_eq_fused (valid : documentLayer? document = some layer)
    (fuse : Layer → Layer → Layer) :
    load? document environment = ofLayer? (Layer.fused fuse (Variable.layer environment)
      (Layer.fused fuse layer standard.settings)) := by
  rw [load?_eq valid]
  refine ofLayer?_congr (isSome_lookup_sources layer environment) (fun key => ?_) fun key =>
    (key.bind_lookup_fused (key.bind_lookup_fused rfl)).symm
  obtain ⟨setting, found, _⟩ := standard_settings key
  exact Layer.isSome_lookup_fused (Layer.isSome_lookup_fused (by rw [found]; rfl))

/-- Inputs with the same value for every option load alike. -/
theorem load?_congr {document' : Option String} {environment' : List (String × String)}
    (valid : documentLayer? document = some layer) (undotted : Undotted environment)
    (valid' : documentLayer? document' = some other) (undotted' : Undotted environment')
    (same : ∀ key : OptionKey,
      effective? layer environment key.name = effective? other environment' key.name) :
    load? document environment = load? document' environment' := by
  refine Option.ext fun config => ?_
  rw [load?_eq_some_iff valid undotted, load?_eq_some_iff valid' undotted']
  exact forall_congr' fun key => by rw [same key]

/-- A configuration is put together option by option. It is loaded exactly if the value that counts
for each option, that of the last variable that sets it, else that of the document, else the
standard one, reads as what the configuration has for it; an option that is set nowhere has its
standard value. Whether tables under one key hide each other or are put together in some way makes no
difference, and neither does anything else in the sources: two inputs with the same value that counts
for each option both fail to load, or load the same configuration. -/
theorem load_by_key (valid : documentLayer? document = some layer)
    (undotted : Undotted environment) :
    (∀ config, load? document environment = some config ↔ ∀ key : OptionKey,
      (effective? layer environment key.name).bind key.read? = some (key.get config)) ∧
    (∀ config, load? document environment = some config → ∀ key : OptionKey,
      Variable.effective? environment key.name = none → layer.lookup key.name = none →
        key.get config = key.get standard) ∧
    (∀ fuse, load? document environment = ofLayer? (Layer.fused fuse (Variable.layer environment)
      (Layer.fused fuse layer standard.settings))) ∧
    ∀ document' layer' environment', documentLayer? document' = some layer' →
      Undotted environment' →
      (∀ key : OptionKey,
        effective? layer environment key.name = effective? layer' environment' key.name) →
      load? document environment = load? document' environment' :=
  ⟨fun _ => load?_eq_some_iff valid undotted,
    fun _ loaded key => get_of_unset valid undotted loaded key,
    load?_eq_fused valid,
    fun _ _ _ valid' undotted' => load?_congr valid undotted valid' undotted'⟩

/-- A document that holds a note, a text for the probe interval, and that unknown channels are
refused. -/
def hiddenDocument : String :=
  "note = [1]\nprobe_interval_ms = 'soon'\nreject_unknown_channels = true\n"

/-- A variable for the probe interval. -/
def halfSecond : String × String := ("RELAY_PROBE_INTERVAL_MS", "500")

/-- A variable by which unknown channels are refused. -/
def refusal : String × String := ("Relay_Reject_Unknown_Channels", "true")

/-- The variable hides the text of the document, while what the document says about unknown channels
counts as if a variable said it. Neither the note of the document nor a variable for no option makes a
difference: the probe interval is that of the variable, unknown channels are refused, and the rest is
standard. -/
theorem load_by_key_of_hiddenDocument :
    load? (some hiddenDocument) [halfSecond] =
        load? none [refusal, halfSecond, ("Relay_Colour", "red")] ∧
      load? (some hiddenDocument) [halfSecond] =
        some { standard with probeInterval := Span.ofMillis 500, rejectUnknown := true } := by
  -- The document is parsed once, and what it says of the options is looked up.
  have parsed : (documentLayer? (some hiddenDocument)).any (fun layer =>
      (∀ key ∈ [OptionKey.topics, .idleTimeout, .queueCapacity, .overflow],
        (layer.lookup key.name).isNone) ∧
      (layer.lookup OptionKey.rejectUnknown.name).bind Setting.toBool? = some true) = true := by
    decide +kernel
  obtain ⟨layer, valid, stated⟩ := (Option.any_eq_true _ _).1 parsed
  obtain ⟨unwritten, refuses⟩ := of_decide_eq_true stated
  have unset (key : OptionKey)
      (among : key ∈ [OptionKey.topics, .idleTimeout, .queueCapacity, .overflow]) :
      layer.lookup key.name = none := Option.isNone_iff_eq_none.1 (unwritten key among)
  have written : layer.lookup OptionKey.rejectUnknown.name = some (Variable.value refusal.2) := by
    have read : (Variable.value refusal.2).toBool? = some true := by decide +kernel
    obtain ⟨setting, found, refused⟩ := Option.bind_eq_some_iff.1 refuses
    rw [found, Setting.eq_boolean_of_toBool? refused, Setting.eq_boolean_of_toBool? read]
  have half : ∀ key : OptionKey, Variable.key? halfSecond.1 = some key.name.toList ↔
      key = .probeInterval := by
    intro key
    cases key <;> decide +kernel
  have refusing : ∀ key : OptionKey, Variable.key? refusal.1 = some key.name.toList ↔
      key = .rejectUnknown := by
    intro key
    cases key <;> decide +kernel
  have unknown : ∀ key : OptionKey, Variable.key? "Relay_Colour" ≠ some key.name.toList := by
    intro key
    cases key <;> decide +kernel
  have undotted : Undotted [halfSecond] := by decide +kernel
  have undotted' : Undotted [refusal, halfSecond, ("Relay_Colour", "red")] := by decide +kernel
  obtain ⟨_, _, _, alike⟩ := load_by_key valid undotted
  have counts (key : OptionKey) : effective? layer [halfSecond] key.name =
      effective? [] [refusal, halfSecond, ("Relay_Colour", "red")] key.name := by
    cases key with
    | probeInterval => simp [effective?, Variable.effective?, half, unknown]
    | rejectUnknown => simp [effective?, Variable.effective?, half, refusing, unknown, written]
    | _ => simp [effective?, Variable.effective?, half, refusing, unknown, unset]
  exact ⟨alike none [] _ rfl undotted' counts, by decide +kernel⟩

end RelayConfig

end LiveRelay
