/-
Module: LiveRelay.Proofs.Config.Written
Purpose: The parts of a configuration written as settings and read back: numbers, sets of channels,
  and all of a route or a topic but the flow information of its addresses stay as they are, and spans
  lose their part of a millisecond.
Main exports: RelayConfig.withoutFlows, RelayConfig.wholeMillis, Span.ofSetting?_setting,
  TopicConfig.ofSetting?_setting
-/
import LiveRelay.Config.Load
import LiveRelay.Proofs.Net.Spelling

namespace LiveRelay

open Net Text

/-! ### Values -/

namespace Setting

theorem toAddress?_text (address : SocketAddress) :
    toAddress? (.text address.toText) = some address.withoutFlow :=
  SocketAddress.ofString?_toText address

theorem toUInt64?_integer (number : UInt64) :
    toUInt64? (.integer number.toNat) = some number := by
  have nonnegative : (0 : Int) ≤ number.toNat := Int.natCast_nonneg _
  have below : (number.toNat : Int).toNat < UInt64.size := number.toNat_lt
  rw [toUInt64?, if_pos ⟨nonnegative, below⟩, Int.toNat_natCast, UInt64.ofNat_toNat]

/-- What is read back of an array is what is read back of each of its items. -/
theorem toList?_list_map {α : Type} {write : α → Setting} {read : Setting → Option α} {kept : α → α}
    (back : ∀ item, read (write item) = some (kept item)) (items : List α) :
    (list (items.map write)).toList? read = some (items.map kept) := by
  have each : read ∘ write = fun item => pure (kept item) := funext back
  rw [toList?, List.mapM_map, each, List.mapM_pure]
  rfl

end Setting

theorem OverflowPolicy.ofName?_name (policy : OverflowPolicy) :
    ofName? policy.name = some policy := by
  cases policy <;> rfl

/-! ### Spans -/

namespace Span

/-- A span without its part of a millisecond. -/
def wholeMillis (span : Span) : Span := ofMillis span.millis

theorem millis_ofMillis (milliseconds : Nat) : (ofMillis milliseconds).millis = milliseconds :=
  Nat.mul_div_cancel _ (by decide)

theorem wholeMillis_ofMillis (milliseconds : Nat) :
    (ofMillis milliseconds).wholeMillis = ofMillis milliseconds :=
  congrArg ofMillis (millis_ofMillis milliseconds)

theorem wholeMillis_le (span : Span) : span.wholeMillis ≤ span := Nat.div_mul_le_self span 1000000

/-- A span is read back in whole milliseconds, if their number fits into 64 bits. -/
theorem ofSetting?_setting {span : Span} (short : span < ofMillis UInt64.size) :
    ofSetting? span.setting = some span.wholeMillis := by
  have fits : span.millis < UInt64.size := Nat.div_lt_of_lt_mul (Nat.mul_comm _ _ ▸ short)
  rw [ofSetting?, setting, Setting.toUInt64?_integer, Option.map_some,
    UInt64.toNat_ofNat_of_lt' fits, wholeMillis]

end Span

/-! ### Addresses without flow information -/

/-- The route with its address as it is read back. -/
def IngestRoute.withoutFlow (route : IngestRoute) : IngestRoute :=
  { route with address := route.address.withoutFlow }

/-- The topic with its addresses as they are read back. -/
def TopicConfig.withoutFlows (topic : TopicConfig) : TopicConfig :=
  { topic with
    subscribe := topic.subscribe.withoutFlow
    ingest := topic.ingest.map IngestRoute.withoutFlow }

/-- The configuration with its addresses as they are read back. -/
def RelayConfig.withoutFlows (config : RelayConfig) : RelayConfig :=
  { config with topics := config.topics.map TopicConfig.withoutFlows }

theorem IngestRoute.withoutFlow_withoutFlow (route : IngestRoute) :
    route.withoutFlow.withoutFlow = route.withoutFlow := by
  rw [withoutFlow, withoutFlow, SocketAddress.withoutFlow_withoutFlow]

theorem TopicConfig.withoutFlows_withoutFlows (topic : TopicConfig) :
    topic.withoutFlows.withoutFlows = topic.withoutFlows := by
  simp only [withoutFlows, SocketAddress.withoutFlow_withoutFlow, List.map_map, Function.comp_def,
    IngestRoute.withoutFlow_withoutFlow]

theorem IngestRoute.withoutFlow_eq {route : IngestRoute} (none : route.address.flow = 0) :
    route.withoutFlow = route := by
  rw [withoutFlow, SocketAddress.withoutFlow_eq_iff.2 none]

theorem TopicConfig.withoutFlows_eq {topic : TopicConfig} (subscribe : topic.subscribe.flow = 0)
    (ingest : ∀ route ∈ topic.ingest, route.address.flow = 0) : topic.withoutFlows = topic := by
  have routes : topic.ingest.map IngestRoute.withoutFlow = topic.ingest.map id :=
    List.map_congr_left fun route member => IngestRoute.withoutFlow_eq (ingest route member)
  rw [withoutFlows, SocketAddress.withoutFlow_eq_iff.2 subscribe, routes, List.map_id]

namespace RelayConfig

variable {config : RelayConfig}

/-- A configuration without flow information stays as it is. -/
theorem withoutFlows_eq (none : ∀ address ∈ config.addresses, address.flow = 0) :
    config.withoutFlows = config := by
  have topics : config.topics.map TopicConfig.withoutFlows = config.topics.map id := by
    apply List.map_congr_left
    intro topic member
    have own {address : SocketAddress}
        (here : address ∈ topic.subscribe :: topic.ingest.map IngestRoute.address) :
        address.flow = 0 :=
      none address (List.mem_flatMap_of_mem member here)
    exact TopicConfig.withoutFlows_eq (own List.mem_cons_self)
      fun route among => own (List.mem_cons_of_mem _ (List.mem_map_of_mem among))
  rw [withoutFlows, topics, List.map_id]

theorem withoutFlows_withoutFlows (config : RelayConfig) :
    config.withoutFlows.withoutFlows = config.withoutFlows := by
  simp only [withoutFlows, List.map_map, Function.comp_def, TopicConfig.withoutFlows_withoutFlows]

end RelayConfig

/-! ### Records -/

namespace Layer

variable {α : Type} {layer : Layer} {key : String} {default value : α}
  {read : Setting → Option α} {setting : Setting}

theorem required?_of_lookup (found : layer.lookup key = some setting)
    (reads : read setting = some value) : layer.required? key read = some value := by
  rw [required?, found]
  exact reads

theorem optional?_of_lookup (found : layer.lookup key = some setting)
    (reads : read setting = some value) : layer.optional? key default read = some value := by
  rw [optional?, found]
  exact reads

end Layer

theorem IngestRoute.ofSetting?_setting (route : IngestRoute) :
    ofSetting? route.setting = some route.withoutFlow := by
  have address := Setting.toAddress?_text route.address
  simp only [ofSetting?, Option.bind_eq_bind, Option.bind_eq_some_iff]
  exact ⟨_, rfl, _, Layer.required?_of_lookup rfl address, _, Layer.optional?_of_lookup rfl rfl,
    rfl⟩

theorem TopicConfig.ofSetting?_setting (topic : TopicConfig) :
    ofSetting? topic.setting = some topic.withoutFlows := by
  have subscribe := Setting.toAddress?_text topic.subscribe
  have channels : ((Setting.list (topic.channels.channels.map .text)).toList? Setting.toText?).map
      ChannelSet.ofList = some topic.channels := by
    have back : ∀ channel, Setting.toText? (.text channel) = some channel := fun _ => rfl
    rw [Setting.toList?_list_map back, List.map_id', Option.map_some, ChannelSet.ofList_channels]
  have ingest := Setting.toList?_list_map IngestRoute.ofSetting?_setting topic.ingest
  simp only [ofSetting?, Option.bind_eq_bind, Option.bind_eq_some_iff]
  exact ⟨_, rfl, _, Layer.required?_of_lookup rfl rfl, _, Layer.required?_of_lookup rfl subscribe,
    _, Layer.optional?_of_lookup rfl channels, _, Layer.optional?_of_lookup rfl ingest, rfl⟩

/-! ### Whole milliseconds -/

namespace RelayConfig

variable {config : RelayConfig}

/-- The configuration with its spans in whole milliseconds. -/
def wholeMillis (config : RelayConfig) : RelayConfig :=
  { config with
    probeInterval := config.probeInterval.wholeMillis
    idleTimeout := config.idleTimeout.wholeMillis }

/-- Where both spans are of whole milliseconds, nothing is cut off. -/
theorem wholeMillis_eq (probe : ∃ n, config.probeInterval = Span.ofMillis n)
    (idle : ∃ n, config.idleTimeout = Span.ofMillis n) : config.wholeMillis = config := by
  obtain ⟨n, probe⟩ := probe
  obtain ⟨m, idle⟩ := idle
  rw [wholeMillis, probe, idle, Span.wholeMillis_ofMillis, Span.wholeMillis_ofMillis, ← probe,
    ← idle]

theorem wholeMillis_wholeMillis (config : RelayConfig) :
    config.wholeMillis.wholeMillis = config.wholeMillis :=
  wholeMillis_eq ⟨_, rfl⟩ ⟨_, rfl⟩

end RelayConfig

end LiveRelay
