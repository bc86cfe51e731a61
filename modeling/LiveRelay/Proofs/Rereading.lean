/-
Module: LiveRelay.Proofs.Rereading
Purpose: A configuration written as settings and read back: everything stays, but for the parts of a
  millisecond in its two spans, and for the flow information of addresses that have some.
Main exports: RelayConfig.ofLayer?_settings, RelayConfig.settings_reread
-/
import LiveRelay.Proofs.Layering

namespace LiveRelay

open Net

/-- Variables that are not the relay's set nothing. -/
theorem Variable.layer_eq_nil {environment : List (String × String)}
    (foreign : ∀ named ∈ environment, key? named.1 = none) : layer environment = [] := by
  refine List.reverse_eq_nil_iff.2 (List.filterMap_eq_nil_iff.2 fun named member => ?_)
  unfold entry?
  rw [foreign named member]
  rfl

namespace RelayConfig

variable {config : RelayConfig}

/-- Every option is read back from what is written under its key. -/
theorem ofLayer?_settings (probe : config.probeInterval < Span.ofMillis UInt64.size)
    (idle : config.idleTimeout < Span.ofMillis UInt64.size) :
    ofLayer? config.settings = some config.withoutFlows.wholeMillis := by
  refine ofLayer?_eq_some_iff.2 fun key => ?_
  obtain ⟨setting, found, reads⟩ := lookup_settings probe idle key
  exact Layer.optional?_of_lookup found reads

/-- What has been read back has nothing to lose any more. -/
theorem withoutFlows_wholeMillis_read (config : RelayConfig) :
    config.withoutFlows.wholeMillis.withoutFlows.wholeMillis = config.withoutFlows.wholeMillis :=
  calc config.withoutFlows.wholeMillis.withoutFlows.wholeMillis
    _ = config.withoutFlows.withoutFlows.wholeMillis.wholeMillis := rfl
    _ = config.withoutFlows.wholeMillis := by
      rw [withoutFlows_withoutFlows, wholeMillis_wholeMillis]

/-- Nothing of the addresses is lost where each is read back from its text. -/
theorem withoutFlows_eq_of_ofString?
    (back : ∀ address ∈ config.addresses, SocketAddress.ofString? address.toText = some address) :
    config.withoutFlows = config :=
  withoutFlows_eq fun address member =>
    SocketAddress.ofString?_toText_eq_iff.1 (back address member)

/-- Without a source over it the standard layout is loaded. -/
theorem load?_of_no_source {environment : List (String × String)}
    (foreign : ∀ named ∈ environment, Variable.key? named.1 = none) :
    load? none environment = some standard := by
  have sources : load? none environment =
      ofLayer? (Layer.over (Variable.layer environment) standard.settings) := rfl
  rw [sources, Variable.layer_eq_nil foreign]
  refine ofLayer?_eq_some_iff.2 fun key => ?_
  obtain ⟨setting, found, reads⟩ := standard_settings key
  exact Layer.optional?_of_lookup found reads

/-- A configuration whose spans are below 2⁶⁴ milliseconds is read back from the settings that it is
written as: always, and with nothing changed but that both spans lose their part of a millisecond
and addresses their flow information. Where every address is read back from its own text, as those
are that have none, nothing but the parts of a millisecond is lost, and what is of whole milliseconds
stays as it is. Writing and reading twice gives what it gives once. Without a document and without a
variable of the relay, the standard layout is loaded. -/
theorem settings_reread (probe : config.probeInterval < Span.ofMillis UInt64.size)
    (idle : config.idleTimeout < Span.ofMillis UInt64.size) :
    ofLayer? config.settings = some config.withoutFlows.wholeMillis ∧
    ((∀ address ∈ config.addresses, SocketAddress.ofString? address.toText = some address) →
      ofLayer? config.settings = some config.wholeMillis ∧
        ((∃ n, config.probeInterval = Span.ofMillis n) →
          (∃ n, config.idleTimeout = Span.ofMillis n) → ofLayer? config.settings = some config)) ∧
    (ofLayer? config.settings).bind (fun read => ofLayer? read.settings) =
      ofLayer? config.settings ∧
    ∀ environment, (∀ named ∈ environment, Variable.key? named.1 = none) →
      load? none environment = some standard := by
  have once : ofLayer? config.settings = some config.withoutFlows.wholeMillis :=
    ofLayer?_settings probe idle
  have again : ofLayer? config.withoutFlows.wholeMillis.settings =
      some config.withoutFlows.wholeMillis.withoutFlows.wholeMillis :=
    ofLayer?_settings (Nat.lt_of_le_of_lt (Span.wholeMillis_le _) probe)
      (Nat.lt_of_le_of_lt (Span.wholeMillis_le _) idle)
  refine ⟨once, fun back => ?_, ?_, fun _ foreign => load?_of_no_source foreign⟩
  · rw [once, withoutFlows_eq_of_ofString? back]
    exact ⟨rfl, fun wholeProbe wholeIdle => congrArg some (wholeMillis_eq wholeProbe wholeIdle)⟩
  · rw [once, Option.bind_some, again, withoutFlows_wholeMillis_read]

/-- Two topics of one name, with a mapped and a scoped address, channels in no order and bases that
keep their slashes. One address has the flow information. -/
def crookedTopics (flow : UInt32) : List TopicConfig :=
  [{ name := ""
     subscribe := .v6 #v[0, 0, 0, 0, 0, 0xffff, 0xc0a8, 0x0001] 0 0 443
     channels := .ofList ["b", "", "10", "é", "b", "9"]
     ingest := [⟨.v6 #v[0xfe80, 0, 0, 1, 0, 0, 0, 1] flow 4294967295 0, "//cam/ "⟩,
       ⟨.v4 10 0 0 255 65535, ""⟩] },
   { name := ""
     subscribe := .v6 #v[1, 0, 0, 0xabcd, 0, 0, 0, 0] 0 7 1
     channels := .empty
     ingest := [] }]

/-- A configuration with the largest capacity and spans that are not whole. -/
def crooked (flow : UInt32) : RelayConfig where
  topics := crookedTopics flow
  probeInterval := 1999999
  idleTimeout := Span.ofMillis UInt64.size - 1
  queueCapacity := 18446744073709551615
  overflow := .disconnect
  rejectUnknown := true

/-- The probe interval of the configuration is cut to one millisecond and its idle timeout to the
longest that can be written, and an address loses its flow information; the rest stays, and what was
read once is read again as it is. -/
theorem settings_reread_of_crooked :
    ((crooked 5).probeInterval < Span.ofMillis UInt64.size ∧
      (crooked 5).idleTimeout < Span.ofMillis UInt64.size) ∧
    ofLayer? (crooked 5).settings = some (crooked 0).wholeMillis ∧
    ofLayer? (crooked 0).settings = some
      { crooked 0 with
        probeInterval := Span.ofMillis 1, idleTimeout := Span.ofMillis 18446744073709551615 } ∧
    ofLayer? (crooked 0).wholeMillis.settings = some (crooked 0).wholeMillis ∧
    (ofLayer? (crooked 5).settings).bind (fun read => ofLayer? read.settings) =
      ofLayer? (crooked 5).settings ∧
    load? none [("PATH", "/bin"), ("RELAYS", "2")] = some standard := by
  have probe (flow : UInt32) : (crooked flow).probeInterval < Span.ofMillis UInt64.size :=
    (by decide : 1999999 < Span.ofMillis UInt64.size)
  have idle (flow : UInt32) : (crooked flow).idleTimeout < Span.ofMillis UInt64.size :=
    Nat.sub_lt (by decide) Nat.one_pos
  have none : ∀ address ∈ (crooked 0).addresses, address.flow = 0 := by decide
  have back : ∀ address ∈ (crooked 0).addresses,
      SocketAddress.ofString? address.toText = some address :=
    fun address member => SocketAddress.ofString?_toText_eq_iff.2 (none address member)
  obtain ⟨flowing, _, twice, loads⟩ := settings_reread (probe 5) (idle 5)
  obtain ⟨_, plain, _⟩ := settings_reread (probe 0) (idle 0)
  have whole : ofLayer? (crooked 0).wholeMillis.settings = some (crooked 0).wholeMillis := by
    have probe : (crooked 0).wholeMillis.probeInterval < Span.ofMillis UInt64.size := by decide
    have idle : (crooked 0).wholeMillis.idleTimeout < Span.ofMillis UInt64.size := by decide
    obtain ⟨_, plain, _⟩ := settings_reread probe idle
    exact (plain back).2 ⟨_, rfl⟩ ⟨_, rfl⟩
  exact ⟨⟨probe 5, idle 5⟩, flowing, (plain back).1, whole, twice, loads _ (by decide +kernel)⟩

end RelayConfig

end LiveRelay
