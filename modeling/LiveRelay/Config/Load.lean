/-
Module: LiveRelay.Config.Load
Purpose: A configuration as settings, and back: writing every option under its key, reading the
  keys back with their exact types, and loading from a document and environment variables.
Main exports: RelayConfig.settings, RelayConfig.ofLayer?, RelayConfig.load?
-/
import LiveRelay.Config
import LiveRelay.Net.Address.Reader
import LiveRelay.Net.Address.Writer
import LiveRelay.Settings.Variable
import LiveRelay.Toml.Document

namespace LiveRelay

open Net

namespace OverflowPolicy

/-- The word for a policy in settings. -/
def name : OverflowPolicy → String
  | dropNewest => "drop-newest"
  | disconnect => "disconnect"

/-- The policy that a word names. A number names none: it is assumed of the reader of the sources that
it takes a number for the place of a policy only where it is kept in 32 bits or fewer, and the numbers
of documents and variables are kept in 64. -/
def ofName? : String → Option OverflowPolicy
  | "drop-newest" => some dropNewest
  | "disconnect" => some disconnect
  | _ => none

end OverflowPolicy

namespace Setting

/-- A truth value. -/
def toBool? : Setting → Option Bool
  | boolean value => some value
  | _ => none

/-- A text. -/
def toText? : Setting → Option String
  | text value => some value
  | _ => none

/-- A whole number that fits into 64 bits without a sign. -/
def toUInt64? : Setting → Option UInt64
  | integer value =>
    if 0 ≤ value ∧ value.toNat < UInt64.size then some (UInt64.ofNat value.toNat) else none
  | _ => none

/-- An array whose items all read alike. -/
def toList? {α : Type} (read : Setting → Option α) : Setting → Option (List α)
  | list items => items.mapM read
  | _ => none

/-- A socket address in its textual form. -/
def toAddress? (setting : Setting) : Option SocketAddress :=
  setting.toText?.bind SocketAddress.ofString?

end Setting

/-- Read the value of a key that must be set. -/
def Layer.required? {α : Type} (layer : Layer) (key : String) (read : Setting → Option α) :
    Option α :=
  (layer.lookup key).bind read

/-- Read the value of a key that has a default. A value that does not read is no default. -/
def Layer.optional? {α : Type} (layer : Layer) (key : String) (default : α)
    (read : Setting → Option α) : Option α :=
  match layer.lookup key with
  | none => some default
  | some setting => read setting

/-- The fields of a record given as an array, in the order of their keys. Fields at the end may be
missing, and items behind the last field are ignored. -/
def Layer.ofItems (keys : List String) (items : List Setting) : Layer := keys.zip items

/-- A record: a table of its fields, or an array of them in the order of their keys. -/
def Setting.toRecord? (keys : List String) : Setting → Option Layer
  | .table entries => some entries
  | .list items => some (Layer.ofItems keys items)
  | _ => none

namespace IngestRoute

def keys : List String := ["addr", "prefix"]

def setting (route : IngestRoute) : Setting :=
  .table [("addr", .text route.address.toText), ("prefix", .text route.base)]

/-- Read a route. Its base is kept as it stands. -/
def ofSetting? (setting : Setting) : Option IngestRoute := do
  let fields ← setting.toRecord? keys
  let address ← fields.required? "addr" Setting.toAddress?
  let base ← fields.optional? "prefix" "" Setting.toText?
  some ⟨address, base⟩

end IngestRoute

namespace TopicConfig

def keys : List String := ["name", "subscribe_addr", "channels", "ingest"]

def setting (topic : TopicConfig) : Setting :=
  .table
    [("name", .text topic.name),
     ("subscribe_addr", .text topic.subscribe.toText),
     ("channels", .list (topic.channels.channels.map .text)),
     ("ingest", .list (topic.ingest.map IngestRoute.setting))]

/-- Read a topic. The standard channels and no routes are the defaults. -/
def ofSetting? (setting : Setting) : Option TopicConfig := do
  let fields ← setting.toRecord? keys
  let name ← fields.required? "name" Setting.toText?
  let subscribe ← fields.required? "subscribe_addr" Setting.toAddress?
  let channels ← fields.optional? "channels" ChannelSet.standard fun setting =>
    (setting.toList? Setting.toText?).map ChannelSet.ofList
  let ingest ← fields.optional? "ingest" [] (Setting.toList? IngestRoute.ofSetting?)
  some ⟨name, subscribe, channels, ingest⟩

end TopicConfig

/-- The whole milliseconds of a span, as a setting. -/
def Span.setting (span : Span) : Setting := .integer (UInt64.ofNat span.millis).toNat

/-- Read a span given in milliseconds. -/
def Span.ofSetting? (setting : Setting) : Option Span :=
  setting.toUInt64?.map fun milliseconds => Span.ofMillis milliseconds.toNat

namespace RelayConfig

/-- Every option under its key. -/
def settings (config : RelayConfig) : Layer :=
  [("topics", .list (config.topics.map TopicConfig.setting)),
   ("probe_interval_ms", Span.setting config.probeInterval),
   ("ingest_idle_timeout_ms", Span.setting config.idleTimeout),
   ("subscriber_queue_capacity", .integer config.queueCapacity.toNat),
   ("overflow_policy", .text config.overflow.name),
   ("reject_unknown_channels", .boolean config.rejectUnknown)]

/-- Read a configuration. A key that is not set has its value from the standard layout, and keys
that are no option are ignored. -/
def ofLayer? (layer : Layer) : Option RelayConfig := do
  let topics ← layer.optional? "topics" standard.topics (Setting.toList? TopicConfig.ofSetting?)
  let probeInterval ← layer.optional? "probe_interval_ms" standard.probeInterval Span.ofSetting?
  let idleTimeout ← layer.optional? "ingest_idle_timeout_ms" standard.idleTimeout Span.ofSetting?
  let queueCapacity ←
    layer.optional? "subscriber_queue_capacity" standard.queueCapacity Setting.toUInt64?
  let overflow ← layer.optional? "overflow_policy" standard.overflow fun setting =>
    setting.toText?.bind OverflowPolicy.ofName?
  let rejectUnknown ←
    layer.optional? "reject_unknown_channels" standard.rejectUnknown Setting.toBool?
  some ⟨topics, probeInterval, idleTimeout, queueCapacity, overflow, rejectUnknown⟩

/-- Load a configuration: the standard layout, over it a document, over that environment
variables. Loading fails when the document is not TOML, or when the uppermost value of an option
does not have the option's type. -/
def load? (document : Option String) (environment : List (String × String)) : Option RelayConfig := do
  let fromDocument ←
    match document with
    | none => some []
    | some text => Toml.layer? text
  ofLayer? (Layer.over (Variable.layer environment) (Layer.over fromDocument standard.settings))

end RelayConfig

end LiveRelay
