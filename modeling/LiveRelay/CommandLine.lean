/-
Module: LiveRelay.CommandLine
Purpose: The command line: reading its arguments, and bringing a relay up as they ask for it.
Main exports: Options, CommandLine.read, Options.configure, Outcome, CommandLine.execute,
  Outcome.exitCode
-/
import LiveRelay.Config.Load
import LiveRelay.Listeners
import LiveRelay.Text.Utf8

namespace LiveRelay

open Text Net

/-- What the arguments ask for. -/
structure Options where
  config : Option String
  host : Option IpAddress
  probeMillis : Option UInt64
  disconnectSlow : Bool
  rejectUnknown : Bool
deriving Repr, DecidableEq

/-- Why no relay is brought up: the arguments are wrong, or they ask for something else. -/
inductive Detour where
  | misuse
  | help
  | version
deriving Repr, DecidableEq

namespace CommandLine

/-- The options that take a value. -/
inductive Valued where
  | config
  | host
  | probeMillis
deriving Repr, DecidableEq

/-- The options that take none. -/
inductive Flag where
  | disconnectSlow
  | rejectUnknown
  | help
  | version
deriving Repr, DecidableEq

/-- The options by their long names. -/
def byLongName : String → Option (Valued ⊕ Flag)
  | "config" => some (.inl .config)
  | "host" => some (.inl .host)
  | "probe-interval-ms" => some (.inl .probeMillis)
  | "disconnect-slow" => some (.inr .disconnectSlow)
  | "reject-unknown-channels" => some (.inr .rejectUnknown)
  | "help" => some (.inr .help)
  | "version" => some (.inr .version)
  | _ => none

/-- Read a number of milliseconds: decimal digits, perhaps behind a plus sign, of 64 bits. -/
def readMillis? (text : String) : Option UInt64 :=
  let digits :=
    match text.toList with
    | '+' :: digits => digits
    | digits => digits
  match readNatural? digits with
  | some n => if n < UInt64.size then some (UInt64.ofNat n) else none
  | none => none

/-- A value is accepted if it is a first one. -/
def ifFirst {α : Type} (given : Option α) (value : α) : Except Detour α :=
  if given.isSome then .error .misuse else .ok value

/-- Give a value to an option. A path is not empty; no option is given twice. -/
def give (options : Options) (value : String) : Valued → Except Detour Options
  | .config =>
    if value = "" then .error .misuse
    else (ifFirst options.config value).map fun path => { options with config := some path }
  | .host =>
    match IpAddress.ofString? value with
    | none => .error .misuse
    | some ip => (ifFirst options.host ip).map fun ip => { options with host := some ip }
  | .probeMillis =>
    match readMillis? value with
    | none => .error .misuse
    | some n => (ifFirst options.probeMillis n).map fun n => { options with probeMillis := some n }

/-- Set an option that takes no value. -/
def set (options : Options) : Flag → Except Detour Options
  | .disconnectSlow =>
    if options.disconnectSlow then .error .misuse
    else .ok { options with disconnectSlow := true }
  | .rejectUnknown =>
    if options.rejectUnknown then .error .misuse else .ok { options with rejectUnknown := true }
  | .help => .error .help
  | .version => .error .version

/-- What an argument looks like: the mark behind which no option stands, an option by its long
name, perhaps with a value, options by their letters, or a plain word. -/
inductive Shape where
  | mark
  | long (name : String) (value : Option String)
  | letters (letters : List Char)
  | word (text : String)
deriving Repr, DecidableEq

/-- The shape of an argument. A single dash is a word. -/
def shape (argument : String) : Shape :=
  match argument.toList with
  | ['-', '-'] => .mark
  | '-' :: '-' :: rest =>
    match cutFirst '=' rest with
    | some (name, value) => .long (String.ofList name) (some (String.ofList value))
    | none => .long (String.ofList rest) none
  | '-' :: c :: rest => .letters (c :: rest)
  | _ => .word argument

/-- What an argument does where an option may stand: it changes the options, or it names one whose
value is the next argument. -/
def take (options : Options) : Shape → Except Detour (Options × Option Valued)
  | .long name value =>
    match byLongName name, value with
    | some (.inl valued), some value => (give options value valued).map fun options => (options, none)
    | some (.inl valued), none => .ok (options, some valued)
    | some (.inr flag), none => (set options flag).map fun options => (options, none)
    | some (.inr _), some _ => .error .misuse
    | none, _ => .error .misuse
  | .letters ('c' :: []) => .ok (options, some .config)
  | .letters ('c' :: '=' :: value) =>
    (give options (String.ofList value) .config).map fun options => (options, none)
  | .letters ('c' :: value) =>
    (give options (String.ofList value) .config).map fun options => (options, none)
  | .letters ('h' :: _) => .error .help
  | .letters ('V' :: _) => .error .version
  | .letters _ | .word _ | .mark => .error .misuse

/-- Read arguments from left to right; the first that is wrong, or that asks for help or the
version, decides. An option that waits for a value gets the next argument, which is a plain word.
No argument may follow the mark behind which no option stands. -/
def readFrom (options : Options) (waiting : Option Valued) : List String → Except Detour Options
  | [] => if waiting.isSome then .error .misuse else .ok options
  | argument :: others =>
    match waiting, shape argument with
    | some valued, .word value =>
      match give options value valued with
      | .error detour => .error detour
      | .ok options => readFrom options none others
    | some _, _ => .error .misuse
    | none, .mark => if others = [] then .ok options else .error .misuse
    | none, shape =>
      match take options shape with
      | .error detour => .error detour
      | .ok (options, waiting) => readFrom options waiting others

/-- Read the arguments. Where they name no configuration file, the variable `RELAY_CONFIG` may. -/
def read (arguments : List String) (environment : List (String × String)) :
    Except Detour Options :=
  match readFrom ⟨none, none, none, false, false⟩ none arguments with
  | .error detour => .error detour
  | .ok options =>
    match options.config, environment.lookup "RELAY_CONFIG" with
    | none, some path => give options path .config
    | _, _ => .ok options

end CommandLine

/-- Change a configuration as the options ask. -/
def Options.configure (options : Options) (config : RelayConfig) : RelayConfig :=
  let config := options.host.elim config config.bindHost
  let config := options.probeMillis.elim config fun n =>
    { config with probeInterval := Span.ofMillis n.toNat }
  let config := if options.disconnectSlow then { config with overflow := .disconnect } else config
  if options.rejectUnknown then { config with rejectUnknown := true } else config

/-- What becomes of a call: no relay is asked for, the configuration cannot be loaded, the relay
cannot be bound, or it serves. -/
inductive Outcome where
  | detour (detour : Detour)
  | unreadable
  | unbound (fault : BindError)
  | serving (config : RelayConfig) (listeners : List Listener)

/-- The number that the program ends with. A relay serves until it is told to stop. -/
def Outcome.exitCode : Outcome → UInt32
  | .detour .misuse => 2
  | .detour _ => 0
  | .unreadable => 1
  | .unbound (.unservable _) => 101
  | .unbound _ => 1
  | .serving _ _ => 0

namespace CommandLine

/-- The name and the version of the program. -/
def versionText : String := "stream-relay 0.1.0"

/-- Load the configuration from the bytes of a file. A file that is not there counts as empty. -/
def load? (file : Option (List UInt8)) (environment : List (String × String)) :
    Option RelayConfig :=
  match file with
  | none => RelayConfig.load? none environment
  | some bytes => (textOfUtf8? bytes).bind fun text => RelayConfig.load? (some text) environment

/-- Bring a relay up on a host where files have these contents. -/
def execute (host : Host) (arguments : List String) (environment : List (String × String))
    (contentsOf : String → Option (List UInt8)) : Outcome :=
  match read arguments environment with
  | .error detour => .detour detour
  | .ok options =>
    match load? (options.config.bind contentsOf) environment with
    | none => .unreadable
    | some config =>
      let config := options.configure config
      match config.bind host with
      | .error fault => .unbound fault
      | .ok listeners => .serving config listeners

example : read ["-c=a", "--host", "1.2.3.4"] [] =
    .ok ⟨some "a", some (.v4 1 2 3 4), none, false, false⟩ := by cbv
example : read ["--config", "--help"] [] = .error .misuse := by cbv
example : read ["-", "-h"] [] = .error .misuse := by cbv

end CommandLine

end LiveRelay
