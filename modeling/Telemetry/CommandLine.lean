import Telemetry.CommandLine.Words
import Telemetry.Gateway
import Telemetry.Gateway.Example
import Telemetry.Toml

/-!
# The command line

Three commands: run a gateway, check a configuration file, and print a sample of one. What a
command does depends on the words given, on the files, and on the environment; both are functions
here, so everything but the waiting and the printing is decided without them.

## Main definitions

* `Command`, `CommandLine.parse`: what is asked for.
* `CommandLine.Outcome`, `CommandLine.execute`: what comes of it.
-/

namespace Telemetry

inductive Command
  /-- For a number of seconds, or until it is interrupted. -/
  | run (path : String) (seconds : Option UInt64)
  | validate (path : String)
  | exampleConfig
  deriving DecidableEq

namespace CommandLine

/-- The version of the library. -/
def release : String := "0.1.0"

def versionText : String := "fieldflow " ++ release ++ "\n"

def helpText : String :=
  String.join (
    ["fieldflow - IoT gateway dataflow with simulated devices",
      "",
      "Usage: fieldflow [OPTIONS] <COMMAND>",
      "",
      "Commands:",
      "  run             Run the gateway until Ctrl-C or the given duration elapses",
      "  validate        Parse and validate a config file",
      "  example-config  Print a sample config file",
      "  help            Print this message or the help of the given subcommand(s)",
      "",
      "Options:",
      "  -v, --verbose  Verbose output",
      "  -h, --help     Print help",
      "  -V, --version  Print version"].map (· ++ "\n"))

/-! ## What is asked for -/

def verbose : Switch := ⟨"verbose", some 'v', .flag⟩

def help : Switch := ⟨"help", some 'h', .interrupt .help⟩

def version : Switch := ⟨"version", some 'V', .interrupt .version⟩

/-- The path of a file. -/
def config : Switch := ⟨"config", some 'c', .value fun s => !s.isEmpty⟩

def isNumber (s : String) : Bool :=
  match readCapacity s with
  | .ok _ => true
  | .error _ => false

def durationSecs : Switch := ⟨"duration-secs", none, .value isNumber⟩

def commandWords : List String :=
  ["run", "validate", "example-config", "help"]

/-- The switches of one command. Nothing else may follow it. -/
def readAll (switches : List Switch) (words : List String) : Except Interrupt Given := do
  let (given, _) ← read (verbose :: help :: switches) [] words
  return given

def required (given : Given) (s : Switch) : Except Interrupt String :=
  match List.lookup s.name given with
  | some value => .ok value
  | none => .error .misuse

def seconds? (given : Given) : Option UInt64 :=
  (List.lookup durationSecs.name given).bind fun text =>
    match readCapacity text with
    | .ok n => some n
    | .error _ => none

/-- The command that some words ask for. -/
def parse (words : List String) : Except Interrupt Command := do
  let (_, rest) ← read [verbose, help, version] commandWords words
  match rest with
  | "run" :: rest =>
    let given ← readAll [config, durationSecs] rest
    return .run (← required given config) (seconds? given)
  | "validate" :: rest =>
    let given ← readAll [config] rest
    return .validate (← required given config)
  | "example-config" :: rest =>
    let _ ← readAll [] rest
    return .exampleConfig
  | ["help"] => .error .help
  | ["help", topic] => .error (if commandWords.contains topic then .help else .misuse)
  | _ => .error .misuse

/-! ## What comes of it -/

inductive Failure
  | unreadable (path : String)
  | unfit (path : String)
  | setting (cause : Error)
  | config (fault : ConfigFault)
  deriving DecidableEq

namespace Failure

def message : Failure → String
  | unreadable path => "Failed to read config file " ++ path
  | unfit path => "Invalid config file " ++ path
  | setting cause => cause.message
  | config fault => fault.message

end Failure

/-- Files and settings from outside. -/
structure Surroundings where
  /-- The text of the file at a path. -/
  file? : String → Option String
  setting? : String → Option String

def load (s : Surroundings) (path : String) : Except Failure GatewayConfig := do
  let some text := s.file? path | .error (.unreadable path)
  let some c := (Toml.read? text).bind (GatewayConfig.ofDocument? .toml) | .error (.unfit path)
  (c.override s.setting?).mapError .setting

def lines (l : List String) : String :=
  String.join (l.map (· ++ "\n"))

def deviceLine (d : DeviceConfig) : String :=
  s!"    {d.name} ({d.kind.title}, every {d.pollInterval.toNat}ms)"

def consumerLine (c : ConsumerConfig) : String :=
  let devices := if c.devices.isEmpty then "all devices" else ", ".intercalate c.devices
  s!"    {c.name} <- {devices}"

/-- What is told about a configuration that is well-formed. -/
def summary (path : String) (c : GatewayConfig) : String :=
  lines (
    [s!"Configuration OK: {path}",
      s!"  state store: {c.state.name} (overflow={c.state.overflow.name})",
      s!"  command store: {c.commands.name} (overflow={c.commands.overflow.name})",
      s!"  devices: {c.devices.length}"] ++ c.devices.map deviceLine ++
    [s!"  consumers: {c.consumers.length}"] ++ c.consumers.map consumerLine)

def statsLine (name : String) (s : Stats) : String :=
  let counts := [("received", s.received), ("applied", s.applied), ("suppressed", s.suppressed),
    ("dropped", s.dropped), ("keys", s.keys), ("subscriptions", s.subscriptions)]
  name ++ ":" ++ String.join (counts.map fun e => s!" {e.1}={e.2}")

def reportText (r : Gateway.Report) : String :=
  lines (
    [statsLine "state" r.state, statsLine "commands" r.commands] ++
    r.forwarded.map fun e => s!"consumer {e.1}: forwarded={e.2}")

inductive Outcome
  /-- All went well, and this is printed. -/
  | printed (text : String)
  | failed (message : String)
  /-- The words are no command. -/
  | misused
  /-- A queue that was asked for is too large. -/
  | broken
  /-- A gateway runs for a number of seconds, or until it is interrupted. -/
  | running (g : Gateway.Running) (seconds : Option UInt64)

namespace Outcome

def ofFailure : Gateway.Failure → Outcome
  | .config fault => .failed fault.message
  | .store e => .failed e.message
  | .tooLarge => .broken

def ofReport : Except Gateway.Failure Gateway.Report → Outcome
  | .ok report => .printed (reportText report)
  | .error f => ofFailure f

/-- The end of a gateway after its time. -/
def finish : Outcome → Outcome
  | running g (some seconds) => ofReport (g.stop (seconds.toNat * Device.nanosecondsPerSecond))
  | o => o

/-- How the program ends; zero is for success. -/
def code : Outcome → Nat
  | failed _ => 1
  | misused => 2
  | broken => 101
  | _ => 0

end Outcome

def perform (s : Surroundings) (c : Command) : Outcome :=
  match c with
  | .exampleConfig => .printed Gateway.exampleText
  | .validate path =>
    match load s path with
    | .error f => .failed f.message
    | .ok c =>
      match c.validate with
      | .error fault => .failed fault.message
      | .ok _ => .printed (summary path c)
  | .run path seconds =>
    match load s path with
    | .error f => .failed f.message
    | .ok c =>
      match Gateway.startConfig c with
      | .error f => .ofFailure f
      | .ok g => .running g seconds

/-- What comes of some words on the command line. -/
def execute (s : Surroundings) (words : List String) : Outcome :=
  match parse words with
  | .ok c => perform s c
  | .error .version => .printed versionText
  | .error .help => .printed helpText
  | .error .misuse => .misused

end CommandLine

end Telemetry
