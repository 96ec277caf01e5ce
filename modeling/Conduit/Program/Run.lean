import Conduit.Fetch.Basic
import Conduit.LogFilter.Basic
import Conduit.Program.Settings
set_option autoImplicit false

namespace Conduit.Program

open Fetch (FetchError Report)
open Net (Resolver)

/-- How the records of a fetch are written. None of them is as much as a warning. -/
structure Journal (σ : Type) where
  write : LogFilter → Report σ BoundedSink → String
  write_of_isGrave (filter : LogFilter) (report : Report σ BoundedSink) :
    filter.isGrave → write filter report = ""

def Journal.silent {σ : Type} : Journal σ := ⟨fun _ _ => "", fun _ _ _ => rfl⟩

/-- What the program finds around it. Asked for a number of threads, or for as many as it sees fit, the
machine may be unable to start them. -/
structure Surroundings (σ : Type) where
  environment : Environment
  files : FileReader
  resolver : Resolver
  network : Network σ
  threads : Option Nat → Bool := fun _ => true
  journal : Journal σ := .silent

/-- How a run ends and what it leaves; without an exit code it never ends. The complaint is the program's own
message alone. The log writes to the standard error too: its records are not modelled one by one, but stand
as the text that the journal makes of the fetch. -/
structure Run (σ : Type) where
  exitCode : Option Nat
  output : Bytes
  records : String
  complaint : String
  fetched : Option (Report σ BoundedSink)

def Run.errorOutput {σ : Type} (run : Run σ) : String := run.records ++ run.complaint

def chain (texts : List String) : String := "webget: " ++ ": ".intercalate texts ++ "\n"

def ConfigFailure.headline (failure : ConfigFailure) : String :=
  s!"TOML parse error at line {failure.place.line}, column {failure.place.column}"

def ConfigFailure.detail : ConfigFailure → String
  | .malformed _ => "invalid document"
  | .unfit reason _ => reason.message

def SettingsError.chain : SettingsError → List String
  | unreadable path cause => [(unreadable path cause).message, cause.message]
  | invalid path cause =>
      [ (invalid path cause).message,
        "failed to parse channel config: " ++ ConfigFailure.headline cause ++ "\n" ++
          ConfigFailure.detail cause ]

def FetchError.chain (error : FetchError) : List String :=
  error.message :: (error.source?.map Fault.message).toList

def fetchContext (line : CommandLine) : String :=
  s!"failed to fetch {line.host}{line.path} ({line.service})"

def usage : String :=
  "Usage: webget [OPTIONS] <HOST> <PATH>\n\n" ++
    String.join (Flag.all.map fun flag => "      --" ++ flag.name ++ " <VALUE> [env: " ++
      flag.variableName ++ "]\n") ++
    "  -h, --help\n  -V, --version\n"

def Refusal.explanation : Refusal → String
  | .missingArgument => "a required argument was not given"
  | .unknownArgument => "an argument is not known"
  | .missingValue => "a value is missing"
  | .invalidNumber => "a value is not a number"
  | .repeated => "an option is given twice"
  | .unwantedValue => "a value is given where none is taken"
  | .help | .version => ""

def Refusal.texts (refusal : Refusal) : String × String :=
  match refusal with
  | .help => (usage, "")
  | .version => (Refusal.versionText, "")
  | other => ("", "error: " ++ Refusal.explanation other ++ "\n\n" ++ usage)

variable {σ : Type}

def refused (refusal : Refusal) : Run σ :=
  { exitCode := some refusal.exitCode
    output := (Refusal.texts refusal).1.toUTF8.toList
    records := ""
    complaint := (Refusal.texts refusal).2
    fetched := none }

def failedSettings (error : SettingsError) : Run σ :=
  { exitCode := some 1
    output := []
    records := ""
    complaint := chain (SettingsError.chain error)
    fetched := none }

def crashCode : Nat := 101

def crashText (message : String) : String := "\n" ++ message ++ "\n"

def brokenOff (message : String) : Run σ :=
  { exitCode := some crashCode
    output := []
    records := ""
    complaint := crashText message
    fetched := none }

def reported (line : CommandLine) (records : String) (report : Report σ BoundedSink) : Run σ :=
  let (exitCode, complaint) :=
    match report.outcome with
    | .done _ => (some 0, "")
    | .failed error => (some 1, chain (fetchContext line :: FetchError.chain error))
    | .crashed message => (some crashCode, crashText message)
    | .stalled => (none, "")
  { exitCode, records, complaint, output := report.sink.taken, fetched := some report }

namespace Surroundings

variable (surroundings : Surroundings σ)

def workersVariable : String := "TOKIO_WORKER_THREADS"

def workers : Except String (Option Nat) :=
  match surroundings.environment workersVariable with
  | none => .ok none
  | some text =>
      match Text.unsigned? UInt64.size text with
      | none => .error s!"\"{workersVariable}\" must be usize, value: {text}"
      | some 0 => .error s!"\"{workersVariable}\" cannot be set to 0"
      | some count => .ok (some count)

def startWorkers : Except String Unit := do
  if surroundings.threads (← surroundings.workers) then .ok ()
  else .error "the worker threads cannot be started"

/-- A fetch has nothing to record until its host is found. -/
def records (filter : LogFilter) (line : CommandLine) (report : Report σ BoundedSink) : String :=
  match (Net.resolve surroundings.resolver line.host line.service).outcome with
  | .ok _ => surroundings.journal.write filter report
  | .error _ => ""

end Surroundings

def staffedRun [Link σ] (surroundings : Surroundings σ) (words : List String) : Run σ :=
  match CommandLine.parse words surroundings.environment with
  | .error refusal => refused refusal
  | .ok line =>
    match LogFilter.ofVariable (surroundings.environment LogFilter.variableName) with
    | none => brokenOff "a log directive would be cut inside a character"
    | some filter =>
      match line.channelConfig surroundings.files with
      | .error error => failedSettings error
      | .ok config =>
          let report := Fetch.fetch surroundings.resolver surroundings.network config
            ⟨line.host, line.path, line.service⟩ BoundedSink.unbounded
          reported line (surroundings.records filter line report) report

def run [Link σ] (surroundings : Surroundings σ) (words : List String) : Run σ :=
  match surroundings.startWorkers with
  | .error reason => brokenOff reason
  | .ok () => staffedRun surroundings words

end Conduit.Program
