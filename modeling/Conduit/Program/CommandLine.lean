import Conduit.Text.Digits
set_option autoImplicit false

namespace Conduit.Program

inductive Flag
  | service
  | config
  | connectMillis
  | readMillis
  | recvCapacity
  deriving DecidableEq, Repr

namespace Flag

def all : List Flag := [service, config, connectMillis, readMillis, recvCapacity]

def name : Flag → String
  | service => "service"
  | config => "config"
  | connectMillis => "connect-timeout-ms"
  | readMillis => "read-timeout-ms"
  | recvCapacity => "recv-capacity"

def variableName : Flag → String
  | service => "WEBGET_SERVICE"
  | config => "WEBGET_CONFIG"
  | connectMillis => "WEBGET_CONNECT_TIMEOUT_MS"
  | readMillis => "WEBGET_READ_TIMEOUT_MS"
  | recvCapacity => "WEBGET_RECV_CAPACITY"

def ofName? (name : String) : Option Flag := all.find? (·.name == name)

end Flag

inductive Refusal
  | missingArgument
  | unknownArgument
  | missingValue
  | invalidNumber
  | repeated
  | unwantedValue
  | help
  | version
  deriving DecidableEq, Repr

namespace Refusal

def versionText : String := "webget 0.1.0\n"

def exitCode : Refusal → Nat
  | help | version => 0
  | _ => 2

end Refusal

structure Given where
  service : Option String
  config : Option String
  connectMillis : Option UInt64
  readMillis : Option UInt64
  recvCapacity : Option UInt64
  deriving DecidableEq, Repr

namespace Given

def nothing : Given := ⟨none, none, none, none, none⟩

def has (given : Given) : Flag → Bool
  | .service => given.service.isSome
  | .config => given.config.isSome
  | .connectMillis => given.connectMillis.isSome
  | .readMillis => given.readMillis.isSome
  | .recvCapacity => given.recvCapacity.isSome

def number (text : String) : Except Refusal UInt64 :=
  match Text.unsigned? UInt64.size text with
  | some n => .ok (UInt64.ofNat n)
  | none => .error .invalidNumber

def set (given : Given) (flag : Flag) (value : String) : Except Refusal Given :=
  match flag with
  | .service => .ok { given with service := some value }
  | .config =>
      if value = "" then .error .missingValue else .ok { given with config := some value }
  | .connectMillis => (number value).map fun n => { given with connectMillis := some n }
  | .readMillis => (number value).map fun n => { given with readMillis := some n }
  | .recvCapacity => (number value).map fun n => { given with recvCapacity := some n }

def take (given : Given) (flag : Flag) (value : Option String) : Except Refusal Given :=
  match value with
  | none => .error .missingValue
  | some value => if given.has flag then .error .repeated else given.set flag value

end Given

inductive Word
  | endOfFlags
  | flag (flag : Flag) (value : Option String)
  | help
  | version
  | unwantedValue
  | unknown
  | plain (text : String)
  deriving DecidableEq, Repr

namespace Word

def ofLong (text : List Char) : Word :=
  let name := String.ofList (text.takeWhile (· != '='))
  let value :=
    match text.dropWhile (· != '=') with
    | [] => none
    | _ :: rest => some (String.ofList rest)
  match Flag.ofName? name, name, value with
  | some known, _, _ => flag known value
  | none, "help", none => help
  | none, "version", none => version
  | none, "help", some _ => unwantedValue
  | none, "version", some _ => unwantedValue
  | none, _, _ => unknown

def ofText (text : String) : Word :=
  match text.toList with
  | ['-', '-'] => endOfFlags
  | '-' :: '-' :: rest => ofLong rest
  | ['-'] => plain text
  | '-' :: 'h' :: _ => help
  | '-' :: 'V' :: _ => version
  | '-' :: _ => unknown
  | _ => plain text

end Word

structure Progress where
  given : Given
  open? : Option (Flag × Option String)
  positional : List String
  flagsEnded : Bool
  deriving DecidableEq, Repr

namespace Progress

def start : Progress := ⟨.nothing, none, [], false⟩

def settle (progress : Progress) : Except Refusal Progress :=
  match progress.open? with
  | none => .ok progress
  | some (flag, value) =>
      (progress.given.take flag value).map fun given => { progress with given, open? := none }

def takePositional (progress : Progress) (text : String) : Except Refusal Progress :=
  if 2 ≤ progress.positional.length then .error .unknownArgument
  else
    progress.settle.map fun settled =>
      { settled with positional := settled.positional ++ [text] }

def takePlain (progress : Progress) (text : String) : Except Refusal Progress :=
  match progress.open? with
  | some (flag, none) => .ok { progress with open? := some (flag, some text) }
  | _ => progress.takePositional text

def takeFlag (progress : Progress) (flag : Flag) (value : Option String) :
    Except Refusal Progress := do
  let settled ← progress.settle
  match value with
  | none => return { settled with open? := some (flag, none) }
  | some text => return { settled with given := ← settled.given.take flag (some text) }

def take (progress : Progress) (text : String) : Except Refusal Progress :=
  if progress.flagsEnded then progress.takePositional text
  else
    match Word.ofText text with
    | .endOfFlags => .ok { progress with flagsEnded := true }
    | .flag flag value => progress.takeFlag flag value
    | .help => progress.settle.bind fun _ => .error .help
    | .version => progress.settle.bind fun _ => .error .version
    | .unwantedValue => .error .unwantedValue
    | .unknown => .error .unknownArgument
    | .plain text => progress.takePlain text

end Progress

abbrev Environment := String → Option String

/-- A variable counts for a flag that is not given, also with an empty value. -/
def Given.addVariable (environment : Environment) (given : Given) (flag : Flag) :
    Except Refusal Given :=
  if given.has flag then .ok given
  else
    match environment flag.variableName with
    | some value => given.set flag value
    | none => .ok given

structure CommandLine where
  host : String
  path : String
  service : String
  config : Option String
  connectMillis : Option UInt64
  readMillis : Option UInt64
  recvCapacity : Option UInt64
  deriving DecidableEq, Repr

namespace CommandLine

def defaultService : String := "http"

def parse (words : List String) (environment : Environment) : Except Refusal CommandLine := do
  let progress ← words.foldlM Progress.take Progress.start
  let settled ← progress.settle
  let given ← Flag.all.foldlM (Given.addVariable environment) settled.given
  match settled.positional with
  | [host, path] =>
      return {
        host, path
        service := given.service.getD defaultService
        config := given.config
        connectMillis := given.connectMillis
        readMillis := given.readMillis
        recvCapacity := given.recvCapacity }
  | _ => .error .missingArgument

end CommandLine

end Conduit.Program
