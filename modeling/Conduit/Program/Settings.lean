import Conduit.Channel.ConfigText
import Conduit.Program.CommandLine
import Conduit.Storage
set_option autoImplicit false

namespace Conduit.Program

inductive SettingsError
  | unreadable (path : String) (cause : Fault)
  | invalid (path : String) (cause : ConfigFailure)
  deriving DecidableEq, Repr

def SettingsError.message : SettingsError → String
  | unreadable path _ => s!"failed to read config file {path}"
  | invalid path _ => s!"invalid config file {path}"

namespace CommandLine

def fileConfig (files : FileReader) (path : String) : Except SettingsError ChannelConfig :=
  match readText files path with
  | .error fault => .error (.unreadable path fault)
  | .ok text =>
      match ChannelConfig.ofToml text with
      | .ok config => .ok config
      | .error failure => .error (.invalid path failure)

def baseConfig (line : CommandLine) (files : FileReader) : Except SettingsError ChannelConfig :=
  match line.config with
  | some path => fileConfig files path
  | none => .ok .default

def changes (line : CommandLine) : List ConfigChange :=
  (line.connectMillis.map fun millis => .connectLimit (.ofMillis millis)).toList ++
    (line.readMillis.map fun millis => .readLimit (some (.ofMillis millis))).toList ++
    (line.recvCapacity.map .recvCapacity).toList

def channelConfig (line : CommandLine) (files : FileReader) : Except SettingsError ChannelConfig :=
  (line.baseConfig files).map (line.changes.foldl ConfigChange.apply)

end CommandLine

end Conduit.Program
