import Conduit.Channel.Config
import Conduit.Decimal.Shortest
import Conduit.Text.Quoted
import Conduit.Toml.Document
set_option autoImplicit false

namespace Conduit

open Toml (Entries Label Node Position)

inductive Setting
  | recvCapacity
  | connectMillis
  | readMillis
  deriving DecidableEq, Repr

namespace Setting

def name : Setting → String
  | recvCapacity => "recv_capacity"
  | connectMillis => "connect_timeout_ms"
  | readMillis => "read_timeout_ms"

def kind : Setting → String
  | recvCapacity => "usize"
  | connectMillis | readMillis => "u64"

def all : List Setting := [recvCapacity, connectMillis, readMillis]

def ofName? (name : String) : Option Setting := all.find? (·.name == name)

def assign (config : ChannelConfig) (value : UInt64) : Setting → ChannelConfig
  | recvCapacity => { config with recvCapacity := value }
  | connectMillis => { config with connectMillis := value }
  | readMillis => { config with readMillis := some value }

end Setting

inductive Misfit
  | unknownKey (key : String)
  | negative (value : Int) (setting : Setting)
  | wrongType (found : String) (setting : Setting)
  deriving DecidableEq, Repr

namespace Misfit

def inTicks (text : String) : String := "`" ++ text ++ "`"

def message : Misfit → String
  | unknownKey key =>
      "unknown field " ++ inTicks key ++ ", expected one of " ++
        ", ".intercalate (Setting.all.map fun setting => inTicks setting.name)
  | negative value setting =>
      "invalid value: integer " ++ inTicks (toString value) ++ ", expected " ++ setting.kind
  | wrongType found setting => "invalid type: " ++ found ++ ", expected " ++ setting.kind

end Misfit

inductive ConfigFailure
  | malformed (place : Position)
  | unfit (reason : Misfit) (place : Position)
  deriving DecidableEq, Repr

def ConfigFailure.place : ConfigFailure → Position
  | malformed place => place
  | unfit _ place => place

def nodeText : Node → String
  | .integer value => "integer " ++ Misfit.inTicks (toString value)
  | .float value => "floating point " ++ Misfit.inTicks value.textWithPoint
  | .boolean value => "boolean " ++ Misfit.inTicks (toString value)
  | .text value => "string " ++ Text.quoted value
  | .array _ | .tables _ => "sequence"
  | .moment | .table _ _ => "map"

def Setting.read (setting : Setting) : Node → Except Misfit UInt64
  | .integer value =>
      if 0 ≤ value then .ok (UInt64.ofNat value.toNat) else .error (.negative value setting)
  | node => .error (.wrongType (nodeText node) setting)

namespace ChannelConfig

def applyEntry (config : ChannelConfig) (entry : Label × Node) :
    Except (Misfit × Nat) ChannelConfig :=
  let (label, node) := entry
  match Setting.ofName? label.name with
  | none => .error (.unknownKey label.name, label.keyAt)
  | some setting =>
      match setting.read node with
      | .ok value => .ok (setting.assign config value)
      | .error misfit => .error (misfit, label.valueAt)

def ofEntries (entries : Entries) : Except (Misfit × Nat) ChannelConfig :=
  entries.foldlM applyEntry default

/-- Of entries that do not fit the first one decides, in the order of `Toml.Entries`: an implied table that
gets its own header later counts from that header on. -/
def ofToml (text : String) : Except ConfigFailure ChannelConfig :=
  match Toml.read text with
  | .error stop => .error (.malformed (.ofLeft text stop.left))
  | .ok entries =>
      match ofEntries entries with
      | .ok config => .ok config
      | .error (reason, left) => .error (.unfit reason (.ofLeft text left))

end ChannelConfig

end Conduit
