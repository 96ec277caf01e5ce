import Conduit.Text.Digits
set_option autoImplicit false

namespace Conduit

inductive LogLevel
  | off
  | error
  | warn
  | info
  | debug
  | trace
  deriving DecidableEq, Repr

namespace LogLevel

def name : LogLevel → String
  | off => "off"
  | error => "error"
  | warn => "warn"
  | info => "info"
  | debug => "debug"
  | trace => "trace"

def all : List LogLevel := [off, error, warn, info, debug, trace]

def parse? (text : String) : Option LogLevel :=
  match Text.unsigned? all.length text with
  | some n => all[n]?
  | none => all.find? (·.name == text.toLower)

def isGrave : LogLevel → Bool
  | off | error | warn => true
  | info | debug | trace => false

end LogLevel

end Conduit
