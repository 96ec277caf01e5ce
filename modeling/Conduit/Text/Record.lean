set_option autoImplicit false

namespace Conduit.Text

structure Record where
  name : String
  fields : List (String × String)
  complete : Bool

inductive Layout
  | line
  | block
  deriving DecidableEq, Repr

namespace Record

def fieldText (field : String × String) : String := field.1 ++ ": " ++ field.2

def onOneLine (record : Record) : String :=
  let shown := record.fields.map fieldText ++ (if record.complete then [] else [".."])
  record.name ++ " \x7b " ++ ", ".intercalate shown ++ " \x7d"

def indented (text : String) : String :=
  "    " ++ (text.toList.map fun c => if c = '\n' then "\n    " else c.toString).foldl (· ++ ·) ""

def asBlock (record : Record) : String :=
  let shown := record.fields.map fun field => indented (fieldText field) ++ ",\n"
  let dots := if record.complete then "" else "    ..\n"
  record.name ++ " \x7b\n" ++ String.join shown ++ dots ++ "\x7d"

def render (record : Record) : Layout → String
  | .line => record.onOneLine
  | .block => record.asBlock

end Record

end Conduit.Text
