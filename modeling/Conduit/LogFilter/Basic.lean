import Conduit.LogFilter.Directive
set_option autoImplicit false

namespace Conduit

structure LogFilter where
  general : List Directive
  contextual : List Directive
  deriving DecidableEq, Repr

namespace LogFilter

def empty : LogFilter := ⟨[], []⟩

def add (filter : LogFilter) (directive : Directive) : LogFilter :=
  { general := if directive.isGeneral then directive.place filter.general else filter.general
    contextual := if directive.isContextual then directive.place filter.contextual else filter.contextual }

def fallback : LogFilter := empty.add ⟨none, none, none, .warn⟩

def read (text : String) : Except DirectiveFault LogFilter := do
  let pieces := (text.splitOn ",").filter (!·.isEmpty)
  return (← pieces.mapM Directive.read).foldl add empty

def text (filter : LogFilter) : String :=
  ",".intercalate ((filter.general ++ filter.contextual).map Directive.text)

def isGrave (filter : LogFilter) : Bool :=
  (filter.general ++ filter.contextual).all (·.level.isGrave)

def variableName : String := "RUST_LOG"

/-- The filter that a variable asks for; without one, or if it makes no sense, the fallback. A directive
that would have to be torn leaves no filter at all. -/
def ofVariable (value : Option String) : Option LogFilter :=
  match value.map read with
  | none | some (.error .senseless) => some fallback
  | some (.error .torn) => none
  | some (.ok filter) => some filter

example : ofVariable none = some fallback ∧ fallback.isGrave := ⟨rfl, by decide⟩

end LogFilter

end Conduit
