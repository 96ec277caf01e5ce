import Conduit.Decimal.Double
set_option autoImplicit false

namespace Conduit.Toml

inductive Form
  | header
  | implied
  | dotted
  | inline
  deriving DecidableEq, Repr

structure Label where
  name : String
  keyAt : Nat
  valueAt : Nat
  deriving DecidableEq, Repr

inductive Node
  | integer (value : Int)
  | float (value : Decimal.Double)
  | boolean (value : Bool)
  | text (value : String)
  | moment
  | array (items : List Node)
  | table (form : Form) (entries : List (Label × Node))
  | tables (elements : List (List (Label × Node)))

/-- The entries of a table in the order in which their keys first came up, but for a table that was implied
by a longer header and gets its own header later: with that it moves to the end. -/
abbrev Entries := List (Label × Node)

namespace Entries

def find? (entries : Entries) (name : String) : Option Node :=
  (List.find? (fun entry : Label × Node => entry.1.name == name) entries).map (·.2)

def replace (entries : Entries) (name : String) (node : Node) : Entries :=
  entries.map fun entry => if entry.1.name = name then (entry.1, node) else entry

def erase (entries : Entries) (name : String) : Entries :=
  entries.filter fun entry => entry.1.name != name

abbrev Change (α : Type) := Form → Entries → Option (α × Entries)

/-- Makes a change in the table at the end of a path. Tables that are missing on the way are made; of an
array of tables the last one is meant. -/
def within {α : Type} (dotted : Bool) (change : Change α) : List Label → Change α
  | [], form, entries => change form entries
  | key :: path, _, entries =>
      match entries.find? key.name with
      | none => do
          let form := if dotted then Form.dotted else Form.implied
          let (result, inner) ← within dotted change path form []
          return (result, entries ++ [(key, .table form inner)])
      | some (.table .inline _) => none
      | some (.table form inner) =>
          if dotted && form == .header then none
          else do
            let (result, inner) ← within dotted change path form inner
            return (result, entries.replace key.name (.table form inner))
      | some (.tables elements) => do
          let (result, last) ← within dotted change path .header (elements.getLast?.getD [])
          return (result, entries.replace key.name (.tables (elements.dropLast ++ [last])))
      | some _ => none

def addKey (path : List Label) (key : Label) (node : Node) : Change Unit :=
  fun form entries =>
    if (form == .dotted) == path.isEmpty then none
    else if (entries.find? key.name).isSome then none
    else some ((), entries ++ [(key, node)])

def insert (form : Form) (entries : Entries) (path : List Label) (key : Label) (node : Node) :
    Option Entries :=
  (within true (addKey path key node) path form entries).map (·.2)

/-- Takes out an implied table, so that its header may add to it. It goes back in by `putTable`, at the end. -/
def takeImplied (key : Label) : Change Entries := fun _ entries =>
  match entries.find? key.name with
  | none => some ([], entries)
  | some (.table .implied inner) => some (inner, entries.erase key.name)
  | some _ => none

def openElements (key : Label) : Change Unit := fun _ entries =>
  match entries.find? key.name with
  | none => some ((), entries ++ [(key, .tables [])])
  | some (.tables _) => some ((), entries)
  | some _ => none

def putTable (key : Label) (inner : Entries) : Change Unit := fun _ entries =>
  some ((), entries ++ [(key, .table .header inner)])

def pushElement (key : Label) (inner : Entries) : Change Unit := fun _ entries =>
  match entries.find? key.name with
  | some (.tables elements) =>
      some ((), entries.replace key.name (.tables (elements ++ [inner])))
  | _ => none

end Entries

inductive Target
  | root
  | table (parent : List Label) (key : Label)
  | element (parent : List Label) (key : Label)

structure Builder where
  complete : Entries
  target : Target
  current : Entries

namespace Builder

def start : Builder := ⟨[], .root, []⟩

def add (builder : Builder) (path : List Label) (key : Label) (node : Node) : Option Builder :=
  (Entries.insert .header builder.current path key node).map fun current =>
    { builder with current }

def close (builder : Builder) : Option Entries :=
  match builder.target with
  | .root => some builder.current
  | .table parent key =>
      (Entries.within false (Entries.putTable key builder.current) parent .header
        builder.complete).map (·.2)
  | .element parent key =>
      (Entries.within false (Entries.pushElement key builder.current) parent .header
        builder.complete).map (·.2)

def openTable (builder : Builder) (parent : List Label) (key : Label) : Option Builder := do
  let complete ← builder.close
  let (current, complete) ←
    Entries.within false (Entries.takeImplied key) parent .header complete
  return { complete, target := .table parent key, current }

def openElement (builder : Builder) (parent : List Label) (key : Label) : Option Builder := do
  let complete ← builder.close
  let (_, complete) ← Entries.within false (Entries.openElements key) parent .header complete
  return { complete, target := .element parent key, current := [] }

end Builder

end Conduit.Toml
