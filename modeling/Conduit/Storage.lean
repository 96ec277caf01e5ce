import Conduit.Fault
set_option autoImplicit false

namespace Conduit

inductive StoredItem
  | file (content : List UInt8)
  | directory
  deriving DecidableEq, Repr

structure Directory where
  items : List (List String × StoredItem)
  deriving DecidableEq, Repr

inductive PathKind
  | file (content : List UInt8)
  | directory
  | missing
  deriving DecidableEq, Repr

namespace Directory

def root : Directory :=
  let names := [
    "bin", "boot", "dev", "etc", "home", "lib", "media", "mnt", "opt", "proc", "root", "run", "sbin", "srv",
    "sys", "tmp", "usr", "var"]
  ⟨(["dev", "null"], .file []) :: names.map fun name => ([name], .directory)⟩

def isAbove (names : List String) : Bool := names.all (· == "..")

def kind (directory : Directory) (names : List String) : PathKind :=
  match directory.items.lookup names with
  | some (.file content) => .file content
  | some .directory => .directory
  | none =>
    if isAbove names || directory.items.any (fun item => names.isPrefixOf item.1) then .directory
    else .missing

def longestName : Nat := 255

def longestPath : Nat := 4095

def enter (directory : Directory) (names : List String) (name : String) :
    Except Fault (List String) :=
  match directory.kind names with
  | .missing => .error (.system 2)
  | .file _ => .error (.system 20)
  | .directory =>
      if name = "" || name = "." then .ok names
      else if name = ".." then .ok (if isAbove names then names ++ [".."] else names.dropLast)
      else if longestName < name.utf8ByteSize then .error (.system 36)
      else .ok (names ++ [name])

def follow (directory : Directory) (path : String) : Except Fault (List String) :=
  (path.splitOn "/").foldlM directory.enter []

def start (directory : Directory) (path : String) : Directory :=
  if path.startsWith "/" then root else directory

def read (directory : Directory) (path : String) : Except Fault (List UInt8) :=
  if path.contains (Char.ofNat 0) then .error .nulByte
  else if path = "" then .error (.system 2)
  else if longestPath < path.utf8ByteSize then .error (.system 36)
  else do
    let start := directory.start path
    let names ← start.follow path
    match start.kind names with
    | .file content => .ok content
    | .directory => .error (.system 21)
    | .missing => .error (.system 2)

end Directory

abbrev FileReader := String → Except Fault (List UInt8)

def invalidTextFault : Fault := .described .invalidData "stream did not contain valid UTF-8"

def readText (files : FileReader) (path : String) : Except Fault String := do
  let content ← files path
  match String.fromUTF8? ⟨content.toArray⟩ with
  | some text => .ok text
  | none => .error invalidTextFault

end Conduit
