import Conduit.Toml.Moment
import Conduit.Toml.Number
import Conduit.Toml.Quoted
import Conduit.Toml.Table
set_option autoImplicit false

/-!
Whole TOML documents, version 1.0. Keys of eighty parts and values nested eighty deep are refused. A
malformed document is told by the place where no reading of it can go on; a line that conflicts with earlier
ones stops where it begins, and an inline table that conflicts with itself after its brace.
-/

namespace Conduit.Toml

def maxParts : Nat := 79

def maxDepth : Nat := 79

def agreed {α : Type} (place : Input) (change : Option α) : Except Stop α :=
  match change with
  | some result => .ok result
  | none => .error (.broken place)

def isBare (c : Char) : Bool := c.isAlphanum || c = '-' || c = '_'

def readSimpleKey : Input → Except Stop (String × Input)
  | '"' :: rest => readBasic rest
  | '\'' :: rest => readLiteral rest
  | input =>
      let name := input.takeWhile isBare
      if name.isEmpty then .error (.absent input)
      else .ok (String.ofList name, input.dropWhile isBare)

def readKeyPath : (parts : Nat) → Input → Except Stop (List Label × Input)
  | 0, input => .error (.absent input)
  | parts + 1, input => do
      let start := skipBlanks input
      let (name, rest) ← readSimpleKey start
      let label : Label := ⟨name, start.length, start.length⟩
      let rest := skipBlanks rest
      match rest with
      | '.' :: further =>
          orTry
            ((readKeyPath parts further).map fun (labels, rest) => (label :: labels, rest))
            (.ok ([label], rest))
      | _ => return ([label], rest)

def splitPath (labels : List Label) : Option (List Label × Label) :=
  labels.getLast?.map (labels.dropLast, ·)

def readKey (input : Input) : Except Stop ((List Label × Label) × Input) := do
  let (labels, rest) ← readKeyPath (input.length + 1) input
  match splitPath labels with
  | some split => if labels.length ≤ maxParts then .ok (split, rest) else .error (.absent input)
  | none => .error (.absent input)

def readLeaf (input : Input) : Except Stop (Node × Input) :=
  match input with
  | '"' :: _ | '\'' :: _ => (readString input).map fun (text, rest) => (.text text, rest)
  | 't' :: _ => (must (expect "true".toList input)).map (.boolean true, ·)
  | 'f' :: _ => (must (expect "false".toList input)).map (.boolean false, ·)
  | _ =>
    orTry ((Moment.read input).map (.moment, ·)) <|
      (readNumber input).map fun (number, rest) =>
        match number with
        | .integer value => (.integer value, rest)
        | .float value => (.float value, rest)

abbrev ValueReader := Input → Except Stop (Node × Input)

def readItem (value : ValueReader) (input : Input) : Except Stop (Node × Input) := do
  let (item, rest) ← value (← skipSpace input)
  return (item, ← skipSpace rest)

def readItems (value : ValueReader) : (steps : Nat) → Input → Except Stop (List Node × Input)
  | 0, input => .ok ([], input)
  | steps + 1, input =>
      match readItem value input with
      | .ok (item, ',' :: rest) =>
          (readItems value steps rest).map fun (items, rest) => (item :: items, rest)
      | .ok (item, rest) => .ok ([item], rest)
      | .error stop => if stop.final then .error stop else .ok ([], input)

def readArray (value : ValueReader) (input : Input) : Except Stop (List Node × Input) := must do
  let (items, rest) ← readItems value (input.length + 1) input
  let rest ← expect [']'] (← skipSpace rest)
  return (items, rest)

structure Pair where
  path : List Label
  key : Label
  node : Node

def readPair (value : ValueReader) (input : Input) : Except Stop (Pair × Input) := do
  let ((path, key), rest) ← readKey input
  must do
    let start := skipBlanks (← expect ['='] rest)
    let (node, rest) ← value start
    return (⟨path, { key with valueAt := start.length }, node⟩, rest)

def readPairs (value : ValueReader) : (steps : Nat) → Input → Except Stop (List Pair × Input)
  | 0, input => .ok ([], input)
  | steps + 1, input =>
      match readPair value input with
      | .ok (pair, rest) =>
          let rest := skipBlanks rest
          match rest with
          | ',' :: further => do
              let (pairs, left) ← readPairs value steps further
              return (pair :: pairs, if pairs.isEmpty then rest else left)
          | _ => .ok ([pair], rest)
      | .error stop => if stop.final then .error stop else .ok ([], input)

def addPair (form : Form) (entries : Entries) (pair : Pair) : Option Entries :=
  Entries.insert form entries pair.path pair.key pair.node

def readInline (value : ValueReader) (input : Input) : Except Stop (Entries × Input) := must do
  let (pairs, rest) ← readPairs value (input.length + 1) input
  let entries ← agreed input (pairs.foldlM (addPair .inline) [])
  let rest ← expect ['\x7d'] (skipBlanks rest)
  return (entries, rest)

def readValue : (depth : Nat) → ValueReader
  | 0, input =>
      match input with
      | '[' :: _ | '\x7b' :: _ => .error (.broken input)
      | _ => readLeaf input
  | depth + 1, input =>
      match input with
      | '[' :: rest => (readArray (readValue depth) rest).map fun (items, rest) => (.array items, rest)
      | '\x7b' :: rest =>
          (readInline (readValue depth) rest).map fun (entries, rest) =>
            (.table .inline entries, rest)
      | _ => readLeaf input

def readHeader (opening closing : List Char) (start : Input)
    (enter : List Label → Label → Option Builder) : Except Stop (Builder × Input) := do
  let ((path, key), rest) ← readKey (← expect opening start)
  let rest ← endLine (← expect closing rest)
  let builder ← agreed start (enter path { key with valueAt := start.length })
  return (builder, rest)

def readAssignment (builder : Builder) (start : Input) : Except Stop (Builder × Input) := do
  let (pair, rest) ← readPair (readValue maxDepth) start
  let rest ← endLine rest
  let builder ← agreed start (builder.add pair.path pair.key pair.node)
  return (builder, rest)

def readLine (builder : Builder) (input : Input) : Except Stop (Builder × Input) :=
  match input with
  | '[' :: '[' :: _ => readHeader ['[', '['] [']', ']'] input builder.openElement
  | '[' :: _ :: _ => readHeader ['['] [']'] input builder.openTable
  | '[' :: [] => .error (.broken input)
  | c :: _ =>
      if c = '#' || (newline? input).isSome then (endLine input).map (builder, ·)
      else readAssignment builder input
  | [] => .ok (builder, [])

def readLines : (lines : Nat) → Builder → Input → Except Stop Builder
  | 0, _, input => .error (.broken input)
  | lines + 1, builder, input =>
      match skipBlanks input with
      | [] => .ok builder
      | start => do
          let (builder, rest) ← readLine builder start
          readLines lines builder rest

def skipMark : Input → Input
  | '\ufeff' :: rest => rest
  | input => input

def read (text : String) : Except Stop Entries := do
  let input := skipMark text.toList
  agreed [] (← readLines (input.length + 1) .start input).close

structure Position where
  line : Nat
  column : Nat
  deriving DecidableEq, Repr

namespace Position

def lastLine (passed : List Char) : List Char :=
  (passed.reverse.takeWhile (· != '\n')).reverse

def after (passed : List Char) : Position :=
  ⟨passed.count '\n' + 1, (lastLine passed).length + 1⟩

def afterBytes (passed : List Char) : Position :=
  ⟨passed.count '\n' + 1, (String.ofList (lastLine passed)).utf8ByteSize + 1⟩

def ofLeft (text : String) (left : Nat) : Position :=
  let characters := text.toList
  let passed := characters.take (characters.length - left)
  match characters.drop passed.length with
  | next :: _ => if isForeign next then afterBytes passed else after passed
  | [] =>
      if passed.isEmpty then after []
      else
        let last := after passed.dropLast
        ⟨last.line, last.column + 1⟩

end Position

end Conduit.Toml
