import Conduit.LogFilter.Field
import Conduit.LogFilter.Level
import Conduit.Text.Alphanumeric
import Conduit.Text.Cut
import Conduit.Text.Space
set_option autoImplicit false

/-!
Directives for log records: a level, for all records or for those of a target, within a span and under a
condition on the span's fields. A directive is written as a target, then between brackets the span and
between braces the condition, then an equals sign and the level; all but one part may be missing. White
space around a directive is skipped when its parts are looked for, but the parts are cut from the whole text
at the places found, so that a part may have moved.
-/

namespace Conduit

structure Directive where
  target : Option String
  span : Option String
  field : Option Field
  level : LogLevel
  deriving DecidableEq, Repr

inductive DirectiveFault
  | senseless
  | torn
  deriving DecidableEq, Repr

namespace Directive

def scopeText (directive : Directive) : String :=
  if directive.span.isNone && directive.field.isNone then ""
  else
    let field := directive.field.elim "" fun field => "\x7b" ++ field.text ++ "\x7d"
    "[" ++ directive.span.getD "" ++ field ++ "]"

def text (directive : Directive) : String :=
  let scope := directive.target.getD "" ++ directive.scopeText
  let everywhere := directive.target.isNone && directive.scopeText.isEmpty
  (if everywhere then "" else scope ++ "=") ++ directive.level.name

def upTo? (marks : List Char) (input : List Char) : Option (Nat × Char × List Char) :=
  match input.dropWhile (!marks.contains ·) with
  | mark :: rest => some (Text.byteSize (input.takeWhile (!marks.contains ·)), mark, rest)
  | [] => none

def cut (source : List Char) (start stop : Nat) : Except DirectiveFault String :=
  match Text.cut? source start stop with
  | some part => .ok part
  | none => .error .torn

def cutFrom (source : List Char) (start : Nat) : Except DirectiveFault String :=
  match Text.cutFrom? source start with
  | some part => .ok part
  | none => .error .torn

def sensible {α : Type} (result : Option α) : Except DirectiveFault α :=
  match result with
  | some value => .ok value
  | none => .error .senseless

def readLevel (source : List Char) (place : Nat) (rest : List Char) : Except DirectiveFault LogLevel :=
  match rest with
  | [] => .ok .trace
  | '=' :: _ => do
      let text ← cutFrom source (place + 1)
      if text.isEmpty then .ok .trace else sensible (LogLevel.parse? text)
  | _ => .error .senseless

def readField (source : List Char) (target span : Option String) (place : Nat) (rest : List Char) :
    Except DirectiveFault Directive := do
  let (size, _, rest) ← sensible (upTo? ['\x7d'] rest)
  let stop := place + size
  let field ← sensible (Field.parse? (← cut source place stop))
  match rest with
  | ']' :: rest => return ⟨target, span, some field, ← readLevel source (stop + 2) rest⟩
  | _ => .error .senseless

def readSpan (source : List Char) (target : Option String) (place : Nat) (rest : List Char) :
    Except DirectiveFault Directive := do
  let (size, mark, rest) ← sensible (upTo? [']', '\x7b'] rest)
  let stop := place + size
  let span ← cut source place stop
  if mark = ']' then return ⟨target, some span, none, ← readLevel source (stop + 1) rest⟩
  else readField source target (if span.isEmpty then none else some span) (stop + 1) rest

def mayStart (c : Char) : Bool := ['-', ':', '_'].contains c || Text.isAlphanumeric c

def read (text : String) : Except DirectiveFault Directive := do
  let source := text.toList
  match Text.trim source with
  | [] => .error .senseless
  | '[' :: rest => readSpan source none 1 rest
  | first :: rest =>
      if !mayStart first then .error .senseless
      else
        match upTo? ['=', '['] (first :: rest) with
        | none =>
            match LogLevel.parse? text with
            | some level => return ⟨none, none, none, level⟩
            | none => return ⟨some text, none, none, .trace⟩
        | some (size, mark, rest) =>
            let target ← cut source 0 size
            if mark = '=' then
              return ⟨some target, none, none, ← readLevel source size (mark :: rest)⟩
            else readSpan source (some target) (size + 1) rest

def optionOrder {α : Type} (order : α → α → Ordering) : Option α → Option α → Ordering
  | none, none => .eq
  | none, some _ => .lt
  | some _, none => .gt
  | some a, some b => order a b

/-- The more specific directive is the greater one: by the length of its target, by having a span and by
having a condition. Among equally specific ones the texts decide. Levels do not matter. -/
def specificity (left right : Directive) : Ordering :=
  (optionOrder compare (left.target.map (·.utf8ByteSize)) (right.target.map (·.utf8ByteSize))).then <|
    (compare left.span.isSome.toNat right.span.isSome.toNat).then <|
    (compare left.field.isSome.toNat right.field.isSome.toNat).then <|
    (optionOrder compare left.target right.target).then <|
    (optionOrder compare left.span right.span).then <|
    optionOrder Field.order left.field right.field

def place (directive : Directive) : List Directive → List Directive
  | [] => [directive]
  | other :: rest =>
      match directive.specificity other with
      | .gt => directive :: other :: rest
      | .eq => directive :: rest
      | .lt => other :: place directive rest

def isGeneral (directive : Directive) : Bool :=
  directive.span.isNone && directive.field.all (·.value.isNone)

def isContextual (directive : Directive) : Bool := directive.span.isSome || directive.field.isSome

end Directive

end Conduit
