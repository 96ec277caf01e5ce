import Conduit.Text.Alphanumeric
import Conduit.Text.Digits
set_option autoImplicit false

namespace Conduit.Text.Pattern

structure Modes where
  caseless : Bool
  unicode : Bool
  deriving DecidableEq, Repr

inductive Atom
  | literal (c : Char)
  | shorthand (negated : Bool)
  | wordBoundary
  | anchor
  deriving DecidableEq, Repr

def Atom.isUnderstood (modes : Modes) : Atom → Bool
  | literal c => if modes.unicode then !modes.caseless else c.toNat < 0x80
  | shorthand negated => !(modes.unicode || negated)
  | wordBoundary => !modes.unicode
  | anchor => true

def controls : List (Char × Char) :=
  [('a', '\x07'), ('f', '\x0c'), ('t', '\t'), ('n', '\n'), ('r', '\r'), ('v', '\x0b')]

def isPlainEscaped (c : Char) : Bool := c.toNat < 0x80 && !c.isAlphanum && c != '<' && c != '>'

def readCodePoint? (places : Nat) (input : List Char) : Option (Atom × List Char) :=
  let digits := input.take places
  let code := digitsValue 16 digits
  if digits.length = places && digits.all (isDigit 16) && code.isValidChar then
    some (.literal (Char.ofNat code), input.drop places)
  else none

def readEscape? : List Char → Option (Atom × List Char)
  | [] => none
  | c :: rest =>
      if c = 'x' then readCodePoint? 2 rest
      else if c = 'u' then readCodePoint? 4 rest
      else if c = 'U' then readCodePoint? 8 rest
      else if ['d', 's', 'w'].contains c then some (.shorthand false, rest)
      else if ['D', 'S', 'W'].contains c then some (.shorthand true, rest)
      else if ['b', 'B', '<', '>'].contains c then some (.wordBoundary, rest)
      else if ['A', 'z'].contains c then some (.anchor, rest)
      else if isPlainEscaped c then some (.literal c, rest)
      else (controls.lookup c).map (.literal ·, rest)

def classNames : List String :=
  ["alnum", "alpha", "ascii", "blank", "cntrl", "digit", "graph", "lower", "print", "punct", "space",
    "upper", "word", "xdigit"]

def skipNamedClass? : List Char → Option (List Char)
  | ':' :: rest =>
      let body := match rest with
        | '^' :: body => body
        | body => body
      let name := String.ofList (body.takeWhile (· != ':'))
      match body.dropWhile (· != ':') with
      | ':' :: ']' :: rest => if classNames.contains name then some rest else none
      | _ => none
  | _ => none

def readMember? (modes : Modes) : List Char → Option (Atom × List Char)
  | '\\' :: rest =>
      match readEscape? rest with
      | some (.literal c, rest) => some (.literal c, rest)
      | some (.shorthand negated, rest) =>
          if (Atom.shorthand negated).isUnderstood modes then some (.shorthand negated, rest) else none
      | _ => none
  | c :: rest => some (.literal c, rest)
  | [] => none

def skipRange? (modes : Modes) (input : List Char) : Option (List Char) := do
  let (first, rest) ← readMember? modes input
  match rest with
  | '-' :: ']' :: _ | '-' :: '-' :: _ => some rest
  | '-' :: rest =>
      let (last, rest) ← readMember? modes rest
      match first, last with
      | .literal low, .literal high => if low ≤ high then some rest else none
      | _, _ => none
  | [] => none
  | _ => some rest

def openClass? (modes : Modes) (input : List Char) : Option (List Char) :=
  let (negated, body) := match input with
    | '^' :: body => (true, body)
    | body => (false, body)
  if negated && !modes.unicode then none
  else
    match body with
    | ']' :: rest => some rest
    | body => some (body.dropWhile (· == '-'))

def skipClasses? (modes : Modes) : (steps depth : Nat) → List Char → Option (List Char)
  | 0, _, _ => none
  | steps + 1, depth, input =>
      match input with
      | [] => none
      | ']' :: rest => if depth ≤ 1 then some rest else skipClasses? modes steps (depth - 1) rest
      | '[' :: rest =>
          match skipNamedClass? rest with
          | some rest => skipClasses? modes steps depth rest
          | none => do skipClasses? modes steps (depth + 1) (← openClass? modes rest)
      | '&' :: '&' :: rest | '-' :: '-' :: rest | '~' :: '~' :: rest =>
          skipClasses? modes steps depth rest
      | input => do skipClasses? modes steps depth (← skipRange? modes input)

def skipClass? (modes : Modes) (input : List Char) : Option (List Char) :=
  if modes.caseless && modes.unicode then none
  else do skipClasses? modes (input.length + 1) 1 (← openClass? modes input)

structure State where
  modes : Modes
  outer : List Modes
  repeatable : Bool
  names : List String

def State.start : State := ⟨⟨false, true⟩, [], false, []⟩

def State.enter (state : State) (modes : Modes) : State :=
  { state with modes, outer := state.modes :: state.outer, repeatable := false }

def flagLetters : List Char := ['i', 'm', 's', 'U', 'u', 'R', 'x']

def applyFlags? (modes : Modes) (flags : List Char) : Option Modes :=
  let known := flags.all fun c => c = '-' || flagLetters.contains c
  if !known || !decide flags.Nodup || flags.getLast? = some '-' then none
  else
    let on := flags.takeWhile (· != '-')
    let off := flags.dropWhile (· != '-')
    some {
      caseless := (modes.caseless || on.contains 'i') && !off.contains 'i'
      unicode := (modes.unicode || on.contains 'u') && !off.contains 'u' }

def isName (name : List Char) : Bool :=
  let mayStart := fun c : Char => c = '_' || (isAlphanumeric c && !c.isDigit)
  name.head?.any mayStart &&
    name.all fun c => ['_', '.', '[', ']'].contains c || isAlphanumeric c

def openNamed? (state : State) (input : List Char) : Option (State × List Char) :=
  let name := input.takeWhile (· != '>')
  match input.dropWhile (· != '>') with
  | _ :: rest =>
      if isName name && !state.names.contains (String.ofList name) then
        some ({ state.enter state.modes with names := String.ofList name :: state.names }, rest)
      else none
  | [] => none

def openGroup? (state : State) : List Char → Option (State × List Char)
  | '?' :: 'P' :: '<' :: rest => openNamed? state rest
  | '?' :: '<' :: rest => openNamed? state rest
  | '?' :: rest => do
      let inside := fun c : Char => c != ':' && c != ')'
      let flags := rest.takeWhile inside
      let modes ← applyFlags? state.modes flags
      match rest.dropWhile inside with
      | ':' :: rest => some (state.enter modes, rest)
      | _ :: rest =>
          if flags.isEmpty then none else some ({ state with modes, repeatable := false }, rest)
      | [] => none
  | rest => some (state.enter state.modes, rest)

def takeAtom? (state : State) (atom : Atom) (rest : List Char) : Option (State × List Char) :=
  if atom.isUnderstood state.modes then some ({ state with repeatable := true }, rest) else none

def step? (state : State) : List Char → Option (State × List Char)
  | [] => none
  | '(' :: rest => openGroup? state rest
  | ')' :: rest =>
      match state.outer with
      | modes :: outer => some ({ state with modes, outer, repeatable := true }, rest)
      | [] => none
  | '|' :: rest => some ({ state with repeatable := false }, rest)
  | '[' :: rest => do
      let rest ← skipClass? state.modes rest
      return ({ state with repeatable := true }, rest)
  | '\\' :: rest => do
      let (atom, rest) ← readEscape? rest
      takeAtom? state atom rest
  | '\x7b' :: _ => none
  | c :: rest =>
      if ['?', '*', '+'].contains c then
        if state.repeatable then some (state, if rest.head? = some '?' then rest.drop 1 else rest)
        else none
      else if c = '.' then
        if state.modes.unicode then some ({ state with repeatable := true }, rest) else none
      else if c = '^' || c = '$' then takeAtom? state .anchor rest
      else takeAtom? state (.literal c) rest

def run? : (steps : Nat) → State → List Char → Option State
  | _, state, [] => some state
  | 0, _, _ => none
  | steps + 1, state, input => do
      let (state, rest) ← step? state input
      run? steps state rest

/-- Whether a matcher can be built: every part is understood and every group closed. Matchers have no tables of
the properties and cases of characters, so what needs them is understood only where Unicode is switched off. -/
def isMatchable (text : String) : Bool :=
  (run? text.length .start text.toList).any (·.outer.isEmpty)

end Conduit.Text.Pattern
