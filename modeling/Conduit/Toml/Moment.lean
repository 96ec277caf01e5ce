import Conduit.Toml.Lexical
set_option autoImplicit false

namespace Conduit.Toml.Moment

def readField (places low high : Nat) (input : Input) : Except Stop (Nat × Input) :=
  let digits := input.take places
  let value := Text.digitsValue 10 digits
  if digits.length = places && digits.all (Text.isDigit 10) && low ≤ value && value ≤ high then
    .ok (value, input.drop places)
  else .error (.absent input)

def readMark (marks : List Char) : Input → Except Stop Input
  | c :: rest => if marks.contains c then .ok rest else .error (.absent (c :: rest))
  | [] => .error (.absent [])

def isLeapYear (year : Nat) : Bool := year % 4 = 0 && (year % 100 ≠ 0 || year % 400 = 0)

def daysInMonth (year month : Nat) : Nat :=
  if month = 2 then if isLeapYear year then 29 else 28
  else if [4, 6, 9, 11].contains month then 30
  else 31

def readDate (input : Input) : Except Stop Input := do
  let (year, rest) ← readField 4 0 9999 input
  let rest ← readMark ['-'] rest
  must do
    let (month, rest) ← readField 2 1 12 rest
    let (_, rest) ← readField 2 1 (daysInMonth year month) (← readMark ['-'] rest)
    return rest

def skipFraction : Input → Input
  | '.' :: c :: rest =>
      if Text.isDigit 10 c then rest.dropWhile (Text.isDigit 10) else '.' :: c :: rest
  | input => input

def readTime (input : Input) : Except Stop Input := do
  let (_, rest) ← readField 2 0 23 input
  let rest ← readMark [':'] rest
  must do
    let (_, rest) ← readField 2 0 59 rest
    let (_, rest) ← readField 2 0 60 (← readMark [':'] rest)
    return skipFraction rest

def readShift (input : Input) : Except Stop Input := do
  let rest ← readMark ['+', '-'] input
  must do
    let (_, rest) ← readField 2 0 23 rest
    let (_, rest) ← readField 2 0 59 (← readMark [':'] rest)
    return rest

def readOffset (input : Input) : Except Stop Input :=
  orTry (readMark ['Z', 'z'] input) (orTry (readShift input) (.ok input))

def readTimeOfDay (input : Input) : Except Stop Input :=
  orTry (do readOffset (← readTime (← readMark ['T', 't', ' '] input))) (.ok input)

def read (input : Input) : Except Stop Input :=
  orTry (do readTimeOfDay (← readDate input)) (readTime input)

end Conduit.Toml.Moment
