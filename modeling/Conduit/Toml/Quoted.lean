import Conduit.Toml.Lexical
set_option autoImplicit false

namespace Conduit.Toml

def codePoint? (digits : List Char) : Option Char :=
  let code := Text.digitsValue 16 digits
  if digits.all (Text.isDigit 16) && code.isValidChar then some (Char.ofNat code) else none

def readCodePoint (places : Nat) (input : Input) : Except Stop (Char × Input) :=
  let digits := input.take places
  match codePoint? digits with
  | some c => if digits.length = places then .ok (c, input.drop places) else .error (.broken input)
  | none => .error (.broken input)

def readEscape (start : Input) : Input → Except Stop (Char × Input)
  | 'b' :: rest => .ok ('\x08', rest)
  | 'f' :: rest => .ok ('\x0c', rest)
  | 'n' :: rest => .ok ('\n', rest)
  | 'r' :: rest => .ok ('\r', rest)
  | 't' :: rest => .ok ('\t', rest)
  | '"' :: rest => .ok ('"', rest)
  | '\\' :: rest => .ok ('\\', rest)
  | 'u' :: rest => readCodePoint 4 rest
  | 'U' :: rest => readCodePoint 8 rest
  | c :: rest => .error (.broken (if isForeign c then c :: rest else rest))
  | [] => .error (.broken start)

def prepend (text : List Char) (further : Except Stop (List Char × Input)) :
    Except Stop (List Char × Input) :=
  further.map fun (more, rest) => (text ++ more, rest)

def readBasicBody : (steps : Nat) → Input → Except Stop (List Char × Input)
  | 0, input => .error (.broken input)
  | steps + 1, input =>
      match input with
      | '"' :: rest => .ok ([], rest)
      | '\\' :: rest => do
          let (c, rest) ← readEscape input rest
          prepend [c] (readBasicBody steps rest)
      | c :: rest =>
          if isLineChar c then prepend [c] (readBasicBody steps rest) else .error (.broken input)
      | [] => .error (.broken [])

def readBasic (input : Input) : Except Stop (String × Input) :=
  (readBasicBody (input.length + 1) input).map fun (text, rest) => (String.ofList text, rest)

def readLiteral (input : Input) : Except Stop (String × Input) :=
  let inside := fun c : Char => isLineChar c && c != '\''
  (must (expect ['\''] (input.dropWhile inside))).map fun rest =>
    (String.ofList (input.takeWhile inside), rest)

def skipBreaks : (lines : Nat) → Input → Input
  | 0, input => input
  | lines + 1, input =>
      match newline? (skipBlanks input) with
      | some rest => skipBreaks lines rest
      | none => skipBlanks input

def joinedLine? (input : Input) : Option Input :=
  (newline? (skipBlanks input)).map fun rest => skipBreaks (rest.length + 1) rest

def startsLineChar (input : Input) : Bool := input.head?.any isLineChar || (newline? input).isSome

/-- Up to three closing quotes; `escapes` tells whether a backslash is more than itself. Quotes that are
too few to close and have nothing after them stop the reader where they stand. -/
def readLongBody (quote : Char) (escapes : Bool) :
    (steps : Nat) → Input → Except Stop (List Char × Input)
  | 0, input => .error (.broken input)
  | steps + 1, input =>
      let quotes := (input.takeWhile (· == quote)).length
      let rest := input.drop quotes
      if 3 ≤ quotes then
        let inside := min (quotes - 3) 2
        .ok (List.replicate inside quote, input.drop (inside + 3))
      else if 0 < quotes then
        if rest.isEmpty || !(escapes || startsLineChar rest) then .error (.broken input)
        else prepend (List.replicate quotes quote) (readLongBody quote escapes steps rest)
      else
        match newline? input, input with
        | some rest, _ => prepend ['\n'] (readLongBody quote escapes steps rest)
        | none, c :: rest =>
            if c = '\\' && escapes then
              match joinedLine? rest with
              | some rest => readLongBody quote escapes steps rest
              | none => do
                  let (c, rest) ← readEscape input rest
                  prepend [c] (readLongBody quote escapes steps rest)
            else if isLineChar c then prepend [c] (readLongBody quote escapes steps rest)
            else .error (.broken input)
        | none, [] => .error (.broken [])

def readLong (quote : Char) (escapes : Bool) (input : Input) : Except Stop (String × Input) :=
  let body := (newline? input).getD input
  (readLongBody quote escapes (body.length + 1) body).map fun (text, rest) =>
    (String.ofList text, rest)

def readString : Input → Except Stop (String × Input)
  | '"' :: '"' :: '"' :: rest => readLong '"' true rest
  | '"' :: rest => readBasic rest
  | '\'' :: '\'' :: '\'' :: rest => readLong '\'' false rest
  | '\'' :: rest => readLiteral rest
  | input => .error (.absent input)

end Conduit.Toml
