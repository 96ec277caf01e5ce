import Conduit.Text.Digits
set_option autoImplicit false

namespace Conduit.Toml

abbrev Input := List Char

/-- Where a reader could not go on, as the number of characters left there. Unless that is final, something
else may be looked for where the reader began. -/
structure Stop where
  left : Nat
  final : Bool
  deriving DecidableEq, Repr

namespace Stop

def absent (input : Input) : Stop := ⟨input.length, false⟩

def broken (input : Input) : Stop := ⟨input.length, true⟩

end Stop

def must {α : Type} (reading : Except Stop α) : Except Stop α :=
  reading.mapError fun stop => { stop with final := true }

def orTry {α : Type} (first second : Except Stop α) : Except Stop α :=
  match first with
  | .ok found => .ok found
  | .error stop => if stop.final then .error stop else second

def isBlank (c : Char) : Bool := c = ' ' || c = '\t'

def isForeign (c : Char) : Bool := 0x80 ≤ c.toNat

def isLineChar (c : Char) : Bool :=
  c = '\t' || (0x20 ≤ c.toNat && c.toNat ≤ 0x7e) || isForeign c

def expect (word : List Char) (input : Input) : Except Stop Input :=
  if word.isPrefixOf input then .ok (input.drop word.length) else .error (.absent input)

def skipBlanks (input : Input) : Input := input.dropWhile isBlank

def newline? : Input → Option Input
  | '\n' :: rest => some rest
  | '\r' :: '\n' :: rest => some rest
  | _ => none

def skipComment : Input → Input
  | '#' :: rest => rest.dropWhile isLineChar
  | input => input

def endLine (input : Input) : Except Stop Input :=
  let rest := skipComment (skipBlanks input)
  match rest, newline? rest with
  | [], _ => .ok []
  | _, some after => .ok after
  | _, none => .error (.absent rest)

def skipLines : (lines : Nat) → Input → Except Stop Input
  | 0, input => .ok input
  | lines + 1, input =>
      match skipBlanks input with
      | c :: rest =>
          if ['#', '\n', '\r'].contains c then
            let lineEnd := skipComment (c :: rest)
            match newline? lineEnd with
            | some rest => skipLines lines rest
            | none => .error (.absent (lineEnd.drop 1))
          else .ok (c :: rest)
      | [] => .ok []

def skipSpace (input : Input) : Except Stop Input := skipLines (input.length + 1) input

end Conduit.Toml
