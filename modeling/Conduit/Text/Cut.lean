set_option autoImplicit false

namespace Conduit.Text

def byteSize : List Char → Nat
  | [] => 0
  | c :: rest => c.utf8Size + byteSize rest

def dropBytes? : (size : Nat) → List Char → Option (List Char)
  | 0, characters => some characters
  | _ + 1, [] => none
  | size + 1, c :: rest =>
      if c.utf8Size ≤ size + 1 then dropBytes? (size + 1 - c.utf8Size) rest else none

def takeBytes? : (size : Nat) → List Char → Option (List Char)
  | 0, _ => some []
  | _ + 1, [] => none
  | size + 1, c :: rest =>
      if c.utf8Size ≤ size + 1 then (takeBytes? (size + 1 - c.utf8Size) rest).map (c :: ·) else none

def cut? (characters : List Char) (start stop : Nat) : Option String := do
  let rest ← dropBytes? start characters
  return String.ofList (← takeBytes? (stop - start) rest)

def cutFrom? (characters : List Char) (start : Nat) : Option String :=
  (dropBytes? start characters).map String.ofList

end Conduit.Text
