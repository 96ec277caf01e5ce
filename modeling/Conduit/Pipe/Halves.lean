import Conduit.Pipe.Event
set_option autoImplicit false

namespace Conduit.Pipe

structure Sender where
  number : Nat
  deriving DecidableEq, Repr

structure Receiver where
  number : Nat
  deriving DecidableEq, Repr

structure Shared where
  pipe : Pipe
  holders : Nat
  deriving DecidableEq, Repr

structure Halves where
  shared : List (Nat × Shared)
  fresh : Nat
  deriving DecidableEq, Repr

namespace Halves

def none : Halves := ⟨[], 0⟩

def find? (halves : Halves) (number : Nat) : Option Shared := halves.shared.lookup number

def pipe? (halves : Halves) (number : Nat) : Option Pipe := (halves.find? number).map (·.pipe)

def update (halves : Halves) (number : Nat) (change : Shared → Shared) : Halves :=
  { halves with
    shared := halves.shared.map fun entry =>
      if entry.1 = number then (entry.1, change entry.2) else entry }

def setPipe (halves : Halves) (number : Nat) (pipe : Pipe) : Halves :=
  halves.update number fun shared => { shared with pipe }

def remove (halves : Halves) (number : Nat) : Halves :=
  { halves with shared := halves.shared.filter fun entry => entry.1 != number }

def split (halves : Halves) (pipe : Pipe) : Sender × Receiver × Halves :=
  (⟨halves.fresh⟩, ⟨halves.fresh⟩,
    { shared := (halves.fresh, ⟨pipe, 2⟩) :: halves.shared
      fresh := halves.fresh + 1 })

def release (halves : Halves) (number : Nat) : Halves :=
  match halves.find? number with
  | some shared =>
      if shared.holders ≤ 1 then halves.remove number
      else halves.update number fun shared => { shared with holders := shared.holders - 1 }
  | Option.none => halves

def dropSender (halves : Halves) (sender : Sender) : List Event × Halves :=
  match halves.pipe? sender.number with
  | some pipe =>
      (pipe.finishEvents, (halves.setPipe sender.number pipe.finish).release sender.number)
  | Option.none => ([], halves)

def dropReceiver (halves : Halves) (receiver : Receiver) : Halves :=
  halves.release receiver.number

/-- Takes the pipe back out if the receiver is the only half left, and copies it otherwise. -/
def takeBack (halves : Halves) (receiver : Receiver) : Option (Pipe × Halves) :=
  (halves.find? receiver.number).map fun shared =>
    if shared.holders = 1 then (shared.pipe, halves.remove receiver.number)
    else (shared.pipe, halves.release receiver.number)

def reunite (halves : Halves) (sender : Sender) (receiver : Receiver) : Option (Pipe × Halves) :=
  if sender.number = receiver.number then (halves.release sender.number).takeBack receiver
  else Option.none

end Halves

def foreignHalvesMessage : String :=
  "tried to reunite halves that do not belong to the same byte stream"

end Conduit.Pipe
