import Conduit.Pipe.Halves
import Conduit.Pipe.Request
set_option autoImplicit false

namespace Conduit.Pipe

inductive Slot
  | whole (pipe : Pipe)
  | sender (sender : Sender)
  | receiver (receiver : Receiver)
  deriving DecidableEq, Repr

inductive Command
  | create (capacity : Nat)
  | drop
  | clone (target : String)
  | split (sender receiver : String)
  | reunite (sender receiver : String)
  | ask (request : Request)
  deriving DecidableEq, Repr

structure Workspace where
  slots : List (String × Slot)
  halves : Halves
  deriving DecidableEq, Repr

structure Step where
  reply : Reply
  events : List Event
  after : Workspace
  deriving DecidableEq, Repr

namespace Workspace

def empty : Workspace := ⟨[], Halves.none⟩

def slot? (workspace : Workspace) (name : String) : Option Slot := workspace.slots.lookup name

def forget (workspace : Workspace) (name : String) : Workspace :=
  { workspace with slots := workspace.slots.filter fun entry => entry.1 != name }

def drop (workspace : Workspace) (name : String) : List Event × Workspace :=
  let rest := workspace.forget name
  match workspace.slot? name with
  | some (.sender sender) =>
      let (events, halves) := rest.halves.dropSender sender
      (events, { rest with halves })
  | some (.receiver receiver) => ([], { rest with halves := rest.halves.dropReceiver receiver })
  | _ => ([], rest)

def put (workspace : Workspace) (name : String) (slot : Slot) : List Event × Workspace :=
  let (events, rest) := workspace.drop name
  (events, { rest with slots := rest.slots ++ [(name, slot)] })

def pipe? (workspace : Workspace) : Slot → Option (Holder × Pipe)
  | .whole pipe => some (.whole, pipe)
  | .sender sender => (workspace.halves.pipe? sender.number).map (.half .sending, ·)
  | .receiver receiver => (workspace.halves.pipe? receiver.number).map (.half .receiving, ·)

def setPipe (workspace : Workspace) (name : String) (slot : Slot) (pipe : Pipe) : Workspace :=
  match slot with
  | .whole _ =>
      { workspace with
        slots := workspace.slots.map fun entry =>
          if entry.1 = name then (entry.1, .whole pipe) else entry }
  | .sender sender => { workspace with halves := workspace.halves.setPipe sender.number pipe }
  | .receiver receiver => { workspace with halves := workspace.halves.setPipe receiver.number pipe }

def create (workspace : Workspace) (name : String) (capacity : Nat) : Step :=
  match Pipe.create capacity with
  | .ok pipe =>
      let (events, after) := workspace.put name (.whole pipe)
      ⟨.done, events, after⟩
  | .error misuse => ⟨.misuse misuse, [], workspace⟩

def split (workspace : Workspace) (name : String) (pipe : Pipe)
    (senderName receiverName : String) : Step :=
  let (sender, receiver, halves) := workspace.halves.split pipe
  let rest := { workspace.forget name with halves }
  let (sendingEvents, rest) := rest.put senderName (.sender sender)
  let (receivingEvents, rest) := rest.put receiverName (.receiver receiver)
  ⟨.done, sendingEvents ++ receivingEvents, rest⟩

def reunite (workspace : Workspace) (name : String) (sender : Sender) (receiver : Receiver)
    (senderName receiverName : String) : Step :=
  match workspace.halves.reunite sender receiver with
  | some (pipe, halves) =>
      let rest := { (workspace.forget senderName).forget receiverName with halves }
      let (events, after) := rest.put name (.whole pipe)
      ⟨.reunited, events, after⟩
  | none => ⟨.foreignHalves, [], workspace⟩

def ask (workspace : Workspace) (name : String) (slot : Slot) (request : Request) : Option Step :=
  match workspace.pipe? slot with
  | some (holder, pipe) =>
      if request.permitted holder then
        let (reply, after) := pipe.answer holder request
        some ⟨reply, pipe.events request, workspace.setPipe name slot after⟩
      else none
  | none => none

/-- A command that does not suit what its slots hold has no step. -/
def step (workspace : Workspace) (name : String) : Command → Option Step
  | .create capacity => some (workspace.create name capacity)
  | .drop =>
      let (events, after) := workspace.drop name
      some ⟨.done, events, after⟩
  | .clone target =>
      match workspace.slot? name with
      | some (.whole pipe) =>
          let (events, after) := workspace.put target (.whole pipe)
          some ⟨.done, events, after⟩
      | _ => none
  | .split sender receiver =>
      match workspace.slot? name with
      | some (.whole pipe) => some (workspace.split name pipe sender receiver)
      | _ => none
  | .reunite senderName receiverName =>
      match workspace.slot? senderName, workspace.slot? receiverName with
      | some (.sender sender), some (.receiver receiver) =>
          some (workspace.reunite name sender receiver senderName receiverName)
      | _, _ => none
  | .ask request =>
      match workspace.slot? name with
      | some slot => workspace.ask name slot request
      | none => none

def run : Workspace → List (String × Command) → Option (List Step)
  | _, [] => some []
  | workspace, (name, command) :: later => do
      let step ← workspace.step name command
      let steps ← run step.after later
      return step :: steps

end Workspace

end Conduit.Pipe
