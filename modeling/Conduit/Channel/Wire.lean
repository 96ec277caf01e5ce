import Conduit.Channel.Link
set_option autoImplicit false

namespace Conduit

inductive Breakage
  | whole
  | broken
  | told
  deriving DecidableEq, Repr

inductive Departure
  | stays
  | ends
  | breaks
  deriving DecidableEq, Repr

structure Wire where
  arriving : Bytes
  departure : Departure
  delivered : Bytes
  sendingEnded : Bool
  receivingEnded : Bool
  breakage : Breakage
  deriving DecidableEq, Repr

namespace Wire

def fresh : Wire :=
  { arriving := []
    departure := .stays
    delivered := []
    sendingEnded := false
    receivingEnded := false
    breakage := .whole }

def resetFault : Fault := .system 104

def brokenFault : Fault := .system 32

def notConnectedFault : Fault := .system 107

def depart (wire : Wire) : Arrival × Wire :=
  match wire.departure with
  | .stays => (.overdue, wire)
  | .ends => (.bytes [], wire)
  | .breaks => (.failed resetFault, { wire with breakage := .told })

def receive (wire : Wire) (room : Nat) : Arrival × Wire :=
  match wire.breakage with
  | .broken => (.failed resetFault, { wire with breakage := .told })
  | .told => (.bytes [], wire)
  | .whole =>
      if wire.arriving.isEmpty then wire.depart
      else
        (.bytes (wire.arriving.take room), { wire with arriving := wire.arriving.drop room })

def send (wire : Wire) (data : Bytes) : Sending × Wire :=
  match wire.breakage with
  | .broken => (.failed resetFault, { wire with breakage := .told })
  | .told => (.failed brokenFault, wire)
  | .whole => (.taken, { wire with delivered := wire.delivered ++ data })

def endSending (wire : Wire) : Except Fault Unit × Wire :=
  if wire.breakage = .whole then (.ok (), { wire with sendingEnded := true })
  else (.error notConnectedFault, wire)

def endReceiving (wire : Wire) : Except Fault Unit × Wire :=
  if wire.breakage = .whole then (.ok (), { wire with receivingEnded := true })
  else (.error notConnectedFault, wire)

instance : Link Wire where
  receive := receive
  send := send
  endSending := endSending
  endReceiving := endReceiving
  pending wire := wire.arriving.length

theorem depart_bytes (wire after : Wire) (data : Bytes)
    (reading : wire.depart = (.bytes data, after)) : data = [] ∧ after = wire := by
  unfold depart at reading
  split at reading <;>
    simp only [Prod.mk.injEq, Arrival.bytes.injEq, reduceCtorEq, false_and] at reading
  exact ⟨reading.1.symm, reading.2.symm⟩

theorem receive_bytes (wire after : Wire) (room : Nat) (data : Bytes)
    (reading : wire.receive room = (.bytes data, after)) :
    (data = [] ∧ after = wire) ∨
      (data = wire.arriving.take room ∧ after.arriving = wire.arriving.drop room) := by
  unfold receive at reading
  split at reading
  next => simp at reading
  next =>
    simp only [Prod.mk.injEq, Arrival.bytes.injEq] at reading
    exact .inl ⟨reading.1.symm, reading.2.symm⟩
  next =>
    split at reading
    next => exact .inl (depart_bytes wire after data reading)
    next =>
      simp only [Prod.mk.injEq, Arrival.bytes.injEq] at reading
      exact .inr ⟨reading.1.symm, by rw [← reading.2]⟩

instance : LawfulLink Wire where
  receive_length_le wire after room data reading := by
    rcases receive_bytes wire after room data reading with ⟨none, _⟩ | ⟨taken, _⟩
    · simp [none]
    · rw [taken, List.length_take]
      exact Nat.min_le_left _ _
  receive_pending_le wire after room data reading := by
    show after.arriving.length + data.length ≤ wire.arriving.length
    rcases receive_bytes wire after room data reading with ⟨none, same⟩ | ⟨taken, left⟩
    · simp [none, same]
    · rw [taken, left, List.length_take, List.length_drop]
      omega

end Wire

inductive PeerAction
  | send (data : Bytes)
  | finish
  | take (count : Nat)
  | takeAll
  | reset
  deriving DecidableEq, Repr

def Wire.peer (wire : Wire) : PeerAction → Option Bytes × Wire
  | .send data => (none, { wire with arriving := wire.arriving ++ data })
  | .finish => (none, { wire with departure := .ends })
  | .take count =>
      (some (wire.delivered.take count), { wire with delivered := wire.delivered.drop count })
  | .takeAll => (some wire.delivered, { wire with delivered := [] })
  | .reset => (none, { wire with breakage := .broken })

end Conduit
