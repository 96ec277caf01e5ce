import Conduit.Fault
import Conduit.Pipe.Basic
set_option autoImplicit false

/-!
Links: what a channel needs of a connection to a peer. A read asks for at most so many bytes; it may bring
some, fail, or find that nothing comes for as long as anyone waits. A read that brings no bytes means that
the peer has ended. A write is overdue if its data is not all taken for as long as anyone waits.
-/

namespace Conduit

inductive Arrival
  | bytes (data : Bytes)
  | failed (fault : Fault)
  | overdue
  deriving DecidableEq, Repr

/-- How a write comes out that is to hand over all of its data. -/
inductive Sending
  | taken
  | failed (fault : Fault)
  | overdue
  deriving DecidableEq, Repr

class Link (σ : Type) where
  receive : σ → Nat → Arrival × σ
  send : σ → Bytes → Sending × σ
  endSending : σ → Except Fault Unit × σ
  endReceiving : σ → Except Fault Unit × σ
  pending : σ → Nat

class LawfulLink (σ : Type) [Link σ] : Prop where
  receive_length_le (link after : σ) (room : Nat) (data : Bytes) :
    Link.receive link room = (.bytes data, after) → data.length ≤ room
  receive_pending_le (link after : σ) (room : Nat) (data : Bytes) :
    Link.receive link room = (.bytes data, after) →
      Link.pending after + data.length ≤ Link.pending link

end Conduit
