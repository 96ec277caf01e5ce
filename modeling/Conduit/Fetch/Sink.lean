import Conduit.Fault
import Conduit.Pipe.Basic
set_option autoImplicit false

namespace Conduit

class Sink (ω : Type) where
  accept : ω → Bytes → Except Fault Nat × ω
  flush : ω → Except Fault Unit × ω

namespace Sink

variable {ω : Type} [Sink ω]

def writeAll (sink : ω) (data : Bytes) : Except Fault Unit × ω :=
  match data with
  | [] => (.ok (), sink)
  | byte :: more =>
    match accept sink (byte :: more) with
    | (.error fault, after) => (.error fault, after)
    | (.ok 0, after) => (.error (.plain .writeZero), after)
    | (.ok (count + 1), after) => writeAll after (more.drop count)
  termination_by data.length
  decreasing_by simp only [List.length_cons, List.length_drop]; omega

end Sink

structure BoundedSink where
  taken : Bytes
  limit : Option Nat
  step : Option Nat
  full : Option Fault
  flushing : Option Fault
  deriving DecidableEq, Repr

namespace BoundedSink

def unbounded : BoundedSink := ⟨[], none, none, none, none⟩

def atMost (bound : Option Nat) (count : Nat) : Nat :=
  match bound with
  | some limit => min limit count
  | none => count

def accept (sink : BoundedSink) (data : Bytes) : Except Fault Nat × BoundedSink :=
  let room := sink.limit.map (· - sink.taken.length)
  if room = some 0 then
    match sink.full with
    | some fault => (.error fault, sink)
    | none => (.ok 0, sink)
  else
    let count := atMost sink.step (atMost room data.length)
    (.ok count, { sink with taken := sink.taken ++ data.take count })

def flush (sink : BoundedSink) : Except Fault Unit × BoundedSink :=
  match sink.flushing with
  | some fault => (.error fault, sink)
  | none => (.ok (), sink)

instance : Sink BoundedSink where
  accept := accept
  flush := flush

end BoundedSink

end Conduit
