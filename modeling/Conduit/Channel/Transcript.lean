import Conduit.Channel.Link
set_option autoImplicit false

namespace Conduit

inductive Exchange
  | received (room : Nat) (arrival : Arrival)
  | sent (data : Bytes) (outcome : Sending)
  | sendingEnded (outcome : Except Fault Unit)
  | receivingEnded (outcome : Except Fault Unit)

structure Transcript where
  arrivals : List Arrival
  sendings : List Sending
  sendingEnds : List (Except Fault Unit)
  receivingEnds : List (Except Fault Unit)
  log : List Exchange

namespace Transcript

def blank : Transcript := ⟨[], [], [], [], []⟩

def record (transcript : Transcript) (exchange : Exchange) : Transcript :=
  { transcript with log := transcript.log ++ [exchange] }

/-- The next arrival and those after it. One that is too long for the room is read in parts. -/
def nextArrival (room : Nat) : List Arrival → Arrival × List Arrival
  | [] => (.overdue, [])
  | .bytes data :: later =>
      (.bytes (data.take room), if data.length ≤ room then later else .bytes (data.drop room) :: later)
  | arrival :: later => (arrival, later)

def receive (transcript : Transcript) (room : Nat) : Arrival × Transcript :=
  let (arrival, arrivals) := nextArrival room transcript.arrivals
  (arrival, { transcript with arrivals }.record (.received room arrival))

def nextOr {α : Type} (usual : α) : List α → α × List α
  | [] => (usual, [])
  | outcome :: later => (outcome, later)

def nextSending (sendings : List Sending) : Sending × List Sending := nextOr .taken sendings

def nextOutcome (outcomes : List (Except Fault Unit)) :
    Except Fault Unit × List (Except Fault Unit) :=
  nextOr (.ok ()) outcomes

def send (transcript : Transcript) (data : Bytes) : Sending × Transcript :=
  let (outcome, sendings) := nextSending transcript.sendings
  (outcome, { transcript with sendings }.record (.sent data outcome))

def endSending (transcript : Transcript) : Except Fault Unit × Transcript :=
  let (outcome, sendingEnds) := nextOutcome transcript.sendingEnds
  (outcome, { transcript with sendingEnds }.record (.sendingEnded outcome))

def endReceiving (transcript : Transcript) : Except Fault Unit × Transcript :=
  let (outcome, receivingEnds) := nextOutcome transcript.receivingEnds
  (outcome, { transcript with receivingEnds }.record (.receivingEnded outcome))

def totalLength : List Arrival → Nat
  | [] => 0
  | .bytes data :: later => data.length + totalLength later
  | _ :: later => totalLength later

instance : Link Transcript where
  receive := receive
  send := send
  endSending := endSending
  endReceiving := endReceiving
  pending transcript := totalLength transcript.arrivals

theorem nextArrival_bytes (room : Nat) (arrivals after : List Arrival) (data : Bytes)
    (next : nextArrival room arrivals = (.bytes data, after)) :
    data.length ≤ room ∧ totalLength after + data.length = totalLength arrivals := by
  unfold nextArrival at next
  split at next
  next => simp at next
  next all later =>
    simp only [Prod.mk.injEq, Arrival.bytes.injEq] at next
    obtain ⟨rfl, rfl⟩ := next
    refine ⟨by rw [List.length_take]; exact Nat.min_le_left _ _, ?_⟩
    by_cases fits : all.length ≤ room <;>
      simp only [fits, if_true, if_false, totalLength, List.length_take, List.length_drop] <;> omega
  next arrival later other =>
    simp only [Prod.mk.injEq] at next
    exact (other data next.1).elim

theorem receive_bytes (transcript after : Transcript) (room : Nat) (data : Bytes)
    (reading : transcript.receive room = (.bytes data, after)) :
    data.length ≤ room ∧
      totalLength after.arrivals + data.length = totalLength transcript.arrivals := by
  simp only [receive, Prod.mk.injEq] at reading
  obtain ⟨arrived, rfl⟩ := reading
  exact nextArrival_bytes room transcript.arrivals _ data (Prod.ext arrived rfl)

instance : LawfulLink Transcript where
  receive_length_le transcript after room data reading :=
    (receive_bytes transcript after room data reading).1
  receive_pending_le transcript after room data reading :=
    Nat.le_of_eq (receive_bytes transcript after room data reading).2

def taken : List Exchange → Bytes
  | [] => []
  | .received _ (.bytes data) :: later => data ++ taken later
  | _ :: later => taken later

def delivered : List Exchange → Bytes
  | [] => []
  | .sent data .taken :: later => data ++ delivered later
  | _ :: later => delivered later

end Transcript

end Conduit
