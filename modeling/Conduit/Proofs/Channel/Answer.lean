import Conduit.Channel.Transcript
import Conduit.Proofs.Channel.Staging
set_option autoImplicit false

namespace Conduit

namespace Transcript

variable {transcript : Transcript} {rest : Bytes}

structure Willing (transcript : Transcript) : Prop where
  sendings : transcript.sendings = []
  sendingEnds : transcript.sendingEnds = []
  receivingEnds : transcript.receivingEnds = []

namespace Willing

theorem record (willing : transcript.Willing) (exchange : Exchange) :
    (transcript.record exchange).Willing :=
  ⟨willing.sendings, willing.sendingEnds, willing.receivingEnds⟩

theorem receive (willing : transcript.Willing) (room : Nat) :
    (transcript.receive room).2.Willing :=
  ⟨willing.sendings, willing.sendingEnds, willing.receivingEnds⟩

theorem send (willing : transcript.Willing) (data : Bytes) :
    transcript.send data = (.taken, transcript.record (.sent data .taken)) := by
  cases transcript
  cases willing.sendings
  rfl

theorem endSending (willing : transcript.Willing) :
    transcript.endSending = (.ok (), transcript.record (.sendingEnded (.ok ()))) := by
  cases transcript
  cases willing.sendingEnds
  rfl

theorem endReceiving (willing : transcript.Willing) :
    transcript.endReceiving = (.ok (), transcript.record (.receivingEnded (.ok ()))) := by
  cases transcript
  cases willing.receivingEnds
  rfl

end Willing

theorem totalLength_pieces (pieces : List Bytes) :
    totalLength (pieces.map .bytes ++ [.bytes []]) = pieces.flatten.length := by
  induction pieces with
  | nil => rfl
  | cons piece later ih => rw [List.map_cons, List.cons_append, totalLength, ih,
      List.flatten_cons, List.length_append]

def answering (pieces : List Bytes) : Transcript :=
  { blank with arrivals := pieces.map .bytes ++ [.bytes []] }

structure Answers (rest : Bytes) (transcript : Transcript) : Prop where
  willing : transcript.Willing
  arrivals_eq : ∃ pieces : List Bytes, (∀ piece ∈ pieces, piece ≠ []) ∧ pieces.flatten = rest ∧
    transcript.arrivals = pieces.map .bytes ++ [.bytes []]

theorem answering_answers {pieces : List Bytes} (something : ∀ piece ∈ pieces, piece ≠ []) :
    (answering pieces).Answers pieces.flatten :=
  { willing := ⟨rfl, rfl, rfl⟩
    arrivals_eq := ⟨pieces, something, rfl, rfl⟩ }

inductive Brings (rest : Bytes) : Arrival → Transcript → Prop
  | more (data later : Bytes) (after : Transcript) (something : data ≠ [])
      (split : data ++ later = rest) (answers : after.Answers later) :
      Brings rest (.bytes data) after
  | last (after : Transcript) (nothing : rest = []) (willing : after.Willing) :
      Brings rest (.bytes []) after

namespace Answers

theorem record (answers : transcript.Answers rest) (exchange : Exchange) :
    (transcript.record exchange).Answers rest :=
  ⟨answers.willing.record exchange, answers.arrivals_eq⟩

theorem pending_eq (answers : transcript.Answers rest) : Link.pending transcript = rest.length := by
  obtain ⟨pieces, -, rfl, arrivals⟩ := answers.arrivals_eq
  show totalLength transcript.arrivals = _
  rw [arrivals, totalLength_pieces]

theorem receive (answers : transcript.Answers rest) {room : Nat} (positive : 0 < room) :
    Brings rest (transcript.receive room).1 (transcript.receive room).2 := by
  have willing := answers.willing.receive room
  obtain ⟨pieces, something, rfl, arrivals⟩ := answers.arrivals_eq
  cases pieces with
  | nil =>
    have brought : (transcript.receive room).1 = .bytes [] := by
      simp [Transcript.receive, arrivals, nextArrival]
    rw [brought]
    exact .last _ rfl willing
  | cons piece later =>
    obtain ⟨first, others⟩ := List.forall_mem_cons.mp something
    have brought : (transcript.receive room).1 = .bytes (piece.take room) := by
      simp [Transcript.receive, arrivals, nextArrival]
    have some : piece.take room ≠ [] := by
      rw [ne_eq, List.take_eq_nil_iff]
      exact not_or.mpr ⟨by omega, first⟩
    rw [brought]
    by_cases fits : piece.length ≤ room
    next =>
      refine .more _ later.flatten _ some (by simp [List.take_of_length_le fits]) ⟨willing, ?_⟩
      exact ⟨later, others, rfl, by simp [Transcript.receive, arrivals, nextArrival, fits,
        Transcript.record]⟩
    next =>
      -- The tail of a long piece is a piece of its own.
      have remains : piece.drop room ≠ [] := by
        rw [ne_eq, List.drop_eq_nil_iff]
        exact fits
      refine .more _ (piece.drop room :: later).flatten _ some
        (by simp [← List.append_assoc]) ⟨willing, ?_⟩
      exact ⟨piece.drop room :: later, List.forall_mem_cons.mpr ⟨remains, others⟩, rfl,
        by simp [Transcript.receive, arrivals, nextArrival, fits, Transcript.record]⟩

end Answers

end Transcript

namespace Channel

variable {channel : Channel Transcript}

structure Heard (capacity : Nat) (chunk : Bytes) (channel after : Channel Transcript) : Prop where
  read_eq : channel.read = (.done chunk, after)
  log_eq : after.link.log = channel.link.log ++ [.received capacity (.bytes chunk)]
  writeClosed_eq : after.writeClosed = channel.writeClosed
  readClosed_eq : after.readClosed = channel.readClosed

theorem read_answers {capacity : Nat} (positive : 0 < capacity) {rest : Bytes}
    (settled : channel.Settled capacity) (going : channel.inbound.ended = false)
    (answers : channel.link.Answers rest) :
    (rest = [] ∧ ∃ after, Heard capacity [] channel after ∧ after.atEnd = true ∧
        after.link.Willing) ∨
      ∃ chunk later after, chunk ≠ [] ∧ chunk ++ later = rest ∧ Heard capacity chunk channel after ∧
        after.Settled capacity ∧ after.inbound.ended = false ∧ after.link.Answers later := by
  have reading := settled.reading
  have kept := reading.settled settled
  have brings (arrival : Arrival) (link : Transcript)
      (came : Link.receive channel.link channel.inbound.room = (arrival, link)) :
      Transcript.Brings rest arrival link ∧
        link.log = channel.link.log ++ [.received capacity arrival] := by
    rw [settled.room_eq] at came
    have brought := answers.receive positive
    obtain ⟨rfl, rfl⟩ := Prod.mk.inj came
    exact ⟨brought, rfl⟩
  generalize read : channel.read = result at reading kept
  obtain ⟨outcome, after⟩ := result
  simp only at reading kept
  -- The peer neither fails nor lets a read wait, so of all readings only two are left.
  cases reading with
  | idle ended =>
    rw [going] at ended
    cases ended
  | failed fault link going came => cases (brings _ _ came).1
  | timedOut limit link going came limited => cases (brings _ _ came).1
  | stalled link going came unlimited => cases (brings _ _ came).1
  | ended link going came =>
    obtain ⟨brought, log⟩ := brings _ _ came
    cases brought with
    | more data later after something => exact absurd rfl something
    | last after nothing willing =>
      refine .inl ⟨nothing, _, ⟨read, log, rfl, rfl⟩, ?_, willing⟩
      simp [atEnd, Pipe.atEnd, Pipe.finish, Pipe.isEmpty, settled.nothing]
  | arrived data link going came something fits =>
    obtain ⟨brought, log⟩ := brings _ _ came
    cases brought with
    | last => exact absurd rfl something
    | more _ later _ _ split answers =>
      exact .inr ⟨data, later, _, something, split, ⟨read, log, rfl, rfl⟩, kept,
        (Pipe.ended_relay data).trans going, answers⟩

def told (channel : Channel Transcript) (data : Bytes) : Channel Transcript :=
  { channel with link := channel.link.record (.sent data .taken) }

theorem write_willing (willing : channel.link.Willing) (writing : channel.writeClosed = false)
    {data : Bytes} (something : data ≠ []) :
    channel.write data = (.done data.length, channel.told data) :=
  write_of_sent writing something (willing.send data)

def shut (channel : Channel Transcript) : Channel Transcript :=
  { channel with
    link := (channel.link.record (.sendingEnded (.ok ()))).record (.receivingEnded (.ok ()))
    inbound := channel.inbound.finish
    writeClosed := true
    readClosed := true }

theorem close_willing (willing : channel.link.Willing) (writing : channel.writeClosed = false)
    (reading : channel.readClosed = false) : channel.close = (.ok (), channel.shut) := by
  have first : Link.endSending channel.link =
      (.ok (), channel.link.record (.sendingEnded (.ok ()))) := willing.endSending
  have second (exchange : Exchange) : Link.endReceiving (channel.link.record exchange) =
      (.ok (), (channel.link.record exchange).record (.receivingEnded (.ok ()))) :=
    (willing.record exchange).endReceiving
  simp [close, shutdown, Direction.writes, Direction.reads, closeWrite, closeRead, writing,
    reading, first, second, closing, shut]

end Channel

end Conduit
