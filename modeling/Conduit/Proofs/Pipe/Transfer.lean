import Conduit.Pipe.Lemmas
import Conduit.Pipe.Transfer
set_option autoImplicit false

namespace Conduit.Pipe.Transfer

structure Exact (payload : Bytes) (transfer : Transfer) : Prop where
  sound : transfer.pipe.Sound
  bytes : transfer.received ++ transfer.pipe.contents ++ transfer.pending = payload
  ended_eq : transfer.pipe.ended = !transfer.producing
  pending_eq : transfer.producing = false → transfer.pending = []
  totalIn_eq :
    transfer.pipe.totalIn = .ofNat (transfer.received.length + transfer.pipe.contents.length)
  totalOut_eq : transfer.pipe.totalOut = .ofNat transfer.received.length
  finished : transfer.finished = true → transfer.pipe.atEnd = true

namespace Exact

variable {payload : Bytes} {transfer : Transfer}

theorem start (capacity : Nat) (payload : Bytes) :
    (Transfer.start (empty capacity) payload).Exact payload := by
  have nothing := contents_empty capacity
  constructor
  case sound => exact empty_sound capacity
  case bytes =>
    show [] ++ (empty capacity).contents ++ payload = payload
    rw [nothing, List.nil_append, List.nil_append]
  case ended_eq => rfl
  case pending_eq => simp [Transfer.start]
  case totalIn_eq =>
    show (0 : UInt64) = .ofNat (0 + (empty capacity).contents.length)
    rw [nothing]
    rfl
  case totalOut_eq => rfl
  case finished => simp [Transfer.start]

theorem write (holds : transfer.Exact payload) (producing : transfer.producing = true)
    (offer : Bytes) (rest : Bytes) (pending : transfer.pending = offer ++ rest) :
    { transfer with
      pending := transfer.pending.drop (transfer.pipe.write offer).1
      pipe := (transfer.pipe.write offer).2 }.Exact payload := by
  have sound := holds.sound
  have within := transfer.pipe.accepted_le_length offer
  have contents := contents_write sound offer
  have count := transfer.pipe.write_fst offer
  constructor
  case sound => exact write_sound sound offer
  case bytes =>
    show transfer.received ++ (transfer.pipe.write offer).2.contents ++
      transfer.pending.drop (transfer.pipe.write offer).1 = payload
    have whole := List.take_append_drop (transfer.pipe.accepted offer) offer
    rw [contents, count, ← holds.bytes, pending, List.drop_append_of_le_length within]
    simp only [List.append_assoc]
    rw [← List.append_assoc (offer.take _), whole]
  case ended_eq => exact (transfer.pipe.ended_write offer).trans holds.ended_eq
  case pending_eq =>
    intro gone
    rw [show transfer.producing = false from gone] at producing
    contradiction
  case totalIn_eq =>
    show (transfer.pipe.write offer).2.totalIn = .ofNat (transfer.received.length +
      (transfer.pipe.write offer).2.contents.length)
    rw [totalIn_write, contents, List.length_append, length_accepted, holds.totalIn_eq,
      ← UInt64.ofNat_add, Nat.add_assoc]
  case totalOut_eq => exact (transfer.pipe.totalOut_write offer).trans holds.totalOut_eq
  case finished =>
    intro finished
    -- A pipe at its end has been ended, and this one has not.
    have ended := holds.finished finished
    rw [atEnd, holds.ended_eq, producing] at ended
    simp at ended

theorem leave (holds : transfer.Exact payload) (nothing : transfer.pending = []) :
    { transfer with producing := false, pipe := transfer.pipe.finish }.Exact payload := by
  constructor
  case sound => exact finish_sound holds.sound
  case bytes => exact holds.bytes
  case ended_eq => rfl
  case pending_eq => exact fun _ => nothing
  case totalIn_eq => exact holds.totalIn_eq
  case totalOut_eq => exact holds.totalOut_eq
  case finished =>
    intro finished
    have ended := holds.finished finished
    rw [atEnd, Bool.and_eq_true] at ended
    exact ended.2

theorem produce (holds : transfer.Exact payload) (chunk : Nat) :
    (transfer.produce chunk).Exact payload := by
  unfold Transfer.produce
  by_cases producing : transfer.producing = true
  next =>
    rw [if_neg (by simp [producing])]
    by_cases nothing : transfer.pending = []
    next =>
      rw [if_pos (by simp [nothing])]
      exact holds.leave nothing
    next =>
      rw [if_neg (by simp [nothing])]
      exact holds.write producing _ _ (List.take_append_drop chunk transfer.pending).symm
  next =>
    rw [if_pos (by simp [producing])]
    exact holds

theorem check (holds : transfer.Exact payload) : transfer.check.Exact payload :=
  { holds with
    finished := by
      intro finished
      simp only [Transfer.check, Bool.or_eq_true] at finished
      exact finished.elim holds.finished id }

theorem collect (holds : transfer.Exact payload) (chunk : Nat) :
    (transfer.collect chunk).Exact payload := by
  have sound := holds.sound
  have received := transfer.received_collect chunk
  have piece := peek_eq sound chunk
  have pipe : (transfer.collect chunk).pipe = transfer.pipe.discard chunk := by
    show (transfer.pipe.read chunk).2 = _
    rw [read_eq sound]
  have contents := contents_discard sound chunk
  have size := length_contents sound
  constructor
  case sound => rw [pipe]; exact discard_sound sound chunk
  case bytes =>
    show _ ++ _ ++ transfer.pending = payload
    rw [received, pipe, contents, piece, List.append_assoc transfer.received,
      List.take_append_drop, holds.bytes]
  case ended_eq => rw [pipe, ended_discard]; exact holds.ended_eq
  case pending_eq => exact holds.pending_eq
  case totalIn_eq =>
    rw [pipe, totalIn_discard, holds.totalIn_eq, received, contents, piece]
    congr 1
    simp only [List.length_append, List.length_take, List.length_drop]
    omega
  case totalOut_eq =>
    rw [pipe, totalOut_discard, holds.totalOut_eq, received, piece, List.length_append,
      List.length_take, size, ← UInt64.ofNat_add]
  case finished =>
    intro finished
    have ended := holds.finished finished
    simp only [atEnd, isEmpty, Bool.and_eq_true, beq_iff_eq] at ended
    simp [pipe, atEnd, isEmpty, ended.1, ended.2]

theorem received_eq (holds : transfer.Exact payload) (ended : transfer.pipe.atEnd = true) :
    transfer.received = payload := by
  obtain ⟨isEnded, nothing⟩ := (atEnd_iff holds.sound).1 ended
  have gone : transfer.producing = false := by
    simpa [isEnded] using holds.ended_eq
  have bytes := holds.bytes
  rwa [nothing, holds.pending_eq gone, List.append_nil, List.append_nil] at bytes

end Exact

end Conduit.Pipe.Transfer
