import Conduit.Proofs.Pipe.Backpressure
import Conduit.Proofs.Pipe.Consuming
import Conduit.Proofs.Pipe.Guarded
import Conduit.Proofs.Pipe.Pending
set_option autoImplicit false

namespace Conduit.Pipe

def Request.demand : Request → Nat
  | advance count => count
  | takeBytes count => count
  | takeNumber format => format.width
  | _ => 0

def answerAll (pipe : Pipe) : List Request → List Reply × Pipe
  | [] => ([], pipe)
  | request :: later =>
    let (reply, after) := pipe.answer .whole request
    let (replies, last) := after.answerAll later
    (reply :: replies, last)

namespace Guarded

def tryWrite (pipe : Pipe) (data : Bytes) : Except Trap (Except Fault Nat × Pipe) :=
  if pipe.ended then .ok (.error inputEndedFault, pipe)
  else if data.isEmpty then .ok (.ok 0, pipe)
  else do
    match ← write pipe data with
    | (0, rest) => .ok (.error (.plain .wouldBlock), rest)
    | (count, rest) => .ok (.ok count, rest)

def tryRead (pipe : Pipe) (buffer : Bytes) : Except Trap (Except Fault Nat × Bytes × Pipe) :=
  if buffer.isEmpty || pipe.atEnd then .ok (.ok 0, buffer, pipe)
  else if pipe.isEmpty then .ok (.error (.plain .wouldBlock), buffer, pipe)
  else do
    let (count, filled, rest) ← readInto pipe buffer
    .ok (.ok count, filled, rest)

def writeAll (pipe : Pipe) (data : Bytes) : Except Trap (Except Fault Unit × Pipe) :=
  match data with
  | [] => .ok (.ok (), pipe)
  | byte :: more =>
    match tryWrite pipe (byte :: more) with
    | .error trap => .error trap
    | .ok (.error fault, rest) => .ok (.error fault, rest)
    | .ok (.ok 0, rest) => .ok (.error nothingWrittenFault, rest)
    | .ok (.ok (count + 1), rest) =>
      match _cut : slice (byte :: more) (count + 1) (byte :: more).length with
      | .error trap => .error trap
      | .ok left => writeAll rest left
  termination_by data.length
  decreasing_by
    have length := length_of_slice _cut
    simp only [List.length_cons] at length ⊢
    omega

def readExact (pipe : Pipe) (buffer : Bytes) : Except Trap (Except Fault Bytes × Pipe) :=
  match buffer with
  | [] => .ok (.ok [], pipe)
  | byte :: more =>
    match tryRead pipe (byte :: more) with
    | .error trap => .error trap
    | .ok (.error fault, _, rest) => .ok (.error fault, rest)
    | .ok (.ok 0, _, rest) => .ok (.error endedEarlyFault, rest)
    | .ok (.ok (count + 1), filled, rest) =>
      match _cut : slice (byte :: more) (count + 1) (byte :: more).length with
      | .error trap => .error trap
      | .ok left => do
        let front ← slice filled 0 (count + 1)
        match ← readExact rest left with
        | (.error fault, final) => .ok (.error fault, final)
        | (.ok bytes, final) => .ok (.ok (front ++ bytes), final)
  termination_by buffer.length
  decreasing_by
    have length := length_of_slice _cut
    simp only [List.length_cons] at length ⊢
    omega

def drain : Nat → Pipe → Except Trap (Drained × Pipe)
  | 0, pipe => .ok (⟨[], none⟩, pipe)
  | calls + 1, pipe => do
    match ← tryRead pipe drainBuffer with
    | (.error fault, _, rest) => .ok (⟨[], some fault⟩, rest)
    | (.ok 0, _, rest) => .ok (⟨[], none⟩, rest)
    | (.ok (count + 1), filled, rest) =>
      let front ← slice filled 0 (count + 1)
      let (more, final) ← drain calls rest
      .ok (⟨front ++ more.bytes, more.fault⟩, final)

def chunk (pipe : Pipe) : Except Trap Bytes := do
  let (front, _) ← segments pipe (wordLimit - 1)
  .ok front

def fillSlots (slots : Nat) (filled : List Bytes) : List Bytes → Except Trap (List Bytes)
  | [] => .ok filled
  | run :: later =>
    if run.isEmpty || filled.length == slots then .ok filled
    else if slots ≤ filled.length then .error .outOfBounds
    else fillSlots slots (filled ++ [run]) later

def chunks (pipe : Pipe) (slots : Nat) : Except Trap (List Bytes) := do
  let (front, back) ← segments pipe (wordLimit - 1)
  fillSlots slots [] [front, back]

def advance (pipe : Pipe) (count : Nat) : Except Trap Pipe :=
  if count ≤ pipe.size then discard pipe count else .error (.misuse (.advancePast count pipe.size))

def takePiece (pipe : Pipe) (count : Nat) : Except Trap (Bytes × Pipe) := do
  let front ← chunk pipe
  let piece ← slice front 0 (min front.length count)
  let rest ← advance pipe piece.length
  .ok (piece, rest)

def gather (pipe : Pipe) (count : Nat) : Except Trap (Bytes × Pipe) :=
  match takePiece pipe count with
  | .error trap => .error trap
  | .ok ([], _) => .ok ([], pipe)
  | .ok (byte :: more, rest) =>
    match _left : sub count (byte :: more).length with
    | .error trap => .error trap
    | .ok later => do
      let (bytes, last) ← gather rest later
      .ok (byte :: more ++ bytes, last)
  termination_by count
  decreasing_by
    have less := le_of_sub _left
    simp only [List.length_cons] at less
    omega

def takeBytes (pipe : Pipe) (count : Nat) : Except Trap (Bytes × Pipe) :=
  if count ≤ pipe.size then do
    reserve count
    gather pipe count
  else .error (.misuse .shortRead)

def takeNumber (pipe : Pipe) (format : NumberFormat) : Except Trap (Int × Pipe) :=
  if pipe.size < format.width then .error (.misuse .shortRead)
  else do
    let front ← chunk pipe
    if format.width ≤ front.length then do
      let bytes ← slice front 0 format.width
      let rest ← advance pipe format.width
      .ok (format.decode bytes, rest)
    else do
      let (bytes, rest) ← gather pipe format.width
      .ok (format.decode bytes, rest)

def answer (pipe : Pipe) : Request → Except Trap (Reply × Pipe)
  | .write data => do
      let (count, rest) ← write pipe data
      .ok (.count count, rest)
  | .finish => .ok (.done, pipe.finish)
  | .peek count => do .ok (.bytes (← peek pipe count), pipe)
  | .discard count => do .ok (.done, ← discard pipe count)
  | .read count => do
      let (bytes, rest) ← read pipe count
      .ok (.bytes bytes, rest)
  | .describe layout => .ok (.text (pipe.describe layout), pipe)
  | .segments count => do
      let (front, back) ← segments pipe count
      .ok (.runs front back, pipe)
  | .readInto buffer => do
      let (count, filled, rest) ← readInto pipe buffer
      .ok (.filled count filled, rest)
  | .tryWrite data => do
      match ← tryWrite pipe data with
      | (.ok count, rest) => .ok (.wrote count, rest)
      | (.error fault, rest) => .ok (.fault fault, rest)
  | .writeAll data => do
      match ← writeAll pipe data with
      | (.ok (), rest) => .ok (.succeeded, rest)
      | (.error fault, rest) => .ok (.fault fault, rest)
  | .flush =>
      match pipe.flush with
      | .ok () => .ok (.succeeded, pipe)
      | .error fault => .ok (.fault fault, pipe)
  | .tryRead buffer => do
      match ← tryRead pipe buffer with
      | (.ok count, filled, rest) => .ok (.received count filled, rest)
      | (.error fault, _, rest) => .ok (.fault fault, rest)
  | .readExact buffer => do
      match ← readExact pipe buffer with
      | (.ok bytes, rest) => .ok (.exactly bytes, rest)
      | (.error fault, rest) => .ok (.fault fault, rest)
  | .readToEnd => do
      let (outcome, rest) ← drain (pipe.size + 1) pipe
      .ok (.drained outcome, rest)
  | .remaining => .ok (.count pipe.size, pipe)
  | .chunk => do .ok (.bytes (← chunk pipe), pipe)
  | .chunks slots => do .ok (.chunks (← chunks pipe slots), pipe)
  | .advance count => do .ok (.done, ← advance pipe count)
  | .takeBytes count => do
      let (bytes, rest) ← takeBytes pipe count
      .ok (.bytes bytes, rest)
  | .takeNumber format => do
      let (value, rest) ← takeNumber pipe format
      .ok (.number value, rest)

/-- Requests one after the other. A misuse is reported and leaves the pipe as it was; any other trap ends the run. -/
def answerAll (pipe : Pipe) : List Request → Except Trap (List Reply × Pipe)
  | [] => .ok ([], pipe)
  | request :: later =>
    match answer pipe request with
    | .error (.misuse problem) => do
      let (replies, last) ← answerAll pipe later
      .ok (.misuse problem :: replies, last)
    | .error trap => .error trap
    | .ok (reply, after) => do
      let (replies, last) ← answerAll after later
      .ok (reply :: replies, last)

variable {pipe : Pipe}

theorem Safe.tryWrite (safe : Safe pipe) (data : Bytes) : Safe (pipe.tryWrite data).2 :=
  tryWrite_keeps (P := Safe) (fun _ data kept => kept.write data) safe data

theorem Safe.tryRead (safe : Safe pipe) (buffer : Bytes) : Safe (pipe.tryRead buffer).2.2 :=
  tryRead_keeps (P := Safe) (fun _ count kept => kept.discard count) safe buffer

theorem tryWrite_eq (safe : Safe pipe) (data : Bytes) : tryWrite pipe data = .ok (pipe.tryWrite data) := by
  unfold tryWrite Pipe.tryWrite
  by_cases ended : pipe.ended
  next => rw [if_pos ended, if_pos ended]
  next =>
    by_cases nothing : data.isEmpty
    next => rw [if_neg ended, if_neg ended, if_pos nothing, if_pos nothing]
    next =>
      rw [if_neg ended, if_neg ended, if_neg nothing, if_neg nothing, write_eq safe, ok_bind]
      rcases pipe.write data with ⟨_ | count, rest⟩ <;> rfl

theorem tryRead_eq (safe : Safe pipe) (buffer : Bytes) : tryRead pipe buffer = .ok (pipe.tryRead buffer) := by
  unfold tryRead Pipe.tryRead
  by_cases stops : buffer.isEmpty || pipe.atEnd
  next => rw [if_pos stops, if_pos stops]
  next =>
    by_cases nothing : pipe.isEmpty
    next => rw [if_neg stops, if_neg stops, if_pos nothing, if_pos nothing]
    next => rw [if_neg stops, if_neg stops, if_neg nothing, if_neg nothing, readInto_eq safe, ok_bind]

theorem tryWrite_le {data : Bytes} {count : Nat} {rest : Pipe} (came : pipe.tryWrite data = (.ok count, rest)) :
    count ≤ data.length := by
  rw [Pipe.tryWrite_eq] at came
  split at came
  next => cases came
  split at came
  next =>
    cases came
    exact Nat.zero_le _
  split at came
  next => cases came
  next =>
    cases came
    exact Nat.min_le_right _ _

theorem tryRead_le (safe : Safe pipe) {buffer filled : Bytes} {count : Nat} {rest : Pipe}
    (came : pipe.tryRead buffer = (.ok count, filled, rest)) :
    count ≤ buffer.length ∧ count ≤ filled.length := by
  rw [Pipe.tryRead_eq safe.toSound] at came
  split at came
  next =>
    cases came
    exact ⟨Nat.zero_le _, Nat.zero_le _⟩
  split at came
  next => cases came
  next =>
    cases came
    rw [List.length_append, List.length_take, length_contents safe.toSound]
    omega

theorem writeAll_eq (safe : Safe pipe) (data : Bytes) : writeAll pipe data = .ok (pipe.writeAll data) := by
  fun_induction Pipe.writeAll pipe data with
  | case1 pipe => rw [writeAll]
  | case2 pipe byte more fault rest came => rw [writeAll, tryWrite_eq safe, came]
  | case3 pipe byte more rest came => rw [writeAll, tryWrite_eq safe, came]
  | case4 pipe byte more count rest came ih =>
    have after := safe.tryWrite (byte :: more)
    rw [came] at after
    have there := slice_to_end (tryWrite_le came)
    rw [writeAll, tryWrite_eq safe, came]
    simp only
    split
    next trap broke => cases there.symm.trans broke
    next left went =>
      cases there.symm.trans went
      exact ih after

theorem readExact_cons (safe : Safe pipe) {byte : UInt8} {more filled : Bytes} {count : Nat} {rest : Pipe}
    (came : pipe.tryRead (byte :: more) = (.ok (count + 1), filled, rest)) :
    readExact pipe (byte :: more) = (do
      match ← readExact rest (more.drop count) with
      | (.error fault, final) => .ok (.error fault, final)
      | (.ok bytes, final) => .ok (.ok (filled.take (count + 1) ++ bytes), final)) := by
  obtain ⟨within, brought⟩ := tryRead_le safe came
  have there := slice_to_end within
  rw [readExact, tryRead_eq safe, came]
  simp only
  split
  next trap broke => cases there.symm.trans broke
  next left cut =>
    cases there.symm.trans cut
    rw [slice_from_start brought, ok_bind, List.drop_succ_cons]

theorem readExact_eq (safe : Safe pipe) (buffer : Bytes) :
    readExact pipe buffer = .ok (pipe.readExact buffer) := by
  fun_induction Pipe.readExact pipe buffer with
  | case1 pipe => rw [readExact]
  | case2 pipe byte more fault filled rest came => rw [readExact, tryRead_eq safe, came]
  | case3 pipe byte more filled rest came => rw [readExact, tryRead_eq safe, came]
  | case4 pipe byte more count filled rest came fault final failed ih =>
    have after := safe.tryRead (byte :: more)
    rw [came] at after
    rw [readExact_cons safe came, ih after, failed]
    rfl
  | case5 pipe byte more count filled rest came bytes final went ih =>
    have after := safe.tryRead (byte :: more)
    rw [came] at after
    rw [readExact_cons safe came, ih after, went]
    rfl

theorem drain_eq (safe : Safe pipe) (calls : Nat) : drain calls pipe = .ok (Pipe.drain calls pipe) := by
  induction calls generalizing pipe with
  | zero => rfl
  | succ calls ih =>
    have after := safe.tryRead drainBuffer
    rw [drain, tryRead_eq safe, ok_bind, Pipe.drain]
    rcases came : pipe.tryRead drainBuffer with ⟨fault | _ | count, filled, rest⟩
    next => rfl
    next => rfl
    next =>
      rw [came] at after
      simp only
      rw [slice_from_start (tryRead_le safe came).2, ok_bind, ih after, ok_bind]

theorem segments_limit (safe : Safe pipe) : segments pipe (wordLimit - 1) = .ok (pipe.segments pipe.size) := by
  have all : min (wordLimit - 1) pipe.size = min pipe.size pipe.size := by
    have fits := safe.size_le
    have bounded : pipe.capacity < 9223372036854775808 := safe.bounded
    unfold wordLimit
    omega
  rw [segments_eq safe, Pipe.segments, Pipe.segments, all]

theorem chunk_eq (safe : Safe pipe) : chunk pipe = .ok pipe.chunk := by
  rw [chunk, segments_limit safe, ok_bind]
  rfl

theorem fillSlots_eq {slots : Nat} (runs : List Bytes) {filled : List Bytes} (within : filled.length ≤ slots) :
    fillSlots slots filled runs =
      .ok (filled ++ (runs.takeWhile (!·.isEmpty)).take (slots - filled.length)) := by
  induction runs generalizing filled with
  | nil => simp [fillSlots]
  | cons run later ih =>
    rw [fillSlots]
    by_cases ends : (run.isEmpty || filled.length == slots) = true
    next =>
      rw [if_pos ends]
      cases nothing : run.isEmpty with
      | true => simp [nothing]
      | false =>
        have full : filled.length = slots := by simpa [nothing] using ends
        simp [full]
    next =>
      obtain ⟨something, free⟩ : run.isEmpty = false ∧ filled.length ≠ slots := by simpa using ends
      have longer : (filled ++ [run]).length = filled.length + 1 := List.length_append
      have one : slots - filled.length = slots - (filled ++ [run]).length + 1 := by omega
      rw [if_neg ends, if_neg (by omega), ih (by omega), one, List.takeWhile_cons_of_pos (by simp [something]),
        List.take_succ_cons, List.append_assoc, List.singleton_append]

theorem chunks_eq (safe : Safe pipe) (slots : Nat) : chunks pipe slots = .ok (pipe.chunks slots) := by
  rw [chunks, segments_limit safe, ok_bind]
  exact fillSlots_eq _ (Nat.zero_le _)

theorem advance_eq (safe : Safe pipe) {count : Nat} (held : count ≤ pipe.size) :
    advance pipe count = .ok (pipe.discard count) := by
  rw [advance, if_pos held, discard_eq safe]

theorem takePiece_eq (safe : Safe pipe) (count : Nat) :
    takePiece pipe count = .ok (pipe.chunk.take count, pipe.discard (pipe.chunk.take count).length) := by
  have length := length_chunk safe.toSound
  rw [takePiece, chunk_eq safe, ok_bind, slice_from_start (Nat.min_le_left _ _), ok_bind, Nat.min_comm,
    ← List.take_eq_take_min, advance_eq safe (by rw [List.length_take]; omega), ok_bind]

theorem gather_eq (safe : Safe pipe) (count : Nat) : gather pipe count = .ok (pipe.gather count) := by
  fun_induction Pipe.gather pipe count with
  | case1 pipe count piece nothing =>
    have none : pipe.chunk.take count = [] := List.length_eq_zero_iff.mp nothing
    rw [gather, takePiece_eq safe, none]
  | case2 pipe count piece something more rest came ih =>
    obtain ⟨byte, tail, front⟩ : ∃ byte tail, piece = byte :: tail :=
      List.exists_cons_of_length_pos (Nat.pos_of_ne_zero something)
    have least : (byte :: tail).length ≤ count := by
      rw [← front, List.length_take]
      omega
    have later := ih (safe.discard piece.length)
    have left := sub_eq least
    rw [came, front] at later
    rw [gather, takePiece_eq safe, show pipe.chunk.take count = byte :: tail from front]
    simp only
    split
    next trap broke => cases left.symm.trans broke
    next remainder went =>
      cases left.symm.trans went
      rw [later, ok_bind, front]

theorem takeBytes_eq (safe : Safe pipe) {count : Nat} (held : count ≤ pipe.size) :
    takeBytes pipe count = .ok (pipe.gather count) := by
  have fits := safe.size_le
  have bounded := safe.bounded
  rw [takeBytes, if_pos held, reserve_eq (by omega), ok_bind, gather_eq safe]

theorem takeNumber_eq (safe : Safe pipe) {format : NumberFormat} (held : format.width ≤ pipe.size) :
    ∃ result, takeNumber pipe format = .ok result ∧ pipe.takeNumber format = .ok result := by
  have enough : ¬ pipe.size < format.width := Nat.not_lt_of_le held
  unfold takeNumber Pipe.takeNumber
  rw [if_neg enough, if_neg enough, chunk_eq safe, ok_bind]
  by_cases whole : format.width ≤ pipe.chunk.length
  next =>
    rw [if_pos whole, if_pos whole, slice_from_start whole, ok_bind, advance_eq safe held, ok_bind]
    exact ⟨_, rfl, rfl⟩
  next =>
    rw [if_neg whole, if_neg whole, gather_eq safe, ok_bind]
    exact ⟨_, rfl, rfl⟩

theorem answer_eq (safe : Safe pipe) {request : Request} (held : request.demand ≤ pipe.size) :
    answer pipe request = .ok (pipe.answer .whole request) := by
  cases request with
  | finish | describe | flush | remaining => rfl
  | write data => rw [answer, write_eq safe, ok_bind, Pipe.answer]
  | peek count => rw [answer, peek_eq safe, ok_bind, Pipe.answer]
  | discard count => rw [answer, discard_eq safe, ok_bind, Pipe.answer]
  | read count => rw [answer, read_eq safe, ok_bind, Pipe.answer]
  | segments count => rw [answer, segments_eq safe, ok_bind, Pipe.answer]
  | readInto buffer => rw [answer, readInto_eq safe, ok_bind, Pipe.answer]
  | tryWrite data =>
    rw [answer, tryWrite_eq safe, ok_bind, Pipe.answer]
    rcases pipe.tryWrite data with ⟨_ | _, _⟩ <;> rfl
  | writeAll data =>
    rw [answer, writeAll_eq safe, ok_bind, Pipe.answer]
    rcases pipe.writeAll data with ⟨_ | _, _⟩ <;> rfl
  | tryRead buffer =>
    rw [answer, tryRead_eq safe, ok_bind, Pipe.answer]
    rcases pipe.tryRead buffer with ⟨_ | _, _, _⟩ <;> rfl
  | readExact buffer =>
    rw [answer, readExact_eq safe, ok_bind, Pipe.answer]
    rcases pipe.readExact buffer with ⟨_ | _, _⟩ <;> rfl
  | readToEnd =>
    rw [answer, drain_eq safe, ok_bind, Pipe.answer, readToEnd]
  | chunk => rw [answer, chunk_eq safe, ok_bind, Pipe.answer]
  | chunks slots => rw [answer, chunks_eq safe, ok_bind, Pipe.answer]
  | advance count =>
    have within : count ≤ pipe.size := held
    rw [answer, advance_eq safe within, ok_bind, Pipe.answer, Pipe.advance, if_pos within, refuseMisuse]
  | takeBytes count =>
    have within : count ≤ pipe.size := held
    rw [answer, takeBytes_eq safe within, ok_bind, Pipe.answer, Pipe.takeBytes, if_pos within, refuseMisuse]
  | takeNumber format =>
    obtain ⟨result, went, took⟩ := takeNumber_eq safe held
    rw [answer, went, ok_bind, Pipe.answer, took, refuseMisuse]

theorem answer_of_lt {request : Request} (lacking : pipe.size < request.demand) :
    ∃ problem, answer pipe request = .error (.misuse problem) ∧
      pipe.answer .whole request = (.misuse problem, pipe) := by
  cases request with
  | advance count =>
    have past : ¬ count ≤ pipe.size := Nat.not_le_of_lt lacking
    refine ⟨.advancePast count pipe.size, ?_, ?_⟩
    next => rw [answer, advance, if_neg past, error_bind]
    next => rw [Pipe.answer, Pipe.advance, if_neg past, refuseMisuse]
  | takeBytes count =>
    have past : ¬ count ≤ pipe.size := Nat.not_le_of_lt lacking
    refine ⟨.shortRead, ?_, ?_⟩
    next => rw [answer, takeBytes, if_neg past, error_bind]
    next => rw [Pipe.answer, Pipe.takeBytes, if_neg past, refuseMisuse]
  | takeNumber format =>
    have past : pipe.size < format.width := lacking
    refine ⟨.shortRead, ?_, ?_⟩
    next => rw [answer, takeNumber, if_pos past, error_bind]
    next => rw [Pipe.answer, Pipe.takeNumber, if_pos past, refuseMisuse]
  | _ => exact absurd lacking (Nat.not_lt_zero _)

theorem capacity_answer (sound : pipe.Sound) (request : Request) :
    (pipe.answer .whole request).2.capacity = pipe.capacity := by
  by_cases ends : request = .finish
  next =>
    subst ends
    rfl
  next =>
    have kept := answer_keeps (P := fun after => after.Sound ∧ after.capacity = pipe.capacity)
      (fun _ data kept => ⟨write_sound kept.1 data, (capacity_write kept.1 data).trans kept.2⟩)
      (fun _ count kept => ⟨discard_sound kept.1 count, (capacity_discard count).trans kept.2⟩)
      ⟨sound, rfl⟩ .whole ends
    exact kept.2

theorem Safe.answer (safe : Safe pipe) (request : Request) : Safe (pipe.answer .whole request).2 :=
  { answer_sound safe.toSound .whole request with
    bounded := (capacity_answer safe.toSound request).symm ▸ safe.bounded }

theorem Safe.answerAll (safe : Safe pipe) (requests : List Request) :
    Safe (pipe.answerAll requests).2 ∧ (pipe.answerAll requests).2.capacity = pipe.capacity := by
  induction requests generalizing pipe with
  | nil => exact ⟨safe, rfl⟩
  | cons request later ih =>
    obtain ⟨last, same⟩ := ih (safe.answer request)
    exact ⟨last, same.trans (capacity_answer safe.toSound request)⟩

theorem answerAll_eq (safe : Safe pipe) (requests : List Request) :
    answerAll pipe requests = .ok (pipe.answerAll requests) := by
  induction requests generalizing pipe with
  | nil => rfl
  | cons request later ih =>
    by_cases held : request.demand ≤ pipe.size
    next =>
      rw [answerAll, answer_eq safe held]
      simp only
      rw [ih (safe.answer request), ok_bind, Pipe.answerAll]
    next =>
      obtain ⟨problem, broke, refused⟩ := answer_of_lt (Nat.lt_of_not_le held)
      rw [answerAll, broke]
      simp only
      rw [ih safe, ok_bind, Pipe.answerAll, refused]

/-- A ring whose indices stay within `capacity` cells, and which every request but too great a demand gets through. -/
structure Contained (capacity : Nat) (pipe : Pipe) : Prop where
  length_eq : pipe.cells.length = capacity
  size_le : pipe.size ≤ capacity
  head_lt : pipe.head < capacity ∨ capacity = 0 ∧ pipe.head = 0
  head_eq : pipe.size = 0 → pipe.head = 0
  room_eq : room pipe = .ok (capacity - pipe.size)
  answers : ∀ request, request.demand ≤ pipe.size → answer pipe request = .ok (pipe.answer .whole request)
  refuses : ∀ request, pipe.size < request.demand →
    ∃ problem, answer pipe request = .error (.misuse problem) ∧
      pipe.answer .whole request = (.misuse problem, pipe)

theorem Safe.contained (safe : Safe pipe) {capacity : Nat} (cells : pipe.capacity = capacity) :
    Contained capacity pipe := by
  subst cells
  constructor
  case length_eq => rfl
  case size_le => exact safe.size_le
  case head_lt =>
    have head := safe.head_lt
    omega
  case head_eq => exact safe.head_eq
  case room_eq => exact room_eq safe
  case answers => exact fun request held => answer_eq safe held
  case refuses => exact fun request lacking => answer_of_lt lacking

/-- Requests with any arguments and in any order never break off but for a misuse, and keep the ring contained. -/
theorem create_answerAll_contained (capacity : Nat) (below : capacity < capacityLimit) (requests : List Request) :
    ∃ pipe replies last, create capacity = .ok pipe ∧ pipe.answerAll requests = (replies, last) ∧
      answerAll pipe requests = .ok (replies, last) ∧ Contained capacity last := by
  have safe : Safe (empty capacity) :=
    { empty_sound capacity with bounded := (capacity_empty capacity).symm ▸ below }
  obtain ⟨after, same⟩ := safe.answerAll requests
  refine ⟨empty capacity, _, _, create_eq_ok_iff.mpr ⟨below, rfl⟩, rfl, answerAll_eq safe requests, ?_⟩
  exact after.contained (same.trans (capacity_empty capacity))

def aroundEnd : List Request :=
  [.write [1, 2], .discard 1, .tryWrite [4, 5, 6], .segments 18446744073709551615, .chunks 1, .advance 4,
    .read 18446744073709551615, .peek 1]

theorem contained_around_end : 3 < capacityLimit ∧ ∃ pipe last, create 3 = .ok pipe ∧
    answerAll pipe aroundEnd =
      .ok ([.count 2, .done, .wrote 2, .runs [2, 4] [5], .chunks [[2, 4]], .misuse (.advancePast 4 3),
        .bytes [2, 4, 5], .bytes []], last) ∧
    Contained 3 last := by
  have below : 3 < capacityLimit := by decide
  obtain ⟨pipe, replies, last, made, model, went, contained⟩ := create_answerAll_contained 3 below aroundEnd
  obtain ⟨-, rfl⟩ := create_eq_ok_iff.mp made
  have replied : ((empty 3).answerAll aroundEnd).1 =
      [.count 2, .done, .wrote 2, .runs [2, 4] [5], .chunks [[2, 4]], .misuse (.advancePast 4 3),
        .bytes [2, 4, 5], .bytes []] := by decide
  rw [model] at replied
  subst replied
  exact ⟨below, empty 3, last, made, went, contained⟩

end Guarded

end Conduit.Pipe
