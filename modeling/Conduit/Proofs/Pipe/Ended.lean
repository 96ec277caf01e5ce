import Conduit.Pipe.Lemmas
import Conduit.Pipe.Request
set_option autoImplicit false

namespace Conduit.Pipe

variable {pipe : Pipe}

section Keeps

variable {P : Pipe → Prop} (write : ∀ (pipe : Pipe) (data : Bytes), P pipe → P (pipe.write data).2)
  (discard : ∀ (pipe : Pipe) (count : Nat), P pipe → P (pipe.discard count))

include write in
theorem tryWrite_keeps (holds : P pipe) (data : Bytes) : P (pipe.tryWrite data).2 := by
  unfold tryWrite
  split
  next => exact holds
  split
  next => exact holds
  have written := write pipe data holds
  split
  next rest came => exact (came ▸ written :)
  next count rest _ came => exact (came ▸ written :)

include write in
theorem writeAll_keeps (holds : P pipe) (data : Bytes) : P (pipe.writeAll data).2 := by
  fun_induction writeAll pipe data with
  | case1 pipe => exact holds
  | case2 pipe byte more fault rest came =>
    have tried := tryWrite_keeps write holds (byte :: more)
    exact (came ▸ tried :)
  | case3 pipe byte more rest came =>
    have tried := tryWrite_keeps write holds (byte :: more)
    exact (came ▸ tried :)
  | case4 pipe byte more count rest came ih =>
    have tried := tryWrite_keeps write holds (byte :: more)
    exact ih (came ▸ tried :)

include discard

theorem tryRead_keeps (holds : P pipe) (buffer : Bytes) : P (pipe.tryRead buffer).2.2 := by
  unfold tryRead
  split
  next => exact holds
  split
  next => exact holds
  next => exact discard _ _ holds

theorem readExact_keeps (holds : P pipe) (buffer : Bytes) : P (pipe.readExact buffer).2 := by
  fun_induction readExact pipe buffer with
  | case1 pipe => exact holds
  | case2 pipe byte more fault filled rest came =>
    have tried := tryRead_keeps discard holds (byte :: more)
    exact (came ▸ tried :)
  | case3 pipe byte more filled rest came =>
    have tried := tryRead_keeps discard holds (byte :: more)
    exact (came ▸ tried :)
  | case4 pipe byte more count filled rest came fault final failed ih =>
    have tried := tryRead_keeps discard holds (byte :: more)
    have later := ih (came ▸ tried :)
    exact (failed ▸ later :)
  | case5 pipe byte more count filled rest came bytes final went ih =>
    have tried := tryRead_keeps discard holds (byte :: more)
    have later := ih (came ▸ tried :)
    exact (went ▸ later :)

theorem drain_keeps (calls : Nat) (holds : P pipe) : P (drain calls pipe).2 := by
  induction calls generalizing pipe with
  | zero => exact holds
  | succ calls ih =>
    have tried := tryRead_keeps discard holds drainBuffer
    unfold drain
    split
    next fault filled rest came => exact (came ▸ tried :)
    next filled rest came => exact (came ▸ tried :)
    next count filled rest came => exact ih (came ▸ tried :)

theorem gather_keeps (holds : P pipe) (count : Nat) : P (pipe.gather count).2 := by
  fun_induction gather pipe count with
  | case1 pipe count piece nothing => exact holds
  | case2 pipe count piece something more rest came ih =>
    have later := ih (discard _ _ holds)
    exact (came ▸ later :)

theorem advance_keeps (holds : P pipe) {count : Nat} {after : Pipe}
    (advanced : pipe.advance count = .ok after) : P after := by
  unfold advance at advanced
  split at advanced
  next =>
    cases advanced
    exact discard _ _ holds
  next => cases advanced

theorem takeBytes_keeps (holds : P pipe) {count : Nat} {result : Bytes × Pipe}
    (took : pipe.takeBytes count = .ok result) : P result.2 := by
  unfold takeBytes at took
  split at took
  next =>
    cases took
    exact gather_keeps discard holds count
  next => cases took

theorem takeNumber_keeps (holds : P pipe) {format : NumberFormat} {result : Int × Pipe}
    (took : pipe.takeNumber format = .ok result) : P result.2 := by
  unfold takeNumber at took
  split at took
  next => cases took
  split at took
  next =>
    cases took
    exact discard _ _ holds
  next =>
    cases took
    exact gather_keeps discard holds format.width

omit discard in
theorem refuseMisuse_keeps {α : Type} (holds : P pipe) {outcome : Except Misuse α}
    {success : α → Reply × Pipe} (succeeds : ∀ value, outcome = .ok value → P (success value).2) :
    P (pipe.refuseMisuse outcome success).2 := by
  cases outcome with
  | ok value => exact succeeds value rfl
  | error misuse => exact holds

include write in
theorem answer_keeps (holds : P pipe) (holder : Holder) {request : Request}
    (going : request ≠ .finish) : P (pipe.answer holder request).2 := by
  cases request with
  | write data => exact write pipe data holds
  | finish => exact absurd rfl going
  | peek | describe | segments | flush | remaining | chunk | chunks => exact holds
  | discard count => exact discard pipe count holds
  | read count => exact discard pipe _ holds
  | readInto buffer => exact discard pipe _ holds
  | tryWrite data =>
    have tried := tryWrite_keeps write holds data
    rw [answer]
    split
    next count rest came => exact (came ▸ tried :)
    next fault rest came => exact (came ▸ tried :)
  | writeAll data =>
    have tried := writeAll_keeps write holds data
    rw [answer]
    split
    next rest came => exact (came ▸ tried :)
    next fault rest came => exact (came ▸ tried :)
  | tryRead buffer =>
    have tried := tryRead_keeps discard holds buffer
    rw [answer]
    split
    next count filled rest came => exact (came ▸ tried :)
    next fault filled rest came => exact (came ▸ tried :)
  | readExact buffer =>
    have tried := readExact_keeps discard holds buffer
    rw [answer]
    split
    next bytes rest came => exact (came ▸ tried :)
    next fault rest came => exact (came ▸ tried :)
  | readToEnd => exact drain_keeps discard (pipe.size + 1) holds
  | advance count =>
    exact refuseMisuse_keeps holds fun after advanced => advance_keeps discard holds advanced
  | takeBytes count =>
    exact refuseMisuse_keeps holds fun result took => takeBytes_keeps discard holds took
  | takeNumber format =>
    exact refuseMisuse_keeps holds fun result took => takeNumber_keeps discard holds took

end Keeps

theorem answer_sound (sound : pipe.Sound) (holder : Holder) (request : Request) :
    (pipe.answer holder request).2.Sound := by
  by_cases ends : request = .finish
  next => exact ends ▸ finish_sound sound
  next =>
    exact answer_keeps (P := Sound) (fun _ data kept => write_sound kept data)
      (fun _ count kept => discard_sound kept count) sound holder ends

theorem ended_answer (holder : Holder) {request : Request} (going : request ≠ .finish) :
    (pipe.answer holder request).2.ended = pipe.ended :=
  answer_keeps (P := fun after => after.ended = pipe.ended)
    (fun _ data same => (ended_write data).trans same)
    (fun _ count same => (ended_discard count).trans same) rfl holder going

theorem write_of_ended (ended : pipe.ended = true) (data : Bytes) : pipe.write data = (0, pipe) := by
  have nothing : pipe.accepted data = 0 := if_pos ended
  unfold write
  exact if_pos nothing

structure Ebbed (before after : Pipe) : Prop where
  sound : after.Sound
  ended : after.ended = true
  totalIn_eq : after.totalIn = before.totalIn
  suffix : after.contents <:+ before.contents

namespace Ebbed

variable {before middle after : Pipe}

theorem refl (sound : pipe.Sound) (ended : pipe.ended = true) : Ebbed pipe pipe :=
  ⟨sound, ended, rfl, List.suffix_refl _⟩

theorem trans (first : Ebbed before middle) (second : Ebbed middle after) : Ebbed before after :=
  { sound := second.sound
    ended := second.ended
    totalIn_eq := second.totalIn_eq.trans first.totalIn_eq
    suffix := second.suffix.trans first.suffix }

theorem discard (ebbed : Ebbed before after) (count : Nat) :
    Ebbed before (after.discard count) := by
  constructor
  case sound => exact discard_sound ebbed.sound count
  case ended => rw [ended_discard, ebbed.ended]
  case totalIn_eq => rw [totalIn_discard, ebbed.totalIn_eq]
  case suffix =>
    rw [contents_discard ebbed.sound]
    exact (List.drop_suffix count _).trans ebbed.suffix

theorem answer (ebbed : Ebbed before after) (holder : Holder) (request : Request) :
    Ebbed before (after.answer holder request).2 := by
  by_cases ends : request = .finish
  next =>
    subst ends
    exact ⟨finish_sound ebbed.sound, rfl, ebbed.totalIn_eq, ebbed.suffix⟩
  next =>
    refine answer_keeps (fun pipe data kept => ?_) (fun _ count kept => kept.discard count) ebbed
      holder ends
    rwa [write_of_ended kept.ended]

theorem atEnd (ebbed : Ebbed before after) (sound : before.Sound) (atEnd : before.atEnd = true) :
    after.atEnd = true := by
  have nothing := ((atEnd_iff sound).mp atEnd).2
  refine (atEnd_iff ebbed.sound).mpr ⟨ebbed.ended, ?_⟩
  exact List.suffix_nil.mp (nothing ▸ ebbed.suffix)

end Ebbed

def Event.isEnd : Event → Bool
  | inputEnded _ _ => true
  | lateWrite _ => false

theorem filter_isEnd_events (pipe : Pipe) (request : Request) :
    (pipe.events request).filter Event.isEnd =
      if pipe.ended = false ∧ (pipe.answer .whole request).2.ended = true then
        [.inputEnded pipe.size pipe.totalIn]
      else [] := by
  by_cases ends : request = .finish
  next =>
    subst ends
    cases ended : pipe.ended <;> simp [events, finishEvents, ended, Event.isEnd, answer, finish]
  next =>
    rw [ended_answer .whole ends, if_neg (by simp)]
    unfold events writeEvents
    split
    next => split <;> rfl
    next => exact absurd rfl ends
    next => rfl

end Conduit.Pipe
