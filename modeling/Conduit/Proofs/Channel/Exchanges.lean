import Conduit.Proofs.Channel.Inbound
set_option autoImplicit false

namespace Conduit

def CarriedOut : Except Fault Unit → Prop
  | .ok () => True
  | .error fault => fault.kind = .notConnected

instance : DecidablePred CarriedOut
  | .ok () => inferInstanceAs (Decidable True)
  | .error fault => inferInstanceAs (Decidable (fault.kind = .notConnected))

def Exchange.EndsInput : Exchange → Prop
  | received room (.bytes []) => 0 < room
  | receivingEnded outcome => CarriedOut outcome
  | _ => False

namespace Channel

open Net (TransportError)

section Closing

variable {σ : Type} [Link σ] {channel : Channel σ}

theorem closing_eq_ok_iff {outcome : Except Fault Unit} :
    closing outcome = .ok () ↔ CarriedOut outcome := by
  rcases outcome with fault | ⟨⟩
  next => by_cases gone : fault.kind = .notConnected <;> simp [closing, CarriedOut, gone]
  next => simp [closing, CarriedOut]

inductive ClosingWrite (channel : Channel σ) : Except TransportError Unit → Channel σ → Prop
  | already (closed : channel.writeClosed = true) : ClosingWrite channel (.ok ()) channel
  | attempted (outcome : Except Fault Unit) (link : σ) (going : channel.writeClosed = false)
      (came : Link.endSending channel.link = (outcome, link)) :
      ClosingWrite channel (closing outcome) { channel with link, writeClosed := true }

theorem closeWrite_cases (channel : Channel σ) :
    channel.ClosingWrite channel.closeWrite.1 channel.closeWrite.2 := by
  cases closed : channel.writeClosed with
  | true => simpa [closeWrite, closed] using ClosingWrite.already closed
  | false =>
    rcases came : Link.endSending channel.link with ⟨outcome, link⟩
    simpa [closeWrite, closed, came] using ClosingWrite.attempted outcome link closed came

inductive ClosingRead (channel : Channel σ) : Except TransportError Unit → Channel σ → Prop
  | already (closed : channel.readClosed = true) : ClosingRead channel (.ok ()) channel
  | carried (outcome : Except Fault Unit) (link : σ) (going : channel.readClosed = false)
      (came : Link.endReceiving channel.link = (outcome, link)) (done : CarriedOut outcome) :
      ClosingRead channel (.ok ())
        { channel with link, readClosed := true, inbound := channel.inbound.finish }
  | refused (fault : Fault) (link : σ) (going : channel.readClosed = false)
      (came : Link.endReceiving channel.link = (.error fault, link))
      (undone : ¬ CarriedOut (.error fault)) :
      ClosingRead channel (.error (.io .shutdown fault)) { channel with link, readClosed := true }

theorem closeRead_cases (channel : Channel σ) :
    channel.ClosingRead channel.closeRead.1 channel.closeRead.2 := by
  cases closed : channel.readClosed with
  | true => simpa [closeRead, closed] using ClosingRead.already closed
  | false =>
    rcases came : Link.endReceiving channel.link with ⟨outcome, link⟩
    by_cases done : CarriedOut outcome
    next =>
      have closes := closing_eq_ok_iff.mpr done
      simpa [closeRead, closed, came, closes] using
        ClosingRead.carried outcome link closed came done
    next =>
      rcases outcome with fault | ⟨⟩
      next =>
        have closes : closing (.error fault) = .error (.io .shutdown fault) := if_neg done
        simpa [closeRead, closed, came, closes] using
          ClosingRead.refused fault link closed came done
      next => exact absurd trivial done

theorem closeWrite_eq_ok_iff (writing : channel.writeClosed = false) :
    channel.closeWrite.1 = .ok () ↔ CarriedOut (Link.endSending channel.link).1 := by
  have closing := channel.closeWrite_cases
  generalize channel.closeWrite.1 = result, channel.closeWrite.2 = after at closing
  cases closing with
  | already closed => exact absurd (writing.symm.trans closed) Bool.false_ne_true
  | attempted outcome link going came => rw [came, closing_eq_ok_iff]

theorem closeRead_eq_ok_iff (reading : channel.readClosed = false) :
    channel.closeRead.1 = .ok () ↔ CarriedOut (Link.endReceiving channel.link).1 := by
  have closing := channel.closeRead_cases
  generalize channel.closeRead.1 = result, channel.closeRead.2 = after at closing
  cases closing with
  | already closed => exact absurd (reading.symm.trans closed) Bool.false_ne_true
  | carried outcome link going came done => simpa [came] using done
  | refused fault link going came undone => simpa [came] using undone

theorem shutdown_write (channel : Channel σ) : channel.shutdown .write = channel.closeWrite := by
  rcases closed : channel.closeWrite with ⟨_ | ⟨⟩, after⟩ <;>
    simp [shutdown, Direction.writes, Direction.reads, closed]

theorem shutdown_read (channel : Channel σ) : channel.shutdown .read = channel.closeRead := by
  simp [shutdown, Direction.writes, Direction.reads]

theorem shutdown_both (channel : Channel σ) :
    channel.shutdown .both =
      match channel.closeWrite with
      | (.ok (), after) => after.closeRead
      | (.error error, after) => (.error error, after) := by
  rcases closed : channel.closeWrite with ⟨_ | ⟨⟩, after⟩ <;>
    simp [shutdown, Direction.writes, Direction.reads, closed]

end Closing

def Action.Asks : Action → Exchange → Prop
  | read, .received room _ => 0 < room
  | write _, .sent _ _ => True
  | shutdown direction, .sendingEnded _ => direction.writes = true
  | shutdown direction, .receivingEnded _ => direction.reads = true
  | close, .sendingEnded _ | close, .receivingEnded _ => True
  | _, _ => False

def Advances (allowed : Exchange → Prop) (before after : Channel Transcript) : Prop :=
  ∃ asked,
    after.link.log = before.link.log ++ asked ∧
    (∀ exchange ∈ asked, allowed exchange) ∧
    (after.inbound.ended = true ↔
      before.inbound.ended = true ∨ ∃ exchange ∈ asked, exchange.EndsInput)

namespace Advances

variable {allowed other : Exchange → Prop} {before middle after : Channel Transcript}

theorem refl (channel : Channel Transcript) : Advances allowed channel channel :=
  ⟨[], by simp, by simp, by simp⟩

theorem trans (first : Advances allowed before middle) (second : Advances allowed middle after) :
    Advances allowed before after := by
  obtain ⟨asked, log, fine, ended⟩ := first
  obtain ⟨later, log', fine', ended'⟩ := second
  refine ⟨asked ++ later, ?_, ?_, ?_⟩
  next => rw [log', log, List.append_assoc]
  next => exact fun exchange there => (List.mem_append.mp there).elim (fine _) (fine' _)
  next => simp only [ended', ended, List.mem_append, or_and_right, exists_or, or_assoc]

theorem mono (advances : Advances allowed before after)
    (weaker : ∀ exchange, allowed exchange → other exchange) : Advances other before after := by
  obtain ⟨asked, log, fine, ended⟩ := advances
  exact ⟨asked, log, fun exchange there => weaker _ (fine exchange there), ended⟩

theorem asking (exchange : Exchange) (log : after.link.log = before.link.log ++ [exchange])
    (fine : allowed exchange)
    (ended : after.inbound.ended = true ↔ before.inbound.ended = true ∨ exchange.EndsInput) :
    Advances allowed before after :=
  ⟨[exchange], log, by simpa using fine, by simpa using ended⟩

end Advances

variable {channel : Channel Transcript}

theorem log_receive {link : Transcript} {room : Nat} {arrival : Arrival}
    (came : Link.receive channel.link room = (arrival, link)) :
    link.log = channel.link.log ++ [.received room arrival] := by
  cases came
  rfl

theorem log_send {link : Transcript} {data : Bytes} {outcome : Sending}
    (came : Link.send channel.link data = (outcome, link)) :
    link.log = channel.link.log ++ [.sent data outcome] := by
  cases came
  rfl

theorem log_endSending {link : Transcript} {outcome : Except Fault Unit}
    (came : Link.endSending channel.link = (outcome, link)) :
    link.log = channel.link.log ++ [.sendingEnded outcome] := by
  cases came
  rfl

theorem log_endReceiving {link : Transcript} {outcome : Except Fault Unit}
    (came : Link.endReceiving channel.link = (outcome, link)) :
    link.log = channel.link.log ++ [.receivingEnded outcome] := by
  cases came
  rfl

theorem read_advances {capacity : Nat} (positive : 0 < capacity)
    (settled : channel.Settled capacity) : Advances Action.read.Asks channel channel.read.2 := by
  have reading := settled.reading
  have some : 0 < channel.inbound.room := settled.room_eq ▸ positive
  generalize channel.read.1 = outcome, channel.read.2 = after at reading
  cases reading with
  | idle ended => exact .refl channel
  | ended link going came =>
    exact .asking _ (log_receive came) some (by simp [Pipe.finish, Exchange.EndsInput, some])
  | arrived data link going came something fits =>
    refine .asking _ (log_receive came) some ?_
    cases data <;> simp_all [Exchange.EndsInput]
  | failed fault link going came =>
    exact .asking _ (log_receive came) some (by simp [Exchange.EndsInput])
  | timedOut limit link going came limited =>
    exact .asking _ (log_receive came) some (by simp [Exchange.EndsInput])
  | stalled link going came unlimited =>
    exact .asking _ (log_receive came) some (by simp [Exchange.EndsInput])

theorem write_advances (data : Bytes) :
    Advances (Action.write data).Asks channel (channel.write data).2 := by
  have writing := channel.write_cases data
  generalize (channel.write data).1 = outcome, (channel.write data).2 = after at writing
  cases writing with
  | refused | idle => exact .refl channel
  | sent sending link going something came =>
    exact .asking _ (log_send came) trivial (by simp [Exchange.EndsInput])

theorem closeWrite_advances {allowed : Exchange → Prop}
    (fine : ∀ outcome, allowed (.sendingEnded outcome)) :
    Advances allowed channel channel.closeWrite.2 := by
  have closing := channel.closeWrite_cases
  generalize channel.closeWrite.1 = result, channel.closeWrite.2 = after at closing
  cases closing with
  | already closed => exact .refl channel
  | attempted outcome link going came =>
    exact .asking _ (log_endSending came) (fine outcome) (by simp [Exchange.EndsInput])

theorem closeRead_advances {allowed : Exchange → Prop}
    (fine : ∀ outcome, allowed (.receivingEnded outcome)) :
    Advances allowed channel channel.closeRead.2 := by
  have closing := channel.closeRead_cases
  generalize channel.closeRead.1 = result, channel.closeRead.2 = after at closing
  cases closing with
  | already closed => exact .refl channel
  | carried outcome link going came done =>
    exact .asking _ (log_endReceiving came) (fine outcome)
      (by simp [Pipe.finish, Exchange.EndsInput, done])
  | refused fault link going came undone =>
    exact .asking _ (log_endReceiving came) (fine _) (by simp [Exchange.EndsInput, undone])

theorem shutdown_advances (direction : Direction) :
    Advances (Action.shutdown direction).Asks channel (channel.shutdown direction).2 := by
  cases direction with
  | write =>
    rw [shutdown_write]
    exact closeWrite_advances fun _ => rfl
  | read =>
    rw [shutdown_read]
    exact closeRead_advances fun _ => rfl
  | both =>
    have first : Advances (Action.shutdown .both).Asks channel channel.closeWrite.2 :=
      closeWrite_advances fun _ => rfl
    rw [shutdown_both]
    generalize channel.closeWrite = closed at first
    rcases closed with ⟨_ | ⟨⟩, middle⟩
    next => exact first
    next => exact first.trans (closeRead_advances fun _ => rfl)

theorem act_advances {capacity : Nat} (positive : 0 < capacity)
    (settled : channel.Settled capacity) (action : Action) :
    Advances action.Asks channel (channel.act action).2 := by
  cases action with
  | read => exact read_advances positive settled
  | write data => exact write_advances data
  | shutdown direction => exact shutdown_advances direction
  | close =>
    refine (shutdown_advances .both).mono fun exchange asked => ?_
    cases exchange <;> trivial

theorem run_keeps {σ : Type} [Link σ] {P : Channel σ → Prop}
    (step : ∀ (channel : Channel σ) (action : Action), P channel → P (channel.act action).2)
    {channel : Channel σ} (holds : P channel) (actions : List Action) :
    P (channel.lastOf (channel.run actions)) := by
  induction actions generalizing channel with
  | nil => exact holds
  | cons action later ih =>
    rw [run_cons, lastOf_cons]
    exact ih (step channel action holds)

theorem run_advances {allowed : Exchange → Prop} {P : Channel Transcript → Prop}
    (step : ∀ (channel : Channel Transcript) (action : Action), P channel →
      P (channel.act action).2 ∧ Advances allowed channel (channel.act action).2)
    (holds : P channel) (actions : List Action) :
    P (channel.lastOf (channel.run actions)) ∧
      Advances allowed channel (channel.lastOf (channel.run actions)) := by
  refine run_keeps (P := fun last => P last ∧ Advances allowed channel last) ?_
    ⟨holds, .refl channel⟩ actions
  intro middle action reached
  have next := step middle action reached.1
  exact ⟨next.1, reached.2.trans next.2⟩

end Channel

end Conduit
