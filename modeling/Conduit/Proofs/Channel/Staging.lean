import Conduit.Channel.Basic
import Conduit.Pipe.Lemmas
set_option autoImplicit false

namespace Conduit

open Net (TransportError)

def Net.loopback (port : UInt16) : Net.Address := ⟨.v4 ⟨127, 0, 0, 1⟩, port⟩

-- An empty pipe once `data` has been put in and taken out again.
def Pipe.relay (pipe : Pipe) (data : Bytes) : Pipe :=
  (pipe.write data).2.discard (pipe.write data).2.size

namespace Pipe

variable {pipe : Pipe}

theorem relay_sound (sound : pipe.Sound) (data : Bytes) : (pipe.relay data).Sound :=
  discard_sound (write_sound sound data) _

theorem size_relay (data : Bytes) : (pipe.relay data).size = 0 := by
  rw [relay, size_discard, Nat.sub_self]

theorem capacity_relay (sound : pipe.Sound) (data : Bytes) :
    (pipe.relay data).capacity = pipe.capacity := by
  rw [relay, capacity_discard, capacity_write sound]

@[simp] theorem ended_relay (data : Bytes) : (pipe.relay data).ended = pipe.ended := by
  rw [relay, ended_discard, ended_write]

theorem room_of_nothing (nothing : pipe.size = 0) : pipe.room = pipe.capacity := by
  rw [room, nothing, Nat.sub_zero]

theorem accepted_of_fits (going : pipe.ended = false) (data : Bytes)
    (fits : data.length ≤ pipe.room) : pipe.accepted data = data.length := by
  rw [accepted, going]
  simp [Nat.min_eq_left fits]

theorem totalIn_relay (going : pipe.ended = false) (data : Bytes)
    (fits : data.length ≤ pipe.room) :
    (pipe.relay data).totalIn = pipe.totalIn + .ofNat data.length := by
  rw [relay, totalIn_discard, totalIn_write, accepted_of_fits going data fits]

theorem read_write (sound : pipe.Sound) (nothing : pipe.size = 0) (going : pipe.ended = false)
    (data : Bytes) (fits : data.length ≤ pipe.room) :
    (pipe.write data).2.read (pipe.write data).2.size = (data, pipe.relay data) := by
  have all := contents_write sound data
  rw [accepted_of_fits going data fits, contents_eq_nil nothing, List.nil_append,
    List.take_length] at all
  have length := length_contents (write_sound sound data)
  rw [read_eq (write_sound sound data), all, ← length, all, List.take_length, relay, ← length, all]

theorem read_nothing (nothing : pipe.size = 0) : pipe.read pipe.size = ([], pipe) := by
  have none : min 0 pipe.size = 0 := Nat.zero_min _
  simp [read, peek, segments, nothing, discard_of_nothing none]

end Pipe

namespace Channel

variable {σ : Type} {channel : Channel σ}

/-- What holds of a channel whenever no operation is under way. -/
structure Settled (capacity : Nat) (channel : Channel σ) : Prop where
  sound : channel.inbound.Sound
  nothing : channel.inbound.size = 0
  capacity_eq : channel.inbound.capacity = capacity

namespace Settled

variable {capacity : Nat}

theorem room_eq (settled : channel.Settled capacity) : channel.inbound.room = capacity := by
  rw [Pipe.room_of_nothing settled.nothing, settled.capacity_eq]

theorem of_inbound_eq {after : Channel σ} (settled : channel.Settled capacity)
    (same : after.inbound = channel.inbound) : after.Settled capacity :=
  ⟨same ▸ settled.sound, same ▸ settled.nothing, same ▸ settled.capacity_eq⟩

theorem of_inbound_finish {after : Channel σ} (settled : channel.Settled capacity)
    (finished : after.inbound = channel.inbound.finish) : after.Settled capacity :=
  { sound := finished ▸ Pipe.finish_sound settled.sound
    nothing := finished ▸ settled.nothing
    capacity_eq := finished ▸ settled.capacity_eq }

end Settled

def fresh (config : ChannelConfig) (link : σ) (own peer : Net.Address) : Channel σ :=
  { link
    inbound := .empty config.recvCapacity.toNat
    readLimit := config.readLimit
    own, peer
    writeClosed := false
    readClosed := false }

theorem fresh_settled (config : ChannelConfig) (link : σ) (own peer : Net.Address) :
    (fresh config link own peer).Settled config.recvCapacity.toNat :=
  { sound := Pipe.empty_sound _
    nothing := rfl
    capacity_eq := Pipe.capacity_empty _ }

theorem ofLink_eq_done_iff {config : ChannelConfig} {link : σ} {own peer : Net.Address} :
    ofLink config link own peer = .done channel ↔
      config.recvCapacity.toNat < Pipe.capacityLimit ∧ channel = fresh config link own peer := by
  cases created : Pipe.create config.recvCapacity.toNat with
  | ok inbound =>
    obtain ⟨below, rfl⟩ := Pipe.create_eq_ok_iff.mp created
    simp [ofLink, created, fresh, below, eq_comm]
  | error misuse =>
    have refused : ¬ config.recvCapacity.toNat < Pipe.capacityLimit := by
      intro below
      have made := Pipe.create_eq_ok_iff.mpr ⟨below, rfl⟩
      rw [created] at made
      cases made
    simp [ofLink, created, refused]

theorem connect_eq_done_iff {network : Network σ} {address : Net.Address}
    {config : ChannelConfig} :
    connect network address config = .done channel ↔
      config.recvCapacity ≠ 0 ∧ config.recvCapacity.toNat < Pipe.capacityLimit ∧
        ∃ link own peer, network address = .connected link own peer ∧
          channel = fresh config link own peer := by
  by_cases zero : config.recvCapacity = 0
  next => simp [connect, zero]
  next =>
    cases reached : network address with
    | connected link own peer =>
      simp only [connect, zero, reached, if_false, ofLink_eq_done_iff, ne_eq, not_false_eq_true,
        true_and]
      refine and_congr_right fun _ => ⟨fun eq => ⟨link, own, peer, rfl, eq⟩, ?_⟩
      rintro ⟨_, _, _, same, eq⟩
      cases same
      exact eq
    | failed | silent => simp [connect, zero, reached]

inductive Connecting (network : Network σ) (address : Net.Address) (config : ChannelConfig) :
    Outcome TransportError (Channel σ) → Prop
  | refused (zero : config.recvCapacity = 0) :
      Connecting network address config (.failed (.invalidConfig zeroCapacityReason))
  | unreached (error : TransportError)
      (away : ∀ link own peer, network address ≠ .connected link own peer) :
      Connecting network address config (.failed error)
  | opened (link : σ) (own peer : Net.Address) (reached : network address = .connected link own peer)
      (nonzero : config.recvCapacity ≠ 0) (fits : config.recvCapacity.toNat < Pipe.capacityLimit) :
      Connecting network address config (.done (fresh config link own peer))
  | broken (link : σ) (own peer : Net.Address) (reached : network address = .connected link own peer)
      (excess : Pipe.capacityLimit ≤ config.recvCapacity.toNat) :
      Connecting network address config (.crashed "capacity overflow")

theorem ofLink_of_excess {config : ChannelConfig}
    (excess : Pipe.capacityLimit ≤ config.recvCapacity.toNat) (link : σ)
    (own peer : Net.Address) : ofLink config link own peer = .crashed "capacity overflow" := by
  simp [ofLink, Pipe.create, Pipe.create?, Nat.not_lt.mpr excess, Pipe.Misuse.message?]

theorem connect_cases (network : Network σ) (address : Net.Address) (config : ChannelConfig) :
    Connecting network address config (connect network address config) := by
  by_cases zero : config.recvCapacity = 0
  next =>
    rw [connect, if_pos zero]
    exact .refused zero
  next =>
    rw [connect, if_neg zero]
    rcases reached : network address with ⟨link, own, peer⟩ | fault | _
    next =>
      by_cases fits : config.recvCapacity.toNat < Pipe.capacityLimit
      next =>
        simp only [ofLink_eq_done_iff.mpr ⟨fits, rfl⟩]
        exact .opened link own peer reached zero fits
      next =>
        have excess := Nat.not_lt.mp fits
        simp only [ofLink_of_excess excess]
        exact .broken link own peer reached excess
    next => exact .unreached _ (by simp [reached])
    next => exact .unreached _ (by simp [reached])

theorem connect_eq_crashed_iff {network : Network σ} {address : Net.Address}
    {config : ChannelConfig} {message : String} :
    connect network address config = .crashed message ↔
      message = "capacity overflow" ∧ Pipe.capacityLimit ≤ config.recvCapacity.toNat ∧
        ∃ link own peer, network address = .connected link own peer := by
  have connecting := connect_cases network address config
  generalize connect network address config = outcome at connecting
  cases connecting with
  | refused zero => simp [zero, Pipe.capacityLimit]
  | unreached error away => simp [away]
  | opened link own peer reached nonzero fits => simp [Nat.not_le.mpr fits]
  | broken link own peer reached excess => simp [reached, excess, eq_comm]

theorem connect_of_fits {network : Network σ} {address : Net.Address} {config : ChannelConfig}
    (fits : config.recvCapacity.toNat < Pipe.capacityLimit) :
    (∃ channel, connect network address config = .done channel) ∨
      ∃ error, connect network address config = .failed error := by
  have connecting := connect_cases network address config
  generalize connect network address config = outcome at connecting
  cases connecting with
  | refused | unreached => exact .inr ⟨_, rfl⟩
  | opened => exact .inl ⟨_, rfl⟩
  | broken link own peer reached excess => exact absurd fits (Nat.not_lt.mpr excess)

variable [Link σ]

inductive Reading (channel : Channel σ) : Outcome TransportError Bytes → Channel σ → Prop
  | idle (ended : channel.inbound.ended = true) : Reading channel (.done []) channel
  | ended (link : σ) (going : channel.inbound.ended = false)
      (came : Link.receive channel.link channel.inbound.room = (.bytes [], link)) :
      Reading channel (.done []) { channel with link, inbound := channel.inbound.finish }
  | arrived (data : Bytes) (link : σ) (going : channel.inbound.ended = false)
      (came : Link.receive channel.link channel.inbound.room = (.bytes data, link))
      (something : data ≠ []) (fits : data.length ≤ channel.inbound.room) :
      Reading channel (.done data) { channel with link, inbound := channel.inbound.relay data }
  | failed (fault : Fault) (link : σ) (going : channel.inbound.ended = false)
      (came : Link.receive channel.link channel.inbound.room = (.failed fault, link)) :
      Reading channel (.failed (.io .read fault)) { channel with link }
  | timedOut (limit : Duration) (link : σ) (going : channel.inbound.ended = false)
      (came : Link.receive channel.link channel.inbound.room = (.overdue, link))
      (limited : channel.readLimit = some limit) :
      Reading channel (.failed (.timedOut .read limit)) { channel with link }
  | stalled (link : σ) (going : channel.inbound.ended = false)
      (came : Link.receive channel.link channel.inbound.room = (.overdue, link))
      (unlimited : channel.readLimit = none) : Reading channel .stalled { channel with link }

theorem read_of_ended {capacity : Nat} (settled : channel.Settled capacity)
    (ended : channel.inbound.ended = true) : channel.read = (.done [], channel) := by
  have staged : channel.takeStaged = ([], channel) := by
    rw [takeStaged, Pipe.read_nothing settled.nothing]
  simp [read, needsFill, ended, staged]

theorem read_of_going {capacity : Nat} (settled : channel.Settled capacity)
    (going : channel.inbound.ended = false) :
    channel.read =
      match channel.fill with
      | (.done (), filled) => (.done filled.takeStaged.1, filled.takeStaged.2)
      | (.failed error, after) => (.failed error, after)
      | (.stalled, after) => (.stalled, after)
      | (.crashed message, after) => (.crashed message, after) := by
  have needed : channel.needsFill = true := by
    simp [needsFill, Pipe.isEmpty, settled.nothing, going]
  unfold read
  exact if_pos needed

theorem Settled.reading [LawfulLink σ] {capacity : Nat} (settled : channel.Settled capacity) :
    channel.Reading channel.read.1 channel.read.2 := by
  cases going : channel.inbound.ended with
  | true =>
    rw [read_of_ended settled going]
    exact .idle going
  | false =>
    rw [read_of_going settled going]
    rcases came : Link.receive channel.link channel.inbound.room with ⟨data | fault | _, link⟩
    case bytes =>
      -- No more came than there was room for, so all of it is staged and handed out at once.
      have fits := LawfulLink.receive_length_le _ _ _ _ came
      cases data with
      | nil =>
        have nothing : channel.inbound.finish.size = 0 := settled.nothing
        have staged := Pipe.read_nothing nothing
        simp only [fill, came, takeStaged, staged]
        exact .ended link going came
      | cons byte more =>
        have staged := Pipe.read_write settled.sound settled.nothing going (byte :: more) fits
        simp only [fill, came, takeStaged, staged]
        exact .arrived (byte :: more) link going came (List.cons_ne_nil _ _) fits
    case failed =>
      simp only [fill, came]
      exact .failed fault link going came
    case overdue =>
      rcases Option.eq_none_or_eq_some channel.readLimit with unlimited | ⟨limit, limited⟩
      next =>
        simp only [fill, came, unlimited]
        simpa only [unlimited] using Reading.stalled link going came unlimited
      next =>
        simp only [fill, came, limited]
        simpa only [limited] using Reading.timedOut limit link going came limited

theorem Reading.settled {capacity : Nat} {outcome : Outcome TransportError Bytes}
    {after : Channel σ} (reading : channel.Reading outcome after)
    (settled : channel.Settled capacity) : after.Settled capacity := by
  cases reading with
  | idle ended => exact settled
  | ended link going came =>
    exact ⟨Pipe.finish_sound settled.sound, settled.nothing, settled.capacity_eq⟩
  | arrived data link going came something fits =>
    exact
      { sound := Pipe.relay_sound settled.sound data
        nothing := Pipe.size_relay data
        capacity_eq := (Pipe.capacity_relay settled.sound data).trans settled.capacity_eq }
  | failed | timedOut | stalled => exact ⟨settled.sound, settled.nothing, settled.capacity_eq⟩

def written (data : Bytes) : Sending → Outcome TransportError Nat
  | .taken => .done data.length
  | .failed fault => .failed (.io .write fault)
  | .overdue => .stalled

inductive Writing (channel : Channel σ) (data : Bytes) :
    Outcome TransportError Nat → Channel σ → Prop
  | refused (closed : channel.writeClosed = true) :
      Writing channel data (.failed (.closed .write)) channel
  | idle (going : channel.writeClosed = false) (nothing : data = []) :
      Writing channel data (.done 0) channel
  | sent (sending : Sending) (link : σ) (going : channel.writeClosed = false)
      (something : data ≠ []) (came : Link.send channel.link data = (sending, link)) :
      Writing channel data (written data sending) { channel with link }

theorem write_of_sent {data : Bytes} {sending : Sending} {link : σ}
    (going : channel.writeClosed = false) (something : data ≠ [])
    (came : Link.send channel.link data = (sending, link)) :
    channel.write data = (written data sending, { channel with link }) := by
  cases sending <;> simp [write, written, going, something, came]

theorem write_cases (channel : Channel σ) (data : Bytes) :
    channel.Writing data (channel.write data).1 (channel.write data).2 := by
  cases closed : channel.writeClosed with
  | true => simpa [write, closed] using Writing.refused closed
  | false =>
    by_cases nothing : data = []
    next => simpa [write, closed, nothing] using Writing.idle closed nothing
    next =>
      rcases came : Link.send channel.link data with ⟨sending, link⟩
      rw [write_of_sent closed nothing came]
      exact .sent sending link closed nothing came

theorem shutdown_keeps {P : Channel σ → Prop}
    (closeWrite : ∀ channel : Channel σ, P channel → P channel.closeWrite.2)
    (closeRead : ∀ channel : Channel σ, P channel → P channel.closeRead.2)
    (direction : Direction) (holds : P channel) : P (channel.shutdown direction).2 := by
  have first : P (if direction.writes then channel.closeWrite else (.ok (), channel)).2 := by
    split
    next => exact closeWrite channel holds
    next => exact holds
  -- Whether reading is closed as well depends on how closing writing came out, not on the channel.
  unfold shutdown
  generalize (if direction.writes then channel.closeWrite else (.ok (), channel)) = written at first
  obtain ⟨outcome, middle⟩ := written
  cases outcome with
  | error error => exact first
  | ok =>
    simp only
    split
    next => exact closeRead middle first
    next => exact first

@[simp] theorem inbound_write (data : Bytes) :
    (channel.write data).2.inbound = channel.inbound := by
  have writing := channel.write_cases data
  generalize (channel.write data).1 = outcome, (channel.write data).2 = after at writing
  cases writing <;> rfl

@[simp] theorem inbound_closeWrite : channel.closeWrite.2.inbound = channel.inbound := by
  unfold closeWrite
  split <;> rfl

theorem inbound_closeRead (channel : Channel σ) :
    channel.closeRead.2.inbound = channel.inbound ∨
      channel.closeRead.2.inbound = channel.inbound.finish := by
  unfold closeRead
  split
  next => exact .inl rfl
  next =>
    simp only
    split
    next => exact .inr rfl
    next => exact .inl rfl

theorem received_write (data : Bytes) : (channel.write data).2.received = channel.received := by
  rw [received, inbound_write, received]

theorem received_closeWrite : channel.closeWrite.2.received = channel.received := by
  rw [received, inbound_closeWrite, received]

theorem received_closeRead : channel.closeRead.2.received = channel.received := by
  unfold received
  rcases channel.inbound_closeRead with same | finished
  next => rw [same]
  next => rw [finished]; rfl

theorem received_shutdown (direction : Direction) :
    (channel.shutdown direction).2.received = channel.received :=
  shutdown_keeps (P := fun after => after.received = channel.received)
    (fun _ same => received_closeWrite.trans same) (fun _ same => received_closeRead.trans same)
    direction rfl

namespace Settled

variable {capacity : Nat}

theorem read [LawfulLink σ] (settled : channel.Settled capacity) :
    channel.read.2.Settled capacity :=
  settled.reading.settled settled

theorem write (settled : channel.Settled capacity) (data : Bytes) :
    (channel.write data).2.Settled capacity :=
  settled.of_inbound_eq (inbound_write data)

theorem shutdown (settled : channel.Settled capacity) (direction : Direction) :
    (channel.shutdown direction).2.Settled capacity :=
  shutdown_keeps (fun _ settled => settled.of_inbound_eq inbound_closeWrite)
    (fun channel settled =>
      channel.inbound_closeRead.elim settled.of_inbound_eq settled.of_inbound_finish)
    direction settled

end Settled

-- What a link keeps while it is written to and closed, as opposed to read from.
structure Aside (P : σ → Prop) : Prop where
  send (link : σ) (data : Bytes) : P link → P (Link.send link data).2
  endSending (link : σ) : P link → P (Link.endSending link).2
  endReceiving (link : σ) : P link → P (Link.endReceiving link).2

namespace Aside

variable {P : σ → Prop}

theorem write (aside : Aside P) (holds : P channel.link) (data : Bytes) :
    P (channel.write data).2.link := by
  have after := aside.send channel.link data holds
  have writing := channel.write_cases data
  generalize (channel.write data).1 = outcome, (channel.write data).2 = written at writing
  cases writing with
  | refused | idle => exact holds
  | sent sending link going something came => exact (came ▸ after :)

theorem closeWrite (aside : Aside P) (holds : P channel.link) : P channel.closeWrite.2.link := by
  unfold Channel.closeWrite
  split
  next => exact holds
  next => exact aside.endSending channel.link holds

theorem closeRead (aside : Aside P) (holds : P channel.link) : P channel.closeRead.2.link := by
  unfold Channel.closeRead
  split
  next => exact holds
  next =>
    simp only
    split <;> exact aside.endReceiving channel.link holds

theorem shutdown (aside : Aside P) (holds : P channel.link) (direction : Direction) :
    P (channel.shutdown direction).2.link :=
  shutdown_keeps (P := fun channel => P channel.link) (fun _ => aside.closeWrite)
    (fun _ => aside.closeRead) direction holds

end Aside

end Channel

end Conduit
