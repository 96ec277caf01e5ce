import Conduit.Channel.Conversation
import Conduit.Channel.Transcript
import Conduit.Proofs.Channel.Staging
set_option autoImplicit false

namespace Conduit

def Arrival.data : Arrival → Bytes
  | bytes data => data
  | _ => []

namespace Transcript

def brought (arrivals : List Arrival) : Bytes := (arrivals.map Arrival.data).flatten

theorem taken_append (before after : List Exchange) :
    taken (before ++ after) = taken before ++ taken after := by
  induction before with
  | nil => rfl
  | cons exchange rest ih =>
    cases exchange with
    | received room arrival => cases arrival <;> simp [taken, ih]
    | sent | sendingEnded | receivingEnded => simp [taken, ih]

theorem taken_received (room : Nat) (arrival : Arrival) :
    taken [.received room arrival] = arrival.data := by
  cases arrival <;> simp [taken, Arrival.data]

theorem brought_nextArrival (room : Nat) (arrivals : List Arrival) :
    (nextArrival room arrivals).1.data ++ brought (nextArrival room arrivals).2 =
      brought arrivals := by
  unfold nextArrival
  split
  next => rfl
  next data later =>
    -- What a piece has more than room for is still among the arrivals.
    by_cases fits : data.length ≤ room
    next => simp [fits, Arrival.data, brought, List.take_of_length_le fits]
    next => simp [fits, Arrival.data, brought, ← List.append_assoc]
  next => rfl

structure Accounts (script : List Arrival) (capacity : Nat) (bytes : Bytes)
    (transcript : Transcript) : Prop where
  taken_eq : taken transcript.log = bytes
  brought_eq : bytes ++ brought transcript.arrivals = brought script
  offered (room : Nat) (arrival : Arrival) :
    Exchange.received room arrival ∈ transcript.log → room = capacity

variable {script : List Arrival} {capacity : Nat} {bytes : Bytes} {transcript : Transcript}

theorem Accounts.receive (accounts : transcript.Accounts script capacity bytes) {arrival : Arrival}
    {after : Transcript} (came : transcript.receive capacity = (arrival, after)) :
    after.Accounts script capacity (bytes ++ arrival.data) := by
  have brought := brought_nextArrival capacity transcript.arrivals
  simp only [Transcript.receive, Prod.mk.injEq] at came
  obtain ⟨rfl, rfl⟩ := came
  constructor
  case taken_eq => simp [record, taken_append, taken_received, accounts.taken_eq]
  case brought_eq =>
    show _ ++ Transcript.brought (nextArrival capacity transcript.arrivals).2 = _
    rw [List.append_assoc, brought, accounts.brought_eq]
  case offered =>
    intro room arrival asked
    simp only [record, List.mem_append, List.mem_singleton, Exchange.received.injEq] at asked
    exact asked.elim (accounts.offered room arrival) And.left

theorem Accounts.logged (accounts : transcript.Accounts script capacity bytes) {after : Transcript}
    {exchange : Exchange} (log : after.log = transcript.log ++ [exchange])
    (same : after.arrivals = transcript.arrivals)
    (other : ∀ room arrival, exchange ≠ .received room arrival) :
    after.Accounts script capacity bytes := by
  have nothing : taken [exchange] = [] := by
    cases exchange with
    | received room arrival => exact absurd rfl (other room arrival)
    | sent | sendingEnded | receivingEnded => rfl
  constructor
  case taken_eq => rw [log, taken_append, nothing, List.append_nil, accounts.taken_eq]
  case brought_eq => rw [same, accounts.brought_eq]
  case offered =>
    intro room arrival asked
    rw [log, List.mem_append, List.mem_singleton] at asked
    rcases asked with before | here
    next => exact accounts.offered room arrival before
    next => exact absurd here.symm (other room arrival)

theorem accounts_aside (script : List Arrival) (capacity : Nat) (bytes : Bytes) :
    Channel.Aside (Accounts script capacity bytes) := by
  constructor
  case send =>
    intro link data accounts
    exact accounts.logged rfl rfl (by simp)
  case endSending =>
    intro link accounts
    exact accounts.logged rfl rfl (by simp)
  case endReceiving =>
    intro link accounts
    exact accounts.logged rfl rfl (by simp)

end Transcript

namespace Channel

def Reply.data : Reply → Bytes
  | bytes data => data
  | _ => []

def readBytes {σ : Type} (steps : List (Reply × Channel σ)) : Bytes :=
  (steps.map (·.1.data)).flatten

def lastOf {σ : Type} (channel : Channel σ) (steps : List (Reply × Channel σ)) : Channel σ :=
  (steps.map (·.2)).getLastD channel

theorem run_cons {σ : Type} [Link σ] (channel : Channel σ) (action : Action)
    (later : List Action) :
    channel.run (action :: later) = channel.act action :: (channel.act action).2.run later :=
  rfl

theorem readBytes_cons {σ : Type} (step : Reply × Channel σ) (later : List (Reply × Channel σ)) :
    readBytes (step :: later) = step.1.data ++ readBytes later := by
  simp [readBytes]

theorem lastOf_cons {σ : Type} (channel : Channel σ) (step : Reply × Channel σ)
    (later : List (Reply × Channel σ)) :
    channel.lastOf (step :: later) = step.2.lastOf later := by
  rw [lastOf, List.map_cons, List.getLastD_cons, lastOf]

@[simp] theorem data_ofOutcome_count {ε : Outcome Net.TransportError Nat} :
    (Reply.ofOutcome .count ε).data = [] := by
  cases ε <;> rfl

@[simp] theorem data_ofClosing {outcome : Except Net.TransportError Unit} :
    (Reply.ofClosing outcome).data = [] := by
  cases outcome <;> rfl

namespace Settled

variable {σ : Type} [Link σ] {capacity : Nat} {channel : Channel σ}

theorem act [LawfulLink σ] (settled : channel.Settled capacity) (action : Action) :
    (channel.act action).2.Settled capacity := by
  cases action with
  | read => exact settled.read
  | write data => exact settled.write data
  | shutdown direction => exact settled.shutdown direction
  | close => exact settled.shutdown .both

theorem length_act_le [LawfulLink σ] (settled : channel.Settled capacity) (action : Action) :
    (channel.act action).1.data.length ≤ capacity := by
  cases action with
  | read =>
    have reading := settled.reading
    have room := settled.room_eq
    show (Reply.ofOutcome .bytes channel.read.1).data.length ≤ capacity
    generalize channel.read.1 = outcome, channel.read.2 = after at reading
    cases reading with
    | arrived data link going came something fits => exact room ▸ fits
    | idle | ended | failed | timedOut | stalled => exact Nat.zero_le _
  | write | shutdown | close => simp [Channel.act]

theorem length_run_le [LawfulLink σ] (settled : channel.Settled capacity)
    (actions : List Action) :
    ∀ step ∈ channel.run actions, step.1.data.length ≤ capacity := by
  induction actions generalizing channel with
  | nil => simp [Channel.run]
  | cons action later ih =>
    rw [run_cons, List.forall_mem_cons]
    exact ⟨settled.length_act_le action, ih (settled.act action)⟩

end Settled

theorem written_whole {σ : Type} [Link σ] [LawfulLink σ] {channel : Channel σ}
    (needed : channel.needsFill = true) {data : Bytes} {link : σ}
    (came : Link.receive channel.link channel.inbound.room = (.bytes data, link)) :
    (channel.inbound.write data).1 = data.length := by
  have going : channel.inbound.ended = false := by
    simpa using (Bool.and_eq_true_iff.mp needed).2
  rw [Pipe.write_fst]
  exact Pipe.accepted_of_fits going data (LawfulLink.receive_length_le _ _ _ _ came)

open Transcript (taken brought)

structure Accounted (script : List Arrival) (capacity : Nat) (bytes : Bytes)
    (channel : Channel Transcript) : Prop where
  settled : channel.Settled capacity
  accounts : channel.link.Accounts script capacity bytes
  received_eq : channel.received = .ofNat bytes.length

namespace Accounted

variable {script : List Arrival} {capacity : Nat} {bytes : Bytes} {channel : Channel Transcript}

theorem read (accounted : channel.Accounted script capacity bytes) :
    channel.read.2.Accounted script capacity
      (bytes ++ (Reply.ofOutcome .bytes channel.read.1).data) := by
  have settled := accounted.settled
  have reading := settled.reading
  have after := reading.settled settled
  have room := settled.room_eq
  have total : channel.inbound.totalIn = .ofNat bytes.length := accounted.received_eq
  -- Only an arrival adds to what was received.
  have unchanged : channel.inbound.totalIn = .ofNat (bytes ++ []).length := by
    rw [total, List.append_nil]
  generalize channel.read.1 = outcome, channel.read.2 = last at reading after
  cases reading with
  | idle ended => simpa [Reply.ofOutcome, Reply.data] using accounted
  | ended link going came | failed fault link going came | timedOut limit link going came limited
  | stalled link going came unlimited =>
    rw [room] at came
    exact ⟨after, accounted.accounts.receive came, unchanged⟩
  | arrived data link going came something fits =>
    rw [room] at came
    refine ⟨after, accounted.accounts.receive came, ?_⟩
    show (channel.inbound.relay data).totalIn = .ofNat (bytes ++ data).length
    rw [Pipe.totalIn_relay going data fits, total, List.length_append, UInt64.ofNat_add]

theorem write (accounted : channel.Accounted script capacity bytes) (data : Bytes) :
    (channel.write data).2.Accounted script capacity bytes :=
  { settled := accounted.settled.write data
    accounts := (Transcript.accounts_aside script capacity bytes).write accounted.accounts data
    received_eq := (received_write data).trans accounted.received_eq }

theorem shutdown (accounted : channel.Accounted script capacity bytes) (direction : Direction) :
    (channel.shutdown direction).2.Accounted script capacity bytes :=
  { settled := accounted.settled.shutdown direction
    accounts :=
      (Transcript.accounts_aside script capacity bytes).shutdown accounted.accounts direction
    received_eq := (received_shutdown direction).trans accounted.received_eq }

theorem act (accounted : channel.Accounted script capacity bytes) (action : Action) :
    (channel.act action).2.Accounted script capacity (bytes ++ (channel.act action).1.data) := by
  cases action with
  | read => exact accounted.read
  | write data => simpa [Channel.act] using accounted.write data
  | shutdown direction => simpa [Channel.act] using accounted.shutdown direction
  | close => simpa [Channel.act, close] using accounted.shutdown .both

theorem run (accounted : channel.Accounted script capacity bytes) (actions : List Action) :
    (lastOf channel (channel.run actions)).Accounted script capacity
      (bytes ++ readBytes (channel.run actions)) := by
  -- The bytes that were read so far grow with the run, so the invariant is kept for any of them.
  induction actions generalizing channel bytes with
  | nil => simpa [Channel.run, lastOf, readBytes] using accounted
  | cons action later ih =>
    have next := ih (accounted.act action)
    rwa [run_cons, readBytes_cons, lastOf_cons, ← List.append_assoc]

end Accounted

/-- After `steps`, which ended in `last`, nothing that arrived was lost, held back or made up. -/
structure Intact (script : Transcript) (capacity : Nat) (steps : List (Reply × Channel Transcript))
    (last : Channel Transcript) : Prop where
  read_eq_taken : readBytes steps = taken last.link.log
  read_prefix : readBytes steps <+: brought script.arrivals
  received_eq : last.received = .ofNat (readBytes steps).length
  length_read_le : ∀ step ∈ steps, step.1.data.length ≤ capacity
  offered_eq : ∀ room arrival, Exchange.received room arrival ∈ last.link.log → room = capacity
  nothing_staged : last.inbound.isEmpty = true
  room_eq : last.inbound.room = capacity
  staged_whole : ∀ data link, last.needsFill = true →
    Link.receive last.link last.inbound.room = (.bytes data, link) →
      (last.inbound.write data).1 = data.length

theorem connect_run_intact {network : Network Transcript} {address : Net.Address}
    {config : ChannelConfig} {script : Transcript} {own peer : Net.Address}
    {channel : Channel Transcript} (reached : network address = .connected script own peer)
    (unasked : script.log = []) (connected : connect network address config = .done channel)
    (actions : List Action) :
    Intact script config.recvCapacity.toNat (channel.run actions)
      (channel.lastOf (channel.run actions)) := by
  obtain ⟨-, -, _, _, _, same, rfl⟩ := connect_eq_done_iff.mp connected
  cases reached.symm.trans same
  have settled := fresh_settled config script own peer
  have start : (fresh config script own peer).Accounted script.arrivals config.recvCapacity.toNat
      [] :=
    { settled
      accounts :=
        { taken_eq := by rw [fresh, unasked, taken]
          brought_eq := List.nil_append _
          offered := by simp [fresh, unasked] }
      received_eq := rfl }
  have after := start.run actions
  rw [List.nil_append] at after
  exact
    { read_eq_taken := after.accounts.taken_eq.symm
      read_prefix := ⟨_, after.accounts.brought_eq⟩
      received_eq := after.received_eq
      length_read_le := settled.length_run_le actions
      offered_eq := after.accounts.offered
      nothing_staged := by simp [Pipe.isEmpty, after.settled.nothing]
      room_eq := after.settled.room_eq
      staged_whole := fun _ _ needed came => written_whole needed came }

-- The first arrival takes two reads, and the writing side stays closed though closing it fails.
def disturbed : Transcript :=
  { Transcript.blank with
    arrivals :=
      [.bytes [1, 2, 3], .failed (.plain .interrupted), .overdue, .bytes [4], .bytes [], .bytes [5]]
    sendingEnds := [.error (.plain .brokenPipe)] }

def disturbances : List Action :=
  [.read, .write [9], .read, .shutdown .both, .read, .read, .read, .shutdown .read, .read, .close]

def disturbing : Network Transcript :=
  fun _ => .connected disturbed (Net.loopback 40000) (Net.loopback 80)

theorem connect_run_disturbed :
    disturbing (Net.loopback 80) = .connected disturbed (Net.loopback 40000) (Net.loopback 80) ∧
      disturbed.log = [] ∧ ∃ channel,
        connect disturbing (Net.loopback 80) (ChannelConfig.default.withRecvCapacity 2) =
          .done channel ∧
        readBytes (channel.run disturbances) = [1, 2, 3, 4] ∧
        Intact disturbed 2 (channel.run disturbances)
          (channel.lastOf (channel.run disturbances)) := by
  have reached : disturbing (Net.loopback 80) =
      .connected disturbed (Net.loopback 40000) (Net.loopback 80) := rfl
  have connected := connect_eq_done_iff.mpr
    ⟨by decide, by decide, _, _, _, reached, (rfl : _ = fresh (.withRecvCapacity .default 2) _ _ _)⟩
  exact ⟨reached, rfl, _, connected, by decide,
    connect_run_intact reached rfl connected disturbances⟩

end Channel

end Conduit
