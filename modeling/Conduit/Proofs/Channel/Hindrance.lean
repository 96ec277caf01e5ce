import Conduit.Proofs.Channel.Directions
set_option autoImplicit false

namespace Conduit

open Net (TransportError)

def Arrival.error? (limit : Option Duration) : Arrival → Option TransportError
  | bytes _ => none
  | failed fault => some (.io .read fault)
  | overdue => limit.map (.timedOut .read)

namespace Channel

open Transcript (brought brought_nextArrival nextArrival taken taken_append taken_received)

variable {channel other : Channel Transcript} {capacity : Nat} {error : TransportError}

theorem read_eq_failed_iff {σ : Type} [Link σ] [LawfulLink σ] {channel : Channel σ}
    (settled : channel.Settled capacity) :
    channel.read.1 = .failed error ↔ channel.inbound.ended = false ∧
      (Link.receive channel.link channel.inbound.room).1.error? channel.readLimit = some error := by
  have reading := settled.reading
  generalize channel.read.1 = outcome, channel.read.2 = after at reading
  cases reading with
  | idle ended => simp [ended]
  | ended link going came | arrived data link going came something fits
  | failed fault link going came => simp [going, came, Arrival.error?]
  | timedOut limit link going came limited => simp [going, came, Arrival.error?, limited]
  | stalled link going came unlimited => simp [going, came, Arrival.error?, unlimited]

structure Unharmed (before after : Channel Transcript) : Prop where
  inbound_eq : after.inbound = before.inbound
  received_eq : after.received = before.received
  atEnd_eq : after.atEnd = before.atEnd
  writeClosed_eq : after.writeClosed = before.writeClosed
  readClosed_eq : after.readClosed = before.readClosed
  readLimit_eq : after.readLimit = before.readLimit
  taken_eq : taken after.link.log = taken before.link.log
  brought_eq : brought after.link.arrivals = brought before.link.arrivals

theorem unharmed_of_receive {link : Transcript} {arrival : Arrival} {room : Nat}
    (came : Link.receive channel.link room = (arrival, link)) (empty : arrival.data = []) :
    Unharmed channel { channel with link } := by
  have log := log_receive came
  have left := brought_nextArrival room channel.link.arrivals
  have same : nextArrival room channel.link.arrivals = (arrival, link.arrivals) := by
    cases came
    rfl
  constructor
  case taken_eq => rw [log, taken_append, taken_received, empty, List.append_nil]
  case brought_eq =>
    rw [same, empty] at left
    exact left
  all_goals rfl

theorem read_unharmed (settled : channel.Settled capacity)
    (fails : channel.read.1 = .failed error) : Unharmed channel channel.read.2 := by
  have reading := settled.reading
  generalize channel.read.1 = outcome, channel.read.2 = after at reading fails
  cases reading with
  | idle | ended | arrived | stalled => cases fails
  | failed fault link going came => exact unharmed_of_receive came rfl
  | timedOut limit link going came limited => exact unharmed_of_receive came rfl

theorem readLimit_act (settled : channel.Settled capacity) (action : Action) :
    (channel.act action).2.readLimit = channel.readLimit := by
  have shutdown (direction : Direction) :
      (channel.shutdown direction).2.readLimit = channel.readLimit := by
    refine shutdown_keeps (P := fun after => after.readLimit = channel.readLimit) ?_ ?_ direction rfl
    next =>
      intro before same
      have closing := before.closeWrite_cases
      generalize before.closeWrite.1 = result, before.closeWrite.2 = after at closing
      cases closing <;> exact same
    next =>
      intro before same
      have closing := before.closeRead_cases
      generalize before.closeRead.1 = result, before.closeRead.2 = after at closing
      cases closing <;> exact same
  cases action with
  | read =>
    have reading := settled.reading
    show channel.read.2.readLimit = _
    generalize channel.read.1 = outcome, channel.read.2 = after at reading
    cases reading <;> rfl
  | write data => exact congrArg Inlet.readLimit (inlet_write data)
  | shutdown direction => exact shutdown direction
  | close => exact shutdown .both

/-- Neither direction can tell the one channel from the other. -/
structure Alike (channel other : Channel Transcript) : Prop where
  inlet_eq : channel.inlet = other.inlet
  outlet_eq : channel.outlet = other.outlet

namespace Alike

theorem closeWrite (alike : Alike channel other) :
    channel.closeWrite.1 = other.closeWrite.1 ∧ Alike channel.closeWrite.2 other.closeWrite.2 := by
  obtain ⟨result, outlet_eq⟩ := closeWrite_congr alike.outlet_eq
  exact ⟨result, inlet_closeWrite.trans (alike.inlet_eq.trans inlet_closeWrite.symm), outlet_eq⟩

theorem closeRead (alike : Alike channel other) :
    channel.closeRead.1 = other.closeRead.1 ∧ Alike channel.closeRead.2 other.closeRead.2 := by
  obtain ⟨result, inlet_eq⟩ := closeRead_congr alike.inlet_eq
  exact ⟨result, inlet_eq, outlet_closeRead.trans (alike.outlet_eq.trans outlet_closeRead.symm)⟩

theorem shutdown (alike : Alike channel other) (direction : Direction) :
    (channel.shutdown direction).1 = (other.shutdown direction).1 ∧
      Alike (channel.shutdown direction).2 (other.shutdown direction).2 := by
  cases direction with
  | write => simpa only [shutdown_write] using alike.closeWrite
  | read => simpa only [shutdown_read] using alike.closeRead
  | both =>
    have written := alike.closeWrite
    rw [shutdown_both, shutdown_both]
    generalize channel.closeWrite = first, other.closeWrite = second at written
    obtain ⟨result, middle⟩ := first
    obtain ⟨_, _⟩ := second
    obtain ⟨rfl, alike⟩ := written
    rcases result with error | ⟨⟩
    next => exact ⟨rfl, alike⟩
    next => exact alike.closeRead

theorem act (alike : Alike channel other) (action : Action) :
    (channel.act action).1 = (other.act action).1 ∧
      Alike (channel.act action).2 (other.act action).2 := by
  cases action with
  | read =>
    obtain ⟨outcome, inlet_eq⟩ := read_congr alike.inlet_eq
    exact ⟨congrArg (Reply.ofOutcome .bytes) outcome, inlet_eq,
      outlet_read.trans (alike.outlet_eq.trans outlet_read.symm)⟩
  | write data =>
    obtain ⟨outcome, outlet_eq⟩ := write_congr alike.outlet_eq data
    exact ⟨congrArg (Reply.ofOutcome .count) outcome,
      (inlet_write data).trans (alike.inlet_eq.trans (inlet_write data).symm), outlet_eq⟩
  | shutdown direction =>
    obtain ⟨result, after⟩ := alike.shutdown direction
    exact ⟨congrArg Reply.ofClosing result, after⟩
  | close =>
    obtain ⟨result, after⟩ := alike.shutdown .both
    exact ⟨congrArg Reply.ofClosing result, after⟩

end Alike

def facing (channel : Channel Transcript) (arrivals : List Arrival) : Channel Transcript :=
  { channel with link := { channel.link with arrivals } }

def meets (channel : Channel Transcript) : Action → List Arrival
  | .read =>
      if channel.needsFill then [(Link.receive channel.link channel.inbound.room).1] else []
  | _ => []

theorem nextArrival_again (room : Nat) (arrivals later : List Arrival) :
    nextArrival room ((nextArrival room arrivals).1 :: later) =
      ((nextArrival room arrivals).1, later) := by
  rcases arrivals with _ | ⟨data | fault | _, rest⟩
  case cons.bytes =>
    have short : (data.take room).length ≤ room := List.length_take_le room data
    simp only [nextArrival, List.take_of_length_le short, if_pos short]
  all_goals rfl

theorem read_facing (channel : Channel Transcript) (later : List Arrival) :
    (channel.facing (channel.meets .read ++ later)).read =
      (channel.read.1, channel.read.2.facing later) := by
  have again := nextArrival_again channel.inbound.room channel.link.arrivals later
  obtain ⟨⟨arrivals, _, _, _, _⟩, inbound, limit, _, _, _, _⟩ := channel
  simp only [facing, meets, read, needsFill, fill, Link.receive, Transcript.receive] at again ⊢
  by_cases needed : (inbound.isEmpty && !inbound.ended) = true
  next =>
    simp only [needed, if_true, List.cons_append, List.nil_append, again]
    rcases nextArrival inbound.room arrivals with ⟨(_ | ⟨byte, more⟩) | fault | _, rest⟩
    case overdue => cases limit <;> simp [Transcript.record]
    all_goals simp [takeStaged, Transcript.record]
  next => simp [needed, takeStaged]

theorem write_facing (channel : Channel Transcript) (later : List Arrival) (data : Bytes) :
    (channel.facing later).write data =
      ((channel.write data).1, (channel.write data).2.facing later) := by
  obtain ⟨⟨_, sendings, _, _, _⟩, _, _, _, _, closed, _⟩ := channel
  simp only [facing, write, Link.send, Transcript.send]
  generalize Transcript.nextSending sendings = next
  rcases next with ⟨_ | fault | _, rest⟩ <;> cases closed <;> cases data <;> rfl

theorem closeWrite_facing (channel : Channel Transcript) (later : List Arrival) :
    (channel.facing later).closeWrite =
      (channel.closeWrite.1, channel.closeWrite.2.facing later) := by
  obtain ⟨_, _, _, _, _, closed, _⟩ := channel
  cases closed <;> rfl

theorem closeRead_facing (channel : Channel Transcript) (later : List Arrival) :
    (channel.facing later).closeRead = (channel.closeRead.1, channel.closeRead.2.facing later) := by
  obtain ⟨⟨_, _, _, ends, _⟩, _, _, _, _, _, closed⟩ := channel
  simp only [facing, closeRead, Link.endReceiving, Transcript.endReceiving]
  generalize Transcript.nextOutcome ends = next
  rcases next with ⟨outcome, rest⟩
  cases closed with
  | true => rfl
  | false => rcases closing outcome with error | ⟨⟩ <;> rfl

theorem shutdown_facing (channel : Channel Transcript) (later : List Arrival)
    (direction : Direction) :
    (channel.facing later).shutdown direction =
      ((channel.shutdown direction).1, (channel.shutdown direction).2.facing later) := by
  cases direction with
  | write => simp only [shutdown_write, closeWrite_facing]
  | read => simp only [shutdown_read, closeRead_facing]
  | both =>
    rw [shutdown_both, shutdown_both, closeWrite_facing]
    rcases channel.closeWrite with ⟨error | ⟨⟩, middle⟩
    next => rfl
    next => exact middle.closeRead_facing later

theorem act_facing (channel : Channel Transcript) (action : Action) (later : List Arrival) :
    (channel.facing (channel.meets action ++ later)).act action =
      ((channel.act action).1, (channel.act action).2.facing later) := by
  cases action with
  | read => simp only [act, read_facing]
  | write data => simp only [act, meets, List.nil_append, write_facing]
  | shutdown direction => simp only [act, meets, List.nil_append, shutdown_facing]
  | close => simp only [act, meets, List.nil_append, close, shutdown_facing]

theorem brought_append (before after : List Arrival) :
    brought (before ++ after) = brought before ++ brought after := by
  rw [brought, List.map_append, List.flatten_append, brought, brought]

theorem brought_read (channel : Channel Transcript) :
    brought (channel.meets .read) ++ brought channel.read.2.link.arrivals =
      brought channel.link.arrivals := by
  have next := brought_nextArrival channel.inbound.room channel.link.arrivals
  obtain ⟨⟨arrivals, _, _, _, _⟩, inbound, limit, _, _, _, _⟩ := channel
  simp only [meets, read, needsFill, fill, Link.receive, Transcript.receive] at next ⊢
  by_cases needed : (inbound.isEmpty && !inbound.ended) = true
  next =>
    simp only [needed, if_true]
    generalize nextArrival inbound.room arrivals = came at next
    rcases came with ⟨(_ | ⟨byte, more⟩) | fault | _, rest⟩
    case overdue => cases limit <;> simpa [brought, Transcript.record] using next
    all_goals simpa [brought, Transcript.record, takeStaged, Arrival.data] using next
  next => simp [needed, brought, takeStaged]

theorem arrivals_shutdown (channel : Channel Transcript) (direction : Direction) :
    (channel.shutdown direction).2.link.arrivals = channel.link.arrivals := by
  refine shutdown_keeps (P := fun after : Channel Transcript =>
    after.link.arrivals = channel.link.arrivals) ?_ ?_ direction rfl
  next => exact fun before same => (congrArg Inlet.arrivals inlet_closeWrite).trans same
  next =>
    intro before same
    have closing := before.closeRead_cases
    generalize before.closeRead.1 = result, before.closeRead.2 = after at closing
    cases closing with
    | already closed => exact same
    | carried outcome link going came done | refused fault link going came undone =>
      have kept : before.link.arrivals = link.arrivals := congrArg (·.2.arrivals) came
      exact kept.symm.trans same

theorem brought_act (channel : Channel Transcript) (action : Action) :
    brought (channel.meets action) ++ brought (channel.act action).2.link.arrivals =
      brought channel.link.arrivals := by
  cases action with
  | read => exact channel.brought_read
  | write data => exact congrArg brought (congrArg Inlet.arrivals (inlet_write data))
  | shutdown direction => exact congrArg brought (channel.arrivals_shutdown direction)
  | close => exact congrArg brought (channel.arrivals_shutdown .both)

/-- What is done at some place of a run: one of its actions, or a read that is put in and finds this. -/
inductive Moment
  | usual (action : Action)
  | hindered (arrival : Arrival)

namespace Moment

def action : Moment → Action
  | usual action => action
  | hindered _ => .read

def usual? : Moment → Option Action
  | usual action => some action
  | hindered _ => none

end Moment

def laidOut : Channel Transcript → List Moment → List Arrival
  | channel, [] => channel.link.arrivals
  | channel, .usual action :: later => channel.meets action ++ laidOut (channel.act action).2 later
  | channel, .hindered arrival :: later => arrival :: laidOut channel later

def pace : Channel Transcript → List Moment → List (Channel Transcript)
  | _, [] => []
  | channel, .usual action :: later => (channel.act action).2 :: pace (channel.act action).2 later
  | channel, .hindered _ :: later => channel :: pace channel later

def apart : List Moment → List Reply → List Reply × List Reply
  | .usual _ :: moments, reply :: later => (apart moments later).map (reply :: ·) id
  | .hindered _ :: moments, reply :: later => (apart moments later).map id (reply :: ·)
  | _, _ => ([], [])

structure Bearing where
  inbound : Pipe
  received : UInt64
  atEnd : Bool
  writeClosed : Bool
  readClosed : Bool

def bearing (channel : Channel Transcript) : Bearing :=
  { inbound := channel.inbound
    received := channel.received
    atEnd := channel.atEnd
    writeClosed := channel.writeClosed
    readClosed := channel.readClosed }

theorem Alike.bearing_eq (alike : Alike channel other) : channel.bearing = other.bearing := by
  have inbound_eq := congrArg Inlet.inbound alike.inlet_eq
  have readClosed_eq := congrArg Inlet.readClosed alike.inlet_eq
  have writeClosed_eq := congrArg Outlet.writeClosed alike.outlet_eq
  simp only [inlet, outlet] at inbound_eq readClosed_eq writeClosed_eq
  simp only [bearing, received, atEnd, inbound_eq, readClosed_eq, writeClosed_eq]

theorem Alike.facing (alike : Alike channel other) (arrivals : List Arrival) :
    Alike (channel.facing arrivals) (other.facing arrivals) := by
  have inlet_eq := alike.inlet_eq
  simp only [inlet, Inlet.mk.injEq] at inlet_eq
  obtain ⟨inbound, limit, closed, -, ends⟩ := inlet_eq
  refine ⟨?_, alike.outlet_eq⟩
  simp only [inlet, Channel.facing, inbound, limit, closed, ends]

theorem Alike.trans {third : Channel Transcript} (first : Alike channel other)
    (second : Alike other third) : Alike channel third :=
  ⟨first.inlet_eq.trans second.inlet_eq, first.outlet_eq.trans second.outlet_eq⟩

theorem eq_of_nextArrival {room : Nat} {arrival found : Arrival} {later rest : List Arrival}
    (next : nextArrival room (arrival :: later) = (found, rest))
    (empty : ∀ data, found ≠ .bytes data) : rest = later := by
  rcases arrival with data | fault | _ <;> simp only [nextArrival, Prod.mk.injEq] at next
  case bytes => exact absurd next.1.symm (empty _)
  all_goals exact next.2.symm

theorem alike_of_fails {arrival : Arrival} {later : List Arrival}
    (settled : channel.Settled capacity) (arrivals : channel.link.arrivals = arrival :: later)
    (fails : channel.read.1 = .failed error) : Alike (channel.facing later) channel.read.2 := by
  have kept : channel.outlet = channel.read.2.outlet := outlet_read.symm
  refine ⟨?_, kept⟩
  have used {found : Arrival} {link : Transcript}
      (came : Link.receive channel.link channel.inbound.room = (found, link))
      (empty : ∀ data, found ≠ .bytes data) :
      (channel.facing later).inlet = { channel with link }.inlet := by
    have next : nextArrival channel.inbound.room (arrival :: later) = (found, link.arrivals) := by
      rw [← arrivals]
      cases came
      rfl
    have left := eq_of_nextArrival next empty
    cases came
    rw [inlet, inlet, left]
    rfl
  have reading := settled.reading
  generalize channel.read.1 = outcome, channel.read.2 = after at reading fails
  cases reading with
  | idle | ended | arrived | stalled => cases fails
  | failed fault link going came => exact used came (by simp)
  | timedOut limit link going came limited => exact used came (by simp)

theorem read_of_reply_failed (fails : (channel.act .read).1 = .failed error) :
    channel.read.1 = .failed error := by
  simp only [act] at fails
  cases outcome : channel.read.1 <;> simp_all [Reply.ofOutcome]

/-- A run with reads put in comes to what it comes to without them. -/
structure Transparent (now : Channel Transcript) (moments : List Moment)
    (steps : List (Reply × Channel Transcript)) : Prop where
  brought_eq : brought (now.laidOut moments) = brought now.link.arrivals
  bearing_eq : steps.map (·.2.bearing) = (now.pace moments).map bearing
  replies_eq : (apart moments (steps.map (·.1))).1 =
    (now.run (moments.filterMap Moment.usual?)).map (·.1)
  readBytes_eq : readBytes steps = readBytes (now.run (moments.filterMap Moment.usual?))

namespace Transparent

variable {moments : List Moment} {steps : List (Reply × Channel Transcript)}

theorem usual {action : Action} (after : Transparent (channel.act action).2 moments steps)
    {step : Reply × Channel Transcript} (reply : step.1 = (channel.act action).1)
    (seen : step.2.bearing = (channel.act action).2.bearing) :
    Transparent channel (.usual action :: moments) (step :: steps) := by
  constructor
  case brought_eq => rw [laidOut, brought_append, after.brought_eq, brought_act]
  case bearing_eq => rw [List.map_cons, pace, List.map_cons, seen, after.bearing_eq]
  case replies_eq => simp [apart, Moment.usual?, run_cons, reply, after.replies_eq]
  case readBytes_eq => simp [Moment.usual?, run_cons, readBytes_cons, reply, after.readBytes_eq]

theorem hindered {arrival : Arrival} (after : Transparent channel moments steps)
    {step : Reply × Channel Transcript} (fails : step.1 = .failed error)
    (seen : step.2.bearing = channel.bearing)
    (empty : brought (arrival :: channel.laidOut moments) = brought (channel.laidOut moments)) :
    Transparent channel (.hindered arrival :: moments) (step :: steps) := by
  constructor
  case brought_eq => rw [laidOut, empty, after.brought_eq]
  case bearing_eq => rw [List.map_cons, pace, List.map_cons, seen, after.bearing_eq]
  case replies_eq => simp [apart, List.filterMap_cons, Moment.usual?, after.replies_eq]
  case readBytes_eq =>
    simp [List.filterMap_cons, Moment.usual?, readBytes_cons, fails, Reply.data,
      after.readBytes_eq]

end Transparent

theorem run_hindered (moments : List Moment) (settled : other.Settled capacity)
    (alike : Alike (channel.facing (channel.laidOut moments)) other)
    (fails : ∀ reply ∈ (apart moments ((other.run (moments.map Moment.action)).map (·.1))).2,
      ∃ error, reply = .failed error) :
    Transparent channel moments (other.run (moments.map Moment.action)) := by
  -- While a read that is put in fails, the run without it stands still.
  induction moments generalizing channel other with
  | nil => exact ⟨rfl, rfl, rfl, rfl⟩
  | cons moment later ih =>
    cases moment with
    | usual action =>
      obtain ⟨reply, after⟩ := alike.act action
      rw [laidOut, act_facing] at reply after
      exact .usual (ih (settled.act action) after fails) reply.symm after.bearing_eq.symm
    | hindered arrival =>
      obtain ⟨failed, others⟩ := List.forall_mem_cons.mp fails
      obtain ⟨error, failed⟩ := failed
      have reads := read_of_reply_failed failed
      have arrivals : other.link.arrivals = arrival :: channel.laidOut later :=
        (congrArg Inlet.arrivals alike.inlet_eq).symm
      have after : Alike (channel.facing (channel.laidOut later)) other.read.2 :=
        (alike.facing (channel.laidOut later)).trans (alike_of_fails settled arrivals reads)
      have left : channel.laidOut later = other.read.2.link.arrivals :=
        congrArg Inlet.arrivals after.inlet_eq
      have empty := (read_unharmed settled reads).brought_eq
      rw [← left, arrivals] at empty
      exact .hindered (ih settled.read after others) failed after.bearing_eq.symm empty.symm

/-- What failing reads can do to a channel. -/
structure Resilient (limit : Option Duration) (now : Channel Transcript) : Prop where
  fails_iff (error : TransportError) : now.read.1 = .failed error ↔ now.inbound.ended = false ∧
    (Link.receive now.link now.inbound.room).1.error? limit = some error
  unharmed (error : TransportError) : now.read.1 = .failed error → Unharmed now now.read.2
  transparent (moments : List Moment) :
    let steps := (now.facing (now.laidOut moments)).run (moments.map Moment.action)
    (∀ reply ∈ (apart moments (steps.map (·.1))).2, ∃ error, reply = .failed error) →
      Transparent now moments steps

/-- At any time of any run, a read fails only for want of time or with the fault of the link, a failing read
loses nothing, and any number of them put in from there on goes unnoticed by all other actions. -/
theorem connect_run_resilient {network : Network Transcript} {address : Net.Address}
    {config : ChannelConfig} {channel : Channel Transcript}
    (connected : connect network address config = .done channel) (earlier : List Action) :
    Resilient config.readLimit (channel.lastOf (channel.run earlier)) := by
  obtain ⟨-, -, script, own, peer, -, rfl⟩ := connect_eq_done_iff.mp connected
  obtain ⟨settled, limited⟩ := run_keeps
    (P := fun now => now.Settled config.recvCapacity.toNat ∧ now.readLimit = config.readLimit)
    (fun now action holds =>
      ⟨holds.1.act action, (readLimit_act holds.1 action).trans holds.2⟩)
    ⟨fresh_settled config script own peer, rfl⟩ earlier
  generalize (fresh config script own peer).lastOf ((fresh config script own peer).run earlier) =
    now at settled limited
  constructor
  case fails_iff =>
    intro error
    rw [← limited]
    exact read_eq_failed_iff settled
  case unharmed => exact fun error fails => read_unharmed settled fails
  case transparent =>
    intro moments steps fails
    exact run_hindered moments (settled.of_inbound_eq rfl) ⟨rfl, rfl⟩ fails

-- The first piece takes two reads, and a read that is put in falls between them.
def halting : Transcript :=
  { Transcript.blank with arrivals := [.bytes [1, 2, 3], .bytes [4], .bytes []] }

def impatient : ChannelConfig :=
  (ChannelConfig.default.withRecvCapacity 2).withReadLimit (some (.ofMillis 50))

def halts : List Moment :=
  [.usual .read, .hindered .overdue, .usual (.shutdown .write),
    .hindered (.failed (.plain .interrupted)), .usual .read, .usual .read, .hindered .overdue,
    .usual .read]

def haltingSteps : List (Reply × Channel Transcript) :=
  let channel := fresh impatient halting (Net.loopback 40000) (Net.loopback 80)
  (channel.facing (channel.laidOut halts)).run (halts.map Moment.action)

theorem connect_run_halting :
    (apart halts (haltingSteps.map (·.1))).2 =
        [.failed (.timedOut .read (.ofMillis 50)), .failed (.io .read (.plain .interrupted)),
          .failed (.timedOut .read (.ofMillis 50))] ∧
      readBytes haltingSteps = [1, 2, 3, 4] ∧ ∃ channel,
        connect (scripted halting) (Net.loopback 80) impatient = .done channel ∧
        Transparent channel halts haltingSteps := by
  have connected := connect_scripted halting (Net.loopback 80) impatient (by decide) (by decide)
  have failed : (apart halts (haltingSteps.map (·.1))).2 =
      [.failed (.timedOut .read (.ofMillis 50)), .failed (.io .read (.plain .interrupted)),
        .failed (.timedOut .read (.ofMillis 50))] := by decide +kernel
  refine ⟨failed, by decide, _, connected, ?_⟩
  refine (connect_run_resilient connected []).transparent halts ?_
  intro reply among
  have among : reply ∈ (apart halts (haltingSteps.map (·.1))).2 := among
  rw [failed] at among
  simp only [List.mem_cons, List.not_mem_nil, or_false] at among
  rcases among with rfl | rfl | rfl <;> exact ⟨_, rfl⟩

end Channel

end Conduit
