import Conduit.Proofs.Channel.Closing
set_option autoImplicit false

namespace Conduit

namespace Transcript

/-- Every write is taken, and no closing is refused. -/
structure Yielding (transcript : Transcript) : Prop where
  sendings : ∀ sending ∈ transcript.sendings, sending = .taken
  sendingEnds : ∀ outcome ∈ transcript.sendingEnds, CarriedOut outcome
  receivingEnds : ∀ outcome ∈ transcript.receivingEnds, CarriedOut outcome

theorem nextOr_all {α : Type} {P : α → Prop} {usual : α} (fine : P usual) {outcomes : List α}
    (all : ∀ outcome ∈ outcomes, P outcome) :
    P (nextOr usual outcomes).1 ∧ ∀ outcome ∈ (nextOr usual outcomes).2, P outcome := by
  cases outcomes with
  | nil => exact ⟨fine, all⟩
  | cons outcome later => exact List.forall_mem_cons.mp all

namespace Yielding

variable {transcript : Transcript}

theorem receive (yielding : transcript.Yielding) (room : Nat) :
    (transcript.receive room).2.Yielding :=
  ⟨yielding.sendings, yielding.sendingEnds, yielding.receivingEnds⟩

theorem aside : Channel.Aside Yielding := by
  constructor
  case send =>
    intro transcript data yielding
    exact { yielding with sendings := (nextOr_all (P := (· = Sending.taken)) rfl yielding.sendings).2 }
  case endSending =>
    intro transcript yielding
    exact { yielding with sendingEnds := (nextOr_all trivial yielding.sendingEnds).2 }
  case endReceiving =>
    intro transcript yielding
    exact { yielding with receivingEnds := (nextOr_all trivial yielding.receivingEnds).2 }

end Yielding

theorem delivered_append (before after : List Exchange) :
    delivered (before ++ after) = delivered before ++ delivered after := by
  induction before with
  | nil => rfl
  | cons exchange rest ih =>
    cases exchange with
    | sent data outcome => cases outcome <;> simp [delivered, ih]
    | received | sendingEnded | receivingEnded => simp [delivered, ih]

end Transcript

namespace Channel

open Transcript (delivered delivered_append nextArrival nextOr_all nextOutcome nextSending)

structure Inlet where
  inbound : Pipe
  readLimit : Option Duration
  readClosed : Bool
  arrivals : List Arrival
  receivingEnds : List (Except Fault Unit)

structure Outlet where
  writeClosed : Bool
  sendings : List Sending
  sendingEnds : List (Except Fault Unit)
  delivered : Bytes

def inlet (channel : Channel Transcript) : Inlet :=
  { inbound := channel.inbound
    readLimit := channel.readLimit
    readClosed := channel.readClosed
    arrivals := channel.link.arrivals
    receivingEnds := channel.link.receivingEnds }

def outlet (channel : Channel Transcript) : Outlet :=
  { writeClosed := channel.writeClosed
    sendings := channel.link.sendings
    sendingEnds := channel.link.sendingEnds
    delivered := delivered channel.link.log }

namespace Action

def outgoing : Action → Bool
  | write _ | shutdown .write => true
  | _ => false

def incoming : Action → Bool
  | read | shutdown .read => true
  | _ => false

def endsWriting (action : Action) : Bool := action.closes.any Direction.writes

def accepted : Action → Reply → Bytes
  | write data, .count _ => data
  | _, _ => []

end Action

variable {channel other : Channel Transcript}

theorem outlet_of_silent {after : Channel Transcript} {exchange : Exchange}
    (same : after.writeClosed = channel.writeClosed)
    (sendings : after.link.sendings = channel.link.sendings)
    (sendingEnds : after.link.sendingEnds = channel.link.sendingEnds)
    (log : after.link.log = channel.link.log ++ [exchange]) (silent : delivered [exchange] = []) :
    after.outlet = channel.outlet := by
  simp only [outlet, same, sendings, sendingEnds, log, delivered_append, silent, List.append_nil]

theorem outlet_fill : channel.fill.2.outlet = channel.outlet := by
  have received {arrival : Arrival} {link : Transcript} (inbound : Pipe)
      (came : Link.receive channel.link channel.inbound.room = (arrival, link)) :
      { channel with link, inbound }.outlet = channel.outlet := by
    have log := log_receive came
    cases came
    exact outlet_of_silent rfl rfl rfl log rfl
  unfold fill
  split
  next link came => exact received _ came
  next data link _ came => exact received _ came
  next fault link came => exact received _ came
  next link came => split <;> exact received channel.inbound came

theorem outlet_read : channel.read.2.outlet = channel.outlet := by
  have filled := channel.outlet_fill
  unfold read
  split
  next =>
    generalize channel.fill = result at filled
    rcases result with ⟨⟨⟩ | error | _ | message, after⟩ <;> exact filled
  next => rfl

theorem outlet_closeRead : channel.closeRead.2.outlet = channel.outlet := by
  have ended {outcome : Except Fault Unit} {link : Transcript} (inbound : Pipe)
      (came : Link.endReceiving channel.link = (outcome, link)) :
      { channel with link, readClosed := true, inbound }.outlet = channel.outlet := by
    have log := log_endReceiving came
    cases came
    exact outlet_of_silent rfl rfl rfl log rfl
  have closing := channel.closeRead_cases
  generalize channel.closeRead.1 = result, channel.closeRead.2 = after at closing
  cases closing with
  | already closed => rfl
  | carried outcome link going came done => exact ended _ came
  | refused fault link going came undone => exact ended channel.inbound came

theorem inlet_write (data : Bytes) : (channel.write data).2.inlet = channel.inlet := by
  have writing := channel.write_cases data
  generalize (channel.write data).1 = outcome, (channel.write data).2 = after at writing
  cases writing with
  | refused | idle => rfl
  | sent sending link going something came =>
    cases came
    rfl

theorem inlet_closeWrite : channel.closeWrite.2.inlet = channel.inlet := by
  unfold closeWrite
  split <;> rfl

theorem read_congr (same : channel.inlet = other.inlet) :
    channel.read.1 = other.read.1 ∧ channel.read.2.inlet = other.read.2.inlet := by
  obtain ⟨⟨arrivals, _, _, ends, _⟩, inbound, limit, _, _, _, closed⟩ := channel
  obtain ⟨⟨_, _, _, _, _⟩, _, _, _, _, _, _⟩ := other
  simp only [inlet, Inlet.mk.injEq] at same
  obtain ⟨rfl, rfl, rfl, rfl, rfl⟩ := same
  simp only [read, needsFill, fill, Link.receive, Transcript.receive]
  generalize nextArrival inbound.room arrivals = next
  by_cases needed : (inbound.isEmpty && !inbound.ended) = true
  next =>
    rcases next with ⟨(_ | ⟨byte, more⟩) | fault | _, later⟩
    case overdue => cases limit <;> simp [needed, inlet, Transcript.record]
    all_goals simp [needed, inlet, takeStaged, Transcript.record]
  next => simp [needed, inlet, takeStaged]

theorem closeRead_congr (same : channel.inlet = other.inlet) :
    channel.closeRead.1 = other.closeRead.1 ∧ channel.closeRead.2.inlet = other.closeRead.2.inlet := by
  obtain ⟨⟨arrivals, _, _, ends, _⟩, inbound, limit, _, _, _, closed⟩ := channel
  obtain ⟨⟨_, _, _, _, _⟩, _, _, _, _, _, _⟩ := other
  simp only [inlet, Inlet.mk.injEq] at same
  obtain ⟨rfl, rfl, rfl, rfl, rfl⟩ := same
  simp only [closeRead, Link.endReceiving, Transcript.endReceiving]
  generalize nextOutcome ends = next
  rcases next with ⟨outcome, later⟩
  cases closed with
  | true => simp [inlet]
  | false => rcases closing outcome with error | ⟨⟩ <;> simp [inlet, Transcript.record]

theorem write_congr (same : channel.outlet = other.outlet) (data : Bytes) :
    (channel.write data).1 = (other.write data).1 ∧
      (channel.write data).2.outlet = (other.write data).2.outlet := by
  obtain ⟨⟨_, sendings, ends, _, log⟩, _, _, _, _, closed, _⟩ := channel
  obtain ⟨⟨_, _, _, _, otherLog⟩, _, _, _, _, _, _⟩ := other
  simp only [outlet, Outlet.mk.injEq] at same
  obtain ⟨rfl, rfl, rfl, told⟩ := same
  simp only [write, Link.send, Transcript.send]
  generalize nextSending sendings = next
  rcases next with ⟨_ | fault | _, later⟩ <;>
    cases closed <;> cases data <;> simp [outlet, Transcript.record, delivered_append, told]

theorem closeWrite_congr (same : channel.outlet = other.outlet) :
    channel.closeWrite.1 = other.closeWrite.1 ∧
      channel.closeWrite.2.outlet = other.closeWrite.2.outlet := by
  obtain ⟨⟨_, sendings, ends, _, log⟩, _, _, _, _, closed, _⟩ := channel
  obtain ⟨⟨_, _, _, _, otherLog⟩, _, _, _, _, _, _⟩ := other
  simp only [outlet, Outlet.mk.injEq] at same
  obtain ⟨rfl, rfl, rfl, told⟩ := same
  simp only [closeWrite, Link.endSending, Transcript.endSending]
  cases closed <;> simp [outlet, Transcript.record, delivered_append, told]

theorem link_read_keeps {σ : Type} [Link σ] {P : σ → Prop} {channel : Channel σ}
    (receive : ∀ link room, P link → P (Link.receive link room).2) (holds : P channel.link) :
    P channel.read.2.link := by
  have filled : P channel.fill.2.link := by
    have next := receive channel.link channel.inbound.room holds
    unfold fill
    generalize Link.receive channel.link channel.inbound.room = result at next
    rcases result with ⟨(_ | ⟨byte, more⟩) | fault | _, link⟩
    case overdue => cases channel.readLimit <;> exact next
    all_goals exact next
  unfold read
  split
  next =>
    generalize channel.fill = result at filled
    rcases result with ⟨⟨⟩ | error | _ | message, after⟩ <;> exact filled
  next => exact holds

theorem yielding_act (yielding : channel.link.Yielding) (action : Action) :
    (channel.act action).2.link.Yielding := by
  cases action with
  | read => exact link_read_keeps (fun _ room yielding => yielding.receive room) yielding
  | write data => exact Transcript.Yielding.aside.write yielding data
  | shutdown direction => exact Transcript.Yielding.aside.shutdown yielding direction
  | close => exact Transcript.Yielding.aside.shutdown yielding .both

theorem write_of_yielding (yielding : channel.link.Yielding) (writing : channel.writeClosed = false)
    (data : Bytes) : (channel.write data).1 = .done data.length := by
  have sent : (nextSending channel.link.sendings).1 = .taken :=
    (nextOr_all (P := (· = Sending.taken)) rfl yielding.sendings).1
  cases data <;> simp [write, writing, Link.send, Transcript.send, sent]

theorem write_of_closed (closed : channel.writeClosed = true) (data : Bytes) :
    channel.write data = (.failed (.closed .write), channel) :=
  if_pos closed

theorem closeWrite_of_yielding (yielding : channel.link.Yielding) :
    channel.closeWrite.1 = .ok () := by
  cases writing : channel.writeClosed with
  | true => rw [closeWrite, if_pos writing]
  | false =>
    rw [closeWrite_eq_ok_iff writing]
    exact (nextOr_all trivial yielding.sendingEnds).1

theorem closeRead_of_yielding (yielding : channel.link.Yielding) :
    channel.closeRead.1 = .ok () := by
  cases reading : channel.readClosed with
  | true => rw [closeRead, if_pos reading]
  | false =>
    rw [closeRead_eq_ok_iff reading]
    exact (nextOr_all trivial yielding.receivingEnds).1

theorem shutdown_both_of_yielding (yielding : channel.link.Yielding) :
    channel.shutdown .both = (channel.shutdown .write).2.shutdown .read := by
  have closed := closeWrite_of_yielding yielding
  rw [shutdown_both, shutdown_write, shutdown_read]
  generalize channel.closeWrite = result at closed
  rcases result with ⟨error | ⟨⟩, middle⟩
  next => cases closed
  next => rfl

theorem shutdown_of_yielding (yielding : channel.link.Yielding) (direction : Direction) :
    (channel.shutdown direction).1 = .ok () := by
  cases direction with
  | write =>
    rw [shutdown_write]
    exact closeWrite_of_yielding yielding
  | read =>
    rw [shutdown_read]
    exact closeRead_of_yielding yielding
  | both =>
    rw [shutdown_both_of_yielding yielding, shutdown_read]
    exact closeRead_of_yielding (Transcript.Yielding.aside.shutdown yielding .write)

theorem inlet_act_of_outgoing {action : Action} (outgoing : action.outgoing = true) :
    (channel.act action).2.inlet = channel.inlet := by
  cases action with
  | write data => exact inlet_write data
  | shutdown direction =>
    cases direction with
    | write =>
      show (channel.shutdown .write).2.inlet = _
      rw [shutdown_write]
      exact inlet_closeWrite
    | read | both => cases outgoing
  | read | close => cases outgoing

theorem outlet_act_of_incoming {action : Action} (incoming : action.incoming = true) :
    (channel.act action).2.outlet = channel.outlet := by
  cases action with
  | read => exact outlet_read
  | shutdown direction =>
    cases direction with
    | read =>
      show (channel.shutdown .read).2.outlet = _
      rw [shutdown_read]
      exact outlet_closeRead
    | write | both => cases incoming
  | write | close => cases incoming

theorem inlet_shutdown_congr (yielding : channel.link.Yielding) (also : other.link.Yielding)
    (same : channel.inlet = other.inlet) {direction : Direction} (reads : direction.reads = true) :
    (channel.shutdown direction).2.inlet = (other.shutdown direction).2.inlet := by
  cases direction with
  | write => cases reads
  | read =>
    rw [shutdown_read, shutdown_read]
    exact (closeRead_congr same).2
  | both =>
    -- Closing for writing comes first and leaves both inlets as they are.
    have first : channel.closeWrite.2.inlet = other.closeWrite.2.inlet :=
      inlet_closeWrite.trans (same.trans inlet_closeWrite.symm)
    rw [shutdown_both_of_yielding yielding, shutdown_both_of_yielding also, shutdown_write,
      shutdown_write, shutdown_read, shutdown_read]
    exact (closeRead_congr first).2

theorem outlet_shutdown_congr (yielding : channel.link.Yielding) (also : other.link.Yielding)
    (same : channel.outlet = other.outlet) {direction : Direction}
    (writes : direction.writes = true) :
    (channel.shutdown direction).2.outlet = (other.shutdown direction).2.outlet := by
  cases direction with
  | write =>
    rw [shutdown_write, shutdown_write]
    exact (closeWrite_congr same).2
  | read => cases writes
  | both =>
    rw [shutdown_both_of_yielding yielding, shutdown_both_of_yielding also, shutdown_write,
      shutdown_write, shutdown_read, shutdown_read, outlet_closeRead, outlet_closeRead]
    exact (closeWrite_congr same).2

theorem act_of_yielding (yielding : channel.link.Yielding) {action : Action}
    {direction : Direction} (closes : action.closes = some direction) :
    channel.act action = (.closed, (channel.shutdown direction).2) := by
  rw [act_of_closes channel closes, shutdown_of_yielding yielding direction]
  rfl

theorem inlet_act_congr (yielding : channel.link.Yielding) (also : other.link.Yielding)
    (same : channel.inlet = other.inlet) {action : Action} (kept : action.outgoing = false) :
    (channel.act action).1 = (other.act action).1 ∧
      (channel.act action).2.inlet = (other.act action).2.inlet := by
  have shut (direction : Direction) (closes : action.closes = some direction)
      (reads : direction.reads = true) : (channel.act action).1 = (other.act action).1 ∧
        (channel.act action).2.inlet = (other.act action).2.inlet := by
    rw [act_of_yielding yielding closes, act_of_yielding also closes]
    exact ⟨rfl, inlet_shutdown_congr yielding also same reads⟩
  cases action with
  | read =>
    obtain ⟨outcome, after⟩ := read_congr same
    exact ⟨congrArg (Reply.ofOutcome .bytes) outcome, after⟩
  | write data => cases kept
  | shutdown direction =>
    refine shut direction rfl ?_
    cases direction with
    | write => cases kept
    | read | both => rfl
  | close => exact shut .both rfl rfl

theorem outlet_act_congr (yielding : channel.link.Yielding) (also : other.link.Yielding)
    (same : channel.outlet = other.outlet) {action : Action} (kept : action.incoming = false) :
    (channel.act action).1 = (other.act action).1 ∧
      (channel.act action).2.outlet = (other.act action).2.outlet := by
  have shut (direction : Direction) (closes : action.closes = some direction)
      (writes : direction.writes = true) : (channel.act action).1 = (other.act action).1 ∧
        (channel.act action).2.outlet = (other.act action).2.outlet := by
    rw [act_of_yielding yielding closes, act_of_yielding also closes]
    exact ⟨rfl, outlet_shutdown_congr yielding also same writes⟩
  cases action with
  | read => cases kept
  | write data =>
    obtain ⟨outcome, after⟩ := write_congr same data
    exact ⟨congrArg (Reply.ofOutcome .count) outcome, after⟩
  | shutdown direction =>
    refine shut direction rfl ?_
    cases direction with
    | read => cases kept
    | write | both => rfl
  | close => exact shut .both rfl rfl

def stepsOf {σ : Type} (wanted : Action → Bool) (actions : List Action)
    (steps : List (Reply × Channel σ)) : List (Reply × Channel σ) :=
  ((actions.zip steps).filter (wanted ·.1)).map (·.2)

def shown {τ : Type} (look : Channel Transcript → τ) (step : Reply × Channel Transcript) : Reply × τ :=
  (step.1, look step.2)

theorem run_filter {τ : Type} (look : Channel Transcript → τ) (wanted : Action → Bool)
    (blind : ∀ (channel : Channel Transcript) (action : Action), wanted action = false →
      look (channel.act action).2 = look channel)
    (alike : ∀ (channel other : Channel Transcript) (action : Action), channel.link.Yielding →
      other.link.Yielding → look channel = look other → wanted action = true →
      shown look (channel.act action) = shown look (other.act action))
    (yielding : channel.link.Yielding) (also : other.link.Yielding)
    (same : look channel = look other) (actions : List Action) :
    (stepsOf wanted actions (channel.run actions)).map (shown look) =
        (other.run (actions.filter wanted)).map (shown look) ∧
      look (channel.lastOf (channel.run actions)) =
        look (other.lastOf (other.run (actions.filter wanted))) := by
  -- The run without the unwanted actions stands still while the other one makes them.
  induction actions generalizing channel other with
  | nil => exact ⟨rfl, same⟩
  | cons action later ih =>
    have kept := yielding_act yielding action
    cases wants : wanted action with
    | false =>
      obtain ⟨steps, last⟩ := ih kept also ((blind channel action wants).trans same)
      simp only [run_cons, lastOf_cons, List.filter_cons, wants, Bool.false_eq_true, if_false]
      simp only [stepsOf, List.zip_cons_cons, List.filter_cons, wants] at steps ⊢
      exact ⟨steps, last⟩
    | true =>
      have next := alike channel other action yielding also same wants
      obtain ⟨steps, last⟩ := ih kept (yielding_act also action) (congrArg Prod.snd next)
      simp only [run_cons, lastOf_cons, List.filter_cons, wants, if_true, List.map_cons, ← next, ← steps]
      simp only [stepsOf, List.zip_cons_cons, List.filter_cons, wants, if_true, List.map_cons]
      exact ⟨trivial, last⟩

theorem delivered_write (data : Bytes) :
    delivered (channel.write data).2.link.log =
      delivered channel.link.log ++
        (Action.write data).accepted (.ofOutcome .count (channel.write data).1) := by
  have writing := channel.write_cases data
  generalize (channel.write data).1 = outcome, (channel.write data).2 = after at writing
  cases writing with
  | refused => exact (List.append_nil _).symm
  | idle going nothing =>
    rw [nothing]
    exact (List.append_nil _).symm
  | sent sending link going something came =>
    rw [log_send came, delivered_append]
    cases sending with
    | taken => exact congrArg _ (List.append_nil data)
    | failed | overdue => rfl

theorem delivered_closeWrite :
    delivered channel.closeWrite.2.link.log = delivered channel.link.log := by
  have closing := channel.closeWrite_cases
  generalize channel.closeWrite.1 = result, channel.closeWrite.2 = after at closing
  cases closing with
  | already closed => rfl
  | attempted outcome link going came =>
    rw [log_endSending came, delivered_append]
    exact List.append_nil _

theorem delivered_act (action : Action) :
    delivered (channel.act action).2.link.log =
      delivered channel.link.log ++ action.accepted (channel.act action).1 := by
  have shut (direction : Direction) :
      delivered (channel.shutdown direction).2.link.log = delivered channel.link.log :=
    shutdown_keeps (P := fun after : Channel Transcript => delivered after.link.log = delivered channel.link.log)
      (fun _ same => delivered_closeWrite.trans same)
      (fun before same => (congrArg Outlet.delivered before.outlet_closeRead).trans same) direction rfl
  cases action with
  | read => exact (congrArg Outlet.delivered outlet_read).trans (List.append_nil _).symm
  | write data => exact delivered_write data
  | shutdown direction => exact (shut direction).trans (List.append_nil _).symm
  | close => exact (shut .both).trans (List.append_nil _).symm

theorem delivered_run (actions : List Action) :
    delivered (channel.lastOf (channel.run actions)).link.log =
      delivered channel.link.log ++
        (List.zipWith Action.accepted actions ((channel.run actions).map (·.1))).flatten := by
  induction actions generalizing channel with
  | nil => exact (List.append_nil _).symm
  | cons action later ih =>
    rw [run_cons, lastOf_cons, ih, delivered_act, List.append_assoc]
    rfl

theorem writeClosed_write (data : Bytes) :
    (channel.write data).2.writeClosed = channel.writeClosed := by
  have writing := channel.write_cases data
  generalize (channel.write data).1 = outcome, (channel.write data).2 = after at writing
  cases writing <;> rfl

theorem writeClosed_shutdown (yielding : channel.link.Yielding) (direction : Direction) :
    (channel.shutdown direction).2.writeClosed = (channel.writeClosed || direction.writes) := by
  cases direction with
  | write => rw [shutdown_write, writeClosed_closeWrite, Direction.writes, Bool.or_true]
  | read => rw [shutdown_read, (flags_closeRead channel).2, Direction.writes, Bool.or_false]
  | both =>
    rw [shutdown_both_of_yielding yielding, shutdown_read, shutdown_write, (flags_closeRead _).2,
      writeClosed_closeWrite, Direction.writes, Bool.or_true]

theorem writeClosed_act (yielding : channel.link.Yielding) (action : Action) :
    (channel.act action).2.writeClosed = (channel.writeClosed || action.endsWriting) := by
  cases action with
  | read => exact (congrArg Outlet.writeClosed outlet_read).trans (Bool.or_false _).symm
  | write data => exact (writeClosed_write data).trans (Bool.or_false _).symm
  | shutdown direction => exact writeClosed_shutdown yielding direction
  | close => exact writeClosed_shutdown yielding .both

theorem writeClosed_run (yielding : channel.link.Yielding) (actions : List Action) :
    (channel.lastOf (channel.run actions)).writeClosed =
      (channel.writeClosed || actions.any Action.endsWriting) := by
  induction actions generalizing channel with
  | nil => exact (Bool.or_false _).symm
  | cons action later ih =>
    rw [run_cons, lastOf_cons, ih (yielding_act yielding action), writeClosed_act yielding,
      Bool.or_assoc, List.any_cons]

-- What a reader can find out without reading.
def Inlet.told (inlet : Inlet) : Bool × UInt64 := (inlet.inbound.atEnd, inlet.inbound.totalIn)

def toldReader (channel : Channel Transcript) : Bool × UInt64 := (channel.atEnd, channel.received)

def toldPeer (channel : Channel Transcript) : Bytes := delivered channel.link.log

/-- What a run of actions comes to, now that they are all done, beside the two runs in which those of one
direction are left out. -/
structure Independent (channel : Channel Transcript) (actions : List Action)
    (now : Channel Transcript) : Prop where
  delivered_eq : delivered now.link.log =
    (List.zipWith Action.accepted actions ((channel.run actions).map (·.1))).flatten
  write_open : actions.any Action.endsWriting = false → ∀ data,
    (now.act (.write data)).1 = .count data.length
  write_closed : actions.any Action.endsWriting = true → ∀ data,
    now.act (.write data) = (.failed (.closed .write), now)
  heard_eq : (stepsOf (!·.outgoing) actions (channel.run actions)).map (shown toldReader) =
    (channel.run (actions.filter (!·.outgoing))).map (shown toldReader)
  heard_last : now.toldReader = (channel.lastOf (channel.run (actions.filter (!·.outgoing)))).toldReader
  said_eq : (stepsOf (!·.incoming) actions (channel.run actions)).map (shown toldPeer) =
    (channel.run (actions.filter (!·.incoming))).map (shown toldPeer)
  said_last : now.toldPeer = (channel.lastOf (channel.run (actions.filter (!·.incoming)))).toldPeer
  both_eq : (now.act (.shutdown .write)).1 = .closed ∧
    now.act (.shutdown .both) = (now.act (.shutdown .write)).2.act (.shutdown .read)
  close_eq : now.act .close = now.act (.shutdown .both)

/-- Over a link that takes every write and refuses no closing, all that is written before writing is closed
reaches the peer, nothing that is written later does, and neither direction notices what is done in the
other. -/
theorem connect_run_independent {network : Network Transcript} {address : Net.Address}
    {config : ChannelConfig} {script : Transcript} {own peer : Net.Address}
    {channel : Channel Transcript} (reached : network address = .connected script own peer)
    (unasked : script.log = []) (yielding : script.Yielding)
    (connected : connect network address config = .done channel) (actions : List Action) :
    Independent channel actions (channel.lastOf (channel.run actions)) := by
  obtain ⟨-, rfl⟩ := eq_fresh_of_connected reached connected
  have start : (fresh config script own peer).link.Yielding := yielding
  have silent : delivered (fresh config script own peer).link.log = [] := by
    rw [fresh, unasked]
    rfl
  have open_first : (fresh config script own peer).writeClosed = false := rfl
  generalize fresh config script own peer = channel at start silent open_first
  have now := run_keeps (P := fun channel : Channel Transcript => channel.link.Yielding)
    (fun _ action yielding => yielding_act yielding action) start actions
  have closed := writeClosed_run start actions
  have heard := run_filter inlet (!·.outgoing)
    (fun _ action unwanted => inlet_act_of_outgoing (by simpa using unwanted))
    (fun _ _ action yields also same wants => by
      obtain ⟨reply, after⟩ := inlet_act_congr yields also same (by simpa using wants)
      rw [shown, shown, reply, after])
    start start rfl actions
  have said := run_filter outlet (!·.incoming)
    (fun _ action unwanted => outlet_act_of_incoming (by simpa using unwanted))
    (fun _ _ action yields also same wants => by
      obtain ⟨reply, after⟩ := outlet_act_congr yields also same (by simpa using wants)
      rw [shown, shown, reply, after])
    start start rfl actions
  constructor
  case delivered_eq => rw [delivered_run, silent, List.nil_append]
  case write_open =>
    intro none data
    rw [open_first, none] at closed
    show Reply.ofOutcome .count ((channel.lastOf _).write data).1 = _
    rw [write_of_yielding now closed]
    rfl
  case write_closed =>
    intro some data
    rw [open_first, some] at closed
    simp only [act, write_of_closed closed, Reply.ofOutcome]
  case heard_eq =>
    have told := congrArg (List.map (Prod.map id Inlet.told)) heard.1
    rw [List.map_map, List.map_map] at told
    exact told
  case heard_last => exact congrArg Inlet.told heard.2
  case said_eq =>
    have told := congrArg (List.map (Prod.map id Outlet.delivered)) said.1
    rw [List.map_map, List.map_map] at told
    exact told
  case said_last => exact congrArg Outlet.delivered said.2
  case both_eq =>
    have written := act_of_yielding now (rfl : (Action.shutdown .write).closes = some .write)
    have middle := yielding_act now (.shutdown .write)
    rw [act_of_yielding now (rfl : (Action.shutdown .both).closes = some .both),
      act_of_yielding middle (rfl : (Action.shutdown .read).closes = some .read),
      shutdown_both_of_yielding now, written]
    exact ⟨rfl, rfl⟩
  case close_eq => rfl

-- The holder goes on reading after the last write, and the link is gone when writing is closed.
def duplex : Transcript :=
  { Transcript.blank with
    arrivals := [.bytes [1, 2, 3], .failed (.plain .interrupted), .bytes [4], .bytes []]
    sendings := [.taken]
    sendingEnds := [.error (.plain .notConnected)] }

def duplexActions : List Action :=
  [.write [7, 8], .read, .write [], .read, .shutdown .write, .read, .write [9], .read, .close, .read]

theorem connect_run_duplex :
    duplex.log = [] ∧ duplex.Yielding ∧ ∃ channel,
      connect (scripted duplex) (Net.loopback 80) (ChannelConfig.default.withRecvCapacity 2) =
        .done channel ∧
      (channel.run duplexActions).map (·.1) =
        [.count 2, .bytes [1, 2], .count 0, .bytes [3], .closed,
          .failed (.io .read (.plain .interrupted)), .failed (.closed .write), .bytes [4], .closed,
          .bytes []] ∧
      Independent channel duplexActions (channel.lastOf (channel.run duplexActions)) := by
  have yielding : duplex.Yielding := ⟨by simp [duplex], by simp [duplex, CarriedOut, Fault.kind],
    by simp [duplex, Transcript.blank]⟩
  have connected := connect_scripted duplex (Net.loopback 80)
    (ChannelConfig.default.withRecvCapacity 2) (by decide) (by decide)
  exact ⟨rfl, yielding, _, connected, by decide,
    connect_run_independent rfl rfl yielding connected duplexActions⟩

end Channel

end Conduit
