import Conduit.Proofs.Channel.Ending
set_option autoImplicit false

namespace Conduit

namespace Direction

def parts : Direction → List Direction
  | write => [write]
  | read => [read]
  | both => [write, read]

theorem mem_parts_both {direction part : Direction} (named : part ∈ direction.parts) :
    part ∈ both.parts := by
  cases direction <;> simp_all [parts]

end Direction

def Exchange.closing? (direction : Direction) : Exchange → Option (Except Fault Unit)
  | sendingEnded outcome => if direction.writes then some outcome else none
  | receivingEnded outcome => if direction.reads then some outcome else none
  | _ => none

namespace Transcript

def closings (direction : Direction) (log : List Exchange) : List (Except Fault Unit) :=
  log.filterMap (Exchange.closing? direction)

theorem closings_append (direction : Direction) (before after : List Exchange) :
    closings direction (before ++ after) = closings direction before ++ closings direction after :=
  List.filterMap_append

theorem mem_closings_iff {direction : Direction} {log : List Exchange}
    {outcome : Except Fault Unit} :
    outcome ∈ closings direction log ↔
      ∃ part ∈ direction.parts, outcome ∈ closings part log := by
  have split (exchange : Exchange) : exchange.closing? direction = some outcome ↔
      ∃ part ∈ direction.parts, exchange.closing? part = some outcome := by
    cases direction <;> cases exchange <;>
      simp [Exchange.closing?, Direction.parts, Direction.writes, Direction.reads]
  simp only [closings, List.mem_filterMap, split]
  grind

theorem mem_closings_read {log : List Exchange} {outcome : Except Fault Unit} :
    outcome ∈ closings .read log ↔ .receivingEnded outcome ∈ log := by
  have only (exchange : Exchange) : exchange.closing? .read = some outcome ↔
      exchange = .receivingEnded outcome := by
    cases exchange <;> simp [Exchange.closing?, Direction.writes, Direction.reads]
  simp [closings, only]

end Transcript

namespace Channel

open Net (TransportError)
open Transcript (closings closings_append mem_closings_iff mem_closings_read)

def closed {σ : Type} (channel : Channel σ) : Direction → Bool
  | .write => channel.writeClosed
  | .read => channel.readClosed
  | .both => channel.writeClosed && channel.readClosed

variable {channel after : Channel Transcript} {capacity : Nat}

def Tried (channel : Channel Transcript) : Prop :=
  ∀ part ∈ Direction.both.parts,
    (closings part channel.link.log).length = (channel.closed part).toNat

namespace Tried

theorem logged (tried : channel.Tried) (exchange : Exchange)
    (log : after.link.log = channel.link.log ++ [exchange])
    (counted : ∀ part ∈ Direction.both.parts,
      (after.closed part).toNat =
        (channel.closed part).toNat + (exchange.closing? part).toList.length) :
    after.Tried := by
  intro part named
  have one : (closings part [exchange]).length = (exchange.closing? part).toList.length := by
    cases came : exchange.closing? part <;> simp [closings, came]
  rw [log, closings_append, List.length_append, one, tried part named, counted part named]

theorem read (tried : channel.Tried) (settled : channel.Settled capacity) :
    channel.read.2.Tried := by
  have reading := settled.reading
  generalize channel.read.1 = outcome, channel.read.2 = after at reading
  cases reading with
  | idle ended => exact tried
  | ended link going came | arrived data link going came something fits
  | failed fault link going came | timedOut limit link going came limited
  | stalled link going came unlimited =>
    exact tried.logged _ (log_receive came) fun part _ => by cases part <;> rfl

theorem write (tried : channel.Tried) (data : Bytes) : (channel.write data).2.Tried := by
  have writing := channel.write_cases data
  generalize (channel.write data).1 = outcome, (channel.write data).2 = after at writing
  cases writing with
  | refused | idle => exact tried
  | sent sending link going something came =>
    exact tried.logged _ (log_send came) fun part _ => by cases part <;> rfl

theorem closeWrite (tried : channel.Tried) : channel.closeWrite.2.Tried := by
  have closing := channel.closeWrite_cases
  generalize channel.closeWrite.1 = result, channel.closeWrite.2 = after at closing
  cases closing with
  | already closed => exact tried
  | attempted outcome link going came =>
    refine tried.logged _ (log_endSending came) fun part named => ?_
    cases part with
    | write => simp [closed, going, Exchange.closing?, Direction.writes]
    | read => rfl
    | both => simp [Direction.parts] at named

theorem closeRead (tried : channel.Tried) : channel.closeRead.2.Tried := by
  have closing := channel.closeRead_cases
  generalize channel.closeRead.1 = result, channel.closeRead.2 = after at closing
  cases closing with
  | already closed => exact tried
  | carried outcome link going came done | refused fault link going came undone =>
    refine tried.logged _ (log_endReceiving came) fun part named => ?_
    cases part with
    | write => rfl
    | read => simp [closed, going, Exchange.closing?, Direction.reads]
    | both => simp [Direction.parts] at named

theorem act (tried : channel.Tried) (settled : channel.Settled capacity) (action : Action) :
    (channel.act action).2.Tried := by
  have shutdown (direction : Direction) : (channel.shutdown direction).2.Tried :=
    shutdown_keeps (fun _ => closeWrite) (fun _ => closeRead) direction tried
  cases action with
  | read => exact tried.read settled
  | write data => exact tried.write data
  | shutdown direction => exact shutdown direction
  | close => exact shutdown .both

end Tried

theorem writeClosed_closeWrite {σ : Type} [Link σ] (channel : Channel σ) :
    channel.closeWrite.2.writeClosed = true := by
  have closing := channel.closeWrite_cases
  generalize channel.closeWrite.1 = result, channel.closeWrite.2 = after at closing
  cases closing with
  | already closed => exact closed
  | attempted => rfl

theorem flags_closeRead {σ : Type} [Link σ] (channel : Channel σ) :
    channel.closeRead.2.readClosed = true ∧
      channel.closeRead.2.writeClosed = channel.writeClosed := by
  have closing := channel.closeRead_cases
  generalize channel.closeRead.1 = result, channel.closeRead.2 = after at closing
  cases closing with
  | already closed => exact ⟨closed, rfl⟩
  | carried | refused => exact ⟨rfl, rfl⟩

theorem closed_shutdown {σ : Type} [Link σ] (channel : Channel σ) (direction : Direction)
    (succeeded : (channel.shutdown direction).1 = .ok ()) :
    ∀ part ∈ direction.parts, (channel.shutdown direction).2.closed part = true := by
  cases direction with
  | write => simpa [shutdown_write, Direction.parts, closed] using channel.writeClosed_closeWrite
  | read => simpa [shutdown_read, Direction.parts, closed] using channel.flags_closeRead.1
  | both =>
    have first := channel.writeClosed_closeWrite
    rw [shutdown_both] at succeeded ⊢
    generalize channel.closeWrite = written at first succeeded
    rcases written with ⟨_ | ⟨⟩, middle⟩
    next => cases succeeded
    next =>
      have second := middle.flags_closeRead
      simpa [Direction.parts, closed, second.1] using second.2.trans first

theorem closed_act {σ : Type} [Link σ] [LawfulLink σ] (channel : Channel σ) {capacity : Nat}
    (settled : channel.Settled capacity) {part : Direction} (named : part ∈ Direction.both.parts)
    (counts : channel.closed part = true) (action : Action) :
    (channel.act action).2.closed part = true := by
  have shutdown (direction : Direction) : (channel.shutdown direction).2.closed part = true := by
    refine shutdown_keeps (P := fun after => after.closed part = true) ?_ ?_ direction counts
    next =>
      intro before counts
      have closing := before.closeWrite_cases
      generalize before.closeWrite.1 = result, before.closeWrite.2 = after at closing
      cases closing <;> cases part <;> simp_all [closed, Direction.parts]
    next =>
      intro before counts
      have closing := before.closeRead_cases
      generalize before.closeRead.1 = result, before.closeRead.2 = after at closing
      cases closing <;> cases part <;> simp_all [closed, Direction.parts]
  cases action with
  | read =>
    have reading := settled.reading
    show channel.read.2.closed part = true
    generalize channel.read.1 = outcome, channel.read.2 = after at reading
    cases reading <;> cases part <;> exact counts
  | write data =>
    have writing := channel.write_cases data
    show (channel.write data).2.closed part = true
    generalize (channel.write data).1 = outcome, (channel.write data).2 = after at writing
    cases writing <;> cases part <;> exact counts
  | shutdown direction => exact shutdown direction
  | close => exact shutdown .both

theorem shutdown_of_closed {σ : Type} [Link σ] (channel : Channel σ) (direction : Direction)
    (all : ∀ part ∈ direction.parts, channel.closed part = true) :
    channel.shutdown direction = (.ok (), channel) := by
  have first (counts : channel.writeClosed = true) : channel.closeWrite = (.ok (), channel) :=
    if_pos counts
  have second (counts : channel.readClosed = true) : channel.closeRead = (.ok (), channel) :=
    if_pos counts
  cases direction with
  | write => rw [shutdown_write, first (all .write (by decide))]
  | read => rw [shutdown_read, second (all .read (by decide))]
  | both =>
    rw [shutdown_both, first (all .write (by decide))]
    exact second (all .read (by decide))

/-- The directions are closed on the link, and what is closed for reading is at its end for good. -/
structure Shut (direction : Direction) (channel : Channel Transcript) : Prop where
  carried : ∀ part ∈ direction.parts,
    ∃ outcome ∈ closings part channel.link.log, CarriedOut outcome
  ended : direction.reads = true → channel.inbound.ended = true ∧ channel.atEnd = true
  unread : direction.reads = true → ∀ later : List Action, ∃ asked,
    (channel.lastOf (channel.run later)).link.log = channel.link.log ++ asked ∧
      ∀ exchange ∈ asked, ¬ Receives exchange

theorem shut_iff (positive : 0 < capacity) (settled : channel.Settled capacity)
    (tried : channel.Tried)
    (told : channel.inbound.ended = true ↔ ∃ exchange ∈ channel.link.log, exchange.EndsInput)
    {direction : Direction} (all : ∀ part ∈ direction.parts, channel.closed part = true) :
    channel.Shut direction ↔
      ∀ outcome ∈ closings direction channel.link.log, CarriedOut outcome := by
  have only (part : Direction) (named : part ∈ direction.parts) :
      ∃ outcome, closings part channel.link.log = [outcome] := by
    apply List.length_eq_one_iff.mp
    rw [tried part (Direction.mem_parts_both named), all part named]
    rfl
  constructor
  case mp =>
    -- The attempt that was carried out is the only one there was.
    intro shut outcome there
    obtain ⟨part, named, there⟩ := mem_closings_iff.mp there
    obtain ⟨done, among, carried⟩ := shut.carried part named
    obtain ⟨attempt, single⟩ := only part named
    rw [single, List.mem_singleton] at there among
    rwa [there, ← among]
  case mpr =>
    intro carried
    have attempted (part : Direction) (named : part ∈ direction.parts) :
        ∃ outcome ∈ closings part channel.link.log, CarriedOut outcome := by
      obtain ⟨attempt, single⟩ := only part named
      have among : attempt ∈ closings part channel.link.log := by simp [single]
      exact ⟨attempt, among, carried attempt (mem_closings_iff.mpr ⟨part, named, among⟩)⟩
    have ended (reads : direction.reads = true) : channel.inbound.ended = true := by
      have named : .read ∈ direction.parts := by
        cases direction <;> simp_all [Direction.parts, Direction.reads]
      obtain ⟨outcome, among, done⟩ := attempted .read named
      exact told.mpr ⟨_, mem_closings_read.mp among, done⟩
    constructor
    case carried => exact attempted
    case ended => exact fun reads => ⟨ended reads, settled.atEnd_eq.trans (ended reads)⟩
    case unread =>
      intro reads later
      obtain ⟨-, asked, log, fine, -⟩ := run_of_ended positive settled (ended reads) later
      exact ⟨asked, log, fine⟩

def Action.closes : Action → Option Direction
  | shutdown direction => some direction
  | close => some .both
  | _ => none

theorem act_of_closes {σ : Type} [Link σ] (channel : Channel σ) {action : Action}
    {direction : Direction} (closes : action.closes = some direction) :
    channel.act action =
      (.ofClosing (channel.shutdown direction).1, (channel.shutdown direction).2) := by
  cases action <;> cases closes <;> rfl

structure Tracked (capacity : Nat) (channel : Channel Transcript) : Prop where
  settled : channel.Settled capacity
  tried : channel.Tried
  told : channel.inbound.ended = true ↔ ∃ exchange ∈ channel.link.log, exchange.EndsInput

theorem fresh_tracked (config : ChannelConfig) {script : Transcript} (own peer : Net.Address)
    (unasked : script.log = []) :
    (fresh config script own peer).Tracked config.recvCapacity.toNat := by
  refine ⟨fresh_settled config script own peer, fun part named => ?_, ?_⟩
  next => cases part <;> simp [fresh, unasked, closings, closed]
  next => simp [fresh, unasked, Pipe.empty]

theorem Tracked.act (positive : 0 < capacity) (tracked : channel.Tracked capacity)
    (action : Action) : (channel.act action).2.Tracked capacity := by
  refine ⟨tracked.settled.act action, tracked.tried.act tracked.settled action, ?_⟩
  obtain ⟨asked, log, -, ended⟩ := act_advances positive tracked.settled action
  simp only [ended, tracked.told, log, List.mem_append, or_and_right, exists_or]

theorem run_again {σ : Type} [Link σ] [LawfulLink σ] {channel : Channel σ}
    (settled : channel.Settled capacity) {action : Action} {direction : Direction}
    (closes : action.closes = some direction)
    (all : ∀ part ∈ direction.parts, channel.closed part = true) (later : List Action) :
    let last := channel.lastOf (channel.run later)
    last.act action = (.closed, last) := by
  have kept := run_keeps
    (P := fun last => last.Settled capacity ∧ ∀ part ∈ direction.parts, last.closed part = true)
    (fun last action holds => ⟨holds.1.act action, fun part named =>
      closed_act last holds.1 (Direction.mem_parts_both named) (holds.2 part named) action⟩)
    ⟨settled, all⟩ later
  simp only [act_of_closes _ closes, shutdown_of_closed _ direction kept.2, Reply.ofClosing]

/-- A call that succeeds has left its directions closed exactly if no attempt on them was ever refused,
and however often it is made again it changes nothing any more. -/
theorem connect_run_shut_iff {network : Network Transcript} {address : Net.Address}
    {config : ChannelConfig} {script : Transcript} {own peer : Net.Address}
    {channel : Channel Transcript} (reached : network address = .connected script own peer)
    (unasked : script.log = []) (connected : connect network address config = .done channel)
    (earlier : List Action) {now : Channel Transcript}
    (at_now : now = channel.lastOf (channel.run earlier)) {action : Action}
    {direction : Direction} (closes : action.closes = some direction)
    (succeeded : (now.act action).1 = .closed) :
    ((now.act action).2.Shut direction ↔
        ∀ outcome ∈ closings direction (now.act action).2.link.log, CarriedOut outcome) ∧
      ∀ later : List Action,
        let last := (now.act action).2.lastOf ((now.act action).2.run later)
        last.act action = (.closed, last) := by
  obtain ⟨positive, rfl⟩ := eq_fresh_of_connected reached connected
  have before : now.Tracked config.recvCapacity.toNat :=
    at_now ▸ run_keeps (fun _ action tracked => tracked.act positive action)
      (fresh_tracked config own peer unasked) earlier
  have after := before.act positive action
  -- Success says that the directions count as closed, not that the link has closed them.
  have all : ∀ part ∈ direction.parts, (now.act action).2.closed part = true := by
    rw [act_of_closes now closes] at succeeded ⊢
    refine closed_shutdown now direction ?_
    generalize (now.shutdown direction).1 = result at succeeded
    rcases result with error | ⟨⟩
    next => cases succeeded
    next => rfl
  exact ⟨shut_iff positive after.settled after.tried after.told all,
    run_again after.settled closes all⟩

-- The peer is gone already when the channel is closed.
def gone : Transcript :=
  { Transcript.blank with
    arrivals := [.bytes [7], .bytes [8]]
    sendingEnds := [.error (.plain .notConnected)] }

theorem connect_run_gone :
    gone.log = [] ∧ ∃ channel now,
      connect (scripted gone) (Net.loopback 80) (ChannelConfig.default.withRecvCapacity 2) =
        .done channel ∧
      now = channel.lastOf (channel.run [.read, .shutdown .write]) ∧
      Action.close.closes = some .both ∧ (now.act .close).1 = .closed ∧
      (now.act .close).2.Shut .both := by
  have connected := connect_scripted gone (Net.loopback 80)
    (ChannelConfig.default.withRecvCapacity 2) (by decide) (by decide)
  refine ⟨rfl, _, _, connected, rfl, rfl, by decide, ?_⟩
  have shut := connect_run_shut_iff rfl rfl connected [.read, .shutdown .write] rfl
    (rfl : Action.close.closes = some .both) (by decide)
  exact shut.1.mpr (by decide)

-- Neither direction can be closed, and the peer goes on sending.
def refusing : Transcript :=
  { Transcript.blank with
    arrivals := [.bytes [7]]
    sendingEnds := [.error (.plain .brokenPipe)]
    receivingEnds := [.error (.plain .brokenPipe)] }

/-- The third attempt to close succeeds though both directions are still open on the link, and the read
after it takes from the link what has arrived. -/
theorem connect_run_refusing : ∃ channel closed,
    connect (scripted refusing) (Net.loopback 80) (ChannelConfig.default.withRecvCapacity 2) =
      .done channel ∧
    closed = channel.lastOf (channel.run [.close, .close, .close]) ∧
    (channel.run [.close, .close, .close]).map (·.1) =
      [.failed (.io .shutdown (.plain .brokenPipe)), .failed (.io .shutdown (.plain .brokenPipe)),
        .closed] ∧
    ¬ closed.Shut .both ∧ closed.atEnd = false ∧ closed.read.1 = .done [7] := by
  have connected := connect_scripted refusing (Net.loopback 80)
    (ChannelConfig.default.withRecvCapacity 2) (by decide) (by decide)
  refine ⟨_, _, connected, rfl, by decide, ?_, by decide, by decide⟩
  intro shut
  have ended := (shut.ended rfl).1
  exact absurd ended (by decide)

end Channel

end Conduit
