import Conduit.Proofs.Channel.Ending
import Conduit.Proofs.Fetch.Response
set_option autoImplicit false

namespace Conduit

/-- A sink of which can be told what it has taken: so much of each offer as it says, and nothing otherwise. -/
structure Gauge (ω : Type) [Sink ω] where
  taken : ω → Bytes
  accept_ok {sink after : ω} {data : Bytes} {count : Nat} :
    Sink.accept sink data = (.ok count, after) → taken after = taken sink ++ data.take count
  accept_error {sink after : ω} {data : Bytes} {fault : Fault} :
    Sink.accept sink data = (.error fault, after) → taken after = taken sink
  flush (sink : ω) : taken (Sink.flush sink).2 = taken sink

theorem Gauge.writeAll {ω : Type} [Sink ω] (gauge : Gauge ω) (sink : ω) (data : Bytes) :
    ∃ written rest, written ++ rest = data ∧
      gauge.taken (Sink.writeAll sink data).2 = gauge.taken sink ++ written ∧
      ((Sink.writeAll sink data).1 = .ok () → rest = []) := by
  fun_induction Sink.writeAll sink data with
  | case1 sink => exact ⟨[], [], rfl, (List.append_nil _).symm, fun _ => rfl⟩
  | case2 sink byte more fault after refused =>
    exact ⟨[], byte :: more, rfl, (gauge.accept_error refused).trans (List.append_nil _).symm,
      by simp⟩
  | case3 sink byte more after nothing =>
    exact ⟨[], byte :: more, rfl, gauge.accept_ok nothing, by simp⟩
  | case4 sink byte more count after some ih =>
    obtain ⟨written, rest, split, took, whole⟩ := ih
    refine ⟨byte :: more.take count ++ written, rest, ?_, ?_, whole⟩
    next => rw [List.append_assoc, split, List.cons_append, List.take_append_drop]
    next => rw [took, gauge.accept_ok some, List.take_succ_cons, List.append_assoc]

theorem Gauge.writeAll_ok {ω : Type} [Sink ω] (gauge : Gauge ω) {sink after : ω} {data : Bytes}
    (written : Sink.writeAll sink data = (.ok (), after)) :
    gauge.taken after = gauge.taken sink ++ data := by
  obtain ⟨taken, rest, rfl, took, whole⟩ := gauge.writeAll sink data
  rw [written] at took whole
  rw [whole rfl, List.append_nil]
  exact took

namespace BoundedSink

def gauge : Gauge BoundedSink where
  taken := BoundedSink.taken
  accept_ok := by
    intro sink after data count accepted
    simp only [Sink.accept, accept] at accepted
    split at accepted
    next =>
      split at accepted <;> cases accepted
      exact (List.append_nil _).symm
    next =>
      cases accepted
      rfl
  accept_error := by
    intro sink after data fault refused
    simp only [Sink.accept, accept] at refused
    split at refused
    next =>
      split at refused <;> cases refused
      rfl
    next => cases refused
  flush sink := by
    show (BoundedSink.flush sink).2.taken = sink.taken
    unfold BoundedSink.flush
    split <;> rfl

end BoundedSink

namespace Fetch

open Net (Address Resolver TransportError)
open Transcript (Comes heard heard_of_ended heard_prefix halt spoken taken taken_append taken_received)

variable {ω : Type} [Sink ω] {gauge : Gauge ω}

def heardAs (capacity : Nat) (chunks : List Bytes) : List Exchange :=
  chunks.map fun chunk => .received capacity (.bytes chunk)

theorem taken_heardAs (capacity : Nat) (chunks : List Bytes) :
    taken (heardAs capacity chunks) = chunks.flatten := by
  induction chunks with
  | nil => rfl
  | cons chunk later ih => exact congrArg (chunk ++ ·) ih

structure Going (capacity : Nat) (chunks : List Bytes) (count : Nat)
    (channel last : Channel Transcript) : Prop where
  going : last.inbound.ended = false
  count_eq : count = chunks.length
  log_eq : last.link.log = channel.link.log ++ heardAs capacity chunks
  heard_eq : heard channel.link.arrivals = chunks.flatten ++ heard last.link.arrivals
  pending_le : Link.pending last.link + chunks.flatten.length ≤ Link.pending channel.link

structure Over (capacity : Nat) (chunks : List Bytes) (count : Nat)
    (channel last : Channel Transcript) : Prop where
  ended : last.inbound.ended = true
  count_eq : count = chunks.length + 1
  log_eq : last.link.log =
    channel.link.log ++ heardAs capacity chunks ++ [.received capacity (.bytes [])]
  heard_eq : heard channel.link.arrivals = chunks.flatten
  halt_eq : halt channel.link.arrivals = .bytes []
  pending_le : chunks.flatten.length ≤ Link.pending channel.link

structure Piece (capacity : Nat) (chunk : Bytes) (channel after : Channel Transcript) : Prop where
  something : chunk ≠ []
  log_eq : after.link.log = channel.link.log ++ [.received capacity (.bytes chunk)]
  heard_eq : heard channel.link.arrivals = chunk ++ heard after.link.arrivals
  halt_eq : halt after.link.arrivals = halt channel.link.arrivals
  pending_le : Link.pending after.link + chunk.length ≤ Link.pending channel.link

namespace Piece

variable {capacity count : Nat} {chunk : Bytes} {chunks : List Bytes}
  {channel after last : Channel Transcript}

theorem going (piece : Piece capacity chunk channel after)
    (later : Going capacity chunks count after last) :
    Going capacity (chunk :: chunks) (count + 1) channel last := by
  constructor
  case going => exact later.going
  case count_eq => rw [later.count_eq, List.length_cons]
  case log_eq => simp [later.log_eq, piece.log_eq, heardAs]
  case heard_eq => rw [piece.heard_eq, later.heard_eq, List.flatten_cons, List.append_assoc]
  case pending_le =>
    have first := piece.pending_le
    have rest := later.pending_le
    rw [List.flatten_cons, List.length_append]
    omega

theorem past (piece : Piece capacity chunk channel after)
    (later : Over capacity chunks count after last) :
    Over capacity (chunk :: chunks) (count + 1) channel last := by
  constructor
  case ended => exact later.ended
  case count_eq => rw [later.count_eq, List.length_cons]
  case log_eq => simp [later.log_eq, piece.log_eq, heardAs]
  case heard_eq => rw [piece.heard_eq, later.heard_eq, List.flatten_cons]
  case halt_eq => rw [← piece.halt_eq, later.halt_eq]
  case pending_le =>
    have first := piece.pending_le
    have rest := later.pending_le
    rw [List.flatten_cons, List.length_append]
    omega

end Piece

namespace Going

variable {capacity count : Nat} {chunk : Bytes} {chunks : List Bytes}
  {channel after last : Channel Transcript}

theorem further (going : Going capacity chunks count channel last)
    (piece : Piece capacity chunk last after) (on : after.inbound.ended = false) :
    Going capacity (chunks ++ [chunk]) (count + 1) channel after := by
  have flat : (chunks ++ [chunk]).flatten = chunks.flatten ++ chunk := by simp
  constructor
  case going => exact on
  case count_eq => rw [going.count_eq, List.length_append, List.length_singleton]
  case log_eq => simp [piece.log_eq, going.log_eq, heardAs]
  case heard_eq => rw [going.heard_eq, piece.heard_eq, flat, List.append_assoc]
  case pending_le =>
    have before := going.pending_le
    have now := piece.pending_le
    rw [flat, List.length_append]
    omega

theorem flatten_prefix (going : Going capacity chunks count channel last) :
    chunks.flatten <+: spoken channel.link.arrivals := by
  have heard_prefix := heard_prefix channel.link.arrivals
  rw [going.heard_eq] at heard_prefix
  exact (List.prefix_append _ _).trans heard_prefix

end Going

inductive Read (capacity : Nat) (channel : Channel Transcript) : Bytes → Channel Transcript → Prop
  | more (chunk : Bytes) (after : Channel Transcript) (going : after.inbound.ended = false)
      (piece : Piece capacity chunk channel after) : Read capacity channel chunk after
  | last (after : Channel Transcript) (past : Over capacity [] 1 channel after) :
      Read capacity channel [] after

theorem read_of_done {capacity : Nat} (positive : 0 < capacity) {channel after : Channel Transcript}
    (settled : channel.Settled capacity) (going : channel.inbound.ended = false) {chunk : Bytes}
    (read : channel.read = (.done chunk, after)) :
    Read capacity channel chunk after ∧ after.Settled capacity ∧ channel.SameEnds after := by
  have reading := settled.reading
  have kept := reading.settled settled
  have room := settled.room_eq
  rw [read] at reading kept
  cases reading with
  | idle ended => exact absurd (going.symm.trans ended) Bool.false_ne_true
  | ended link _ came =>
    have log := Channel.log_receive came
    rw [room] at log
    refine ⟨.last _ ?_, kept, .received _ came⟩
    cases Channel.comes_of_receive positive settled came with
    | piece data rest something => exact absurd rfl something
    | halt _ _ nothing halt_eq =>
      exact ⟨rfl, rfl, by rw [heardAs, List.map_nil, List.append_nil, log], nothing, halt_eq,
        Nat.zero_le _⟩
  | arrived data link _ came something fits =>
    have log := Channel.log_receive came
    rw [room] at log
    refine ⟨.more _ _ ((Pipe.ended_relay chunk).trans going) ?_, kept, .received _ came⟩
    cases Channel.comes_of_receive positive settled came with
    | halt _ _ _ _ empty => exact absurd empty something
    | piece _ _ _ heard_eq halt_eq =>
      exact ⟨something, log, heard_eq, halt_eq, LawfulLink.receive_pending_le _ _ _ _ came⟩

theorem log_of_undone {capacity : Nat} {channel after : Channel Transcript}
    (settled : channel.Settled capacity) {outcome : Outcome TransportError Bytes}
    (read : channel.read = (outcome, after)) (undone : ∀ data, outcome ≠ .done data) :
    ∃ arrival : Arrival, arrival.data = [] ∧
      after.link.log = channel.link.log ++ [.received capacity arrival] := by
  have reading := settled.reading
  have room := settled.room_eq
  rw [read] at reading
  cases reading with
  | idle | ended | arrived => exact absurd rfl (undone _)
  | failed _ link _ came | timedOut _ link _ came | stalled link _ came =>
    have log := Channel.log_receive came
    rw [room] at log
    exact ⟨_, rfl, log⟩

structure Underway (gauge : Gauge ω) (capacity : Nat) (count : Nat) (channel : Channel Transcript)
    (sink : ω) (bytes : Bytes) (last : Channel Transcript) (between : ω) : Prop where
  settled : last.Settled capacity
  ends : channel.SameEnds last
  handed : gauge.taken between = gauge.taken sink ++ bytes
  place : ∃ chunks, (∀ chunk ∈ chunks, chunk ≠ []) ∧ chunks.flatten = bytes ∧
    (Going capacity chunks count channel last ∨ Over capacity chunks count channel last)

theorem Rounds.underway {capacity count : Nat} (positive : 0 < capacity)
    {channel last : Channel Transcript} {sink between : ω} {bytes : Bytes}
    (rounds : Rounds count channel sink bytes last between) (settled : channel.Settled capacity)
    (going : channel.inbound.ended = false) :
    Underway gauge capacity count channel sink bytes last between := by
  induction rounds with
  | none channel sink =>
    exact
      { settled
        ends := ⟨rfl, rfl, rfl, rfl⟩
        handed := (List.append_nil _).symm
        place := ⟨[], nofun, rfl, .inl ⟨going, rfl, (List.append_nil _).symm, rfl, by simp⟩⟩ }
  | next notYet read written later ih =>
    have took := gauge.writeAll_ok written
    obtain ⟨came, kept, ends⟩ := read_of_done positive settled going read
    cases came with
    | more _ _ on piece =>
      have further := ih kept on
      obtain ⟨chunks, some, rfl, place⟩ := further.place
      exact
        { settled := further.settled
          ends := ends.trans further.ends
          handed := by rw [further.handed, took, List.append_assoc]
          place := ⟨_ :: chunks, List.forall_mem_cons.mpr ⟨piece.something, some⟩,
            List.flatten_cons, place.imp piece.going piece.past⟩ }
    | last _ past =>
      -- At the end of the peer there are no more rounds.
      cases later with
      | next notYet =>
        have ended := kept.atEnd_eq.trans past.ended
        exact absurd (notYet.symm.trans ended) Bool.false_ne_true
      | none =>
        exact
          { settled := kept
            ends
            handed := took
            place := ⟨[], nofun, rfl, .inr past⟩ }

theorem length_le_flatten {chunks : List Bytes} (something : ∀ chunk ∈ chunks, chunk ≠ []) :
    chunks.length ≤ chunks.flatten.length := by
  induction chunks with
  | nil => exact Nat.zero_le _
  | cons chunk later ih =>
    obtain ⟨first, others⟩ := List.forall_mem_cons.mp something
    have some := List.length_pos_iff.mpr first
    have rest := ih others
    rw [List.flatten_cons, List.length_append, List.length_cons]
    omega

namespace Underway

variable {capacity count : Nat} {channel last : Channel Transcript} {sink between : ω} {bytes : Bytes}

theorem going_of (underway : Underway gauge capacity count channel sink bytes last between)
    (notYet : last.atEnd = false) :
    ∃ chunks, (∀ chunk ∈ chunks, chunk ≠ []) ∧ chunks.flatten = bytes ∧
      Going capacity chunks count channel last := by
  obtain ⟨chunks, something, flat, going | past⟩ := underway.place
  next => exact ⟨chunks, something, flat, going⟩
  next =>
    have ended := underway.settled.atEnd_eq.trans past.ended
    exact absurd (notYet.symm.trans ended) Bool.false_ne_true

theorem over_of (underway : Underway gauge capacity count channel sink bytes last between)
    (ended : last.atEnd = true) :
    ∃ chunks, (∀ chunk ∈ chunks, chunk ≠ []) ∧ chunks.flatten = bytes ∧
      Over capacity chunks count channel last := by
  obtain ⟨chunks, something, flat, going | past⟩ := underway.place
  next =>
    have notYet := underway.settled.atEnd_eq.trans going.going
    exact absurd (notYet.symm.trans ended) Bool.false_ne_true
  next => exact ⟨chunks, something, flat, past⟩

theorem bytes_eq (underway : Underway gauge capacity count channel sink bytes last between)
    (ended : last.atEnd = true) : bytes = spoken channel.link.arrivals := by
  obtain ⟨chunks, -, rfl, past⟩ := underway.over_of ended
  rw [← past.heard_eq, heard_of_ended past.halt_eq]

theorem count_le (underway : Underway gauge capacity count channel sink bytes last between) :
    count ≤ Link.pending channel.link + 1 := by
  obtain ⟨chunks, something, -, going | past⟩ := underway.place
  next =>
    have fewer := length_le_flatten something
    have bound := going.pending_le
    rw [going.count_eq]
    omega
  next =>
    have fewer := length_le_flatten something
    have bound := past.pending_le
    rw [past.count_eq]
    omega

end Underway

inductive Stop (last : Channel Transcript) (between : ω) (copied : UInt64) :
    Outcome FetchError UInt64 × Channel Transcript × ω → Prop
  | unread (error : TransportError) (after : Channel Transcript) (going : last.atEnd = false)
      (fails : last.read = (.failed error, after)) :
      Stop last between copied (.failed (.transport error), after, between)
  | waiting (after : Channel Transcript) (going : last.atEnd = false)
      (waits : last.read = (.stalled, after)) :
      Stop last between copied (.stalled, after, between)
  | unwritten (chunk : Bytes) (fault : Fault) (after : Channel Transcript) (final : ω)
      (going : last.atEnd = false) (read : last.read = (.done chunk, after))
      (fails : Sink.writeAll between chunk = (.error fault, final)) :
      Stop last between copied (.failed (.output fault), after, final)
  | unflushed (fault : Fault) (final : ω) (ended : last.atEnd = true)
      (fails : Sink.flush between = (.error fault, final)) :
      Stop last between copied (.failed (.output fault), last, final)
  | unclosed (error : TransportError) (after : Channel Transcript) (final : ω)
      (ended : last.atEnd = true) (flushed : Sink.flush between = (.ok (), final))
      (fails : last.close = (.error error, after)) :
      Stop last between copied (.failed (.transport error), after, final)
  | finished (after : Channel Transcript) (final : ω) (ended : last.atEnd = true)
      (flushed : Sink.flush between = (.ok (), final)) (closed : last.close = (.ok (), after)) :
      Stop last between copied (.done copied, after, final)

theorem stop_of_atEnd {last : Channel Transcript} (ended : last.atEnd = true) (between : ω)
    (copied : UInt64) : Stop last between copied (conclude copied last between) := by
  unfold conclude
  rcases flushed : Sink.flush between with ⟨fault | ⟨⟩, final⟩
  next => exact .unflushed fault final ended flushed
  next =>
    rcases closed : last.close with ⟨error | ⟨⟩, after⟩
    next => simpa only [closed] using Stop.unclosed error after final ended flushed closed
    next => simpa only [closed] using Stop.finished after final ended flushed closed

theorem deliver_of_stop {count : Nat} {channel last : Channel Transcript} {sink between : ω}
    {bytes : Bytes} {result : Outcome FetchError UInt64 × Channel Transcript × ω}
    (rounds : Rounds count channel sink bytes last between)
    (enough : count ≤ Link.pending channel.link + 1)
    (stop : Stop last between (.ofNat bytes.length) result) : deliver channel sink = result := by
  obtain ⟨more, fuel⟩ : ∃ more, Link.pending channel.link + 2 = count + (more + 1) :=
    ⟨Link.pending channel.link + 1 - count, by omega⟩
  have pumped : pumpAll channel sink = pump (more + 1) (.ofNat bytes.length) last between := by
    rw [pumpAll, fuel, rounds.pump_eq, UInt64.zero_add]
  rw [deliver, pumped, pump]
  cases stop with
  | unread error after going fails => simp [going, fails]
  | waiting after going waits => simp [going, waits]
  | unwritten chunk fault after final going read fails => simp [going, read, fails]
  | unflushed fault final ended fails => simp [ended, conclude, fails]
  | unclosed error after final ended flushed fails => simp [ended, conclude, flushed, fails]
  | finished after final ended flushed closed => simp [ended, conclude, flushed, closed]

theorem exists_stop {capacity : Nat} {channel : Channel Transcript}
    (settled : channel.Settled capacity) (going : channel.inbound.ended = false) (sink : ω) :
    ∃ count bytes last between, Rounds count channel sink bytes last between ∧
      ∀ copied, ∃ result, Stop last between copied result := by
  -- A round that goes on uses up some of what the peer may still bring.
  induction pending : Link.pending channel.link using Nat.strongRecOn generalizing channel sink with
  | _ _ ih =>
    have notYet : channel.atEnd = false := settled.atEnd_eq.trans going
    have reading := settled.reading
    have kept := reading.settled settled
    rcases read : channel.read with ⟨outcome, after⟩
    rw [read] at reading kept
    cases reading with
    | idle ended => exact absurd (going.symm.trans ended) Bool.false_ne_true
    | failed fault link _ came =>
      exact ⟨0, [], _, _, .none _ _, fun _ => ⟨_, .unread _ _ notYet read⟩⟩
    | timedOut limit link _ came limited =>
      exact ⟨0, [], _, _, .none _ _, fun _ => ⟨_, .unread _ _ notYet read⟩⟩
    | stalled link _ came unlimited =>
      exact ⟨0, [], _, _, .none _ _, fun _ => ⟨_, .waiting _ notYet read⟩⟩
    | ended link _ came =>
      have written : Sink.writeAll sink [] = (.ok (), sink) := by rw [Sink.writeAll]
      exact ⟨1, _, _, _, .next notYet read written (.none _ _),
        fun copied => ⟨_, stop_of_atEnd kept.atEnd_eq sink copied⟩⟩
    | arrived data link _ came something fits =>
      rcases written : Sink.writeAll sink data with ⟨fault | ⟨⟩, between⟩
      next => exact ⟨0, [], _, _, .none _ _, fun _ => ⟨_, .unwritten _ _ _ _ notYet read written⟩⟩
      next =>
        have fewer := LawfulLink.receive_pending_le _ _ _ _ came
        have some := List.length_pos_iff.mpr something
        obtain ⟨count, bytes, last, final, rounds, stops⟩ :=
          ih (Link.pending link) (by omega) kept ((Pipe.ended_relay data).trans going) between rfl
        exact ⟨count + 1, _, last, final, .next notYet read written rounds, stops⟩

/-- All that a connection is asked for: the request once, reads until one brings nothing, and then each
direction to be closed at most once. -/
inductive Orderly (capacity : Nat) (request : Bytes) : List Exchange → Prop
  | unsent (sending : Sending) (untaken : sending ≠ .taken) :
      Orderly capacity request [.sent request sending]
  | reading (chunks : List Bytes) (something : ∀ chunk ∈ chunks, chunk ≠ []) :
      Orderly capacity request (.sent request .taken :: heardAs capacity chunks)
  | halted (chunks : List Bytes) (something : ∀ chunk ∈ chunks, chunk ≠ []) (arrival : Arrival)
      (empty : arrival.data = []) :
      Orderly capacity request
        (.sent request .taken :: heardAs capacity chunks ++ [.received capacity arrival])
  | closing (chunks : List Bytes) (something : ∀ chunk ∈ chunks, chunk ≠ [])
      (first : Except Fault Unit) (refused : ¬ CarriedOut first) :
      Orderly capacity request (.sent request .taken :: heardAs capacity chunks ++
        [.received capacity (.bytes []), .sendingEnded first])
  | closed (chunks : List Bytes) (something : ∀ chunk ∈ chunks, chunk ≠ [])
      (first second : Except Fault Unit) (carried : CarriedOut first) :
      Orderly capacity request (.sent request .taken :: heardAs capacity chunks ++
        [.received capacity (.bytes []), .sendingEnded first, .receivingEnded second])

theorem log_close {channel : Channel Transcript} (writing : channel.writeClosed = false)
    (reading : channel.readClosed = false) :
    ∃ first, (¬ CarriedOut first ∧ channel.close.2.link.log = channel.link.log ++ [.sendingEnded first]) ∨
      CarriedOut first ∧ ∃ second, channel.close.2.link.log =
        channel.link.log ++ [.sendingEnded first, .receivingEnded second] := by
  rcases came : Link.endSending channel.link with ⟨first, link⟩
  have log := Channel.log_endSending came
  have written : channel.closeWrite =
      (Channel.closing first, { channel with link, writeClosed := true }) := by
    simp [Channel.closeWrite, writing, came]
  refine ⟨first, ?_⟩
  rw [Channel.close, Channel.shutdown_both, written]
  rcases outcome : Channel.closing first with error | ⟨⟩
  next =>
    have refused : ¬ CarriedOut first := by simp [← Channel.closing_eq_ok_iff, outcome]
    exact .inl ⟨refused, log⟩
  next =>
    have read := Channel.closeRead_cases { channel with link, writeClosed := true }
    have second {after : Transcript} {second : Except Fault Unit}
        (came : Link.endReceiving link = (second, after)) :
        after.log = channel.link.log ++ [.sendingEnded first, .receivingEnded second] := by
      have log' : after.log = link.log ++ [.receivingEnded second] :=
        @Channel.log_endReceiving { channel with link, writeClosed := true } _ _ came
      rw [log', log, List.append_assoc]
      rfl
    simp only
    generalize Channel.closeRead { channel with link, writeClosed := true } = result at read
    obtain ⟨result, last⟩ := result
    refine .inr ⟨Channel.closing_eq_ok_iff.mp outcome, ?_⟩
    cases read with
    | already closed => exact absurd (reading.symm.trans closed) Bool.false_ne_true
    | carried outcome after _ came _ => exact ⟨outcome, second came⟩
    | refused fault after _ came _ => exact ⟨_, second came⟩

structure Ready (capacity : Nat) (request : Bytes) (opened ready : Channel Transcript) : Prop where
  settled : ready.Settled capacity
  going : ready.inbound.ended = false
  writing : ready.writeClosed = false
  reading : ready.readClosed = false
  arrivals_eq : ready.link.arrivals = opened.link.arrivals
  log_eq : ready.link.log = opened.link.log ++ [.sent request .taken]

/-- What was handed on is the beginning of what the peer said, and no more was asked of it than needed. -/
structure Consistent (capacity : Nat) (request : Bytes) (opened last : Channel Transcript)
    (handed : Bytes) : Prop where
  handed_prefix : handed <+: spoken opened.link.arrivals
  orderly : ∃ asked, last.link.log = opened.link.log ++ asked ∧ Orderly capacity request asked

section

variable {capacity count : Nat} {request bytes : Bytes} {opened ready last after : Channel Transcript}
  {sink between : ω}

theorem Ready.log_going (prepared : Ready capacity request opened ready) {chunks : List Bytes}
    (going : Going capacity chunks count ready last) :
    last.link.log = opened.link.log ++ (.sent request .taken :: heardAs capacity chunks) := by
  rw [going.log_eq, prepared.log_eq, List.append_assoc, List.singleton_append]

theorem Ready.log_over (prepared : Ready capacity request opened ready) {chunks : List Bytes}
    (past : Over capacity chunks count ready last) :
    last.link.log = opened.link.log ++ (.sent request .taken :: heardAs capacity chunks ++
      [.received capacity (.bytes [])]) := by
  rw [past.log_eq, prepared.log_eq]
  simp

theorem Ready.log_undone (prepared : Ready capacity request opened ready)
    (underway : Underway gauge capacity count ready sink bytes last between)
    (notYet : last.atEnd = false) {outcome : Outcome TransportError Bytes}
    (read : last.read = (outcome, after)) (undone : ∀ data, outcome ≠ .done data) :
    ∃ chunks arrival, (∀ chunk ∈ chunks, chunk ≠ []) ∧ chunks.flatten = bytes ∧
      Arrival.data arrival = [] ∧ after.link.log = opened.link.log ++
        (.sent request .taken :: heardAs capacity chunks ++ [.received capacity arrival]) := by
  obtain ⟨chunks, something, flat, going⟩ := underway.going_of notYet
  obtain ⟨arrival, empty, log⟩ := log_of_undone underway.settled read undone
  refine ⟨chunks, arrival, something, flat, empty, ?_⟩
  rw [log, prepared.log_going going]
  simp

theorem consistent_of_undone (prepared : Ready capacity request opened ready)
    (underway : Underway gauge capacity count ready sink bytes last between)
    (notYet : last.atEnd = false) {outcome : Outcome TransportError Bytes}
    (read : last.read = (outcome, after)) (undone : ∀ data, outcome ≠ .done data) :
    Consistent capacity request opened after bytes := by
  constructor
  case handed_prefix =>
    obtain ⟨chunks, -, rfl, going⟩ := underway.going_of notYet
    rw [← prepared.arrivals_eq]
    exact going.flatten_prefix
  case orderly =>
    obtain ⟨chunks, arrival, something, -, empty, log⟩ :=
      prepared.log_undone underway notYet read undone
    exact ⟨_, log, .halted chunks something arrival empty⟩

theorem taken_of_undone (prepared : Ready capacity request opened ready)
    (underway : Underway gauge capacity count ready sink bytes last between)
    (notYet : last.atEnd = false) {outcome : Outcome TransportError Bytes}
    (read : last.read = (outcome, after)) (undone : ∀ data, outcome ≠ .done data) :
    taken after.link.log = taken opened.link.log ++ bytes := by
  obtain ⟨chunks, arrival, -, rfl, empty, log⟩ := prepared.log_undone underway notYet read undone
  have asked : taken (.sent request .taken :: heardAs capacity chunks ++
      [.received capacity arrival]) = chunks.flatten := by
    show taken (heardAs capacity chunks ++ [.received capacity arrival]) = _
    rw [taken_append, taken_heardAs, taken_received, empty, List.append_nil]
  rw [log, taken_append, asked]

theorem consistent_of_unwritten (positive : 0 < capacity)
    (prepared : Ready capacity request opened ready)
    (underway : Underway gauge capacity count ready sink bytes last between)
    (notYet : last.atEnd = false) {chunk part rest : Bytes} (split : part ++ rest = chunk)
    (something : chunk ≠ []) (read : last.read = (.done chunk, after)) :
    Consistent capacity request opened after (bytes ++ part) := by
  obtain ⟨chunks, each, rfl, going⟩ := underway.going_of notYet
  obtain ⟨came, -⟩ := read_of_done positive underway.settled going.going read
  cases came with
  | last => exact absurd rfl something
  | more _ _ on piece =>
    have further := going.further piece on
    constructor
    case handed_prefix =>
      have flat : (chunks ++ [chunk]).flatten = chunks.flatten ++ part ++ rest := by simp [← split]
      have whole := further.flatten_prefix
      rw [flat, prepared.arrivals_eq] at whole
      exact (List.prefix_append _ _).trans whole
    case orderly =>
      refine ⟨_, prepared.log_going further, .reading (chunks ++ [chunk]) ?_⟩
      simpa [or_imp, forall_and, something] using each

theorem consistent_of_over (prepared : Ready capacity request opened ready)
    (underway : Underway gauge capacity count ready sink bytes last between)
    (ended : last.atEnd = true) :
    Consistent capacity request opened last (spoken opened.link.arrivals) := by
  obtain ⟨chunks, something, -, past⟩ := underway.over_of ended
  exact ⟨List.prefix_refl _, _, prepared.log_over past, .halted chunks something _ rfl⟩

theorem handed_of_over (prepared : Ready capacity request opened ready)
    (underway : Underway gauge capacity count ready sink bytes last between)
    (ended : last.atEnd = true) {outcome : Except Fault Unit} {final : ω}
    (flush : Sink.flush between = (outcome, final)) :
    bytes = spoken opened.link.arrivals ∧
      gauge.taken final = gauge.taken sink ++ spoken opened.link.arrivals := by
  have whole : bytes = spoken opened.link.arrivals := by
    rw [underway.bytes_eq ended, prepared.arrivals_eq]
  have kept := gauge.flush between
  rw [flush] at kept
  exact ⟨whole, by rw [kept, underway.handed, whole]⟩

theorem consistent_of_close (prepared : Ready capacity request opened ready)
    (underway : Underway gauge capacity count ready sink bytes last between)
    (ended : last.atEnd = true) :
    Consistent capacity request opened last.close.2 (spoken opened.link.arrivals) := by
  obtain ⟨chunks, something, -, past⟩ := underway.over_of ended
  obtain ⟨first, ⟨refused, log⟩ | ⟨carried, second, log⟩⟩ :=
    log_close (underway.ends.writeClosed_eq.trans prepared.writing)
      (underway.ends.readClosed_eq.trans prepared.reading)
  next =>
    refine ⟨List.prefix_refl _, _, ?_, .closing chunks something first refused⟩
    rw [log, prepared.log_over past]
    simp
  next =>
    refine ⟨List.prefix_refl _, _, ?_, .closed chunks something first second carried⟩
    rw [log, prepared.log_over past]
    simp

end

def Reached (target : Target) (opened : Channel Transcript) (sink : ω) (count : Nat) (bytes : Bytes)
    (last : Channel Transcript) (between : ω) : Prop :=
  ∃ size ready, opened.write target.request = (.done size, ready) ∧
    Rounds count ready sink bytes last between

structure Left (gauge : Gauge ω) (capacity : Nat) (target : Target) (opened : Channel Transcript)
    (sink : ω) (report : Report Transcript ω) (outcome : Outcome FetchError UInt64)
    (last : Channel Transcript) (final : ω) (handed : Bytes) : Prop where
  outcome_eq : report.outcome = outcome
  channel_eq : report.channel = some last
  sink_eq : report.sink = final
  handed_eq : gauge.taken final = gauge.taken sink ++ handed
  consistent : Consistent capacity target.request opened last handed

inductive Succeeded (gauge : Gauge ω) (capacity : Nat) (target : Target)
    (opened : Channel Transcript) (sink : ω) (report : Report Transcript ω) : Prop
  | steps (count : Nat) (bytes : Bytes) (last after : Channel Transcript) (between final : ω)
      (reached : Reached target opened sink count bytes last between) (ended : last.atEnd = true)
      (flushed : Sink.flush between = (.ok (), final)) (closed : last.close = (.ok (), after))
      (left : Left gauge capacity target opened sink report
        (.done (.ofNat (spoken opened.link.arrivals).length)) after final
        (spoken opened.link.arrivals)) :
      Succeeded gauge capacity target opened sink report

/-- What comes of a fetch over a connection, at whatever point it fails. -/
structure Encounter (gauge : Gauge ω) (capacity : Nat) (target : Target)
    (opened : Channel Transcript) (sink : ω) (report : Report Transcript ω) : Prop where
  unsent (error : TransportError) (after : Channel Transcript) :
    opened.write target.request = (.failed error, after) →
      Left gauge capacity target opened sink report (.failed (.transport error)) after sink []
  untaken (after : Channel Transcript) :
    opened.write target.request = (.stalled, after) →
      Left gauge capacity target opened sink report .stalled after sink []
  unread (count : Nat) (bytes : Bytes) (last : Channel Transcript) (between : ω)
    (error : TransportError) (after : Channel Transcript) :
    Reached target opened sink count bytes last between → last.atEnd = false →
      last.read = (.failed error, after) →
        Left gauge capacity target opened sink report (.failed (.transport error)) after between
            bytes ∧
          taken after.link.log = taken opened.link.log ++ bytes
  unwritten (count : Nat) (bytes : Bytes) (last : Channel Transcript) (between : ω) (chunk : Bytes)
    (after : Channel Transcript) (fault : Fault) (final : ω) :
    Reached target opened sink count bytes last between → last.atEnd = false →
      last.read = (.done chunk, after) → Sink.writeAll between chunk = (.error fault, final) →
        ∃ part rest, part ++ rest = chunk ∧
          Left gauge capacity target opened sink report (.failed (.output fault)) after final
            (bytes ++ part)
  unflushed (count : Nat) (bytes : Bytes) (last : Channel Transcript) (between : ω) (fault : Fault)
    (final : ω) :
    Reached target opened sink count bytes last between → last.atEnd = true →
      Sink.flush between = (.error fault, final) →
        Left gauge capacity target opened sink report (.failed (.output fault)) last final
          (spoken opened.link.arrivals)
  unclosed (count : Nat) (bytes : Bytes) (last : Channel Transcript) (between final : ω)
    (error : TransportError) (after : Channel Transcript) :
    Reached target opened sink count bytes last between → last.atEnd = true →
      Sink.flush between = (.ok (), final) → last.close = (.error error, after) →
        Left gauge capacity target opened sink report (.failed (.transport error)) after final
          (spoken opened.link.arrivals)
  succeeds (copied : UInt64) : report.outcome = .done copied →
    Succeeded gauge capacity target opened sink report
  left : ∃ outcome last final handed,
    Left gauge capacity target opened sink report outcome last final handed

structure Opening (capacity : Nat) (opened : Channel Transcript) : Prop where
  settled : opened.Settled capacity
  going : opened.inbound.ended = false
  writing : opened.writeClosed = false
  reading : opened.readClosed = false

structure Reports (target : Target) (opened : Channel Transcript) (sink : ω)
    (report : Report Transcript ω) : Prop where
  outcome_eq : report.outcome = (exchange target opened sink).1
  channel_eq : report.channel = some (exchange target opened sink).2.1
  sink_eq : report.sink = (exchange target opened sink).2.2

section

variable {capacity : Nat} {target : Target} {opened last : Channel Transcript} {sink between final : ω}
  {report : Report Transcript ω} {count : Nat} {bytes : Bytes}

theorem Reports.left (reports : Reports target opened sink report)
    {outcome : Outcome FetchError UInt64} {handed : Bytes}
    (same : exchange target opened sink = (outcome, last, final))
    (handed_eq : gauge.taken final = gauge.taken sink ++ handed)
    (consistent : Consistent capacity target.request opened last handed) :
    Left gauge capacity target opened sink report outcome last final handed :=
  { outcome_eq := by rw [reports.outcome_eq, same]
    channel_eq := by rw [reports.channel_eq, same]
    sink_eq := by rw [reports.sink_eq, same]
    handed_eq
    consistent }

theorem Opening.write (opening : Opening capacity opened) (target : Target) :
    (∃ ready, opened.write target.request = (.done target.request.length, ready) ∧
        Ready capacity target.request opened ready) ∨
      ∃ sending after, sending ≠ .taken ∧
        opened.write target.request = (Channel.written target.request sending, after) ∧
        Consistent capacity target.request opened after [] := by
  rcases sent : Link.send opened.link target.request with ⟨sending, link⟩
  have wrote := Channel.write_of_sent opening.writing (request_ne_nil target) sent
  by_cases takes : sending = .taken
  next =>
    subst takes
    have arrivals : opened.link.arrivals = link.arrivals := congrArg (·.2.arrivals) sent
    exact .inl ⟨_, wrote, opening.settled.of_inbound_eq rfl, opening.going, opening.writing,
      opening.reading, arrivals.symm, Channel.log_send sent⟩
  next =>
    exact .inr ⟨sending, _, takes, wrote, List.nil_prefix, _, Channel.log_send sent,
      .unsent sending takes⟩

theorem Reached.resume (positive : 0 < capacity) (opening : Opening capacity opened)
    (reached : Reached target opened sink count bytes last between) (gauge : Gauge ω) :
    ∃ ready, Ready capacity target.request opened ready ∧
      Underway gauge capacity count ready sink bytes last between ∧
      ∀ result, Stop last between (.ofNat bytes.length) result →
        exchange target opened sink = result := by
  obtain ⟨size, ready, wrote, rounds⟩ := reached
  rcases opening.write target with ⟨_, wrote', prepared⟩ | ⟨sending, after, untaken, wrote', -⟩
  next =>
    cases wrote.symm.trans wrote'
    have underway : Underway gauge capacity count ready sink bytes last between :=
      rounds.underway positive prepared.settled prepared.going
    refine ⟨ready, prepared, underway, fun result stop => ?_⟩
    rw [exchange, ← Target.request, wrote]
    exact deliver_of_stop rounds underway.count_le stop
  next =>
    have done := congrArg Prod.fst (wrote.symm.trans wrote')
    cases sending with
    | taken => exact absurd rfl untaken
    | failed | overdue => cases done

section

variable (positive : 0 < capacity) (opening : Opening capacity opened)
  (reports : Reports target opened sink report)
  (reached : Reached target opened sink count bytes last between)

include positive opening reports reached

theorem left_unread (going : last.atEnd = false) {error : TransportError} {after : Channel Transcript}
    (fails : last.read = (.failed error, after)) :
    Left gauge capacity target opened sink report (.failed (.transport error)) after between bytes ∧
      taken after.link.log = taken opened.link.log ++ bytes := by
  obtain ⟨ready, prepared, underway, stops⟩ := reached.resume positive opening gauge
  exact ⟨reports.left (stops _ (.unread error after going fails)) underway.handed
    (consistent_of_undone prepared underway going fails (by simp)),
    taken_of_undone prepared underway going fails (by simp)⟩

theorem left_waiting (going : last.atEnd = false) {after : Channel Transcript}
    (waits : last.read = (.stalled, after)) :
    Left gauge capacity target opened sink report .stalled after between bytes := by
  obtain ⟨ready, prepared, underway, stops⟩ := reached.resume positive opening gauge
  exact reports.left (stops _ (.waiting after going waits)) underway.handed
    (consistent_of_undone prepared underway going waits (by simp))

theorem left_unwritten (going : last.atEnd = false) {chunk : Bytes} {after : Channel Transcript}
    (read : last.read = (.done chunk, after)) {fault : Fault}
    (fails : Sink.writeAll between chunk = (.error fault, final)) :
    ∃ part rest, part ++ rest = chunk ∧
      Left gauge capacity target opened sink report (.failed (.output fault)) after final
        (bytes ++ part) := by
  obtain ⟨ready, prepared, underway, stops⟩ := reached.resume positive opening gauge
  obtain ⟨part, rest, split, took, -⟩ := gauge.writeAll between chunk
  have something : chunk ≠ [] := by
    rintro rfl
    rw [Sink.writeAll] at fails
    cases fails
  rw [fails, underway.handed, List.append_assoc] at took
  exact ⟨part, rest, split, reports.left (stops _ (.unwritten chunk fault after final going read fails))
    took (consistent_of_unwritten positive prepared underway going split something read)⟩

theorem left_unflushed (ended : last.atEnd = true) {fault : Fault}
    (fails : Sink.flush between = (.error fault, final)) :
    Left gauge capacity target opened sink report (.failed (.output fault)) last final
      (spoken opened.link.arrivals) := by
  obtain ⟨ready, prepared, underway, stops⟩ := reached.resume positive opening gauge
  exact reports.left (stops _ (.unflushed fault final ended fails))
    (handed_of_over prepared underway ended fails).2 (consistent_of_over prepared underway ended)

theorem left_unclosed (ended : last.atEnd = true) (flushed : Sink.flush between = (.ok (), final))
    {error : TransportError} {after : Channel Transcript}
    (fails : last.close = (.error error, after)) :
    Left gauge capacity target opened sink report (.failed (.transport error)) after final
      (spoken opened.link.arrivals) := by
  obtain ⟨ready, prepared, underway, stops⟩ := reached.resume positive opening gauge
  have consistent := consistent_of_close prepared underway ended
  rw [fails] at consistent
  exact reports.left (stops _ (.unclosed error after final ended flushed fails))
    (handed_of_over prepared underway ended flushed).2 consistent

theorem left_finished (ended : last.atEnd = true) (flushed : Sink.flush between = (.ok (), final))
    {after : Channel Transcript} (closed : last.close = (.ok (), after)) :
    Left gauge capacity target opened sink report
      (.done (.ofNat (spoken opened.link.arrivals).length)) after final
      (spoken opened.link.arrivals) := by
  obtain ⟨ready, prepared, underway, stops⟩ := reached.resume positive opening gauge
  obtain ⟨whole, handed⟩ := handed_of_over prepared underway ended flushed
  have consistent := consistent_of_close prepared underway ended
  rw [closed] at consistent
  rw [← whole] at handed consistent ⊢
  exact reports.left (stops _ (.finished after final ended flushed closed)) handed consistent

end

end

section

variable {capacity : Nat} {target : Target} {opened after : Channel Transcript} {sink : ω}
  {report : Report Transcript ω} (opening : Opening capacity opened)
  (reports : Reports target opened sink report)

include opening reports

theorem left_undelivered {outcome : Outcome TransportError Nat} {result : Outcome FetchError UInt64}
    (wrote : opened.write target.request = (outcome, after)) (undone : ∀ size, outcome ≠ .done size)
    (stopped : exchange target opened sink = (result, after, sink)) :
    Left gauge capacity target opened sink report result after sink [] := by
  rcases opening.write target with ⟨ready, done, -⟩ | ⟨sending, _, -, wrote', consistent⟩
  next => exact absurd (congrArg Prod.fst (wrote.symm.trans done)) (undone _)
  next =>
    cases congrArg Prod.snd (wrote.symm.trans wrote')
    exact reports.left stopped (List.append_nil _).symm consistent

theorem left_unsent {error : TransportError}
    (fails : opened.write target.request = (.failed error, after)) :
    Left gauge capacity target opened sink report (.failed (.transport error)) after sink [] := by
  refine left_undelivered opening reports fails (by simp) ?_
  rw [exchange, ← Target.request, fails]

theorem left_untaken (waits : opened.write target.request = (.stalled, after)) :
    Left gauge capacity target opened sink report .stalled after sink [] := by
  refine left_undelivered opening reports waits (by simp) ?_
  rw [exchange, ← Target.request, waits]

end

theorem Reports.ends {capacity : Nat} (positive : 0 < capacity) (gauge : Gauge ω) {target : Target}
    {opened : Channel Transcript} (opening : Opening capacity opened) {sink : ω}
    {report : Report Transcript ω} (reports : Reports target opened sink report) :
    ∃ outcome last final handed,
      Left gauge capacity target opened sink report outcome last final handed ∧
      ∀ copied, outcome = .done copied → Succeeded gauge capacity target opened sink report := by
  rcases opening.write target with ⟨ready, wrote, prepared⟩ | ⟨sending, after, untaken, wrote, -⟩
  next =>
    obtain ⟨count, bytes, last, between, rounds, stops⟩ :=
      exists_stop prepared.settled prepared.going sink
    obtain ⟨result, stop⟩ := stops 0
    have reached : Reached target opened sink count bytes last between := ⟨_, ready, wrote, rounds⟩
    cases stop with
    | unread error after going fails =>
      exact ⟨_, _, _, _, (left_unread positive opening reports reached going fails).1, by simp⟩
    | waiting after going waits =>
      exact ⟨_, _, _, _, left_waiting positive opening reports reached going waits, by simp⟩
    | unwritten chunk fault after final going read fails =>
      obtain ⟨part, rest, -, left⟩ :=
        left_unwritten positive opening reports reached going read fails
      exact ⟨_, _, _, _, left, by simp⟩
    | unflushed fault final ended fails =>
      exact ⟨_, _, _, _, left_unflushed positive opening reports reached ended fails, by simp⟩
    | unclosed error after final ended flushed fails =>
      exact ⟨_, _, _, _, left_unclosed positive opening reports reached ended flushed fails, by simp⟩
    | finished after final ended flushed closed =>
      have left : Left gauge capacity target opened sink report _ after final _ :=
        left_finished positive opening reports reached ended flushed closed
      exact ⟨_, _, _, _, left, fun _ _ => .steps _ _ _ _ _ _ reached ended flushed closed left⟩
  next =>
    cases sending with
    | taken => exact absurd rfl untaken
    | failed fault => exact ⟨_, _, _, _, left_unsent opening reports wrote, by simp⟩
    | overdue => exact ⟨_, _, _, _, left_untaken opening reports wrote, by simp⟩

theorem Reports.encounter {capacity : Nat} (positive : 0 < capacity) (gauge : Gauge ω)
    {target : Target} {opened : Channel Transcript} (opening : Opening capacity opened) {sink : ω}
    {report : Report Transcript ω} (reports : Reports target opened sink report) :
    Encounter gauge capacity target opened sink report := by
  obtain ⟨outcome, last, final, handed, left, succeeds⟩ := reports.ends positive gauge opening
  constructor
  case unsent => exact fun error after fails => left_unsent opening reports fails
  case untaken => exact fun after waits => left_untaken opening reports waits
  case unread =>
    exact fun count bytes last between error after reached going fails =>
      left_unread positive opening reports reached going fails
  case unwritten =>
    exact fun count bytes last between chunk after fault final reached going read fails =>
      left_unwritten positive opening reports reached going read fails
  case unflushed =>
    exact fun count bytes last between fault final reached ended fails =>
      left_unflushed positive opening reports reached ended fails
  case unclosed =>
    exact fun count bytes last between final error after reached ended flushed fails =>
      left_unclosed positive opening reports reached ended flushed fails
  case succeeds => exact fun copied done => succeeds copied (left.outcome_eq.symm.trans done)
  case left => exact ⟨outcome, last, final, handed, left⟩

/-- What a fetch leaves behind wherever it fails; no name is asked twice, and no endpoint called twice. -/
structure Forthright (gauge : Gauge ω) (resolver : Resolver) (network : Network Transcript)
    (config : ChannelConfig) (target : Target) (sink : ω) (report : Report Transcript ω) : Prop where
  unresolved (error : TransportError) :
    (Net.resolve resolver target.host target.service).outcome = .error error →
      report.outcome = .failed (.transport error) ∧ report.sink = sink ∧ report.dialled = [] ∧
        report.channel.isNone
  unconnected (address : Address) (error : TransportError) :
    (Net.resolve resolver target.host target.service).outcome = .ok address →
      Channel.connect network address config = .failed error →
        report.outcome = .failed (.transport error) ∧ report.sink = sink ∧ report.channel.isNone
  connected (address : Address) (opened : Channel Transcript) :
    (Net.resolve resolver target.host target.service).outcome = .ok address →
      Channel.connect network address config = .done opened →
        Encounter gauge config.recvCapacity.toNat target opened sink report
  asked_le : report.asked.length ≤ 1
  dialled_le : report.dialled.length ≤ 1

theorem length_asked_le (resolver : Resolver) (host service : String) :
    (Net.resolve resolver host service).asked.length ≤ 1 := by
  show (Net.resolveAll resolver host service).asked.length ≤ 1
  rcases Net.asked_cases resolver host service with none | one
  next => rw [none]; exact Nat.zero_le 1
  next => rw [one]; exact Nat.le_refl 1

theorem fetch_tries (resolver : Resolver) (network : Network Transcript) (config : ChannelConfig)
    (target : Target) (sink : ω) :
    (fetch resolver network config target sink).asked =
        (Net.resolve resolver target.host target.service).asked ∧
      (fetch resolver network config target sink).dialled.length ≤ 1 := by
  have one (address : Address) : (called config address).length ≤ 1 := by
    unfold called
    split <;> simp
  unfold fetch
  rcases resolved : (Net.resolve resolver target.host target.service).outcome with error | address
  next => simp [resolved]
  next =>
    rcases connected : Channel.connect network address config with channel | error | _ | message <;>
      simp [resolved, connected, one]

/-- Whatever fails first, a fetch ends there with the error of that side, and the sink is left with the
beginning of what the peer said: nothing before the first read, and all of it after the last. -/
theorem fetch_forthright (gauge : Gauge ω) (resolver : Resolver) (network : Network Transcript)
    (config : ChannelConfig) (target : Target) (sink : ω) :
    Forthright gauge resolver network config target sink
      (fetch resolver network config target sink) := by
  constructor
  case unresolved =>
    intro error unresolved
    unfold fetch
    simp [unresolved]
  case unconnected =>
    intro address error resolved refused
    unfold fetch
    simp [resolved, refused]
  case connected =>
    intro address opened resolved connected
    obtain ⟨nonzero, -, script, own, peer, -, rfl⟩ := Channel.connect_eq_done_iff.mp connected
    have positive : 0 < config.recvCapacity.toNat := by
      rw [Nat.pos_iff_ne_zero, ne_eq, ← UInt64.toNat_zero, UInt64.toNat_inj]
      exact nonzero
    have opening : Opening config.recvCapacity.toNat (Channel.fresh config script own peer) :=
      ⟨Channel.fresh_settled config script own peer, rfl, rfl, rfl⟩
    refine Reports.encounter positive gauge opening ?_
    unfold fetch
    simp only [resolved, connected]
    exact ⟨rfl, rfl, rfl⟩
  case asked_le =>
    rw [(fetch_tries resolver network config target sink).1]
    exact length_asked_le resolver target.host target.service
  case dialled_le => exact (fetch_tries resolver network config target sink).2

-- The sink is full in the middle of the third read.
def outpouring : Transcript :=
  { Transcript.blank with arrivals := [.bytes [1, 2, 3], .bytes [4, 5, 6], .bytes [7], .bytes []] }

def shallow : BoundedSink :=
  { BoundedSink.unbounded with limit := some 4, full := some (.system 28) }

theorem fetch_outpouring :
    (fetch unasked (Channel.scripted outpouring) narrow nearby shallow).outcome =
        .failed (.output (.system 28)) ∧
      (fetch unasked (Channel.scripted outpouring) narrow nearby shallow).sink.taken = [1, 2, 3, 4] ∧
      ∃ opened, Channel.connect (Channel.scripted outpouring) (Net.loopback 80) narrow = .done opened ∧
        Encounter BoundedSink.gauge 2 nearby opened shallow
          (fetch unasked (Channel.scripted outpouring) narrow nearby shallow) := by
  have resolved : (Net.resolve unasked nearby.host nearby.service).outcome =
      .ok (Net.loopback 80) :=
    Net.resolve_literal (by decide +kernel) rfl unasked
  have connected := Channel.connect_scripted outpouring (Net.loopback 80) narrow (by decide)
    (by decide)
  have forthright := fetch_forthright BoundedSink.gauge unasked (Channel.scripted outpouring) narrow
    nearby shallow
  exact ⟨by decide +kernel, by decide +kernel, _, connected,
    forthright.connected (Net.loopback 80) _ resolved connected⟩

end Fetch

end Conduit
