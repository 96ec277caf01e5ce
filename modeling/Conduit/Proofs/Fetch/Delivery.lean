import Conduit.Fetch.Basic
import Conduit.Proofs.Channel.Answer
import Conduit.Proofs.Net.Decision
import Conduit.Proofs.Text.Encoded
set_option autoImplicit false

namespace Conduit

/-- A sink that goes on taking bytes. What it has taken can be told from it. -/
structure OpenSink (ω : Type) [Sink ω] where
  taken : ω → Bytes
  ready : ω → Prop
  accept (sink : ω) (data : Bytes) : ready sink → data ≠ [] → ∃ count after,
    Sink.accept sink data = (.ok count, after) ∧ 0 < count ∧ count ≤ data.length ∧ ready after ∧
      taken after = taken sink ++ data.take count
  flush (sink : ω) : ready sink → ∃ after,
    Sink.flush sink = (.ok (), after) ∧ ready after ∧ taken after = taken sink

theorem OpenSink.writeAll {ω : Type} [Sink ω] (outlet : OpenSink ω) {sink : ω}
    (ready : outlet.ready sink) (data : Bytes) :
    ∃ after, Sink.writeAll sink data = (.ok (), after) ∧ outlet.ready after ∧
      outlet.taken after = outlet.taken sink ++ data := by
  -- An open sink neither fails nor takes nothing, so one of the four cases goes on.
  fun_induction Sink.writeAll sink data with
  | case1 sink => exact ⟨sink, rfl, ready, (List.append_nil _).symm⟩
  | case2 sink byte more fault after refused =>
    obtain ⟨count, _, accepted, -⟩ := outlet.accept sink (byte :: more) ready (List.cons_ne_nil _ _)
    rw [refused] at accepted
    cases accepted
  | case3 sink byte more after nothing =>
    obtain ⟨count, _, accepted, positive, -⟩ :=
      outlet.accept sink (byte :: more) ready (List.cons_ne_nil _ _)
    rw [nothing] at accepted
    cases accepted
    cases positive
  | case4 sink byte more count after some ih =>
    obtain ⟨_, _, accepted, -, -, open', took⟩ :=
      outlet.accept sink (byte :: more) ready (List.cons_ne_nil _ _)
    rw [some] at accepted
    cases accepted
    obtain ⟨last, written, ready, all⟩ := ih open'
    refine ⟨last, written, ready, ?_⟩
    rw [all, took, List.take_succ_cons, List.append_assoc, List.cons_append, List.take_append_drop]

namespace BoundedSink

-- Without a limit, a sink takes whatever it is offered, in steps of any size.
def outlet : OpenSink BoundedSink where
  taken := BoundedSink.taken
  ready sink := sink.limit = none ∧ sink.step ≠ some 0 ∧ sink.flushing = none
  accept sink data ready something := by
    obtain ⟨unlimited, moving, flushing⟩ := ready
    have length : 0 < data.length := List.length_pos_iff.mpr something
    refine ⟨atMost sink.step data.length,
      { sink with taken := sink.taken ++ data.take (atMost sink.step data.length) },
      ?_, ?_, ?_, ⟨unlimited, moving, flushing⟩, rfl⟩
    next => simp [Sink.accept, accept, unlimited, atMost]
    next =>
      cases step : sink.step with
      | none => exact length
      | some limit =>
        have some : limit ≠ 0 := fun none => moving (step.trans (congrArg some none))
        show 0 < min limit data.length
        omega
    next =>
      cases sink.step with
      | none => exact Nat.le_refl _
      | some limit => exact Nat.min_le_right _ _
  flush sink ready := ⟨sink, by simp [Sink.flush, flush, ready.2.2], ready, rfl⟩

end BoundedSink

namespace Fetch

open Net (Address Resolver)
open Transcript (taken delivered)

inductive Rounds {σ ω : Type} [Link σ] [Sink ω] :
    Nat → Channel σ → ω → Bytes → Channel σ → ω → Prop
  | none (channel : Channel σ) (sink : ω) : Rounds 0 channel sink [] channel sink
  | next {count : Nat} {channel after last : Channel σ} {sink between final : ω} {chunk bytes : Bytes}
      (going : channel.atEnd = false) (read : channel.read = (.done chunk, after))
      (written : Sink.writeAll sink chunk = (.ok (), between))
      (later : Rounds count after between bytes last final) :
      Rounds (count + 1) channel sink (chunk ++ bytes) last final

theorem Rounds.pump_eq {σ ω : Type} [Link σ] [Sink ω] {count : Nat} {channel last : Channel σ}
    {sink final : ω} {bytes : Bytes} (rounds : Rounds count channel sink bytes last final)
    (more : Nat) (copied : UInt64) :
    pump (count + more) copied channel sink = pump more (copied + .ofNat bytes.length) last final := by
  -- Each round uses up one of the reads that are left and adds its chunk to the count.
  induction rounds generalizing copied with
  | none => simp
  | next going read written later ih =>
    rw [Nat.add_right_comm, pump, going, read]
    simp only [Bool.false_eq_true, if_false, written]
    rw [ih, List.length_append, UInt64.ofNat_add, UInt64.add_assoc]

variable {ω : Type} [Sink ω] {outlet : OpenSink ω}

structure Drained (outlet : OpenSink ω) (rest : Bytes) (channel : Channel Transcript) (sink : ω)
    (reads : List Exchange) (last : Channel Transcript) (final : ω) : Prop where
  rounds : Rounds reads.length channel sink rest last final
  atEnd : last.atEnd = true
  length_le : reads.length ≤ rest.length + 1
  log_eq : last.link.log = channel.link.log ++ reads
  received : ∀ exchange ∈ reads, ∃ room arrival, exchange = .received room arrival
  taken_eq : taken reads = rest
  willing : last.link.Willing
  writeClosed_eq : last.writeClosed = channel.writeClosed
  readClosed_eq : last.readClosed = channel.readClosed
  ready : outlet.ready final
  handed : outlet.taken final = outlet.taken sink ++ rest

theorem Drained.more {capacity : Nat} {channel next last : Channel Transcript}
    {sink between final : ω} {chunk later : Bytes} {reads : List Exchange}
    (drained : Drained outlet later next between reads last final) (something : chunk ≠ [])
    (going : channel.atEnd = false) (heard : Channel.Heard capacity chunk channel next)
    (written : Sink.writeAll sink chunk = (.ok (), between))
    (took : outlet.taken between = outlet.taken sink ++ chunk) :
    Drained outlet (chunk ++ later) channel sink (.received capacity (.bytes chunk) :: reads) last
      final := by
  constructor
  case rounds => exact .next going heard.read_eq written drained.rounds
  case atEnd => exact drained.atEnd
  case length_le =>
    have bound := drained.length_le
    have positive := List.length_pos_iff.mpr something
    rw [List.length_cons, List.length_append]
    omega
  case log_eq => rw [drained.log_eq, heard.log_eq, List.append_assoc, List.singleton_append]
  case received => exact List.forall_mem_cons.mpr ⟨⟨capacity, _, rfl⟩, drained.received⟩
  case taken_eq => rw [taken, drained.taken_eq]
  case willing => exact drained.willing
  case writeClosed_eq => exact drained.writeClosed_eq.trans heard.writeClosed_eq
  case readClosed_eq => exact drained.readClosed_eq.trans heard.readClosed_eq
  case ready => exact drained.ready
  case handed => rw [drained.handed, took, List.append_assoc]

theorem Drained.last {capacity : Nat} {channel last : Channel Transcript} {sink final : ω}
    (going : channel.atEnd = false) (heard : Channel.Heard capacity [] channel last)
    (ended : last.atEnd = true) (willing : last.link.Willing)
    (written : Sink.writeAll sink [] = (.ok (), final)) (ready : outlet.ready final)
    (took : outlet.taken final = outlet.taken sink ++ []) :
    Drained outlet [] channel sink [.received capacity (.bytes [])] last final :=
  { rounds := .next going heard.read_eq written (.none last final)
    atEnd := ended
    length_le := Nat.le_refl _
    log_eq := heard.log_eq
    received := by simp
    taken_eq := rfl
    willing
    writeClosed_eq := heard.writeClosed_eq
    readClosed_eq := heard.readClosed_eq
    ready
    handed := took }

theorem drain {capacity : Nat} (positive : 0 < capacity) (rest : Bytes)
    {channel : Channel Transcript} {sink : ω} (settled : channel.Settled capacity)
    (going : channel.inbound.ended = false) (answers : channel.link.Answers rest)
    (ready : outlet.ready sink) :
    ∃ reads last final, Drained outlet rest channel sink reads last final := by
  -- What a round leaves to come is shorter, whatever the piece was that it took.
  induction length : rest.length using Nat.strongRecOn generalizing rest channel sink with
  | _ _ ih =>
    have notYet : channel.atEnd = false := by simp [Channel.atEnd, Pipe.atEnd, going]
    rcases Channel.read_answers positive settled going answers with
      ⟨rfl, after, heard, ended, willing⟩ |
      ⟨chunk, later, after, something, rfl, heard, settled, going, answers⟩
    next =>
      obtain ⟨between, written, ready, took⟩ := outlet.writeAll ready []
      exact ⟨_, _, _, .last notYet heard ended willing written ready took⟩
    next =>
      obtain ⟨between, written, ready, took⟩ := outlet.writeAll ready chunk
      have shorter : later.length < (chunk ++ later).length := by
        have := List.length_pos_iff.mpr something
        rw [List.length_append]
        omega
      obtain ⟨reads, last, final, drained⟩ :=
        ih later.length (length ▸ shorter) later settled going answers ready rfl
      exact ⟨_, last, final, drained.more something notYet heard written took⟩

def Target.request (target : Target) : Bytes :=
  (requestText target.host target.path).toUTF8.toList

theorem request_ne_nil (target : Target) : target.request ≠ [] := by
  have text : requestText target.host target.path ≠ "" := by
    simp [requestText, requestLines, String.join, lineEnd]
  -- Every character has at least one byte.
  obtain ⟨first, later, characters⟩ := List.exists_cons_of_ne_nil (mt String.toList_eq_nil_iff.mp text)
  rw [Target.request, Text.toUTF8_toList, characters, List.flatMap_cons]
  exact List.append_ne_nil_of_left_ne_nil String.utf8EncodeChar_ne_nil _

theorem delivered_received (reads later : List Exchange)
    (received : ∀ exchange ∈ reads, ∃ room arrival, exchange = .received room arrival) :
    delivered (reads ++ later) = delivered later := by
  induction reads with
  | nil => rfl
  | cons exchange reads ih =>
    obtain ⟨⟨room, arrival, rfl⟩, others⟩ := List.forall_mem_cons.mp received
    rw [List.cons_append, delivered, ih others]
    simp

namespace Drained

variable {rest : Bytes} {channel last : Channel Transcript} {sink final : ω} {reads : List Exchange}

theorem pumpAll_eq (drained : Drained outlet rest channel sink reads last final)
    (pending : Link.pending channel.link = rest.length) :
    pumpAll channel sink = (.done (.ofNat rest.length), last, final) := by
  -- The loop may read once more than there are bytes to come, and then look for the end.
  have bound := drained.length_le
  have enough : rest.length + 2 = reads.length + (rest.length + 1 - reads.length + 1) := by omega
  rw [pumpAll, pending, enough, drained.rounds.pump_eq, pump, drained.atEnd, if_pos rfl,
    UInt64.zero_add]

theorem conclude_eq (drained : Drained outlet rest channel sink reads last final)
    (writing : channel.writeClosed = false) (reading : channel.readClosed = false)
    (copied : UInt64) :
    ∃ flushed, conclude copied last final = (.done copied, last.shut, flushed) ∧
      outlet.taken flushed = outlet.taken sink ++ rest := by
  obtain ⟨flushed, flush, -, same⟩ := outlet.flush final drained.ready
  have closed := Channel.close_willing drained.willing (drained.writeClosed_eq.trans writing)
    (drained.readClosed_eq.trans reading)
  refine ⟨flushed, ?_, same.trans drained.handed⟩
  simp only [conclude, flush, closed]

end Drained

structure Answered (network : Network Transcript) (address : Address) (config : ChannelConfig)
    (pieces : List Bytes) : Prop where
  reached : ∃ own peer, network address = .connected (.answering pieces) own peer
  something : ∀ piece ∈ pieces, piece ≠ []
  nonzero : config.recvCapacity ≠ 0
  below : config.recvCapacity.toNat < Pipe.capacityLimit

/-- The whole response has been handed on, and nothing is left to do. -/
structure Delivered (outlet : OpenSink ω) (target : Target) (response : Bytes)
    (opened : Channel Transcript) (sink : ω) (report : Report Transcript ω) : Prop where
  outcome_eq : report.outcome = .done (.ofNat response.length)
  handed : outlet.taken report.sink = outlet.taken sink ++ response
  ended : ∃ channel reads, report.channel = some channel ∧
    channel.writeClosed = true ∧ channel.readClosed = true ∧
    channel.link.log =
      .sent target.request .taken :: reads ++ [.sendingEnded (.ok ()), .receivingEnded (.ok ())] ∧
    (∀ exchange ∈ reads, ∃ room arrival, exchange = .received room arrival) ∧
    taken reads = response ∧ delivered channel.link.log = target.request
  looped : ∃ count last final, count ≤ response.length + 1 ∧
    Rounds count (opened.write target.request).2 sink response last final ∧ last.atEnd = true

theorem exchange_delivered {capacity : Nat} (positive : 0 < capacity) (response : Bytes)
    {opened : Channel Transcript} {sink : ω} (target : Target) (settled : opened.Settled capacity)
    (going : opened.inbound.ended = false) (answers : opened.link.Answers response)
    (unasked : opened.link.log = []) (writing : opened.writeClosed = false)
    (reading : opened.readClosed = false) (ready : outlet.ready sink) (asked : List String)
    (dialled : List Address) :
    Delivered outlet target response opened sink
      ⟨(exchange target opened sink).1, asked, dialled, some (exchange target opened sink).2.1,
        (exchange target opened sink).2.2⟩ := by
  have wrote := Channel.write_willing answers.willing writing (request_ne_nil target)
  have settled : (opened.told target.request).Settled capacity := settled.of_inbound_eq rfl
  have answers : (opened.told target.request).link.Answers response := answers.record _
  obtain ⟨reads, last, final, drained⟩ := drain positive response settled going answers ready
  obtain ⟨flushed, concluded, handed⟩ :=
    drained.conclude_eq writing reading (.ofNat response.length)
  have exchanged : exchange target opened sink =
      (.done (.ofNat response.length), last.shut, flushed) := by
    unfold exchange
    rw [← Target.request, wrote]
    show deliver (opened.told target.request) sink = _
    rw [deliver, drained.pumpAll_eq answers.pending_eq]
    exact concluded
  have log : last.shut.link.log =
      .sent target.request .taken :: reads ++
        [.sendingEnded (.ok ()), .receivingEnded (.ok ())] := by
    simp [Channel.shut, Transcript.record, drained.log_eq, Channel.told, unasked]
  rw [exchanged]
  exact
    { outcome_eq := rfl
      handed
      ended := by
        refine ⟨last.shut, reads, rfl, rfl, rfl, log, drained.received, drained.taken_eq, ?_⟩
        rw [log, List.cons_append, delivered, delivered_received reads _ drained.received]
        simp [delivered]
      looped := by
        refine ⟨reads.length, last, final, drained.length_le, ?_, drained.atEnd⟩
        rw [wrote]
        exact drained.rounds }

theorem fetch_delivered {resolver : Resolver} {network : Network Transcript} {address : Address}
    {config : ChannelConfig} {target : Target} {pieces : List Bytes} {sink : ω}
    (resolved : (Net.resolve resolver target.host target.service).outcome = .ok address)
    (answered : Answered network address config pieces) (ready : outlet.ready sink) :
    ∃ opened, Channel.connect network address config = .done opened ∧
      Delivered outlet target pieces.flatten opened sink
        (fetch resolver network config target sink) := by
  obtain ⟨own, peer, reached⟩ := answered.reached
  have connected := Channel.connect_eq_done_iff.mpr
    ⟨answered.nonzero, answered.below, _, _, _, reached, rfl⟩
  have positive : 0 < config.recvCapacity.toNat := by
    rw [Nat.pos_iff_ne_zero, ne_eq, ← UInt64.toNat_zero, UInt64.toNat_inj]
    exact answered.nonzero
  have delivered := exchange_delivered positive pieces.flatten target
    (Channel.fresh_settled config (Transcript.answering pieces) own peer) rfl
    (Transcript.answering_answers answered.something) rfl rfl rfl ready
  refine ⟨_, connected, ?_⟩
  unfold fetch
  simp only [resolved, connected]
  exact delivered _ _

/-- A fetch from a peer that answers hands on the whole answer, and what comes of it depends neither on the
capacity of the channel nor on the pieces of the answer. -/
theorem fetch_delivers {resolver : Resolver} {network : Network Transcript} {address : Address}
    {config : ChannelConfig} {target : Target} {pieces : List Bytes} {sink : ω}
    (resolved : (Net.resolve resolver target.host target.service).outcome = .ok address)
    (answered : Answered network address config pieces) (ready : outlet.ready sink) :
    (∃ opened, Channel.connect network address config = .done opened ∧
        Delivered outlet target pieces.flatten opened sink
          (fetch resolver network config target sink)) ∧
      ∀ (others : Network Transcript) (another : ChannelConfig) (pieces' : List Bytes),
        Answered others address another pieces' → pieces'.flatten = pieces.flatten →
          (fetch resolver others another target sink).outcome =
              (fetch resolver network config target sink).outcome ∧
            outlet.taken (fetch resolver others another target sink).sink =
              outlet.taken (fetch resolver network config target sink).sink := by
  obtain ⟨opened, connected, delivered⟩ := fetch_delivered resolved answered ready
  refine ⟨⟨opened, connected, delivered⟩, ?_⟩
  intro others another pieces' answered' same
  obtain ⟨_, -, delivered'⟩ := fetch_delivered resolved answered' ready
  constructor
  case left => rw [delivered'.outcome_eq, delivered.outcome_eq, same]
  case right => rw [delivered'.handed, delivered.handed, same]

def nearby : Target := ⟨"127.0.0.1", "/", "80"⟩

def unasked : Resolver := fun _ => .ok []

def uneven : List Bytes := [[1, 2, 3], [4], [5, 6, 7]]

def piecewise : Network Transcript :=
  fun _ => .connected (.answering uneven) (Net.loopback 40000) (Net.loopback 80)

def narrow : ChannelConfig := ChannelConfig.default.withRecvCapacity 2

def slow : BoundedSink := { BoundedSink.unbounded with step := some 1 }

theorem fetch_piecewise :
    (Net.resolve unasked nearby.host nearby.service).outcome = .ok (Net.loopback 80) ∧
      Answered piecewise (Net.loopback 80) narrow uneven ∧ BoundedSink.outlet.ready slow ∧
      (fetch unasked piecewise narrow nearby slow).outcome = .done 7 ∧
      BoundedSink.outlet.taken (fetch unasked piecewise narrow nearby slow).sink =
        [1, 2, 3, 4, 5, 6, 7] := by
  have resolved : (Net.resolve unasked nearby.host nearby.service).outcome =
      .ok (Net.loopback 80) :=
    Net.resolve_literal (by decide +kernel) rfl unasked
  have answered : Answered piecewise (Net.loopback 80) narrow uneven :=
    { reached := ⟨_, _, rfl⟩
      something := by decide
      nonzero := by decide
      below := by decide }
  have ready : BoundedSink.outlet.ready slow := ⟨rfl, by decide, rfl⟩
  obtain ⟨⟨_, -, delivered⟩, -⟩ := fetch_delivers resolved answered ready
  exact ⟨resolved, answered, ready, delivered.outcome_eq, delivered.handed⟩

end Fetch

end Conduit
