import Conduit.Proofs.Channel.Exchanges
import Conduit.Proofs.Fetch.Delivery
set_option autoImplicit false

namespace Conduit

open Net (Address Resolver)

namespace Transcript

def spoken : List Arrival → Bytes
  | [] => []
  | .bytes [] :: _ => []
  | arrival :: later => arrival.data ++ spoken later

def heard : List Arrival → Bytes
  | .bytes (byte :: more) :: later => byte :: more ++ heard later
  | _ => []

def halt : List Arrival → Arrival
  | [] => .overdue
  | .bytes (_ :: _) :: later => halt later
  | arrival :: _ => arrival

theorem heard_prefix (arrivals : List Arrival) : heard arrivals <+: spoken arrivals := by
  induction arrivals with
  | nil => exact List.nil_prefix
  | cons arrival later ih =>
    rcases arrival with (_ | ⟨byte, more⟩) | fault | _
    case bytes.cons => exact (List.prefix_append_right_inj (byte :: more)).mpr ih
    all_goals exact List.nil_prefix

theorem heard_of_ended {arrivals : List Arrival} (ended : halt arrivals = .bytes []) :
    heard arrivals = spoken arrivals := by
  induction arrivals with
  | nil => cases ended
  | cons arrival later ih =>
    rcases arrival with (_ | ⟨byte, more⟩) | fault | _
    case bytes.nil => rfl
    case bytes.cons => exact congrArg (byte :: more ++ ·) (ih ended)
    all_goals cases ended

theorem data_halt (arrivals : List Arrival) : (halt arrivals).data = [] := by
  induction arrivals with
  | nil => rfl
  | cons arrival later ih =>
    rcases arrival with (_ | ⟨byte, more⟩) | fault | _
    case bytes.cons => exact ih
    all_goals rfl

inductive Comes (arrivals : List Arrival) : Arrival → List Arrival → Prop
  | piece (data : Bytes) (later : List Arrival) (something : data ≠ [])
      (heard_eq : heard arrivals = data ++ heard later) (halt_eq : halt later = halt arrivals) :
      Comes arrivals (.bytes data) later
  | halt (arrival : Arrival) (later : List Arrival) (nothing : heard arrivals = [])
      (halt_eq : halt arrivals = arrival) (empty : arrival.data = []) :
      Comes arrivals arrival later

theorem nextArrival_comes {room : Nat} (positive : 0 < room) (arrivals : List Arrival) :
    Comes arrivals (nextArrival room arrivals).1 (nextArrival room arrivals).2 := by
  rcases arrivals with _ | ⟨(_ | ⟨byte, more⟩) | fault | _, later⟩
  case cons.bytes.cons =>
    have something : (byte :: more).take room ≠ [] := by
      rw [ne_eq, List.take_eq_nil_iff]
      exact not_or.mpr ⟨by omega, List.cons_ne_nil _ _⟩
    by_cases fits : (byte :: more).length ≤ room
    next =>
      have all : (byte :: more).take room = byte :: more := List.take_of_length_le fits
      simp only [nextArrival, if_pos fits]
      exact .piece _ _ something (by rw [all, heard]) rfl
    next =>
      -- The tail of a long piece is a piece of its own.
      obtain ⟨next, rest, tail⟩ := List.exists_cons_of_ne_nil
        (mt List.drop_eq_nil_iff.mp fits : (byte :: more).drop room ≠ [])
      simp only [nextArrival, if_neg fits]
      refine .piece _ _ something ?_ (by rw [tail]; rfl)
      rw [tail, heard, heard, ← tail, ← List.append_assoc, List.take_append_drop]
  case nil => exact .halt .overdue [] rfl rfl rfl
  case cons.bytes.nil => simpa [nextArrival] using Comes.halt (.bytes []) later rfl rfl rfl
  case cons.failed => exact .halt (.failed fault) later rfl rfl rfl
  case cons.overdue => exact .halt .overdue later rfl rfl rfl

def gained (script : Transcript) : Bytes :=
  match (nextSending script.sendings).1 with
  | .taken => heard script.arrivals
  | .failed _ | .overdue => []

theorem gained_prefix (script : Transcript) : script.gained <+: spoken script.arrivals := by
  unfold gained
  cases (nextSending script.sendings).1 with
  | taken => exact heard_prefix script.arrivals
  | failed | overdue => exact List.nil_prefix

theorem gained_of_untaken {script : Transcript}
    (untaken : (nextSending script.sendings).1 ≠ .taken) : script.gained = [] := by
  unfold gained
  cases next : (nextSending script.sendings).1 with
  | taken => exact absurd next untaken
  | failed | overdue => rfl

def Leaves (script : Transcript) : Prop :=
  CarriedOut (nextOutcome script.sendingEnds).1 ∧ CarriedOut (nextOutcome script.receivingEnds).1

/-- The peer takes the request, ends after its answer, and lets go. -/
structure Serves (script : Transcript) : Prop where
  takes : (nextSending script.sendings).1 = .taken
  ends : halt script.arrivals = .bytes []
  leaves : script.Leaves

theorem Serves.gained_eq {script : Transcript} (serves : script.Serves) :
    script.gained = spoken script.arrivals := by
  rw [gained, serves.takes]
  exact heard_of_ended serves.ends

/-- The peer neither takes nor refuses the request, or it takes it and falls silent. A limit cuts short only
the second, for it is a limit on reads. -/
inductive Strands (limit : Option Duration) (script : Transcript) : Prop
  | untaken (overdue : (nextSending script.sendings).1 = .overdue)
  | unanswered (takes : (nextSending script.sendings).1 = .taken)
      (silent : halt script.arrivals = .overdue) (unlimited : limit = none)

theorem not_serves_of_halt {script : Transcript} {arrival : Arrival}
    (halted : halt script.arrivals = arrival) (other : arrival ≠ .bytes []) : ¬ script.Serves :=
  fun serves => other (halted.symm.trans serves.ends)

theorem not_strands_of_takes {script : Transcript} {limit : Option Duration}
    (takes : (nextSending script.sendings).1 = .taken)
    (moving : halt script.arrivals ≠ .overdue ∨ limit ≠ none) : ¬ script.Strands limit := by
  rintro (overdue | ⟨-, silent, unlimited⟩)
  next => cases takes.symm.trans overdue
  next => exact moving.elim (fun speaks => speaks silent) fun limited => limited unlimited

end Transcript

namespace Channel

open Transcript (Comes nextArrival_comes nextOutcome)

variable {channel after : Channel Transcript}

-- Reading changes nothing about how closing will come out.
structure SameEnds (before after : Channel Transcript) : Prop where
  sendingEnds_eq : after.link.sendingEnds = before.link.sendingEnds
  receivingEnds_eq : after.link.receivingEnds = before.link.receivingEnds
  writeClosed_eq : after.writeClosed = before.writeClosed
  readClosed_eq : after.readClosed = before.readClosed

theorem SameEnds.trans {before middle after : Channel Transcript} (first : SameEnds before middle)
    (second : SameEnds middle after) : SameEnds before after :=
  { sendingEnds_eq := second.sendingEnds_eq.trans first.sendingEnds_eq
    receivingEnds_eq := second.receivingEnds_eq.trans first.receivingEnds_eq
    writeClosed_eq := second.writeClosed_eq.trans first.writeClosed_eq
    readClosed_eq := second.readClosed_eq.trans first.readClosed_eq }

theorem SameEnds.leaves_iff {before after : Channel Transcript} (same : SameEnds before after) :
    after.link.Leaves ↔ before.link.Leaves := by
  rw [Transcript.Leaves, same.sendingEnds_eq, same.receivingEnds_eq, Transcript.Leaves]

theorem SameEnds.received {link : Transcript} {room : Nat} {arrival : Arrival} (inbound : Pipe)
    (came : Link.receive channel.link room = (arrival, link)) :
    SameEnds channel { channel with link, inbound } := by
  cases came
  exact ⟨rfl, rfl, rfl, rfl⟩

theorem comes_of_receive {capacity : Nat} (positive : 0 < capacity)
    (settled : channel.Settled capacity) {arrival : Arrival} {link : Transcript}
    (came : Link.receive channel.link channel.inbound.room = (arrival, link)) :
    Comes channel.link.arrivals arrival link.arrivals := by
  have comes := nextArrival_comes (settled.room_eq.symm ▸ positive : 0 < channel.inbound.room)
    channel.link.arrivals
  cases came
  exact comes

theorem close_eq_ok_iff (writing : channel.writeClosed = false)
    (reading : channel.readClosed = false) :
    channel.close.1 = .ok () ↔ channel.link.Leaves := by
  have first : channel.closeWrite.1 = .ok () ↔ CarriedOut (nextOutcome channel.link.sendingEnds).1 :=
    closeWrite_eq_ok_iff writing
  -- Closing writing takes nothing away from what is known about closing reading.
  have second : channel.closeWrite.2.closeRead.1 = .ok () ↔
      CarriedOut (nextOutcome channel.link.receivingEnds).1 := by
    have middle : channel.closeWrite.2.readClosed = false ∧
        channel.closeWrite.2.link.receivingEnds = channel.link.receivingEnds := by
      simp only [closeWrite, writing, Bool.false_eq_true, if_false]
      exact ⟨reading, rfl⟩
    rw [closeRead_eq_ok_iff middle.1, ← middle.2]
    exact Iff.rfl
  rw [close, shutdown_both, Transcript.Leaves, ← first, ← second]
  generalize channel.closeWrite = written
  rcases written with ⟨error | ⟨⟩, middle⟩
  next => simp
  next => simp

end Channel

namespace Fetch

open Transcript (Comes heard halt)

variable {ω : Type} [Sink ω] {outlet : OpenSink ω}

def verdict (limit : Option Duration) (copied : UInt64) : Arrival → Outcome FetchError UInt64
  | .bytes _ => .done copied
  | .failed fault => .failed (.transport (.io .read fault))
  | .overdue =>
      match limit with
      | some limit => .failed (.transport (.timedOut .read limit))
      | none => .stalled

structure Pumped (outlet : OpenSink ω) (channel : Channel Transcript) (sink : ω) (copied : UInt64)
    (result : Outcome FetchError UInt64 × Channel Transcript × ω) : Prop where
  outcome_eq : result.1 =
    verdict channel.readLimit (copied + .ofNat (heard channel.link.arrivals).length)
      (halt channel.link.arrivals)
  ends : channel.SameEnds result.2.1
  ready : outlet.ready result.2.2
  handed : outlet.taken result.2.2 = outlet.taken sink ++ heard channel.link.arrivals

namespace Pumped

variable {channel : Channel Transcript} {sink : ω} {room : Nat} {link : Transcript}

theorem halted {arrival : Arrival} (ready : outlet.ready sink)
    (came : Link.receive channel.link room = (arrival, link))
    (comes : Comes channel.link.arrivals arrival link.arrivals) (empty : arrival.data = [])
    (inbound : Pipe) (copied : UInt64) :
    Pumped outlet channel sink copied
      (verdict channel.readLimit copied arrival, { channel with link, inbound }, sink) := by
  cases comes with
  | piece data later something => exact absurd empty something
  | halt _ _ nothing halt_eq =>
    exact
      { outcome_eq := by simp [nothing, halt_eq]
        ends := .received inbound came
        ready
        handed := by rw [nothing, List.append_nil] }

theorem more {between : ω} {data : Bytes} {copied : UInt64} {inbound : Pipe}
    {result : Outcome FetchError UInt64 × Channel Transcript × ω}
    (came : Link.receive channel.link room = (.bytes data, link))
    (comes : Comes channel.link.arrivals (.bytes data) link.arrivals) (something : data ≠ [])
    (took : outlet.taken between = outlet.taken sink ++ data)
    (later : Pumped outlet { channel with link, inbound } between
      (copied + .ofNat data.length) result) :
    Pumped outlet channel sink copied result := by
  cases comes with
  | halt _ _ nothing halt_eq empty => exact absurd empty something
  | piece data rest _ heard_eq halt_eq =>
    constructor
    case outcome_eq =>
      rw [later.outcome_eq, halt_eq, heard_eq, List.length_append, UInt64.ofNat_add,
        UInt64.add_assoc]
    case ends => exact (Channel.SameEnds.received inbound came).trans later.ends
    case ready => exact later.ready
    case handed => rw [later.handed, took, heard_eq, List.append_assoc]

end Pumped

theorem pump_pumped {capacity : Nat} (positive : 0 < capacity) {channel : Channel Transcript}
    {sink : ω} (settled : channel.Settled capacity) (going : channel.inbound.ended = false)
    (ready : outlet.ready sink) (copied : UInt64) {reads : Nat}
    (enough : Link.pending channel.link + 2 ≤ reads) :
    Pumped outlet channel sink copied (pump reads copied channel sink) := by
  -- A read that goes on uses up a byte that was pending, so the reads last for all of them.
  induction reads generalizing channel sink copied with
  | zero => omega
  | succ reads ih =>
    have notYet : channel.atEnd = false := by simp [Channel.atEnd, Pipe.atEnd, going]
    have reading := settled.reading
    have kept := reading.settled settled
    have comes {arrival : Arrival} {link : Transcript}
        (came : Link.receive channel.link channel.inbound.room = (arrival, link)) :
        Comes channel.link.arrivals arrival link.arrivals :=
      Channel.comes_of_receive positive settled came
    rw [pump, notYet, if_neg Bool.false_ne_true]
    generalize channel.read = result at reading kept
    obtain ⟨outcome, after⟩ := result
    simp only at reading kept
    cases reading with
    | idle ended => exact absurd (going.symm.trans ended) Bool.false_ne_true
    | ended link _ came =>
      -- There is one read left, which finds the end and is not made.
      obtain ⟨reads, rfl⟩ : ∃ fewer, reads = fewer + 1 := ⟨reads - 1, by omega⟩
      have ended : Channel.atEnd { channel with link, inbound := channel.inbound.finish } = true := by
        simp [Channel.atEnd, Pipe.atEnd, Pipe.finish, Pipe.isEmpty, settled.nothing]
      simp only [Sink.writeAll, pump, ended, if_true]
      simpa [verdict] using Pumped.halted ready came (comes came) rfl channel.inbound.finish copied
    | arrived data link _ came something fits =>
      obtain ⟨between, written, open', took⟩ := outlet.writeAll ready data
      have fewer := LawfulLink.receive_pending_le _ _ _ _ came
      have some := List.length_pos_iff.mpr something
      simp only [written]
      refine .more came (comes came) something took (ih kept ?_ open' _ ?_)
      next => exact (Pipe.ended_relay data).trans going
      next =>
        show Link.pending link + 2 ≤ reads
        omega
    | failed fault link _ came => exact .halted ready came (comes came) rfl channel.inbound copied
    | timedOut limit link _ came limited =>
      simpa [verdict, limited] using
        Pumped.halted ready came (comes came) rfl channel.inbound copied
    | stalled link _ came unlimited =>
      simpa [verdict, unlimited] using
        Pumped.halted ready came (comes came) rfl channel.inbound copied

open Transcript (nextSending)

structure Met (outlet : OpenSink ω) (limit : Option Duration) (script : Transcript) (sink : ω)
    (outcome : Outcome FetchError UInt64) (final : ω) : Prop where
  done_iff (copied : UInt64) :
    outcome = .done copied ↔ script.Serves ∧ copied = .ofNat script.gained.length
  stalled_iff : outcome = .stalled ↔ script.Strands limit
  unbroken (message : String) : outcome ≠ .crashed message
  handed : outlet.taken final = outlet.taken sink ++ script.gained

namespace Met

variable {limit : Option Duration} {script : Transcript} {sink final : ω}

theorem served (serves : script.Serves)
    (handed : outlet.taken final = outlet.taken sink ++ script.gained) :
    Met outlet limit script sink (.done (.ofNat script.gained.length)) final := by
  have moving : ¬ script.Strands limit :=
    Transcript.not_strands_of_takes serves.takes (.inl (by simp [serves.ends]))
  constructor
  case done_iff =>
    intro copied
    rw [Outcome.done.injEq, and_iff_right serves, eq_comm]
  case stalled_iff => exact iff_of_false (by simp) moving
  case unbroken => simp
  case handed => exact handed

theorem stranded (strands : script.Strands limit)
    (handed : outlet.taken final = outlet.taken sink ++ script.gained) :
    Met outlet limit script sink .stalled final := by
  have unserved : ¬ script.Serves := fun serves =>
    Transcript.not_strands_of_takes serves.takes (.inl (by simp [serves.ends])) strands
  constructor
  case done_iff => exact fun copied => iff_of_false (by simp) fun served => unserved served.1
  case stalled_iff => exact iff_of_true rfl strands
  case unbroken => simp
  case handed => exact handed

theorem failed (error : FetchError) (unserved : ¬ script.Serves) (moving : ¬ script.Strands limit)
    (handed : outlet.taken final = outlet.taken sink ++ script.gained) :
    Met outlet limit script sink (.failed error) final := by
  constructor
  case done_iff => exact fun copied => iff_of_false (by simp) fun served => unserved served.1
  case stalled_iff => exact iff_of_false (by simp) moving
  case unbroken => simp
  case handed => exact handed

end Met

inductive Concluding (outlet : OpenSink ω) (copied : UInt64) (channel : Channel Transcript)
    (sink : ω) : Outcome FetchError UInt64 × Channel Transcript × ω → Prop
  | left (last : Channel Transcript) (final : ω) (leaves : channel.link.Leaves)
      (same : outlet.taken final = outlet.taken sink) :
      Concluding outlet copied channel sink (.done copied, last, final)
  | stuck (error : FetchError) (last : Channel Transcript) (final : ω)
      (stays : ¬ channel.link.Leaves) (same : outlet.taken final = outlet.taken sink) :
      Concluding outlet copied channel sink (.failed error, last, final)

theorem conclude_cases {channel : Channel Transcript} {sink : ω} (ready : outlet.ready sink)
    (writing : channel.writeClosed = false) (reading : channel.readClosed = false)
    (copied : UInt64) :
    Concluding outlet copied channel sink (conclude copied channel sink) := by
  obtain ⟨flushed, flush, -, same⟩ := outlet.flush sink ready
  have closes := Channel.close_eq_ok_iff writing reading
  rcases closing : channel.close with ⟨error | ⟨⟩, closed⟩
  next =>
    have stays : ¬ channel.link.Leaves := fun leaves => by simpa [closing] using closes.mpr leaves
    simpa only [conclude, flush, closing] using Concluding.stuck _ _ _ stays same
  next =>
    have leaves : channel.link.Leaves := closes.mp (by rw [closing])
    simpa only [conclude, flush, closing] using Concluding.left _ _ leaves same

theorem deliver_met {capacity : Nat} (positive : 0 < capacity) {channel : Channel Transcript}
    (settled : channel.Settled capacity) (going : channel.inbound.ended = false)
    (writing : channel.writeClosed = false) (reading : channel.readClosed = false) {sink : ω}
    (ready : outlet.ready sink) {script : Transcript}
    (takes : (nextSending script.sendings).1 = .taken) {request : Bytes}
    (sent : channel.link = (script.send request).2) :
    Met outlet channel.readLimit script sink (deliver channel sink).1 (deliver channel sink).2.2 := by
  have pumped := pump_pumped positive settled going ready 0 (Nat.le_refl _)
  have arrivals : channel.link.arrivals = script.arrivals := by rw [sent]; rfl
  have leaves : channel.link.Leaves ↔ script.Leaves := by rw [sent]; rfl
  have gained : script.gained = heard script.arrivals := by rw [Transcript.gained, takes]
  rw [← pumpAll] at pumped
  unfold deliver
  generalize pumpAll channel sink = result at pumped
  obtain ⟨outcome, last, final⟩ := result
  obtain ⟨outcome_eq, ends, open', handed⟩ := pumped
  rw [arrivals, UInt64.zero_add, ← gained] at outcome_eq
  rw [arrivals, ← gained] at handed
  simp only at outcome_eq ends open' handed
  -- Only after the end of the peer is there anything left that can fail.
  cases halted : halt script.arrivals with
  | bytes data =>
    have nothing := Transcript.data_halt script.arrivals
    rw [halted] at outcome_eq nothing
    cases (nothing : data = [])
    subst outcome_eq
    have concluding := conclude_cases open' (ends.writeClosed_eq.trans writing)
      (ends.readClosed_eq.trans reading) (.ofNat script.gained.length)
    simp only [verdict]
    generalize conclude _ last final = result at concluding
    have leaves := ends.leaves_iff.trans leaves
    cases concluding with
    | left _ _ left same =>
      exact .served ⟨takes, halted, leaves.mp left⟩ (same.trans handed)
    | stuck error _ _ stays same =>
      exact .failed error (fun serves => stays (leaves.mpr serves.leaves))
        (Transcript.not_strands_of_takes takes (.inl (by simp [halted]))) (same.trans handed)
  | failed fault =>
    rw [halted] at outcome_eq
    subst outcome_eq
    exact .failed _ (Transcript.not_serves_of_halt halted (by simp))
      (Transcript.not_strands_of_takes takes (.inl (by simp [halted]))) handed
  | overdue =>
    rw [halted] at outcome_eq
    cases limited : channel.readLimit with
    | none =>
      rw [limited] at outcome_eq
      subst outcome_eq
      exact .stranded (.unanswered takes halted rfl) handed
    | some limit =>
      rw [limited] at outcome_eq
      subst outcome_eq
      exact .failed _ (Transcript.not_serves_of_halt halted (by simp))
        (Transcript.not_strands_of_takes takes (.inr (Option.some_ne_none limit))) handed

theorem exchange_met {capacity : Nat} (positive : 0 < capacity) (target : Target)
    {opened : Channel Transcript} (settled : opened.Settled capacity)
    (going : opened.inbound.ended = false) (writing : opened.writeClosed = false)
    (reading : opened.readClosed = false) {sink : ω} (ready : outlet.ready sink) :
    Met outlet opened.readLimit opened.link sink (exchange target opened sink).1
      (exchange target opened sink).2.2 := by
  rcases sent : Link.send opened.link target.request with ⟨sending, link⟩
  have wrote := Channel.write_of_sent writing (request_ne_nil target) sent
  have next : (nextSending opened.link.sendings).1 = sending := congrArg Prod.fst sent
  have after : link = (opened.link.send target.request).2 := congrArg Prod.snd sent.symm
  rw [exchange, ← Target.request, wrote]
  cases sending with
  | taken =>
    have settled : Channel.Settled capacity { opened with link } := settled.of_inbound_eq rfl
    exact deliver_met positive settled going writing reading ready next after
  | failed fault =>
    have nothing : opened.link.gained = [] := Transcript.gained_of_untaken (by simp [next])
    refine .failed _ ?_ ?_ (by simp [Channel.written, nothing])
    next => exact fun serves => by cases next.symm.trans serves.takes
    next =>
      rintro (overdue | ⟨takes, -, -⟩)
      next => cases next.symm.trans overdue
      next => cases next.symm.trans takes
  | overdue =>
    have nothing : opened.link.gained = [] := Transcript.gained_of_untaken (by simp [next])
    exact .stranded (.untaken next) (by simp [Channel.written, nothing])

/-- The connection that a fetch opens: a host was found for the target, and it was reached. -/
structure Opened (resolver : Resolver) (network : Network Transcript) (config : ChannelConfig)
    (target : Target) (script : Transcript) : Prop where
  nonzero : config.recvCapacity ≠ 0
  reached : ∃ address own peer,
    (Net.resolve resolver target.host target.service).outcome = .ok address ∧
      network address = .connected script own peer

variable {resolver : Resolver} {network : Network Transcript} {config : ChannelConfig}
  {target : Target} {sink : ω}

theorem fetch_met {script : Transcript} (opened : Opened resolver network config target script)
    (below : config.recvCapacity.toNat < Pipe.capacityLimit) (ready : outlet.ready sink) :
    Met outlet config.readLimit script sink (fetch resolver network config target sink).outcome
      (fetch resolver network config target sink).sink := by
  obtain ⟨address, own, peer, resolved, reached⟩ := opened.reached
  have connected := Channel.connect_eq_done_iff.mpr
    ⟨opened.nonzero, below, _, _, _, reached, rfl⟩
  have positive : 0 < config.recvCapacity.toNat := by
    rw [Nat.pos_iff_ne_zero, ne_eq, ← UInt64.toNat_zero, UInt64.toNat_inj]
    exact opened.nonzero
  unfold fetch
  simp only [resolved, connected]
  exact exchange_met positive target (Channel.fresh_settled config script own peer) rfl rfl rfl ready

theorem fetch_unopened (unopened : ∀ script, ¬ Opened resolver network config target script) :
    ∃ error, (fetch resolver network config target sink).outcome = .failed error ∧
      (fetch resolver network config target sink).sink = sink := by
  unfold fetch
  rcases resolved : (Net.resolve resolver target.host target.service).outcome with error | address
  next => simp [resolved]
  next =>
    have refused : ∃ error, Channel.connect network address config = .failed error := by
      by_cases zero : config.recvCapacity = 0
      next => exact ⟨_, if_pos zero⟩
      next =>
        rw [Channel.connect, if_neg zero]
        -- Had the call been answered, a connection would be open.
        rcases reached : network address with ⟨script, own, peer⟩ | fault | _
        next => exact (unopened script ⟨zero, _, _, _, resolved, reached⟩).elim
        next => exact ⟨_, rfl⟩
        next => exact ⟨_, rfl⟩
    obtain ⟨error, refused⟩ := refused
    simp [resolved, refused]

theorem fetch_cases (below : config.recvCapacity.toNat < Pipe.capacityLimit)
    (ready : outlet.ready sink) :
    (∃ script, Opened resolver network config target script ∧
        Met outlet config.readLimit script sink (fetch resolver network config target sink).outcome
          (fetch resolver network config target sink).sink) ∨
      (∀ script, ¬ Opened resolver network config target script) ∧
        ∃ error, (fetch resolver network config target sink).outcome = .failed error ∧
          (fetch resolver network config target sink).sink = sink := by
  by_cases opened : ∃ script, Opened resolver network config target script
  next =>
    obtain ⟨script, opened⟩ := opened
    exact .inl ⟨script, opened, fetch_met opened below ready⟩
  next =>
    have unopened := not_exists.mp opened
    exact .inr ⟨unopened, fetch_unopened unopened⟩

theorem fetch_done_iff (below : config.recvCapacity.toNat < Pipe.capacityLimit)
    (ready : outlet.ready sink) :
    (∃ copied, (fetch resolver network config target sink).outcome = .done copied) ↔
      ∃ script, Opened resolver network config target script ∧ script.Serves := by
  constructor
  next =>
    rintro ⟨copied, done⟩
    rcases fetch_cases below ready with ⟨script, opened, met⟩ | ⟨-, error, failed, -⟩
    next => exact ⟨script, opened, ((met.done_iff copied).mp done).1⟩
    next => cases done.symm.trans failed
  next =>
    rintro ⟨script, opened, serves⟩
    exact ⟨_, ((fetch_met opened below ready).done_iff _).mpr ⟨serves, rfl⟩⟩

theorem fetch_stalled_iff (below : config.recvCapacity.toNat < Pipe.capacityLimit)
    (ready : outlet.ready sink) :
    (fetch resolver network config target sink).outcome = .stalled ↔
      ∃ script, Opened resolver network config target script ∧
        script.Strands config.readLimit := by
  constructor
  next =>
    intro stalled
    rcases fetch_cases below ready with ⟨script, opened, met⟩ | ⟨-, error, failed, -⟩
    next => exact ⟨script, opened, met.stalled_iff.mp stalled⟩
    next => cases stalled.symm.trans failed
  next =>
    rintro ⟨script, opened, strands⟩
    exact (fetch_met opened below ready).stalled_iff.mpr strands

theorem fetch_unbroken (below : config.recvCapacity.toNat < Pipe.capacityLimit)
    (ready : outlet.ready sink) (message : String) :
    (fetch resolver network config target sink).outcome ≠ .crashed message := by
  rcases fetch_cases below ready with ⟨script, opened, met⟩ | ⟨-, error, failed, -⟩
  next => exact met.unbroken message
  next => simp [failed]

end Fetch

end Conduit
