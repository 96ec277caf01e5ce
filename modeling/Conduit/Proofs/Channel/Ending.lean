import Conduit.Proofs.Channel.Exchanges
set_option autoImplicit false

namespace Conduit.Channel

variable {channel : Channel Transcript} {capacity : Nat}

theorem Settled.atEnd_eq (settled : channel.Settled capacity) :
    channel.atEnd = channel.inbound.ended := by
  simp [atEnd, Pipe.atEnd, Pipe.isEmpty, settled.nothing]

def Receives : Exchange → Prop
  | .received _ _ => True
  | _ => False

theorem act_advances_of_ended (positive : 0 < capacity) (settled : channel.Settled capacity)
    (ended : channel.inbound.ended = true) (action : Action) :
    Advances (fun exchange => ¬ Receives exchange) channel (channel.act action).2 := by
  have advances := act_advances positive settled action
  cases action with
  | read =>
    -- The only action that may ask for input finds no need to.
    show Advances _ channel channel.read.2
    rw [read_of_ended settled ended]
    exact .refl channel
  | write | shutdown | close =>
    refine advances.mono fun exchange asked => ?_
    cases exchange <;> simp_all [Action.Asks, Receives]

theorem run_of_ended (positive : 0 < capacity) (settled : channel.Settled capacity)
    (ended : channel.inbound.ended = true) (later : List Action) :
    ((channel.lastOf (channel.run later)).Settled capacity ∧
        (channel.lastOf (channel.run later)).inbound.ended = true) ∧
      Advances (fun exchange => ¬ Receives exchange) channel
        (channel.lastOf (channel.run later)) := by
  refine run_advances (P := fun channel => channel.Settled capacity ∧ channel.inbound.ended = true)
    ?_ ⟨settled, ended⟩ later
  intro channel action holds
  have advances := act_advances_of_ended positive holds.1 holds.2 action
  refine ⟨⟨holds.1.act action, ?_⟩, advances⟩
  obtain ⟨_, _, _, ends⟩ := advances
  exact ends.mpr (.inl holds.2)

theorem eq_fresh_of_connected {network : Network Transcript} {address : Net.Address}
    {config : ChannelConfig} {script : Transcript} {own peer : Net.Address}
    (reached : network address = .connected script own peer)
    (connected : connect network address config = .done channel) :
    0 < config.recvCapacity.toNat ∧ channel = fresh config script own peer := by
  obtain ⟨nonzero, -, _, _, _, same, rfl⟩ := connect_eq_done_iff.mp connected
  cases reached.symm.trans same
  refine ⟨?_, rfl⟩
  rw [Nat.pos_iff_ne_zero]
  exact fun none => nonzero (UInt64.toNat_inj.mp none)

theorem run_from_fresh (config : ChannelConfig) (script : Transcript) (own peer : Net.Address)
    (positive : 0 < config.recvCapacity.toNat) (actions : List Action) :
    let last := (fresh config script own peer).lastOf ((fresh config script own peer).run actions)
    last.Settled config.recvCapacity.toNat ∧
      Advances (fun exchange => ∃ action : Action, action.Asks exchange)
        (fresh config script own peer) last := by
  refine run_advances (P := fun channel => channel.Settled config.recvCapacity.toNat) ?_
    (fresh_settled config script own peer) actions
  intro channel action settled
  exact ⟨settled.act action,
    (act_advances positive settled action).mono fun exchange asked => ⟨action, asked⟩⟩

theorem read_eq_nil_iff (settled : channel.Settled capacity) {data : Bytes}
    (done : channel.read.1 = .done data) : data = [] ↔ channel.read.2.atEnd = true := by
  have reading := settled.reading
  rw [(reading.settled settled).atEnd_eq]
  generalize channel.read.1 = outcome, channel.read.2 = after at reading done
  cases reading with
  | idle ended =>
    cases done
    simpa using ended
  | ended link going came =>
    cases done
    simp [Pipe.finish]
  | arrived data link going came something fits =>
    cases done
    simp [something, going]
  | failed | timedOut | stalled => cases done

/-- What a channel tells about the end of its input, and for how long that holds. -/
structure Truthful (channel : Channel Transcript) : Prop where
  ended_iff : channel.inbound.ended = true ↔ ∃ exchange ∈ channel.link.log, exchange.EndsInput
  room_pos : ∀ room arrival, Exchange.received room arrival ∈ channel.link.log → 0 < room
  act_advances : ∀ action : Action, Advances action.Asks channel (channel.act action).2
  read_eq_nil_iff : ∀ data, channel.read.1 = .done data →
    (data = [] ↔ channel.read.2.atEnd = true)
  atEnd_lasts : channel.atEnd = true → ∀ later : List Action,
    (channel.lastOf (channel.run later)).atEnd = true ∧
      (channel.lastOf (channel.run later)).read = (.done [], channel.lastOf (channel.run later)) ∧
      ∃ asked, (channel.lastOf (channel.run later)).link.log = channel.link.log ++ asked ∧
        ∀ exchange ∈ asked, ¬ Receives exchange

/-- At any time of any run, the end of the input is told after a real end and only then, no read asks
for nothing, and a channel at the end stays there and reads no more. -/
theorem connect_run_truthful {network : Network Transcript} {address : Net.Address}
    {config : ChannelConfig} {script : Transcript} {own peer : Net.Address}
    {channel : Channel Transcript} (reached : network address = .connected script own peer)
    (unasked : script.log = []) (connected : connect network address config = .done channel)
    (earlier : List Action) : Truthful (channel.lastOf (channel.run earlier)) := by
  obtain ⟨positive, rfl⟩ := eq_fresh_of_connected reached connected
  have ⟨settled, asked, log, fine, ended⟩ :=
    run_from_fresh config script own peer positive earlier
  generalize (fresh config script own peer).lastOf ((fresh config script own peer).run earlier) =
    channel at settled log ended
  -- The channel started with an empty log, so its log is what was asked on the way.
  have log : channel.link.log = asked := by rw [log, fresh, unasked, List.nil_append]
  constructor
  case ended_iff => simp [log, ended, fresh, Pipe.empty]
  case room_pos =>
    intro room arrival there
    rw [log] at there
    obtain ⟨action, asks⟩ := fine _ there
    cases action with
    | read => exact asks
    | write | shutdown | close => exact asks.elim
  case act_advances => exact act_advances positive settled
  case read_eq_nil_iff => exact fun data done => read_eq_nil_iff settled done
  case atEnd_lasts =>
    intro atEnd later
    rw [settled.atEnd_eq] at atEnd
    obtain ⟨⟨settled, ended⟩, asked, log, fine, -⟩ := run_of_ended positive settled atEnd later
    exact ⟨settled.atEnd_eq.trans ended, read_of_ended settled ended, asked, log, fine⟩

def scripted (script : Transcript) : Network Transcript :=
  fun _ => .connected script (Net.loopback 40000) (Net.loopback 80)

theorem connect_scripted (script : Transcript) (address : Net.Address) (config : ChannelConfig)
    (positive : config.recvCapacity ≠ 0)
    (below : config.recvCapacity.toNat < Pipe.capacityLimit) :
    connect (scripted script) address config =
      .done (fresh config script (Net.loopback 40000) (Net.loopback 80)) :=
  connect_eq_done_iff.mpr ⟨positive, below, script, _, _, rfl, rfl⟩

-- Closing fails before the peer ends, and a whole arrival takes two reads.
def ending : Transcript :=
  { Transcript.blank with
    arrivals := [.bytes [1, 2, 3], .failed (.plain .interrupted), .bytes [], .bytes [4]]
    receivingEnds := [.error (.plain .brokenPipe)] }

theorem connect_run_ending :
    ending.log = [] ∧ ∃ channel,
      connect (scripted ending) (Net.loopback 80) (ChannelConfig.default.withRecvCapacity 2) =
        .done channel ∧
      (channel.run [.read, .shutdown .read, .read, .read, .read]).map (·.2.atEnd) =
        [false, false, false, false, true] ∧
      Truthful (channel.lastOf (channel.run [.read, .shutdown .read, .read, .read, .read])) := by
  have connected := connect_scripted ending (Net.loopback 80)
    (ChannelConfig.default.withRecvCapacity 2) (by decide) (by decide)
  exact ⟨rfl, _, connected, by decide, connect_run_truthful rfl rfl connected _⟩

end Conduit.Channel
