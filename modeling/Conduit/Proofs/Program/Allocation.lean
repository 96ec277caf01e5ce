import Conduit.Proofs.Channel.Documents
import Conduit.Proofs.Program.Contract
import Conduit.Proofs.Program.Precedence
set_option autoImplicit false

namespace Conduit

open Net (Address Resolver TransportError)

theorem ChannelConfig.ofToml_fits {text : String} {config : ChannelConfig}
    (valid : ofToml text = .ok config) : config.recvCapacity.toNat < Pipe.capacityLimit := by
  obtain ⟨entries, -, configures⟩ := ofToml_eq_ok_iff.mp valid
  by_cases listed : Setting.recvCapacity.name ∈ entries.names
  next =>
    rw [Toml.Entries.names_eq] at listed
    obtain ⟨⟨name, node⟩, among, rfl⟩ := List.mem_map.mp listed
    obtain ⟨setting, value, named, rfl, -, highest⟩ := configures.known _ _ among
    cases Setting.name_inj.mp named
    obtain ⟨number, has, whole⟩ := configures.present _ _ among
    cases Option.some.inj has
    rw [Toml.highestInteger] at highest
    rw [Pipe.capacityLimit]
    omega
  next =>
    have kept := Option.some.inj (configures.absent .recvCapacity listed)
    rw [kept]
    decide

namespace Fetch

variable {ω : Type} [Sink ω] {outlet : OpenSink ω} {resolver : Resolver}
  {network : Network Transcript} {config : ChannelConfig} {target : Target} {sink : ω}

theorem fetch_of_excess {script : Transcript}
    (opened : Opened resolver network config target script)
    (excess : Pipe.capacityLimit ≤ config.recvCapacity.toNat) :
    (fetch resolver network config target sink).outcome = .crashed "capacity overflow" ∧
      (fetch resolver network config target sink).sink = sink := by
  obtain ⟨address, own, peer, resolved, reached⟩ := opened.reached
  have broken := Channel.connect_eq_crashed_iff.mpr ⟨rfl, excess, script, own, peer, reached⟩
  unfold fetch
  simp [resolved, broken]

theorem fetch_crashed_iff (ready : outlet.ready sink) {message : String} :
    (fetch resolver network config target sink).outcome = .crashed message ↔
      message = "capacity overflow" ∧ Pipe.capacityLimit ≤ config.recvCapacity.toNat ∧
        ∃ script, Opened resolver network config target script := by
  by_cases fits : config.recvCapacity.toNat < Pipe.capacityLimit
  next => simp [fetch_unbroken fits ready, Nat.not_le.mpr fits]
  next =>
    have excess := Nat.not_lt.mp fits
    by_cases opened : ∃ script, Opened resolver network config target script
    next =>
      obtain ⟨script, opened⟩ := opened
      rw [(fetch_of_excess opened excess).1, Outcome.crashed.injEq, eq_comm]
      exact ⟨fun same => ⟨same, excess, script, opened⟩, And.left⟩
    next =>
      have unopened : ∃ error, (fetch resolver network config target sink).outcome = .failed error ∧
          (fetch resolver network config target sink).sink = sink :=
        fetch_unopened (not_exists.mp opened)
      obtain ⟨error, failed, -⟩ := unopened
      simp [failed, opened]

end Fetch

namespace Program

variable {surroundings : Surroundings Transcript} {words : List String} {line : CommandLine}
  {config : ChannelConfig}

theorem breaks_reported_iff {records : String} {report : Fetch.Report Transcript BoundedSink} :
    (reported line records report).exitCode = some crashCode ↔
      ∃ message, report.outcome = .crashed message := by
  unfold reported
  cases report.outcome <;> simp [crashCode]

theorem recvCapacity_of_excess {files : FileReader}
    (settled : line.channelConfig files = .ok config)
    (excess : Pipe.capacityLimit ≤ config.recvCapacity.toNat) :
    line.recvCapacity = some config.recvCapacity := by
  obtain ⟨base, found, rfl⟩ := Toml.map_eq_ok settled
  have laid := value?_changes line base .recvCapacity
  cases given : line.recvCapacity with
  | some capacity =>
    rw [CommandLine.number?, given] at laid
    exact laid.symm
  | none =>
    rw [CommandLine.number?, given] at laid
    have kept : (line.changes.foldl ConfigChange.apply base).recvCapacity = base.recvCapacity :=
      Option.some.inj laid
    have fits : base.recvCapacity.toNat < Pipe.capacityLimit := by
      rw [baseConfig_eq_ok_iff] at found
      cases named : line.config with
      | none =>
        rw [named] at found
        rw [found]
        decide
      | some path =>
        rw [named] at found
        obtain ⟨text, -, valid⟩ := found
        exact ChannelConfig.ofToml_fits valid
    rw [kept] at excess
    exact absurd fits (Nat.not_lt.mpr excess)

/-- What the capacity of a configuration makes of connecting and of the run. -/
structure Allocation (surroundings : Surroundings Transcript) (words : List String)
    (line : CommandLine) (config : ChannelConfig) : Prop where
  zero : config.recvCapacity = 0 →
    (∀ (network : Network Transcript) (address : Address), Channel.connect network address config =
        .failed (.invalidConfig Channel.zeroCapacityReason)) ∧
      (run surroundings words).exitCode = some 1 ∧
      ∃ rest, (run surroundings words).complaint = "webget: " ++ rest
  fits : config.recvCapacity.toNat < Pipe.capacityLimit →
    ∀ (network : Network Transcript) (address : Address),
      (∃ channel, Channel.connect network address config = .done channel) ∨
        ∃ error, Channel.connect network address config = .failed error
  excess_iff (network : Network Transcript) (address : Address) (message : String) :
    Channel.connect network address config = .crashed message ↔
      message = "capacity overflow" ∧ Pipe.capacityLimit ≤ config.recvCapacity.toNat ∧
        ∃ script own peer, network address = .connected script own peer
  option_eq : Pipe.capacityLimit ≤ config.recvCapacity.toNat →
    line.recvCapacity = some config.recvCapacity
  breaks_iff : (run surroundings words).exitCode = some crashCode ↔
    Pipe.capacityLimit ≤ config.recvCapacity.toNat ∧
      ∃ script, Reaches surroundings line config script
  broken : (run surroundings words).exitCode = some crashCode →
    (run surroundings words).output = [] ∧
      (run surroundings words).complaint = crashText "capacity overflow"

theorem Started.allocation (started : Started surroundings words line)
    (settled : line.channelConfig surroundings.files = .ok config) :
    Allocation surroundings words line config := by
  obtain ⟨filter, logged⟩ := Option.isSome_iff_exists.mp started.logged
  have same : run surroundings words =
      reported line (surroundings.records filter line (surroundings.fetch line config))
        (surroundings.fetch line config) := by
    rw [started.run_eq logged, settled]
  have crashed_iff (message : String) :
      (surroundings.fetch line config).outcome = .crashed message ↔
        message = "capacity overflow" ∧ Pipe.capacityLimit ≤ config.recvCapacity.toNat ∧
          ∃ script, Reaches surroundings line config script := by
    rw [Surroundings.fetch, Fetch.fetch_crashed_iff ready_unbounded]
    have reaches_iff (script : Transcript) : Reaches surroundings line config script ↔
        Fetch.Opened surroundings.resolver surroundings.network config line.target script :=
      ⟨Reaches.opened, fun opened => ⟨settled, opened⟩⟩
    simp only [reaches_iff]
  constructor
  case zero =>
    intro zero
    have unopened (script : Transcript) :
        ¬ Fetch.Opened surroundings.resolver surroundings.network config line.target script :=
      fun opened => opened.nonzero zero
    have failed : ∃ error, (surroundings.fetch line config).outcome = .failed error ∧
        (surroundings.fetch line config).sink = .unbounded := Fetch.fetch_unopened unopened
    obtain ⟨error, failed, -⟩ := failed
    refine ⟨fun _ _ => if_pos zero, ?_⟩
    rw [same]
    exact complains_reported failed
  case fits => exact fun fits network address => Channel.connect_of_fits fits
  case excess_iff => exact fun network address message => Channel.connect_eq_crashed_iff
  case option_eq => exact recvCapacity_of_excess settled
  case breaks_iff => simp [same, breaks_reported_iff, crashed_iff]
  case broken =>
    rw [same, breaks_reported_iff]
    rintro ⟨message, crashed⟩
    obtain ⟨rfl, excess, script, reaches⟩ := (crashed_iff message).mp crashed
    have kept : (surroundings.fetch line config).sink = .unbounded :=
      (Fetch.fetch_of_excess reaches.opened excess).2
    refine ⟨by rw [output_reported, kept]; rfl, ?_⟩
    rw [reported, crashed]

theorem exists_settled (surroundings : Surroundings Transcript) (capacity : UInt64) :
    ∃ environment words line config,
      Started { surroundings with environment, threads := fun _ => true } words line ∧
      line.channelConfig surroundings.files = .ok config ∧ config.recvCapacity = capacity := by
  obtain ⟨line, parsed, flags_eq⟩ := @parse_written { Given.nothing with recvCapacity := some capacity }
    .nothing nofun nofun
  obtain ⟨flags, layered⟩ := channelConfig_layered parsed surroundings.files
  cases flags_eq.symm.trans layered.flags_eq
  have unnamed : line.config = none := layered.config_eq
  obtain ⟨config, settled⟩ := layered.succeeds_iff.mpr (by simp [unnamed])
  have capacity_eq := layered.value?_eq config .recvCapacity settled
  exact ⟨_, _, line, config, ⟨rfl, parsed, rfl⟩, settled, Option.some.inj capacity_eq⟩

/-- A run breaks off over the capacity exactly if a connection was opened for more than a pipe can hold. -/
theorem run_allocation (surroundings : Surroundings Transcript) :
    (∀ words line config, Started surroundings words line →
      line.channelConfig surroundings.files = .ok config →
        Allocation surroundings words line config) ∧
    ∀ capacity, ∃ environment words line config,
      Started { surroundings with environment, threads := fun _ => true } words line ∧
        line.channelConfig surroundings.files = .ok config ∧ config.recvCapacity = capacity :=
  ⟨fun _ _ _ started settled => started.allocation settled, exists_settled surroundings⟩

def vastWords : List String :=
  ["127.0.0.1", "/", "--service", "80", "--recv-capacity=9223372036854775808"]

def vastLine : CommandLine :=
  ⟨"127.0.0.1", "/", "80", none, none, none, some 9223372036854775808⟩

def vast : ChannelConfig := ChannelConfig.default.withRecvCapacity 9223372036854775808

theorem started_vast (script : Transcript) :
    Started (among bare script) vastWords vastLine := ⟨rfl, rfl, rfl⟩

theorem run_vast :
    Started (among bare .blank) vastWords vastLine ∧
      vastLine.channelConfig (among bare .blank).files = .ok vast ∧
      Allocation (among bare .blank) vastWords vastLine vast :=
  ⟨started_vast .blank, rfl, (run_allocation _).1 _ _ _ (started_vast .blank) rfl⟩

/-- The configuration of a command line is such that a connection is opened and then breaks the program off. -/
theorem run_vast_breaks :
    vastLine.channelConfig (among bare .blank).files = .ok vast ∧
      Channel.connect (Channel.scripted .blank) (Net.loopback 80) vast =
        .crashed "capacity overflow" ∧
      (run (among bare .blank) vastWords).exitCode = some 101 := by
  refine ⟨rfl, ?_, by decide +kernel⟩
  exact Channel.connect_eq_crashed_iff.mpr ⟨rfl, by decide, _, _, _, rfl⟩

end Program

end Conduit
