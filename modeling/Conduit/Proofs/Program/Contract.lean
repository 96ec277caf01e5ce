import Conduit.Channel.Transcript
import Conduit.Program.Run
import Conduit.Proofs.Channel.Ending
import Conduit.Proofs.Fetch.Response
import Mathlib
set_option autoImplicit false

namespace Conduit.Program

open Fetch (FetchError Opened Report)
open Net (Resolver)
open Transcript (spoken)

def CommandLine.target (line : CommandLine) : Fetch.Target := ⟨line.host, line.path, line.service⟩

def Surroundings.fetch (surroundings : Surroundings Transcript) (line : CommandLine)
    (config : ChannelConfig) : Report Transcript BoundedSink :=
  Fetch.fetch surroundings.resolver surroundings.network config line.target .unbounded

theorem chain_starts (texts : List String) : ∃ rest, chain texts = "webget: " ++ rest :=
  ⟨": ".intercalate texts ++ "\n", String.append_assoc⟩

section Reported

variable {line : CommandLine} {records : String} {report : Report Transcript BoundedSink}

theorem output_reported : (reported line records report).output = report.sink.taken := by
  unfold reported
  cases report.outcome <;> rfl

theorem records_reported : (reported line records report).records = records := by
  unfold reported
  cases report.outcome <;> rfl

theorem succeeds_reported_iff :
    (reported line records report).exitCode = some 0 ↔ ∃ copied, report.outcome = .done copied := by
  unfold reported
  cases report.outcome <;> simp [crashCode]

theorem waits_reported_iff :
    (reported line records report).exitCode = none ↔ report.outcome = .stalled := by
  unfold reported
  cases report.outcome <;> simp

theorem complains_reported {error : FetchError} (failed : report.outcome = .failed error) :
    (reported line records report).exitCode = some 1 ∧
      ∃ rest, (reported line records report).complaint = "webget: " ++ rest := by
  have starts := chain_starts (fetchContext line :: FetchError.chain error)
  unfold reported
  rw [failed]
  exact ⟨rfl, starts⟩

end Reported

section

variable (surroundings : Surroundings Transcript) (words : List String) (line : CommandLine)

/-- The run writes no output and asks neither resolver nor network, whatever they would have said. -/
structure Aloof : Prop where
  output_eq : (run surroundings words).output = []
  fetched_eq : (run surroundings words).fetched = none
  indifferent (resolver : Resolver) (network : Network Transcript) :
    run { surroundings with resolver, network } words = run surroundings words

/-- What the environment asks for: no number of threads, or a positive one. -/
inductive Asks : Option Nat → Prop
  | unset (missing : surroundings.environment Surroundings.workersVariable = none) : Asks none
  | number (text : String) (count : Nat)
      (set : surroundings.environment Surroundings.workersVariable = some text)
      (read : Text.unsigned? UInt64.size text = some count) (positive : 0 < count) : Asks (some count)

structure Started : Prop where
  staffed : surroundings.startWorkers = .ok ()
  parsed : CommandLine.parse words surroundings.environment = .ok line
  logged : (LogFilter.ofVariable (surroundings.environment LogFilter.variableName)).isSome

structure Reaches (config : ChannelConfig) (script : Transcript) : Prop where
  settled : line.channelConfig surroundings.files = .ok config
  opened : Opened surroundings.resolver surroundings.network config line.target script

structure Conduct : Prop where
  unsettled (error : SettingsError) :
    line.channelConfig surroundings.files = .error error →
      (run surroundings words).exitCode = some 1 ∧ (run surroundings words).records = "" ∧
        Aloof surroundings words
  succeeds_iff : (run surroundings words).exitCode = some 0 ↔ ∃ config copied,
    line.channelConfig surroundings.files = .ok config ∧
      (surroundings.fetch line config).outcome = .done copied
  served_iff : (run surroundings words).exitCode = some 0 ↔ ∃ config script,
    Reaches surroundings line config script ∧ script.Serves
  waits_iff : (run surroundings words).exitCode = none ↔ ∃ config script,
    Reaches surroundings line config script ∧ script.Strands config.readLimit
  complains : (run surroundings words).exitCode ≠ some 0 → (run surroundings words).exitCode ≠ none →
    (run surroundings words).exitCode = some 1 ∧ ∃ rest, (run surroundings words).errorOutput =
      (run surroundings words).records ++ ("webget: " ++ rest)
  unresolved (error : Net.TransportError) :
    (Net.resolve surroundings.resolver line.host line.service).outcome = .error error →
      (run surroundings words).records = ""
  hushed (filter : LogFilter) :
    LogFilter.ofVariable (surroundings.environment LogFilter.variableName) = some filter →
      filter.isGrave → (run surroundings words).records = ""
  output_eq : (run surroundings words).exitCode = some 0 → ∃ config script,
    Reaches surroundings line config script ∧
      (run surroundings words).output = spoken script.arrivals
  output_prefix (config : ChannelConfig) (script : Transcript) :
    Reaches surroundings line config script →
      (run surroundings words).output <+: spoken script.arrivals
  unreached : (∀ config script, ¬ Reaches surroundings line config script) →
    (run surroundings words).output = []

structure Contract : Prop where
  unstaffed : (∀ asked, ¬ Asks surroundings asked) →
    (run surroundings words).exitCode = some 101 ∧ Aloof surroundings words
  staffed_iff : surroundings.startWorkers = .ok () ↔
    ∃ asked, Asks surroundings asked ∧ surroundings.threads asked
  refused (refusal : Refusal) :
    surroundings.startWorkers = .ok () →
      CommandLine.parse words surroundings.environment = .error refusal →
        refusal ≠ .help → refusal ≠ .version →
          (run surroundings words).exitCode = some 2 ∧ Aloof surroundings words
  started (line : CommandLine) : Started surroundings words line → Conduct surroundings words line

end

variable {surroundings : Surroundings Transcript} {words : List String} {line : CommandLine}

theorem aloof_of_eq {result : Run Transcript} (silent : result.output = [])
    (unfetched : result.fetched = none)
    (same : ∀ resolver network, run { surroundings with resolver, network } words = result) :
    Aloof surroundings words := by
  have here : run surroundings words = result := same surroundings.resolver surroundings.network
  constructor
  case output_eq => rw [here, silent]
  case fetched_eq => rw [here, unfetched]
  case indifferent =>
    intro resolver network
    rw [here, same]

theorem run_of_unstaffed {reason : String} (unstaffed : surroundings.startWorkers = .error reason) :
    run surroundings words = brokenOff reason := by
  rw [run, unstaffed]

theorem run_of_refused {refusal : Refusal} (staffed : surroundings.startWorkers = .ok ())
    (unread : CommandLine.parse words surroundings.environment = .error refusal) :
    run surroundings words = refused refusal := by
  rw [run, staffed]
  show staffedRun surroundings words = refused refusal
  rw [staffedRun, unread]

theorem Started.run_eq (started : Started surroundings words line) {filter : LogFilter}
    (logged : LogFilter.ofVariable (surroundings.environment LogFilter.variableName) = some filter) :
    run surroundings words =
      match line.channelConfig surroundings.files with
      | .error error => failedSettings error
      | .ok config =>
          reported line (surroundings.records filter line (surroundings.fetch line config))
            (surroundings.fetch line config) := by
  rw [run, started.staffed]
  show staffedRun surroundings words = _
  rw [staffedRun, started.parsed]
  simp only [logged]
  rfl

theorem workers_eq_ok_iff {asked : Option Nat} :
    surroundings.workers = .ok asked ↔ Asks surroundings asked := by
  constructor
  next =>
    intro ok
    unfold Surroundings.workers at ok
    split at ok
    next missing =>
      cases ok
      exact .unset missing
    next text set =>
      split at ok
      next => cases ok
      next => cases ok
      next count nonzero read =>
        cases ok
        exact .number text count set read (Nat.pos_of_ne_zero nonzero)
  next =>
    rintro (missing | ⟨text, count, set, read, positive⟩)
    next => rw [Surroundings.workers, missing]
    next =>
      obtain ⟨count, rfl⟩ := Nat.exists_eq_succ_of_ne_zero (Nat.ne_of_gt positive)
      rw [Surroundings.workers, set]
      simp only [read]

theorem startWorkers_eq_ok_iff : surroundings.startWorkers = .ok () ↔
    ∃ asked, Asks surroundings asked ∧ surroundings.threads asked := by
  simp only [← workers_eq_ok_iff, Surroundings.startWorkers]
  cases surroundings.workers with
  | error reason => simp [bind, Except.bind]
  | ok asked => simp [bind, Except.bind]

theorem aloof_of_unstaffed {reason : String}
    (unstaffed : surroundings.startWorkers = .error reason) :
    (run surroundings words).exitCode = some 101 ∧ Aloof surroundings words := by
  constructor
  case left => rw [run_of_unstaffed unstaffed]; rfl
  case right => exact aloof_of_eq rfl rfl fun _ _ => run_of_unstaffed unstaffed

theorem aloof_of_refused {refusal : Refusal} (staffed : surroundings.startWorkers = .ok ())
    (unread : CommandLine.parse words surroundings.environment = .error refusal)
    (unhelped : refusal ≠ .help) (unversioned : refusal ≠ .version) :
    (run surroundings words).exitCode = some 2 ∧ Aloof surroundings words := by
  have usage : refusal.exitCode = 2 ∧ (Refusal.texts refusal).1 = "" := by
    cases refusal with
    | help => exact absurd rfl unhelped
    | version => exact absurd rfl unversioned
    | missingArgument | unknownArgument | missingValue | invalidNumber | repeated
    | unwantedValue => exact ⟨rfl, rfl⟩
  -- What help and version write goes to the output; every other refusal only complains.
  have silent : (refused refusal : Run Transcript).output = [] := by
    rw [refused, usage.2]
    show "".toUTF8.toList = []
    decide +kernel
  constructor
  case left => rw [run_of_refused staffed unread, refused, usage.1]
  case right => exact aloof_of_eq silent rfl fun _ _ => run_of_refused staffed unread

theorem Started.run_of_unsettled (started : Started surroundings words line) {error : SettingsError}
    (unsettled : line.channelConfig surroundings.files = .error error) :
    run surroundings words = failedSettings error := by
  obtain ⟨filter, logged⟩ := Option.isSome_iff_exists.mp started.logged
  rw [started.run_eq logged, unsettled]

theorem Started.aloof (started : Started surroundings words line) {error : SettingsError}
    (unsettled : line.channelConfig surroundings.files = .error error) :
    Aloof surroundings words := by
  have same (resolver : Resolver) (network : Network Transcript) :
      run { surroundings with resolver, network } words = failedSettings error := by
    have started : Started { surroundings with resolver, network } words line :=
      ⟨started.staffed, started.parsed, started.logged⟩
    exact started.run_of_unsettled unsettled
  exact aloof_of_eq rfl rfl same

theorem ready_unbounded : BoundedSink.outlet.ready .unbounded := ⟨rfl, by decide, rfl⟩

theorem conduct_of_unsettled (started : Started surroundings words line) {error : SettingsError}
    (unsettled : line.channelConfig surroundings.files = .error error) :
    Conduct surroundings words line := by
  have same : run surroundings words = failedSettings error := started.run_of_unsettled unsettled
  have unreached (config : ChannelConfig) (script : Transcript) :
      ¬ Reaches surroundings line config script := by
    intro reaches
    cases unsettled.symm.trans reaches.settled
  have aloof := started.aloof unsettled
  constructor
  case unsettled =>
    intro _ _
    exact ⟨by rw [same, failedSettings], by rw [same, failedSettings], aloof⟩
  case succeeds_iff => simp [same, failedSettings, unsettled]
  case served_iff => simp [same, failedSettings, unreached]
  case waits_iff => simp [same, failedSettings, unreached]
  case complains =>
    obtain ⟨rest, starts⟩ := chain_starts (SettingsError.chain error)
    rw [same]
    exact fun _ _ => ⟨rfl, rest, congrArg ("" ++ ·) starts⟩
  case unresolved => exact fun _ _ => by rw [same, failedSettings]
  case hushed => exact fun _ _ _ => by rw [same, failedSettings]
  case output_eq => simp [same, failedSettings]
  case output_prefix => exact fun config script reaches => absurd reaches (unreached config script)
  case unreached => exact fun _ => aloof.output_eq

theorem exists_reaches_iff {config : ChannelConfig}
    (settled : line.channelConfig surroundings.files = .ok config)
    (P : ChannelConfig → Transcript → Prop) :
    (∃ other script, Reaches surroundings line other script ∧ P other script) ↔
      ∃ script, Opened surroundings.resolver surroundings.network config line.target script ∧
        P config script := by
  constructor
  next =>
    rintro ⟨other, script, reaches, holds⟩
    cases settled.symm.trans reaches.settled
    exact ⟨script, reaches.opened, holds⟩
  next =>
    rintro ⟨script, opened, holds⟩
    exact ⟨config, script, ⟨settled, opened⟩, holds⟩

theorem conduct_of_settled (started : Started surroundings words line) {config : ChannelConfig}
    (settled : line.channelConfig surroundings.files = .ok config)
    (below : config.recvCapacity.toNat < Pipe.capacityLimit) :
    Conduct surroundings words line := by
  obtain ⟨filter, logged⟩ := Option.isSome_iff_exists.mp started.logged
  have same : run surroundings words =
      reported line (surroundings.records filter line (surroundings.fetch line config))
        (surroundings.fetch line config) := by
    rw [started.run_eq logged, settled]
  have served_iff : (run surroundings words).exitCode = some 0 ↔ ∃ config script,
      Reaches surroundings line config script ∧ script.Serves := by
    rw [same, succeeds_reported_iff, Surroundings.fetch, Fetch.fetch_done_iff below ready_unbounded]
    exact (exists_reaches_iff settled fun _ script => script.Serves).symm
  have output_eq (other : ChannelConfig) (script : Transcript)
      (reaches : Reaches surroundings line other script) :
      (run surroundings words).output = script.gained := by
    cases settled.symm.trans reaches.settled
    rw [same, output_reported]
    exact (Fetch.fetch_met reaches.opened below ready_unbounded).handed
  constructor
  case unsettled =>
    intro error unsettled
    cases settled.symm.trans unsettled
  case succeeds_iff =>
    rw [same, succeeds_reported_iff]
    simp [settled]
  case served_iff => exact served_iff
  case waits_iff =>
    rw [same, waits_reported_iff, Surroundings.fetch, Fetch.fetch_stalled_iff below ready_unbounded]
    exact (exists_reaches_iff settled fun config script => script.Strands config.readLimit).symm
  case complains =>
    rw [same, ne_eq, succeeds_reported_iff, ne_eq, waits_reported_iff]
    intro unfinished ending
    -- A pipe that can be allocated never breaks the run off.
    cases outcome : (surroundings.fetch line config).outcome with
    | done copied => exact absurd ⟨copied, outcome⟩ unfinished
    | failed error =>
      obtain ⟨code, rest, starts⟩ := complains_reported outcome
      exact ⟨code, rest, congrArg (_ ++ ·) starts⟩
    | stalled => exact absurd outcome ending
    | crashed message => exact absurd outcome (Fetch.fetch_unbroken below ready_unbounded message)
  case unresolved =>
    intro error unresolved
    rw [same, records_reported, Surroundings.records, unresolved]
  case hushed =>
    intro other read grave
    cases logged.symm.trans read
    rw [same, records_reported]
    unfold Surroundings.records
    split
    next => exact surroundings.journal.write_of_isGrave _ _ grave
    next => rfl
  case output_eq =>
    intro succeeds
    obtain ⟨other, script, reaches, serves⟩ := served_iff.mp succeeds
    exact ⟨other, script, reaches, (output_eq other script reaches).trans serves.gained_eq⟩
  case output_prefix =>
    intro other script reaches
    rw [output_eq other script reaches]
    exact script.gained_prefix
  case unreached =>
    intro unreached
    have failed : ∃ error, (surroundings.fetch line config).outcome = .failed error ∧
        (surroundings.fetch line config).sink = .unbounded :=
      Fetch.fetch_unopened fun script opened => unreached config script ⟨settled, opened⟩
    obtain ⟨error, -, kept⟩ := failed
    rw [same, output_reported]
    exact congrArg BoundedSink.taken kept

theorem run_contract (surroundings : Surroundings Transcript) (words : List String)
    (allocatable : ∀ line config,
      CommandLine.parse words surroundings.environment = .ok line →
        line.channelConfig surroundings.files = .ok config →
          config.recvCapacity.toNat < Pipe.capacityLimit) :
    Contract surroundings words := by
  constructor
  case unstaffed =>
    intro unasked
    cases workers : surroundings.startWorkers with
    | error reason => exact aloof_of_unstaffed workers
    | ok =>
      obtain ⟨asked, asks, -⟩ := startWorkers_eq_ok_iff.mp workers
      exact absurd asks (unasked asked)
  case staffed_iff => exact startWorkers_eq_ok_iff
  case refused => exact fun refusal staffed unread => aloof_of_refused staffed unread
  case started =>
    intro line started
    cases settled : line.channelConfig surroundings.files with
    | error error => exact conduct_of_unsettled started settled
    | ok config =>
      exact conduct_of_settled started settled (allocatable line config started.parsed settled)

def bare : Environment := fun _ => none

-- Without files and names; everyone who is called goes by the script.
def among (environment : Environment) (script : Transcript) : Surroundings Transcript :=
  { environment
    files := fun _ => .error (.system 2)
    resolver := fun _ => .ok []
    network := Channel.scripted script }

-- The connection is reset in the middle of the answer, which no read takes whole.
def cutShort : Transcript :=
  { Transcript.blank with
    arrivals := [.bytes [1, 2, 3], .failed (.system 104), .bytes [4], .bytes []] }

def cutWords : List String := ["127.0.0.1", "/", "--service", "80", "--recv-capacity=2"]

def cutLine : CommandLine := ⟨"127.0.0.1", "/", "80", none, none, none, some 2⟩

theorem run_cutShort :
    CommandLine.parse cutWords bare = .ok cutLine ∧
      (∀ line config, CommandLine.parse cutWords bare = .ok line →
        line.channelConfig (among bare cutShort).files = .ok config →
          config.recvCapacity.toNat < Pipe.capacityLimit) ∧
      Contract (among bare cutShort) cutWords ∧
      Started (among bare cutShort) cutWords cutLine ∧
      (run (among bare cutShort) cutWords).exitCode = some 1 ∧
      (run (among bare cutShort) cutWords).output = [1, 2, 3] := by
  have parsed : CommandLine.parse cutWords bare = .ok cutLine := rfl
  have allocatable (line : CommandLine) (config : ChannelConfig)
      (read : CommandLine.parse cutWords bare = .ok line)
      (settled : line.channelConfig (among bare cutShort).files = .ok config) :
      config.recvCapacity.toNat < Pipe.capacityLimit := by
    cases parsed.symm.trans read
    cases settled
    decide
  exact ⟨parsed, allocatable, run_contract _ _ allocatable, ⟨rfl, parsed, rfl⟩, by decide +kernel,
    by decide +kernel⟩

def plainWords : List String := ["127.0.0.1", "/", "--service", "80"]

def plainLine : CommandLine := ⟨"127.0.0.1", "/", "80", none, none, none, none⟩

def unmanned : Environment := fun name =>
  if name = Surroundings.workersVariable then some "0" else none

def choked : Transcript := { Transcript.blank with sendings := [.overdue] }

def limitedWords : List String := plainWords ++ ["--read-timeout-ms=5"]

-- The level for debugging, by its number.
def verbose : Environment := fun name =>
  if name = LogFilter.variableName then some "4" else none

def firstRecord : String :=
  "2026-01-01T00:00:00.000000Z DEBUG get_url\x7bhost=\"127.0.0.1\" path=\"/\" service=\"80\"\x7d: " ++
    "resolved endpoints host=\"127.0.0.1\" service=\"80\" count=1\n"

def jotting : Journal Transcript where
  write filter _ := if filter.isGrave then "" else firstRecord
  write_of_isGrave _ _ grave := if_pos grave

-- The host is found, and nobody answers there.
def deserted : Surroundings Transcript :=
  { among verbose .blank with
    network := fun _ => .failed (.system 111)
    journal := jotting }

theorem ofVariable_verbose : LogFilter.ofVariable (verbose LogFilter.variableName) =
    some (LogFilter.empty.add ⟨none, none, none, .debug⟩) := by
  have whole : "4".splitOn "," = ["4"] := by cbv
  have alone : Directive.read "4" = .ok ⟨none, none, none, .debug⟩ := by decide +kernel
  have read : LogFilter.read "4" = .ok (LogFilter.empty.add ⟨none, none, none, .debug⟩) := by
    simp [LogFilter.read, whole, alone]
  rw [verbose, if_pos rfl, LogFilter.ofVariable, Option.map_some, read]

theorem run_deserted :
    (run deserted plainWords).exitCode = some 1 ∧
      (run deserted plainWords).records = firstRecord := by
  have started : Started deserted plainWords plainLine :=
    { staffed := rfl
      parsed := rfl
      logged := by rw [deserted, among, ofVariable_verbose]; rfl }
  rw [started.run_eq ofVariable_verbose]
  exact ⟨by decide +kernel, by decide +kernel⟩

/-- Four runs whose command line is in order: one ends before the command line is read, one waits for a peer
that says nothing, one for a peer that does not take the request, whatever the limit on reads, and one fails
where the log has been written to. -/
theorem run_otherwise :
    (CommandLine.parse plainWords unmanned = .ok plainLine ∧
        (run (among unmanned .blank) plainWords).exitCode = some 101) ∧
      (CommandLine.parse plainWords bare = .ok plainLine ∧
        (run (among bare .blank) plainWords).exitCode = none) ∧
      (CommandLine.parse limitedWords bare = .ok { plainLine with readMillis := some 5 } ∧
        (run (among bare choked) limitedWords).exitCode = none) ∧
      CommandLine.parse plainWords verbose = .ok plainLine ∧
        (run deserted plainWords).exitCode = some 1 ∧
          ∀ rest, (run deserted plainWords).errorOutput ≠ "webget: " ++ rest := by
  refine ⟨⟨rfl, by decide +kernel⟩, ⟨rfl, by decide +kernel⟩, ⟨rfl, by decide +kernel⟩, rfl,
    run_deserted.1, ?_⟩
  intro rest same
  have first : firstRecord.toList.head? = some '2' := by decide +kernel
  have starts : (run deserted plainWords).errorOutput.toList.head? = some '2' := by
    rw [Run.errorOutput, run_deserted.2, String.toList_append, List.head?_append, first, Option.some_or]
  rw [same, String.toList_append] at starts
  simp at starts

end Conduit.Program
