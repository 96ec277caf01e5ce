import Conduit.Program.Settings
import Conduit.Proofs.Channel.Settings
import Conduit.Proofs.Text.Numerals
set_option autoImplicit false

namespace Conduit

open Toml (Entries)

def Setting.flag : Setting → Program.Flag
  | recvCapacity => .recvCapacity
  | connectMillis => .connectMillis
  | readMillis => .readMillis

namespace Program

def Given.number? (given : Given) : Setting → Option UInt64
  | .recvCapacity => given.recvCapacity
  | .connectMillis => given.connectMillis
  | .readMillis => given.readMillis

def CommandLine.number? (line : CommandLine) : Setting → Option UInt64
  | .recvCapacity => line.recvCapacity
  | .connectMillis => line.connectMillis
  | .readMillis => line.readMillis

def flagsOf (words : List String) : Except Refusal Given := do
  let progress ← words.foldlM Progress.take .start
  let settled ← progress.settle
  return settled.given

def variableNumber? (environment : Environment) (setting : Setting) : Option UInt64 :=
  (environment setting.flag.variableName).bind fun text => (Given.number text).toOption

def filed? (files : FileReader) (path : Option String) (setting : Setting) : Option UInt64 := do
  let text ← (readText files (← path)).toOption
  let entries ← (Toml.read text).toOption
  setting.given? entries

variable {environment other : Environment} {given after : Given} {flag : Flag} {setting : Setting}

theorem number?_set {text : String} (taken : given.set flag text = .ok after) :
    after.number? setting =
      if setting.flag = flag then (Given.number text).toOption else given.number? setting := by
  cases flag with
  | service =>
    cases taken
    cases setting <;> rfl
  | config =>
    simp only [Given.set] at taken
    split at taken
    next => cases taken
    next =>
      cases taken
      cases setting <;> rfl
  | connectMillis | readMillis | recvCapacity =>
    obtain ⟨value, read, rfl⟩ := Toml.map_eq_ok taken
    cases setting <;> simp [Given.number?, Setting.flag, read, Except.toOption]

theorem config_set {text : String} (taken : given.set flag text = .ok after) :
    after.config = if flag = .config then some text else given.config := by
  cases flag with
  | service => cases taken; rfl
  | config =>
    simp only [Given.set] at taken
    split at taken
    next => cases taken
    next => cases taken; rfl
  | connectMillis | readMillis | recvCapacity =>
    obtain ⟨value, _, rfl⟩ := Toml.map_eq_ok taken
    rfl

theorem has_flag (given : Given) (setting : Setting) :
    given.has setting.flag = (given.number? setting).isSome := by
  cases setting <;> rfl

theorem number_of_set {text : String} (taken : given.set setting.flag text = .ok after) :
    ∃ value, Given.number text = .ok value := by
  cases setting <;>
    · obtain ⟨value, read, -⟩ := Toml.map_eq_ok taken
      exact ⟨value, read⟩

theorem has_set {text : String} (taken : given.set flag text = .ok after) (second : Flag) :
    after.has second = (second == flag || given.has second) := by
  cases flag with
  | service =>
    cases taken
    cases second <;> rfl
  | config =>
    simp only [Given.set] at taken
    split at taken
    next => cases taken
    next =>
      cases taken
      cases second <;> rfl
  | connectMillis | readMillis | recvCapacity =>
    obtain ⟨value, _, rfl⟩ := Toml.map_eq_ok taken
    cases second <;> rfl

structure Adds (environment : Environment) (flags : List Flag) (given after : Given) : Prop where
  number?_eq : ∀ setting, after.number? setting =
    if setting.flag ∈ flags then given.number? setting <|> variableNumber? environment setting
    else given.number? setting
  config_eq : after.config =
    if .config ∈ flags then given.config <|> environment Flag.config.variableName
    else given.config
  legible : ∀ setting text, setting.flag ∈ flags → given.number? setting = none →
    environment setting.flag.variableName = some text → ∃ value, Given.number text = .ok value

theorem Adds.refl (environment : Environment) (given : Given) : Adds environment [] given given :=
  ⟨fun _ => rfl, rfl, nofun⟩

theorem Adds.trans {first second : List Flag} {middle : Given}
    (before : Adds environment first given middle) (later : Adds environment second middle after) :
    Adds environment (first ++ second) given after := by
  constructor
  case number?_eq =>
    intro setting
    rw [later.number?_eq, before.number?_eq]
    cases given.number? setting <;> cases variableNumber? environment setting <;> grind
  case config_eq =>
    rw [later.config_eq, before.config_eq]
    cases given.config <;> cases environment Flag.config.variableName <;> grind
  case legible =>
    intro setting text among missing held
    by_cases own : setting.flag ∈ first
    next => exact before.legible setting text own missing held
    next =>
      have further := (List.mem_append.mp among).resolve_left own
      refine later.legible setting text further ?_ held
      rw [before.number?_eq, if_neg own, missing]

theorem adds_of_has (present : given.has flag = true) : Adds environment [flag] given given := by
  constructor
  case number?_eq =>
    intro setting
    split
    next own =>
      rw [← List.mem_singleton.mp own, has_flag] at present
      obtain ⟨value, known⟩ := Option.isSome_iff_exists.mp present
      rw [known]
      rfl
    next => rfl
  case config_eq =>
    split
    next own =>
      rw [← List.mem_singleton.mp own] at present
      obtain ⟨path, known⟩ := Option.isSome_iff_exists.mp present
      rw [known]
      rfl
    next => rfl
  case legible =>
    intro setting text own missing
    rw [← List.mem_singleton.mp own, has_flag, missing] at present
    cases present

theorem adds_of_unset (unset : environment flag.variableName = none) :
    Adds environment [flag] given given := by
  constructor
  case number?_eq =>
    intro setting
    split
    next own =>
      rw [variableNumber?, List.mem_singleton.mp own, unset]
      cases given.number? setting <;> rfl
    next => rfl
  case config_eq =>
    split
    next own =>
      rw [List.mem_singleton.mp own, unset]
      cases given.config <;> rfl
    next => rfl
  case legible =>
    intro setting text own _ held
    rw [List.mem_singleton.mp own, unset] at held
    cases held

theorem adds_of_set {text : String} (absent : given.has flag = false)
    (held : environment flag.variableName = some text) (taken : given.set flag text = .ok after) :
    Adds environment [flag] given after := by
  constructor
  case number?_eq =>
    intro setting
    simp only [number?_set taken, List.mem_singleton]
    split
    next own =>
      subst own
      rw [has_flag, Option.isSome_eq_false_iff, Option.isNone_iff_eq_none] at absent
      rw [absent, variableNumber?, held]
      rfl
    next => rfl
  case config_eq =>
    simp only [config_set taken, List.mem_singleton, eq_comm (a := Flag.config)]
    split
    next own =>
      subst own
      have missing : given.config = none := by simpa [Given.has] using absent
      rw [missing, held]
      rfl
    next => rfl
  case legible =>
    intro setting value own _ same
    cases List.mem_singleton.mp own
    cases held.symm.trans same
    exact number_of_set taken

theorem addVariable_adds (added : Given.addVariable environment given flag = .ok after) :
    Adds environment [flag] given after := by
  unfold Given.addVariable at added
  split at added
  next present =>
    cases added
    exact adds_of_has present
  next absent =>
    split at added
    next text held => exact adds_of_set (by simpa using absent) held added
    next unset =>
      cases added
      exact adds_of_unset unset

theorem addVariables_adds {flags : List Flag}
    (added : flags.foldlM (Given.addVariable environment) given = .ok after) :
    Adds environment flags given after := by
  induction flags generalizing given with
  | nil =>
    cases added
    exact .refl environment _
  | cons flag flags ih =>
    obtain ⟨middle, first, rest⟩ := Toml.bind_eq_ok added
    exact (addVariable_adds first).trans (ih rest)

theorem addVariables_congr {flags : List Flag}
    (added : flags.foldlM (Given.addVariable environment) given = .ok after)
    (same : ∀ flag, given.has flag = false → other flag.variableName = environment flag.variableName) :
    flags.foldlM (Given.addVariable other) given = .ok after := by
  induction flags generalizing given with
  | nil => exact added
  | cons flag flags ih =>
    obtain ⟨middle, first, rest⟩ := Toml.bind_eq_ok added
    have again : Given.addVariable other given flag = .ok middle := by
      rw [← first]
      unfold Given.addVariable
      split
      next => rfl
      next absent => rw [same flag (by simpa using absent)]
    have kept (second : Flag) (absent : middle.has second = false) : given.has second = false := by
      unfold Given.addVariable at first
      split at first
      next =>
        cases first
        exact absent
      next =>
        split at first
        next =>
          rw [has_set first, Bool.or_eq_false_iff] at absent
          exact absent.2
        next =>
          cases first
          exact absent
    rw [List.foldlM_cons, again]
    exact ih rest fun second absent => same second (kept second absent)

variable {words : List String} {line : CommandLine} {files : FileReader}

theorem parse_eq_ok (parsed : CommandLine.parse words environment = .ok line) :
    ∃ flags given, flagsOf words = .ok flags ∧
      Flag.all.foldlM (Given.addVariable environment) flags = .ok given ∧
      (∀ setting, line.number? setting = given.number? setting) ∧ line.config = given.config ∧
      ∀ other, Flag.all.foldlM (Given.addVariable other) flags = .ok given →
        CommandLine.parse words other = .ok line := by
  obtain ⟨progress, taken, parsed⟩ := Toml.bind_eq_ok parsed
  obtain ⟨settled, settling, parsed⟩ := Toml.bind_eq_ok parsed
  obtain ⟨given, added, parsed⟩ := Toml.bind_eq_ok parsed
  refine ⟨settled.given, given, ?_, added, ?_⟩
  next =>
    rw [flagsOf, taken]
    show progress.settle >>= _ = _
    rw [settling]
    rfl
  next =>
    have other_parsed (other : Environment)
        (again : Flag.all.foldlM (Given.addVariable other) settled.given = .ok given) :
        CommandLine.parse words other = .ok line := by
      rw [CommandLine.parse, taken]
      show progress.settle >>= _ = _
      rw [settling]
      show Flag.all.foldlM (Given.addVariable other) settled.given >>= _ = _
      rw [again]
      exact parsed
    refine ⟨?_, ?_, other_parsed⟩
    all_goals
      split at parsed
      next =>
        cases parsed
        first | rfl | exact fun setting => by cases setting <;> rfl
      next => cases parsed

theorem value?_changes (line : CommandLine) (base : ChannelConfig) (setting : Setting) :
    setting.value? (line.changes.foldl ConfigChange.apply base) =
      (line.number? setting <|> setting.value? base) := by
  obtain ⟨host, path, service, config, connectMillis, readMillis, recvCapacity⟩ := line
  cases setting <;> cases connectMillis <;> cases readMillis <;> cases recvCapacity <;>
    simp [CommandLine.changes, CommandLine.number?, ConfigChange.apply, Setting.value?,
      ChannelConfig.withConnectLimit, ChannelConfig.withReadLimit, ChannelConfig.withRecvCapacity,
      Duration.toMillis_ofMillis]

theorem value?_ofToml {path text : String} {base : ChannelConfig}
    (readable : readText files path = .ok text) (valid : ChannelConfig.ofToml text = .ok base)
    (setting : Setting) :
    setting.value? base = (filed? files (some path) setting <|> setting.value? .default) := by
  unfold ChannelConfig.ofToml at valid
  split at valid
  next => cases valid
  next entries read =>
    split at valid
    next config fits =>
      cases valid
      have values := (ChannelConfig.ofEntries_eq_ok_iff (Toml.read_proper read).distinct).mp fits
      rw [values.2 setting, filed?]
      simp [readable, read, Except.toOption]
    next => cases valid

theorem baseConfig_eq_ok_iff (line : CommandLine) (files : FileReader) {base : ChannelConfig} :
    line.baseConfig files = .ok base ↔
      match line.config with
      | none => base = .default
      | some path =>
          ∃ text, readText files path = .ok text ∧ ChannelConfig.ofToml text = .ok base := by
  unfold CommandLine.baseConfig
  cases line.config with
  | none => simp [eq_comm]
  | some path =>
    simp only [CommandLine.fileConfig]
    cases readText files path with
    | error fault => simp
    | ok text =>
      simp only [Except.ok.injEq, exists_eq_left']
      cases ChannelConfig.ofToml text <;> simp

theorem channelConfig_eq_error_iff (line : CommandLine) (files : FileReader)
    {problem : SettingsError} :
    line.channelConfig files = .error problem ↔
      ∃ path, line.config = some path ∧
        ((∃ fault, readText files path = .error fault ∧ problem = .unreadable path fault) ∨
          ∃ text failure, readText files path = .ok text ∧
            ChannelConfig.ofToml text = .error failure ∧ problem = .invalid path failure) := by
  unfold CommandLine.channelConfig CommandLine.baseConfig
  cases line.config with
  | none => simp [Except.map]
  | some path =>
    simp only [CommandLine.fileConfig, Option.some.injEq, exists_eq_left']
    cases readable : readText files path with
    | error fault => simp [Except.map, eq_comm]
    | ok text =>
      cases valid : ChannelConfig.ofToml text with
      | error failure => simp [valid, Except.map, eq_comm]
      | ok base => simp [valid, Except.map]

/-- The layers that a command line makes, from the words that give its flags to the defaults. -/
structure Layered (words : List String) (environment : Environment) (files : FileReader)
    (line : CommandLine) (flags : Given) : Prop where
  flags_eq : flagsOf words = .ok flags
  config_eq : line.config = (flags.config <|> environment Flag.config.variableName)
  legible : ∀ setting text, flags.number? setting = none →
    environment setting.flag.variableName = some text → ∃ value, Given.number text = .ok value
  unread : ∀ other : Environment,
    (∀ flag, flags.has flag = false → other flag.variableName = environment flag.variableName) →
    CommandLine.parse words other = .ok line
  succeeds_iff : (∃ config, line.channelConfig files = .ok config) ↔
    ∀ path, line.config = some path →
      ∃ text base, readText files path = .ok text ∧ ChannelConfig.ofToml text = .ok base
  fails_iff : ∀ problem, line.channelConfig files = .error problem ↔
    ∃ path, line.config = some path ∧
      ((∃ fault, readText files path = .error fault ∧ problem = .unreadable path fault) ∨
        ∃ text failure, readText files path = .ok text ∧
          ChannelConfig.ofToml text = .error failure ∧ problem = .invalid path failure)
  value?_eq : ∀ config setting, line.channelConfig files = .ok config →
    setting.value? config =
      (flags.number? setting <|> variableNumber? environment setting <|>
        filed? files line.config setting <|> setting.value? .default)

theorem channelConfig_layered (parsed : CommandLine.parse words environment = .ok line)
    (files : FileReader) : ∃ flags, Layered words environment files line flags := by
  obtain ⟨flags, given, flags_eq, added, numbers, config_eq, again⟩ := parse_eq_ok parsed
  have adds := addVariables_adds added
  have numbered (setting : Setting) : setting.flag ∈ Flag.all := by cases setting <;> decide
  refine ⟨flags, flags_eq, ?_, ?_, ?_, ?_, ?_, ?_⟩
  next =>
    rw [config_eq, adds.config_eq, if_pos (by decide)]
  next =>
    intro setting text missing held
    exact adds.legible setting text (numbered setting) missing held
  next =>
    intro other same
    exact again other (addVariables_congr added same)
  next =>
    constructor
    next =>
      rintro ⟨config, settled⟩ path named
      obtain ⟨base, found, -⟩ := Toml.map_eq_ok settled
      rw [baseConfig_eq_ok_iff, named] at found
      obtain ⟨text, readable, valid⟩ := found
      exact ⟨text, base, readable, valid⟩
    next =>
      intro usable
      cases settled : line.channelConfig files with
      | ok config => exact ⟨config, rfl⟩
      | error problem =>
        obtain ⟨path, named, failed⟩ := (channelConfig_eq_error_iff line files).mp settled
        obtain ⟨text, base, readable, valid⟩ := usable path named
        simp [readable, valid] at failed
  next => exact fun problem => channelConfig_eq_error_iff line files
  next =>
    intro config setting settled
    obtain ⟨base, found, rfl⟩ := Toml.map_eq_ok settled
    have option := (numbers setting).trans (adds.number?_eq setting)
    rw [if_pos (numbered setting)] at option
    have below : setting.value? base =
        (filed? files line.config setting <|> setting.value? .default) := by
      rw [baseConfig_eq_ok_iff] at found
      cases named : line.config with
      | none =>
        rw [named] at found
        rw [found]
        rfl
      | some path =>
        rw [named] at found
        obtain ⟨text, readable, valid⟩ := found
        exact value?_ofToml readable valid setting
    rw [value?_changes, option, below]
    cases flags.number? setting <;> rfl

def Given.text? (given : Given) : Flag → Option String
  | .service => given.service
  | .config => given.config
  | .connectMillis => given.connectMillis.map fun millis => toString millis.toNat
  | .readMillis => given.readMillis.map fun millis => toString millis.toNat
  | .recvCapacity => given.recvCapacity.map fun capacity => toString capacity.toNat

def flagWord (flag : Flag) (text : String) : String := "--" ++ flag.name ++ "=" ++ text

def written (flags : Given) : List String :=
  ["host", "/"] ++ Flag.all.flatMap fun flag => (flags.text? flag).toList.map (flagWord flag)

def held (outer : Given) : Environment := fun name =>
  (Flag.all.find? (·.variableName == name)).bind outer.text?

theorem number_toString (value : UInt64) : Given.number (toString value.toNat) = .ok value := by
  rw [Given.number, Text.unsigned?_toString value.toNat_lt]
  simp

theorem ofText_flagWord (flag : Flag) (text : String) :
    Word.ofText (flagWord flag text) = .flag flag (some text) := by
  have letters : (flagWord flag text).toList = '-' :: '-' :: (flag.name.toList ++ '=' :: text.toList) := by
    simp [flagWord]
  have inside : ∀ c ∈ flag.name.toList, (c != '=') = true :=
    List.all_eq_true.mp (by cases flag <;> decide)
  have long : Word.ofLong (flag.name.toList ++ '=' :: text.toList) = .flag flag (some text) := by
    have known : Flag.ofName? flag.name = some flag := by cases flag <;> rfl
    unfold Word.ofLong
    rw [List.takeWhile_append_of_pos inside, List.dropWhile_append_of_pos inside]
    simp [known]
  rw [Word.ofText, letters, ← long]
  cases flag <;> rfl

theorem take_flagWord (given : Given) (positional : List String) (flag : Flag) (text : String) :
    Progress.take ⟨given, none, positional, false⟩ (flagWord flag text) =
      (given.take flag (some text)).map fun after => ⟨after, none, positional, false⟩ := by
  rw [Progress.take, if_neg Bool.false_ne_true, ofText_flagWord]
  show (given.take flag (some text) >>= fun after => _) = _
  cases given.take flag (some text) <;> rfl

def Given.only (given : Given) (flags : List Flag) : Given :=
  { service := if .service ∈ flags then given.service else none
    config := if .config ∈ flags then given.config else none
    connectMillis := if .connectMillis ∈ flags then given.connectMillis else none
    readMillis := if .readMillis ∈ flags then given.readMillis else none
    recvCapacity := if .recvCapacity ∈ flags then given.recvCapacity else none }

variable {flags : List Flag} {text : String}

theorem has_only (new : flag ∉ flags) : (given.only flags).has flag = false := by
  cases flag <;> simp [Given.has, Given.only, new]

theorem only_of_absent (absent : given.text? flag = none) :
    given.only (flags ++ [flag]) = given.only flags := by
  cases flag <;> simp_all [Given.only, Given.text?]

theorem set_of_text? (flags : List Flag) (named : given.config ≠ some "") (present : given.text? flag = some text)
    (before : Given) :
    ∃ after, before.set flag text = .ok after ∧
      (before = given.only flags → after = given.only (flags ++ [flag])) := by
  cases flag with
  | service =>
    refine ⟨_, rfl, ?_⟩
    rintro rfl
    simp_all [Given.only, Given.text?]
  | config =>
    have some_path : text ≠ "" := by
      rintro rfl
      exact named present
    refine ⟨_, if_neg some_path, ?_⟩
    rintro rfl
    simp_all [Given.only, Given.text?]
  | connectMillis | readMillis | recvCapacity =>
    obtain ⟨value, known, rfl⟩ := Option.map_eq_some_iff.mp present
    refine ⟨_, by rw [Given.set, number_toString]; rfl, ?_⟩
    rintro rfl
    simp_all [Given.only]

theorem foldlM_flagWords (named : given.config ≠ some "") (positional : List String)
    (done flags : List Flag) (distinct : (done ++ flags).Nodup) :
    (flags.flatMap fun flag => (given.text? flag).toList.map (flagWord flag)).foldlM Progress.take
        ⟨given.only done, none, positional, false⟩ =
      .ok ⟨given.only (done ++ flags), none, positional, false⟩ := by
  induction flags generalizing done with
  | nil => rw [List.append_nil]; rfl
  | cons flag flags ih =>
    have further := ih (done ++ [flag]) (by simpa using distinct)
    rw [List.append_assoc, List.singleton_append] at further
    rw [List.flatMap_cons, List.foldlM_append]
    cases written : given.text? flag with
    | none =>
      rw [only_of_absent written] at further
      exact further
    | some text =>
      have new : flag ∉ done := fun old => (List.nodup_append.mp distinct).2.2 flag old flag (by simp) rfl
      obtain ⟨after, taken, same⟩ := set_of_text? done named written (given.only done)
      show Progress.take _ (flagWord flag text) >>= _ >>= _ = _
      rw [take_flagWord, Given.take, has_only new, if_neg Bool.false_ne_true, taken, same rfl]
      exact further

theorem foldlM_written (named : given.config ≠ some "") :
    (written given).foldlM Progress.take .start = .ok ⟨given, none, ["host", "/"], false⟩ := by
  have start : ["host", "/"].foldlM Progress.take .start =
      .ok ⟨given.only [], none, ["host", "/"], false⟩ := by rfl
  have all : given.only ([] ++ Flag.all) = given := by simp [Given.only, Flag.all]
  rw [written, List.foldlM_append, start]
  exact (foldlM_flagWords named ["host", "/"] [] Flag.all (by decide)).trans (by rw [all])

theorem held_variableName (outer : Given) (flag : Flag) :
    held outer flag.variableName = outer.text? flag := by
  cases flag <;> rfl

theorem variableNumber?_held (outer : Given) (setting : Setting) :
    variableNumber? (held outer) setting = outer.number? setting := by
  have numeral (value? : Option UInt64) :
      ((value?.map fun value => toString value.toNat).bind fun text => (Given.number text).toOption) =
        value? := by
    cases value? with
    | none => rfl
    | some value =>
      show (Given.number (toString value.toNat)).toOption = _
      rw [number_toString]
      rfl
  rw [variableNumber?, held_variableName]
  cases setting <;> exact numeral _

theorem addVariables_held {outer : Given} (named : outer.config ≠ some "")
    (flags : List Flag) (given : Given) :
    ∃ after, flags.foldlM (Given.addVariable (held outer)) given = .ok after := by
  induction flags generalizing given with
  | nil => exact ⟨given, rfl⟩
  | cons flag flags ih =>
    have first : ∃ middle, Given.addVariable (held outer) given flag = .ok middle := by
      unfold Given.addVariable
      split
      next => exact ⟨given, rfl⟩
      next =>
        rw [held_variableName]
        cases present : outer.text? flag with
        | none => exact ⟨given, rfl⟩
        | some text =>
          obtain ⟨after, taken, -⟩ := set_of_text? [] named present given
          exact ⟨after, taken⟩
    obtain ⟨middle, added⟩ := first
    rw [List.foldlM_cons, added]
    exact ih middle

theorem parse_written {flags outer : Given} (flags_named : flags.config ≠ some "")
    (outer_named : outer.config ≠ some "") :
    ∃ line, CommandLine.parse (written flags) (held outer) = .ok line ∧
      flagsOf (written flags) = .ok flags := by
  obtain ⟨given, added⟩ := addVariables_held outer_named Flag.all flags
  have parsed : CommandLine.parse (written flags) (held outer) =
      .ok ⟨"host", "/", given.service.getD CommandLine.defaultService, given.config,
        given.connectMillis, given.readMillis, given.recvCapacity⟩ := by
    rw [CommandLine.parse, foldlM_written flags_named]
    show Flag.all.foldlM (Given.addVariable (held outer)) flags >>= _ = _
    rw [added]
    rfl
  refine ⟨_, parsed, ?_⟩
  rw [flagsOf, foldlM_written flags_named]
  rfl

theorem channelConfig_precedence (files : FileReader) :
    (∀ words environment line, CommandLine.parse words environment = .ok line →
      ∃ flags, Layered words environment files line flags) ∧
    ∀ flags outer : Given, flags.config ≠ some "" → outer.config ≠ some "" →
      ∃ words environment line, CommandLine.parse words environment = .ok line ∧
        flagsOf words = .ok flags ∧ environment Flag.config.variableName = outer.config ∧
        ∀ setting, variableNumber? environment setting = outer.number? setting := by
  constructor
  next => exact fun words environment line parsed => channelConfig_layered parsed files
  next =>
    intro flags outer flags_named outer_named
    obtain ⟨line, parsed, flags_eq⟩ := parse_written flags_named outer_named
    exact ⟨_, _, line, parsed, flags_eq, held_variableName outer .config,
      variableNumber?_held outer⟩

-- Every source gives something, and the variable with no number in it is not looked at.
def mixedWords : List String := ["h", "/", "--connect-timeout-ms=18446744073709551615"]

def mixedVariables : Environment := fun name =>
  [ ("WEBGET_CONFIG", "fetch.toml"), ("WEBGET_RECV_CAPACITY", "1024"),
    ("WEBGET_CONNECT_TIMEOUT_MS", "ten") ].lookup name

def mixedFiles : FileReader := fun path =>
  if path = "fetch.toml" then
    .ok "recv_capacity = 512 # small\nread_timeout_ms = 7\n".toUTF8.toList
  else .error (.system 2)

def mixedLine : CommandLine :=
  ⟨"h", "/", "http", some "fetch.toml", some 18446744073709551615, none, some 1024⟩

theorem mixed_precedence :
    (mixedLine.channelConfig mixedFiles).toOption = some ⟨1024, 18446744073709551615, some 7⟩ ∧
      ∃ flags, Layered mixedWords mixedVariables mixedFiles mixedLine flags :=
  ⟨by decide +kernel, (channelConfig_precedence mixedFiles).1 _ _ _ rfl⟩

end Program

end Conduit
