import Conduit.Channel.ConfigText
import Conduit.Proofs.Toml.Entries
set_option autoImplicit false

namespace Conduit

open Toml (Entries Label Node)

namespace Setting

variable {setting : Setting}

def value? (config : ChannelConfig) : Setting → Option UInt64
  | recvCapacity => some config.recvCapacity
  | connectMillis => some config.connectMillis
  | readMillis => config.readMillis

def given? (setting : Setting) (entries : Entries) : Option UInt64 :=
  (entries.find? setting.name).bind fun node => (setting.read node).toOption

theorem ofName?_eq_some_iff {name : String} : ofName? name = some setting ↔ name = setting.name := by
  constructor
  next =>
    intro found
    unfold ofName? at found
    have same := List.find?_some found
    exact (beq_iff_eq.mp same).symm
  next =>
    rintro rfl
    cases setting <;> rfl

theorem name_inj {other : Setting} : setting.name = other.name ↔ setting = other := by
  constructor
  next =>
    intro same
    have found := ofName?_eq_some_iff.mpr same
    rw [ofName?_eq_some_iff.mpr rfl] at found
    exact Option.some.inj found
  next => exact congrArg name

theorem read_eq_ok_iff {node : Node} {value : UInt64} :
    setting.read node = .ok value ↔
      ∃ whole : Int, node = .integer whole ∧ 0 ≤ whole ∧ value = UInt64.ofNat whole.toNat := by
  cases node with
  | integer whole =>
    show (if 0 ≤ whole then _ else _) = _ ↔ _
    split
    next positive => simp [positive, eq_comm]
    next negative => simp [negative]
  | _ => simp [Setting.read]

theorem value?_assign (config : ChannelConfig) (value : UInt64) (other : Setting) :
    setting.value? (other.assign config value) =
      if setting = other then some value else setting.value? config := by
  cases setting <;> cases other <;> rfl

end Setting

namespace ChannelConfig

variable {config after : ChannelConfig} {entries : Entries} {entry : Label × Node}

theorem eq_of_value? (same : ∀ setting : Setting, setting.value? after = setting.value? config) :
    after = config := by
  obtain ⟨recvCapacity, connectMillis, readMillis⟩ := config
  have recvCapacity_eq := same .recvCapacity
  have connectMillis_eq := same .connectMillis
  have readMillis_eq := same .readMillis
  simp only [Setting.value?, Option.some.injEq] at recvCapacity_eq connectMillis_eq readMillis_eq
  simp only [← recvCapacity_eq, ← connectMillis_eq, ← readMillis_eq]

structure Sets (entry : Label × Node) (setting : Setting) (value : UInt64) : Prop where
  name_eq : entry.1.name = setting.name
  read_eq : setting.read entry.2 = .ok value

def Fits (entry : Label × Node) : Prop := ∃ setting value, Sets entry setting value

inductive Misfits : Label × Node → Misfit × Nat → Prop
  | unknownKey (label : Label) (node : Node) (unknown : ∀ setting : Setting, label.name ≠ setting.name) :
      Misfits (label, node) (.unknownKey label.name, label.keyAt)
  | negative (label : Label) (setting : Setting) (value : Int) (named : label.name = setting.name)
      (below : value < 0) : Misfits (label, .integer value) (.negative value setting, label.valueAt)
  | wrongType (label : Label) (setting : Setting) (node : Node) (named : label.name = setting.name)
      (other : ∀ value, node ≠ .integer value) :
      Misfits (label, node) (.wrongType (nodeText node) setting, label.valueAt)

theorem applyEntry_of_sets {setting : Setting} {value : UInt64} (sets : Sets entry setting value)
    (config : ChannelConfig) : config.applyEntry entry = .ok (setting.assign config value) := by
  obtain ⟨label, node⟩ := entry
  simp only [applyEntry, Setting.ofName?_eq_some_iff.mpr sets.name_eq, sets.read_eq]

theorem applyEntry_of_misfits {problem : Misfit × Nat} (misfits : Misfits entry problem)
    (config : ChannelConfig) : config.applyEntry entry = .error problem := by
  cases misfits with
  | unknownKey label node unknown =>
    have none : Setting.ofName? label.name = none := by
      rw [Option.eq_none_iff_forall_ne_some]
      exact fun setting found => unknown setting (Setting.ofName?_eq_some_iff.mp found)
    simp only [applyEntry, none]
  | negative label setting value named below =>
    simp only [applyEntry, Setting.ofName?_eq_some_iff.mpr named, Setting.read,
      if_neg (Int.not_le.mpr below)]
  | wrongType label setting node named other =>
    cases node with
    | integer value => exact absurd rfl (other value)
    | _ => simp only [applyEntry, Setting.ofName?_eq_some_iff.mpr named, Setting.read]

theorem fits_or_misfits (entry : Label × Node) : Fits entry ∨ ∃ problem, Misfits entry problem := by
  obtain ⟨label, node⟩ := entry
  cases known : Setting.ofName? label.name with
  | none =>
    refine .inr ⟨_, .unknownKey label node fun setting named => ?_⟩
    rw [Setting.ofName?_eq_some_iff.mpr named] at known
    cases known
  | some setting =>
    have named := Setting.ofName?_eq_some_iff.mp known
    cases node with
    | integer value =>
      by_cases below : value < 0
      next => exact .inr ⟨_, .negative label setting value named below⟩
      next =>
        refine .inl ⟨setting, UInt64.ofNat value.toNat, named, ?_⟩
        exact Setting.read_eq_ok_iff.mpr ⟨value, rfl, Int.not_lt.mp below, rfl⟩
    | _ => exact .inr ⟨_, .wrongType label setting _ named nofun⟩

theorem not_fits_of_misfits {problem : Misfit × Nat} (misfits : Misfits entry problem) :
    ¬ Fits entry := by
  rintro ⟨setting, value, sets⟩
  cases (applyEntry_of_sets sets default).symm.trans (applyEntry_of_misfits misfits default)

theorem given?_cons (entry : Label × Node) (rest : Entries) (setting : Setting) :
    setting.given? (entry :: rest) =
      if entry.1.name = setting.name then (setting.read entry.2).toOption
      else setting.given? rest := by
  unfold Setting.given? Entries.find?
  by_cases named : entry.1.name = setting.name <;> simp [named]

theorem given?_eq_none {setting : Setting} (missing : setting.name ∉ entries.names) :
    setting.given? entries = none := by
  rw [Setting.given?, Entries.find?_eq_none_iff.mpr missing, Option.bind_none]

theorem foldlM_of_fits (distinct : entries.names.Nodup) (fits : ∀ entry ∈ entries, Fits entry)
    (config : ChannelConfig) :
    ∃ after, entries.foldlM applyEntry config = .ok after ∧
      ∀ setting : Setting, setting.value? after = (setting.given? entries <|> setting.value? config) := by
  induction entries generalizing config with
  | nil => exact ⟨config, rfl, fun setting => rfl⟩
  | cons entry rest ih =>
    obtain ⟨new, later⟩ := List.nodup_cons.mp distinct
    obtain ⟨setting, value, sets⟩ := fits entry List.mem_cons_self
    obtain ⟨after, folded, values⟩ :=
      ih later (fun other among => fits other (List.mem_cons_of_mem _ among))
        (setting.assign config value)
    refine ⟨after, ?_, fun other => ?_⟩
    next => rw [List.foldlM_cons, applyEntry_of_sets sets]; exact folded
    next =>
      rw [values other, given?_cons, Setting.value?_assign, sets.name_eq]
      by_cases same : other = setting
      next =>
        subst same
        have missing : other.given? rest = none := given?_eq_none (sets.name_eq ▸ new)
        simp [missing, sets.read_eq, Except.toOption]
      next =>
        rw [if_neg same, if_neg fun named => same (Setting.name_inj.mp named).symm]

theorem foldlM_of_misfits {good rest : Entries} {bad : Label × Node} {problem : Misfit × Nat}
    (fits : ∀ entry ∈ good, Fits entry) (misfits : Misfits bad problem) (config : ChannelConfig) :
    (good ++ bad :: rest).foldlM applyEntry config = .error problem := by
  induction good generalizing config with
  | nil => rw [List.nil_append, List.foldlM_cons, applyEntry_of_misfits misfits]; rfl
  | cons entry good ih =>
    obtain ⟨setting, value, sets⟩ := fits entry List.mem_cons_self
    rw [List.cons_append, List.foldlM_cons, applyEntry_of_sets sets]
    exact ih (fun other among => fits other (List.mem_cons_of_mem _ among)) _

theorem fit_or_first_misfit (entries : Entries) :
    (∀ entry ∈ entries, Fits entry) ∨
      ∃ good bad rest problem, entries = good ++ bad :: rest ∧ (∀ entry ∈ good, Fits entry) ∧
        Misfits bad problem := by
  induction entries with
  | nil => exact .inl nofun
  | cons entry rest ih =>
    rcases fits_or_misfits entry with fits | ⟨problem, misfits⟩
    next =>
      rcases ih with all | ⟨good, bad, later, problem, rfl, all, misfits⟩
      next => exact .inl (List.forall_mem_cons.mpr ⟨fits, all⟩)
      next =>
        exact .inr ⟨entry :: good, bad, later, problem, rfl, List.forall_mem_cons.mpr ⟨fits, all⟩,
          misfits⟩
    next => exact .inr ⟨[], entry, rest, problem, rfl, nofun, misfits⟩

theorem ofEntries_eq_ok_iff (distinct : entries.names.Nodup) :
    ofEntries entries = .ok config ↔
      (∀ entry ∈ entries, Fits entry) ∧
        ∀ setting : Setting, setting.value? config = (setting.given? entries <|> setting.value? default) := by
  rcases fit_or_first_misfit entries with fits | ⟨good, bad, rest, problem, rfl, fits, misfits⟩
  next =>
    obtain ⟨after, folded, values⟩ := foldlM_of_fits distinct fits default
    rw [ofEntries, folded]
    constructor
    next =>
      rintro ⟨⟩
      exact ⟨fits, values⟩
    next =>
      rintro ⟨-, same⟩
      rw [eq_of_value? fun setting => (values setting).trans (same setting).symm]
  next =>
    rw [ofEntries, foldlM_of_misfits fits misfits]
    refine ⟨nofun, fun ⟨all, _⟩ => ?_⟩
    exact absurd (all bad (by simp)) (not_fits_of_misfits misfits)

end ChannelConfig

end Conduit
