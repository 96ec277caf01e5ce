import Conduit.Proofs.Channel.Settings
import Conduit.Proofs.Text.Numerals
import Conduit.Proofs.Toml.Listing
set_option autoImplicit false

namespace Conduit

open Toml (Entries Label Listing Node Numeral)

namespace Toml.Entries

variable {entries : Entries} {name : String} {node : Node}

theorem names_eq (entries : Entries) : entries.names = entries.view.map Prod.fst := by
  rw [names, view, List.map_map]
  rfl

theorem find?_eq_some_iff (distinct : entries.names.Nodup) :
    entries.find? name = some node ↔ (name, node) ∈ entries.view := by
  constructor
  next =>
    intro found
    obtain ⟨label, among, rfl⟩ := mem_of_find? found
    exact List.mem_map.mpr ⟨_, among, rfl⟩
  next =>
    intro among
    obtain ⟨⟨label, _⟩, entry, same⟩ := List.mem_map.mp among
    cases same
    exact find?_of_mem distinct entry

end Toml.Entries

namespace ChannelConfig

variable {config : ChannelConfig} {entries other : Entries} {text : String}

/-- Entries that give settings, each at most once, integers from zero on that fit 64 bits with a sign, and
the configuration that has these and the defaults for the rest. -/
structure Configures (entries : Entries) (config : ChannelConfig) : Prop where
  distinct : entries.names.Nodup
  known : ∀ name node, (name, node) ∈ entries.view →
    ∃ (setting : Setting) (value : Int), name = setting.name ∧ node = .integer value ∧
      0 ≤ value ∧ value ≤ Toml.highestInteger
  present : ∀ (setting : Setting) (value : Int), (setting.name, .integer value) ∈ entries.view →
    ∃ number, setting.value? config = some number ∧ (number.toNat : Int) = value
  absent : ∀ setting : Setting, setting.name ∉ entries.names →
    setting.value? config = setting.value? default

theorem Configures.perm (configures : Configures entries config)
    (same : entries.view.Perm other.view) : Configures other config := by
  have names : entries.names.Perm other.names := by
    rw [Entries.names_eq, Entries.names_eq]
    exact same.map _
  constructor
  case distinct => exact names.nodup_iff.mp configures.distinct
  case known => exact fun name node among => configures.known name node (same.mem_iff.mpr among)
  case present =>
    exact fun setting value among => configures.present setting value (same.mem_iff.mpr among)
  case absent =>
    exact fun setting missing => configures.absent setting (mt names.mem_iff.mp missing)

theorem toNat_ofNat_of_inRange {value : Int} (positive : 0 ≤ value) (fits : value ≤ Toml.highestInteger) :
    ((UInt64.ofNat value.toNat).toNat : Int) = value := by
  have small : value.toNat < 2 ^ 64 := by
    rw [Toml.highestInteger] at fits
    omega
  rw [UInt64.toNat_ofNat', Nat.mod_eq_of_lt small]
  omega

theorem fits_iff {entry : Label × Node} :
    Fits entry ↔ ∃ (setting : Setting) (value : Int), entry.1.name = setting.name ∧
      entry.2 = .integer value ∧ 0 ≤ value := by
  constructor
  next =>
    rintro ⟨setting, value, name_eq, read_eq⟩
    obtain ⟨whole, node_eq, positive, -⟩ := Setting.read_eq_ok_iff.mp read_eq
    exact ⟨setting, whole, name_eq, node_eq, positive⟩
  next =>
    rintro ⟨setting, value, name_eq, node_eq, positive⟩
    exact ⟨setting, _, name_eq, Setting.read_eq_ok_iff.mpr ⟨value, node_eq, positive, rfl⟩⟩

theorem given?_eq {setting : Setting} {value : Int} (distinct : entries.names.Nodup)
    (among : (setting.name, .integer value) ∈ entries.view) (positive : 0 ≤ value) :
    setting.given? entries = some (UInt64.ofNat value.toNat) := by
  have read : setting.read (.integer value) = .ok (UInt64.ofNat value.toNat) :=
    Setting.read_eq_ok_iff.mpr ⟨value, rfl, positive, rfl⟩
  rw [Setting.given?, (Entries.find?_eq_some_iff distinct).mpr among, Option.bind_some, read]
  rfl

theorem ofEntries_eq_ok_iff_configures (proper : entries.Proper) :
    ofEntries entries = .ok config ↔ Configures entries config := by
  rw [ofEntries_eq_ok_iff proper.distinct]
  constructor
  next =>
    rintro ⟨fits, values⟩
    have known (name : String) (node : Node) (among : (name, node) ∈ entries.view) :
        ∃ (setting : Setting) (value : Int), name = setting.name ∧ node = .integer value ∧
          0 ≤ value ∧ value ≤ Toml.highestInteger := by
      obtain ⟨entry, here, same⟩ := List.mem_map.mp among
      cases same
      obtain ⟨setting, value, name_eq, node_eq, positive⟩ := fits_iff.mp (fits entry here)
      have bound := (proper.inRange entry here value node_eq).2
      exact ⟨setting, value, name_eq, node_eq, positive, bound⟩
    constructor
    case distinct => exact proper.distinct
    case known => exact known
    case present =>
      intro setting value among
      obtain ⟨_, _, _, same, positive, fits⟩ := known _ _ among
      cases same
      refine ⟨UInt64.ofNat value.toNat, ?_, toNat_ofNat_of_inRange positive fits⟩
      rw [values setting, given?_eq proper.distinct among positive]
      rfl
    case absent =>
      intro setting missing
      rw [values setting, given?_eq_none missing]
      rfl
  next =>
    intro configures
    constructor
    next =>
      intro entry here
      obtain ⟨setting, value, name_eq, node_eq, positive, -⟩ :=
        configures.known entry.1.name entry.2 (List.mem_map_of_mem here)
      exact fits_iff.mpr ⟨setting, value, name_eq, node_eq, positive⟩
    next =>
      intro setting
      by_cases listed : setting.name ∈ entries.names
      next =>
        obtain ⟨⟨label, node⟩, here, named⟩ := List.mem_map.mp listed
        have among : (setting.name, node) ∈ entries.view := named ▸ List.mem_map_of_mem here
        obtain ⟨_, value, _, rfl, positive, fits⟩ := configures.known _ _ among
        obtain ⟨number, has, whole⟩ := configures.present setting value among
        rw [has, given?_eq configures.distinct among positive]
        have same : UInt64.ofNat value.toNat = number := by
          rw [← whole]
          simp
        rw [same]
        rfl
      next =>
        rw [configures.absent setting listed, given?_eq_none listed]
        rfl

theorem ofToml_eq_ok_iff :
    ofToml text = .ok config ↔
      ∃ entries, Toml.read text = .ok entries ∧ Configures entries config := by
  unfold ofToml
  cases read : Toml.read text with
  | error stop => simp
  | ok entries =>
    have applied : ofEntries entries = .ok config ↔ Configures entries config :=
      ofEntries_eq_ok_iff_configures (Toml.read_proper read)
    cases made : ofEntries entries <;> simp_all

def settings (config : ChannelConfig) : List (String × Int) :=
  Setting.all.filterMap fun setting =>
    (setting.value? config).map fun number => (setting.name, (number.toNat : Int))

theorem mem_settings {name : String} {value : Int} :
    (name, value) ∈ config.settings ↔
      ∃ setting number, Setting.value? config setting = some number ∧ setting.name = name ∧
        (number.toNat : Int) = value := by
  have every (setting : Setting) : setting ∈ Setting.all := by cases setting <;> decide
  simp [settings, List.mem_filterMap, every]

theorem nodup_settings (config : ChannelConfig) : (config.settings.map Prod.fst).Nodup := by
  obtain ⟨recvCapacity, connectMillis, readMillis⟩ := config
  cases readMillis with
  | none => exact (by decide : ["recv_capacity", "connect_timeout_ms"].Nodup)
  | some millis =>
    exact (by decide : ["recv_capacity", "connect_timeout_ms", "read_timeout_ms"].Nodup)

theorem configures_of_settings (proper : entries.Proper)
    (same : entries.view.Perm
      (config.settings.map fun setting => (setting.1, .integer setting.2))) :
    Configures entries config := by
  have listed (name : String) (node : Node) : (name, node) ∈ entries.view ↔
      ∃ setting number, Setting.value? config setting = some number ∧ setting.name = name ∧
        .integer number.toNat = node := by
    rw [same.mem_iff, List.mem_map]
    constructor
    next =>
      rintro ⟨⟨name, value⟩, among, ⟨⟩⟩
      obtain ⟨setting, number, has, named, rfl⟩ := mem_settings.mp among
      exact ⟨setting, number, has, named, rfl⟩
    next =>
      rintro ⟨setting, number, has, rfl, rfl⟩
      exact ⟨(setting.name, number.toNat), mem_settings.mpr ⟨setting, number, has, rfl, rfl⟩, rfl⟩
  constructor
  case distinct => exact proper.distinct
  case known =>
    intro name node among
    obtain ⟨setting, number, -, rfl, rfl⟩ := (listed _ _).mp among
    obtain ⟨entry, here, same⟩ := List.mem_map.mp among
    have bound := (proper.inRange entry here _ (congrArg Prod.snd same)).2
    exact ⟨setting, _, rfl, rfl, Int.natCast_nonneg _, bound⟩
  case present =>
    intro setting value among
    obtain ⟨other, number, has, named, same⟩ := (listed _ _).mp among
    cases Setting.name_inj.mp named
    cases same
    exact ⟨number, has, rfl⟩
  case absent =>
    intro setting missing
    have none : setting.value? config = none := by
      rw [Option.eq_none_iff_forall_ne_some]
      intro number has
      apply missing
      rw [Entries.names_eq]
      exact List.mem_map_of_mem ((listed setting.name _).mpr ⟨setting, number, has, rfl, rfl⟩)
    cases setting with
    | recvCapacity | connectMillis => cases none
    | readMillis => exact none

theorem ofToml_listing (listing : Listing) (same : listing.settings.Perm config.settings) :
    ofToml listing.text = .ok config := by
  have distinct := (same.map Prod.fst).nodup_iff.mpr (nodup_settings config)
  obtain ⟨entries, read, view⟩ := (Toml.read_listing listing).1 distinct
  refine ofToml_eq_ok_iff.mpr ⟨entries, read, ?_⟩
  apply configures_of_settings (Toml.read_proper read)
  rw [view]
  exact same.map _

theorem ofToml_of_perm {first second : Listing} (same : first.settings.Perm second.settings)
    (made : ofToml first.text = .ok config) : ofToml second.text = .ok config := by
  obtain ⟨entries, read, configures⟩ := ofToml_eq_ok_iff.mp made
  have distinct : (first.settings.map Prod.fst).Nodup := by
    refine Decidable.byContradiction fun repeats => ?_
    obtain ⟨stop, failed⟩ := (Toml.read_listing first).2 repeats
    cases read.symm.trans failed
  obtain ⟨_, read', view⟩ := (Toml.read_listing first).1 distinct
  cases read.symm.trans read'
  obtain ⟨others, read_second, view_second⟩ :=
    (Toml.read_listing second).1 ((same.map Prod.fst).nodup_iff.mp distinct)
  refine ofToml_eq_ok_iff.mpr ⟨others, read_second, configures.perm ?_⟩
  rw [view, view_second]
  exact same.map _

theorem exists_listing (fits : ∀ setting number, Setting.value? config setting = some number →
    (number.toNat : Int) ≤ Toml.highestInteger) : ∃ listing : Listing, listing.settings = config.settings := by
  apply Toml.exists_listing
  intro name value among
  obtain ⟨setting, number, has, rfl, rfl⟩ := mem_settings.mp among
  have bound := fits setting number has
  refine ⟨?_, Int.natCast_nonneg _, bound⟩
  cases setting <;> exact ⟨by decide, List.all_eq_true.mp (by decide)⟩

theorem ofToml_of_misfits {good rest : Entries} {bad : Label × Node} {reason : Misfit} {left : Nat}
    (read : Toml.read text = .ok (good ++ bad :: rest)) (fits : ∀ entry ∈ good, Fits entry)
    (misfits : Misfits bad (reason, left)) :
    ofToml text = .error (.unfit reason (.ofLeft text left)) := by
  rw [ofToml, read]
  simp only [ofEntries, foldlM_of_misfits fits misfits]

inductive Spoils : String → Int → Misfit → Prop
  | unknownKey (name : String) (value : Int) (unknown : ∀ setting : Setting, name ≠ setting.name) :
      Spoils name value (.unknownKey name)
  | negative (setting : Setting) (value : Int) (below : value < 0) :
      Spoils setting.name value (.negative value setting)

theorem ofToml_listing_of_spoils {listing : Listing} {good rest : List (String × Int)} {name : String}
    {value : Int} {reason : Misfit} (distinct : (listing.settings.map Prod.fst).Nodup)
    (split : listing.settings = good ++ (name, value) :: rest)
    (fits : ∀ other ∈ good, ∃ setting : Setting, other.1 = setting.name ∧ 0 ≤ other.2)
    (spoils : Spoils name value reason) :
    ∃ place, ofToml listing.text = .error (.unfit reason place) := by
  obtain ⟨entries, read, view⟩ := (Toml.read_listing listing).1 distinct
  rw [split, List.map_append, List.map_cons] at view
  obtain ⟨first, others, rfl, good_view, others_view⟩ := List.map_eq_append_iff.mp view
  obtain ⟨⟨label, node⟩, later, rfl, bad_view, -⟩ := List.map_eq_cons_iff.mp others_view
  obtain ⟨named, rfl⟩ : label.name = name ∧ node = .integer value := Prod.mk.inj bad_view
  have all_fit : ∀ entry ∈ first, Fits entry := by
    intro entry among
    have here : (entry.1.name, entry.2) ∈ first.map fun entry => (entry.1.name, entry.2) :=
      List.mem_map_of_mem among
    rw [good_view] at here
    obtain ⟨other, old, same⟩ := List.mem_map.mp here
    obtain ⟨setting, owns, positive⟩ := fits other old
    obtain ⟨name_eq, node_eq⟩ := Prod.mk.inj same
    exact fits_iff.mpr ⟨setting, other.2, name_eq.symm.trans owns, node_eq.symm, positive⟩
  cases spoils with
  | unknownKey _ _ unknown =>
    subst named
    exact ⟨_, ofToml_of_misfits read all_fit (.unknownKey label _ unknown)⟩
  | negative setting _ below =>
    exact ⟨_, ofToml_of_misfits read all_fit (.negative label setting value named below)⟩

/-- A text makes a configuration exactly if its entries configure one. Neither their order nor the layout
counts, and of entries that do not fit the first one decides. -/
theorem ofToml_intended :
    (∀ text config, ofToml text = .ok config ↔
      ∃ entries, Toml.read text = .ok entries ∧ Configures entries config) ∧
    (∀ first second : Listing, first.settings.Perm second.settings →
      (ofToml first.text).toOption = (ofToml second.text).toOption) ∧
    (∀ (listing : Listing) config, listing.settings.Perm config.settings →
      ofToml listing.text = .ok config) ∧
    (∀ config, (∀ setting number, Setting.value? config setting = some number →
      (number.toNat : Int) ≤ Toml.highestInteger) → ∃ listing : Listing, listing.settings = config.settings) ∧
    (∀ text entries, Toml.read text = .ok entries → (∃ config, ofToml text = .ok config) ∨
      ∃ good bad rest problem, entries = good ++ bad :: rest ∧ (∀ entry ∈ good, Fits entry) ∧
        Misfits bad problem) ∧
    (∀ text good bad rest reason left, Toml.read text = .ok (good ++ bad :: rest) →
      (∀ entry ∈ good, Fits entry) → Misfits bad (reason, left) →
      ofToml text = .error (.unfit reason (.ofLeft text left))) ∧
    (∀ (listing : Listing) good rest name value reason, (listing.settings.map Prod.fst).Nodup →
      listing.settings = good ++ (name, value) :: rest →
      (∀ other ∈ good, ∃ setting : Setting, other.1 = setting.name ∧ 0 ≤ other.2) →
      Spoils name value reason → ∃ place, ofToml listing.text = .error (.unfit reason place)) := by
  refine ⟨fun text config => ofToml_eq_ok_iff, ?_, fun listing config => ofToml_listing listing,
    fun config => exists_listing, ?_, ?_, ?_⟩
  next =>
    intro first second same
    have forth (config : ChannelConfig) :
        ofToml first.text = .ok config → ofToml second.text = .ok config := ofToml_of_perm same
    have back (config : ChannelConfig) :
        ofToml second.text = .ok config → ofToml first.text = .ok config := ofToml_of_perm same.symm
    cases made : ofToml first.text with
    | ok config => rw [forth config made]
    | error failure =>
      cases made_second : ofToml second.text with
      | ok config => cases made.symm.trans (back config made_second)
      | error failure => rfl
  next =>
    intro text entries read
    rcases fit_or_first_misfit entries with fits | misfit
    next =>
      obtain ⟨config, made, -⟩ := foldlM_of_fits (Toml.read_proper read).distinct fits default
      refine .inl ⟨config, ?_⟩
      rw [ofToml, read]
      simp only [ofEntries, made]
    next => exact .inr misfit
  next => exact fun text good bad rest reason left => ofToml_of_misfits
  next => exact fun listing good rest name value reason => ofToml_listing_of_spoils

def compactText : String := "recv_capacity = 0x2_00 # small\r\n\tread_timeout_ms=7"

def spaciousText : String := "\ufeff\n\"read_timeout_ms\" = +7\n\n# staging\nrecv_capacity\t= 512\n"

def spoiledText : String := "recv_capacity = 1\nread_timeout_ms = -1\nrecv_capacty = true\n"

theorem ofToml_two_layouts :
    (∃ entries, Toml.read compactText = .ok entries ∧ Configures entries ⟨512, 10000, some 7⟩) ∧
      (∃ entries, Toml.read spaciousText = .ok entries ∧ Configures entries ⟨512, 10000, some 7⟩) ∧
      ∃ place, ofToml spoiledText = .error (.unfit (.negative (-1) .readMillis) place) :=
  ⟨(ofToml_intended.1 _ _).mp rfl, (ofToml_intended.1 _ _).mp rfl, _, rfl⟩

end ChannelConfig

end Conduit
