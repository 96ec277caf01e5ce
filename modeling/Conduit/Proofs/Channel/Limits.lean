import Conduit.Channel.Config
set_option autoImplicit false

namespace Conduit

namespace Duration

variable {a b limit : Duration}

instance : LE Duration where
  le a b := a.seconds < b.seconds ∨ a.seconds = b.seconds ∧ a.nanos ≤ b.nanos

theorem le_iff_toNanos_le : a ≤ b ↔ a.toNanos ≤ b.toNanos := by
  have low : a.nanos < 1000000000 := a.nanos_lt
  have low' : b.nanos < 1000000000 := b.nanos_lt
  show a.seconds < b.seconds ∨ a.seconds = b.seconds ∧ a.nanos ≤ b.nanos ↔ _
  rw [UInt64.lt_iff_toNat_lt, ← UInt64.toNat_inj]
  simp only [toNanos, nanosPerSecond]
  omega

theorem toNanos_inj : a.toNanos = b.toNanos ↔ a = b := by
  refine ⟨fun same => ?_, congrArg toNanos⟩
  obtain ⟨seconds, nanos, low⟩ := a
  obtain ⟨seconds', nanos', low'⟩ := b
  simp only [toNanos, nanosPerSecond] at same low low'
  have seconds_eq : seconds = seconds' := UInt64.toNat_inj.mp (by omega)
  have nanos_eq : nanos = nanos' := by omega
  simp only [seconds_eq, nanos_eq]

def mostMillis : Nat := 18446744073709551615

theorem toNat_toMillis (limit : Duration) :
    limit.toMillis.toNat = min (limit.toNanos / 1000000) mostMillis := by
  have most : UInt64.size - 1 = mostMillis := rfl
  rw [toMillis, most, wholeMillis_eq, UInt64.toNat_ofNat_of_lt']
  exact Nat.lt_of_le_of_lt (Nat.min_le_right _ _) (by decide)

theorem toNanos_ofMillis (millis : UInt64) : (ofMillis millis).toNanos = millis.toNat * 1000000 := by
  have thousand : (1000 : UInt64).toNat = 1000 := rfl
  simp only [toNanos, ofMillis, nanosPerSecond, UInt64.toNat_div, UInt64.toNat_mod, thousand]
  omega

def wideMillis (limit : Duration) : BitVec 128 :=
  .ofNat 128 limit.seconds.toNat * 1000 + .ofNat 128 (limit.nanos / 1000000)

theorem toNat_wideMillis (limit : Duration) : limit.wideMillis.toNat = limit.toNanos / 1000000 := by
  have seconds : limit.seconds.toNat < 18446744073709551616 := limit.seconds.toNat_lt
  have nanos : limit.nanos < 1000000000 := limit.nanos_lt
  have thousand : (1000 : BitVec 128).toNat = 1000 := rfl
  rw [← wholeMillis_eq, wholeMillis, wideMillis]
  simp only [BitVec.toNat_add, BitVec.toNat_mul, BitVec.toNat_ofNat, Nat.reducePow, thousand]
  omega

def partNanos (millis : UInt64) : UInt32 := (millis % 1000).toUInt32 * 1000000

theorem toNat_partNanos (millis : UInt64) : (partNanos millis).toNat = (ofMillis millis).nanos := by
  have thousand : (1000 : UInt64).toNat = 1000 := rfl
  have million : (1000000 : UInt32).toNat = 1000000 := rfl
  simp only [partNanos, ofMillis, UInt32.toNat_mul, UInt64.toNat_toUInt32, UInt64.toNat_mod, thousand, million,
    Nat.reducePow]
  omega

def kept (limit : Duration) : Duration := ofMillis limit.toMillis

theorem toNanos_kept (limit : Duration) :
    limit.kept.toNanos = min (limit.toNanos / 1000000) mostMillis * 1000000 := by
  rw [kept, toNanos_ofMillis, toNat_toMillis]

theorem kept_kept (limit : Duration) : limit.kept.kept = limit.kept := by
  rw [kept, kept, toMillis_ofMillis]

theorem kept_le (limit : Duration) : limit.kept ≤ limit := by
  rw [le_iff_toNanos_le, toNanos_kept]
  omega

theorem kept_le_kept (longer : a ≤ b) : a.kept ≤ b.kept := by
  rw [le_iff_toNanos_le] at longer
  rw [le_iff_toNanos_le, toNanos_kept, toNanos_kept]
  omega

theorem kept_eq_iff : limit.kept = limit ↔ ∃ millis ≤ mostMillis, limit.toNanos = millis * 1000000 := by
  rw [← toNanos_inj, toNanos_kept]
  constructor
  next => exact fun same => ⟨_, Nat.min_le_right _ _, same.symm⟩
  next =>
    rintro ⟨millis, fits, whole⟩
    omega

theorem short_of_kept_iff :
    limit.toNanos < limit.kept.toNanos + 1000000 ↔ limit.toNanos / 1000000 ≤ mostMillis := by
  rw [toNanos_kept]
  omega

end Duration

namespace ConfigChange

def capacity? : ConfigChange → Option UInt64
  | recvCapacity capacity => some capacity
  | _ => none

def connect? : ConfigChange → Option UInt64
  | connectLimit limit => some limit.toMillis
  | _ => none

def read? : ConfigChange → Option (Option UInt64)
  | readLimit limit => some (limit.map Duration.toMillis)
  | _ => none

variable {α : Type}

def last? (set? : ConfigChange → Option α) (changes : List ConfigChange) : Option α :=
  (changes.filterMap set?).getLast?

theorem last?_cons (set? : ConfigChange → Option α) (change : ConfigChange) (later : List ConfigChange) :
    last? set? (change :: later) = (last? set? later).or (set? change) := by
  unfold last?
  cases set : set? change with
  | none => rw [List.filterMap_cons_none set, Option.or_none]
  | some value =>
    rw [List.filterMap_cons_some set, List.getLast?_cons]
    cases (later.filterMap set?).getLast? <;> rfl

theorem foldl_apply (setting : ChannelConfig → α) (set? : ConfigChange → Option α)
    (step : ∀ config change, setting (apply config change) = (set? change).getD (setting config))
    (config : ChannelConfig) (changes : List ConfigChange) :
    setting (changes.foldl apply config) = (last? set? changes).getD (setting config) := by
  induction changes generalizing config with
  | nil => rfl
  | cons change later ih =>
    rw [List.foldl_cons, ih, step, last?_cons]
    cases last? set? later <;> rfl

end ConfigChange

namespace ChannelConfig

open Duration (mostMillis)

structure KeepsLimit (config : ChannelConfig) (limit : Duration) : Prop where
  connect : (config.withConnectLimit limit).connectLimit = limit.kept
  read : (config.withReadLimit (some limit)).readLimit = some limit.kept
  toNanos : limit.kept.toNanos = min (limit.toNanos / 1000000) mostMillis * 1000000
  unwrapped : limit.wideMillis.toNat = limit.toNanos / 1000000 ∧
    (Duration.partNanos limit.toMillis).toNat = limit.kept.nanos
  le : limit.kept ≤ limit
  short_iff : limit.toNanos < limit.kept.toNanos + 1000000 ↔ limit.toNanos / 1000000 ≤ mostMillis
  monotone : ∀ longer, limit ≤ longer → limit.kept ≤ longer.kept
  again : limit.kept.kept = limit.kept
  eq_iff : limit.kept = limit ↔ ∃ millis ≤ mostMillis, limit.toNanos = millis * 1000000

theorem keepsLimit (config : ChannelConfig) (limit : Duration) : config.KeepsLimit limit := by
  constructor
  case connect => rfl
  case read => rfl
  case toNanos => exact limit.toNanos_kept
  case unwrapped => exact ⟨limit.toNat_wideMillis, Duration.toNat_partNanos _⟩
  case le => exact limit.kept_le
  case short_iff => exact Duration.short_of_kept_iff
  case monotone => exact fun longer => Duration.kept_le_kept
  case again => exact limit.kept_kept
  case eq_iff => exact Duration.kept_eq_iff

theorem withConnectLimit_connectLimit (config : ChannelConfig) :
    config.withConnectLimit config.connectLimit = config := by
  rw [withConnectLimit, connectLimit, Duration.toMillis_ofMillis]

theorem withReadLimit_readLimit (config : ChannelConfig) : config.withReadLimit config.readLimit = config := by
  have same : config.readLimit.map Duration.toMillis = config.readMillis := by
    rw [readLimit, Option.map_map]
    cases config.readMillis with
    | none => rfl
    | some millis => rw [Option.map_some, Function.comp_apply, Duration.toMillis_ofMillis]
  rw [withReadLimit, same]

/-- What changes to a configuration lead to. -/
structure Dependable (config : ChannelConfig) : Prop where
  limit : ∀ limit, config.KeepsLimit limit
  millis : ∀ millis, (Duration.ofMillis millis).toNanos = millis.toNat * 1000000 ∧
    (Duration.ofMillis millis).toMillis = millis
  connect_again : config.withConnectLimit config.connectLimit = config
  read_again : config.withReadLimit config.readLimit = config
  recvCapacity : ∀ changes, (changes.foldl ConfigChange.apply config).recvCapacity =
    (ConfigChange.last? ConfigChange.capacity? changes).getD config.recvCapacity
  connectMillis : ∀ changes, (changes.foldl ConfigChange.apply config).connectMillis =
    (ConfigChange.last? ConfigChange.connect? changes).getD config.connectMillis
  readMillis : ∀ changes, (changes.foldl ConfigChange.apply config).readMillis =
    (ConfigChange.last? ConfigChange.read? changes).getD config.readMillis

theorem config_dependable (config : ChannelConfig) : config.Dependable := by
  constructor
  case limit => exact config.keepsLimit
  case millis => exact fun millis => ⟨Duration.toNanos_ofMillis millis, Duration.toMillis_ofMillis millis⟩
  case connect_again => exact config.withConnectLimit_connectLimit
  case read_again => exact config.withReadLimit_readLimit
  case recvCapacity =>
    refine ConfigChange.foldl_apply (·.recvCapacity) ConfigChange.capacity? (fun _ change => ?_) config
    cases change <;> rfl
  case connectMillis =>
    refine ConfigChange.foldl_apply (·.connectMillis) ConfigChange.connect? (fun _ change => ?_) config
    cases change <;> rfl
  case readMillis =>
    refine ConfigChange.foldl_apply (·.readMillis) ConfigChange.read? (fun _ change => ?_) config
    cases change <;> rfl

-- The last nanosecond before the largest number of milliseconds is passed.
def brim : Duration := ⟨18446744073709551, 615999999, by decide⟩

def retuned : List ConfigChange :=
  [ .readLimit (some brim), .connectLimit (.ofMillis 7), .recvCapacity 1, .readLimit none, .connectLimit brim ]

theorem retuned_dependable :
    brim.kept ≤ brim ∧ brim.kept ≠ brim ∧ brim.toNanos < brim.kept.toNanos + 1000000 ∧
      (retuned.foldl ConfigChange.apply default).recvCapacity = 1 ∧
      (retuned.foldl ConfigChange.apply default).connectMillis = 18446744073709551615 ∧
      (retuned.foldl ConfigChange.apply default).readMillis = none := by
  have dependable := config_dependable default
  have limit := dependable.limit brim
  refine ⟨limit.le, fun same => ?_, limit.short_iff.mpr (by decide), ?_, ?_, ?_⟩
  next =>
    obtain ⟨millis, -, whole⟩ := limit.eq_iff.mp same
    have nanos : brim.toNanos = 18446744073709551615999999 := rfl
    omega
  next => exact (dependable.recvCapacity retuned).trans (by decide)
  next => exact (dependable.connectMillis retuned).trans (by decide)
  next => exact (dependable.readMillis retuned).trans (by decide)

end ChannelConfig

end Conduit
