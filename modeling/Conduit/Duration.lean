set_option autoImplicit false

namespace Conduit

def nanosPerSecond : Nat := 1000000000

structure Duration where
  seconds : UInt64
  nanos : Nat
  nanos_lt : nanos < nanosPerSecond
  deriving DecidableEq

namespace Duration

def ofMillis (millis : UInt64) : Duration :=
  { seconds := millis / 1000
    nanos := (millis % 1000).toNat * 1000000
    nanos_lt := by
      have bound : (millis % 1000).toNat < 1000 := by
        rw [UInt64.toNat_mod]
        exact Nat.mod_lt _ (by decide)
      simp only [nanosPerSecond]
      omega }

def toNanos (duration : Duration) : Nat :=
  duration.seconds.toNat * nanosPerSecond + duration.nanos

def wholeMillis (duration : Duration) : Nat :=
  duration.seconds.toNat * 1000 + duration.nanos / 1000000

theorem wholeMillis_eq (duration : Duration) : duration.wholeMillis = duration.toNanos / 1000000 := by
  unfold wholeMillis toNanos nanosPerSecond
  omega

def toMillis (duration : Duration) : UInt64 :=
  UInt64.ofNat (min duration.wholeMillis (UInt64.size - 1))

theorem wholeMillis_ofMillis (millis : UInt64) : (ofMillis millis).wholeMillis = millis.toNat := by
  show (millis / 1000).toNat * 1000 + (millis % 1000).toNat * 1000000 / 1000000 = millis.toNat
  rw [UInt64.toNat_div, UInt64.toNat_mod, Nat.mul_div_cancel _ (by decide)]
  exact Nat.div_add_mod' _ _

theorem toMillis_ofMillis (millis : UInt64) : (ofMillis millis).toMillis = millis := by
  have bound : millis.toNat < UInt64.size := millis.toNat_lt
  rw [toMillis, wholeMillis_ofMillis, Nat.min_eq_left (by omega), UInt64.ofNat_toNat]

def fractionText (fraction places : Nat) : String :=
  let digits := Nat.toDigits 10 fraction
  let padded := List.replicate (places - digits.length) '0' ++ digits
  let shown := (padded.reverse.dropWhile (· == '0')).reverse
  if shown.isEmpty then "" else "." ++ String.ofList shown

def unitText (whole fraction places : Nat) (unit : String) : String :=
  toString whole ++ fractionText fraction places ++ unit

def text (duration : Duration) : String :=
  let nanos := duration.nanos
  if duration.seconds ≠ 0 then unitText duration.seconds.toNat nanos 9 "s"
  else if 1000000 ≤ nanos then unitText (nanos / 1000000) (nanos % 1000000) 6 "ms"
  else if 1000 ≤ nanos then unitText (nanos / 1000) (nanos % 1000) 3 "µs"
  else unitText nanos 0 0 "ns"

end Duration

end Conduit
