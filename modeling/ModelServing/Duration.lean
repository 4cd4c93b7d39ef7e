import ModelServing.Text.Decimal
/-! Lengths of time in whole nanoseconds, up to the largest that a 64-bit count of seconds can hold.
Sums and products stay at that limit. -/
namespace ModelServing

namespace Duration

def nanosPerSecond : Nat := 1000000000

def nanosPerMilli : Nat := 1000000

def nanosPerMicro : Nat := 1000

def limit : Nat := UInt64.size * nanosPerSecond - 1

end Duration

@[ext]
structure Duration where
  nanos : Nat
  fits : nanos ≤ Duration.limit
  deriving DecidableEq, Repr

namespace Duration

def ofNanos (n : Nat) : Duration := ⟨Min.min n limit, Nat.min_le_right n limit⟩

def ofParts (seconds nanos : Nat) : Duration := ofNanos (seconds * nanosPerSecond + nanos)

def ofMillis (n : Nat) : Duration := ofNanos (n * nanosPerMilli)

def ofSeconds (n : Nat) : Duration := ofNanos (n * nanosPerSecond)

def longest : Duration := ⟨limit, Nat.le_refl limit⟩

theorem ofNanosFits {n : Nat} (fits : n ≤ limit) : (ofNanos n).nanos = n := Nat.min_eq_left fits

def seconds (d : Duration) : Nat := d.nanos / nanosPerSecond

def subsecond (d : Duration) : Nat := d.nanos % nanosPerSecond

/-- Whole milliseconds; a part of one counts as one, so that nothing is over too soon. -/
def millis (d : Duration) : Nat := (d.nanos + (nanosPerMilli - 1)) / nanosPerMilli

def min (a b : Duration) : Duration := if a.nanos ≤ b.nanos then a else b

def double (d : Duration) : Duration := ofNanos (2 * d.nanos)

theorem minNanos (a b : Duration) : (a.min b).nanos = Min.min a.nanos b.nanos := by
  unfold min
  split
  · rename_i less
    exact (Nat.min_eq_left less).symm
  · rename_i more
    exact (Nat.min_eq_right (Nat.le_of_not_le more)).symm

theorem doubleNanos (d : Duration) : d.double.nanos = Min.min (2 * d.nanos) limit := rfl

theorem doubleGrows (d : Duration) : d.nanos ≤ d.double.nanos :=
  Nat.le_min.mpr ⟨Nat.le_mul_of_pos_left d.nanos Nat.two_pos, d.fits⟩

def fractionChars (part : Nat) : Nat → List Char
  | 0 => []
  | places + 1 =>
    if part = 0 then []
    else
      let unit := Nat.pow 10 places
      Text.decimalChars (part / unit) ++ fractionChars (part % unit) places

def quantity (whole part places : Nat) (unit : String) : String :=
  let fraction := fractionChars part places
  Text.decimal whole ++ String.ofList (if fraction.isEmpty then [] else '.' :: fraction) ++ unit

def text (d : Duration) : String :=
  if nanosPerSecond ≤ d.nanos then quantity d.seconds d.subsecond 9 "s"
  else if nanosPerMilli ≤ d.nanos then
    quantity (d.nanos / nanosPerMilli) (d.nanos % nanosPerMilli) 6 "ms"
  else if nanosPerMicro ≤ d.nanos then
    quantity (d.nanos / nanosPerMicro) (d.nanos % nanosPerMicro) 3 "µs"
  else quantity d.nanos 0 0 "ns"

end Duration

end ModelServing
