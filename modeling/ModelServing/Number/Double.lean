/-! Double-precision numbers as their 64 bits, with exact arithmetic on naturals behind every
operation: a magnitude is `significand * 2 ^ scale / 2 ^ 1074`. Signs are kept apart and there is
no infinity; an operation whose result is too large gives nothing. -/
namespace ModelServing

structure Double where
  bits : UInt64
  deriving DecidableEq, Repr

def roundedQuotient (n d : Nat) : Nat :=
  let q := n / d
  let r := n % d
  if 2 * r < d then q else if d < 2 * r then q + 1 else q + q % 2

namespace Double

def zero : Double := ⟨0⟩

def signWeight : Nat := 9223372036854775808

def fractionSize : Nat := 4503599627370496

def unitsOfOne : Nat := Nat.pow 2 1074

def isNegative (d : Double) : Bool := signWeight ≤ d.bits.toNat

def exponentField (d : Double) : Nat := d.bits.toNat / fractionSize % 2048

def fraction (d : Double) : Nat := d.bits.toNat % fractionSize

def isFinite (d : Double) : Bool := d.exponentField < 2047

def significand (d : Double) : Nat :=
  if d.exponentField = 0 then d.fraction else fractionSize + d.fraction

def scale (d : Double) : Nat := d.exponentField - 1

def units (d : Double) : Nat := d.significand * Nat.pow 2 d.scale

def isZero (d : Double) : Bool := d.units == 0

def negate (d : Double) : Double :=
  ⟨UInt64.ofNat ((d.bits.toNat + signWeight) % UInt64.size)⟩

/-- The double nearest to `num / den`, unless it lies past the largest. A significand that rounds
up to the next power of two carries into the exponent by plain addition. -/
def ofRatio (num den : Nat) : Option Double :=
  let whole := num * unitsOfOne / den
  let scale := if whole < 2 * fractionSize then 0 else Nat.log2 whole - 52
  let bits := scale * fractionSize + roundedQuotient (num * unitsOfOne) (den * Nat.pow 2 scale)
  if bits < 2047 * fractionSize then some ⟨UInt64.ofNat bits⟩ else none

def ofNat? (n : Nat) : Option Double := ofRatio n 1

def magnitudeMul (a b : Double) : Option Double :=
  ofRatio (a.units * b.units) (unitsOfOne * unitsOfOne)

def magnitudeDiv (a b : Double) : Option Double := ofRatio a.units b.units

def powerOfTen (k : Nat) : Double := (ofNat? (Nat.pow 10 k)).getD zero

def shiftDown (d : Double) (k : Nat) : Option Double :=
  if k ≤ 308 then d.magnitudeDiv (powerOfTen k)
  else if d.isZero then some d
  else do
    let d ← d.magnitudeDiv (powerOfTen 308)
    d.shiftDown (k - 308)
termination_by k

def shiftUp (d : Double) (k : Nat) : Option Double :=
  if k ≤ 308 then d.magnitudeMul (powerOfTen k) else if d.isZero then some d else none

/-- The magnitude that decimal notation with these digits and this exponent denotes. It is rounded
once for the digits and once for the power of ten. -/
def ofDecimal (digits : Nat) (exponent : Int) : Option Double := do
  let d ← ofNat? digits
  if 0 ≤ exponent then d.shiftUp exponent.toNat else d.shiftDown (-exponent).toNat

def signed (negative : Bool) (d : Double) : Double := if negative then d.negate else d

end Double

end ModelServing
