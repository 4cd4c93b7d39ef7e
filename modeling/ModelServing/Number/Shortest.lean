import ModelServing.Number.Double
import ModelServing.Text.Decimal
/-! The text of a double: the fewest decimal digits that lie in its rounding interval, the nearest
such if there are two, in positional notation for middling exponents and in scientific notation
otherwise. -/
namespace ModelServing.Double

/-- Magnitudes between `low / width` and `high / width` units round to one double; the ends belong
to it when its significand is even. -/
structure Interval where
  low : Nat
  high : Nat
  closed : Bool

def interval (d : Double) : Interval :=
  let m := d.significand
  let step := Nat.pow 2 d.scale
  let gap := if m = fractionSize ∧ d.scale ≠ 0 then 1 else 2
  ⟨(4 * m - gap) * step, (4 * m + 2) * step, m % 2 == 0⟩

def Interval.holds (i : Interval) (n : Nat) (e : Int) : Bool :=
  let num := n * 4 * unitsOfOne * Nat.pow 10 e.toNat
  let den := Nat.pow 10 (-e).toNat
  if i.closed then i.low * den ≤ num && num ≤ i.high * den
  else i.low * den < num && num < i.high * den

def decade (d : Double) : Nat → Nat → Nat
  | 0, k => k
  | fuel + 1, k =>
    if d.units * Nat.pow 10 (324 - k) < unitsOfOne * Nat.pow 10 (k - 324) then k
    else decade d fuel (k + 1)

def neighbour (d : Double) (i : Interval) (e : Int) : Option Nat :=
  let num := d.units * Nat.pow 10 (-e).toNat
  let den := unitsOfOne * Nat.pow 10 e.toNat
  let below := num / den
  let r := num % den
  match i.holds below e, i.holds (below + 1) e with
  | true, true =>
    if 2 * r < den then some below
    else if den < 2 * r then some (below + 1)
    else some (below + below % 2)
  | true, false => some below
  | false, true => some (below + 1)
  | false, false => none

def search (d : Double) (i : Interval) (top : Int) : Nat → Nat → Nat × Int
  | 0, places => (0, top - places)
  | fuel + 1, places =>
    match neighbour d i (top - places) with
    | some n => (n, top - places)
    | none => search d i top fuel (places + 1)

def trimZeros : Nat → Nat × Int → Nat × Int
  | 0, p => p
  | fuel + 1, (n, e) => if n ≠ 0 ∧ n % 10 = 0 then trimZeros fuel (n / 10, e + 1) else (n, e)

def shortest (d : Double) : Nat × Int :=
  trimZeros 20 (search d d.interval ((decade d 640 0 : Int) - 324) 17 1)

structure Notation where
  least : Int
  greatest : Int

def notations : Notation := ⟨-5, 15⟩

def positional (digits : List Char) (point : Int) : List Char :=
  if point ≤ 0 then '0' :: '.' :: (List.replicate (-point).toNat '0' ++ digits)
  else
    let n := point.toNat
    if digits.length ≤ n then digits ++ List.replicate (n - digits.length) '0' ++ ['.', '0']
    else digits.take n ++ '.' :: digits.drop n

def scientific (digits : List Char) (exponent : Int) : List Char :=
  let mantissa := match digits with
    | [] => []
    | [d] => [d]
    | d :: rest => d :: '.' :: rest
  let sign := if exponent < 0 then '-' else '+'
  mantissa ++ 'e' :: sign :: Text.decimalChars exponent.natAbs

def magnitudeChars (d : Double) : List Char :=
  if d.isZero then ['0', '.', '0']
  else
    let (n, e) := d.shortest
    let digits := Text.decimalChars n
    let lead := e + digits.length - 1
    if notations.least ≤ lead ∧ lead ≤ notations.greatest then positional digits (lead + 1)
    else scientific digits lead

def chars (d : Double) : List Char :=
  if d.isNegative then '-' :: d.magnitudeChars else d.magnitudeChars

end ModelServing.Double
