import ModelServing.Text.Percent
/-! Punycode: a label of any characters as ASCII. The characters past ASCII are taken in ascending
order, each as the distance from the one before in variable-length digits of base 36. -/
namespace ModelServing.Url.Punycode

def digit (d : Nat) : Char := if d < 26 then Char.ofNat (97 + d) else Char.ofNat (22 + d)

def value (c : Char) : Option Nat :=
  if 'a' ≤ c ∧ c ≤ 'z' then some (c.toNat - 97)
  else if 'A' ≤ c ∧ c ≤ 'Z' then some (c.toNat - 65)
  else if '0' ≤ c ∧ c ≤ '9' then some (c.toNat - 22)
  else none

def threshold (bias k : Nat) : Nat :=
  if k ≤ bias then 1 else if bias + 26 ≤ k then 26 else k - bias

def shrink (delta k : Nat) : Nat :=
  if 455 < delta then shrink (delta / 35) (k + 36) else k + 36 * delta / (delta + 38)
termination_by delta

def adapt (delta points : Nat) (first : Bool) : Nat :=
  let delta := if first then delta / 700 else delta / 2
  shrink (delta + delta / points) 0

def distance (bias : Nat) : Nat → Nat → Nat → List Char
  | 0, _, _ => []
  | fuel + 1, k, q =>
    let t := threshold bias k
    if q < t then [digit q]
    else digit (t + (q - t) % (36 - t)) :: distance bias fuel (k + 36) ((q - t) / (36 - t))

structure State where
  written : List Char
  delta : Nat
  bias : Nat
  handled : Nat

def visit (basic m : Nat) (s : State) (c : Char) : State :=
  if c.toNat < m then { s with delta := s.delta + 1 }
  else if c.toNat = m then
    ⟨s.written ++ distance s.bias 32 36 s.delta, 0,
      adapt s.delta (s.handled + 1) (s.handled = basic), s.handled + 1⟩
  else s

def pending (label : List Char) : List Nat :=
  ((label.map Char.toNat).filter (0x80 ≤ ·)).mergeSort.eraseDups

def rounds (label : List Char) (basic : Nat) : Nat → List Nat → State → State
  | _, [], s => s
  | n, m :: rest, s =>
    let s := { s with delta := s.delta + (m - n) * (s.handled + 1) }
    let s := label.foldl (visit basic m) s
    rounds label basic (m + 1) rest { s with delta := s.delta + 1 }

def encode (label : List Char) : List Char :=
  let basic := label.filter (·.toNat < 0x80)
  let s := rounds label basic.length 0x80 (pending label) ⟨[], 0, 72, basic.length⟩
  basic ++ (if basic.isEmpty then [] else ['-']) ++ s.written

def readDistance (bias : Nat) : Nat → Nat → Nat → List Char → Option (Nat × List Char)
  | _, _, _, [] => none
  | k, weight, i, c :: rest => do
    let d ← value c
    let i := i + d * weight
    let t := threshold bias k
    if d < t then some (i, rest)
    else if 4294967296 ≤ weight * (36 - t) then none
    else readDistance bias (k + 36) (weight * (36 - t)) i rest

def insertAt (i : Nat) (c : Char) (cs : List Char) : List Char := cs.take i ++ c :: cs.drop i

def readAll : Nat → Nat → Nat → Nat → List Char → List Char → Option (List Char)
  | _, _, _, _, out, [] => some out
  | 0, _, _, _, _, _ => none
  | fuel + 1, n, i, bias, out, cs => do
    let (j, rest) ← readDistance bias 36 1 i cs
    let size := out.length + 1
    let n := n + j / size
    if h : n.isValidChar then
      let at_ := j % size
      readAll fuel n (at_ + 1) (adapt (j - i) size (i = 0)) (insertAt at_ (Char.ofNatAux n h) out) rest
    else none

def decode (text : List Char) : Option (List Char) :=
  let tail := (text.reverse.takeWhile (· ≠ '-')).reverse
  let basic := (text.take (text.length - tail.length)).dropLast
  readAll text.length 0x80 0 72 basic tail

end ModelServing.Url.Punycode
