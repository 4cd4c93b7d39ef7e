import ModelServing.Json.Basic
import ModelServing.Json.Tree
/-! Values of JSON text. At most 127 containers nest; a number past the doubles and a surrogate
without its partner are refused; of members with one name the last one counts. -/
namespace ModelServing.Json

def Piece.decode : List Piece → Option (List Char)
  | [] => some []
  | .char c :: rest => (decode rest).map (c :: ·)
  | .unit high :: .unit low :: rest =>
    if 0xD800 ≤ high ∧ high < 0xDC00 then
      if 0xDC00 ≤ low ∧ low < 0xE000 then
        (decode rest).map (Char.ofNat (0x10000 + (high - 0xD800) * 0x400 + (low - 0xDC00)) :: ·)
      else none
    else if 0xDC00 ≤ high ∧ high < 0xE000 then none
    else (decode (.unit low :: rest)).map (Char.ofNat high :: ·)
  | .unit n :: rest =>
    if 0xD800 ≤ n ∧ n < 0xE000 then none else (decode rest).map (Char.ofNat n :: ·)

def Piece.string? (pieces : List Piece) : Option String := (decode pieces).map String.ofList

namespace Literal

def absorb (n : Nat) : List Char → Nat × List Char
  | [] => (n, [])
  | c :: rest =>
    let next := 10 * n + (c.toNat - 48)
    if next < UInt64.size then absorb next rest else (n, c :: rest)

def power (l : Literal) : Int :=
  match l.exponent with
  | none => 0
  | some (negative, digits) =>
    let n : Int := Text.digitsValue 0 digits
    if negative then -n else n

/-- Whole digits past the first that does not fit count as places; fraction digits past it are
dropped. -/
def double? (l : Literal) : Option Double :=
  let (n, left) := absorb 0 l.whole
  let fraction := l.fraction.getD []
  let (n, dropped) := absorb n fraction
  let places : Int := left.length - (fraction.length - dropped.length : Nat)
  (Double.ofDecimal n (places + l.power)).map (Double.signed l.negative)

def number? (l : Literal) : Option Number :=
  match l.fraction, l.exponent with
  | none, none =>
    let n := Text.digitsValue 0 l.whole
    if l.negative then
      if h : 0 < n ∧ n ≤ 9223372036854775808 then some (.negative ⟨n - 1, by omega⟩)
      else l.double?.map .double
    else if n < UInt64.size then some (.natural (UInt64.ofNat n))
    else l.double?.map .double
  | _, _ => l.double?.map .double

end Literal

mutual

def Tree.value? (depth : Nat) : Tree → Option Json
  | .null => some .null
  | .bool b => some (.bool b)
  | .number l => l.number?.map .number
  | .text pieces => (Piece.string? pieces).map .string
  | .array items =>
    match depth with
    | 0 => none
    | depth + 1 => (Tree.values? depth items).map .array
  | .object members =>
    match depth with
    | 0 => none
    | depth + 1 => (Tree.members? depth members).map Json.ofMembers

def Tree.values? (depth : Nat) : List Tree → Option (List Json)
  | [] => some []
  | t :: rest => do
    let v ← Tree.value? depth t
    let vs ← Tree.values? depth rest
    some (v :: vs)

def Tree.members? (depth : Nat) : List (List Piece × Tree) → Option (List (String × Json))
  | [] => some []
  | (key, t) :: rest => do
    let k ← Piece.string? key
    let v ← Tree.value? depth t
    let vs ← Tree.members? depth rest
    some ((k, v) :: vs)

end

def maxDepth : Nat := 127

def ofChars? (text : List Char) : Option Json := do
  let t ← Tree.ofChars? text
  t.value? maxDepth

def parse? (text : String) : Option Json := ofChars? text.toList

end ModelServing.Json
