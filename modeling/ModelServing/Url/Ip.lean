import ModelServing.Text.Decimal
import ModelServing.Text.Hex
import ModelServing.Url.Fault
/-! Addresses as hosts: four octets, written in up to four parts of base 8, 10 or 16, and eight
sixteen-bit pieces, written between brackets. -/
namespace ModelServing.Url

namespace Ipv4

def numeral (base acc : Nat) : List Char → Option Nat
  | [] => some acc
  | c :: rest => do
    let d ← Text.Hex.value c
    if d < base then numeral base (acc * base + d) rest else none

def part? : List Char → Option Nat
  | [] => none
  | '0' :: 'x' :: rest => numeral 16 0 rest
  | '0' :: 'X' :: rest => numeral 16 0 rest
  | '0' :: c :: rest => numeral 8 0 (c :: rest)
  | cs => numeral 10 0 cs

def parts (host : List Char) : List (List Char) :=
  let ps := host.splitOn '.'
  if ps.getLast? = some [] then ps.dropLast else ps

def endsInNumber (host : List Char) : Bool :=
  match (parts host).getLast? with
  | none => false
  | some [] => false
  | some last => last.all Text.isDigit || (part? last).isSome

def assemble (numbers : List Nat) : Option Nat :=
  match numbers.getLast? with
  | none => none
  | some last =>
    let leading := numbers.dropLast
    if 4 < numbers.length then none
    else if Nat.pow 256 (4 - leading.length) ≤ last then none
    else if leading.any fun n => 255 < n then none
    else
      some (leading.zipIdx.foldl (fun sum (n, i) => sum + n * Nat.pow 256 (3 - i)) last)

def parse (host : List Char) : Except Fault Nat :=
  match ((parts host).mapM part?).bind assemble with
  | some n => .ok n
  | none => .error .ipv4

def chars (n : Nat) : List Char :=
  Text.decimalChars (n / 16777216 % 256) ++ '.' :: (Text.decimalChars (n / 65536 % 256) ++
    '.' :: (Text.decimalChars (n / 256 % 256) ++ '.' :: Text.decimalChars (n % 256)))

end Ipv4

namespace Ipv6

def piece : Nat → Nat → List Char → Nat × List Char
  | 0, acc, cs => (acc, cs)
  | _ + 1, acc, [] => (acc, [])
  | n + 1, acc, c :: rest =>
    match Text.Hex.value c with
    | some d => piece n (16 * acc + d) rest
    | none => (acc, c :: rest)

def octet? (cs : List Char) : Option Nat :=
  match cs with
  | [] => none
  | ['0'] => some 0
  | '0' :: _ => none
  | cs => if cs.all Text.isDigit ∧ Text.digitsValue 0 cs < 256 then some (Text.digitsValue 0 cs)
          else none

def tail4? (cs : List Char) : Option (List Nat) :=
  match (cs.splitOn '.').mapM octet? with
  | some [a, b, c, d] => some [256 * a + b, 256 * c + d]
  | _ => none

def run? : Nat → List Char → Option (List Nat)
  | 0, _ => none
  | _ + 1, [] => some []
  | fuel + 1, cs =>
    if cs.contains '.' ∧ ¬cs.contains ':' then tail4? cs
    else
      let (n, rest) := piece 4 0 cs
      if rest.length = cs.length then none
      else
        match rest with
        | [] => some [n]
        | ':' :: [] => none
        | ':' :: more => (run? fuel more).map (n :: ·)
        | _ => none

def gap? : List Char → Option (List Char × List Char)
  | ':' :: ':' :: rest => some ([], rest)
  | c :: rest => (gap? rest).map fun (a, b) => (c :: a, b)
  | [] => none

def parse? (cs : List Char) : Option (List Nat) :=
  match gap? cs with
  | none => do
    let ps ← run? 9 cs
    if ps.length = 8 then some ps else none
  | some (before, after) => do
    if before.contains '.' then none
    else
      let a ← run? 9 before
      let b ← run? 9 after
      if a.length + b.length < 8 then
        some (a ++ List.replicate (8 - a.length - b.length) 0 ++ b)
      else none

def parse (cs : List Char) : Except Fault (List Nat) :=
  match parse? cs with
  | some ps => .ok ps
  | none => .error .ipv6

def hexChars (n : Nat) : List Char :=
  let cs := (Text.Hex.fixed 4 n).dropWhile (· = '0')
  if cs.isEmpty then ['0'] else cs

def zeroRun (ps : List Nat) : Nat := (ps.takeWhile (· = 0)).length

def longestRun : Nat → List Nat → Nat × Nat
  | _, [] => (0, 0)
  | i, p :: rest =>
    let here := zeroRun (p :: rest)
    let later := longestRun (i + 1) rest
    if 0 < here ∧ later.2 ≤ here then (i, here) else later

def joined : List Nat → List Char
  | [] => []
  | [p] => hexChars p
  | p :: q :: rest => hexChars p ++ ':' :: joined (q :: rest)

def chars (ps : List Nat) : List Char :=
  let (i, n) := longestRun 0 ps
  if n < 2 then '[' :: (joined ps ++ [']'])
  else '[' :: (joined (ps.take i) ++ ':' :: ':' :: (joined (ps.drop (i + n)) ++ [']']))

end Ipv6

end ModelServing.Url
