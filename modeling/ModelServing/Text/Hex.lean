/-! Octets and their two-digit hexadecimal text. Digits are written in lower case and read in
either case. -/
namespace ModelServing

abbrev Bytes := List UInt8

namespace Text.Hex

def digit (n : Nat) : Char :=
  if n < 10 then Char.ofNat (48 + n) else Char.ofNat (87 + n)

def value (c : Char) : Option Nat :=
  if '0' ≤ c ∧ c ≤ '9' then some (c.toNat - 48)
  else if 'a' ≤ c ∧ c ≤ 'f' then some (c.toNat - 87)
  else if 'A' ≤ c ∧ c ≤ 'F' then some (c.toNat - 55)
  else none

theorem value_digit (n : Nat) (h : n < 16) : value (digit n) = some n := by
  have all : ∀ k ∈ List.range 16, value (digit k) = some k := by decide
  exact all n (List.mem_range.2 h)

def encode : Bytes → List Char
  | [] => []
  | b :: rest => digit (b.toNat / 16) :: digit (b.toNat % 16) :: encode rest

def decode : List Char → Option Bytes
  | [] => some []
  | [_] => none
  | a :: b :: rest => do
    let high ← value a
    let low ← value b
    let tail ← decode rest
    some (UInt8.ofNat (16 * high + low) :: tail)

def fixed : Nat → Nat → List Char
  | 0, _ => []
  | width + 1, n => fixed width (n / 16) ++ [digit (n % 16)]

end Text.Hex

end ModelServing
