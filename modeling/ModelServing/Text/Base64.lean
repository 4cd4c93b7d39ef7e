import ModelServing.Text.Hex
/-! Base64 in the standard alphabet, with padding. -/
namespace ModelServing.Text.Base64

def alphabet : List Char :=
  "ABCDEFGHIJKLMNOPQRSTUVWXYZabcdefghijklmnopqrstuvwxyz0123456789+/".toList

def digit (n : Nat) : Char := alphabet.getD n 'A'

def value (c : Char) : Option Nat := alphabet.findIdx? (· = c)

theorem value_digit (n : Nat) (h : n < 64) : value (digit n) = some n := by
  have all : ∀ k ∈ List.range 64, value (digit k) = some k := by decide
  exact all n (List.mem_range.2 h)

def digits : Nat → Nat → List Char
  | 0, _ => []
  | count + 1, n => digits count (n / 64) ++ [digit (n % 64)]

def encode : Bytes → List Char
  | a :: b :: c :: rest =>
    digits 4 ((a.toNat * 256 + b.toNat) * 256 + c.toNat) ++ encode rest
  | [a, b] => digits 3 ((a.toNat * 256 + b.toNat) * 4) ++ ['=']
  | [a] => digits 2 (a.toNat * 16) ++ ['=', '=']
  | [] => []

def decode : List Char → Option Bytes
  | [] => some []
  | [a, b, '=', '='] => do
    let n := (← value a) * 64 + (← value b)
    if n % 16 = 0 then some [UInt8.ofNat (n / 16)] else none
  | [a, b, c, '='] => do
    let n := ((← value a) * 64 + (← value b)) * 64 + (← value c)
    if n % 4 = 0 then some [UInt8.ofNat (n / 1024), UInt8.ofNat (n / 4)] else none
  | a :: b :: c :: d :: rest => do
    let n := (((← value a) * 64 + (← value b)) * 64 + (← value c)) * 64 + (← value d)
    let more ← decode rest
    some (UInt8.ofNat (n / 65536) :: UInt8.ofNat (n / 256) :: UInt8.ofNat n :: more)
  | _ => none

end ModelServing.Text.Base64
