/-! Decimal digits of natural numbers. -/
namespace ModelServing.Text

def isDigit (c : Char) : Bool := '0' ≤ c && c ≤ '9'

def digitsValue (acc : Nat) : List Char → Nat
  | [] => acc
  | c :: rest => digitsValue (10 * acc + (c.toNat - 48)) rest

def decimalChars (n : Nat) : List Char := Nat.toDigits 10 n

def decimal (n : Nat) : String := String.ofList (decimalChars n)

end ModelServing.Text
