import ModelServing.Text.Utf8
/-! Percent encoding. Which octets stand for themselves is up to the caller; form encoding writes a
space as a plus sign. -/
namespace ModelServing.Text.Percent

def upperDigit (n : Nat) : Char :=
  if n < 10 then Char.ofNat (48 + n) else Char.ofNat (55 + n)

def triplet (b : UInt8) : List Char :=
  ['%', upperDigit (b.toNat / 16), upperDigit (b.toNat % 16)]

def encode (keeps : Char → Bool) (bytes : Bytes) : List Char :=
  bytes.flatMap fun b =>
    if b.toNat < 0x80 ∧ keeps (Char.ofNat b.toNat) then [Char.ofNat b.toNat] else triplet b

def encodeText (keeps : Char → Bool) (text : List Char) : List Char :=
  encode keeps (Utf8.encode text)

def decode : Bytes → Bytes
  | [] => []
  | a :: b :: c :: rest =>
    if a = 0x25 then
      match Hex.value (Char.ofNat b.toNat), Hex.value (Char.ofNat c.toNat) with
      | some high, some low => UInt8.ofNat (16 * high + low) :: decode rest
      | _, _ => a :: decode (b :: c :: rest)
    else a :: decode (b :: c :: rest)
  | a :: rest => a :: decode rest

def isAlphanumeric (c : Char) : Bool :=
  ('0' ≤ c && c ≤ '9') || ('a' ≤ c && c ≤ 'z') || ('A' ≤ c && c ≤ 'Z')

def formKeeps (c : Char) : Bool :=
  isAlphanumeric c || c == '*' || c == '-' || c == '.' || c == '_'

def formEncode (text : List Char) : List Char :=
  (Utf8.encode text).flatMap fun b =>
    if b = 0x20 then ['+']
    else if b.toNat < 0x80 ∧ formKeeps (Char.ofNat b.toNat) then [Char.ofNat b.toNat]
    else triplet b

def formQuery : List (String × String) → List Char
  | [] => []
  | [(k, v)] => formEncode k.toList ++ '=' :: formEncode v.toList
  | (k, v) :: m :: rest =>
    formEncode k.toList ++ '=' :: (formEncode v.toList ++ '&' :: formQuery (m :: rest))

end ModelServing.Text.Percent
