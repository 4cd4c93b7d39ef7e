import ModelServing.Text.Base64

/-! What is written in base64 is read back. A text is read in quanta of four characters, and padding, which is
no digit, tells how many octets the last of them brings. -/
namespace ModelServing.Text.Base64

theorem valueLow (n : Nat) : value (digit (n % 64)) = some (n % 64) :=
  value_digit (n % 64) (Nat.mod_lt n (by decide))

theorem digitLow (n : Nat) : digit (n % 64) ≠ '=' := by
  intro padding
  have read := valueLow n
  rw [padding] at read
  cases read

theorem octetLow {n : Nat} {b : UInt8} (low : n % 256 = b.toNat) : UInt8.ofNat n = b := by
  apply UInt8.toNat_inj.mp
  rw [UInt8.toNat_ofNat']
  exact low

theorem decodeFour {n : Nat} (small : n < 16777216) (rest : List Char) :
    decode (digits 4 n ++ rest) = (decode rest).map fun more =>
      UInt8.ofNat (n / 65536) :: UInt8.ofNat (n / 256) :: UInt8.ofNat n :: more := by
  have whole : ((n / 64 / 64 / 64 % 64 * 64 + n / 64 / 64 % 64) * 64 + n / 64 % 64) * 64 + n % 64 = n := by
    omega
  have last := digitLow n
  simp only [digits, List.nil_append, List.cons_append]
  rw [decode]
  · simp only [valueLow, Option.bind_eq_bind, Option.bind_some, whole]
    cases decode rest with
    | none | some more => rfl
  · exact fun _ padding _ => last padding
  · exact fun padding _ => last padding

theorem decodeThree {n : Nat} (small : n < 262144) (spare : n % 4 = 0) :
    decode (digits 3 n ++ ['=']) = some [UInt8.ofNat (n / 1024), UInt8.ofNat (n / 4)] := by
  have whole : (n / 64 / 64 % 64 * 64 + n / 64 % 64) * 64 + n % 64 = n := by omega
  have last := digitLow n
  simp only [digits, List.nil_append, List.cons_append]
  rw [decode]
  · simp only [valueLow, Option.bind_eq_bind, Option.bind_some, whole, spare, if_true]
  · exact fun padding => last padding

theorem decodeTwo {n : Nat} (small : n < 4096) (spare : n % 16 = 0) :
    decode (digits 2 n ++ ['=', '=']) = some [UInt8.ofNat (n / 16)] := by
  have whole : n / 64 % 64 * 64 + n % 64 = n := by omega
  simp only [digits, List.nil_append, List.cons_append]
  rw [decode]
  simp only [valueLow, Option.bind_eq_bind, Option.bind_some, whole, spare, if_true]

theorem decodeEncoded (bytes : Bytes) : decode (encode bytes) = some bytes := by
  fun_induction encode bytes with
  | case1 a b c rest ih =>
    have high := a.toNat_lt
    have middle := b.toNat_lt
    have low := c.toNat_lt
    rw [decodeFour (by omega), ih, Option.map_some,
      octetLow (b := a) (by omega), octetLow (b := b) (by omega), octetLow (b := c) (by omega)]
  | case2 a b =>
    have high := a.toNat_lt
    have low := b.toNat_lt
    rw [decodeThree (by omega) (by omega), octetLow (b := a) (by omega), octetLow (b := b) (by omega)]
  | case3 a =>
    have high := a.toNat_lt
    rw [decodeTwo (by omega) (by omega), octetLow (b := a) (by omega)]
  | case4 => rfl

example : encode [0xFB, 0xEF, 0xFF, 0x00] = "++//AA==".toList := by decide

end ModelServing.Text.Base64
