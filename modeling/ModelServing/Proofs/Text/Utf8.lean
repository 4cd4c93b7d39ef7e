import ModelServing.Text.Utf8

/-! UTF-8 in parts: reading can stop anywhere and go on with what was held back, and what was written is
read back, whatever follows it. -/
namespace ModelServing.Text.Utf8

theorem nextAppend {a rest : Bytes} {c : Char} (read : next a = some (c, rest)) (more : Bytes) :
    next (a ++ more) = some (c, rest ++ more) := by
  cases a with
  | nil => contradiction
  | cons first others =>
    rw [List.cons_append]
    unfold next at read ⊢
    dsimp only at read ⊢
    split at read
    · cases read
      rw [if_pos ‹_›]
    rw [if_neg ‹_›]
    split at read
    · contradiction
    rw [if_neg ‹_›]
    split at read
    · rw [if_pos ‹_›]
      cases others with
      | nil => contradiction
      | cons b others =>
        simp only [Option.bind_eq_bind, Option.bind_eq_some_iff, List.cons_append] at read ⊢
        obtain ⟨y, second, d, formed, same⟩ := read
        cases same
        exact ⟨y, second, c, formed, rfl⟩
    rw [if_neg ‹_›]
    split at read
    · rw [if_pos ‹_›]
      match others, read with
      | b :: c' :: others, read =>
        simp only [Option.bind_eq_bind, Option.bind_eq_some_iff, List.cons_append] at read ⊢
        obtain ⟨y, second, z, third, d, formed, same⟩ := read
        cases same
        exact ⟨y, second, z, third, c, formed, rfl⟩
    rw [if_neg ‹_›]
    split at read
    · rw [if_pos ‹_›]
      match others, read with
      | b :: c' :: d' :: others, read =>
        simp only [Option.bind_eq_bind, Option.bind_eq_some_iff, List.cons_append] at read ⊢
        obtain ⟨x, second, y, third, z, fourth, d, formed, same⟩ := read
        cases same
        exact ⟨x, second, y, third, z, fourth, c, formed, rfl⟩
    · contradiction

theorem octetValue {n : Nat} (small : n < 256) : (UInt8.ofNat n).toNat = n := by
  rw [UInt8.toNat_ofNat', Nat.mod_eq_of_lt small]

theorem continued {k : Nat} (six : k < 64) : continuation (UInt8.ofNat (k + 128)) = some k := by
  have value : (UInt8.ofNat (k + 128)).toNat = k + 128 := octetValue (by omega)
  simp only [continuation, value]
  rw [if_pos (by omega)]
  simp

theorem scalarOf {least : Nat} {c : Char} (long : least ≤ c.toNat) :
    scalar least c.toNat = some c := by
  rw [scalar, if_pos ⟨long, c.valid⟩, Char.ofNat_toNat]

theorem encodedOctets (c : Char) : String.utf8EncodeChar c =
    let n := c.toNat
    if n ≤ 127 then [UInt8.ofNat n]
    else if n ≤ 2047 then [UInt8.ofNat (n / 64 % 32 + 192), UInt8.ofNat (n % 64 + 128)]
    else if n ≤ 65535 then
      [UInt8.ofNat (n / 4096 % 16 + 224), UInt8.ofNat (n / 64 % 64 + 128),
        UInt8.ofNat (n % 64 + 128)]
    else
      [UInt8.ofNat (n / 262144 % 8 + 240), UInt8.ofNat (n / 4096 % 64 + 128),
        UInt8.ofNat (n / 64 % 64 + 128), UInt8.ofNat (n % 64 + 128)] := rfl

theorem nextEncoded (c : Char) (rest : Bytes) :
    next (String.utf8EncodeChar c ++ rest) = some (c, rest) := by
  have bound : c.toNat < 1114112 := by
    rcases c.valid with low | ⟨_, high⟩
    · exact Nat.lt_trans low (by decide)
    · exact high
  have six (k : Nat) : continuation (UInt8.ofNat (k % 64 + 128)) = some (k % 64) :=
    continued (Nat.mod_lt k (by decide))
  rw [encodedOctets]
  dsimp only
  split
  · have value : (UInt8.ofNat c.toNat).toNat = c.toNat := octetValue (by omega)
    simp only [List.cons_append, List.nil_append, next, value]
    rw [if_pos (by omega), Char.ofNat_toNat]
  split
  · have value : (UInt8.ofNat (c.toNat / 64 % 32 + 192)).toNat = c.toNat / 64 % 32 + 192 :=
      octetValue (by omega)
    have whole : (c.toNat / 64 % 32 + 192 - 192) * 64 + c.toNat % 64 = c.toNat := by omega
    simp only [List.cons_append, List.nil_append, next, value]
    rw [if_neg (by omega), if_neg (by omega), if_pos (by omega)]
    simp only [six, Option.bind_eq_bind, Option.bind_some, whole]
    rw [scalarOf (by omega), Option.bind_some]
  split
  · have value : (UInt8.ofNat (c.toNat / 4096 % 16 + 224)).toNat = c.toNat / 4096 % 16 + 224 :=
      octetValue (by omega)
    have whole : ((c.toNat / 4096 % 16 + 224 - 224) * 64 + c.toNat / 64 % 64) * 64 + c.toNat % 64 =
        c.toNat := by
      omega
    simp only [List.cons_append, List.nil_append, next, value]
    rw [if_neg (by omega), if_neg (by omega), if_neg (by omega), if_pos (by omega)]
    simp only [six, Option.bind_eq_bind, Option.bind_some, whole]
    rw [scalarOf (by omega), Option.bind_some]
  · have value : (UInt8.ofNat (c.toNat / 262144 % 8 + 240)).toNat = c.toNat / 262144 % 8 + 240 :=
      octetValue (by omega)
    have whole : (((c.toNat / 262144 % 8 + 240 - 240) * 64 + c.toNat / 4096 % 64) * 64 +
        c.toNat / 64 % 64) * 64 + c.toNat % 64 = c.toNat := by
      omega
    simp only [List.cons_append, List.nil_append, next, value]
    rw [if_neg (by omega), if_neg (by omega), if_neg (by omega), if_neg (by omega),
      if_pos (by omega)]
    simp only [six, Option.bind_eq_bind, Option.bind_some, whole]
    rw [scalarOf (by omega), Option.bind_some]

theorem decodeSteps {bytes rest : Bytes} {c : Char} (read : next bytes = some (c, rest)) :
    decode bytes = (c :: (decode rest).1, (decode rest).2) := by
  rw [decode]
  split
  · rename_i none
    rw [read] at none
    contradiction
  · rename_i some
    rw [read] at some
    cases some
    rfl

theorem decodeStops {bytes : Bytes} (unread : next bytes = none) : decode bytes = ([], bytes) := by
  rw [decode]
  split
  · rfl
  · rename_i some
    rw [unread] at some
    contradiction

theorem decodeAppend (a b : Bytes) :
    decode (a ++ b) =
      ((decode a).1 ++ (decode ((decode a).2 ++ b)).1, (decode ((decode a).2 ++ b)).2) := by
  fun_induction decode a with
  | case1 a unread => rw [List.nil_append]
  | case2 a c rest read shorter tail ih =>
    rw [decodeSteps (nextAppend read b), ih, List.cons_append]

theorem decodeEncoded (text : List Char) (more : Bytes) :
    decode (encode text ++ more) = (text ++ (decode more).1, (decode more).2) := by
  induction text with
  | nil => rfl
  | cons c rest ih =>
    have split : encode (c :: rest) ++ more = String.utf8EncodeChar c ++ (encode rest ++ more) := by
      rw [encode, List.flatMap_cons, List.append_assoc]
      rfl
    rw [split, decodeSteps (nextEncoded c _), ih, List.cons_append]

end ModelServing.Text.Utf8
