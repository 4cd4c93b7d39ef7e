import ModelServing.Proofs.Text.Utf8
import ModelServing.Text.Percent

/-! Percent encoding does not show when it is decoded, as long as what can be taken for an encoded octet
stands for itself. Decoding changes a text if, and only if, there is an encoded octet in it. -/
namespace ModelServing.Text.Percent

def digit? (b : UInt8) : Option Nat := Hex.value (Char.ofNat b.toNat)

def encoded? : Bytes → Option UInt8
  | b :: c :: _ =>
    match digit? b, digit? c with
    | some high, some low => some (UInt8.ofNat (16 * high + low))
    | _, _ => none
  | _ => none

theorem decodePercent (rest : Bytes) : decode (0x25 :: rest) =
    match encoded? rest with
    | some b => b :: decode (rest.drop 2)
    | none => 0x25 :: decode rest := by
  match rest with
  | [] | [_] => rfl
  | b :: c :: rest =>
    rw [decode, if_pos rfl, encoded?, digit?, digit?]
    cases Hex.value (Char.ofNat b.toNat) with
    | none => rfl
    | some high =>
      cases Hex.value (Char.ofNat c.toNat) with
      | none | some low => rfl

theorem decodeOther {a : UInt8} (other : a ≠ 0x25) (rest : Bytes) :
    decode (a :: rest) = a :: decode rest := by
  match rest with
  | [] | [_] => rfl
  | b :: c :: rest => rw [decode, if_neg other]

theorem encodedDigits {rest : Bytes} {b : UInt8} (encoded : encoded? rest = some b) :
    ∃ x y high low more, rest = x :: y :: more ∧ digit? x = some high ∧ digit? y = some low := by
  match rest, encoded with
  | x :: y :: more, encoded =>
    rw [encoded?] at encoded
    cases high : digit? x with
    | none =>
      rw [high] at encoded
      cases encoded
    | some h =>
      cases low : digit? y with
      | none =>
        rw [high, low] at encoded
        cases encoded
      | some l => exact ⟨x, y, h, l, more, rfl, high, low⟩

theorem encodedLonger {rest : Bytes} {b : UInt8} (encoded : encoded? rest = some b) :
    2 ≤ rest.length := by
  obtain ⟨_, _, _, _, more, rfl, _⟩ := encodedDigits encoded
  exact Nat.le_add_left 2 more.length

theorem encodedNone {x y : UInt8} {rest : Bytes} (undigit : digit? x = none ∨ digit? y = none) :
    encoded? (x :: y :: rest) = none := by
  rw [Option.eq_none_iff_forall_ne_some]
  intro b encoded
  obtain ⟨_, _, high, low, _, same, isHigh, isLow⟩ := encodedDigits encoded
  cases same
  rcases undigit with none_ | none_
  · exact nomatch none_.symm.trans isHigh
  · exact nomatch none_.symm.trans isLow

theorem decodeInduction {motive : Bytes → Prop} (nothing : motive [])
    (other : ∀ a rest, a ≠ 0x25 → motive rest → motive (a :: rest))
    (lone : ∀ rest, encoded? rest = none → motive rest → motive (0x25 :: rest))
    (encoded : ∀ rest b, encoded? rest = some b → motive (rest.drop 2) → motive (0x25 :: rest))
    (bytes : Bytes) : motive bytes := by
  induction shorter : bytes.length using Nat.strongRecOn generalizing bytes with
  | ind n ih =>
    subst shorter
    cases bytes with
    | nil => exact nothing
    | cons a rest =>
      by_cases percent : a = 0x25
      · subst percent
        cases read : encoded? rest with
        | none => exact lone rest read (ih rest.length (Nat.lt_succ_self _) rest rfl)
        | some b =>
          refine encoded rest b read (ih (rest.drop 2).length ?_ _ rfl)
          rw [List.length_drop, List.length_cons]
          omega
      · exact other a rest percent (ih rest.length (Nat.lt_succ_self _) rest rfl)

theorem decodeShortens (bytes : Bytes) : (decode bytes).length ≤ bytes.length := by
  induction bytes using decodeInduction with
  | nothing => exact Nat.le_refl 0
  | other a rest percent ih =>
    rw [decodeOther percent]
    exact Nat.succ_le_succ ih
  | lone rest read ih =>
    rw [decodePercent, read]
    exact Nat.succ_le_succ ih
  | encoded rest b read ih =>
    have long := encodedLonger read
    rw [List.length_drop] at ih
    rw [decodePercent, read, List.length_cons, List.length_cons]
    omega

def Unescaped (bytes : Bytes) : Prop :=
  ∀ before rest, bytes = before ++ 0x25 :: rest → encoded? rest = none

theorem unescapedCons {a : UInt8} {rest : Bytes} :
    Unescaped (a :: rest) ↔ (a = 0x25 → encoded? rest = none) ∧ Unescaped rest := by
  constructor
  · intro unescaped
    exact ⟨fun percent => unescaped [] rest (by rw [percent]; rfl),
      fun before after same => unescaped (a :: before) after (by rw [same]; rfl)⟩
  · rintro ⟨first, later⟩ before after same
    cases before with
    | nil =>
      cases same
      exact first rfl
    | cons b before =>
      exact later before after (List.cons.inj same).2

theorem decodeSame (bytes : Bytes) : decode bytes = bytes ↔ Unescaped bytes := by
  induction bytes using decodeInduction with
  | nothing => exact ⟨fun _ before rest absurd_ => by simp at absurd_, fun _ => rfl⟩
  | other a rest percent ih =>
    rw [decodeOther percent, unescapedCons, ← ih]
    simp [percent]
  | lone rest read ih =>
    rw [decodePercent, read, unescapedCons, ← ih]
    simp [read]
  | encoded rest b read ih =>
    rw [decodePercent, read, unescapedCons, read]
    refine ⟨fun same => ?_, fun unescaped => nomatch unescaped.1 rfl⟩
    have lengths := congrArg List.length same
    have short := decodeShortens (rest.drop 2)
    have long := encodedLonger read
    rw [List.length_drop] at short
    rw [List.length_cons, List.length_cons] at lengths
    omega

section
variable {keeps : Char → Bool}

def spelt (keeps : Char → Bool) (b : UInt8) : Bytes :=
  if b.toNat < 0x80 ∧ keeps (Char.ofNat b.toNat) then [b]
  else [0x25, UInt8.ofNat (upperDigit (b.toNat / 16)).toNat, UInt8.ofNat (upperDigit (b.toNat % 16)).toNat]

theorem asciiOctet {c : Char} (ascii : c.toNat < 0x80) :
    String.utf8EncodeChar c = [UInt8.ofNat c.toNat] := by
  rw [Utf8.encodedOctets]
  exact if_pos (Nat.le_of_lt_succ ascii)

theorem asciiBack {n : Nat} (ascii : n < 0x80) : (Char.ofNat n).toNat = n := by
  have all : ∀ k ∈ List.range 0x80, (Char.ofNat k).toNat = k := by decide +kernel
  exact all n (List.mem_range.mpr ascii)

theorem upperDigitIs {n : Nat} (small : n < 16) : (upperDigit n).toNat < 0x80 ∧
    digit? (UInt8.ofNat (upperDigit n).toNat) = some n := by
  have all : ∀ k ∈ List.range 16, (upperDigit k).toNat < 0x80 ∧
      digit? (UInt8.ofNat (upperDigit k).toNat) = some k := by
    decide
  exact all n (List.mem_range.mpr small)

theorem octetsSpelt (keeps : Char → Bool) (bytes : Bytes) :
    Utf8.encode (encode keeps bytes) = bytes.flatMap (spelt keeps) := by
  rw [Utf8.encode, encode, List.flatMap_assoc]
  congr 1
  funext b
  have bound := b.toNat_lt
  unfold spelt
  split
  · rename_i kept
    rw [List.flatMap_singleton, asciiOctet (by rw [asciiBack kept.1]; exact kept.1), asciiBack kept.1,
      UInt8.ofNat_toNat]
  · have high := (@upperDigitIs (b.toNat / 16) (by omega)).1
    have low := (@upperDigitIs (b.toNat % 16) (by omega)).1
    simp only [triplet, List.flatMap_cons, List.flatMap_nil, asciiOctet high, asciiOctet low]
    rfl

structure Transparent (keeps : Char → Bool) : Prop where
  percent : keeps '%' = true
  digits : ∀ b h, digit? b = some h → b.toNat < 0x80 ∧ keeps (Char.ofNat b.toNat) = true

theorem speltPercent (clear : Transparent keeps) : spelt keeps 0x25 = [0x25] :=
  if_pos ⟨by decide, clear.percent⟩

theorem speltDigit (clear : Transparent keeps) {b : UInt8} {h : Nat} (read : digit? b = some h) :
    spelt keeps b = [b] :=
  if_pos (clear.digits b h read)

theorem speltTriplet (b : UInt8) : spelt keeps b = [b] ∨
    ∃ high low, spelt keeps b = [0x25, high, low] ∧ encoded? [high, low] = some b := by
  unfold spelt
  split
  · exact .inl rfl
  · have bound := b.toNat_lt
    refine .inr ⟨_, _, rfl, ?_⟩
    have high := (@upperDigitIs (b.toNat / 16) (by omega)).2
    have low := (@upperDigitIs (b.toNat % 16) (by omega)).2
    have whole : 16 * (b.toNat / 16) + b.toNat % 16 = b.toNat := by omega
    simp only [encoded?, high, low, whole, UInt8.ofNat_toNat]

theorem speltUndigit {b : UInt8} (undigit : digit? b = none) (rest : Bytes) :
    ∃ c more, spelt keeps b ++ rest = c :: more ∧ digit? c = none := by
  rcases @speltTriplet keeps b with own | ⟨high, low, written, _⟩
  · exact ⟨b, rest, by rw [own]; rfl, undigit⟩
  · exact ⟨0x25, high :: low :: rest, by rw [written]; rfl, by decide⟩

theorem encodedSpelt (clear : Transparent keeps) (rest : Bytes) :
    encoded? (rest.flatMap (spelt keeps)) = encoded? rest := by
  match rest with
  | [] => rfl
  | [x] =>
    rw [List.flatMap_singleton]
    rcases @speltTriplet keeps x with own | ⟨high, low, written, _⟩
    · rw [own]
    · rw [written]
      exact encodedNone (.inl (by decide))
  | x :: y :: rest =>
    rw [List.flatMap_cons, List.flatMap_cons]
    cases first : digit? x with
    | none =>
      obtain ⟨c, more, front, undigit⟩ := @speltUndigit keeps x first
        (spelt keeps y ++ rest.flatMap (spelt keeps))
      rw [front, encodedNone (.inl first)]
      cases more with
      | nil => rfl
      | cons d more => exact encodedNone (.inl undigit)
    | some high =>
      rw [speltDigit clear first, List.singleton_append]
      cases second : digit? y with
      | none =>
        obtain ⟨c, more, front, undigit⟩ := @speltUndigit keeps y second (rest.flatMap (spelt keeps))
        rw [front, encodedNone (.inr second), encodedNone (.inr undigit)]
      | some low =>
        rw [speltDigit clear second]
        rfl

theorem decodeSpelt (clear : Transparent keeps) (bytes : Bytes) :
    decode (bytes.flatMap (spelt keeps)) = decode bytes := by
  induction bytes using decodeInduction with
  | nothing => rfl
  | other a rest percent ih =>
    rw [List.flatMap_cons, decodeOther percent, ← ih]
    rcases @speltTriplet keeps a with own | ⟨high, low, written, encoded⟩
    · rw [own]
      exact decodeOther percent _
    · rw [written]
      simp only [List.cons_append, List.nil_append]
      have read : encoded? (high :: low :: rest.flatMap (spelt keeps)) = some a := encoded
      rw [decodePercent, read]
      rfl
  | lone rest read ih =>
    rw [List.flatMap_cons, speltPercent clear, List.singleton_append, decodePercent, decodePercent,
      encodedSpelt clear, read, ih]
  | encoded rest b read ih =>
    rw [List.flatMap_cons, speltPercent clear, List.singleton_append, decodePercent, decodePercent,
      encodedSpelt clear, read]
    obtain ⟨x, y, high, low, more, rfl, isHigh, isLow⟩ := encodedDigits read
    rw [List.flatMap_cons, List.flatMap_cons, speltDigit clear isHigh, speltDigit clear isLow]
    exact congrArg (b :: ·) ih

theorem decodeEncoded (clear : Transparent keeps) (text : List Char) :
    decode (Utf8.encode (encodeText keeps text)) = decode (Utf8.encode text) := by
  rw [encodeText, octetsSpelt, decodeSpelt clear]

end

end ModelServing.Text.Percent
