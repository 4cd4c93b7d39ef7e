import ModelServing.Text.Hex
/-! UTF-8 over octet lists. Reading is strict: overlong forms, surrogates and values past the last
code point end the text, and what is left over is handed back. -/
namespace ModelServing.Text.Utf8

def encode (text : List Char) : Bytes := text.flatMap String.utf8EncodeChar

def ofString (s : String) : Bytes := encode s.toList

def continuation (b : UInt8) : Option Nat :=
  let n := b.toNat
  if 0x80 ≤ n ∧ n < 0xC0 then some (n - 0x80) else none

def scalar (least n : Nat) : Option Char :=
  if least ≤ n ∧ n.isValidChar then some (Char.ofNat n) else none

def next : Bytes → Option (Char × Bytes)
  | [] => none
  | a :: rest =>
    let n := a.toNat
    if n < 0x80 then some (Char.ofNat n, rest)
    else if n < 0xC0 then none
    else if n < 0xE0 then
      match rest with
      | b :: rest => do
        let y ← continuation b
        let c ← scalar 0x80 ((n - 0xC0) * 64 + y)
        some (c, rest)
      | _ => none
    else if n < 0xF0 then
      match rest with
      | b :: c :: rest => do
        let y ← continuation b
        let z ← continuation c
        let c ← scalar 0x800 (((n - 0xE0) * 64 + y) * 64 + z)
        some (c, rest)
      | _ => none
    else if n < 0xF8 then
      match rest with
      | b :: c :: d :: rest => do
        let x ← continuation b
        let y ← continuation c
        let z ← continuation d
        let c ← scalar 0x10000 ((((n - 0xF0) * 64 + x) * 64 + y) * 64 + z)
        some (c, rest)
      | _ => none
    else none

theorem next_length {bytes rest : Bytes} {c : Char} (h : next bytes = some (c, rest)) :
    rest.length < bytes.length := by
  unfold next at h
  split at h
  · contradiction
  · simp only at h
    repeat' split at h
    all_goals first
      | contradiction
      | (simp only [Option.bind_eq_bind, Option.bind_eq_some_iff, Option.some.injEq,
          Prod.mk.injEq] at h
         grind)

def decode (bytes : Bytes) : List Char × Bytes :=
  match h : next bytes with
  | none => ([], bytes)
  | some (c, rest) =>
    have := next_length h
    let tail := decode rest
    (c :: tail.1, tail.2)
termination_by bytes.length

def decode? (bytes : Bytes) : Option (List Char) :=
  match decode bytes with
  | (text, []) => some text
  | _ => none

def mayFollow (a b : UInt8) : Bool :=
  let n := b.toNat
  if a.toNat = 0xE0 then 0xA0 ≤ n && n < 0xC0
  else if a.toNat = 0xED then 0x80 ≤ n && n < 0xA0
  else if a.toNat = 0xF0 then 0x90 ≤ n && n < 0xC0
  else if a.toNat = 0xF4 then 0x80 ≤ n && n < 0x90
  else (continuation b).isSome

/-- How many octets after a first one that begins no character could have gone with it. -/
def furtherFaults : Bytes → Nat
  | a :: b :: rest =>
    let n := a.toNat
    if 0xE0 ≤ n ∧ n < 0xF5 ∧ mayFollow a b then
      match rest with
      | c :: _ => if 0xF0 ≤ n ∧ (continuation c).isSome then 2 else 1
      | [] => 1
    else 0
  | _ => 0

theorem decode_held_length (bytes : Bytes) : (decode bytes).2.length ≤ bytes.length := by
  fun_induction decode bytes with
  | case1 bytes h => simp
  | case2 bytes c rest h less tail ih => exact Nat.le_trans ih (Nat.le_of_lt less)

def decodeWithReplacement (bytes : Bytes) : List Char :=
  match h : (decode bytes).2 with
  | [] => (decode bytes).1
  | b :: held =>
    have : held.length < bytes.length := by
      have := decode_held_length bytes
      simp only [h, List.length_cons] at this
      omega
    (decode bytes).1 ++ Char.ofNat 0xFFFD ::
      decodeWithReplacement (held.drop (furtherFaults (b :: held)))
termination_by bytes.length
decreasing_by
  simp only [List.length_drop]
  omega

end ModelServing.Text.Utf8
