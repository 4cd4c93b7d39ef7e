import ModelServing.Json.Printer
import ModelServing.Json.Token
import ModelServing.Proofs.Text.Decimal
import Mathlib.Data.List.TakeWhile

/-! What the scanner makes of printed text. A number or a word ends only with the character behind it, so
each lemma reads a printed token together with the text that follows. -/
namespace ModelServing.Json

theorem scanStep {mode next : Mode} {c : Char} {tokens : List Token}
    (step : mode.step c = some (tokens, next)) (rest : List Char) :
    scan mode (c :: rest) = (scan next rest).map (tokens ++ ·) := by
  rw [scan, step]
  simp only [Option.bind_eq_bind, Option.bind_some]
  cases scan next rest <;> rfl

theorem scanSilent {mode next : Mode} {c : Char} (step : mode.step c = some ([], next))
    (rest : List Char) : scan mode (c :: rest) = scan next rest := by
  rw [scanStep step]
  exact Option.map_id'

def Apart (rest : List Char) : Prop :=
  ∀ c ∈ rest.head?, isNumberChar c = false ∧ isWordChar c = false

def Spelled (chars : List Char) (tokens : List Token) : Prop :=
  ∀ rest, Apart rest → scan .between (chars ++ rest) = (scan .between rest).map (tokens ++ ·)

theorem Spelled.append {first later : List Char} {tokens more : List Token}
    (spelled : Spelled first tokens) (then_ : Spelled later more)
    (apart : ∀ rest, Apart rest → Apart (later ++ rest)) : Spelled (first ++ later) (tokens ++ more) := by
  intro rest behind
  rw [List.append_assoc, spelled _ (apart rest behind), then_ rest behind, Option.map_map]
  simp [Function.comp_def]

theorem spelledSign {c : Char} {token : Token} (sign : start c = some ([token], .between))
    {chars : List Char} {tokens : List Token} (spelled : Spelled chars tokens) :
    Spelled (c :: chars) (token :: tokens) := by
  intro rest behind
  have step : Mode.between.step c = some ([token], .between) := sign
  rw [List.cons_append, scanStep step, spelled rest behind, Option.map_map]
  rfl

theorem scanEnds {mode : Mode} {done : List Token} (finish : mode.finish = some done)
    {rest : List Char}
    (leaves : ∀ c ∈ rest.head?, mode.step c =
      (start c).map fun (tokens, next) => (done ++ tokens, next)) :
    scan mode rest = (scan .between rest).map (done ++ ·) := by
  cases rest with
  | nil =>
    rw [scan, finish]
    simp [scan, Mode.finish]
  | cons c rest =>
    rw [scan, scan, leaves c rfl]
    change _ = ((start c).bind _).map _
    cases start c with
    | none => rfl
    | some read =>
      obtain ⟨tokens, next⟩ := read
      cases more : scan next rest <;> simp [more]

theorem numberEnds {seen : List Char} {l : Literal} (read : Literal.ofChars? seen.reverse = some l)
    {rest : List Char} (apart : Apart rest) :
    scan (.number seen) rest = (scan .between rest).map ([.number l] ++ ·) := by
  have finish : (Mode.number seen).finish = some [.number l] := by
    rw [Mode.finish, read]
    rfl
  refine scanEnds finish fun c member => ?_
  rw [Mode.step, (apart c member).1, finish]
  cases start c <;> rfl

theorem wordEnds {seen : List Char} {token : Token} (read : wordToken? seen.reverse = some token)
    {rest : List Char} (apart : Apart rest) :
    scan (.word seen) rest = (scan .between rest).map ([token] ++ ·) := by
  have finish : (Mode.word seen).finish = some [token] := by
    rw [Mode.finish, read]
    rfl
  refine scanEnds finish fun c member => ?_
  rw [Mode.step, (apart c member).2, finish]
  cases start c <;> rfl

theorem scanRun {mode : List Char → Mode} {chars : List Char}
    (collects : ∀ c ∈ chars, ∀ seen, (mode seen).step c = some ([], mode (c :: seen)))
    (seen rest : List Char) :
    scan (mode seen) (chars ++ rest) = scan (mode (chars.reverse ++ seen)) rest := by
  induction chars generalizing seen with
  | nil => rfl
  | cons c more ih =>
    rw [List.cons_append, scanSilent (collects c List.mem_cons_self seen),
      ih fun d member => collects d (List.mem_cons_of_mem _ member)]
    rw [List.reverse_cons, List.append_assoc]
    rfl

theorem digitsCollected {digits : List Char} (all : ∀ c ∈ digits, Text.isDigit c = true) :
    ∀ c ∈ digits, ∀ seen, (Mode.number seen).step c = some ([], .number (c :: seen)) := by
  intro c member seen
  have digit : isNumberChar c = true := by simp [isNumberChar, all c member]
  rw [Mode.step, if_pos digit]

theorem digitMember {c : Char} (digit : Text.isDigit c = true) :
    c ∈ ['0', '1', '2', '3', '4', '5', '6', '7', '8', '9'] := by
  simp only [Text.isDigit, Bool.and_eq_true, decide_eq_true_eq] at digit
  have codes : ∀ n ∈ List.range 10, Char.ofNat (48 + n) ∈
      ['0', '1', '2', '3', '4', '5', '6', '7', '8', '9'] := by
    decide
  obtain ⟨least, most⟩ := digit
  have least : 48 ≤ c.toNat := least
  have most : c.toNat ≤ 57 := most
  have member := codes (c.toNat - 48) (List.mem_range.mpr (by omega))
  rwa [Nat.add_sub_cancel' least, Char.ofNat_toNat] at member

theorem digitStarts {c : Char} (digit : Text.isDigit c = true) :
    start c = some ([], .number [c]) ∧ c ≠ '-' := by
  have each : (['0', '1', '2', '3', '4', '5', '6', '7', '8', '9'].all fun d =>
      start d = some ([], .number [d]) ∧ d ≠ '-') = true := by
    decide
  simpa using List.all_eq_true.mp each c (digitMember digit)

theorem literalUnsigned {digits : List Char} (all : ∀ c ∈ digits, Text.isDigit c = true)
    (some_ : digits ≠ []) (single : digits.head? = some '0' → digits.length = 1) (negative : Bool) :
    Literal.unsigned? negative digits = some ⟨negative, digits, none, none⟩ := by
  have read : Literal.digits? digits = some (digits, []) := by
    rw [Literal.digits?, List.takeWhile_eq_self_iff.mpr all, List.dropWhile_eq_nil_iff.mpr all]
    cases digits with
    | nil => exact absurd rfl some_
    | cons d rest => rfl
  rw [Literal.unsigned?, read]
  simp [Literal.fraction?, Literal.exponent?]
  exact single

theorem decimalSpelled (n : Nat) :
    Spelled (Text.decimalChars n) [.number ⟨false, Text.decimalChars n, none, none⟩] := by
  intro rest behind
  have all := Text.decimalDigits n
  have read := literalUnsigned all Nat.toDigits_ne_nil Text.decimalSingle false
  cases chars : Text.decimalChars n with
  | nil => exact absurd chars Nat.toDigits_ne_nil
  | cons d digits =>
    rw [chars] at all read
    obtain ⟨starts, unsigned⟩ := digitStarts (all d List.mem_cons_self)
    have step : Mode.between.step d = some ([], .number [d]) := starts
    rw [List.cons_append, scanSilent step,
      scanRun (digitsCollected fun c member => all c (List.mem_cons_of_mem _ member))]
    refine numberEnds ?_ behind
    rw [List.reverse_append, List.reverse_reverse]
    change Literal.ofChars? (d :: digits) = _
    rw [← read, Literal.ofChars?]
    exact fun _ same => unsigned (List.cons.inj same).1

theorem negativeSpelled (n : Nat) :
    Spelled ('-' :: Text.decimalChars n) [.number ⟨true, Text.decimalChars n, none, none⟩] := by
  intro rest behind
  have all := Text.decimalDigits n
  have read := literalUnsigned all Nat.toDigits_ne_nil Text.decimalSingle true
  have step : Mode.between.step '-' = some ([], .number ['-']) := rfl
  rw [List.cons_append, scanSilent step, scanRun (digitsCollected all)]
  refine numberEnds ?_ behind
  rw [List.reverse_append, List.reverse_reverse]
  exact read

theorem wordSpelled {first : Char} {others : List Char} {token : Token}
    (starts : start first = some ([], .word [first])) (letters : others.all isWordChar = true)
    (read : wordToken? (first :: others) = some token) : Spelled (first :: others) [token] := by
  intro rest behind
  have step : Mode.between.step first = some ([], .word [first]) := starts
  have collects : ∀ c ∈ others, ∀ seen,
      (Mode.word seen).step c = some ([], .word (c :: seen)) := by
    intro c member seen
    rw [Mode.step, if_pos (List.all_eq_true.mp letters c member)]
  rw [List.cons_append, scanSilent step, scanRun collects]
  refine wordEnds ?_ behind
  rwa [List.reverse_append, List.reverse_reverse]

def piece (c : Char) : Piece :=
  if c.toNat < 0x20 ∧ c ∉ ['\x08', '\t', '\n', '\x0c', '\r'] then .unit c.toNat else .char c

theorem scanUnit {n : Nat} (octet : n < 256) (seen : List Piece) (rest : List Char) :
    scan (.text seen) (['\\', 'u', '0', '0', Text.Hex.digit (n / 16), Text.Hex.digit (n % 16)] ++ rest) =
      scan (.text (.unit n :: seen)) rest := by
  have begins : (Mode.text seen).step '\\' = some ([], .escape seen) := rfl
  have unit : (Mode.escape seen).step 'u' = some ([], .unit seen 4 0) := rfl
  have zero (missing : Nat) : (Mode.unit seen (missing + 2) 0).step '0' =
      some ([], .unit seen (missing + 1) 0) := rfl
  have high : (Mode.unit seen 2 0).step (Text.Hex.digit (n / 16)) =
      some ([], .unit seen 1 (n / 16)) := by
    simp [Mode.step, Text.Hex.value_digit (n / 16) (by omega)]
  have low : (Mode.unit seen 1 (n / 16)).step (Text.Hex.digit (n % 16)) =
      some ([], .text (.unit n :: seen)) := by
    simp [Mode.step, Text.Hex.value_digit (n % 16) (by omega), Nat.div_add_mod]
  simp only [List.cons_append, List.nil_append]
  rw [scanSilent begins, scanSilent unit, scanSilent (zero 2), scanSilent (zero 1), scanSilent high,
    scanSilent low]

theorem scanEscape (c : Char) (seen : List Piece) (rest : List Char) :
    scan (.text seen) (escape c ++ rest) = scan (.text (piece c :: seen)) rest := by
  have short {e : Char} (letter : e ≠ 'u') (read : escaped? e = some c) (kept : piece c = .char c) :
      scan (.text seen) (['\\', e] ++ rest) = scan (.text (piece c :: seen)) rest := by
    have begins : (Mode.text seen).step '\\' = some ([], .escape seen) := rfl
    have step : (Mode.escape seen).step e = some ([], .text (.char c :: seen)) := by
      rw [Mode.step, if_neg letter, read]
      rfl
    rw [List.cons_append, scanSilent begins, List.cons_append, scanSilent step, kept]
    rfl
  unfold escape
  iterate 7
    split
    · rename_i same
      subst same
      exact short (by decide) rfl rfl
  split
  · rename_i noQuote noSlash back tab feed page return_ control
    have kept : piece c = .unit c.toNat := by simp [piece, control, back, tab, feed, page, return_]
    rw [kept]
    exact scanUnit (by omega) seen rest
  · rename_i noQuote noSlash _ _ _ _ _ plain
    have kept : piece c = .char c := by simp [piece, plain]
    have step : (Mode.text seen).step c = some ([], .text (.char c :: seen)) := by
      rw [Mode.step, if_neg noQuote, if_neg noSlash, if_neg plain]
    rw [List.cons_append, scanSilent step, kept]
    rfl

theorem scanEscapes (cs : List Char) (seen : List Piece) (rest : List Char) :
    scan (.text seen) (cs.flatMap escape ++ rest) =
      scan (.text ((cs.map piece).reverse ++ seen)) rest := by
  induction cs generalizing seen with
  | nil => rfl
  | cons c more ih =>
    rw [List.flatMap_cons, List.append_assoc, scanEscape, ih, List.map_cons, List.reverse_cons,
      List.append_assoc]
    rfl

theorem scanQuoted (s : String) (rest : List Char) :
    scan .between (quoted s ++ rest) =
      (scan .between rest).map ([.text (s.toList.map piece)] ++ ·) := by
  have opens : Mode.between.step '"' = some ([], .text []) := rfl
  have closes (seen : List Piece) :
      (Mode.text seen).step '"' = some ([.text seen.reverse], .between) := rfl
  rw [quoted, List.cons_append, scanSilent opens, List.append_assoc, scanEscapes, List.append_nil,
    List.singleton_append, scanStep (closes _), List.reverse_reverse]

theorem quotedSpelled (s : String) : Spelled (quoted s) [.text (s.toList.map piece)] :=
  fun rest _ => scanQuoted s rest

end ModelServing.Json
