import ModelServing.Text.Decimal
import ModelServing.Text.Hex
/-! The tokens of JSON text, read by an automaton that sees one character at a time. Number and
text tokens keep what was written; whether a number is in range and whether surrogates pair up is
asked later, and only of values that are used. -/
namespace ModelServing.Json

structure Literal where
  negative : Bool
  whole : List Char
  fraction : Option (List Char)
  exponent : Option (Bool × List Char)
  deriving DecidableEq, Repr

inductive Piece where
  | char (c : Char)
  | unit (n : Nat)
  deriving DecidableEq, Repr

inductive Token where
  | openObject
  | closeObject
  | openArray
  | closeArray
  | colon
  | comma
  | null
  | bool (b : Bool)
  | number (l : Literal)
  | text (pieces : List Piece)
  deriving DecidableEq, Repr

namespace Literal

def digits? (cs : List Char) : Option (List Char × List Char) :=
  match cs.takeWhile Text.isDigit with
  | [] => none
  | ds => some (ds, cs.dropWhile Text.isDigit)

def fraction? : List Char → Option (Option (List Char) × List Char)
  | '.' :: rest => (digits? rest).map fun (ds, rest) => (some ds, rest)
  | rest => some (none, rest)

def exponent? : List Char → Option (Option (Bool × List Char) × List Char)
  | c :: rest =>
    if c = 'e' ∨ c = 'E' then
      match rest with
      | '+' :: rest => (digits? rest).map fun (ds, rest) => (some (false, ds), rest)
      | '-' :: rest => (digits? rest).map fun (ds, rest) => (some (true, ds), rest)
      | rest => (digits? rest).map fun (ds, rest) => (some (false, ds), rest)
    else some (none, c :: rest)
  | [] => some (none, [])

def unsigned? (negative : Bool) (cs : List Char) : Option Literal := do
  let (whole, rest) ← digits? cs
  if whole.head? = some '0' ∧ whole.length ≠ 1 then none
  else
    let (fraction, rest) ← fraction? rest
    let (exponent, rest) ← exponent? rest
    if rest.isEmpty then some ⟨negative, whole, fraction, exponent⟩ else none

def ofChars? : List Char → Option Literal
  | '-' :: rest => unsigned? true rest
  | cs => unsigned? false cs

end Literal

/-- What the characters read so far have begun; collected parts are in reverse. -/
inductive Mode where
  | between
  | word (seen : List Char)
  | number (seen : List Char)
  | text (seen : List Piece)
  | escape (seen : List Piece)
  | unit (seen : List Piece) (missing : Nat) (value : Nat)
  deriving DecidableEq, Repr

def isGap (c : Char) : Bool := c == ' ' || c == '\t' || c == '\n' || c == '\r'

def isNumberChar (c : Char) : Bool :=
  Text.isDigit c || c == '-' || c == '+' || c == '.' || c == 'e' || c == 'E'

def isWordChar (c : Char) : Bool := 'a' ≤ c && c ≤ 'z'

def wordToken? (word : List Char) : Option Token :=
  if word = ['n', 'u', 'l', 'l'] then some .null
  else if word = ['t', 'r', 'u', 'e'] then some (.bool true)
  else if word = ['f', 'a', 'l', 's', 'e'] then some (.bool false)
  else none

def start (c : Char) : Option (List Token × Mode) :=
  if isGap c then some ([], .between)
  else if c = '{' then some ([.openObject], .between)
  else if c = '}' then some ([.closeObject], .between)
  else if c = '[' then some ([.openArray], .between)
  else if c = ']' then some ([.closeArray], .between)
  else if c = ':' then some ([.colon], .between)
  else if c = ',' then some ([.comma], .between)
  else if c = '"' then some ([], .text [])
  else if c = '-' ∨ Text.isDigit c then some ([], .number [c])
  else if isWordChar c then some ([], .word [c])
  else none

def escaped? (c : Char) : Option Char :=
  if c = '"' ∨ c = '\\' ∨ c = '/' then some c
  else if c = 'b' then some '\x08'
  else if c = 'f' then some '\x0c'
  else if c = 'n' then some '\n'
  else if c = 'r' then some '\r'
  else if c = 't' then some '\t'
  else none

def Mode.finish : Mode → Option (List Token)
  | .between => some []
  | .word seen => (wordToken? seen.reverse).map ([·])
  | .number seen => (Literal.ofChars? seen.reverse).map fun l => [.number l]
  | _ => none

def Mode.step : Mode → Char → Option (List Token × Mode)
  | .between, c => start c
  | .word seen, c =>
    if isWordChar c then some ([], .word (c :: seen))
    else do
      let done ← (Mode.word seen).finish
      let (tokens, mode) ← start c
      some (done ++ tokens, mode)
  | .number seen, c =>
    if isNumberChar c then some ([], .number (c :: seen))
    else do
      let done ← (Mode.number seen).finish
      let (tokens, mode) ← start c
      some (done ++ tokens, mode)
  | .text seen, c =>
    if c = '"' then some ([.text seen.reverse], .between)
    else if c = '\\' then some ([], .escape seen)
    else if c.toNat < 0x20 then none
    else some ([], .text (.char c :: seen))
  | .escape seen, c =>
    if c = 'u' then some ([], .unit seen 4 0)
    else (escaped? c).map fun e => ([], .text (.char e :: seen))
  | .unit seen missing value, c => do
    let d ← Text.Hex.value c
    let value := 16 * value + d
    if missing ≤ 1 then some ([], .text (.unit value :: seen))
    else some ([], .unit seen (missing - 1) value)

def scan : Mode → List Char → Option (List Token)
  | mode, [] => mode.finish
  | mode, c :: rest => do
    let (tokens, mode) ← mode.step c
    let more ← scan mode rest
    some (tokens ++ more)

end ModelServing.Json
