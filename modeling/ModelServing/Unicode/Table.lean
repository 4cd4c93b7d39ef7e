import ModelServing.Text.Hex
/-! Tables over code points. A table is a text of runs with blanks between them. A run is a code point,
or the ends of a range with a hyphen between them and perhaps a step behind a slash; behind a colon
follow the values of its first code point. All numbers are in base 16. The tables written this way
are those of Unicode 17. -/
namespace ModelServing.Unicode

structure Run where
  first : Nat
  last : Nat
  step : Nat
  values : List Nat
  deriving DecidableEq, Repr

def Run.has (r : Run) (n : Nat) : Bool :=
  r.first ≤ n && n ≤ r.last && (n - r.first) % r.step == 0

def Run.shifted (r : Run) (n : Nat) : List Nat :=
  match r.values with
  | [v] => [v + (n - r.first)]
  | vs => vs

def number (digits : List Char) : Nat :=
  digits.foldl (fun n c => 16 * n + (Text.Hex.value c).getD 0) 0

def Run.ofSpan (span : List Char) (values : List Nat) : Run :=
  match span.splitOn '-' with
  | [first, rest] =>
    match rest.splitOn '/' with
    | [last, step] => ⟨number first, number last, number step, values⟩
    | _ => ⟨number first, number rest, 1, values⟩
  | _ => ⟨number span, number span, 1, values⟩

def Run.ofChars (entry : List Char) : Run :=
  match entry.splitOn ':' with
  | [span, values] => ofSpan span ((values.splitOn ',').map number)
  | _ => ofSpan entry []

abbrev Table := List Run

namespace Table

def ofText (text : String) : Table :=
  ((text.toList.splitOnP fun c => c = ' ' || c = '\n').filter (· ≠ [])).map Run.ofChars

def run? (t : Table) (n : Nat) : Option Run := t.find? (·.has n)

def has (t : Table) (c : Char) : Bool := (t.run? c.toNat).isSome

end Table

end ModelServing.Unicode
