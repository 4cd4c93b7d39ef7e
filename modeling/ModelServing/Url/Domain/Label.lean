import ModelServing.Unicode.Direction
import ModelServing.Unicode.Joining
import ModelServing.Url.Domain.Mapping
import ModelServing.Url.Punycode
/-! Labels of a domain: what each may hold, and its text in ASCII. -/
namespace ModelServing.Url.Domain

def isForbidden (c : Char) : Bool :=
  c.toNat ≤ 0x20 || c.toNat == 0x7F ||
    ['%', '#', '/', ':', '<', '>', '?', '@', '[', '\\', ']', '^', '|'].contains c

def isAscii (text : List Char) : Bool := text.all (·.toNat < 0x80)

def isJoiner (c : Char) : Bool := c.toNat == 0x200C || c.toNat == 0x200D

def reaches (joins : Char → Bool) (text : List Char) : Bool :=
  match text.dropWhile (fun c => !joins c && Unicode.isTransparent c) with
  | [] => false
  | c :: _ => joins c

/-- A joiner stands behind a virama; one that keeps letters apart may also stand between two that
would join. `before` is what precedes, the last first. -/
def joinerFits (before : List Char) (c : Char) (rest : List Char) : Bool :=
  match before with
  | [] => false
  | previous :: _ =>
    Unicode.isVirama previous ||
      (c.toNat == 0x200C && reaches Unicode.joinsNext before &&
        reaches Unicode.joinsPrevious rest)

def joinersFit (before : List Char) : List Char → Bool
  | [] => true
  | c :: rest =>
    (if isJoiner c then joinerFits before c rest else true) && joinersFit (c :: before) rest

def isWellFormed (label : List Char) : Bool :=
  !label.head?.any Unicode.isMark && joinersFit [] label &&
    (isAscii label || label.length ≤ 1000)

structure Label where
  chars : List Char
  ascii : List Char
  deriving DecidableEq, Repr

namespace Label

def ofPunycode? (label code : List Char) : Option Label := do
  if ¬isAscii code ∨ code.getLast? = some '-' ∨ 2000 < code.length then none
  let chars ← Punycode.decode code
  if isAscii chars ∨ fold? chars ≠ some chars ∨ chars.any isForbidden ∨ chars.contains '.' then none
  if Punycode.encode chars ≠ code then none
  some ⟨chars, label⟩

def ofChars? (label : List Char) : Option Label :=
  match label with
  | 'x' :: 'n' :: '-' :: '-' :: code => ofPunycode? label code
  | _ =>
    if isAscii label then some ⟨label, label⟩
    else some ⟨label, 'x' :: 'n' :: '-' :: '-' :: Punycode.encode label⟩

end Label

open Unicode (Direction)

def isNumber (d : Direction) : Bool := d = .europeanNumber || d = .arabicNumber

def isNeutral (d : Direction) : Bool :=
  [.europeanNumber, .europeanSeparator, .commonSeparator, .europeanTerminator, .otherNeutral,
    .boundaryNeutral, .nonspacingMark].contains d

def runsRight (inner : List Direction) (last : Direction) : Bool :=
  (last = .leftToRight || last = .europeanNumber) &&
    inner.all fun d => d = .leftToRight || isNeutral d

def runsLeft (inner : List Direction) (last : Direction) : Bool :=
  let all := inner ++ [last]
  (last = .rightToLeft || last = .arabicLetter || isNumber last) &&
    (inner.all fun d =>
      d = .rightToLeft || d = .arabicLetter || d = .arabicNumber || isNeutral d) &&
    !(all.contains .europeanNumber && all.contains .arabicNumber)

def keepsDirection (label : List Char) : Bool :=
  match label.map Unicode.direction with
  | [] => true
  | first :: rest =>
    match rest.reverse.dropWhile (· = .nonspacingMark) with
    | [] => first = .leftToRight || first = .rightToLeft || first = .arabicLetter
    | last :: inner =>
      if first = .leftToRight then runsRight inner last
      else (first = .rightToLeft || first = .arabicLetter) && runsLeft inner last

end ModelServing.Url.Domain
