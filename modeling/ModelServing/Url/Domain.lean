import ModelServing.Url.Domain.Label
import ModelServing.Url.Fault
/-! Domains in ASCII. A domain is folded, its labels are checked one by one, and those that go past
ASCII are written in Punycode. -/
namespace ModelServing.Url.Domain

def directionsFit (labels : List Label) : Bool :=
  if labels.any (·.chars.any Unicode.isRightToLeft) then labels.all (keepsDirection ·.chars)
  else true

def labelsFit (labels : List Label) : Bool :=
  labels.all (isWellFormed ·.chars) && directionsFit labels

def labels? (text : List Char) : Option (List Label) :=
  match fold? text with
  | none => none
  | some folded =>
    if folded.any isForbidden then none
    else ((folded.splitOn '.').mapM Label.ofChars?).filter labelsFit

def toAscii (written : List Char) : Except Fault (List Char) :=
  match (Text.Utf8.decode? (Text.Percent.decode (Text.Utf8.encode written))).bind labels? with
  | none => .error .internationalDomain
  | some labels => .ok (['.'].intercalate (labels.map Label.ascii))

end ModelServing.Url.Domain
