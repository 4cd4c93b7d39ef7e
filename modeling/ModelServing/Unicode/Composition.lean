import ModelServing.Unicode.CombiningClass
import ModelServing.Unicode.Decomposition
/-! Text in composed form: of all sequences that mean the same characters, the one in which each
character stands with as many of its marks as one code point can hold. -/
namespace ModelServing.Unicode

structure Classed where
  combining : Nat
  char : Char
  deriving DecidableEq, Repr

def place (c : Classed) : List Classed → List Classed
  | [] => [c]
  | d :: rest =>
    if 0 < d.combining ∧ d.combining < c.combining then d :: place c rest else c :: d :: rest

def ordered (text : List Char) : List Classed :=
  text.foldr (fun c rest => place ⟨combiningClass c, c⟩ rest) []

/-- Composes what follows `starter`. The marks in `kept`, the last first, stay apart from it, and
each keeps from it what is not of a higher class than its own. -/
def composeFrom (starter : Char) (kept : List Classed) : List Classed → List Char
  | [] => starter :: (kept.map Classed.char).reverse
  | c :: rest =>
    let free := match kept with
      | [] => true
      | k :: _ => decide (k.combining < c.combining)
    match if free then compose? starter.toNat c.char.toNat else none with
    | some n => composeFrom (Char.ofNat n) kept rest
    | none =>
      if c.combining = 0 then
        starter :: ((kept.map Classed.char).reverse ++ composeFrom c.char [] rest)
      else composeFrom starter (c :: kept) rest

def composed (text : List Char) : List Char :=
  if text.all (·.toNat < 0x300) then text
  else
    match ordered (text.flatMap fun c => (decompose c.toNat).map Char.ofNat) with
    | [] => []
    | c :: rest => composeFrom c.char [] rest

end ModelServing.Unicode
