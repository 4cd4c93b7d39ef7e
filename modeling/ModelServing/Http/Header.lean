import ModelServing.Text.Hex
/-! HTTP headers. Names are tokens, kept in lower case; values are visible characters, spaces and
tabs. A map holds one value per name, the one set last. -/
namespace ModelServing.Http

def isTokenChar (c : Char) : Bool :=
  ('0' ≤ c && c ≤ '9') || ('a' ≤ c && c ≤ 'z') || ('A' ≤ c && c ≤ 'Z') ||
    "!#$%&'*+-.^_`|~".toList.contains c

def maxNameLength : Nat := 65535

def lowerName (name : String) : String := String.ofList (name.toList.map Char.toLower)

def isName (name : String) : Bool :=
  let cs := name.toList
  !cs.isEmpty && cs.all isTokenChar && cs.length ≤ maxNameLength

def isValue (value : String) : Bool :=
  value.toList.all fun c => c = '\t' || (0x20 ≤ c.toNat && c.toNat ≠ 0x7F)

abbrev Headers := List (String × String)

namespace Headers

def get? (name : String) : Headers → Option String
  | [] => none
  | (k, v) :: rest => if k = name then some v else get? name rest

def insert (name value : String) : Headers → Headers
  | [] => [(name, value)]
  | (k, v) :: rest =>
    if name < k then (name, value) :: (k, v) :: rest
    else if name = k then (name, value) :: rest
    else (k, v) :: insert name value rest

def append (name value : String) : Headers → Headers
  | [] => [(name, value)]
  | (k, v) :: rest =>
    if name < k then (name, value) :: (k, v) :: rest else (k, v) :: append name value rest

theorem get?_insert (name key value : String) (headers : Headers) :
    (insert name value headers).get? key = if name = key then some value else headers.get? key := by
  induction headers with
  | nil => simp [insert, get?]
  | cons head rest ih => grind [insert, get?]

end Headers

end ModelServing.Http
