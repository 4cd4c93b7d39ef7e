import ModelServing.Url.Basic
import ModelServing.Url.Domain
/-! Reading URLs. What is written loosely (stray blanks, backslashes, dot segments, default ports,
capital letters in scheme and host) comes out in its one written form. -/
namespace ModelServing.Url

def keepsBut (encoded : String) (c : Char) : Bool :=
  0x20 ≤ c.toNat && c.toNat < 0x7F && !encoded.toList.contains c

def fragmentKeeps : Char → Bool := keepsBut " \"<>`"
def pathKeeps : Char → Bool := keepsBut " \"<>`#?\x7b\x7d"
def userKeeps : Char → Bool := keepsBut " \"<>`#?\x7b\x7d/:;=@[\\]^|"
def queryKeeps : Char → Bool := keepsBut " \"#<>"
def specialQueryKeeps : Char → Bool := keepsBut " \"#<>'"
def controlKeeps : Char → Bool := keepsBut ""

def isControlOrSpace (c : Char) : Bool := c.toNat ≤ 0x20

def isLineOrTab (c : Char) : Bool := c = '\t' || c = '\n' || c = '\r'

def trim (written : List Char) : List Char :=
  let front := written.dropWhile isControlOrSpace
  (front.reverse.dropWhile isControlOrSpace).reverse

def clean (text : List Char) : List Char := text.filter fun c => !isLineOrTab c

def isLetter (c : Char) : Bool := ('a' ≤ c && c ≤ 'z') || ('A' ≤ c && c ≤ 'Z')

def isSchemeChar (c : Char) : Bool :=
  Text.Percent.isAlphanumeric c || c == '+' || c == '-' || c == '.'

def scheme? (cs : List Char) : Option (List Char × List Char) :=
  match cs.takeWhile isSchemeChar, cs.dropWhile isSchemeChar with
  | c :: name, ':' :: rest =>
    if isLetter c then some ((c :: name).map Char.toLower, rest) else none
  | _, _ => none

def isSlash (special : Bool) (c : Char) : Bool := c = '/' || (special && c = '\\')

def endsAuthority (special : Bool) (c : Char) : Bool := isSlash special c || c = '?' || c = '#'

def dropDot : List Char → Option (List Char)
  | '.' :: rest => some rest
  | '%' :: '2' :: e :: rest => if e = 'e' ∨ e = 'E' then some rest else none
  | _ => none

def isDot (segment : List Char) : Bool := dropDot segment = some []

def isDoubleDot (segment : List Char) : Bool := (dropDot segment).bind dropDot = some []

def isDriveLetter : List Char → Bool
  | [a, b] => isLetter a && (b = ':' || b = '|')
  | _ => false

def beginsWithDrive (segment : List Char) : Bool :=
  isDriveLetter (segment.take 2) && (segment.drop 2).head?.all (· = '\\')

def driveApart? (segment : List Char) : Option (List Char × List Char) :=
  match segment.dropWhile isLineOrTab with
  | [] => none
  | a :: more =>
    match more.dropWhile isLineOrTab with
    | ':' :: c :: rest =>
      if isLetter a ∧ isLineOrTab c ∧ clean rest ≠ [] then some ([a, ':'], clean rest) else none
    | _ => none

structure Trail where
  done : List (List Char)
  onDrive : Bool

namespace Trail

def start : Trail := ⟨[], false⟩

def leave (t : Trail) : Trail :=
  match t.done with
  | [] => t
  | d :: rest => if beginsWithDrive d then t else { t with done := rest }

def add (t : Trail) (segment : List Char) : Trail :=
  { t with done := Text.Percent.encodeText pathKeeps segment :: t.done }

def enter (file : Bool) (t : Trail) (segment : List Char) : Trail :=
  if file ∧ t.done = [] then
    match driveApart? segment, clean segment with
    | some (drive, rest), _ => (t.add drive).add rest
    | none, [a, b] => if isDriveLetter [a, b] then ⟨[[a, ':']], true⟩ else t.add [a, b]
    | none, cs => t.add cs
  else t.add (clean segment)

def walk (file : Bool) (t : Trail) : List (List Char) → Trail
  | [] => t
  | [last] =>
    if isDoubleDot (clean last) then t.leave.add []
    else if isDot (clean last) then t.add []
    else t.enter file last
  | segment :: rest =>
    if isDoubleDot (clean segment) then walk file t.leave rest
    else if isDot (clean segment) then walk file t rest
    else walk file (t.enter file segment) rest

end Trail

def dropEmpty (parts : List (List Char)) : List (List Char) :=
  match parts.dropWhile List.isEmpty with
  | [] => [[]]
  | rest => rest

def isPathChar (c : Char) : Bool := c ≠ '?' && c ≠ '#'

def queryAndFragment (special : Bool) (cs : List Char) : Option (List Char) × Option (List Char) :=
  let keeps := if special then specialQueryKeeps else queryKeeps
  let fragment (rest : List Char) := match rest with
    | '#' :: f => some (Text.Percent.encodeText fragmentKeeps f)
    | _ => none
  match cs with
  | '?' :: rest =>
    (some (Text.Percent.encodeText keeps (rest.takeWhile (· ≠ '#'))),
      fragment (rest.dropWhile (· ≠ '#')))
  | rest => (none, fragment rest)

def nowhere : Authority := ⟨[], [], .domain [], none⟩

def finish (scheme : List Char) (authority : Option Authority) (cs : List Char) : Url :=
  let special := isSpecial scheme
  let file := scheme = "file".toList
  let trail := Trail.start.walk file ((cs.takeWhile isPathChar).splitOnP (isSlash special))
  let parts := trail.done.reverse
  let (query, fragment) := queryAndFragment special (clean (cs.dropWhile isPathChar))
  ⟨scheme, if trail.onDrive then some nowhere else authority,
    .segments (if file then dropEmpty parts else parts), query, fragment⟩

def lastAt? (cs : List Char) : Option (List Char × List Char) :=
  let host := (cs.reverse.takeWhile (· ≠ '@')).reverse
  if host.length = cs.length then none
  else some ((cs.take (cs.length - host.length)).dropLast, host)

def parseHost (special : Bool) (cs : List Char) : Except Fault Host :=
  match cs with
  | '[' :: rest =>
    if rest.getLast? = some ']' then (Ipv6.parse rest.dropLast).map .ipv6 else .error .ipv6
  | _ =>
    if special then
      match Domain.toAscii cs with
      | .error e => .error e
      | .ok name =>
        if name.isEmpty then .error .emptyHost
        else if Ipv4.endsInNumber name then (Ipv4.parse name).map .ipv4
        else .ok (.domain name)
    else if cs.any ("\x00\t\n\r #/:<>?@[\\]^|".toList.contains ·) then .error .hostCharacter
    else .ok (.domain (Text.Percent.encodeText controlKeeps cs))

def spanHost (inside : Bool) : List Char → List Char × List Char
  | [] => ([], [])
  | c :: rest =>
    if c = ':' ∧ ¬inside then ([], c :: rest)
    else
      let inside := if c = '[' then true else if c = ']' then false else inside
      let (host, after) := spanHost inside rest
      (c :: host, after)

def parsePort (scheme cs : List Char) : Except Fault (Option Nat × List Char) :=
  let digits := cs.takeWhile Text.isDigit
  let rest := cs.dropWhile Text.isDigit
  let n := Text.digitsValue 0 digits
  if 65535 < n ∨ rest.head?.any (· ≠ '\\') then .error .port
  else .ok (if digits.isEmpty ∨ defaultPort scheme = some n then none else some n, rest)

def credentials (cs : List Char) : List Char × List Char :=
  (Text.Percent.encodeText userKeeps (cs.takeWhile (· ≠ ':')),
    Text.Percent.encodeText userKeeps ((cs.dropWhile (· ≠ ':')).drop 1))

def isLocal (host : Host) : Bool := host = .domain "localhost".toList

def parseAuthority (scheme cs : List Char) : Except Fault (Authority × List Char) := do
  let special := isSpecial scheme
  let written := cs.takeWhile (!endsAuthority special ·)
  let after := cs.dropWhile (!endsAuthority special ·)
  if lastAt? written = some ([], []) ∧ after ≠ [] then throw .emptyHost
  let (user, hostAndPort) := (lastAt? written).getD ([], written)
  let (host, port) := spanHost false hostAndPort
  if host.isEmpty ∧ special then throw .emptyHost
  let host ← parseHost special host
  if host = .domain [] ∧ port ≠ [] then throw .emptyHost
  let (port, rest) ← parsePort scheme (port.drop 1)
  let (user, password) := credentials user
  if host = .domain [] ∧ ¬(user.isEmpty ∧ password.isEmpty) then throw .emptyHost
  return (⟨user, password, host, port⟩, rest ++ after)

def skip : Nat → List Char → List Char
  | 0, cs => cs
  | _ + 1, [] => []
  | n + 1, c :: rest => if isLineOrTab c then skip (n + 1) rest else skip n rest

/-- A file URL has a host or none; the local host counts as none, and then the slash behind it
belongs to the path. The path is taken from `uncleaned`, which still has its tabs and line ends. -/
def parseFile (scheme uncleaned : List Char) : Except Fault Url := do
  let cs := clean uncleaned
  let slashes := ((cs.take 2).takeWhile (isSlash true)).length
  if slashes < 2 then return finish scheme (some nowhere) (skip slashes uncleaned)
  let written := (cs.drop 2).takeWhile (!endsAuthority true ·)
  if isDriveLetter written then return finish scheme (some nowhere) (skip 2 uncleaned)
  let after := skip (2 + written.length) uncleaned
  if written.isEmpty then return finish scheme (some nowhere) after
  let host ← parseHost true written
  if isLocal host then return finish scheme (some nowhere) after
  let root := if (clean after).head?.any (isSlash true) then 1 else 0
  return finish scheme (some ⟨[], [], host, none⟩) (skip root after)

def parseHierarchy (scheme cs : List Char) : Except Fault Url := do
  let special := isSpecial scheme
  let (authority, rest) ← parseAuthority scheme cs
  match rest with
  | c :: path =>
    if isSlash special c then return finish scheme (some authority) path
    else if special ∨ isPathChar c then return finish scheme (some authority) (c :: path)
    else
      let (query, fragment) := queryAndFragment special (c :: path)
      return ⟨scheme, some authority, .segments [], query, fragment⟩
  | [] =>
    return if special then finish scheme (some authority) []
      else ⟨scheme, some authority, .segments [], none, none⟩

def parseRootless (scheme cs : List Char) : Url :=
  let (query, fragment) := queryAndFragment false (cs.dropWhile isPathChar)
  ⟨scheme, none, .rootless (Text.Percent.encodeText controlKeeps (cs.takeWhile isPathChar)), query,
    fragment⟩

def parseChars (written : List Char) : Except Fault Url :=
  let trimmed := trim written
  match scheme? (clean trimmed) with
  | none => .error .relativeWithoutBase
  | some (scheme, rest) =>
    if scheme = "file".toList then parseFile scheme (skip (scheme.length + 1) trimmed)
    else if isSpecial scheme then parseHierarchy scheme (rest.dropWhile (isSlash true))
    else
      match rest with
      | '/' :: '/' :: rest => parseHierarchy scheme rest
      | '/' :: rest => .ok (finish scheme none rest)
      | rest => .ok (parseRootless scheme rest)

def parse (written : String) : Except Fault Url := parseChars written.toList

end ModelServing.Url
