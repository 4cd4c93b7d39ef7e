import ModelServing.Text.Percent
import ModelServing.Url.Ip
/-! URLs by their parts, and their one written form. -/
namespace ModelServing

namespace Url

inductive Host where
  | domain (name : List Char)
  | ipv4 (address : Nat)
  | ipv6 (pieces : List Nat)
  deriving DecidableEq, Repr

def Host.chars : Host → List Char
  | .domain name => name
  | .ipv4 address => Ipv4.chars address
  | .ipv6 pieces => Ipv6.chars pieces

structure Authority where
  user : List Char
  password : List Char
  host : Host
  port : Option Nat
  deriving DecidableEq, Repr

def Authority.chars (a : Authority) : List Char :=
  (if a.user.isEmpty ∧ a.password.isEmpty then []
    else a.user ++ (if a.password.isEmpty then [] else ':' :: a.password) ++ ['@']) ++
  a.host.chars ++
  match a.port with
  | none => []
  | some n => ':' :: Text.decimalChars n

inductive Path where
  | rootless (text : List Char)
  | segments (parts : List (List Char))
  deriving DecidableEq, Repr

def joinSegments (parts : List (List Char)) : List Char := parts.flatMap ('/' :: ·)

end Url

structure Url where
  scheme : List Char
  authority : Option Url.Authority
  path : Url.Path
  query : Option (List Char)
  fragment : Option (List Char)
  deriving DecidableEq, Repr

namespace Url

def isSpecial (scheme : List Char) : Bool :=
  ["http", "https", "ws", "wss", "ftp", "file"].any (·.toList = scheme)

def defaultPort (scheme : List Char) : Option Nat :=
  if scheme = "http".toList ∨ scheme = "ws".toList then some 80
  else if scheme = "https".toList ∨ scheme = "wss".toList then some 443
  else if scheme = "ftp".toList then some 21
  else none

def pathChars (u : Url) : List Char :=
  match u.path with
  | .rootless text => text
  | .segments parts =>
    match u.authority, parts with
    | none, [] :: _ :: _ => '/' :: '.' :: joinSegments parts
    | _, _ => joinSegments parts

def chars (u : Url) : List Char :=
  u.scheme ++ ':' ::
  ((match u.authority with
    | none => []
    | some a => '/' :: '/' :: a.chars) ++
  u.pathChars ++
  (match u.query with
    | none => []
    | some q => '?' :: q) ++
  match u.fragment with
  | none => []
  | some f => '#' :: f)

def text (u : Url) : String := String.ofList u.chars

def appendQuery (u : Url) (name value : String) : Url :=
  let pair := Text.Percent.formQuery [(name, value)]
  let query := match u.query with
    | none | some [] => pair
    | some q => q ++ '&' :: pair
  { u with query := some query }

end Url

end ModelServing
