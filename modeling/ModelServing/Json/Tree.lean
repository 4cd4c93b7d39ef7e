import ModelServing.Json.Token
/-! The shape of JSON text: what nests in what, before any number or quoted text is given a value.
A stack of open containers reads the tokens from left to right. -/
namespace ModelServing.Json

inductive Tree where
  | null
  | bool (b : Bool)
  | number (l : Literal)
  | text (pieces : List Piece)
  | array (items : List Tree)
  | object (members : List (List Piece × Tree))

inductive Container where
  | array (items : List Tree)
  | object (members : List (List Piece × Tree))
  | member (members : List (List Piece × Tree)) (key : List Piece)

inductive Expect where
  | value
  | firstItem
  | firstKey
  | key
  | colon (key : List Piece)
  | separator
  | nothing (done : Tree)

def put (t : Tree) : List Container → Option (List Container × Expect)
  | [] => some ([], .nothing t)
  | .array items :: stack => some (.array (t :: items) :: stack, .separator)
  | .member members key :: stack => some (.object ((key, t) :: members) :: stack, .separator)
  | .object _ :: _ => none

def beginValue (stack : List Container) : Token → Option (List Container × Expect)
  | .openArray => some (.array [] :: stack, .firstItem)
  | .openObject => some (.object [] :: stack, .firstKey)
  | .null => put .null stack
  | .bool b => put (.bool b) stack
  | .number l => put (.number l) stack
  | .text pieces => put (.text pieces) stack
  | _ => none

def advance : List Container → Expect → Token → Option (List Container × Expect)
  | stack, .value, token => beginValue stack token
  | .array items :: stack, .firstItem, .closeArray => put (.array items.reverse) stack
  | stack, .firstItem, token => beginValue stack token
  | .object members :: stack, .firstKey, .closeObject => put (.object members.reverse) stack
  | stack, .firstKey, .text key => some (stack, .colon key)
  | stack, .key, .text key => some (stack, .colon key)
  | .object members :: stack, .colon key, .colon => some (.member members key :: stack, .value)
  | .array items :: stack, .separator, .comma => some (.array items :: stack, .value)
  | .object members :: stack, .separator, .comma => some (.object members :: stack, .key)
  | .array items :: stack, .separator, .closeArray => put (.array items.reverse) stack
  | .object members :: stack, .separator, .closeObject => put (.object members.reverse) stack
  | _, _, _ => none

def build : List Container → Expect → List Token → Option Tree
  | _, .nothing t, [] => some t
  | _, _, [] => none
  | stack, expect, token :: rest => do
    let (stack, expect) ← advance stack expect token
    build stack expect rest

def Tree.ofChars? (text : List Char) : Option Tree := do
  let tokens ← scan .between text
  build [] .value tokens

end ModelServing.Json
