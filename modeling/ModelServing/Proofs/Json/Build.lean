import ModelServing.Json.Tree

/-! The tokens of a tree, and the tree that is built from them again. What is expected next depends on the
innermost open container only, so each tree is built where it stands, with the same containers around it
before and after. -/
namespace ModelServing.Json

mutual

def Tree.tokens : Tree → List Token
  | .null => [.null]
  | .bool b => [.bool b]
  | .number l => [.number l]
  | .text pieces => [.text pieces]
  | .array items => .openArray :: (itemTokens items ++ [.closeArray])
  | .object members => .openObject :: (memberTokens members ++ [.closeObject])

def itemTokens : List Tree → List Token
  | [] => []
  | [t] => t.tokens
  | t :: u :: rest => t.tokens ++ .comma :: itemTokens (u :: rest)

def memberTokens : List (List Piece × Tree) → List Token
  | [] => []
  | [(key, t)] => .text key :: .colon :: t.tokens
  | (key, t) :: m :: rest => .text key :: .colon :: (t.tokens ++ .comma :: memberTokens (m :: rest))

end

theorem buildCons (stack : List Container) (expect : Expect) (token : Token) (rest : List Token) :
    build stack expect (token :: rest) =
      (advance stack expect token).bind fun (stack, expect) => build stack expect rest := by
  cases expect <;> rfl

theorem buildFirst (t : Tree) (stack : List Container) (rest : List Token) :
    build stack .firstItem (t.tokens ++ rest) = build stack .value (t.tokens ++ rest) := by
  cases t with
  | null | bool b | number l | text pieces | array items | object members =>
    rw [Tree.tokens, List.cons_append, buildCons, buildCons]
    cases stack with
    | nil => rfl
    | cons top below => cases top <;> rfl

theorem buildFirstKey (key : List Piece) (stack : List Container) (rest : List Token) :
    build stack .firstKey (.text key :: rest) = build stack .key (.text key :: rest) := by
  rw [buildCons, buildCons]
  cases stack with
  | nil => rfl
  | cons top below => cases top <;> rfl

theorem buildNamed (key : List Piece) (members : List (List Piece × Tree)) (stack : List Container)
    (rest : List Token) :
    build (.object members :: stack) .key (.text key :: .colon :: rest) =
      build (.member members key :: stack) .value rest := rfl

mutual

theorem buildTree : ∀ (t : Tree) (stack : List Container) (rest : List Token),
    build stack .value (t.tokens ++ rest) =
      (put t stack).bind fun (stack, expect) => build stack expect rest
  | .null, _, _ | .bool _, _, _ | .number _, _, _ | .text _, _, _ => rfl
  | .array items, stack, rest => by
    rw [Tree.tokens, List.cons_append, buildCons, List.append_assoc]
    exact buildItems items stack rest
  | .object members, stack, rest => by
    rw [Tree.tokens, List.cons_append, buildCons, List.append_assoc]
    exact buildMembers members stack rest

theorem buildItems : ∀ (items : List Tree) (stack : List Container) (rest : List Token),
    build (.array [] :: stack) .firstItem (itemTokens items ++ .closeArray :: rest) =
      (put (.array items) stack).bind fun (stack, expect) => build stack expect rest
  | [], _, _ => rfl
  | t :: ts, stack, rest => by
    have first : build (.array [] :: stack) .firstItem (itemTokens (t :: ts) ++ .closeArray :: rest) =
        build (.array [] :: stack) .value (itemTokens (t :: ts) ++ .closeArray :: rest) := by
      cases ts with
      | nil => exact buildFirst t _ _
      | cons u more =>
        rw [itemTokens, List.append_assoc]
        exact buildFirst t _ _
    exact first.trans (buildMoreItems (t :: ts) (List.cons_ne_nil t ts) [] stack rest)

theorem buildMoreItems : ∀ (items : List Tree), items ≠ [] →
    ∀ (done : List Tree) (stack : List Container) (rest : List Token),
    build (.array done :: stack) .value (itemTokens items ++ .closeArray :: rest) =
      (put (.array (done.reverse ++ items)) stack).bind fun (stack, expect) =>
        build stack expect rest
  | [], empty, _, _, _ => absurd rfl empty
  | [t], _, done, stack, rest => by
    rw [itemTokens, buildTree t, put, Option.bind_some, ← List.reverse_cons]
    exact buildCons (.array (t :: done) :: stack) .separator .closeArray rest
  | t :: u :: more, _, done, stack, rest => by
    have next := buildMoreItems (u :: more) (List.cons_ne_nil u more) (t :: done) stack rest
    rw [List.reverse_cons, List.append_assoc] at next
    rw [itemTokens, List.append_assoc, buildTree t, put, Option.bind_some]
    exact (buildCons (.array (t :: done) :: stack) .separator .comma _).trans next

theorem buildMembers : ∀ (members : List (List Piece × Tree)) (stack : List Container)
    (rest : List Token),
    build (.object [] :: stack) .firstKey (memberTokens members ++ .closeObject :: rest) =
      (put (.object members) stack).bind fun (stack, expect) => build stack expect rest
  | [], _, _ => rfl
  | (key, t) :: members, stack, rest => by
    have first : build (.object [] :: stack) .firstKey
          (memberTokens ((key, t) :: members) ++ .closeObject :: rest) =
        build (.object [] :: stack) .key
          (memberTokens ((key, t) :: members) ++ .closeObject :: rest) := by
      cases members with
      | nil | cons m more => exact buildFirstKey key _ _
    exact first.trans
      (buildMoreMembers ((key, t) :: members) (List.cons_ne_nil _ members) [] stack rest)

theorem buildMoreMembers : ∀ (members : List (List Piece × Tree)), members ≠ [] →
    ∀ (done : List (List Piece × Tree)) (stack : List Container) (rest : List Token),
    build (.object done :: stack) .key (memberTokens members ++ .closeObject :: rest) =
      (put (.object (done.reverse ++ members)) stack).bind fun (stack, expect) =>
        build stack expect rest
  | [], empty, _, _, _ => absurd rfl empty
  | [(key, t)], _, done, stack, rest => by
    rw [memberTokens, List.cons_append, List.cons_append, buildNamed, buildTree t, put,
      Option.bind_some, ← List.reverse_cons]
    exact buildCons (.object ((key, t) :: done) :: stack) .separator .closeObject rest
  | (key, t) :: m :: more, _, done, stack, rest => by
    have next := buildMoreMembers (m :: more) (List.cons_ne_nil m more) ((key, t) :: done) stack rest
    rw [List.reverse_cons, List.append_assoc] at next
    rw [memberTokens, List.cons_append, List.cons_append, List.append_assoc, buildNamed, buildTree t,
      put, Option.bind_some]
    exact (buildCons (.object ((key, t) :: done) :: stack) .separator .comma _).trans next

end

theorem treeBuilt (t : Tree) : build [] .value t.tokens = some t := by
  have built := buildTree t [] []
  rwa [List.append_nil] at built

end ModelServing.Json
