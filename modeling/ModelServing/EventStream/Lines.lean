/-! Lines of an event stream. A line ends in a line feed, a carriage return or both; a carriage
return at the very end waits for the character after it. -/
namespace ModelServing.EventStream

def splitLines : List Char → List (List Char) × List Char
  | [] => ([], [])
  | ['\r'] => ([], ['\r'])
  | '\r' :: '\n' :: rest => let (lines, left) := splitLines rest; ([] :: lines, left)
  | '\r' :: c :: rest => let (lines, left) := splitLines (c :: rest); ([] :: lines, left)
  | '\n' :: rest => let (lines, left) := splitLines rest; ([] :: lines, left)
  | c :: rest =>
    match splitLines rest with
    | ([], left) => ([], c :: left)
    | (line :: lines, left) => ((c :: line) :: lines, left)

end ModelServing.EventStream
