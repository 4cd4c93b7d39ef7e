import ModelServing.Json.Record
/-! What a reply cost. The counters that most services share are typed; the others are kept as they
came. -/
namespace ModelServing

structure Usage where
  inputTokens : Option UInt64
  outputTokens : Option UInt64
  totalTokens : Option UInt64
  characters : Option UInt64
  duration : Option Double
  extra : Fields
  deriving DecidableEq

namespace Usage

def fieldNames : List String :=
  ["input_tokens", "output_tokens", "total_tokens", "characters", "duration"]

def ofJson? : Json → Option Usage
  | .object fields => do
    let inputTokens ← Fields.optional fields "input_tokens" Json.natural?
    let outputTokens ← Fields.optional fields "output_tokens" Json.natural?
    let totalTokens ← Fields.optional fields "total_tokens" Json.natural?
    let characters ← Fields.optional fields "characters" Json.natural?
    let duration ← Fields.optional fields "duration" Json.double?
    let extra := fields.filter fun m => !fieldNames.contains m.1
    some ⟨inputTokens, outputTokens, totalTokens, characters, duration, extra⟩
  | _ => none

def toJson (u : Usage) : Json :=
  .object <|
    Fields.insertSome "input_tokens" (u.inputTokens.map Json.natural) <|
    Fields.insertSome "output_tokens" (u.outputTokens.map Json.natural) <|
    Fields.insertSome "total_tokens" (u.totalTokens.map Json.natural) <|
    Fields.insertSome "characters" (u.characters.map Json.natural) <|
    Fields.insertSome "duration" (u.duration.map fun d => .number (.double d)) u.extra

end Usage

end ModelServing
