import ModelServing.Reply
/-! Speech recognition: its request, and the sentences in its replies. -/
namespace ModelServing

structure Sentence where
  text : String
  beginTime : Option UInt64
  endTime : Option UInt64
  sentenceEnd : Option Bool
  words : List Json
  deriving DecidableEq

namespace Sentence

def fieldNames : List String := ["text", "begin_time", "end_time", "sentence_end", "words"]

def ofFields? (fields : Fields) : Option Sentence := do
  let text ← fields.orElse "text" Json.text? ""
  let beginTime ← fields.optional "begin_time" Json.natural?
  let endTime ← fields.optional "end_time" Json.natural?
  let sentenceEnd ← fields.optional "sentence_end" Json.flag?
  let words ← fields.orElse "words" Json.items? []
  some ⟨text, beginTime, endTime, sentenceEnd, words⟩

def ofJson? (value : Json) : Option Sentence := (value.record? fieldNames).bind ofFields?

def isEnd (s : Sentence) : Bool := s.sentenceEnd.getD s.endTime.isSome

end Sentence

structure RecognitionReply where
  raw : Reply
  sentence : Option Sentence
  deriving DecidableEq

namespace RecognitionReply

def ofReply (raw : Reply) : RecognitionReply :=
  ⟨raw, (raw.output?.bind (·.get? "sentence")).bind Sentence.ofJson?⟩

def text? (r : RecognitionReply) : Option String := r.sentence.map (·.text)

def isSentenceEnd (r : RecognitionReply) : Bool := (r.sentence.map (·.isEnd)).getD false

end RecognitionReply

namespace Request

def recognition (model format : String) (sampleRate : UInt32) : Request :=
  ((new model).withEndpoint "audio" "asr" "recognition").withParameter "format" (.string format)
    |>.withParameter "sample_rate" (.natural sampleRate.toUInt64)

def synthesis (model voice : String) : Request :=
  ((new model).withEndpoint "audio" "tts" "SpeechSynthesizer").withParameter "text_type"
    (.string "PlainText") |>.withParameter "voice" (.string voice)

end Request

end ModelServing
