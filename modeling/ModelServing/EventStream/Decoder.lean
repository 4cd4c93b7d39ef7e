import ModelServing.EventStream.Event
import ModelServing.EventStream.Lines
import ModelServing.Text.Utf8
/-! Decoding an event stream from octets in chunks, and the replies that it carries. -/
namespace ModelServing.EventStream

structure Decoder where
  fresh : Bool
  held : Bytes
  left : List Char
  block : Block
  deriving DecidableEq, Repr

namespace Decoder

def start : Decoder := ⟨true, [], [], .empty⟩

def dropMark (fresh : Bool) : List Char → List Char
  | c :: rest => if fresh ∧ c.toNat = 0xFEFF then rest else c :: rest
  | [] => []

def feed (d : Decoder) (chunk : Bytes) : Decoder × List Event :=
  let (text, held) := Text.Utf8.decode (d.held ++ chunk)
  let (lines, left) := splitLines (d.left ++ dropMark d.fresh text)
  let (block, events) := d.block.lines lines
  (⟨d.fresh && text.isEmpty, held, left, block⟩, events)

def feedAll (d : Decoder) : List Bytes → Decoder × List Event
  | [] => (d, [])
  | chunk :: rest =>
    let (d, now) := d.feed chunk
    let (d, later) := d.feedAll rest
    (d, now ++ later)

def finish (d : Decoder) : List (Except Error Event) :=
  if d.held.isEmpty then [] else [.error (.eventStream "invalid UTF-8")]

end Decoder

def events (chunks : List Bytes) : List (Except Error Event) :=
  let (d, es) := Decoder.start.feedAll chunks
  es.map .ok ++ d.finish

def replies : List (Except Error Event) → List (Except Error Reply)
  | [] => []
  | .error e :: _ => [.error e]
  | .ok event :: rest =>
    if event.data.isEmpty then replies rest
    else
      match event.toReply with
      | .error e => [.error e]
      | .ok r => .ok r :: replies rest

def decode (chunks : List Bytes) : List (Except Error Reply) := replies (events chunks)

end ModelServing.EventStream
