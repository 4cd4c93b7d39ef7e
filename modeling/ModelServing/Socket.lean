import ModelServing.Config
import ModelServing.Connection
import ModelServing.Dialect.Basic
/-! Connections over web sockets. -/
namespace ModelServing.Socket

inductive Message where
  | text (s : String)
  | binary (bytes : Bytes)
  | ping (bytes : Bytes)
  | pong (bytes : Bytes)
  | close (reason : Option (UInt16 × String))
  deriving DecidableEq, Repr

def Message.arrival? : Message → Option Arrival
  | .text s => some (.frame (.text s))
  | .binary bytes => some (.frame (.binary bytes))
  | .close _ => some .hungUp
  | .ping _ | .pong _ => none

def arrivals (messages : List Message) : List Arrival := messages.filterMap Message.arrival?

structure Handshake where
  url : Url
  headers : Http.Headers
  deriving DecidableEq

def handshake (url : String) (headers : Http.Headers) : Except Error Handshake := do
  let u ← Dialect.parseUrl url
  return ⟨u, headers⟩

def connect {σ : Type} (reach : Handshake → Option σ) (url : String) (headers : Http.Headers) :
    Except Error σ := do
  let h ← handshake url headers
  match reach h with
  | some connection => return connection
  | none => throw (.socket .unreachable)

end ModelServing.Socket
