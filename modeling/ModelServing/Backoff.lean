import ModelServing.Duration
/-! The pauses between polls: they start at one length, double after every so many and never exceed
a ceiling. -/
namespace ModelServing

structure Backoff where
  initial : Duration
  ceiling : Duration
  doublingEvery : Nat
  current : Duration
  waits : Fin UInt32.size
  deriving DecidableEq, Repr

namespace Backoff

def new (initial ceiling : Duration) (doublingEvery : Nat) : Backoff :=
  ⟨initial, ceiling, max doublingEvery 1, initial.min ceiling, 0⟩

def default : Backoff := new (.ofSeconds 1) (.ofSeconds 5) 3

def next (b : Backoff) : Duration × Backoff :=
  let waits := b.waits + 1
  let current := if waits.val % b.doublingEvery = 0 then b.current.double.min b.ceiling else b.current
  (b.current, { b with current, waits })

def reset (b : Backoff) : Backoff := { b with current := b.initial.min b.ceiling, waits := 0 }

def use (b : Backoff) : Nat → Backoff
  | 0 => b
  | n + 1 => b.next.2.use n

end Backoff

end ModelServing
