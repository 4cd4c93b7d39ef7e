import ModelServing.Text.Decimal
/-! Excerpts of long texts for a log line: as much of the start as fits into a number of octets
without cutting a character apart, and a note of how many octets are missing. -/
namespace ModelServing.Text

def cut (s : String) : Nat → Nat
  | 0 => 0
  | n + 1 => if String.Pos.Raw.isValid s ⟨n + 1⟩ then n + 1 else cut s n

theorem cutValid (s : String) (n : Nat) : String.Pos.Raw.IsValid s ⟨cut s n⟩ := by
  fun_induction cut s n with
  | case1 => exact String.Pos.Raw.isValid_zero
  | case2 n whole => exact String.Pos.Raw.isValid_eq_true_iff.mp whole
  | case3 n within ih => exact ih

def start (s : String) (n : Nat) : String := (s.sliceTo ⟨⟨cut s n⟩, cutValid s n⟩).copy

def excerptMark : String := "... (truncated)"

def excerptLimit : Nat := 1024

def excerpt (limit : Nat) (s : String) : String :=
  if s.utf8ByteSize ≤ limit then s
  else
    start s limit ++ " " ++ excerptMark ++ " " ++ decimal (s.utf8ByteSize - cut s limit) ++ " bytes"

end ModelServing.Text
