import ModelServing.Text.Decimal

/-! Decimal notation: digits only, no leading zero, and the number can be read off it. -/
namespace ModelServing.Text

theorem decimalDigits (n : Nat) : ∀ c ∈ decimalChars n, isDigit c = true :=
  fun _ member => Nat.isDigit_of_mem_toDigits (by decide) (by decide) member

theorem decimalLead {n : Nat} (positive : 0 < n) : (decimalChars n).head? ≠ some '0' := by
  induction n using Nat.strongRecOn with
  | ind n ih =>
    unfold decimalChars at ih ⊢
    by_cases small : n < 10
    · rw [Nat.toDigits_of_lt_base small]
      have nonzero : ∀ d ∈ List.range 10, 0 < d → [d.digitChar].head? ≠ some '0' := by decide
      exact nonzero n (List.mem_range.mpr small) positive
    · have lead := ih (n / 10) (by omega) (by omega)
      rw [Nat.toDigits_of_base_le (by decide) (by omega), List.head?_append]
      cases digits : Nat.toDigits 10 (n / 10) with
      | nil => exact absurd digits Nat.toDigits_ne_nil
      | cons d rest =>
        rw [digits] at lead
        exact lead

theorem decimalSingle {n : Nat} (lead : (decimalChars n).head? = some '0') :
    (decimalChars n).length = 1 := by
  cases n with
  | zero => rfl
  | succ n => exact absurd lead (decimalLead (Nat.succ_pos n))

theorem digitsValueIs (cs : List Char) (acc : Nat) :
    digitsValue acc cs = Nat.ofDigitChars 10 cs acc := by
  induction cs generalizing acc with
  | nil => rfl
  | cons c rest ih => exact (ih _).trans Nat.ofDigitChars_cons.symm

theorem decimalValue (n : Nat) : digitsValue 0 (decimalChars n) = n := by
  rw [digitsValueIs]
  exact Nat.ofDigitChars_ten_toDigits

end ModelServing.Text
