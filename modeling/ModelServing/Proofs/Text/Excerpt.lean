import ModelServing.Text.Excerpt

/-! What an excerpt shows. Walking back from the limit ends at the last place that parts two characters, which
is three octets away at most, since no character is longer than four. -/
namespace ModelServing.Text

section
variable {s : String} {n : Nat}

theorem cutWithin (s : String) (n : Nat) : cut s n ≤ n := by
  fun_induction cut s n with
  | case1 => exact Nat.le_refl 0
  | case2 n whole => exact Nat.le_refl (n + 1)
  | case3 n within ih => exact Nat.le_succ_of_le ih

theorem cutLast {m : Nat} (whole : String.Pos.Raw.IsValid s ⟨m⟩) (within : m ≤ n) : m ≤ cut s n := by
  fun_induction cut s n with
  | case1 => exact within
  | case2 n _ => exact within
  | case3 n inside ih =>
    have other : m ≠ n + 1 := by
      rintro rfl
      exact inside (String.Pos.Raw.isValid_eq_true_iff.mpr whole)
    exact ih (by omega)

theorem wholeAppend (shown hidden : String) :
    String.Pos.Raw.IsValid (shown ++ hidden) ⟨shown.utf8ByteSize⟩ :=
  String.Pos.Raw.isValid_iff_exists_append.mpr ⟨shown, hidden, rfl, rfl⟩

theorem cutParts (s : String) (n : Nat) :
    ∃ hidden, s = start s n ++ hidden ∧ (start s n).utf8ByteSize = cut s n := by
  have splits := String.Pos.splits ⟨⟨cut s n⟩, cutValid s n⟩
  exact ⟨_, splits.eq_append, congrArg String.Pos.Raw.byteIdx splits.offset_eq_rawEndPos.symm⟩

theorem startsNest {a b c d : String} (same : a ++ b = c ++ d) (less : a.utf8ByteSize ≤ c.utf8ByteSize) :
    ∃ more, c = a ++ more := by
  have chars := congrArg String.toList same
  rw [String.toList_append, String.toList_append] at chars
  rcases List.append_eq_append_iff.mp chars with ⟨more, longer, _⟩ | ⟨more, shorter, _⟩
  · refine ⟨String.ofList more, String.toList_inj.mp ?_⟩
    rw [String.toList_append, String.toList_ofList, longer]
  · have split : a = c ++ String.ofList more := String.toList_inj.mp <| by
      rw [String.toList_append, String.toList_ofList, shorter]
    have nothing : (String.ofList more).utf8ByteSize = 0 := by
      have sizes := congrArg String.utf8ByteSize split
      rw [String.utf8ByteSize_append] at sizes
      omega
    refine ⟨"", ?_⟩
    rw [split, String.utf8ByteSize_eq_zero_iff.mp nothing, String.append_empty, String.append_empty]

theorem cutClose {shown hidden : String} (parts : s = shown ++ hidden)
    (size : shown.utf8ByteSize = cut s n) (long : n < s.utf8ByteSize) : n ≤ cut s n + 3 := by
  have within := cutWithin s n
  cases chars : hidden.toList with
  | nil =>
    have nothing : hidden = "" := String.toList_inj.mp chars
    rw [parts, nothing, String.append_empty, size] at long
    omega
  | cons c rest =>
    have next : hidden = String.singleton c ++ String.ofList rest := String.toList_inj.mp <| by
      rw [chars, String.toList_append, String.toList_singleton, String.toList_ofList]
      rfl
    have further : String.Pos.Raw.IsValid s ⟨cut s n + c.utf8Size⟩ := by
      have whole := wholeAppend (shown ++ String.singleton c) (String.ofList rest)
      rwa [String.append_assoc, ← next, ← parts, String.utf8ByteSize_append, size,
        String.utf8ByteSize_singleton] at whole
    have some_ := c.utf8Size_pos
    have short := c.utf8Size_le_four
    by_cases fits : cut s n + c.utf8Size ≤ n
    · have passed := cutLast further fits
      omega
    · omega

end

structure Parted (limit : Nat) (s shown hidden : String) : Prop where
  whole : s = shown ++ hidden
  fits : shown.utf8ByteSize ≤ limit
  close : limit ≤ shown.utf8ByteSize + 3
  longest : ∀ other rest : String, s = other ++ rest → other.utf8ByteSize ≤ limit →
    ∃ more, shown = other ++ more

theorem cutParted {limit : Nat} {s : String} (long : limit < s.utf8ByteSize) :
    ∃ hidden, Parted limit s (start s limit) hidden ∧ (start s limit).utf8ByteSize = cut s limit := by
  obtain ⟨hidden, parts, size⟩ := cutParts s limit
  refine ⟨hidden, ⟨parts, ?_, ?_, fun other rest same fits => ?_⟩, size⟩
  · exact size ▸ cutWithin s limit
  · exact size ▸ cutClose parts size long
  · have whole : String.Pos.Raw.IsValid s ⟨other.utf8ByteSize⟩ := same ▸ wholeAppend other rest
    exact startsNest (same.symm.trans parts) (size ▸ cutLast whole fits)

theorem excerptTells (limit : Nat) (s : String) :
    (s.utf8ByteSize ≤ limit → excerpt limit s = s) ∧
    (limit < s.utf8ByteSize → ∃ shown hidden : String,
      Parted limit s shown hidden ∧
      cut s limit = shown.utf8ByteSize ∧
      shown.utf8ByteSize + hidden.utf8ByteSize = s.utf8ByteSize ∧
      excerpt limit s =
        shown ++ " " ++ excerptMark ++ " " ++ toString hidden.utf8ByteSize ++ " bytes") := by
  refine ⟨fun short => if_pos short, fun long => ?_⟩
  obtain ⟨hidden, parted, size⟩ := cutParted long
  have sizes : (start s limit).utf8ByteSize + hidden.utf8ByteSize = s.utf8ByteSize := by
    rw [← String.utf8ByteSize_append, ← parted.whole]
  have missing : s.utf8ByteSize - cut s limit = hidden.utf8ByteSize := by omega
  refine ⟨start s limit, hidden, parted, size.symm, sizes, ?_⟩
  rw [excerpt, if_neg (Nat.not_le.mpr long), missing]
  rfl

example : excerpt 3 "ééééé" = "é ... (truncated) 8 bytes" := by decide

end ModelServing.Text
