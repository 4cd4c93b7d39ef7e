import ModelServing.Number.Double
import Mathlib.Tactic.Ring

/-! Whole numbers as doubles. The double that is read for one is nearest to it among all doubles; where two
are as near, it is the one with the even significand. There is one such double for each number. -/
namespace ModelServing

def apart (a b : Nat) : Nat := (a - b) + (b - a)

section
variable {n d : Nat}

theorem roundedSteps (n d : Nat) :
    (roundedQuotient n d = n / d ∧ 2 * (n % d) < d) ∨
    (roundedQuotient n d = n / d + 1 ∧ d < 2 * (n % d)) ∨
    (2 * (n % d) = d ∧ roundedQuotient n d = n / d + n / d % 2) := by
  unfold roundedQuotient
  dsimp only
  split
  · rename_i less
    exact .inl ⟨rfl, less⟩
  · split
    · rename_i more
      exact .inr (.inl ⟨rfl, more⟩)
    · exact .inr (.inr ⟨by omega, rfl⟩)

theorem multipleSides (k q d : Nat) :
    k * d + d ≤ q * d ∨ k = q ∨ k = q + 1 ∨ q * d + 2 * d ≤ k * d := by
  rcases Nat.lt_trichotomy k q with less | same | more
  · have product := Nat.mul_le_mul_right d less
    rw [Nat.succ_mul] at product
    exact .inl product
  · exact .inr (.inl same)
  · by_cases next : k = q + 1
    · exact .inr (.inr (.inl next))
    · have product : (q + 2) * d ≤ k * d := Nat.mul_le_mul_right d (by omega)
      rw [Nat.add_mul] at product
      exact .inr (.inr (.inr product))

theorem roundedNearest (positive : 0 < d) (k : Nat) :
    apart n (roundedQuotient n d * d) ≤ apart n (k * d) := by
  have whole := Nat.div_add_mod' n d
  have part := Nat.mod_lt n positive
  have next : (n / d + 1) * d = n / d * d + d := Nat.succ_mul ..
  unfold apart
  rcases roundedSteps n d with ⟨rounded, near⟩ | ⟨rounded, near⟩ | ⟨half, rounded⟩
  · rw [rounded]
    rcases multipleSides k (n / d) d with less | rfl | rfl | more <;> omega
  · rw [rounded]
    rcases multipleSides k (n / d) d with less | rfl | rfl | more <;> omega
  · have either : roundedQuotient n d = n / d ∨ roundedQuotient n d = n / d + 1 := by omega
    rcases either with rounded | rounded
    all_goals
      rw [rounded]
      rcases multipleSides k (n / d) d with less | rfl | rfl | more <;> omega

theorem roundedTie (positive : 0 < d) {k : Nat} (other : k ≠ roundedQuotient n d)
    (near : apart n (k * d) ≤ apart n (roundedQuotient n d * d)) : roundedQuotient n d % 2 = 0 := by
  have whole := Nat.div_add_mod' n d
  have part := Nat.mod_lt n positive
  have next : (n / d + 1) * d = n / d * d + d := Nat.succ_mul ..
  unfold apart at near
  rcases roundedSteps n d with ⟨rounded, less⟩ | ⟨rounded, more⟩ | ⟨half, rounded⟩
  · rw [rounded] at near other
    rcases multipleSides k (n / d) d with below | rfl | rfl | above <;> omega
  · rw [rounded] at near other
    rcases multipleSides k (n / d) d with below | rfl | rfl | above <;> omega
  · omega

end

namespace Double

theorem significandBound (d : Double) : d.significand < 2 * fractionSize := by
  have small : d.fraction < fractionSize := Nat.mod_lt _ (by decide)
  unfold significand
  split <;> omega

theorem belowScale {d : Double} {scale : Nat} (less : d.scale < scale) :
    d.units < fractionSize * 2 ^ scale := by
  have step : 2 * 2 ^ d.scale ≤ 2 ^ scale := by
    rw [← Nat.pow_succ']
    exact Nat.pow_le_pow_right Nat.two_pos less
  have units : d.units = d.significand * 2 ^ d.scale := rfl
  calc d.units < 2 * fractionSize * 2 ^ d.scale :=
        units ▸ Nat.mul_lt_mul_of_pos_right d.significandBound (Nat.two_pow_pos d.scale)
    _ = fractionSize * (2 * 2 ^ d.scale) := by ring
    _ ≤ fractionSize * 2 ^ scale := Nat.mul_le_mul_left fractionSize step

theorem coarser {d : Double} {scale : Nat} (more : scale ≤ d.scale) :
    d.units = d.significand * 2 ^ (d.scale - scale) * 2 ^ scale := by
  rw [Nat.mul_assoc, ← Nat.pow_add, Nat.sub_add_cancel more]
  rfl

theorem onGrid (d : Double) (scale : Nat) :
    (∃ k, d.units = k * 2 ^ scale) ∨ d.units < fractionSize * 2 ^ scale := by
  rcases Nat.lt_or_ge d.scale scale with less | more
  · exact .inr (belowScale less)
  · exact .inl ⟨_, coarser more⟩

theorem unitsOfFields {d : Double} {exponent fraction : Nat} (raised : d.exponentField = exponent + 1)
    (held : d.fraction = fraction) :
    d.significand = fractionSize + fraction ∧ d.units = (fractionSize + fraction) * 2 ^ exponent := by
  have whole : d.significand = fractionSize + fraction := by
    rw [significand, raised, if_neg (Nat.succ_ne_zero exponent), held]
  have place : d.scale = exponent := by rw [scale, raised, Nat.add_sub_cancel]
  refine ⟨whole, ?_⟩
  rw [units, whole, place]
  rfl

theorem assembled {scale significand : Nat} (normal : scale = 0 ∨ fractionSize ≤ significand)
    (fits : significand ≤ 2 * fractionSize)
    (small : scale * fractionSize + significand < 2047 * fractionSize) {d : Double}
    (made : d.bits.toNat = scale * fractionSize + significand) :
    d.isNegative = false ∧ d.isFinite = true ∧ d.units = significand * 2 ^ scale ∧
      (significand % 2 = 0 → d.significand % 2 = 0) := by
  have positive : d.isNegative = false := by
    unfold isNegative signWeight
    unfold fractionSize at *
    simp only [decide_eq_false_iff_not]
    omega
  have finite : d.isFinite = true := by
    unfold isFinite exponentField
    unfold fractionSize at *
    simp only [decide_eq_true_eq]
    omega
  refine ⟨positive, finite, ?_⟩
  rcases Nat.lt_or_ge significand fractionSize with less | more
  · have zero : scale = 0 := by omega
    have exponent : d.exponentField = 0 := by
      unfold exponentField
      unfold fractionSize at *
      omega
    have held : d.fraction = significand := by
      unfold fraction
      unfold fractionSize at *
      omega
    have whole : d.significand = significand := by rw [Double.significand, if_pos exponent, held]
    refine ⟨?_, by rw [whole]; exact id⟩
    rw [units, whole, Double.scale, exponent, zero]
    rfl
  · rcases Nat.lt_or_eq_of_le fits with less | carried
    · have exponent : d.exponentField = scale + 1 := by
        unfold exponentField
        unfold fractionSize at *
        omega
      have held : d.fraction = significand - fractionSize := by
        unfold fraction
        unfold fractionSize at *
        omega
      obtain ⟨whole, units⟩ := unitsOfFields exponent held
      rw [Nat.add_sub_cancel' more] at whole units
      exact ⟨units, by rw [whole]; exact id⟩
    · have exponent : d.exponentField = (scale + 1) + 1 := by
        unfold exponentField
        unfold fractionSize at *
        omega
      have held : d.fraction = 0 := by
        unfold fraction
        unfold fractionSize at *
        omega
      obtain ⟨whole, units⟩ := unitsOfFields exponent held
      refine ⟨?_, fun _ => by rw [whole]; decide⟩
      rw [units, carried]
      ring

def scaleFor (units : Nat) : Nat := if units < 2 * fractionSize then 0 else Nat.log2 units - 52

theorem scaleFits (units : Nat) :
    units < 2 * fractionSize * 2 ^ scaleFor units ∧
      (scaleFor units = 0 ∨ fractionSize * 2 ^ scaleFor units ≤ units) := by
  have size : fractionSize = 2 ^ 52 := rfl
  unfold scaleFor
  split
  · rename_i small
    exact ⟨by simpa using small, .inl rfl⟩
  · rename_i large
    have some_ : units ≠ 0 := by
      rintro rfl
      exact large (by decide)
    have least : 53 ≤ Nat.log2 units := (Nat.le_log2 some_).mpr (by unfold fractionSize at large; omega)
    obtain ⟨k, logarithm⟩ := Nat.exists_eq_add_of_le' (Nat.le_of_succ_le least)
    have below := Nat.log2_self_le some_
    have above := Nat.lt_log2_self (n := units)
    rw [logarithm] at below above ⊢
    rw [Nat.add_sub_cancel, size]
    refine ⟨?_, .inr ?_⟩
    · calc units < 2 ^ (k + 52 + 1) := above
        _ = 2 * 2 ^ 52 * 2 ^ k := by ring
    · calc 2 ^ 52 * 2 ^ k = 2 ^ (k + 52) := by ring
        _ ≤ units := below

def significandFor (units : Nat) : Nat := roundedQuotient units (2 ^ scaleFor units)

theorem significandFits (units : Nat) :
    (scaleFor units = 0 ∨ fractionSize ≤ significandFor units) ∧
      significandFor units ≤ 2 * fractionSize := by
  obtain ⟨above, below⟩ := scaleFits units
  have step : 0 < 2 ^ scaleFor units := Nat.two_pow_pos _
  have quotient : units / 2 ^ scaleFor units < 2 * fractionSize :=
    (Nat.div_lt_iff_lt_mul step).mpr above
  have rounded : units / 2 ^ scaleFor units ≤ significandFor units ∧
      significandFor units ≤ units / 2 ^ scaleFor units + 1 := by
    unfold significandFor
    rcases roundedSteps units (2 ^ scaleFor units) with ⟨same, _⟩ | ⟨same, _⟩ | ⟨_, same⟩ <;> omega
  refine ⟨below.imp_right fun large => ?_, by omega⟩
  exact ((Nat.le_div_iff_mul_le step).mpr large).trans rounded.1

theorem ofNatSteps (n : Nat) :
    let units := n * unitsOfOne
    let bits := scaleFor units * fractionSize + significandFor units
    ofNat? n = if bits < 2047 * fractionSize then some ⟨UInt64.ofNat bits⟩ else none := by
  simp only [ofNat?, ofRatio, Nat.div_one, Nat.one_mul]
  rfl

theorem naturalFits {n : Nat} (small : n ≤ UInt64.size) : ∃ d, ofNat? n = some d := by
  have bits : scaleFor (n * unitsOfOne) * fractionSize + significandFor (n * unitsOfOne) <
      2047 * fractionSize := by
    have scale : scaleFor (n * unitsOfOne) < 2000 := by
      rcases (scaleFits (n * unitsOfOne)).2 with zero | large
      · omega
      · have size : UInt64.size = 2 ^ 64 := rfl
        have one : unitsOfOne ≤ 2 ^ 1074 := by decide +kernel
        have power : 2 ^ (52 + scaleFor (n * unitsOfOne)) ≤ 2 ^ (64 + 1074) := by
          calc 2 ^ (52 + scaleFor (n * unitsOfOne)) = fractionSize * 2 ^ scaleFor (n * unitsOfOne) :=
                Nat.pow_add ..
            _ ≤ n * unitsOfOne := large
            _ ≤ UInt64.size * 2 ^ 1074 := Nat.mul_le_mul small one
            _ = 2 ^ (64 + 1074) := by rw [size, Nat.pow_add]
        have exponents := (Nat.pow_le_pow_iff_right Nat.one_lt_two).mp power
        omega
    have fits := (significandFits (n * unitsOfOne)).2
    unfold fractionSize at *
    omega
  exact ⟨_, (ofNatSteps n).trans (if_pos bits)⟩

structure Nearest (n : Nat) (d : Double) : Prop where
  positive : d.isNegative = false
  finite : d.isFinite = true
  nearest : ∀ e : Double, e.isFinite = true →
    apart (n * unitsOfOne) d.units ≤ apart (n * unitsOfOne) e.units
  even : ∀ e : Double, e.isFinite = true → e.units ≠ d.units →
    apart (n * unitsOfOne) e.units ≤ apart (n * unitsOfOne) d.units → d.significand % 2 = 0

theorem coarseOrFar (units : Nat) (e : Double) :
    (∃ k, e.units = k * 2 ^ scaleFor units) ∨
      apart units (significandFor units * 2 ^ scaleFor units) < apart units e.units := by
  rcases onGrid e (scaleFor units) with multiple | little
  · exact .inl multiple
  · rcases (scaleFits units).2 with zero | large
    · exact .inl ⟨e.units, by simp [zero]⟩
    · -- The least magnitude with a full significand lies between this one and the number.
      have between := roundedNearest (n := units) (Nat.two_pow_pos (scaleFor units)) fractionSize
      refine .inr (between.trans_lt ?_)
      unfold apart
      omega

theorem nearestMade {units : Nat} {d : Double}
    (small : scaleFor units * fractionSize + significandFor units < 2047 * fractionSize)
    (made : d.bits.toNat = scaleFor units * fractionSize + significandFor units) :
    d.isNegative = false ∧ d.isFinite = true ∧ (∀ e : Double, apart units d.units ≤ apart units e.units) ∧
      ∀ e : Double, e.units ≠ d.units → apart units e.units ≤ apart units d.units →
        d.significand % 2 = 0 := by
  obtain ⟨normal, fits⟩ := significandFits units
  obtain ⟨positive, finite, own, even⟩ := assembled normal fits small made
  have step : 0 < 2 ^ scaleFor units := Nat.two_pow_pos _
  rw [own]
  refine ⟨positive, finite, fun e => ?_, fun e other near => even ?_⟩
  · rcases coarseOrFar units e with ⟨k, multiple⟩ | far
    · rw [multiple]
      exact roundedNearest step k
    · exact far.le
  · rcases coarseOrFar units e with ⟨k, multiple⟩ | far
    · rw [multiple] at other near
      refine roundedTie step ?_ near
      rintro rfl
      exact other rfl
    · exact absurd near (Nat.not_le_of_lt far)

theorem nearestRead {n : Nat} {d : Double} (read : ofNat? n = some d) : Nearest n d := by
  rw [ofNatSteps] at read
  split at read
  · rename_i small
    have same := Option.some.inj read
    have made : d.bits.toNat =
        scaleFor (n * unitsOfOne) * fractionSize + significandFor (n * unitsOfOne) := by
      rw [← same]
      exact UInt64.toNat_ofNat_of_lt' (small.trans (by decide))
    obtain ⟨positive, finite, nearest, even⟩ := nearestMade small made
    exact ⟨positive, finite, fun e _ => nearest e, fun e _ => even e⟩
  · cases read

theorem normalized (d : Double) : d.scale = 0 ∨ fractionSize ≤ d.significand := by
  unfold scale significand
  split <;> omega

theorem scaleMono {d e : Double} (le : d.units ≤ e.units) : d.scale ≤ e.scale := by
  rcases Nat.lt_or_ge e.scale d.scale with less | more
  · have units : d.units = d.significand * 2 ^ d.scale := rfl
    rcases d.normalized with zero | full
    · omega
    · have product := Nat.mul_le_mul_right (2 ^ d.scale) full
      exact absurd (belowScale less) (Nat.not_lt_of_le (product.trans (units ▸ le)))
  · exact more

theorem bitsWhole {d : Double} (positive : d.isNegative = false) :
    d.bits.toNat = d.scale * fractionSize + d.significand := by
  unfold isNegative signWeight at positive
  unfold scale significand exponentField fraction fractionSize
  simp only [decide_eq_false_iff_not] at positive
  split <;> omega

theorem sameUnits {d e : Double} (positive : d.isNegative = false) (also : e.isNegative = false)
    (same : d.units = e.units) : d = e := by
  have scales : d.scale = e.scale := (scaleMono same.le).antisymm (scaleMono same.ge)
  have products : d.significand * 2 ^ e.scale = e.significand * 2 ^ e.scale := by
    rw [← scales]
    exact same.trans (congrArg (e.significand * 2 ^ ·) scales.symm)
  have significands := Nat.eq_of_mul_eq_mul_right (Nat.two_pow_pos e.scale) products
  have bits : d.bits.toNat = e.bits.toNat := by
    rw [bitsWhole positive, bitsWhole also, scales, significands]
  exact congrArg Double.mk (UInt64.toNat_inj.mp bits)

theorem follower {d : Double} (finite : d.isFinite = true) (even : d.significand % 2 = 0) :
    ∃ m : Double, m.isFinite = true ∧ m.units = (d.significand + 1) * 2 ^ d.scale := by
  have bound := d.significandBound
  have scale : d.scale ≤ 2045 := by
    unfold isFinite at finite
    simp only [decide_eq_true_eq] at finite
    exact Nat.sub_le_of_le_add (Nat.le_of_lt_succ finite)
  have small : d.scale * fractionSize + (d.significand + 1) < 2047 * fractionSize := by
    unfold fractionSize at *
    omega
  obtain ⟨_, fits, units, _⟩ := assembled
    (d := ⟨UInt64.ofNat (d.scale * fractionSize + (d.significand + 1))⟩)
    (d.normalized.imp_right Nat.le_succ_of_le) bound small
    (UInt64.toNat_ofNat_of_lt' (small.trans (by decide)))
  exact ⟨_, fits, units⟩

namespace Nearest
variable {n : Nat} {d e : Double}

theorem notBelow (one : Nearest n d) (other : Nearest n e) : ¬d.units < e.units := by
  intro less
  have near := other.nearest d one.finite
  have far := one.nearest e other.finite
  have even := one.even e other.finite less.ne' near
  have also := other.even d one.finite less.ne far
  have coarse := scaleMono less.le
  have whole := coarser coarse
  have steps : e.significand * 2 ^ (e.scale - d.scale) % 2 = 0 := by
    rw [Nat.mul_mod, also, Nat.zero_mul, Nat.zero_mod]
  have units : d.units = d.significand * 2 ^ d.scale := rfl
  obtain ⟨m, finite, between⟩ := follower one.finite even
  have above : d.units < m.units := by
    rw [units, between]
    exact Nat.mul_lt_mul_of_pos_right (Nat.lt_succ_self _) (Nat.two_pow_pos _)
  have below : m.units < e.units := by
    rw [units, whole] at less
    have further := Nat.lt_of_mul_lt_mul_right less
    rw [between, whole]
    exact Nat.mul_lt_mul_of_pos_right (by omega) (Nat.two_pow_pos _)
  have nearer := one.nearest m finite
  unfold apart at near far nearer
  omega

theorem unique (one : Nearest n d) (other : Nearest n e) : d = e :=
  sameUnits one.positive other.positive
    (Nat.le_antisymm (Nat.not_lt.mp (other.notBelow one)) (Nat.not_lt.mp (one.notBelow other)))

end Nearest

end Double

end ModelServing
