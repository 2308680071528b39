import EdgeGateway.Decimal.Layout

/-!
# The digits of a binary64 value

The shortest decimal of a value other than zero has digits other than zero, so nothing that a
layout writes in front of the point begins with a superfluous zero.
-/

namespace EdgeGateway.Decimal

/-! ## The shortest decimal -/

/-- Final zeros are what a natural number is divided by when they are taken away. -/
theorem exists_ofDigits_finalZeros (number : Nat) :
    ∃ front, number =
      Nat.pow 10 ((Nat.toDigits 10 number).reverse.takeWhile (· = '0')).length * front := by
  let digits := (Nat.toDigits 10 number).reverse
  let zeros := digits.takeWhile (· = '0')
  have allZeros : zeros = List.replicate zeros.length '0' := by
    refine List.eq_replicate_iff.2 ⟨rfl, fun digit member => ?_⟩
    have zero := List.all_eq_true.1 (List.all_takeWhile (p := (· = '0')) (l := digits)) digit member
    exact of_decide_eq_true zero
  have split : Nat.toDigits 10 number =
      (digits.dropWhile (· = '0')).reverse ++ List.replicate zeros.length '0' := by
    have parts : digits = zeros ++ digits.dropWhile (· = '0') :=
      List.takeWhile_append_dropWhile.symm
    rw [← List.reverse_replicate, ← allZeros, ← List.reverse_append, ← parts, List.reverse_reverse]
  have worth : Nat.ofDigitChars 10
      ((digits.dropWhile (· = '0')).reverse ++ List.replicate zeros.length '0') 0 = number := by
    rw [← split]
    exact Nat.ofDigitChars_ten_toDigits
  rw [Nat.ofDigitChars_append, Nat.ofDigitChars_replicate_zero] at worth
  exact ⟨_, worth.symm⟩

namespace Scaled

/-- Taking final zeros away leaves digits. -/
theorem normalize_digits_pos {decimal : Scaled} (positive : 0 < decimal.digits) :
    0 < decimal.normalize.digits := by
  obtain ⟨front, whole⟩ := exists_ofDigits_finalZeros decimal.digits
  rw [normalize, if_neg (Nat.ne_of_gt positive)]
  refine Nat.div_pos (Nat.le_of_dvd positive ⟨front, whole⟩) (Nat.pow_pos (by decide))

end Scaled

/-- Rounding a quotient does not go below its whole part. -/
theorem le_roundQuotient (tie : Tie) (numerator denominator : Nat) :
    numerator / denominator ≤ roundQuotient tie numerator denominator := by
  unfold roundQuotient
  dsimp only
  split
  · exact Nat.le_refl _
  · exact Nat.le_succ _
  · split
    · exact Nat.le_succ _
    · split
      · exact Nat.le_refl _
      · exact Nat.le_succ _

namespace Magnitude

variable {value : Magnitude}

/-- Zero does not read back to a value other than zero. -/
theorem readsBack_zero (nonzero : value.mantissa ≠ 0) (step : Int) :
    value.readsBack ⟨0, step⟩ = false := by
  have below : ∀ low : Nat, 0 < low → ∀ up down : Nat, 0 < up →
      Scaled.compareQuotient ⟨0, step⟩ (low * up) down = .lt := by
    intro low positive up down scaled
    have power : 0 < Nat.pow 10 (-step).toNat := Nat.pow_pos (by decide)
    have above : 0 < low * up * Nat.pow 10 (-step).toNat :=
      Nat.mul_pos (Nat.mul_pos positive scaled) power
    rw [Scaled.compareQuotient, Nat.zero_mul, Nat.zero_mul, Nat.compare_eq_lt]
    exact above
  have scaled : 0 < (scale (value.exponent - 2)).1 := Nat.pow_pos (by decide)
  have low : 0 < if value.narrowBelow then 4 * value.mantissa - 1 else 4 * value.mantissa - 2 := by
    split <;> omega
  simp only [readsBack]
  rw [below _ low _ _ scaled]
  simp

/-- A decimal that reads back to a value other than zero has digits other than zero. -/
theorem digits_pos_of_readsBack (nonzero : value.mantissa ≠ 0) {decimal : Scaled}
    (back : value.readsBack decimal = true) : 0 < decimal.digits := by
  obtain ⟨digits, step⟩ := decimal
  refine Nat.pos_of_ne_zero ?_
  rintro rfl
  rw [readsBack_zero nonzero] at back
  cases back

/-- A candidate has digits other than zero. -/
theorem candidate?_digits_pos (nonzero : value.mantissa ≠ 0) {tie : Tie} {step : Int}
    {decimal : Scaled} (found : value.candidate? tie step = some decimal) : 0 < decimal.digits := by
  unfold candidate? at found
  dsimp only at found
  split at found
  · rename_i below _
    cases found
    exact Nat.lt_of_lt_of_le (digits_pos_of_readsBack nonzero below) (le_roundQuotient _ _ _)
  · rename_i below _
    cases found
    exact digits_pos_of_readsBack nonzero below
  · cases found
    exact Nat.succ_pos _
  · cases found

/-- The exact value as a decimal. -/
def exactDecimal (value : Magnitude) : Scaled :=
  ⟨value.mantissa * Nat.pow 2 value.exponent.toNat * Nat.pow 5 (-value.exponent).toNat,
    min value.exponent 0⟩

/-- The shortest decimal of a value other than zero is a candidate without its final zeros, or the
exact value. The motive stays a variable: the digits of a selection would be computed. -/
theorem shortest_cases {motive : Scaled → Prop} (nonzero : value.mantissa ≠ 0) {tie : Tie}
    (candidate : ∀ step decimal, value.candidate? tie step = some decimal →
      motive decimal.normalize)
    (exact : motive value.exactDecimal) : motive (value.shortest tie) := by
  unfold shortest
  rw [if_neg nonzero]
  extract_lets scale attempt
  split
  · rename_i decimal found
    obtain ⟨count, -, found⟩ := List.exists_of_findSome?_eq_some found
    exact candidate _ decimal found
  · exact exact

/-- The shortest decimal of a value other than zero has digits other than zero. -/
theorem shortest_digits_pos (nonzero : value.mantissa ≠ 0) (tie : Tie) :
    0 < (value.shortest tie).digits := by
  refine shortest_cases (motive := fun decimal => 0 < decimal.digits) nonzero ?_ ?_
  · intro step decimal found
    exact Scaled.normalize_digits_pos (candidate?_digits_pos nonzero found)
  · exact Nat.mul_pos (Nat.mul_pos (Nat.pos_of_ne_zero nonzero) (Nat.pow_pos (by decide)))
      (Nat.pow_pos (by decide))

end Magnitude

end EdgeGateway.Decimal
