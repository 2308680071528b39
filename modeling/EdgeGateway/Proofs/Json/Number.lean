import EdgeGateway.Json.Value
import EdgeGateway.Proofs.Decimal.Layout
import EdgeGateway.Proofs.Json.Reading

/-!
# Numbers that are written

The text of every number spells a numeral. An integer that fits 64 bits is written as a numeral
that is worth it again, and so is a negative zero, which is no integer.
-/

namespace EdgeGateway.Json

open EdgeGateway.Decimal

/-! ## Integers -/

/-- The numeral that is written for an integer. -/
def numeralOf (value : Int) : Numeral where
  negative := value < 0
  whole := Nat.toDigits 10 value.natAbs
  fraction := []
  exponent := none

/-- A natural number is written with a digit in front. -/
theorem exists_toDigits (number : Nat) :
    ∃ first later, Nat.toDigits 10 number = first :: later ∧ first.isDigit = true := by
  obtain ⟨first, later, digits⟩ :=
    List.exists_cons_of_ne_nil (Nat.toDigits_ne_nil (n := number) (b := 10))
  refine ⟨first, later, digits, ?_⟩
  exact Nat.isDigit_of_mem_toDigits (b := 10) (n := number) (by decide) (by decide)
    (digits ▸ List.mem_cons_self)

/-- A natural number other than zero is written without a zero in front. -/
theorem head?_toDigits_ne {number : Nat} (positive : 0 < number) :
    (Nat.toDigits 10 number).head? ≠ some '0' := by
  induction number using Nat.strongRecOn with
  | _ number inductionHypothesis =>
    by_cases single : number < 10
    · rw [Nat.toDigits_of_lt_base single, List.head?_cons, ne_eq, Option.some_inj,
        Nat.digitChar_eq_zero]
      omega
    · have leading := inductionHypothesis (number / 10) (by omega) (by omega)
      obtain ⟨first, later, digits, -⟩ := exists_toDigits (number / 10)
      rw [digits] at leading
      rw [Nat.toDigits_of_base_le (by decide) (by omega), digits]
      exact leading

/-- The digits of a natural number are digits, of which a leading zero is the only one. -/
theorem isDigits_toDigits (number : Nat) :
    IsDigits (Nat.toDigits 10 number) ∧
      ((Nat.toDigits 10 number).head? = some '0' → Nat.toDigits 10 number = ['0']) := by
  refine ⟨⟨Nat.toDigits_ne_nil, fun digit member => ?_⟩, fun leading => ?_⟩
  · exact Nat.isDigit_of_mem_toDigits (by decide) (by decide) member
  · rcases Nat.eq_zero_or_pos number with rfl | positive
    · exact Nat.toDigits_zero 10
    · exact absurd leading (head?_toDigits_ne positive)

/-- What is written for an integer spells its numeral. -/
theorem spelled_numeralOf (value : Int) :
    (numeralOf value).Spelled (Number.integer value).text := by
  obtain ⟨isDigits, leading⟩ := isDigits_toDigits value.natAbs
  have spelled : (numeralOf value).Spelled ((if decide (value < 0) then ['-'] else []) ++
      (Nat.toDigits 10 value.natAbs ++ ([] ++ []))) :=
    .intro isDigits leading .absent .absent
  simpa [Number.text] using spelled

/-- Digits are absorbed whole as long as their value fits 64 bits. -/
theorem absorb_eq {digits : List Char} {significand : Nat}
    (fits : Nat.ofDigitChars 10 digits significand < UInt64.size) :
    Number.absorb significand digits = (Nat.ofDigitChars 10 digits significand, []) := by
  induction digits generalizing significand with
  | nil => simp [Number.absorb]
  | cons digit digits inductionHypothesis =>
    rw [Nat.ofDigitChars_cons] at fits ⊢
    have grows : 10 * significand + (digit.toNat - '0'.toNat) ≤
        Nat.ofDigitChars 10 digits (10 * significand + (digit.toNat - '0'.toNat)) := by
      rw [Nat.ofDigitChars_eq_ofDigitChars_zero]
      exact Nat.le_add_right_of_le (Nat.le_mul_of_pos_left _ (Nat.pow_pos (by decide)))
    simp only [Number.absorb]
    rw [if_pos (Nat.lt_of_le_of_lt grows fits)]
    exact inductionHypothesis fits

/-- The natural number that the digits before the point are worth. -/
def Numeral.magnitude (numeral : Numeral) : Nat := Nat.ofDigitChars 10 numeral.whole 0

/-- Whether a numeral is an integer that fits 64 bits, with or without a sign. -/
structure Numeral.IsInteger64 (numeral : Numeral) : Prop where
  fraction : numeral.fraction = []
  exponent : numeral.exponent = none
  fits : if numeral.negative then numeral.magnitude ≤ UInt64.size / 2
    else numeral.magnitude < UInt64.size

/-- What a numeral that is an integer is worth. A negative zero is no integer. -/
def Numeral.integerWorth (numeral : Numeral) : Number :=
  if numeral.negative then
    if numeral.magnitude = 0 then .real ⟨true, .zero⟩ else .integer (-numeral.magnitude)
  else .integer numeral.magnitude

/-- The digits of an integer of 64 bits are its whole significand. -/
theorem Numeral.IsInteger64.significand {numeral : Numeral} (integer : numeral.IsInteger64) :
    Number.significand numeral = (numeral.magnitude, 0) := by
  have small : numeral.magnitude < UInt64.size := by
    have fits := integer.fits
    split at fits
    · exact Nat.lt_of_le_of_lt fits (by decide)
    · exact fits
  have absorbed : Number.absorb 0 numeral.whole = (numeral.magnitude, []) := absorb_eq small
  simp [Number.significand, integer.fraction, absorbed, Number.absorb]

/-- A numeral that is an integer of 64 bits has a value. -/
theorem Numeral.IsInteger64.ofNumeral? {numeral : Numeral} (integer : numeral.IsInteger64) :
    Number.ofNumeral? numeral = some numeral.integerWorth := by
  have fits := integer.fits
  unfold Number.ofNumeral? integerWorth
  rw [integer.significand]
  dsimp only
  cases negative : numeral.negative with
  | false => rw [if_pos ⟨⟨integer.fraction, integer.exponent, rfl⟩, rfl⟩, if_neg Bool.false_ne_true]
  | true =>
    rw [if_neg (by simp), if_pos rfl]
    rw [negative, if_pos rfl] at fits
    by_cases zero : numeral.magnitude = 0
    · rw [zero, integer.exponent, if_neg fun both => Nat.lt_irrefl 0 both.2.1, if_pos rfl]
      rfl
    · rw [if_pos ⟨⟨integer.fraction, integer.exponent, rfl⟩, Nat.pos_of_ne_zero zero, fits⟩,
        if_neg zero]

/-- The numeral of an integer that fits 64 bits is worth that integer. -/
theorem ofNumeral?_numeralOf {value : Int} (least : -(UInt64.size / 2 : Nat) ≤ value)
    (greatest : value < UInt64.size) :
    Number.ofNumeral? (numeralOf value) = some (.integer value) := by
  have worth : (numeralOf value).magnitude = value.natAbs := Nat.ofDigitChars_ten_toDigits
  by_cases below : value < 0
  · have negative : (numeralOf value).negative = true := decide_eq_true below
    have integer : (numeralOf value).IsInteger64 := by
      refine ⟨rfl, rfl, ?_⟩
      rw [negative, if_pos rfl, worth]
      omega
    have signed : -(value.natAbs : Int) = value := by omega
    rw [integer.ofNumeral?, Numeral.integerWorth, if_pos negative, worth, if_neg (by omega), signed]
  · have unsigned : (numeralOf value).negative = false := decide_eq_false below
    have integer : (numeralOf value).IsInteger64 := by
      refine ⟨rfl, rfl, ?_⟩
      rw [unsigned, if_neg Bool.false_ne_true, worth]
      omega
    have whole : (value.natAbs : Int) = value := by omega
    rw [integer.ofNumeral?, Numeral.integerWorth, unsigned, if_neg Bool.false_ne_true, worth, whole]

/-- The numeral of a natural number of 64 bits is worth that number. -/
theorem ofNumeral?_toNat (value : UInt64) :
    Number.ofNumeral? (numeralOf value.toNat) = some (.integer value.toNat) := by
  have bounded := value.toNat_lt_size
  exact ofNumeral?_numeralOf (by omega) (by omega)

/-- A numeral that is an integer of 64 bits is worth the same when it has been written and is read
again. -/
theorem Numeral.IsInteger64.reread {numeral written : Numeral} (integer : numeral.IsInteger64)
    (spelled : written.Spelled numeral.integerWorth.text) :
    Number.ofNumeral? written = some numeral.integerWorth := by
  have fits := integer.fits
  unfold integerWorth at spelled ⊢
  cases negative : numeral.negative with
  | false =>
    rw [negative, if_neg Bool.false_ne_true] at spelled fits
    rw [if_neg Bool.false_ne_true, spelled.unique (spelled_numeralOf _)]
    exact ofNumeral?_numeralOf (by omega) (by omega)
  | true =>
    rw [negative, if_pos rfl] at spelled fits
    rw [if_pos rfl]
    by_cases zero : numeral.magnitude = 0
    · rw [if_pos zero] at spelled ⊢
      have negativeZero : (⟨true, ['0'], ['0'], none⟩ : Numeral).Spelled ['-', '0', '.', '0'] :=
        .intro isDigits_zero (fun _ => rfl) (.present isDigits_zero) .absent
      rw [spelled.unique negativeZero]
      rfl
    · rw [if_neg zero] at spelled ⊢
      rw [spelled.unique (spelled_numeralOf _)]
      exact ofNumeral?_numeralOf (by omega) (by omega)

/-! ## Real numbers -/

/-- Whether a text spells a numeral, with a minus in front of it and without. -/
def SpellsUnsigned (text : List Char) : Prop :=
  ∀ negative : Bool, ∃ numeral : Numeral,
    numeral.Spelled ((if negative then ['-'] else []) ++ text)

/-- The parts of a numeral spell it. -/
theorem spellsUnsigned_parts {whole fraction point power : List Char}
    {exponent : Option (Bool × List Char)} (isDigits : IsDigits whole)
    (leading : whole.head? = some '0' → whole = ['0'])
    (fractionSpelled : FractionSpelled fraction point)
    (exponentSpelled : ExponentSpelled exponent power) :
    SpellsUnsigned (whole ++ (point ++ power)) :=
  fun _ => ⟨_, .intro isDigits leading fractionSpelled exponentSpelled⟩

/-- Zeros are digits. -/
theorem isDigit_replicate_zero {count : Nat} {digit : Char}
    (member : digit ∈ List.replicate count '0') : digit.isDigit = true := by
  rw [List.eq_of_mem_replicate member]
  rfl

section

variable {digits : List Char} (isDigits : IsDigits digits) (leading : digits.head? ≠ some '0')

include isDigits leading

/-- Digits that are laid out positionally are a numeral. -/
theorem spellsUnsigned_positionalText (places : Int) :
    SpellsUnsigned (Number.layout.positionalText digits places) := by
  obtain ⟨filled, all⟩ := isDigits
  unfold Layout.positionalText
  dsimp only
  split
  · have fraction : IsDigits (List.replicate (-places).toNat '0' ++ digits) := by
      refine ⟨List.append_ne_nil_of_right_ne_nil _ filled, fun digit member => ?_⟩
      exact (List.mem_append.1 member).elim isDigit_replicate_zero (all digit)
    simpa using spellsUnsigned_parts isDigits_zero (fun _ => rfl) (.present fraction) .absent
  · split
    · rename_i positive inside
      have whole : IsDigits (digits.take places.toNat) := by
        refine ⟨?_, fun digit member => all digit (List.mem_of_mem_take member)⟩
        rw [ne_eq, List.take_eq_nil_iff, not_or]
        exact ⟨by omega, filled⟩
      have fraction : IsDigits (digits.drop places.toNat) := by
        refine ⟨?_, fun digit member => all digit (List.mem_of_mem_drop member)⟩
        rw [ne_eq, List.drop_eq_nil_iff]
        omega
      have unzeroed : (digits.take places.toNat).head? ≠ some '0' := by
        rwa [List.head?_take, if_neg (by omega)]
      simpa using spellsUnsigned_parts whole (fun zero => absurd zero unzeroed)
        (.present fraction) .absent
    · have whole : IsDigits (digits ++ List.replicate (places - digits.length).toNat '0') := by
        refine ⟨List.append_ne_nil_of_left_ne_nil filled _, fun digit member => ?_⟩
        exact (List.mem_append.1 member).elim (all digit) isDigit_replicate_zero
      have unzeroed :
          (digits ++ List.replicate (places - digits.length).toNat '0').head? ≠ some '0' := by
        obtain ⟨first, later, rfl⟩ := List.exists_cons_of_ne_nil filled
        exact leading
      simpa [Number.layout] using spellsUnsigned_parts whole (fun zero => absurd zero unzeroed)
        (.present isDigits_zero) .absent

/-- Digits that are laid out with an exponent are a numeral. -/
theorem spellsUnsigned_scientificText (exponent : Int) :
    SpellsUnsigned (Layout.scientificText digits exponent) := by
  obtain ⟨filled, all⟩ := isDigits
  obtain ⟨power, -⟩ := isDigits_toDigits exponent.natAbs
  have signed : SignSpelled (decide (exponent < 0)) [if exponent < 0 then '-' else '+'] := by
    by_cases negative : exponent < 0
    · rw [if_pos negative, decide_eq_true negative]
      exact .minus
    · rw [if_neg negative, decide_eq_false negative]
      exact .plus
  have exponentSpelled := ExponentSpelled.present (.inl rfl) signed power
  obtain ⟨first, later, rfl⟩ := List.exists_cons_of_ne_nil filled
  have whole : IsDigits [first] := by
    refine ⟨List.cons_ne_nil _ _, fun digit member => ?_⟩
    rw [List.mem_singleton.1 member]
    exact all first List.mem_cons_self
  have unzeroed : [first].head? ≠ some '0' := leading
  cases later with
  | nil =>
    simpa [Layout.scientificText] using spellsUnsigned_parts whole
      (fun zero => absurd zero unzeroed) .absent exponentSpelled
  | cons second later =>
    have fraction : IsDigits (second :: later) :=
      ⟨List.cons_ne_nil _ _, fun digit member => all digit (List.mem_cons_of_mem _ member)⟩
    simpa [Layout.scientificText] using spellsUnsigned_parts whole
      (fun zero => absurd zero unzeroed) (.present fraction) exponentSpelled

end

/-- Every magnitude is written as a numeral. -/
theorem spellsUnsigned_magnitudeText (value : Magnitude) :
    SpellsUnsigned (Number.layout.magnitudeText value) := by
  unfold Layout.magnitudeText
  split
  · exact spellsUnsigned_parts isDigits_zero (fun _ => rfl) (.present isDigits_zero) .absent
  · rename_i nonzero
    obtain ⟨isDigits, -⟩ := isDigits_toDigits (value.shortest Number.layout.tie).digits
    have leading := head?_toDigits_ne (Magnitude.shortest_digits_pos nonzero Number.layout.tie)
    -- either layout may be chosen: the digits alone decide that the text is a numeral
    extract_lets decimal digits places isPositional
    by_cases positional : isPositional = true
    · rw [if_pos positional]
      exact spellsUnsigned_positionalText isDigits leading _
    · rw [if_neg positional]
      exact spellsUnsigned_scientificText isDigits leading _

/-- Every number is written as a numeral. -/
theorem Number.exists_spelled (value : Number) : ∃ numeral : Numeral, numeral.Spelled value.text := by
  cases value with
  | integer value => exact ⟨_, spelled_numeralOf value⟩
  | real value => exact spellsUnsigned_magnitudeText value.magnitude value.negative

end EdgeGateway.Json
