/-!
# Finite binary64 values

A finite binary64 value is a sign and a magnitude `mantissa * 2 ^ exponent`. All arithmetic is
exact arithmetic on naturals followed by one rounding, to nearest with ties to even. Powers are
written `Nat.pow`, so that they are the same terms under every instance for `^`.
-/

namespace EdgeGateway.Decimal

/-- Where an exact tie between two neighbours goes. -/
inductive Tie where
  /-- To the even neighbour. -/
  | toEven
  /-- To the neighbour of the larger magnitude. -/
  | awayFromZero
  deriving DecidableEq, Repr

/-- The quotient of two naturals, rounded to a nearest natural. -/
def roundQuotient (tie : Tie) (numerator denominator : Nat) : Nat :=
  let quotient := numerator / denominator
  match compare (2 * (numerator % denominator)) denominator with
  | .lt => quotient
  | .gt => quotient + 1
  | .eq =>
    match tie with
    | .awayFromZero => quotient + 1
    | .toEven => if quotient % 2 = 0 then quotient else quotient + 1

/-- A finite non-negative binary64 value `mantissa * 2 ^ exponent`. The mantissa has at most 53
bits, the exponent is at least -1074, and the exponent is as large as the two allow only if the
mantissa uses all 53 bits. -/
structure Magnitude where
  mantissa : Nat
  exponent : Int
  deriving DecidableEq, Repr

/-- A finite binary64 value. -/
structure Binary64 where
  negative : Bool
  magnitude : Magnitude
  deriving DecidableEq, Repr

namespace Magnitude

/-- The value zero. -/
def zero : Magnitude := ⟨0, -1074⟩

/-- The factors by which `2 ^ exponent` multiplies and divides. -/
def scale (exponent : Int) : Nat × Nat :=
  (Nat.pow 2 exponent.toNat, Nat.pow 2 (-exponent).toNat)

/-- The value as an exact quotient of naturals. -/
def quotient (value : Magnitude) : Nat × Nat :=
  let (up, down) := scale value.exponent
  (value.mantissa * up, down)

/-- The exponent `e` with `2 ^ e ≤ numerator / denominator < 2 ^ (e + 1)`, for positive
arguments. The bit lengths of the two leave two candidates. -/
def binaryExponent (numerator denominator : Nat) : Int :=
  let estimate : Int := (numerator.log2 : Int) - denominator.log2
  let (up, down) := scale estimate
  if denominator * up ≤ numerator * down then estimate else estimate - 1

/-- The binary64 value nearest to a quotient of naturals, or `none` where it would be infinite. -/
def ofQuotient? (numerator denominator : Nat) : Option Magnitude :=
  if numerator = 0 then some zero
  else
    let exponent := max (binaryExponent numerator denominator - 52) (-1074)
    let (up, down) := scale exponent
    let mantissa := roundQuotient .toEven (numerator * down) (denominator * up)
    -- rounding up may carry into the next binade
    let rounded : Magnitude :=
      if mantissa = Nat.pow 2 53 then ⟨Nat.pow 2 52, exponent + 1⟩ else ⟨mantissa, exponent⟩
    if 971 < rounded.exponent then none else some rounded

/-- The nearest binary64 value of a natural below `2 ^ 64`; such a value is never infinite. -/
def ofNat (value : Nat) : Magnitude := (ofQuotient? value 1).getD zero

/-- The rounded product of two values, or `none` where it would be infinite. -/
def mul? (left right : Magnitude) : Option Magnitude :=
  let (leftNumerator, leftDenominator) := left.quotient
  let (rightNumerator, rightDenominator) := right.quotient
  ofQuotient? (leftNumerator * rightNumerator) (leftDenominator * rightDenominator)

/-- The rounded quotient of two values, the second one positive, or `none` where it would be
infinite. -/
def div? (left right : Magnitude) : Option Magnitude :=
  let (leftNumerator, leftDenominator) := left.quotient
  let (rightNumerator, rightDenominator) := right.quotient
  ofQuotient? (leftNumerator * rightDenominator) (leftDenominator * rightNumerator)

/-- The nearest binary64 value of a power of ten, or `none` where it would be infinite. -/
def powerOfTen? (exponent : Nat) : Option Magnitude :=
  if 308 < exponent then none else ofQuotient? (Nat.pow 10 exponent) 1

/-- The binary64 value nearest to `digits * 10 ^ exponent`, or `none` where it would be
infinite. Exponents far outside the range are settled without computing the power. -/
def ofDecimal? (digits : Nat) (exponent : Int) : Option Magnitude :=
  if digits = 0 then some zero
  else
    let leading : Int := exponent + (Nat.toDigits 10 digits).length
    if 310 < leading then none
    else if leading < -330 then some zero
    else ofQuotient? (digits * Nat.pow 10 exponent.toNat) (Nat.pow 10 (-exponent).toNat)

end Magnitude

end EdgeGateway.Decimal
