import EdgeGateway.Decimal.Binary64

/-!
# The fewest digits that read back

A decimal text identifies a binary64 value if the value is the nearest one to it. Among the
decimals that do, the selection takes the fewest digits and, of those, the decimal nearest to the
exact value. Everything is compared in exact arithmetic.
-/

namespace EdgeGateway.Decimal

/-- The decimal `digits * 10 ^ exponent`. -/
structure Scaled where
  digits : Nat
  exponent : Int
  deriving DecidableEq, Repr

namespace Scaled

/-- Compares a decimal with a quotient of naturals. -/
def compareQuotient (decimal : Scaled) (numerator denominator : Nat) : Ordering :=
  compare (decimal.digits * Nat.pow 10 decimal.exponent.toNat * denominator)
    (numerator * Nat.pow 10 (-decimal.exponent).toNat)

/-- Moves final zeros of the digits into the exponent. -/
def normalize (decimal : Scaled) : Scaled :=
  if decimal.digits = 0 then decimal
  else
    let zeros := ((Nat.toDigits 10 decimal.digits).reverse.takeWhile (· = '0')).length
    ⟨decimal.digits / Nat.pow 10 zeros, decimal.exponent + zeros⟩

end Scaled

namespace Magnitude

/-- Whether the gap to the value below is half the gap to the value above. -/
def narrowBelow (value : Magnitude) : Bool :=
  value.mantissa = Nat.pow 2 52 ∧ -1074 < value.exponent

/-- Whether a decimal lies among the reals that round to the value. The ends of that interval
belong to it exactly when the mantissa is even. -/
def readsBack (value : Magnitude) (decimal : Scaled) : Bool :=
  let (up, down) := scale (value.exponent - 2)
  let low := if value.narrowBelow then 4 * value.mantissa - 1 else 4 * value.mantissa - 2
  let high := 4 * value.mantissa + 2
  let closed := value.mantissa % 2 == 0
  let aboveLow := decimal.compareQuotient (low * up) down
  let belowHigh := decimal.compareQuotient (high * up) down
  (aboveLow == .gt || (closed && aboveLow == .eq))
    && (belowHigh == .lt || (closed && belowHigh == .eq))

/-- The least `k` with `value < 10 ^ k`, for a positive value. Shifting by 400 places makes every
positive value at least one, so that its digits can be counted. -/
def decimalScale (value : Magnitude) : Int :=
  let (numerator, denominator) := value.quotient
  ((Nat.toDigits 10 (numerator * Nat.pow 10 400 / denominator)).length : Int) - 400

/-- The decimal nearest to the value on the grid of the given step that reads back, if one of the
value's two neighbours on the grid does. -/
def candidate? (value : Magnitude) (tie : Tie) (step : Int) : Option Scaled :=
  let (numerator, denominator) := value.quotient
  let gridNumerator := numerator * Nat.pow 10 (-step).toNat
  let gridDenominator := denominator * Nat.pow 10 step.toNat
  let below : Scaled := ⟨gridNumerator / gridDenominator, step⟩
  let above : Scaled := ⟨gridNumerator / gridDenominator + 1, step⟩
  match value.readsBack below, value.readsBack above with
  | true, true => some ⟨roundQuotient tie gridNumerator gridDenominator, step⟩
  | true, false => some below
  | false, true => some above
  | false, false => none

/-- The shortest decimal that reads back to the value, nearest to it among the shortest. Seventeen
digits always suffice; the exact value stands behind them. -/
def shortest (value : Magnitude) (tie : Tie) : Scaled :=
  if value.mantissa = 0 then ⟨0, 0⟩
  else
    let scale := value.decimalScale
    let attempt (count : Nat) : Option Scaled := value.candidate? tie (scale - 1 - count)
    match (List.range 17).findSome? attempt with
    | some decimal => decimal.normalize
    | none =>
      ⟨value.mantissa * Nat.pow 2 value.exponent.toNat * Nat.pow 5 (-value.exponent).toNat,
        min value.exponent 0⟩

end Magnitude

end EdgeGateway.Decimal
