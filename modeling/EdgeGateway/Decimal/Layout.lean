import EdgeGateway.Decimal.Shortest

/-!
# Laying out a binary64 value

Which digits are written is settled by `Magnitude.shortest`. A `Layout` holds the remaining
decisions of an output format.
-/

namespace EdgeGateway.Decimal

/-- The decisions of a number format. -/
structure Layout where
  /-- Which of two equally near shortest decimals is written. -/
  tie : Tie
  /-- The range of exponents of the leading digit that are written positionally; `none` if all
  are. The second end is excluded. -/
  positional : Option (Int × Int)
  /-- Whether integral values written positionally end in `.0`. -/
  pointZero : Bool

namespace Layout

/-- The digits around a decimal point that stands behind the first `places` digits. -/
def positionalText (layout : Layout) (digits : List Char) (places : Int) : List Char :=
  let count : Int := digits.length
  if places ≤ 0 then
    ['0', '.'] ++ List.replicate (-places).toNat '0' ++ digits
  else if places < count then
    digits.take places.toNat ++ ['.'] ++ digits.drop places.toNat
  else
    digits ++ List.replicate (places - count).toNat '0'
      ++ (if layout.pointZero then ['.', '0'] else [])

/-- One digit, the remaining ones behind a point, and a signed exponent. -/
def scientificText (digits : List Char) (exponent : Int) : List Char :=
  let mantissa :=
    match digits with
    | [] => []
    | [digit] => [digit]
    | digit :: rest => digit :: '.' :: rest
  let sign := if exponent < 0 then '-' else '+'
  mantissa ++ ['e', sign] ++ Nat.toDigits 10 exponent.natAbs

/-- A magnitude in this layout. -/
def magnitudeText (layout : Layout) (value : Magnitude) : List Char :=
  if value.mantissa = 0 then
    if layout.pointZero then ['0', '.', '0'] else ['0']
  else
    let decimal := value.shortest layout.tie
    let digits := Nat.toDigits 10 decimal.digits
    let places := decimal.exponent + digits.length
    let isPositional :=
      match layout.positional with
      | none => true
      | some (first, bound) => first ≤ places - 1 ∧ places - 1 < bound
    if isPositional then layout.positionalText digits places
    else scientificText digits (places - 1)

/-- A value in this layout. The sign of zero is written. -/
def text (layout : Layout) (value : Binary64) : List Char :=
  (if value.negative then ['-'] else []) ++ layout.magnitudeText value.magnitude

end Layout

end EdgeGateway.Decimal
