import EdgeGateway.Decimal.Layout

/-!
# Numbers in plain text

Numbers as settings spell them: digits with an optional sign, and decimals with an optional point
and exponent, without any blanks. A decimal too large for binary64 is infinite.
-/

namespace EdgeGateway.Decimal

/-- A number with the three values that are not finite. -/
inductive Extended where
  | finite (value : Binary64)
  | infinite (negative : Bool)
  | undefined
  deriving DecidableEq, Repr

/-- Splits an optional sign off. -/
def takeSign : List Char → Bool × List Char
  | '+' :: rest => (false, rest)
  | '-' :: rest => (true, rest)
  | text => (false, text)

/-- The natural that one or more digits spell. -/
def natural? (text : List Char) : Option Nat :=
  if text ≠ [] ∧ text.all Char.isDigit then some (Nat.ofDigitChars 10 text 0) else none

/-- A natural below `2 ^ 64`, written with digits and an optional plus sign. -/
def natural64? (text : List Char) : Option Nat :=
  let digits :=
    match text with
    | '+' :: rest => rest
    | text => text
  (natural? digits).filter (· < UInt64.size)

/-- An integer of 64 bits with a sign, written with digits and an optional sign. -/
def integer64? (text : List Char) : Option Int := do
  let (negative, digits) := takeSign text
  let value ← natural? digits
  if negative then
    if value ≤ UInt64.size / 2 then some (-value) else none
  else if value < UInt64.size / 2 then some value
  else none

namespace Extended

/-- Splits off the exponent behind its mark. No mark means the exponent zero. -/
def takeExponent? : List Char → Option Int
  | [] => some 0
  | mark :: rest =>
    if mark = 'e' ∨ mark = 'E' then do
      let (negative, digits) := takeSign rest
      let value ← natural? digits
      return if negative then -value else value
    else none

/-- The magnitude that digits, an optional point and an optional exponent spell, `none` inside for
an infinite one. At least one digit has to stand before the exponent. -/
def magnitude? (text : List Char) : Option (Option Magnitude) := do
  let whole := text.takeWhile Char.isDigit
  let (fraction, rest) :=
    match text.dropWhile Char.isDigit with
    | '.' :: rest => (rest.takeWhile Char.isDigit, rest.dropWhile Char.isDigit)
    | rest => ([], rest)
  let digits ← natural? (whole ++ fraction)
  let exponent ← takeExponent? rest
  return Magnitude.ofDecimal? digits (exponent - fraction.length)

/-- The number that a text spells. The words for what is not finite may be in any case. -/
def ofText? (text : List Char) : Option Extended :=
  let (negative, unsigned) := takeSign text
  let word := String.ofList (unsigned.map Char.toLower)
  if word = "inf" ∨ word = "infinity" then some (infinite negative)
  else if word = "nan" then some undefined
  else
    (magnitude? unsigned).map fun
      | some magnitude => finite ⟨negative, magnitude⟩
      | none => infinite negative

/-- How numbers are written as settings: the fewest digits that read back, always positionally,
with a point only where there is a fraction. -/
def layout : Layout where
  tie := .awayFromZero
  positional := none
  pointZero := false

/-- A number as text. -/
def text : Extended → String
  | finite value => String.ofList (layout.text value)
  | infinite false => "inf"
  | infinite true => "-inf"
  | undefined => "NaN"

/-- The nearest natural, a half counting as the greater one, held between zero and `2 ^ 64 - 1`. -/
def toNatural64 : Extended → Nat
  | finite ⟨true, _⟩ | infinite true | undefined => 0
  | infinite false => UInt64.size - 1
  | finite ⟨false, magnitude⟩ =>
    let (numerator, denominator) := magnitude.quotient
    min (roundQuotient .awayFromZero numerator denominator) (UInt64.size - 1)

end Extended

end EdgeGateway.Decimal
