import EdgeGateway.Decimal.Layout
import EdgeGateway.Error
import EdgeGateway.Json.Reader
import EdgeGateway.Table

/-!
# JSON values

A `Value` is what a JSON text is worth: numerals become integers or binary64 values, escapes
become characters, and of repeated members the last one stays. Not every written tree has a value:
it may be nested too deeply, hold half a surrogate pair or a number too large for binary64.
-/

namespace EdgeGateway.Json

open EdgeGateway.Decimal

/-- A number. -/
inductive Number where
  /-- An integer that fits 64 bits, with or without a sign. -/
  | integer (value : Int)
  /-- Any other number, as a binary64 value. -/
  | real (value : Binary64)
  deriving DecidableEq, Repr

/-- A JSON value. Objects that were read have their members in ascending key order, each key
once. -/
inductive Value where
  | null
  | boolean (value : Bool)
  | number (value : Number)
  | string (text : String)
  | array (items : List Value)
  | object (members : List (String × Value))
  deriving Inhabited

/-- Which kind of value this is. -/
def Value.kind : Value → JsonKind
  | null => .null
  | boolean _ => .boolean
  | number _ => .number
  | string _ => .string
  | array _ => .array
  | object _ => .object

namespace Number

/-- Appends digits to a significand as long as it stays below `2 ^ 64`. Gives the significand and
the digits left over. -/
def absorb (significand : Nat) : List Char → Nat × List Char
  | [] => (significand, [])
  | digit :: digits =>
    let next := 10 * significand + (digit.toNat - '0'.toNat)
    if next < UInt64.size then absorb next digits else (significand, digit :: digits)

/-- The significand of a numeral, at most 64 bits of it, and the power of ten that the digits in
front of the exponent leave to it. Whole digits that do not fit raise the power; digits of the
fraction that do not fit are ignored. -/
def significand (numeral : Numeral) : Nat × Int :=
  let (whole, wholeRest) := absorb 0 numeral.whole
  let (all, fractionRest) := absorb whole numeral.fraction
  (all, (wholeRest.length : Int) - (numeral.fraction.length - fractionRest.length : Nat))

/-- The signed value of a written exponent. -/
def exponentValue : Option (Bool × List Char) → Int
  | none => 0
  | some (negative, digits) =>
    let value : Int := Nat.ofDigitChars 10 digits 0
    if negative then -value else value

/-- A significand times a power of ten. The significand is rounded first, and the product or
quotient with the rounded power once more; below the smallest power there are two quotients.
There is no value where a product would be infinite. -/
def scale? (significand : Nat) (exponent : Int) : Option Magnitude :=
  let rounded := Magnitude.ofNat significand
  if significand = 0 then some .zero
  else if 0 ≤ exponent then do
    let power ← Magnitude.powerOfTen? exponent.toNat
    rounded.mul? power
  else if -308 ≤ exponent then do
    let power ← Magnitude.powerOfTen? exponent.natAbs
    rounded.div? power
  else if -616 ≤ exponent then do
    let greatest ← Magnitude.powerOfTen? 308
    let power ← Magnitude.powerOfTen? (exponent.natAbs - 308)
    let quotient ← rounded.div? greatest
    quotient.div? power
  else some .zero

/-- The number that a numeral spells. Without fraction and exponent it is an integer where that
fits; a negative zero is not one. -/
def ofNumeral? (numeral : Numeral) : Option Number :=
  let (digits, power) := significand numeral
  let isInteger := numeral.fraction = [] ∧ numeral.exponent = none ∧ power = 0
  if isInteger ∧ numeral.negative = false then some (.integer digits)
  else if isInteger ∧ 0 < digits ∧ digits ≤ UInt64.size / 2 then some (.integer (-digits))
  else
    (scale? digits (power + exponentValue numeral.exponent)).map fun magnitude =>
      .real ⟨numeral.negative, magnitude⟩

/-- How real numbers are written: the fewest digits that read back, positionally from 1e-5 up to
1e16, with a fraction always there. -/
def layout : Layout where
  tie := .toEven
  positional := some (-5, 16)
  pointZero := true

/-- A number as JSON text. -/
def text : Number → List Char
  | integer value =>
    (if value < 0 then ['-'] else []) ++ Nat.toDigits 10 value.natAbs
  | real value => layout.text value

end Number

namespace Value

/-- The greatest number of arrays and objects that may be open at once. -/
def depthLimit : Nat := 127

mutual

/-- The value of a tree that may open `depth` more arrays and objects. -/
def ofTree? (depth : Nat) : Tree → Option Value
  | .null => some .null
  | .boolean value => some (.boolean value)
  | .number numeral => (Number.ofNumeral? numeral).map .number
  | .string units => (decodeText? units).map .string
  | .array items =>
    match depth with
    | 0 => none
    | depth + 1 => (ofItems? depth items).map .array
  | .object members =>
    match depth with
    | 0 => none
    | depth + 1 => (ofMembers? depth members).map fun rows => .object (Table.ofList rows).rows

/-- The values of some trees. -/
def ofItems? (depth : Nat) : List Tree → Option (List Value)
  | [] => some []
  | item :: items => do
    let item ← ofTree? depth item
    let items ← ofItems? depth items
    return item :: items

/-- The keys and values of some members, in the order written. -/
def ofMembers? (depth : Nat) : List (List StringUnit × Tree) → Option (List (String × Value))
  | [] => some []
  | (key, tree) :: members => do
    let key ← decodeText? key
    let value ← ofTree? depth tree
    let members ← ofMembers? depth members
    return (key, value) :: members

end

/-- The value of a JSON text. -/
def ofText? (text : String) : Option Value := do
  let tree ← Tree.ofText? text
  ofTree? depthLimit tree

end Value

end EdgeGateway.Json
