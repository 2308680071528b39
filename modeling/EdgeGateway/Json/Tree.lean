/-!
# JSON as it is written

A `Tree` keeps what a JSON text spells and nothing more: numerals as digits, strings with their
escapes, the members of an object in order and with repetitions. What a numeral or a string is
worth is decided where it is used.
-/

namespace EdgeGateway.Json

/-- One unit of a written string. -/
inductive StringUnit where
  /-- A character, written as itself or with a short escape. -/
  | character (value : Char)
  /-- A `\u` escape with its 16-bit code, which may be half of a surrogate pair. -/
  | code (value : Nat)
  deriving DecidableEq, Repr

/-- A written number: digits without superfluous leading zeros. -/
structure Numeral where
  negative : Bool
  /-- The digits before the point. -/
  whole : List Char
  /-- The digits behind the point; empty if there is no point. -/
  fraction : List Char
  /-- The sign (whether negative) and digits of the exponent, if there is one. -/
  exponent : Option (Bool × List Char)
  deriving DecidableEq, Repr

/-- A written JSON value. -/
inductive Tree where
  | null
  | boolean (value : Bool)
  | number (numeral : Numeral)
  | string (units : List StringUnit)
  | array (items : List Tree)
  | object (members : List (List StringUnit × Tree))

/-- The text of written units: surrogate escapes have to come in pairs. -/
def decodeUnits? : List StringUnit → Option (List Char)
  | [] => some []
  | .character value :: rest => (decodeUnits? rest).map (value :: ·)
  | .code high :: .code low :: rest =>
    if 0xD800 ≤ high ∧ high < 0xDC00 then
      if 0xDC00 ≤ low ∧ low < 0xE000 then
        let scalar := 0x10000 + (high - 0xD800) * 0x400 + (low - 0xDC00)
        (decodeUnits? rest).map (Char.ofNat scalar :: ·)
      else none
    else if 0xDC00 ≤ high ∧ high < 0xE000 then none
    else (decodeUnits? (.code low :: rest)).map (Char.ofNat high :: ·)
  | .code value :: rest =>
    if 0xD800 ≤ value ∧ value < 0xE000 then none
    else (decodeUnits? rest).map (Char.ofNat value :: ·)

/-- The text of a written string, if its surrogate escapes come in pairs. -/
def decodeText? (units : List StringUnit) : Option String :=
  (decodeUnits? units).map String.ofList

end EdgeGateway.Json
