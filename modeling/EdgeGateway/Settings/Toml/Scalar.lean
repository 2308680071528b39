import EdgeGateway.Json.Reader
import EdgeGateway.Settings.Toml.Moment
import EdgeGateway.Settings.Tree

/-!
# TOML words

Truth values, integers, decimals, dates and times are words without quotes. Digits may have single
underscores between them.
-/

namespace EdgeGateway.Settings.Toml

open EdgeGateway.Decimal

/-- Digits of a kind without the single underscores between them. -/
def digits? (isDigit : Char → Bool) : List Char → Option (List Char)
  | [] => none
  | [digit] => if isDigit digit then some [digit] else none
  | digit :: '_' :: rest =>
    if isDigit digit then (digits? isDigit rest).map (digit :: ·) else none
  | digit :: rest => if isDigit digit then (digits? isDigit rest).map (digit :: ·) else none

/-- Decimal digits without a superfluous zero in front. -/
def whole? (text : List Char) : Option (List Char) :=
  (digits? Char.isDigit text).filter fun digits => digits.head? ≠ some '0' || digits.length = 1

/-- The integer that digits of a base spell, if it fits 64 bits with a sign. -/
def inBase? (base : Nat) (text : List Char) : Option Int := do
  let isDigit (character : Char) : Bool := (Json.hexDigit? character).any (· < base)
  let digits ← digits? isDigit text
  let value := digits.foldl (fun value digit => base * value + (Json.hexDigit? digit).getD 0) 0
  guard (value < UInt64.size / 2)
  return value

/-- The sign of a number and its digits. -/
def signed (negative : Bool) (digits : List Char) : List Char :=
  if negative then '-' :: digits else digits

/-- The integer that a word spells. Only decimal digits may have a sign. -/
def integer? : List Char → Option Int
  | '0' :: 'x' :: digits => inBase? 16 digits
  | '0' :: 'o' :: digits => inBase? 8 digits
  | '0' :: 'b' :: digits => inBase? 2 digits
  | word => do
    let (negative, digits) := takeSign word
    integer64? (signed negative (← whole? digits))

/-- A text before and behind the first character of a kind. -/
def cutAt (isCut : Char → Bool) (text : List Char) : List Char × Option (List Char) :=
  (text.takeWhile (!isCut ·), (text.dropWhile (!isCut ·)).tail?)

/-- The exponent of a decimal without its underscores. -/
def exponent? (text : List Char) : Option (List Char) := do
  let (negative, digits) := takeSign text
  return 'e' :: signed negative (← digits? Char.isDigit digits)

/-- The decimal that a word spells. It has a point with digits on both sides, an exponent or both,
and it is not too large for binary64; or it is one of the words for what is not finite. -/
def decimal? (word : List Char) : Option Extended :=
  let (negative, unsigned) := takeSign word
  if unsigned = ['i', 'n', 'f'] ∨ unsigned = ['n', 'a', 'n'] then Extended.ofText? word
  else do
    let (mantissa, exponent) := cutAt (fun mark => mark = 'e' || mark = 'E') unsigned
    let (whole, fraction) := cutAt (· = '.') mantissa
    guard (exponent.isSome ∨ fraction.isSome)
    let whole ← whole? whole
    let fraction ← fraction.elim (some []) fun digits => digits? Char.isDigit digits
    let exponent ← exponent.elim (some []) exponent?
    let value ← Extended.ofText? (signed negative whole ++ '.' :: fraction ++ exponent)
    guard (value matches .finite _)
    return value

/-- The value that a word spells. -/
def word? (word : List Char) : Option Tree :=
  if word = ['t', 'r', 'u', 'e'] then some (.boolean true)
  else if word = ['f', 'a', 'l', 's', 'e'] then some (.boolean false)
  else
    match integer? word, decimal? word, moment? word with
    | some value, _, _ => some (.integer value)
    | none, some value, _ => some (.real value)
    | none, none, some value => some (.text (String.ofList value))
    | none, none, none => none

/-- Whether a character may occur in a word. -/
def isWordCharacter (character : Char) : Bool :=
  character.isAlphanum || ['_', '+', '-', '.', ':'].contains character

/-- Splits a word off. A blank between a date and a time belongs to it. -/
def takeWord (text : List Char) : List Char × List Char :=
  let word := text.takeWhile isWordCharacter
  match (date? word).any (·.2 = []), text.dropWhile isWordCharacter with
  | true, ' ' :: digit :: rest =>
    if digit.isDigit then
      (word ++ ' ' :: digit :: rest.takeWhile isWordCharacter, rest.dropWhile isWordCharacter)
    else (word, ' ' :: digit :: rest)
  | _, rest => (word, rest)

end EdgeGateway.Settings.Toml
