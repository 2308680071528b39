import EdgeGateway.Json.Tree

/-!
# Reading JSON

`Tree.ofText?` reads exactly the JSON grammar: four blank characters, no leading zeros, no raw
control characters in strings, nothing behind the value. Nesting and number size are unlimited.
-/

namespace EdgeGateway.Json

/-- Whether a character may stand between tokens. -/
def isBlank (character : Char) : Bool :=
  character = ' ' ∨ character = '\t' ∨ character = '\n' ∨ character = '\r'

/-- A text without the blanks in front. -/
def skipBlanks (text : List Char) : List Char := text.dropWhile isBlank

/-- The value of a hexadecimal digit. -/
def hexDigit? (character : Char) : Option Nat :=
  if '0' ≤ character ∧ character ≤ '9' then some (character.toNat - '0'.toNat)
  else if 'a' ≤ character ∧ character ≤ 'f' then some (character.toNat - 'a'.toNat + 10)
  else if 'A' ≤ character ∧ character ≤ 'F' then some (character.toNat - 'A'.toNat + 10)
  else none

/-- The value of four hexadecimal digits. -/
def hexCode? (first second third fourth : Char) : Option Nat := do
  let first ← hexDigit? first
  let second ← hexDigit? second
  let third ← hexDigit? third
  let fourth ← hexDigit? fourth
  return ((first * 16 + second) * 16 + third) * 16 + fourth

/-- The character behind a backslash, as far as it stands for one character. -/
def unescape? : Char → Option Char
  | '"' => some '"'
  | '\\' => some '\\'
  | '/' => some '/'
  | 'b' => some '\x08'
  | 'f' => some '\x0c'
  | 'n' => some '\n'
  | 'r' => some '\r'
  | 't' => some '\t'
  | _ => none

/-- Reads a string behind its opening quote, up to and including the closing one. -/
def readUnits? : List Char → Option (List StringUnit × List Char)
  | [] => none
  | '"' :: rest => some ([], rest)
  | '\\' :: 'u' :: first :: second :: third :: fourth :: rest => do
    let code ← hexCode? first second third fourth
    let (units, rest) ← readUnits? rest
    return (.code code :: units, rest)
  | '\\' :: escape :: rest => do
    let character ← unescape? escape
    let (units, rest) ← readUnits? rest
    return (.character character :: units, rest)
  | character :: rest =>
    if character.toNat < 0x20 ∨ character = '\\' then none
    else do
      let (units, rest) ← readUnits? rest
      return (.character character :: units, rest)

/-- Splits off the longest run of digits. -/
def takeDigits (text : List Char) : List Char × List Char :=
  (text.takeWhile Char.isDigit, text.dropWhile Char.isDigit)

/-- Reads the digits before the point: a lone zero, or digits that do not start with zero. -/
def readWhole? : List Char → Option (List Char × List Char)
  | '0' :: rest => some (['0'], rest)
  | text =>
    match takeDigits text with
    | ([], _) => none
    | found => some found

/-- Reads the point and the digits behind it, if there is a point. -/
def readFraction? : List Char → Option (List Char × List Char)
  | '.' :: rest =>
    match takeDigits rest with
    | ([], _) => none
    | found => some found
  | text => some ([], text)

/-- Reads the sign and digits of an exponent behind its mark. -/
def readExponentDigits? (text : List Char) : Option ((Bool × List Char) × List Char) :=
  let (negative, text) :=
    match text with
    | '+' :: rest => (false, rest)
    | '-' :: rest => (true, rest)
    | text => (false, text)
  match takeDigits text with
  | ([], _) => none
  | (digits, rest) => some ((negative, digits), rest)

/-- Reads the exponent, if there is one. -/
def readExponent? : List Char → Option (Option (Bool × List Char) × List Char)
  | 'e' :: rest | 'E' :: rest =>
    (readExponentDigits? rest).map fun (exponent, rest) => (some exponent, rest)
  | text => some (none, text)

/-- Reads a number. -/
def readNumeral? (text : List Char) : Option (Numeral × List Char) := do
  let (negative, text) :=
    match text with
    | '-' :: rest => (true, rest)
    | text => (false, text)
  let (whole, text) ← readWhole? text
  let (fraction, text) ← readFraction? text
  let (exponent, text) ← readExponent? text
  return ({ negative, whole, fraction, exponent }, text)

mutual

/-- Reads a value, with blanks in front of it. -/
def readTree? : (fuel : Nat) → List Char → Option (Tree × List Char)
  | 0, _ => none
  | fuel + 1, text =>
    match skipBlanks text with
    | 'n' :: 'u' :: 'l' :: 'l' :: rest => some (.null, rest)
    | 't' :: 'r' :: 'u' :: 'e' :: rest => some (.boolean true, rest)
    | 'f' :: 'a' :: 'l' :: 's' :: 'e' :: rest => some (.boolean false, rest)
    | '"' :: rest => do
      let (units, rest) ← readUnits? rest
      return (.string units, rest)
    | '[' :: rest =>
      match skipBlanks rest with
      | ']' :: rest => some (.array [], rest)
      | rest => do
        let (items, rest) ← readItems? fuel rest
        return (.array items, rest)
    | '{' :: rest =>
      match skipBlanks rest with
      | '}' :: rest => some (.object [], rest)
      | rest => do
        let (members, rest) ← readMembers? fuel rest
        return (.object members, rest)
    | rest => do
      let (numeral, rest) ← readNumeral? rest
      return (.number numeral, rest)

/-- Reads one or more items of an array, up to and including the closing bracket. -/
def readItems? : (fuel : Nat) → List Char → Option (List Tree × List Char)
  | 0, _ => none
  | fuel + 1, text => do
    let (item, rest) ← readTree? fuel text
    match skipBlanks rest with
    | ',' :: rest =>
      let (items, rest) ← readItems? fuel rest
      return (item :: items, rest)
    | ']' :: rest => return ([item], rest)
    | _ => none

/-- Reads one or more members of an object, up to and including the closing brace. -/
def readMembers? :
    (fuel : Nat) → List Char → Option (List (List StringUnit × Tree) × List Char)
  | 0, _ => none
  | fuel + 1, text =>
    match skipBlanks text with
    | '"' :: rest => do
      let (key, rest) ← readUnits? rest
      match skipBlanks rest with
      | ':' :: rest =>
        let (value, rest) ← readTree? fuel rest
        match skipBlanks rest with
        | ',' :: rest =>
          let (members, rest) ← readMembers? fuel rest
          return ((key, value) :: members, rest)
        | '}' :: rest => return ([(key, value)], rest)
        | _ => none
      | _ => none
    | _ => none

end

/-- The tree that a text spells. No tree is nested deeper than its text is long, so the fuel
never runs out. -/
def Tree.ofText? (text : String) : Option Tree := do
  let characters := text.toList
  let (tree, rest) ← readTree? (2 * characters.length + 2) characters
  guard (skipBlanks rest = [])
  return tree

end EdgeGateway.Json
