import EdgeGateway.Json.Value

/-!
# Writing JSON

`Value.text` writes a value without blanks, members in the order in which they stand. Strings
escape the quote, the backslash and the characters below U+0020, and nothing else.
-/

namespace EdgeGateway.Json

/-- A character inside a written string. -/
def escape (character : Char) : List Char :=
  match character with
  | '"' => ['\\', '"']
  | '\\' => ['\\', '\\']
  | '\x08' => ['\\', 'b']
  | '\x0c' => ['\\', 'f']
  | '\n' => ['\\', 'n']
  | '\r' => ['\\', 'r']
  | '\t' => ['\\', 't']
  | character =>
    if character.toNat < 0x20 then
      ['\\', 'u', '0', '0', Nat.digitChar (character.toNat / 16),
        Nat.digitChar (character.toNat % 16)]
    else [character]

/-- A text as a JSON string. -/
def stringText (text : String) : List Char :=
  '"' :: text.toList.flatMap escape ++ ['"']

namespace Value

mutual

/-- The characters of a value. -/
def characters : Value → List Char
  | .null => ['n', 'u', 'l', 'l']
  | .boolean true => ['t', 'r', 'u', 'e']
  | .boolean false => ['f', 'a', 'l', 's', 'e']
  | .number value => value.text
  | .string text => stringText text
  | .array items => '[' :: itemCharacters items ++ [']']
  | .object members => '{' :: memberCharacters members ++ ['}']

/-- The characters of some items with commas between them. -/
def itemCharacters : List Value → List Char
  | [] => []
  | [item] => characters item
  | item :: items => characters item ++ ',' :: itemCharacters items

/-- The characters of some members with commas between them. -/
def memberCharacters : List (String × Value) → List Char
  | [] => []
  | [(key, value)] => stringText key ++ ':' :: characters value
  | (key, value) :: members =>
    stringText key ++ ':' :: characters value ++ ',' :: memberCharacters members

end

/-- A value as JSON text. -/
def text (value : Value) : String := String.ofList value.characters

end Value

end EdgeGateway.Json
