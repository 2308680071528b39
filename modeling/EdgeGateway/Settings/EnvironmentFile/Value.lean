import EdgeGateway.Text.Alphanumeric

/-!
# Values of variables in a file

A value may be quoted. In single quotes everything stands for itself; elsewhere a backslash escapes
and a dollar sign refers to a variable, whose name consists of letters and numbers or stands in
braces. An unquoted blank ends a value, and only a comment may follow it.
-/

namespace EdgeGateway.Settings.EnvironmentFile

/-- Which quotes a part of a value stands in. -/
inductive Quoting where
  | plain
  | single
  | double
  deriving DecidableEq, Repr

/-- What the next character of a value means. -/
inductive Reading where
  /-- It stands for itself, or it is a mark. -/
  | direct
  /-- It is escaped by a backslash. -/
  | escaped
  /-- It belongs to a name behind a dollar sign, if it is a letter or a number. -/
  | reference (name : List Char)
  /-- It belongs to a name in braces, up to the closing one. -/
  | braced (name : List Char)
  deriving DecidableEq, Repr

/-- The character that an escaped one stands for. -/
def unescape? (character : Char) : Option Char :=
  if character = 'n' then some '\n'
  else if ['\\', '\x27', '"', '$', ' '].contains character then some character
  else none

/-- Whether nothing but blanks and a comment follows a value. -/
def isEnd (text : List Char) : Bool :=
  match text.dropWhile fun character => character = ' ' || character = '\t' with
  | [] | '#' :: _ => true
  | _ => false

/-- What is read behind a character that stands for itself or is a mark. -/
inductive Mark where
  /-- The character belongs to the value. -/
  | literal
  /-- The value is over. -/
  | final
  /-- The character only says how the next one is to be read. -/
  | turn (quoting : Quoting) (reading : Reading)

/-- What a character is within quotes. -/
def mark (character : Char) : Quoting → Mark
  | .single => if character = '\x27' then .turn .plain .direct else .literal
  | .double =>
    if character = '$' then .turn .double (.reference [])
    else if character = '"' then .turn .plain .direct
    else if character = '\\' then .turn .double .escaped
    else .literal
  | .plain =>
    if character = '$' then .turn .plain (.reference [])
    else if character = '\x27' then .turn .single .direct
    else if character = '"' then .turn .double .direct
    else if character = '\\' then .turn .plain .escaped
    else if character = ' ' ∨ character = '\t' then .final
    else .literal

/-- The rest of a value; `none` if it is malformed. The character that ends the name of a variable
without braces belongs to the value even if it is a mark elsewhere. -/
def valueFrom? (variableValue : List Char → List Char) :
    Quoting → Reading → List Char → Option (List Char)
  | .plain, .direct, [] | .plain, .escaped, [] => some []
  | .plain, .reference name, [] => some (variableValue name)
  | _, _, [] => none
  | quoting, .escaped, character :: rest => do
    let character ← unescape? character
    (valueFrom? variableValue quoting .direct rest).map (character :: ·)
  | quoting, .reference name, character :: rest =>
    if Text.isAlphanumeric character then
      valueFrom? variableValue quoting (.reference (name ++ [character])) rest
    else if character = '\x7b' ∧ name = [] then
      valueFrom? variableValue quoting (.braced []) rest
    else if character = '$' then
      (valueFrom? variableValue quoting (.reference []) rest).map (variableValue name ++ ·)
    else
      (valueFrom? variableValue quoting .direct rest).map fun value =>
        variableValue name ++ character :: value
  | quoting, .braced name, character :: rest =>
    if character = '\x7d' then
      (valueFrom? variableValue quoting .direct rest).map (variableValue name ++ ·)
    else valueFrom? variableValue quoting (.braced (name ++ [character])) rest
  | quoting, .direct, character :: rest =>
    match mark character quoting with
    | .literal => (valueFrom? variableValue quoting .direct rest).map (character :: ·)
    | .final => if isEnd rest then some [] else none
    | .turn quoting reading => valueFrom? variableValue quoting reading rest

/-- The value that a text spells, given the values of variables by their names. -/
def value? (variableValue : List Char → List Char) (text : List Char) : Option (List Char) :=
  valueFrom? variableValue .plain .direct text

end EdgeGateway.Settings.EnvironmentFile
