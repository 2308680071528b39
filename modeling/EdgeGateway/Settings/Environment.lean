import EdgeGateway.Settings.Tree

/-!
# Settings in the environment

A variable sets what its name spells: a fixed beginning, then the members on the way, with double
underscores between them, in any case. Its value is a truth value, an integer or a decimal if it
can be read as one, and a text otherwise.
-/

namespace EdgeGateway.Settings.Environment

open EdgeGateway.Decimal

/-- How the names of variables begin, in lower case. -/
def beginning : String := "gwroute__"

/-- Every double underscore turned into a point, from the left. -/
def pointed : List Char → List Char
  | '_' :: '_' :: rest => '.' :: pointed rest
  | character :: rest => character :: pointed rest
  | [] => []

/-- The lower case of a letter, as far as it belongs to ASCII: that of an ASCII letter, and that of
the Kelvin sign, which is a capital K. -/
def lowerCase (character : Char) : Char :=
  if character = '\u212a' then 'k' else character.toLower

/-- The setting that a variable names. -/
def settingName? (variableName : String) : Option String :=
  let folded := variableName.toList.map lowerCase
  if beginning.toList.isPrefixOf folded then
    some (String.ofList (pointed (folded.drop beginning.length)))
  else none

/-- The value of a variable as a raw setting. -/
def ofValue (value : String) : Tree :=
  let characters := value.toList
  let folded := String.ofList (characters.map Char.toLower)
  if folded = "true" then .boolean true
  else if folded = "false" then .boolean false
  else
    match integer64? characters with
    | some value => .integer value
    | none =>
      match Extended.ofText? characters with
      | some value => .real value
      | none => .text value

/-- The settings that some variables name. -/
def settings (environment : List (String × String)) : List (String × Tree) :=
  environment.filterMap fun (name, value) =>
    (settingName? name).map fun setting => (setting, ofValue value)

end EdgeGateway.Settings.Environment
