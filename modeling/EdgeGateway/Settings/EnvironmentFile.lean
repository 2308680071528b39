import EdgeGateway.Settings.EnvironmentFile.Line
import EdgeGateway.Settings.EnvironmentFile.Value
import EdgeGateway.Text.Ends

/-!
# Variables in a file

A `.env` file sets variables line by line: a name, an equals sign and a value, which may refer to
other variables. A variable that is set already keeps its value. Reading ends at the first line
that is none of this; what was read before it counts.
-/

namespace EdgeGateway.Settings.EnvironmentFile

/-- Whether a character may begin the name of a variable. -/
def beginsName (character : Char) : Bool := character.isAlpha || character = '_'

/-- Whether a character may occur in the name of a variable. -/
def isNameCharacter (character : Char) : Bool :=
  character.isAlphanum || character = '_' || character = '.'

/-- Splits the name of a variable off, with the blanks behind it. -/
def takeName? (text : List Char) : Option (List Char × List Char) :=
  if text.head?.any beginsName then
    some (text.takeWhile isNameCharacter, (text.dropWhile isNameCharacter).dropWhile Text.isBlank)
  else none

/-- The value behind the name of a variable, if an equals sign follows. -/
def valueText? : List Char → Option (List Char)
  | '=' :: rest =>
    let rest := rest.dropWhile Text.isBlank
    some (if rest.head? = some '#' then [] else rest)
  | _ => none

/-- The name and the unread value of the variable that a line sets. The word `export` may stand in
front of the name. -/
def assignment? (text : List Char) : Option (List Char × List Char) := do
  let (name, rest) ← takeName? text
  if String.ofList name = "export" ∧ rest.head? ≠ some '=' then
    let (name, rest) ← takeName? rest
    return (name, ← valueText? rest)
  else return (name, ← valueText? rest)

/-- A variable as the environment holds it: its name, an equals sign and its value in one text. -/
def entry (name value : String) : List Char := name.toList ++ '=' :: value.toList

/-- What a reference stands for: the rest of the first entry that begins with the given name and an
equals sign, and nothing if there is none. A name with an equals sign in it may so reach into the
value of a variable. -/
def valueIn (environment : List (String × String)) (name : List Char) : List Char :=
  let found := environment.findSome? fun (variableName, value) =>
    Text.dropPrefix? (name ++ ['=']) (entry variableName value)
  found.getD []

/-- An environment with a variable set, unless it is set already. -/
def withDefault (name value : String) (environment : List (String × String)) :
    List (String × String) :=
  if environment.any (·.1 = name) then environment else environment ++ [(name, value)]

/-- An environment with the variables that some lines set, up to the first malformed line. -/
def extendByLines (environment : List (String × String)) :
    List (List Char) → List (String × String)
  | [] => environment
  | line :: lines =>
    let text := Text.trimmed line
    if text = [] ∨ text.head? = some '#' then extendByLines environment lines
    else
      let variableSet := do
        let (name, rest) ← assignment? text
        return (String.ofList name, String.ofList (← value? (valueIn environment) rest))
      match variableSet with
      | none => environment
      | some (name, value) => extendByLines (withDefault name value environment) lines

/-- An environment with the variables that a file sets. -/
def extend (environment : List (String × String)) (file : String) : List (String × String) :=
  extendByLines environment (lines (Text.dropByteOrderMark file.toList))

end EdgeGateway.Settings.EnvironmentFile
