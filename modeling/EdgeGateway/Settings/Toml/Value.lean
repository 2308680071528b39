import EdgeGateway.Settings.Toml.Node
import EdgeGateway.Settings.Toml.Quoted
import EdgeGateway.Settings.Toml.Scalar

/-!
# TOML keys and values

A key is one name or several with points between them. A value is a word, a string, an array or an
inline table. Arrays and inline tables may go on over several lines, with comments, and their last
comma is optional. Only a key stays on one line.
-/

namespace EdgeGateway.Settings.Toml

/-- The greatest number of names in a key, and of arrays and inline tables within each other. -/
def deepest : Nat := 80

/-- Whether a character may stand in a key without quotes. -/
def isKeyCharacter (character : Char) : Bool :=
  character.isAlphanum || character = '_' || character = '-'

/-- Reads one name of a key. -/
def simpleKey? (text : List Char) : Option (String × List Char) :=
  match stringOnLine? text with
  | some (key, rest) => some (String.ofList key, rest)
  | none =>
    let key := text.takeWhile isKeyCharacter
    if key = [] then none else some (String.ofList key, text.dropWhile isKeyCharacter)

/-- Reads a key of at most so many names. -/
def keyWithin? : Nat → List Char → Option (List String × List Char)
  | 0, _ => none
  | most + 1, text => do
    let (key, rest) ← simpleKey? (skipBlanks text)
    match skipBlanks rest with
    | '.' :: rest =>
      let (keys, rest) ← keyWithin? most rest
      return (key :: keys, rest)
    | rest => return ([key], rest)

/-- Reads a key. -/
def key? (text : List Char) : Option (List String × List Char) := keyWithin? deepest text

mutual

/-- Reads a value that holds at most so many arrays and inline tables within each other. -/
def value? : (fuel depth : Nat) → List Char → Option (Tree × List Char)
  | 0, _, _ => none
  | fuel + 1, depth, text =>
    match text, depth with
    | '[' :: rest, depth + 1 =>
      (items? fuel depth (skipLines rest)).map fun (items, rest) => (.list items, rest)
    | '\x7b' :: rest, depth + 1 =>
      (members? fuel depth [] (skipLines rest)).map fun (members, rest) =>
        (.table (Node.toMembers members), rest)
    | text, _ =>
      match string? text with
      | some (value, rest) => some (.text (String.ofList value), rest)
      | none =>
        let (word, rest) := takeWord text
        (word? word).map (·, rest)

/-- Reads the items of an array up to its closing bracket. -/
def items? : (fuel depth : Nat) → List Char → Option (List Tree × List Char)
  | 0, _, _ => none
  | fuel + 1, depth, text =>
    match text with
    | ']' :: rest => some ([], rest)
    | text => do
      let (item, rest) ← value? fuel depth text
      match skipLines rest with
      | ',' :: rest =>
        let (items, rest) ← items? fuel depth (skipLines rest)
        return (item :: items, rest)
      | ']' :: rest => return ([item], rest)
      | _ => none

/-- Reads the members of an inline table up to its closing brace. -/
def members? :
    (fuel depth : Nat) → List (String × Node) → List Char →
      Option (List (String × Node) × List Char)
  | 0, _, _, _ => none
  | fuel + 1, depth, members, text =>
    match text with
    | '\x7d' :: rest => some (members, rest)
    | text => do
      let (path, rest) ← key? text
      let '=' :: rest := skipLines rest | none
      let (value, rest) ← value? fuel depth (skipLines rest)
      let members ← Node.atEnd? .dotted (Node.setValue? value) path members
      match skipLines rest with
      | ',' :: rest => members? fuel depth members (skipLines rest)
      | '\x7d' :: rest => return (members, rest)
      | _ => none

end

end EdgeGateway.Settings.Toml
