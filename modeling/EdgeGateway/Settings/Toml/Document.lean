import EdgeGateway.Settings.Toml.Value
import EdgeGateway.Text.Ends

/-!
# TOML documents

A TOML text is a sequence of statements: headers of tables, headers of table elements, and
assignments. Together they build one table. Headers count from the top, assignments from the table
that is open.
-/

namespace EdgeGateway.Settings.Toml

/-! ## Statements -/

/-- A statement. -/
inductive Statement where
  /-- Opens a table. -/
  | table (path : List String)
  /-- Opens a new element of an array of tables. -/
  | element (path : List String)
  /-- Sets a member of the open table. -/
  | assign (path : List String) (value : Tree)

/-- Reads one statement with the end of its line. -/
def statement? (text : List Char) : Option (Statement × List Char) :=
  match text with
  | '[' :: '[' :: rest => do
    let (path, rest) ← key? rest
    let ']' :: ']' :: rest := skipBlanks rest | none
    return (.element path, ← takeLineEnd? rest)
  | '[' :: rest => do
    let (path, rest) ← key? rest
    let ']' :: rest := skipBlanks rest | none
    return (.table path, ← takeLineEnd? rest)
  | text => do
    let (path, rest) ← key? text
    let '=' :: rest := skipBlanks rest | none
    let (value, rest) ← value? text.length deepest (skipBlanks rest)
    return (.assign path value, ← takeLineEnd? rest)

/-- Reads at most so many statements, to the end of the text. -/
def statementsWithin? : Nat → List Char → Option (List Statement)
  | 0, _ => none
  | fuel + 1, text =>
    match skipLines text with
    | [] => some []
    | text => do
      let (statement, rest) ← statement? text
      let statements ← statementsWithin? fuel rest
      return statement :: statements

/-- The statements of a TOML text. -/
def statements? (text : String) : Option (List Statement) :=
  let characters := Text.dropByteOrderMark text.toList
  statementsWithin? (characters.length + 1) characters

/-! ## What they build -/

/-- A document under construction: its members and the path of the open table. -/
structure Document where
  members : List (String × Node) := []
  current : List String := []

namespace Document

/-- The document after a statement. -/
def extend? (document : Document) : Statement → Option Document
  | .table path => do
    let members ← Node.atEnd? .implied Node.openTable? path document.members
    return { members, current := path }
  | .element path => do
    let members ← Node.atEnd? .implied Node.openElement? path document.members
    return { members, current := path }
  | .assign path value => do
    let members ←
      Node.alterAt? .implied (Node.atEnd? .dotted (Node.setValue? value) path) document.current
        document.members
    return { document with members }

end Document

/-- The members of the table that a TOML text spells. -/
def ofText? (text : String) : Option (List (String × Tree)) := do
  let statements ← statements? text
  let document ← statements.foldlM Document.extend? {}
  return Node.toMembers document.members

end EdgeGateway.Settings.Toml
