import EdgeGateway.Decimal.Literal
import EdgeGateway.Json.Value

/-!
# Raw settings

Settings come from several sources. A `Tree` is what a source says before it is known what the
settings mean. Sources are laid over each other: tables are merged member by member, and anything
else is replaced. A source may name a setting by a path: members of members behind points, and
items of lists in brackets.
-/

namespace EdgeGateway.Settings

open EdgeGateway.Decimal

/-- A raw setting. -/
inductive Tree where
  | null
  | boolean (value : Bool)
  | integer (value : Int)
  | real (value : Extended)
  | text (value : String)
  | list (items : List Tree)
  | table (members : List (String × Tree))
  deriving Inhabited

namespace Tree

/-- The members of a table. Anything else has none. -/
def members : Tree → List (String × Tree)
  | table members => members
  | _ => []

/-- The items of a list. Anything else has none. -/
def items : Tree → List Tree
  | list items => items
  | _ => []

/-- Sets a member, in its place if it is there already. -/
def setMember (key : String) (value : Tree) : List (String × Tree) → List (String × Tree)
  | [] => [(key, value)]
  | (other, old) :: members =>
    if other = key then (key, value) :: members else (other, old) :: setMember key value members

mutual

/-- A setting laid over another one. -/
def overlay (base : Tree) : Tree → Tree
  | table members => .table (overlayMembers base.members members)
  | null => .null
  | boolean value => .boolean value
  | integer value => .integer value
  | real value => .real value
  | text value => .text value
  | list items => .list items

/-- Members laid over those of another table, one by one. -/
def overlayMembers (base : List (String × Tree)) : List (String × Tree) → List (String × Tree)
  | [] => base
  | (key, value) :: members =>
    overlayMembers (setMember key (overlay ((base.lookup key).getD .null) value) base) members

end

/-- A list with the item at an index changed. A negative index counts from the end. A list that is
too short is first extended by null items, behind it or, for a negative index, in front of it. -/
def alterItem (index : Int) (change : Tree → Tree) (items : List Tree) : List Tree :=
  if 0 ≤ index then
    let extended := items ++ List.replicate (index.toNat + 1 - items.length) null
    extended.modify index.toNat change
  else
    let extended := List.replicate (index.natAbs - items.length) null ++ items
    extended.modify (extended.length - index.natAbs) change

/-- One step of a path. -/
inductive Step where
  /-- To a member of a table. -/
  | member (name : String)
  /-- To an item of a list. -/
  | item (index : Int)
  deriving DecidableEq, Repr

/-- Whether a character may stand in a path as a part of a name. -/
def isPathCharacter (character : Char) : Bool :=
  character.isAlphanum || character = '_' || character = '-'

/-- The index that stands in brackets: an integer of 64 bits without a plus sign, with any blanks
around it. -/
def index? (text : List Char) : Option Int :=
  let isBlank (character : Char) : Bool := character = ' ' || character = '\t'
  let inner := ((text.dropWhile isBlank).reverse.dropWhile isBlank).reverse
  if inner.head? = some '+' then none else integer64? inner

/-- The steps that a text spells, each behind a point or in brackets. -/
def steps? (text : List Char) : Option (List Step) :=
  match text with
  | [] => some []
  | '.' :: rest =>
    let name := rest.takeWhile isPathCharacter
    if name = [] then none
    else do
      let steps ← steps? (rest.dropWhile isPathCharacter)
      return .member (String.ofList name) :: steps
  | '[' :: rest =>
    if rest.contains ']' then do
      let index ← index? (rest.takeWhile (· ≠ ']'))
      let steps ← steps? ((rest.dropWhile (· ≠ ']')).drop 1)
      return .item index :: steps
    else none
  | _ => none
termination_by text.length
decreasing_by
  · have shorter := (List.dropWhile_suffix (l := rest) isPathCharacter).length_le
    simp only [List.length_cons]
    omega
  · have shorter := (List.dropWhile_suffix (l := rest) (· ≠ ']')).length_le
    simp only [List.length_cons, List.length_drop]
    omega

/-- The path that a name spells. A name that spells none is the name of one member. -/
def path (name : String) : List Step :=
  (steps? ('.' :: name.toList)).getD [.member name]

/-- A setting laid over what is at the end of a path. What is missing on the way is added, and
what is not a table or a list where one is needed is replaced by one. -/
def assignAt (value : Tree) : List Step → Tree → Tree
  | [], base => base.overlay value
  | .member name :: path, base =>
    let old := (base.members.lookup name).getD null
    .table (setMember name (assignAt value path old) base.members)
  | .item index :: path, base => .list (alterItem index (assignAt value path) base.items)

/-- Some named settings laid over a table, one after another. -/
def assign (base : Tree) (settings : List (String × Tree)) : Tree :=
  settings.foldl (fun tree (name, value) => assignAt value (path name) tree) base

mutual

/-- A JSON value as a raw setting. -/
def ofJson : Json.Value → Tree
  | .null => .null
  | .boolean value => .boolean value
  | .number (.integer value) => .integer value
  | .number (.real value) => .real (.finite value)
  | .string value => .text value
  | .array items => .list (ofItems items)
  | .object members => .table (ofMembers members)

/-- JSON values as raw settings. -/
def ofItems : List Json.Value → List Tree
  | [] => []
  | item :: items => ofJson item :: ofItems items

/-- JSON members as raw settings. -/
def ofMembers : List (String × Json.Value) → List (String × Tree)
  | [] => []
  | (key, value) :: members => (key, ofJson value) :: ofMembers members

end

end Tree

end EdgeGateway.Settings
