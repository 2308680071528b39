import EdgeGateway.Settings.Tree

/-!
# TOML tables under construction

A table is opened once: by a header, by a dotted key, or on the way to a table below it, and only
in the last case by a header later on. Nothing is set twice.
-/

namespace EdgeGateway.Settings.Toml

/-- How a table came to be. -/
inductive Origin where
  /-- On the way to a table below it. -/
  | implied
  /-- By its own header. -/
  | header
  /-- By a dotted key. -/
  | dotted
  deriving DecidableEq, Repr

/-- A member of a document under construction. -/
inductive Node where
  | value (value : Tree)
  | table (origin : Origin) (members : List (String × Node))
  /-- An array of tables. Its last element is the one that is open. -/
  | elements (earlier : List (List (String × Node))) (last : List (String × Node))

namespace Node

/-- Members with one of them changed or added. -/
def alter? (key : String) (change? : Option Node → Option Node) :
    List (String × Node) → Option (List (String × Node))
  | [] => (change? none).map fun node => [(key, node)]
  | (other, node) :: members =>
    if other = key then (change? (some node)).map fun node => (key, node) :: members
    else (alter? key change? members).map ((other, node) :: ·)

/-- Changes the members at the end of a path. Tables that are missing on the way are added. The
path of a header goes through tables of any origin and through the last elements of arrays. A
dotted key goes through the last elements of arrays too, but not through tables with a header; it
opens the table that it ends in, which may be no element of an array. -/
def alterAt? (way : Origin) (change? : List (String × Node) → Option (List (String × Node))) :
    List String → List (String × Node) → Option (List (String × Node))
  | [], members => change? members
  | key :: path, members =>
    members |> alter? key fun
      | none => (alterAt? way change? path []).map (.table way ·)
      | some (.table origin inner) =>
        if way = .dotted ∧ origin = .header then none
        else
          let origin := if way = .dotted ∧ path = [] then .dotted else origin
          (alterAt? way change? path inner).map (.table origin ·)
      | some (.elements earlier last) =>
        if way = .dotted ∧ path = [] then none
        else (alterAt? way change? path last).map (.elements earlier ·)
      | some (.value _) => none

/-- Opens a table. -/
def openTable? : Option Node → Option Node
  | none => some (.table .header [])
  | some (.table .implied members) => some (.table .header members)
  | some _ => none

/-- Opens a new element of an array of tables. -/
def openElement? : Option Node → Option Node
  | none => some (.elements [] [])
  | some (.elements earlier last) => some (.elements (earlier ++ [last]) [])
  | some _ => none

/-- Sets a value where nothing is yet. -/
def setValue? (value : Tree) : Option Node → Option Node
  | none => some (.value value)
  | some _ => none

mutual

/-- A finished node as a raw setting. -/
def toTree : Node → Tree
  | .value tree => tree
  | .table _ members => .table (toMembers members)
  | .elements earlier last => .list (toElements earlier ++ [.table (toMembers last)])

/-- Finished members as raw settings. -/
def toMembers : List (String × Node) → List (String × Tree)
  | [] => []
  | (key, node) :: members => (key, toTree node) :: toMembers members

/-- Finished elements as raw settings. -/
def toElements : List (List (String × Node)) → List Tree
  | [] => []
  | members :: rest => .table (toMembers members) :: toElements rest

end

/-- Changes or adds the member at the end of a path. -/
def atEnd? (way : Origin) (change? : Option Node → Option Node) (path : List String)
    (members : List (String × Node)) : Option (List (String × Node)) := do
  let key ← path.getLast?
  alterAt? way (alter? key change?) path.dropLast members

end Node

end EdgeGateway.Settings.Toml
