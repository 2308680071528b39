import EdgeGateway.Json.Value

/-!
# Reading records

A record is read from a written tree, field by field, without going through its value: a field
of no interest only has to be written correctly. A record is an object whose known fields occur
at most once, or an array of the fields in their order.
-/

namespace EdgeGateway.Json.Tree

/-- The text of a string. -/
def text? : Tree → Option String
  | .string units => decodeText? units
  | _ => none

/-- The texts of an array of strings. -/
def texts? : Tree → Option (List String)
  | .array items => items.mapM text?
  | _ => none

/-- The truth value that a tree is. -/
def boolean? : Tree → Option Bool
  | .boolean value => some value
  | _ => none

/-- A natural number below `2 ^ 64`, written as an integer. -/
def natural64? : Tree → Option UInt64
  | .number numeral =>
    match Number.ofNumeral? numeral with
    | some (.integer value) => if 0 ≤ value then some (UInt64.ofNat value.toNat) else none
    | _ => none
  | _ => none

/-- The members of an object with their keys decoded. -/
def decodedMembers? (members : List (List StringUnit × Tree)) : Option (List (String × Tree)) :=
  members.mapM fun (key, value) => (decodeText? key).map fun key => (key, value)

/-- The value of a field among members: absent, present once, or an error. -/
def field? (members : List (String × Tree)) (name : String) : Option (Option Tree) :=
  match members.filter (·.1 = name) with
  | [] => some none
  | [(_, value)] => some (some value)
  | _ => none

/-- The fields of a record with the given field names. In an array, fields at the end may be
absent. -/
def record? (names : List String) : Tree → Option (List (Option Tree))
  | .array items =>
    if items.length ≤ names.length then
      some (items.map some ++ List.replicate (names.length - items.length) none)
    else none
  | .object members => do
    let members ← decodedMembers? members
    names.mapM (field? members)
  | _ => none

end EdgeGateway.Json.Tree
