import EdgeGateway.Channel.Address

/-!
# Searching a channel for its reference and key

Handlers and manifests do not use the positional reading of a channel. They search its text:
the reference is what follows the last `/r/`, the key what follows the first `/d/` or, failing
that, the first `/g/`. On channels whose keys or segments spell the markers the two readings
differ.

The searches go through lists of characters. Occurrences of a marker may overlap, and the last one
is the one that starts last.
-/

namespace EdgeGateway

namespace Text

/-- The text behind the first occurrence of a marker. -/
def afterFirst? (marker : List Char) : List Char → Option (List Char)
  | [] => dropPrefix? marker []
  | character :: text =>
    match dropPrefix? marker (character :: text) with
    | some rest => some rest
    | none => afterFirst? marker text

/-- The text behind the last occurrence of a marker. -/
def afterLast? (marker : List Char) : List Char → Option (List Char)
  | [] => dropPrefix? marker []
  | character :: text =>
    match afterLast? marker text with
    | some rest => some rest
    | none => dropPrefix? marker (character :: text)

end Text

namespace Address

/-- The text behind the last `/r/` of a channel, once a final delimiter is dropped. Empty if
there is no such marker. -/
def textualReference (channel : String) : String :=
  String.ofList <|
    (Text.afterLast? ['/', 'r', '/'] (Text.dropFinal delimiter channel.toList)).getD []

/-- The text between the first occurrence of a marker and the next delimiter. -/
def keyAfter? (marker : List Char) (channel : String) : Option String :=
  (Text.afterFirst? marker channel.toList).map fun rest =>
    String.ofList (rest.takeWhile (· ≠ delimiter))

/-- The key behind the first `/d/` of a channel, else the one behind the first `/g/`, else the
empty text. -/
def textualKey (channel : String) : String :=
  ((keyAfter? ['/', 'd', '/'] channel).or (keyAfter? ['/', 'g', '/'] channel)).getD ""

end Address

end EdgeGateway
