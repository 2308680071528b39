/-!
# Where journals live

A journal is a directory, made with all directories above it when it is opened. It cannot be
opened where a regular file is in the way, be it only on a detour that the path takes, nor where
names are too long for a file system.
-/

namespace EdgeGateway.Backlog

/-- The greatest number of bytes in the name of a file. -/
def longestName : Nat := 255

/-- The greatest number of bytes in the path of a file. -/
def longestPath : Nat := 4095

/-- What a journal holds at its deepest: a directory for large values. -/
def deepestPart : String := "/blobs"

/-- The steps of a path. -/
def pathSteps (path : String) : List String :=
  ((path.toList.splitOn '/').map String.ofList).filter fun step => step ≠ "" && step ≠ "."

/-- Whether a path starts at the root. -/
def isAbsolute (path : String) : Bool := path.toList.head? = some '/'

/-- The directory that a step leads to, given by the names on the way to it from the innermost one
outwards. Two points lead back to the directory above; there is none above the root. -/
def enter (absolute : Bool) (place : List String) (step : String) : List String :=
  if step = ".." then
    match place with
    | [] => if absolute then [] else [step]
    | name :: outer => if name = ".." then step :: place else outer
  else step :: place

/-- Whether steps from a place lead nowhere through one of some files. -/
def avoids (absolute : Bool) (files : List (List String)) (place : List String) :
    List String → Bool
  | [] => true
  | step :: steps =>
    let place := enter absolute place step
    !files.contains place.reverse && avoids absolute files place steps

/-- Whether the names in a path are such that a journal can have them. -/
def isNameable (path : String) : Bool :=
  path.toList.all (· ≠ '\x00') && (pathSteps path).all (·.utf8ByteSize ≤ longestName)
    && path.utf8ByteSize + deepestPart.utf8ByteSize ≤ longestPath

/-- Whether a journal can be opened at a path, given the regular files there are. -/
def canOpen (files : List String) (path : String) : Bool :=
  let absolute := isAbsolute path
  let comparable := files.filter (isAbsolute · = absolute)
  isNameable path && avoids absolute (comparable.map pathSteps) [] (pathSteps path)

end EdgeGateway.Backlog
