import ServiceContract.Text.Blank

/-!
# Path texts

A path is a text whose parts are divided by slashes.
-/

namespace ServiceContract.Text

/-- The parts of a list between the places of a separator. There is always one. -/
def splitChars (separator : Char) : List Char → List (List Char)
  | [] => [[]]
  | c :: rest =>
    match splitChars separator rest with
    | part :: parts => if c = separator then [] :: part :: parts else (c :: part) :: parts
    | [] => [[c]]

/-- The parts of a path; those that are empty or a single dot do not count. -/
def pathParts (path : String) : List String :=
  ((splitChars '/' path.toList).map String.ofList).filter fun part => part ≠ "" && part ≠ "."

/-- Whether a path starts at the root. -/
def isAbsolute (path : String) : Bool := path.toList.head? == some '/'

/-- The last part of a path, unless that leads to a parent. -/
def lastPart (path : String) : Option String :=
  (pathParts path).getLast?.filter (· ≠ "..")

/-- A file name at its last dot: what stands before it and what stands behind it. A dot that begins
the name does not count. -/
def splitName (name : String) : String × Option String :=
  let behind := name.toList.reverse.takeWhile (· ≠ '.')
  let before := (name.toList.reverse.dropWhile (· ≠ '.')).drop 1
  if before.isEmpty then (name, none)
  else (String.ofList before.reverse, some (String.ofList behind.reverse))

/-- The name of a file without its extension. -/
def fileStem (path : String) : Option String := (lastPart path).map fun name => (splitName name).1

def extension (path : String) : Option String := (lastPart path).bind fun name => (splitName name).2

end ServiceContract.Text
