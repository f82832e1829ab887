/-!
# Removing a pattern
-/

namespace ServiceContract.Text

/-- The text without the occurrences of a pattern that are met from left to right; `skip` characters
belong to an occurrence that has been met. -/
def removeFrom (pattern : List Char) : (skip : Nat) → List Char → List Char
  | _, [] => []
  | skip + 1, _ :: rest => removeFrom pattern skip rest
  | 0, c :: rest =>
    if pattern.isPrefixOf (c :: rest) then removeFrom pattern (pattern.length - 1) rest
    else c :: removeFrom pattern 0 rest

/-- The text without a pattern, removed from left to right in one pass. -/
def remove (pattern cs : List Char) : List Char := removeFrom pattern 0 cs

end ServiceContract.Text
