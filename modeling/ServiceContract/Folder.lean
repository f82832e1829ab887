/-!
# Folders

What a folder holds, as a map from names to entries.
-/

namespace ServiceContract

/-- What a name in a folder stands for. The target of a link is a path. -/
inductive Entry where
  | file (content : ByteArray)
  | link (target : String)
  | folder (entries : List (String × Entry))

/-- The entries of a folder by name. A name is a text: entries whose names are not are left out,
since no run takes notice of them. -/
abbrev Folder := List (String × Entry)

namespace Folder

def get? (name : String) (f : Folder) : Option Entry := f.lookup name

def put (name : String) (e : Entry) : Folder → Folder
  | [] => [(name, e)]
  | (n, d) :: rest => if n = name then (n, e) :: rest else (n, d) :: put name e rest

/-- Takes a name away. -/
def erase (name : String) (f : Folder) : Folder := f.filter fun entry => entry.1 ≠ name

/-- The names, in the order of their characters. -/
def names (f : Folder) : List String := (f.map Prod.fst).mergeSort fun a b => a ≤ b

/-- The most bytes of a name. -/
def maxNameLength : Nat := 255

/-- Whether a name is short enough. -/
def fits (name : String) : Bool := name.utf8ByteSize ≤ maxNameLength

end Folder

end ServiceContract
