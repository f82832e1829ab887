import ServiceContract.Folder
import ServiceContract.Text.Path

/-!
# Paths in a folder

Paths lead through folders within folders, and through links. All of them start at one folder; a way
out of it leads nowhere.
-/

namespace ServiceContract

/-- Why a path leads to nothing. -/
inductive PathFault where
  | notFound
  | notAFolder
  /-- Any other reason. -/
  | other
deriving DecidableEq

/-- Where a path leads: to an entry, or to a name in a folder that is free. -/
inductive Place where
  | entry (path : List String) (e : Entry)
  | free (folder : List String) (name : String)

namespace Folder

/-- The entry at a list of names, through folders only. -/
def at? : Folder → List String → Option Entry
  | f, [] => some (.folder f)
  | f, name :: rest =>
    match f.get? name with
    | some (.folder inner) => at? inner rest
    | some e => if rest.isEmpty then some e else none
    | none => none

/-- Changes the folder at a list of names. -/
def modify (change : Folder → Folder) : List String → Folder → Folder
  | [], f => change f
  | name :: rest, f =>
    match f.get? name with
    | some (.folder inner) => f.put name (.folder (modify change rest inner))
    | _ => f

/-- The parts of a path text, also the empty ones. -/
def rawParts (path : String) : List String :=
  (Text.splitChars '/' path.toList).map String.ofList

/-- How many links a path may lead through. -/
def maxLinks : Nat := 40

/-- Whether a part of a path can name something. -/
def isUsable (part : String) : Bool := fits part && part.toList.all (·.toNat ≠ 0)

/-- Follows the parts of a path from the folder at `here`. A link at its end is followed if asked
for. -/
def walk (root : Folder) (follow : Bool) (links : Nat) (here : List String) (parts : List String) :
    Except PathFault Place :=
  match parts with
  | [] =>
    match root.at? here with
    | some e => .ok (.entry here e)
    | none => .error .notFound
  | part :: rest =>
    if part = "" || part = "." then walk root follow links here rest
    else if part = ".." then
      if here.isEmpty then .error .notFound else walk root follow links here.dropLast rest
    else if !isUsable part then .error .other
    else
      let path := here ++ [part]
      match root.at? path with
      | none => if rest.isEmpty then .ok (.free here part) else .error .notFound
      | some (.folder _) => walk root follow links path rest
      | some (.file content) =>
        if rest.isEmpty then .ok (.entry path (.file content)) else .error .notAFolder
      | some (.link target) =>
        if rest.isEmpty && !follow then .ok (.entry path (.link target))
        else if Text.isAbsolute target then .error .notFound
        else match links with
          | 0 => .error .other
          | links + 1 => walk root follow links here (rawParts target ++ rest)
termination_by (links, parts.length)

/-- Where a path text leads. -/
def resolve (root : Folder) (follow : Bool) (path : String) : Except PathFault Place :=
  if path = "" || Text.isAbsolute path then .error .notFound
  else walk root follow maxLinks [] (rawParts path)

/-- The content of the file that a path leads to. -/
def read (root : Folder) (path : String) : Except PathFault ByteArray :=
  match resolve root true path with
  | .ok (.entry _ (.file content)) => .ok content
  | .ok (.entry _ _) => .error .other
  | .ok (.free _ _) => .error .notFound
  | .error fault => .error fault

/-- Where the folder is that a path leads to, and what it holds. -/
def openAt (root : Folder) (path : String) : Except PathFault (List String × Folder) :=
  match resolve root true path with
  | .ok (.entry here (.folder f)) => .ok (here, f)
  | .ok (.entry _ _) => .error .notAFolder
  | .ok (.free _ _) => .error .notFound
  | .error fault => .error fault

def make (root : Folder) (parts : List String) : Except PathFault Folder :=
  match walk root false maxLinks [] parts with
  | .ok (.free here name) => .ok (root.modify (put name (.folder [])) here)
  | .ok (.entry _ _) => .error .other
  | .error fault => .error fault

/-- Whether the parts lead to a folder. -/
def isFolder (root : Folder) (parts : List String) : Bool :=
  match walk root true maxLinks [] parts with
  | .ok (.entry _ (.folder _)) => true
  | _ => false

/-- Makes one folder, unless it is there. -/
def ensure (root : Folder) (parts : List String) : Except PathFault Folder :=
  match make root parts with
  | .ok root => .ok root
  | .error fault => if isFolder root parts then .ok root else .error fault

/-- Makes a folder and those that it lies in, given the parts of its path from the last one. What
has been made before a fault stays. -/
def ensureAll (root : Folder) : List String → Except (PathFault × Folder) Folder
  | [] => .ok root
  | part :: before =>
    match ensure root (part :: before).reverse with
    | .ok root => .ok root
    | .error .notFound => do
      let root ← ensureAll root before
      (ensure root (part :: before).reverse).mapError (·, root)
    | .error fault => .error (fault, root)

/-- Makes the folder of a path, with those that it lies in. -/
def makeAll (root : Folder) (path : String) : Except (PathFault × Folder) Folder :=
  if Text.isAbsolute path then .error (.notFound, root)
  else ensureAll root (Text.pathParts path).reverse

/-- Makes the folders that the last part of a path lies in. -/
def makeParents (root : Folder) (path : String) : Except PathFault Folder :=
  (ensureAll root ((Text.pathParts path).reverse.drop 1)).mapError Prod.fst

/-- Puts a file at a path. The folders it lies in are made. -/
def putFile (root : Folder) (path : String) (content : ByteArray) : Except PathFault Folder := do
  let root ← makeParents root path
  match resolve root true path with
  | .ok (.free here name) => return root.modify (put name (.file content)) here
  | .ok (.entry here (.file _)) =>
    match here.getLast? with
    | some name => return root.modify (put name (.file content)) here.dropLast
    | none => throw .other
  | .ok (.entry _ _) => throw .other
  | .error fault => throw fault

/-- Puts a link at a path that is free. The folders it lies in are made. -/
def putLink (root : Folder) (path target : String) : Except PathFault Folder := do
  let root ← makeParents root path
  match resolve root false path with
  | .ok (.free here name) => return root.modify (put name (.link target)) here
  | .ok (.entry _ _) => throw .other
  | .error fault => throw fault

/-- Takes away what a path leads to; a link itself, and a folder with all it holds. -/
def delete (root : Folder) (path : String) : Except PathFault Folder := do
  match resolve root false path with
  | .ok (.entry here _) =>
    match here.getLast? with
    | some name => return root.modify (erase name) here.dropLast
    | none => throw .other
  | .ok (.free _ _) => throw .notFound
  | .error fault => throw fault

end Folder

end ServiceContract
