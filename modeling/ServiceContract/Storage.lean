import ServiceContract.Configuration.Reading
import ServiceContract.Folder.Path
import ServiceContract.Generation.Build
import ServiceContract.Generation.Output
import ServiceContract.Input

/-!
# Storage

What runs do with files, over any place where files are kept.
-/

namespace ServiceContract

/-- A place where files are kept. -/
structure Storage (m : Type → Type) where
  /-- Where a folder is, however it was found. -/
  Location : Type
  read : String → m (Except PathFault ByteArray)
  /-- Whether a path leads to a file. -/
  isFile : String → m Bool
  /-- Makes a folder, with those that it lies in. -/
  makeFolder : String → m (Except PathFault Location)
  /-- What a folder holds. The content of files is needed for some names only. -/
  view : String → List String → m (Except PathFault Folder)
  /-- Performs a step in a folder, and says whether it succeeded. -/
  perform : Location → Step → m Bool

/-- The error for a folder that cannot be used. -/
def PathFault.outputError (path : String) : PathFault → GenerationError
  | notFound | notAFolder => .outputPath path
  | other => .io path

section

variable {m : Type → Type} [Monad m] (storage : Storage m)

def Specification.load (path : String) : m (Except GenerationError Specification) := do
  match ← storage.read path with
  | .ok content => return readFile path content
  | .error _ => return .error (.io ("read " ++ path))

/-- The settings of the file that is given, or named by the environment, or stands at the default
place; the defaults if there is none. -/
def Configuration.load (given named : Option String) :
    m (Except ConfigurationError Configuration) := do
  match resolvePath given named (← storage.isFile defaultPath) with
  | .error e => return .error e
  | .ok none => return .ok {}
  | .ok (some path) =>
    match checkPath path with
    | .error e => return .error e
    | .ok () =>
      match ← storage.read path with
      | .ok content => return ofContent content
      | .error _ => return .error .io

def writeAll (run : Nat) (folder : String) (artifacts : List Artifact) :
    m (Except GenerationError Unit) := do
  if folder = "" then return .error (.outputPath folder)
  match ← storage.makeFolder folder with
  | .error fault => return .error (fault.outputError folder)
  | .ok location => placeAll (storage.perform location) run artifacts

namespace Specification

variable (s : Specification) (c : Configuration) (baseName folder : String)

/-- Builds all artifacts and writes them to a folder. Nothing is written unless all are built. -/
def writeTo (run : Nat) : m (Except GenerationError Generation) := do
  match s.generate c baseName with
  | .error e => return .error e
  | .ok g => return (← writeAll storage run folder g.artifacts).map fun () => g

/-- Builds all artifacts and checks that a folder holds them. -/
def verifyIn : m (Except GenerationError Unit) := do
  match s.generate c baseName with
  | .error e => return .error e
  | .ok g =>
    if folder = "" then return .error (.outputPath folder)
    match ← storage.view folder (g.artifacts.map (·.path)) with
    | .error fault => return .error (fault.outputError folder)
    | .ok f => return verifyAll f baseName g.artifacts

end Specification

end

namespace Folder

/-- A step in the folder at a list of names. -/
def performAt (here : List String) (step : Step) : StateM Folder Bool := do
  let root ← get
  match root.at? here with
  | some (.folder f) =>
    match perform? f step with
    | none => return false
    | some f => do
      set (root.modify (fun _ => f) here)
      return true
  | _ => return false

/-- A folder as the place where files are kept. -/
def storage : Storage (StateM Folder) where
  Location := List String
  read path := do return (← get).read path
  isFile path := do return ((← get).read path).toOption.isSome
  makeFolder path := do
    match (← get).makeAll path with
    | .ok root => do
      set root
      return (root.openAt path).map Prod.fst
    | .error (fault, root) => do
      set root
      return .error fault
  view path _ := do return ((← get).openAt path).map Prod.snd
  perform := performAt

end Folder

end ServiceContract
