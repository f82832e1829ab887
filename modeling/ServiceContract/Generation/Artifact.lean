import ServiceContract.Document.Agreement
import ServiceContract.Document.Contract
import ServiceContract.Document.Reliability
import ServiceContract.Text.Blank

/-!
# Artifacts

The files a run produces. Their names are made from a base name, so that a later run can tell which
files belong to it.
-/

namespace ServiceContract

/-- A file with its text. Its path is the name of a file in the output directory. -/
structure Artifact where
  path : String
  text : String
deriving DecidableEq

namespace Artifact

/-- The content type of every artifact. -/
def contentType : String := "application/yaml"

def content (a : Artifact) : ByteArray := a.text.toUTF8

end Artifact

/-- Whether a text is the name of one file: not blank, no step to a directory, and without a
separator or the character that ends names. -/
def isFileName (name : String) : Bool :=
  !Text.isBlank name && name ≠ "." && name ≠ ".." &&
    name.toList.all fun c => c ≠ '/' && c ≠ '\\' && c.toNat ≠ 0

/-- Checks artifacts in order: each has the name of one file, and no two of them the same. `seen`
holds the names before them. -/
def checkNames (seen : List String) : List Artifact → Except GenerationError Unit
  | [] => .ok ()
  | a :: rest =>
    if !isFileName a.path then .error (.outputPath a.path)
    else if seen.contains a.path then .error (.duplicateArtifact a.path)
    else checkNames (a.path :: seen) rest

/-- Artifacts in the order of their paths. -/
def sortByPath (artifacts : List Artifact) : List Artifact :=
  artifacts.mergeSort fun a b => a.path ≤ b.path

/-- Whether a run for a base name can produce a file of this name. -/
def belongsToRun (baseName name : String) : Bool :=
  name = Contract.fileName baseName || name = Agreement.fileName baseName ||
    (let start := (baseName ++ Reliability.fileMark).toList
     start.isPrefixOf name.toList &&
       Reliability.fileEnding.toList.isSuffixOf (name.toList.drop start.length))

end ServiceContract
