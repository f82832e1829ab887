import ServiceContract.Folder.Step
import ServiceContract.Generation.Artifact

/-!
# Artifacts in a folder

A file is replaced whole: its text is written under another name first, which is then changed to its
own. A folder is verified against the artifacts of a run; files that only an earlier run of the same
base name can have left are noticed.
-/

namespace ServiceContract

/-- The name a file has until it is complete. -/
def temporaryName (run : Nat) (path : String) : String :=
  "." ++ path ++ "." ++ toString run ++ ".tmp"

/-- Puts one artifact in its place. `perform` says whether a step succeeds. When one fails, what was
written is taken away. -/
def Artifact.place {m : Type → Type} [Monad m] (perform : Step → m Bool) (run : Nat)
    (a : Artifact) : m (Except GenerationError Unit) := do
  let temporary := temporaryName run a.path
  if ← perform (.write temporary a.content) then
    if ← perform (.rename temporary a.path) then return .ok ()
  let _ ← perform (.remove temporary)
  return .error (.io ("write " ++ a.path))

/-- Puts artifacts in their places, up to the first that cannot be. -/
def placeAll {m : Type → Type} [Monad m] (perform : Step → m Bool) (run : Nat) :
    List Artifact → m (Except GenerationError Unit)
  | [] => return .ok ()
  | a :: rest => do
    match ← a.place perform run with
    | .ok () => placeAll perform run rest
    | .error e => return .error e

/-- Checks that a folder holds an artifact as a file with just its bytes. -/
def Artifact.verify (f : Folder) (a : Artifact) : Except GenerationError Unit :=
  if !Folder.fits a.path then .error (.io a.path)
  else match f.get? a.path with
    | none => .error (.missingArtifact a.path)
    | some (.file content) =>
      if content.data = a.content.data then .ok () else .error (.artifactMismatch a.path)
    | some _ => .error (.outputPath a.path)

/-- The names in a folder that a run of a base name could have left, but this one did not. -/
def staleNames (f : Folder) (baseName : String) (artifacts : List Artifact) : List String :=
  f.names.filter fun name =>
    belongsToRun baseName name && !artifacts.any fun a => a.path = name

/-- Checks that a folder holds the artifacts of a run, and nothing else that belongs to it. -/
def verifyAll (f : Folder) (baseName : String) (artifacts : List Artifact) :
    Except GenerationError Unit := do
  artifacts.forM (Artifact.verify f)
  match staleNames f baseName artifacts with
  | [] => return ()
  | name :: _ => throw (.unexpectedArtifact name)

end ServiceContract
