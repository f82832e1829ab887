import ServiceContract.CommandLine

/-!
# The program

Files are kept where the system keeps them.
-/

namespace ServiceContract

/-- Why the system refused something. -/
def pathFault : IO.Error → PathFault
  | .noFileOrDirectory .. => .notFound
  | .inappropriateType .. | .permissionDenied .. => .notAFolder
  | _ => .other

def attempt {α : Type} (action : IO α) : IO (Except PathFault α) := do
  match ← action.toBaseIO with
  | .ok a => return .ok a
  | .error e => return .error (pathFault e)

/-- What a name in a folder stands for, with the content of a file if that is wanted. -/
def entryOf (folder name : String) (isWanted : Bool) : IO Entry := do
  let path := System.mkFilePath [folder, name]
  match (← path.symlinkMetadata).type with
  | .file => return .file (← if isWanted then IO.FS.readBinFile path else pure .empty)
  | .dir => return .folder []
  | _ => return .link ""

def folderAt (path : String) (wanted : List String) : IO Folder := do
  (← (System.mkFilePath [path]).readDir).toList.mapM fun e => do
    return (e.fileName, ← entryOf path e.fileName (wanted.contains e.fileName))

def performStep (folder : String) (step : Step) : IO Unit :=
  match step with
  | .write name content => IO.FS.writeBinFile (System.mkFilePath [folder, name]) content
  | .rename source target =>
    IO.FS.rename (System.mkFilePath [folder, source]) (System.mkFilePath [folder, target])
  | .remove name => IO.FS.removeFile (System.mkFilePath [folder, name])

/-- Makes a folder, with those that it lies in, and tells where it is. -/
def makeFolder (path : String) : IO String := do
  IO.FS.createDirAll path
  let _ ← (System.mkFilePath [path]).readDir
  return (← IO.FS.realPath path).toString

def systemFiles : Storage IO where
  Location := String
  read path := attempt (IO.FS.readBinFile path)
  isFile path := do
    match ← (System.mkFilePath [path]).metadata.toBaseIO with
    | .ok data => return data.type == .file
    | .error _ => return false
  makeFolder path := attempt (makeFolder path)
  view path wanted := attempt (folderAt path wanted)
  perform folder step := do return (← attempt (performStep folder step)).toOption.isSome

end ServiceContract

open ServiceContract

/-- Runs the program on its arguments. -/
def main (arguments : List String) : IO UInt32 := do
  let report ← runProgram systemFiles (← IO.monoNanosNow)
    (← IO.getEnv Configuration.pathVariable) arguments
  report.output.forM IO.println
  report.messages.forM IO.eprintln
  return UInt32.ofNat report.exitCode
