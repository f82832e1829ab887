import ServiceContract.Folder.Path

/-!
# Steps in a folder

What writing does to a folder, one step at a time.
-/

namespace ServiceContract

/-- A step that writing takes in a folder. -/
inductive Step where
  | write (name : String) (content : ByteArray)
  | rename (source target : String)
  | remove (name : String)

namespace Folder

/-- Writes to a name. A file that is there is written over, also one that links lead to. -/
def write? (f : Folder) (name : String) (content : ByteArray) : Option Folder :=
  match f.resolve true name with
  | .ok (.free here last) => some (f.modify (put last (.file content)) here)
  | .ok (.entry here (.file _)) =>
    here.getLast?.map fun last => f.modify (put last (.file content)) here.dropLast
  | _ => none

/-- Puts what a name stands for, unless that is a folder, under another name in place of what is
there. Nothing is put in the place of a folder. -/
def rename? (f : Folder) (source target : String) : Option Folder :=
  match f.get? source, f.get? target with
  | none, _ | some (.folder _), _ | _, some (.folder _) => none
  | some e, _ => if fits target then some ((f.erase source).put target e) else none

/-- Takes away what a name stands for, unless that is a folder. -/
def remove? (f : Folder) (name : String) : Option Folder :=
  match f.get? name with
  | none | some (.folder _) => none
  | some _ => some (f.erase name)

/-- The folder after a step, unless the step fails; then nothing has changed. -/
def perform? (f : Folder) : Step → Option Folder
  | .write name content => f.write? name content
  | .rename source target => f.rename? source target
  | .remove name => f.remove? name

end Folder

end ServiceContract
