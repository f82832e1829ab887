import ServiceContract.CommandLine.Arguments
import ServiceContract.Storage

/-!
# The command line

What each command does, and what it reports.
-/

namespace ServiceContract

/-- What a run of the program ends with. -/
structure Report where
  exitCode : Nat
  /-- The lines of the output. -/
  output : List String := []
  /-- The lines of the messages. -/
  messages : List String := []
deriving DecidableEq

namespace Report

/-- A run that ends with an error. -/
def failure (message : String) : Report := { exitCode := 1, messages := ["error: " ++ message] }

/-- Arguments that are wrong. -/
def usage : Report :=
  { exitCode := 2, messages := ["error: wrong arguments", "For more information, try '--help'."] }

def version : Report := { exitCode := 0, output := ["contractgen 0.1.0"] }

def help : Report where
  exitCode := 0
  output := ["Generate API, SLA, and SLO contracts", "",
    "Usage: contractgen [--config <PATH>] <COMMAND>", "", "Commands:",
    "  generate --input <PATH> [--out <DIR>]  Generate every artifact for a specification",
    "  check --input <PATH> [--out <DIR>]     Verify that an output directory matches a fresh run",
    "  lint --input <PATH> [--format <text|json>]  Print advisory findings for a specification"]

end Report

def joinPath (folder name : String) : String :=
  if folder = "" || folder.endsWith "/" then folder ++ name else folder ++ "/" ++ name

/-- The lines about findings. -/
def warnings (g : Generation) : List String :=
  (g.findings.map fun f => "warning: " ++ f.line) ++
    g.messages.map fun message => "warning: contract validator: " ++ message

/-- The report on what was written. -/
def Generation.report (g : Generation) (folder : String) : Report :=
  { exitCode := 0, output := g.artifacts.map fun a => joinPath folder a.path,
    messages := warnings g }

def lintReport (format : ListFormat) (failOnFindings : Bool) (findings : List Finding) : Report :=
  { exitCode := if failOnFindings && !findings.isEmpty then 1 else 0,
    output := match format with
      | .text => findings.map Finding.line
      | .json => [Json.indented (.list (findings.map Finding.encode))] }

section

variable {m : Type → Type} [Monad m] (storage : Storage m) (run : Nat) (c : Configuration)

/-- Does what a command asks for. -/
def Command.perform : Command → m Report
  | generate input output => do
    match ← Specification.load storage input with
    | .error e => return .failure e.message
    | .ok s =>
      let folder := output.getD c.output.directory
      match ← s.writeTo storage c (c.output.baseNameFor input) folder run with
      | .error e => return .failure e.message
      | .ok g => return g.report folder
  | check input output => do
    match ← Specification.load storage input with
    | .error e => return .failure e.message
    | .ok s =>
      let folder := output.getD c.output.directory
      match ← s.verifyIn storage c (c.output.baseNameFor input) folder with
      | .error e => return .failure e.message
      | .ok () => return { exitCode := 0, output := [folder ++ " is up to date"] }
  | lint input format => do
    match ← Specification.load storage input with
    | .error e => return .failure e.message
    | .ok s =>
      return lintReport format c.validation.failOnFindings (s.findings c.validation)

/-- Runs the program. `named` is the path of settings that the environment names. -/
def runProgram (named : Option String) (arguments : List String) : m Report := do
  match Demand.ofArguments? arguments with
  | none => return .usage
  | some .version => return .version
  | some .help => return .help
  | some (.run i) =>
    match ← Configuration.load storage i.settings named with
    | .error e => return .failure ("config: " ++ e.message)
    | .ok c => i.command.perform storage run c

end

end ServiceContract
