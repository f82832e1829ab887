/-!
# Arguments of the command line

Arguments are read from left to right, and the first that is wrong decides. An option is given once
at most on each side of the command; for one that may stand on both sides the later one counts.
-/

namespace ServiceContract

/-- How findings are listed. -/
inductive ListFormat where
  | text
  | json
deriving DecidableEq

inductive Command where
  | generate (input : String) (output : Option String)
  | check (input : String) (output : Option String)
  | lint (input : String) (format : ListFormat)
deriving DecidableEq

/-- A command with the path of its settings. -/
structure Invocation where
  settings : Option String
  command : Command
deriving DecidableEq

/-- What arguments ask for. -/
inductive Demand where
  | version
  | help
  | run (i : Invocation)
deriving DecidableEq

inductive CommandName where
  | generate
  | check
  | lint
deriving DecidableEq

namespace CommandName

def ofText? : String → Option CommandName
  | "generate" => some generate
  | "check" => some check
  | "lint" => some lint
  | _ => none

end CommandName

/-- The options that have a value. -/
inductive OptionName where
  | config
  | input
  | out
  | format
deriving DecidableEq

namespace OptionName

/-- The option of a name, where it can be given: before a command, or behind one. -/
def ofText? (command : Option CommandName) : String → Option OptionName
  | "config" => some config
  | "input" => command.map fun _ => input
  | "out" => if command.any (· ≠ .lint) then some out else none
  | "format" => if command = some .lint then some format else none
  | _ => none

/-- Whether the option takes a value. Paths are not empty. -/
def accepts : OptionName → String → Bool
  | format, value => value = "text" || value = "json"
  | _, value => value ≠ ""

end OptionName

/-- What has been read: the options before the command, the command, and the options behind it. -/
structure ArgumentState where
  settings : Option String := none
  command : Option CommandName := none
  values : List (OptionName × String) := []

namespace ArgumentState

/-- Sets an option that has not been given yet. -/
def set (s : ArgumentState) (option : OptionName) (value : String) : Option ArgumentState :=
  if !option.accepts value then none
  else match s.command with
    | none => if s.settings.isSome then none else some { s with settings := some value }
    | some _ =>
      if (s.values.lookup option).isSome then none
      else some { s with values := (option, value) :: s.values }

/-- What the arguments ask for, if nothing is missing. -/
def finish (s : ArgumentState) : Option Demand := do
  let input := s.values.lookup .input
  let settings := (s.values.lookup .config).or s.settings
  match s.command with
  | some .generate => return .run ⟨settings, .generate (← input) (s.values.lookup .out)⟩
  | some .check => return .run ⟨settings, .check (← input) (s.values.lookup .out)⟩
  | some .lint =>
    let format := if s.values.lookup .format = some "json" then ListFormat.json else .text
    return .run ⟨settings, .lint (← input) format⟩
  | none => none

end ArgumentState

/-- The name of an option, and the value behind an equals sign. -/
def splitOption (argument : List Char) : String × Option String :=
  let name := String.ofList (argument.takeWhile (· ≠ '='))
  match argument.dropWhile (· ≠ '=') with
  | [] => (name, none)
  | _ :: value => (name, some (String.ofList value))

/-- Whether an argument can be the value of the option before it. -/
def isValue (argument : String) : Bool := !argument.startsWith "-" || argument = "-"

/-- The help that is asked for by name. -/
def helpOn : List String → Option Demand
  | [] | ["help"] => some .help
  | [name] => (CommandName.ofText? name).map fun _ => .help
  | _ => none

def readArguments (s : ArgumentState) : List String → Option Demand
  | [] => s.finish
  | argument :: rest =>
    match argument.toList with
    | ['-', '-'] => if rest.isEmpty then s.finish else none
    | '-' :: '-' :: cs =>
      let (name, value) := splitOption cs
      if name = "help" then if value.isNone then some .help else none
      else if name = "version" then
        if value.isNone && s.command.isNone then some .version else none
      else match OptionName.ofText? s.command name, value, rest with
        | none, _, _ => none
        | some option, some value, rest =>
          match s.set option value with
          | none => none
          | some s => readArguments s rest
        | some option, none, value :: rest =>
          if isValue value then
            match s.set option value with
            | none => none
            | some s => readArguments s rest
          else none
        | some _, none, [] => none
    | '-' :: 'h' :: _ => some .help
    | '-' :: 'V' :: _ => if s.command.isNone then some .version else none
    | '-' :: _ => none
    | _ =>
      match s.command with
      | some _ => none
      | none =>
        if argument = "help" then helpOn rest
        else match CommandName.ofText? argument with
          | some command => readArguments { s with command := some command } rest
          | none => none

/-- What arguments ask for; nothing if they are wrong. -/
def Demand.ofArguments? (arguments : List String) : Option Demand := readArguments {} arguments

end ServiceContract
