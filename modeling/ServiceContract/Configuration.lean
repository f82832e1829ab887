import ServiceContract.Document.Reliability
import ServiceContract.Text.Path

/-!
# Configuration

The settings of a run, their defaults, and what makes them unusable.
-/

namespace ServiceContract

/-- Where documents are written. -/
structure OutputSettings where
  directory : String := "generated"
  baseName : Option String := none
deriving DecidableEq

/-- The limits that findings are measured by. -/
structure FindingSettings where
  maxNameLength : Nat := 255
  maxDescriptionLength : Nat := 1050
  allowedSchemes : List String := ["http", "https"]
  failOnFindings : Bool := false
deriving DecidableEq

structure ContractSettings where
  defaultVersion : String := "1.0"
  runValidator : Bool := true
deriving DecidableEq

structure ReliabilitySettings where
  thresholdObjectives : ThresholdObjectives := .placeholder
deriving DecidableEq

structure LoggingSettings where
  level : String := "info"
deriving DecidableEq

structure Configuration where
  output : OutputSettings := {}
  validation : FindingSettings := {}
  contract : ContractSettings := {}
  reliability : ReliabilitySettings := {}
  logging : LoggingSettings := {}
deriving DecidableEq

instance : Inhabited Configuration := ⟨{}⟩

/-- Why settings cannot be used. -/
inductive Unusable where
  | emptyDirectory
  | longDirectory
  | longDirectoryPart
  | emptyBaseName
  | longBaseName
  | baseNameNotPlain
  | noNameLength
  | noDescriptionLength
  | noSchemes
  | invalidScheme (scheme : String)
  | emptyDefaultVersion
  | unknownLevel
  | longPath
  | longPathPart
  | fileTooLarge
  | notUtf8
deriving DecidableEq

def logLevels : List String := ["trace", "debug", "info", "warn", "error"]

def Unusable.message (u : Unusable) : String :=
  "invalid config: " ++ match u with
    | emptyDirectory => "output.dir must be non-empty"
    | longDirectory => "output.dir exceeds max length"
    | longDirectoryPart => "output.dir path component too long"
    | emptyBaseName => "output.base_name must be non-empty"
    | longBaseName => "output.base_name exceeds max length"
    | baseNameNotPlain => "output.base_name must be a plain file name"
    | noNameLength => "validation.max_name_length must be greater than zero"
    | noDescriptionLength => "validation.max_description_length must be greater than zero"
    | noSchemes => "validation.allowed_url_schemes must be non-empty"
    | invalidScheme scheme => "validation.allowed_url_schemes contains invalid scheme: " ++ scheme
    | emptyDefaultVersion => "openapi.default_version must be non-empty"
    | unknownLevel => "logging.level must be one of " ++ ", ".intercalate logLevels
    | longPath => "config path exceeds max length"
    | longPathPart => "config path component too long"
    | fileTooLarge => "config file exceeds size limit"
    | notUtf8 => "config file must be utf-8"

/-- The most bytes of a path. -/
def maxPathLength : Nat := 4096

/-- The most bytes of a part of a path. -/
def maxPartLength : Nat := 255

/-- Fails with a reason unless a condition holds. -/
def require (condition : Bool) (reason : Unusable) : Except Unusable Unit :=
  if condition then .ok () else .error reason

/-- Whether no part of a path is too long. -/
def partsFit (path : String) : Bool :=
  (Text.pathParts path).all fun part => part.utf8ByteSize ≤ maxPartLength

/-- A name that is no path: one part, and no step to a directory. -/
def isPlainName (name : String) : Bool :=
  name ≠ "." && name ≠ ".." && name ≠ "" && !name.contains '/' && !name.contains '\\'

namespace OutputSettings

/-- A base name is a plain name within the bounds of a file name. -/
def checkBaseName (name : String) : Except Unusable Unit := do
  let name := Text.trim name
  require (name ≠ "") .emptyBaseName
  require (name.utf8ByteSize ≤ maxPartLength) .longBaseName
  require (isPlainName name) .baseNameNotPlain

def check (s : OutputSettings) : Except Unusable Unit := do
  let directory := Text.trim s.directory
  require (directory ≠ "") .emptyDirectory
  require (directory.utf8ByteSize ≤ maxPathLength) .longDirectory
  require (partsFit directory) .longDirectoryPart
  match s.baseName with
  | none => return ()
  | some name => checkBaseName name

end OutputSettings

/-- A scheme starts with a letter and goes on with letters, digits, plus, minus and dot. -/
def isScheme (scheme : String) : Bool :=
  scheme.toList.head?.any Char.isAlpha &&
    scheme.toList.all fun c => c.isAlphanum || c = '+' || c = '-' || c = '.'

/-- Every scheme has to be one. -/
def checkSchemes : List String → Except Unusable Unit
  | [] => return ()
  | scheme :: rest => do
    require (isScheme scheme) (.invalidScheme scheme)
    checkSchemes rest

def FindingSettings.check (s : FindingSettings) : Except Unusable Unit := do
  require (s.maxNameLength ≠ 0) .noNameLength
  require (s.maxDescriptionLength ≠ 0) .noDescriptionLength
  require (!s.allowedSchemes.isEmpty) .noSchemes
  checkSchemes s.allowedSchemes

def ContractSettings.check (s : ContractSettings) : Except Unusable Unit :=
  require (!Text.isBlank s.defaultVersion) .emptyDefaultVersion

def LoggingSettings.check (s : LoggingSettings) : Except Unusable Unit :=
  require (logLevels.contains (s.level.map Char.toLower)) .unknownLevel

/-- Whether the settings can be used. -/
def Configuration.check (c : Configuration) : Except Unusable Unit := do
  c.output.check
  c.validation.check
  c.contract.check
  c.logging.check

/-- The base name of a run: the configured one, or else that of the input file. -/
def OutputSettings.baseNameFor (s : OutputSettings) (input : String) : String :=
  match (s.baseName.map Text.trim).filter (· ≠ "") with
  | some name => name
  | none => ((Text.fileStem input).filter (· ≠ "")).getD "contract"

end ServiceContract
