import ServiceContract.Codec.Configuration
import ServiceContract.Toml.Reader

/-!
# Reading settings

Settings are written in TOML. They are used only if they are usable.
-/

namespace ServiceContract

/-- Why there are no settings. -/
inductive ConfigurationError where
  /-- The file cannot be read. -/
  | io
  /-- The text is no TOML. -/
  | malformed
  /-- The document does not describe settings. -/
  | refused (fault : Codec.Fault)
  | unusable (reason : Unusable)
deriving DecidableEq

def ConfigurationError.message : ConfigurationError → String
  | io => "config io error: "
  | malformed => "config parse error: "
  | refused fault => "config parse error: " ++ fault.message .toml
  | unusable reason => reason.message

namespace Configuration

/-- Settings that can be used. -/
def checked (c : Configuration) : Except ConfigurationError Configuration :=
  match c.check with
  | .ok () => .ok c
  | .error reason => .error (.unusable reason)

/-- The settings that a TOML text writes. -/
def ofToml (text : String) : Except ConfigurationError Configuration :=
  match Toml.read? text with
  | none => .error .malformed
  | some v => match decode .toml v with
    | .ok c => c.checked
    | .error fault => .error (.refused fault)

/-- The most bytes of a file of settings. -/
def maxBytes : Nat := 1024 * 1024

/-- The settings in a file. -/
def ofContent (content : ByteArray) : Except ConfigurationError Configuration :=
  if maxBytes < content.size then .error (.unusable .fileTooLarge)
  else match String.fromUTF8? content with
    | none => .error (.unusable .notUtf8)
    | some text => ofToml text

/-- The file that is read if no other is named, and it is there. -/
def defaultPath : String := "contractgen.toml"

/-- The variable that names a file. -/
def pathVariable : String := "CONTRACTGEN_CONFIG"

/-- The path of the file of settings: the one that is given, or else that of the variable, or else
the default one if there is such a file. -/
def resolvePath (given named : Option String) (defaultExists : Bool) :
    Except ConfigurationError (Option String) :=
  match given, named with
  | some path, _ => .ok (some path)
  | none, some path =>
    if maxPathLength < path.utf8ByteSize then .error (.unusable .longPath) else .ok (some path)
  | none, none => .ok (if defaultExists then some defaultPath else none)

def checkPath (path : String) : Except ConfigurationError Unit :=
  if maxPathLength < path.utf8ByteSize then .error (.unusable .longPath)
  else if partsFit path then .ok ()
  else .error (.unusable .longPathPart)

/-- An example of a file of settings. It writes the defaults. -/
def exampleText : String := "[output]
dir = \"generated\"
# base_name = \"shop\"

[validation]
max_name_length = 255
max_description_length = 1050
allowed_url_schemes = [\"http\", \"https\"]
fail_on_findings = false

[openapi]
default_version = \"1.0\"
run_validator = true

[openslo]
threshold_objectives = \"placeholder\"

[logging]
level = \"info\"
"

end Configuration

end ServiceContract
