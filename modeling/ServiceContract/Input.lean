import ServiceContract.Codec.Specification
import ServiceContract.Error
import ServiceContract.Json.Reader
import ServiceContract.Text.Path
import ServiceContract.Yaml.Reader

/-!
# Reading specifications

A specification is written as JSON or as YAML. JSON is decoded as it is read, so that a key that is
repeated is noticed; YAML becomes a tree first.
-/

namespace ServiceContract

open Codec

namespace Specification

def ofTree (v : Value) : Except GenerationError Specification :=
  match decode .tree v with
  | .ok s => .ok s
  | .error fault => .error (.input (fault.message .tree))

/-- How deep the collections of JSON may stand in one another. -/
def maxDepth : Nat := 127

/-- Reads JSON. Members that mean nothing to a specification are passed over: there the depth does
not count, nor whether numbers and strings have a value. -/
def readJson (text : String) : Except GenerationError Specification :=
  match Json.read? (some maxDepth) text with
  | some v => match decode .jsonText v with
    | .ok s => .ok s
    | .error fault => .error (.input (fault.message .jsonText))
  | none => match (Json.readLoosely? maxDepth text).map (decode .jsonText) with
    | some (.ok s) => .ok s
    | _ => .error .inputSyntax

def readYaml (text : String) : Except GenerationError Specification :=
  match Yaml.read? text with
  | none => .error .inputSyntax
  | some v => ofTree v

/-- The most bytes of a specification. -/
def maxBytes : Nat := 16 * 1024 * 1024

/-- Reads the content of a file. Its name says which form it has. -/
def readFile (path : String) (content : ByteArray) : Except GenerationError Specification :=
  if maxBytes < content.size then
    .error (.input (path ++ " exceeds " ++ toString maxBytes ++ " bytes"))
  else match String.fromUTF8? content with
    | none => .error (.input (path ++ " must be utf-8"))
    | some text =>
      if (Text.extension path).any fun e => e.map Char.toLower = "json" then readJson text
      else readYaml text

end Specification

end ServiceContract
