import ServiceContract.Value

/-!
# Schemas

What a document has to look like. A schema is a list of keywords, each of which makes its own demand
on the values it applies to, or the name of one that is defined aside.
-/

namespace ServiceContract

inductive CharacterClass where
  | digit
  | nameCharacter
deriving DecidableEq

namespace CharacterClass

/-- Whether a character is of the kind. -/
def contains : CharacterClass → Char → Bool
  | digit, c => c.isDigit
  | nameCharacter, c => c.isAlphanum || c ∈ ['.', '_', '-']

/-- How a pattern writes the kind. -/
def source : CharacterClass → String
  | digit => "\\d"
  | nameCharacter => "[A-Za-z0-9._-]"

/-- How a violation shows the kind. -/
def shown : CharacterClass → String
  | digit => "[0-9]"
  | nameCharacter => "[A-Za-z0-9._-]"

end CharacterClass

/-- A demand on the characters of a text: how it begins, and perhaps what the rest is made of, of
which there has to be something. -/
structure Pattern where
  beginning : String
  rest : Option CharacterClass := none
deriving DecidableEq

namespace Pattern

/-- Whether a text satisfies a pattern. -/
def holds (p : Pattern) (s : String) : Bool :=
  let b := p.beginning.toList
  b.isPrefixOf s.toList && match p.rest with
    | none => true
    | some k => let rest := s.toList.drop b.length; !rest.isEmpty && rest.all k.contains

/-- A pattern as it is written; `kind` writes the kind of its characters. -/
def write (kind : CharacterClass → String) (p : Pattern) : String :=
  let escaped := p.beginning.toList.flatMap fun c => if c = '.' then ['\\', '.'] else [c]
  "^" ++ String.ofList escaped ++ match p.rest with
    | none => ""
    | some k => kind k ++ "+$"

end Pattern

/-- The types that schemas speak of. -/
inductive JsonType where
  | object
  | array
  | string
  | boolean
deriving DecidableEq

namespace JsonType

def keyword : JsonType → String
  | object => "object"
  | array => "array"
  | string => "string"
  | boolean => "boolean"

def holds : JsonType → Value → Bool
  | object, .map _ => true
  | array, .list _ => true
  | string, .text _ => true
  | boolean, .bool _ => true
  | _, _ => false

end JsonType

inductive KeyRule where
  | pattern (p : Pattern)
  | oneOf (names : List String)
deriving DecidableEq

/-- The schemas that are defined aside. -/
inductive Definition where
  | pathItem
  | operation
  | content
  | typeSchema
deriving DecidableEq

def Definition.name : Definition → String
  | pathItem => "pathItem"
  | operation => "operation"
  | content => "content"
  | typeSchema => "schema"

mutual

/-- A demand on values. -/
inductive Schema where
  | anything
  | defined (d : Definition)
  | demands (keywords : List Keyword)

/-- One demand. Those on strings, lists and maps do not apply to other values. -/
inductive Keyword where
  | type (t : JsonType)
  | oneOf (names : List String)
  | minLength (n : Nat)
  | pattern (p : Pattern)
  | items (s : Schema)
  | uniqueItems
  | required (keys : List String)
  | minProperties (n : Nat)
  | properties (schemas : List (String × Schema))
  /-- Keys that match the pattern are known, and their values free. -/
  | patternProperties (p : Pattern)
  | propertyNames (rule : KeyRule)
  /-- The schema of values under keys that are not known. -/
  | additional (s : Schema)
  /-- There are no keys but those that are known. -/
  | closed
  /-- If the first key is there, the others have to be there too. -/
  | dependentRequired (key : String) (keys : List String)

end

/-- Whether a keyword makes a key known. -/
def Keyword.knows (key : String) : Keyword → Bool
  | properties schemas => schemas.any (·.1 = key)
  | patternProperties p => p.holds key
  | _ => false

/-- The schema of the value under a key, beside the other keywords of a schema. -/
def Keyword.memberSchema? (siblings : List Keyword) (key : String) : Keyword → Option Schema
  | properties schemas => schemas.lookup key
  | additional s => if siblings.any (·.knows key) then none else some s
  | _ => none

/-! ## Schemas as documents -/

def nameList (names : List String) : Value := .list (names.map .text)

def KeyRule.encode : KeyRule → Value
  | pattern p => .map [("pattern", .text (p.write CharacterClass.source))]
  | oneOf names => .map [("enum", nameList names)]

mutual

def Schema.encode : Schema → Value
  | .anything => .bool true
  | .defined d => .map [("$ref", .text ("#/$defs/" ++ d.name))]
  | .demands keywords => .map (encodeKeywords keywords)
termination_by structural s => s

def Keyword.encode : Keyword → String × Value
  | .type t => ("type", .text t.keyword)
  | .oneOf names => ("enum", nameList names)
  | .minLength n => ("minLength", .int n)
  | .pattern p => ("pattern", .text (p.write CharacterClass.source))
  | .items s => ("items", s.encode)
  | .uniqueItems => ("uniqueItems", .bool true)
  | .required keys => ("required", nameList keys)
  | .minProperties n => ("minProperties", .int n)
  | .properties schemas => ("properties", .map (encodeProperties schemas))
  | .patternProperties p =>
    ("patternProperties", .map [(p.write CharacterClass.source, .bool true)])
  | .propertyNames rule => ("propertyNames", rule.encode)
  | .additional s => ("additionalProperties", s.encode)
  | .closed => ("additionalProperties", .bool false)
  | .dependentRequired key keys => ("dependentRequired", .map [(key, nameList keys)])
termination_by structural k => k

/-- The members that keywords are written as. -/
def encodeKeywords : List Keyword → List (String × Value)
  | [] => []
  | k :: rest => k.encode :: encodeKeywords rest
termination_by structural ks => ks

/-- The members that schemas of keys are written as. -/
def encodeProperties : List (String × Schema) → List (String × Value)
  | [] => []
  | (key, s) :: rest => (key, s.encode) :: encodeProperties rest
termination_by structural ps => ps

end

end ServiceContract
