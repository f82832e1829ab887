import ServiceContract.Error
import ServiceContract.Interface
import ServiceContract.Value

/-!
# The contract document

An interface description: every registered type is a schema under its name, in order of
registration, and every operation stands at `/<endpoint>/<operation>` under its method.
-/

namespace ServiceContract.Contract

structure Heading where
  title : String
  description : Option String
  version : String
deriving DecidableEq

def fileName (baseName : String) : String := baseName ++ ".yaml"

/-- A reference to the schema of a type. -/
def schemaRef (name : String) : Value := .map [("$ref", .text ("#/components/schemas/" ++ name))]

def jsonContent (name : String) : Value :=
  .map [("application/json", .map [("schema", schemaRef name)])]

def primitiveSchema : Primitive → Value
  | .bool => .map [("type", .text "boolean")]
  | .int => .map [("type", .text "integer"), ("format", .text "int32")]
  | .long => .map [("type", .text "integer"), ("format", .text "int64")]
  | .double => .map [("type", .text "number"), ("format", .text "double")]
  | .string => .map [("type", .text "string")]
  | .raw => .map [("type", .text "string"), ("format", .text "binary")]
  | .void => .map []

/-- A schema whose values may be null. A reference cannot be added to, so it is put into `allOf`. -/
def nullable (schema : Value) : Value :=
  match schema with
  | .map entries =>
    match Entries.get? "$ref" entries with
    | some _ => .map [("allOf", .list [schema]), ("nullable", .bool true)]
    | none => .map (Entries.put "nullable" (.bool true) entries)
  | v => v

def fieldSchema (r : Registry) (field : Field) : Except ModelError Value := do
  let base ← match field.type with
    | .primitive p => pure (primitiveSchema p)
    | .named h => schemaRef <$> r.nameOf h
  let schema := if field.isList then .map [("type", .text "array"), ("items", base)] else base
  return if field.isNullable then nullable schema else schema

/-- The schemas of fields, each under the field's name. -/
def properties (r : Registry) : List Field → Except ModelError (List (String × Value))
  | [] => return []
  | field :: rest => do
    let schema ← fieldSchema r field
    return (field.name, schema) :: (← properties r rest)

def typeSchema (r : Registry) (t : DataType) : Except ModelError Value := do
  let members ← properties r t.fields
  let required := (t.fields.filter fun f => !f.isNullable).map fun f => Value.text f.name
  return .record [("type", some (.text "object")),
    ("properties", some (.map (Entries.ofList members))),
    ("required", if required.isEmpty then none else some (.list required))]

/-- The schemas of types, each under the type's name. -/
def schemas (r : Registry) : List DataType → Except ModelError (List (String × Value))
  | [] => return []
  | t :: rest => do
    let schema ← typeSchema r t
    return (t.name, schema) :: (← schemas r rest)

/-- The answer of an operation. The substitute for a missing response has no content. -/
def response (name : String) : Value :=
  if name = voidResponseName then .map [("description", .text "no content")]
  else .map [("description", .text "successful operation"), ("content", jsonContent name)]

/-- The body of a request: that of the last parameter whose type has fields, if the method carries
a body. -/
def requestBody (r : Registry) (method : Method) :
    List OperationParameter → Except ModelError (Option Value)
  | [] => return none
  | p :: rest => do
    if !method.hasBody then return none
    let t ← r.dataType p.type
    let later ← requestBody r method rest
    let own := if t.fields.isEmpty then none
      else some (.map [("required", .bool true), ("content", jsonContent t.name)])
    return later.or own

def operation (r : Registry) (endpoint : Endpoint) (o : Operation) : Except ModelError Value := do
  let body ← requestBody r o.method o.parameters
  let name ← r.nameOf o.response
  return .record [("tags", some (.list [.text endpoint.name])),
    ("summary", o.description.map .text), ("operationId", some (.text o.name)),
    ("requestBody", body), ("responses", some (.map [("200", response name)]))]

def path (endpoint : Endpoint) (o : Operation) : String := "/" ++ endpoint.name ++ "/" ++ o.name

/-- The paths of a contract, each with its methods. -/
abbrev Paths := List (String × List (Method × Value))

def Paths.at (paths : Paths) (path : String) : List (Method × Value) :=
  (paths.lookup path).getD []

/-- Adds a method behind the others of a path; a new path comes last. -/
def Paths.add (path : String) (method : Method) (v : Value) : Paths → Paths
  | [] => [(path, [(method, v)])]
  | (p, methods) :: rest =>
    if p = path then (p, methods ++ [(method, v)]) :: rest
    else (p, methods) :: Paths.add path method v rest

def addOperation (r : Registry) (paths : Paths) (endpoint : Endpoint) (o : Operation) :
    Except GenerationError Paths := do
  let path := path endpoint o
  if ((paths.at path).lookup o.method).isSome then throw (.duplicateOperation o.method path)
  match operation r endpoint o with
  | .ok v => return paths.add path o.method v
  | .error e => throw (.model e)

/-- Every operation beside its endpoint, in order. -/
def operations (endpoints : List Endpoint) : List (Endpoint × Operation) :=
  endpoints.flatMap fun e => e.operations.map (e, ·)

/-- The paths of all operations. -/
def paths (model : Model) : Except GenerationError Paths :=
  (operations model.endpoints).foldlM (fun done (e, o) => addOperation model.registry done e o) []

def Paths.toValue (paths : Paths) : Value :=
  .map (paths.map fun (path, methods) =>
    (path, .map (methods.map fun (method, v) => (method.keyword, v))))

def tag (endpoint : Endpoint) : Value :=
  .record [("name", some (.text endpoint.name)),
    ("description", endpoint.description.map .text)]

def info (heading : Heading) : Value :=
  .record [("title", some (.text heading.title)), ("description", heading.description.map .text),
    ("version", some (.text heading.version))]

def render (heading : Heading) (model : Model) : Except GenerationError Value := do
  let paths ← paths model
  match schemas model.registry model.registry.types with
  | .error e => throw (.model e)
  | .ok members =>
    return .map [("openapi", .text "3.0.1"), ("info", info heading),
      ("tags", .list (model.endpoints.map tag)), ("paths", paths.toValue),
      ("components", .map [("schemas", .map (Entries.ofList members))])]

/-- The key under which a contract names the file of its agreements. -/
def agreementKey : String := "x-external-sla-file"

/-- The key under which a contract names the files of its objectives. -/
def objectivesKey : String := "x-openslo"

/-- Adds the names of the other files of a run to the information of a contract. -/
def attach (agreementFile : Option String) (objectiveFiles : List String) (document : Value) :
    Value :=
  match document with
  | .map entries =>
    match Entries.get? "info" entries with
    | some (.map members) =>
      let members := match agreementFile with
        | some file => Entries.put agreementKey (.map [("$ref", .text ("./" ++ file))]) members
        | none => members
      let members := if objectiveFiles.isEmpty then members
        else Entries.put objectivesKey (.list (objectiveFiles.map .text)) members
      .map (Entries.put "info" (.map members) entries)
    | _ => document
  | _ => document

end ServiceContract.Contract
