import ServiceContract.TypeGraph.Builder

/-!
# The interface of a service

Endpoints and operations over registered types. Every operation takes one parameter and returns one
type; where a payload is not declared, a type without fields stands in for it.
-/

namespace ServiceContract

open TypeGraph

structure OperationParameter where
  name : String
  type : Handle
deriving DecidableEq

/-- An operation over registered types. -/
structure Operation where
  name : String
  description : Option String
  method : Method
  parameters : List OperationParameter
  response : Handle
deriving DecidableEq

/-- An endpoint over registered types. -/
structure Endpoint where
  name : String
  description : Option String
  operations : List Operation
deriving DecidableEq

/-- The name of the type that stands in for a response. -/
def voidResponseName : String := "VoidResponse"

/-- The name of the type that stands in for the request of an operation. -/
def requestMessageName (operation : String) : String :=
  Text.capitalize operation ++ "RequestMessage"

/-- The name of an inline request of an operation. -/
def requestTypeName (operation : String) : String := operation ++ "RequestDataType"

/-- The name of an inline response of an operation. -/
def responseTypeName (operation : String) : String :=
  Text.capitalize operation ++ "ResponseDataType"

/-- The type of a payload: the type it refers to, or the one made of it under `name`, wrapped as
often as it occurs. -/
def payloadType (name : String) (payload : Payload) : Build Handle := do
  let base ← match payload.reference? with
    | some r => ask (·.resolve r.target)
    | none => synthesize name payload
  wrap base (.ofPayload (some payload))

def requestType (operation : OperationDeclaration) : Build Handle :=
  match operation.request with
  | some payload => payloadType (requestTypeName operation.name) payload
  | none => typeFor (requestMessageName operation.name)

def responseType (operation : OperationDeclaration) : Build Handle :=
  match operation.response with
  | some payload => payloadType (responseTypeName operation.name) payload
  | none => typeFor voidResponseName

/-- An operation over registered types; its method is `post` unless declared. -/
def convertOperation (operation : OperationDeclaration) : Build Operation := do
  let request ← requestType operation
  let response ← responseType operation
  return ⟨operation.name, operation.description, operation.method.getD .post,
    [⟨"input", request⟩], response⟩

def convertOperations : List OperationDeclaration → Build (List Operation)
  | [] => return []
  | o :: rest => do
    let operation ← convertOperation o
    return operation :: (← convertOperations rest)

/-- An endpoint over registered types. -/
def convertEndpoint (endpoint : EndpointDeclaration) : Build Endpoint := do
  let operations ← convertOperations endpoint.operations
  return ⟨endpoint.name, endpoint.description, operations⟩

def convertEndpoints : List EndpointDeclaration → Build (List Endpoint)
  | [] => return []
  | e :: rest => do
    let endpoint ← convertEndpoint e
    return endpoint :: (← convertEndpoints rest)

/-- The registered types of a service and its endpoints. -/
structure Model where
  registry : Registry
  endpoints : List Endpoint
deriving DecidableEq

/-- Registers everything that is declared, and the endpoints after it. -/
def buildInterface (types : List TypeDeclaration) (endpoints : List EndpointDeclaration) :
    Build (List Endpoint) := do
  declareAll types
  convertEndpoints endpoints

def Model.build (types : List TypeDeclaration) (endpoints : List EndpointDeclaration) :
    Except ModelError Model :=
  match (buildInterface types endpoints).runFrom .empty with
  | (.ok endpoints, graph) => .ok ⟨graph.registry, endpoints⟩
  | (.error e, _) => .error e

end ServiceContract
