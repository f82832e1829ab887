import ServiceContract.Specification.Payload

/-!
# Declarations

Data types, and the endpoints with their operations.
-/

namespace ServiceContract

/-- A declared data type. -/
structure TypeDeclaration where
  name : String
  content : Payload
deriving DecidableEq

/-- The methods an operation may be called by. -/
inductive Method where
  | get
  | put
  | post
  | patch
  | delete
deriving DecidableEq

namespace Method

/-- The name of a method in a document. -/
def keyword : Method → String
  | get => "get"
  | put => "put"
  | post => "post"
  | patch => "patch"
  | delete => "delete"

/-- Whether a call by this method carries a body. -/
def hasBody : Method → Bool
  | put | post | patch => true
  | get | delete => false

end Method

structure OperationDeclaration where
  name : String
  description : Option String
  method : Option Method
  request : Option Payload
  response : Option Payload
deriving DecidableEq

structure EndpointDeclaration where
  name : String
  description : Option String
  operations : List OperationDeclaration
deriving DecidableEq

end ServiceContract
