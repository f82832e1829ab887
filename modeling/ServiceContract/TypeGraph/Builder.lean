import ServiceContract.TypeGraph.Registry
import ServiceContract.Text.Capital

/-!
# Building the type graph

Payload structures become registered types. Every step either succeeds or fails, and what it has
registered before it fails stays registered: a step is a computation over a state that outlives its
errors.
-/

namespace ServiceContract

/-- The structure that a synthesized name stands for. -/
inductive Shape where
  | whole (payload : Payload)
  | tree (tree : ParameterTree)
  | list (list : AtomList)
deriving DecidableEq

/-- The registry, and the shapes of the names that were synthesized. -/
structure TypeGraph where
  registry : Registry
  shapes : List (String × Shape)
deriving DecidableEq

namespace TypeGraph

def empty : TypeGraph := ⟨.empty, []⟩

/-- A step of building: its outcome, and the state after it. -/
abbrev Build (α : Type) := ExceptT ModelError (StateM TypeGraph) α

/-- Runs a step from a state. -/
def Build.runFrom {α : Type} (b : Build α) (g : TypeGraph) : Except ModelError α × TypeGraph :=
  (ExceptT.run b).run g

def ask {α : Type} (question : Registry → Except ModelError α) : Build α := do
  match question (← get).registry with
  | .ok a => return a
  | .error e => throw e

/-- Registers a type without fields. -/
def insert (name : String) : Build Handle := do
  let (h, r) ← ask (·.insert name)
  modify ({ · with registry := r })
  return h

def pushField (h : Handle) (field : Field) : Build Unit := do
  let r ← ask (·.pushField h field)
  modify ({ · with registry := r })

/-- The type of a name, registered without fields if it is new. -/
def typeFor (name : String) : Build Handle := do
  match (← get).registry.lookup name with
  | some h => return h
  | none => insert name

/-- What distinguishes a wrapper: the ending of its name, and the name of its field. -/
def wrapperNames : Cardinality → Option (String × String)
  | .scalar => none
  | .list => some ("List", "entries")
  | .optional => some ("Optional", "value")

/-- The type that holds a base type as often as a cardinality says: the base itself, or a type with
one field that is found by its name if it is there. -/
def wrap (base : Handle) (c : Cardinality) : Build Handle := do
  match wrapperNames c with
  | none => return base
  | some (ending, fieldName) =>
    let name := (← ask (·.nameOf base)) ++ ending
    match (← get).registry.lookup name with
    | some h => return h
    | none =>
      let wrapper ← insert name
      pushField wrapper (.ofCardinality fieldName (.named base) c)
      return wrapper

/-- How a synthesized name was obtained. -/
inductive Claim where
  | fresh (handle : Handle)
  | reused (handle : Handle)
deriving DecidableEq

/-- Claims a name for a shape. A name that stands for the same shape already is reused; one that
stands for anything else is a duplicate. -/
def claim (name : String) (shape : Shape) : Build Claim := do
  match (← get).shapes.lookup name with
  | some existing =>
    if existing = shape then .reused <$> ask (·.resolve name) else throw (.duplicateType name)
  | none =>
    if ((← get).registry.lookup name).isSome then throw (.duplicateType name)
    let h ← insert name
    modify fun g => { g with shapes := (name, shape) :: g.shapes }
    return .fresh h

/-- The name of the child at a position, counted from one: its own unless that is blank. -/
def childName (name : Option String) (position : Nat) : String :=
  match name.filter fun n => !Text.isBlank n with
  | some n => n
  | none => "anonymous" ++ toString position

def atomField (position : Nat) (atom : Atom) : Field :=
  .ofCardinality (childName atom.name position) (.primitive atom.base) (.ofMarker atom.card)

def parameterField (position : Nat) : Parameter → Build Field
  | .atomic atom => return atomField position atom
  | .reference r => do
    let target ← ask (·.resolve r.target)
    return .ofCardinality (childName r.name position) (.named target) (.ofMarker r.card)
  | .generic g =>
    return .ofCardinality (childName g.name position) (.primitive .raw) (.ofMarker g.card)

/-- Adds the fields of atoms that follow `position` others. -/
def pushAtoms (target : Handle) (position : Nat) : List Atom → Build Unit
  | [] => return ()
  | atom :: rest => do
    pushField target (atomField (position + 1) atom)
    pushAtoms target (position + 1) rest

def nestedName (parent : Handle) (child : String) : Build String := do
  return (← ask (·.nameOf parent)) ++ Text.capitalize child

/-- The type that stands for a shape under a name: the one that does already, or a new one that is
filled. -/
def establish (name : String) (shape : Shape) (fill : Handle → Build Unit) : Build Handle := do
  match ← claim name shape with
  | .fresh h => do
    fill h
    return h
  | .reused h => return h

/-- The field of a nested structure, which becomes a type of its own, named after its parent and the
child. -/
def nestedField (parent : Handle) (position : Nat) (name : Option String) (card : Option Marker)
    (shape : Shape) (fill : Handle → Build Unit) : Build Field := do
  let child := childName name position
  let h ← establish (← nestedName parent child) shape fill
  return .ofCardinality child (.named h) (.ofMarker card)

mutual

def nodeField (parent : Handle) (position : Nat) : TreeNode → Build Field
  | .single p => parameterField position p
  | .tree name nodes card =>
    nestedField parent position name card (.tree ⟨name, nodes, card⟩) fun h => pushNodes h 0 nodes
  | .list l =>
    nestedField parent position l.name l.card (.list l) fun h => pushAtoms h 0 l.atoms
termination_by structural n => n

/-- Adds the fields of children that follow `position` others. -/
def pushNodes (target : Handle) (position : Nat) : List TreeNode → Build Unit
  | [] => return ()
  | node :: rest => do
    pushField target (← nodeField target (position + 1) node)
    pushNodes target (position + 1) rest
termination_by structural n => n

end

/-- Where the cardinality of a whole structure is expressed. -/
inductive Placement where
  | onField
  | onWrapper
deriving DecidableEq

/-- Adds the fields of a structure to a type. -/
def mapPayload (target : Handle) (payload : Payload) (placement : Placement) : Build Unit := do
  match payload with
  | .tree t => pushNodes target 0 t.nodes
  | .atoms l => pushAtoms target 0 l.atoms
  | .single p =>
    let field ← parameterField 1 p
    pushField target (match placement with
      | .onField => field
      | .onWrapper => { field with isList := false, isNullable := false })

def declareNames : List TypeDeclaration → Build (List Handle)
  | [] => return []
  | d :: rest => do
    let h ← insert d.name
    return h :: (← declareNames rest)

/-- Adds the fields of declarations to their types. -/
def declareFields : List (Handle × TypeDeclaration) → Build Unit
  | [] => return ()
  | (h, d) :: rest => do
    mapPayload h d.content .onField
    declareFields rest

/-- Registers declarations: all names first, so that they may refer to one another. -/
def declareAll (declarations : List TypeDeclaration) : Build Unit := do
  let handles ← declareNames declarations
  declareFields (handles.zip declarations)

/-- The type of an inline structure under a name. -/
def synthesize (name : String) (payload : Payload) : Build Handle :=
  establish name (.whole payload) fun h => mapPayload h payload .onWrapper

end TypeGraph

end ServiceContract
