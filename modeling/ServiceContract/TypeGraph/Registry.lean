import ServiceContract.Specification.Declaration
import ServiceContract.Text.Blank

/-!
# The type registry

Types in the order in which they were registered. A type is known by its handle, which is its place
in that order, and by its name, which no other type has. Types are never removed, and their fields
are only added to.
-/

namespace ServiceContract

/-- The place of a registered type. -/
structure Handle where
  index : Nat
deriving DecidableEq

/-- Why a model cannot be built. -/
inductive ModelError where
  | unresolvedType (name : String)
  | duplicateType (name : String)
  | emptyName
  | unknownHandle (handle : Handle)
deriving DecidableEq

def ModelError.message : ModelError → String
  | unresolvedType name => "unresolved type reference: " ++ name
  | duplicateType name => "duplicate type declaration: " ++ name
  | emptyName => "type name must not be empty"
  | unknownHandle h => "unknown type handle: " ++ toString h.index

inductive FieldType where
  | primitive (p : Primitive)
  | named (handle : Handle)
deriving DecidableEq

structure Field where
  name : String
  type : FieldType
  isList : Bool
  isNullable : Bool
deriving DecidableEq

/-- A field that occurs as often as a cardinality says. -/
def Field.ofCardinality (name : String) (type : FieldType) (c : Cardinality) : Field :=
  ⟨name, type, c = .list, c = .optional⟩

structure DataType where
  name : String
  fields : List Field
deriving DecidableEq

/-- The registered types, in order of registration, and an index of their handles by name. -/
structure Registry where
  types : List DataType
  index : List (String × Handle)
deriving DecidableEq

namespace Registry

def empty : Registry := ⟨[], []⟩

/-- The number of registered types. -/
def size (r : Registry) : Nat := r.types.length

def lookup (r : Registry) (name : String) : Option Handle := r.index.lookup name

def resolve (r : Registry) (name : String) : Except ModelError Handle :=
  match r.lookup name with
  | some h => .ok h
  | none => .error (.unresolvedType name)

/-- The type of a handle, if this registry gave it out. -/
def get? (r : Registry) (h : Handle) : Option DataType := r.types[h.index]?

def dataType (r : Registry) (h : Handle) : Except ModelError DataType :=
  match r.get? h with
  | some t => .ok t
  | none => .error (.unknownHandle h)

def nameOf (r : Registry) (h : Handle) : Except ModelError String :=
  DataType.name <$> r.dataType h

/-- Registers a type without fields under a new name that is not blank, and indexes it. -/
def insert (r : Registry) (name : String) : Except ModelError (Handle × Registry) :=
  if Text.isBlank name then .error .emptyName
  else match r.lookup name with
    | some _ => .error (.duplicateType name)
    | none => .ok (⟨r.size⟩, ⟨r.types ++ [⟨name, []⟩], (name, ⟨r.size⟩) :: r.index⟩)

/-- The handles that a field refers to are handles of the registry. -/
def admits (r : Registry) (field : Field) : Except ModelError Unit :=
  match field.type with
  | .primitive _ => .ok ()
  | .named target => (fun _ => ()) <$> r.dataType target

/-- Adds a field behind the others of a type. -/
def pushField (r : Registry) (h : Handle) (field : Field) : Except ModelError Registry := do
  r.admits field
  let t ← r.dataType h
  return { r with types := r.types.set h.index { t with fields := t.fields ++ [field] } }

end Registry

end ServiceContract
