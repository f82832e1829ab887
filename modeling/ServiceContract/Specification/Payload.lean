/-!
# Payload structures

The data an operation takes or returns: a tree of parameters, a list of atoms, or one parameter.
-/

namespace ServiceContract

/-- How often an element may occur, as its author marked it. -/
inductive Marker where
  | exactlyOne
  | zeroOrOne
  | zeroOrMore
  | atLeastOne
deriving DecidableEq

/-- The types that need no declaration. -/
inductive Primitive where
  | bool
  | int
  | long
  | double
  | string
  | raw
  | void
deriving DecidableEq

def Primitive.keyword : Primitive → String
  | bool => "bool"
  | int => "int"
  | long => "long"
  | double => "double"
  | string => "string"
  | raw => "raw"
  | void => "void"

/-- A parameter of a primitive type. -/
structure Atom where
  name : Option String
  base : Primitive
  card : Option Marker
deriving DecidableEq

/-- A parameter of a declared type. -/
structure Reference where
  name : Option String
  target : String
  card : Option Marker
deriving DecidableEq

/-- A parameter of any type. -/
structure Generic where
  name : Option String
  card : Option Marker
deriving DecidableEq

inductive Parameter where
  | atomic (atom : Atom)
  | reference (reference : Reference)
  | generic (generic : Generic)
deriving DecidableEq

namespace Parameter

def name : Parameter → Option String
  | atomic a => a.name
  | reference r => r.name
  | generic g => g.name

def card : Parameter → Option Marker
  | atomic a => a.card
  | reference r => r.card
  | generic g => g.card

end Parameter

structure AtomList where
  name : Option String
  atoms : List Atom
  card : Option Marker
deriving DecidableEq

/-- A child of a tree of parameters; a nested tree holds its name, its children and its marker. -/
inductive TreeNode where
  | single (parameter : Parameter)
  | tree (name : Option String) (nodes : List TreeNode) (card : Option Marker)
  | list (atoms : AtomList)

namespace TreeNode

mutual

/-- Equality of tree nodes is decidable. -/
def decEq : (a b : TreeNode) → Decidable (a = b)
  | .single p, .single q =>
    if h : p = q then isTrue (by rw [h]) else isFalse (by intro e; cases e; exact h rfl)
  | .tree n xs c, .tree m ys d =>
    if hn : n = m then
      if hc : c = d then
        match decEqNodes xs ys with
        | isTrue h => isTrue (by rw [hn, hc, h])
        | isFalse h => isFalse (by intro e; cases e; exact h rfl)
      else isFalse (by intro e; cases e; exact hc rfl)
    else isFalse (by intro e; cases e; exact hn rfl)
  | .list p, .list q =>
    if h : p = q then isTrue (by rw [h]) else isFalse (by intro e; cases e; exact h rfl)
  | .single _, .tree .. | .single _, .list _ | .tree .., .single _ | .tree .., .list _
  | .list _, .single _ | .list _, .tree .. => isFalse (by intro e; cases e)
termination_by structural a => a

def decEqNodes : (a b : List TreeNode) → Decidable (a = b)
  | [], [] => isTrue rfl
  | [], _ :: _ => isFalse (by intro e; cases e)
  | _ :: _, [] => isFalse (by intro e; cases e)
  | a :: as, b :: bs =>
    match decEq a b, decEqNodes as bs with
    | isTrue h, isTrue hs => isTrue (by rw [h, hs])
    | isFalse h, _ => isFalse (by intro e; cases e; exact h rfl)
    | _, isFalse hs => isFalse (by intro e; cases e; exact hs rfl)
termination_by structural a => a

end

instance : DecidableEq TreeNode := decEq

end TreeNode

structure ParameterTree where
  name : Option String
  nodes : List TreeNode
  card : Option Marker
deriving DecidableEq

/-- What a message carries. -/
inductive Payload where
  | tree (tree : ParameterTree)
  | atoms (list : AtomList)
  | single (parameter : Parameter)
deriving DecidableEq

/-- The reference that a payload is, when it is nothing else. -/
def Payload.reference? : Payload → Option Reference
  | single (.reference r) => some r
  | _ => none

/-- The marker of a payload: that of the tree, list or parameter it is. -/
def Payload.card : Payload → Option Marker
  | tree t => t.card
  | atoms l => l.card
  | single p => p.card

/-- How often an element may occur, as far as types care. -/
inductive Cardinality where
  | scalar
  | list
  | optional
deriving DecidableEq

namespace Cardinality

/-- Both markers that allow several occurrences make a list; no marker means exactly one. -/
def ofMarker : Option Marker → Cardinality
  | some .zeroOrMore | some .atLeastOne => list
  | some .zeroOrOne => optional
  | some .exactlyOne | none => scalar

/-- The cardinality of a payload; what is absent is a scalar. -/
def ofPayload (payload : Option Payload) : Cardinality := ofMarker (payload.bind Payload.card)

end Cardinality

end ServiceContract
