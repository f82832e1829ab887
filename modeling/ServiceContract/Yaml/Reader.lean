import ServiceContract.Yaml.Node

/-!
# Reading YAML

The value of a document. Plain scalars mean what the rule of plain scalars says; the keys of a map
are the texts of scalars, and a key that is repeated has its last value.
-/

namespace ServiceContract.Yaml

open Numeral

/-- A tag of the core schema. -/
def coreTag (name : String) : List Char := "tag:yaml.org,2002:".toList ++ name.toList

def intValue? (n : Int) : Option Value :=
  if isSigned 64 n || isUnsigned 64 n then some (.int n) else none

/-- A double in a value; the infinities and what is no number are null. -/
def doubleValue (x : Double) : Value :=
  match x with
  | .finite _ => .float x
  | .infinite _ | .notANumber => .null

/-- The value of a scalar. A local tag has no value. -/
def scalarValue? (tag : Option (List Char)) (isPlain : Bool) (cs : List Char) : Option Value :=
  let text := Value.text (String.ofList cs)
  match tag with
  | none =>
    if isPlain then
      match plain cs with
      | .null => some .null
      | .bool b => some (.bool b)
      | .int n => intValue? n
      | .float x => some (doubleValue x)
      | .text => some text
    else some text
  | some tag =>
    if tag = coreTag "bool" then (bool? cs).map .bool
    else if tag = coreTag "int" then (int? cs).bind intValue?
    else if tag = coreTag "float" then (double? cs).map doubleValue
    else if tag = coreTag "null" then (if isNull cs then some .null else none)
    else if tag.head? == some '!' then none
    else some text

/-- Whether a collection has a tag that gives it no value. -/
def isLocal (tag : Option (List Char)) : Bool :=
  match tag with
  | some tag => tag.head? == some '!'
  | none => false

mutual

/-- How many steps a node takes to write down. An alias is one step. -/
def Node.steps : Node → Nat
  | .scalar .. => 1
  | .sequence _ items => 2 + stepsOfItems items
  | .mapping _ entries => 2 + stepsOfEntries entries
  | .alias _ => 1
termination_by structural n => n

def stepsOfItems : List Node → Nat
  | [] => 0
  | n :: rest => n.steps + stepsOfItems rest
termination_by structural n => n

def stepsOfEntries : List (Node × Node) → Nat
  | [] => 0
  | (k, v) :: rest => k.steps + v.steps + stepsOfEntries rest
termination_by structural n => n

end

/-- The text of a key. An alias uses up one of the `aliases` that may still be followed. -/
def keyText? : Node → (aliases : Nat) → Option (String × Nat)
  | .scalar _ _ cs, aliases => some (String.ofList cs, aliases)
  | .alias target, aliases + 1 => keyText? target aliases
  | _, _ => none
termination_by structural n => n

mutual

/-- The value of a node. Collections stand at most `depth` deep in one another, and at most
`aliases` aliases are followed; the answer says how many of them are left. -/
def Node.value? : Node → (depth aliases : Nat) → Option (Value × Nat)
  | .scalar tag isPlain cs, _, aliases => (scalarValue? tag isPlain cs).map (·, aliases)
  | .sequence tag items, depth, aliases =>
    if isLocal tag || depth = 0 then none
    else match itemValues? items (depth - 1) aliases with
      | some (vs, aliases) => some (.list vs, aliases)
      | none => none
  | .mapping tag entries, depth, aliases =>
    if isLocal tag || depth = 0 then none
    else match entryValues? entries (depth - 1) aliases with
      | some (es, aliases) => some (.map (Entries.ofList es), aliases)
      | none => none
  | .alias target, depth, aliases =>
    match aliases with
    | 0 => none
    | aliases + 1 => target.value? depth aliases
termination_by structural n => n

def itemValues? : List Node → (depth aliases : Nat) → Option (List Value × Nat)
  | [], _, aliases => some ([], aliases)
  | n :: rest, depth, aliases =>
    match n.value? depth aliases with
    | none => none
    | some (v, aliases) => match itemValues? rest depth aliases with
      | none => none
      | some (vs, aliases) => some (v :: vs, aliases)
termination_by structural n => n

/-- The values of pairs of nodes. -/
def entryValues? : List (Node × Node) → (depth aliases : Nat) →
    Option (List (String × Value) × Nat)
  | [], _, aliases => some ([], aliases)
  | (k, n) :: rest, depth, aliases =>
    match keyText? k aliases with
    | none => none
    | some (key, aliases) => match n.value? depth aliases with
      | none => none
      | some (v, aliases) => match entryValues? rest depth aliases with
        | none => none
        | some (es, aliases) => some ((key, v) :: es, aliases)
termination_by structural n => n

end

/-- Reads a text. Collections stand at most 128 deep in one another, and aliases are followed a
hundred times for every step that the document takes. -/
def read? (text : String) : Option Value := do
  let n ← document? (← tokens? text.toList)
  let (v, _) ← n.value? 128 (100 * n.steps)
  return v

end ServiceContract.Yaml
