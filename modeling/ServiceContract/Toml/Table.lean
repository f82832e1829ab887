import ServiceContract.Value

/-!
# TOML tables

A document may speak of a table in several places. What was defined as a whole cannot be added to,
and nothing is defined twice.
-/

namespace ServiceContract.Toml

/-- How a table came to be: by a header of its own, because a header names something in it, or by a
key with dots. -/
inductive Origin where
  | header
  | implied
  | dotted
deriving DecidableEq

/-- What stands under a key: a value that is complete, a table, or a list of tables of which the
last one may still grow. -/
inductive Node where
  | value (v : Value)
  | table (origin : Origin) (entries : List (String × Node))
  | tables (all : List (List (String × Node)))

/-- A table, in the order of its keys. -/
abbrev Table := List (String × Node)

namespace Table

def put (key : String) (node : Node) : Table → Table
  | [] => [(key, node)]
  | (k, n) :: rest =>
    if key = k then (key, node) :: rest
    else if key < k then (key, node) :: (k, n) :: rest
    else (k, n) :: put key node rest

/-- Changes the table that a path leads to. Tables that are missing are made on the way. A path of
dots does not lead through tables with a header. The change is told whether it is made to a table
that a key with dots has made. -/
def change (byDots : Bool) (f : Bool → Table → Option Table) :
    (path : List String) → (isDotted : Bool) → Table → Option Table
  | [], isDotted, t => f isDotted t
  | key :: path, _, t =>
    match t.lookup key with
    | none =>
      (change byDots f path byDots []).map fun inner =>
        put key (.table (if byDots then .dotted else .implied) inner) t
    | some (.table origin inner) =>
      if byDots && origin = .header then none
      else (change byDots f path (origin = .dotted) inner).map fun inner =>
        put key (.table origin inner) t
    | some (.tables all) =>
      match all.reverse with
      | [] => none
      | last :: before =>
        (change byDots f path false last).map fun last =>
          put key (.tables (last :: before).reverse) t
    | some (.value _) => none

/-- Adds a value under a key, which may have dots. -/
def add (path : List String) (v : Value) (t : Table) : Option Table :=
  match path.reverse with
  | [] => none
  | key :: before =>
    let byDots := !before.isEmpty
    change byDots (fun isDotted t =>
        if isDotted = byDots && (t.lookup key).isNone then some (put key (.value v) t) else none)
      before.reverse false t

def openTable (path : List String) (t : Table) : Option Table :=
  match path.reverse with
  | [] => none
  | key :: before =>
    change false (fun _ t =>
        match t.lookup key with
        | none => some (put key (.table .header []) t)
        | some (.table .implied inner) => some (put key (.table .header inner) t)
        | some _ => none)
      before.reverse false t

/-- Opens a new table of the list of a header. -/
def openItem (path : List String) (t : Table) : Option Table :=
  match path.reverse with
  | [] => none
  | key :: before =>
    change false (fun _ t =>
        match t.lookup key with
        | none => some (put key (.tables [[]]) t)
        | some (.tables all) => some (put key (.tables (all ++ [[]])) t)
        | some _ => none)
      before.reverse false t

end Table

mutual

def Node.toValue : Node → Value
  | .value v => v
  | .table _ entries => .map (entryValues entries)
  | .tables all => .list (tableValues all)
termination_by structural n => n

def tableValues : List (List (String × Node)) → List Value
  | [] => []
  | t :: rest => .map (entryValues t) :: tableValues rest
termination_by structural ts => ts

def entryValues : List (String × Node) → List (String × Value)
  | [] => []
  | (key, n) :: rest => (key, n.toValue) :: entryValues rest
termination_by structural es => es

end

def Table.toValue (t : Table) : Value := .map (entryValues t)

end ServiceContract.Toml
