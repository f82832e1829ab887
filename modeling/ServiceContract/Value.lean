import ServiceContract.Numeral.Layout

/-!
# Values

The tree every document is made of: the members of a map keep the order in which they were put.
Integers and doubles are different things.
-/

namespace ServiceContract

open Numeral

inductive Value where
  | null
  | bool (b : Bool)
  | int (n : Int)
  | float (x : Double)
  | text (s : String)
  | list (items : List Value)
  | map (entries : List (String × Value))

namespace Value

instance : Inhabited Value := ⟨.null⟩

mutual

/-- Equality of values is decidable. -/
def decEq : (v w : Value) → Decidable (v = w)
  | .null, .null => isTrue rfl
  | .bool a, .bool b =>
    if h : a = b then isTrue (by rw [h]) else isFalse (by intro e; cases e; exact h rfl)
  | .int a, .int b =>
    if h : a = b then isTrue (by rw [h]) else isFalse (by intro e; cases e; exact h rfl)
  | .float a, .float b =>
    if h : a = b then isTrue (by rw [h]) else isFalse (by intro e; cases e; exact h rfl)
  | .text a, .text b =>
    if h : a = b then isTrue (by rw [h]) else isFalse (by intro e; cases e; exact h rfl)
  | .list a, .list b =>
    match decEqItems a b with
    | isTrue h => isTrue (by rw [h])
    | isFalse h => isFalse (by intro e; cases e; exact h rfl)
  | .map a, .map b =>
    match decEqEntries a b with
    | isTrue h => isTrue (by rw [h])
    | isFalse h => isFalse (by intro e; cases e; exact h rfl)
  | .null, .bool _ | .null, .int _ | .null, .float _ | .null, .text _ | .null, .list _
  | .null, .map _ | .bool _, .null | .bool _, .int _ | .bool _, .float _ | .bool _, .text _
  | .bool _, .list _ | .bool _, .map _ | .int _, .null | .int _, .bool _ | .int _, .float _
  | .int _, .text _ | .int _, .list _ | .int _, .map _ | .float _, .null | .float _, .bool _
  | .float _, .int _ | .float _, .text _ | .float _, .list _ | .float _, .map _ | .text _, .null
  | .text _, .bool _ | .text _, .int _ | .text _, .float _ | .text _, .list _ | .text _, .map _
  | .list _, .null | .list _, .bool _ | .list _, .int _ | .list _, .float _ | .list _, .text _
  | .list _, .map _ | .map _, .null | .map _, .bool _ | .map _, .int _ | .map _, .float _
  | .map _, .text _ | .map _, .list _ => isFalse (by intro e; cases e)
termination_by structural v => v

/-- Equality of lists of values is decidable. -/
def decEqItems : (v w : List Value) → Decidable (v = w)
  | [], [] => isTrue rfl
  | [], _ :: _ => isFalse (by intro e; cases e)
  | _ :: _, [] => isFalse (by intro e; cases e)
  | a :: as, b :: bs =>
    match decEq a b, decEqItems as bs with
    | isTrue h, isTrue hs => isTrue (by rw [h, hs])
    | isFalse h, _ => isFalse (by intro e; cases e; exact h rfl)
    | _, isFalse hs => isFalse (by intro e; cases e; exact hs rfl)
termination_by structural v => v

/-- Equality of the members of maps is decidable. -/
def decEqEntries : (v w : List (String × Value)) → Decidable (v = w)
  | [], [] => isTrue rfl
  | [], _ :: _ => isFalse (by intro e; cases e)
  | _ :: _, [] => isFalse (by intro e; cases e)
  | (k, a) :: as, (l, b) :: bs =>
    if hk : k = l then
      match decEq a b, decEqEntries as bs with
      | isTrue h, isTrue hs => isTrue (by rw [hk, h, hs])
      | isFalse h, _ => isFalse (by intro e; cases e; exact h rfl)
      | _, isFalse hs => isFalse (by intro e; cases e; exact hs rfl)
    else isFalse (by intro e; cases e; exact hk rfl)
termination_by structural v => v

end

instance : DecidableEq Value := decEq

end Value

/-- The members of a map, in the order in which they were put. -/
abbrev Entries := List (String × Value)

namespace Entries

def get? (key : String) (entries : Entries) : Option Value := entries.lookup key

/-- Puts a value under a key: a key that is there keeps its place, a new one comes last. -/
def put (key : String) (v : Value) : Entries → Entries
  | [] => [(key, v)]
  | (k, w) :: rest => if k = key then (k, v) :: rest else (k, w) :: put key v rest

/-- Puts the members one after another. -/
def ofList (members : List (String × Value)) : Entries :=
  members.foldl (fun done member => done.put member.1 member.2) []

/-- The keys, in order. -/
def keys (entries : Entries) : List String := entries.map Prod.fst

end Entries

namespace Value

/-- The map of the members whose value is present. -/
def record (members : List (String × Option Value)) : Value :=
  .map (members.filterMap fun member => member.2.map (member.1, ·))

/-- The members of a map. -/
def entries? : Value → Option Entries
  | .map entries => some entries
  | _ => none

mutual

/-- Every key of every map once: the last value under a key, at the key's first place. -/
def unique : Value → Value
  | .list items => .list (uniqueItems items)
  | .map entries => .map (Entries.ofList (uniqueEntries entries))
  | .null => .null
  | .bool b => .bool b
  | .int n => .int n
  | .float x => .float x
  | .text s => .text s
termination_by structural v => v

/-- `unique` in every item. -/
def uniqueItems : List Value → List Value
  | [] => []
  | v :: rest => unique v :: uniqueItems rest
termination_by structural v => v

/-- `unique` in every member. -/
def uniqueEntries : List (String × Value) → List (String × Value)
  | [] => []
  | (k, v) :: rest => (k, unique v) :: uniqueEntries rest
termination_by structural v => v

end

mutual

/-- Whether all of a value could be read. What is not a number stands for what could not: no text
writes it. -/
def isReadable : Value → Bool
  | .float .notANumber => false
  | .list items => itemsReadable items
  | .map entries => entriesReadable entries
  | _ => true
termination_by structural v => v

/-- `isReadable` for every item. -/
def itemsReadable : List Value → Bool
  | [] => true
  | v :: rest => isReadable v && itemsReadable rest
termination_by structural v => v

/-- `isReadable` for every member. -/
def entriesReadable : List (String × Value) → Bool
  | [] => true
  | (_, v) :: rest => isReadable v && entriesReadable rest
termination_by structural v => v

end

end Value

end ServiceContract
