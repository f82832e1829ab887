import ServiceContract.Json.Token

/-!
# Reading JSON

Tokens are put together over a stack of unfinished collections, one token a step.
-/

namespace ServiceContract.Json

/-- Stands for what has no value. No JSON text writes it. -/
def unreadable : Value := .float .notANumber

/-- An unfinished collection: what it holds so far, in reverse. A key may have no value. -/
inductive Frame where
  | list (done : List Value)
  | map (done : List (Option String × Value)) (key : Option String)

/-- The map that members make. One of whose keys has no value is unreadable as a whole. -/
def mapOf (done : List (Option String × Value)) : Value :=
  match done.reverse.mapM fun (key, v) => key.map (·, v) with
  | some entries => .map entries
  | none => unreadable

/-- What may come next. -/
inductive Expectation where
  | value
  | firstItem
  | key
  | firstKey
  | colon
  | separator
  | finished
deriving DecidableEq

/-- Where the reader stands: what may come next, and the unfinished collections from the
innermost outwards. -/
structure Position where
  expects : Expectation
  frames : List Frame
  result : Value := .null

def Position.complete (p : Position) (v : Value) : Position :=
  match p.frames with
  | [] => { p with expects := .finished, result := v }
  | .list done :: rest => { p with expects := .separator, frames := .list (v :: done) :: rest }
  | .map done key :: rest =>
    { p with expects := .separator, frames := .map ((key, v) :: done) key :: rest }

/-- Takes up one token; `limit` bounds how deep collections may stand in one another. -/
def Position.next (limit : Option Nat) (p : Position) (t : Token) : Option Position :=
  let deeper := match limit with
    | none => true
    | some n => p.frames.length < n
  let value : Option Position := match t with
    | .scalar v => some (p.complete v)
    | .hugeNumber | .brokenString => some (p.complete unreadable)
    | .openList =>
      if deeper then some { p with expects := .firstItem, frames := .list [] :: p.frames } else none
    | .openMap =>
      if deeper then some { p with expects := .firstKey, frames := .map [] none :: p.frames }
      else none
    | _ => none
  match p.expects, t, p.frames with
  | .firstItem, .closeList, .list done :: rest =>
    some ({ p with frames := rest }.complete (.list done.reverse))
  | .firstKey, .closeMap, .map done _ :: rest =>
    some ({ p with frames := rest }.complete (mapOf done))
  | .firstKey, .scalar (.text key), .map done _ :: rest
  | .key, .scalar (.text key), .map done _ :: rest =>
    some { p with expects := .colon, frames := .map done (some key) :: rest }
  | .firstKey, .brokenString, .map done _ :: rest
  | .key, .brokenString, .map done _ :: rest =>
    some { p with expects := .colon, frames := .map done none :: rest }
  | .colon, .colon, _ => some { p with expects := .value }
  | .separator, .comma, .list _ :: _ => some { p with expects := .value }
  | .separator, .comma, .map _ _ :: _ => some { p with expects := .key }
  | .separator, .closeList, .list done :: rest =>
    some ({ p with frames := rest }.complete (.list done.reverse))
  | .separator, .closeMap, .map done _ :: rest =>
    some ({ p with frames := rest }.complete (mapOf done))
  | .value, _, _ => value
  | .firstItem, _, _ => value
  | _, _, _ => none

/-- Puts tokens together. -/
def ofTokens? (limit : Option Nat) (tokens : List Token) : Option Value := do
  let last ← tokens.foldlM (Position.next limit) { expects := .value, frames := [] }
  if last.expects = .finished then some last.result else none

/-- Reads a text whose collections stand at most `limit` deep in one another. Maps keep every
member that is written, also under a key that is repeated. -/
def read? (limit : Option Nat) (text : String) : Option Value := do
  let tokens ← tokens? text
  if tokens.all Token.isReadable then ofTokens? limit tokens else none

mutual

/-- A value whose collections stand at most a number deep in one another: what stands deeper is
`unreadable`. -/
def cut : Nat → Value → Value
  | 0, .list _ => unreadable
  | 0, .map _ => unreadable
  | depth + 1, .list items => .list (cutItems depth items)
  | depth + 1, .map entries => .map (cutEntries depth entries)
  | _, v => v
termination_by structural _ v => v

/-- `cut` in every item. -/
def cutItems : Nat → List Value → List Value
  | _, [] => []
  | depth, v :: rest => cut depth v :: cutItems depth rest
termination_by structural _ v => v

/-- `cut` in every member. -/
def cutEntries : Nat → List (String × Value) → List (String × Value)
  | _, [] => []
  | depth, (key, v) :: rest => (key, cut depth v) :: cutEntries depth rest
termination_by structural _ v => v

end

/-- Reads a text for someone who looks at some of its members only: what has no value is
`unreadable`, and so are collections that stand more than `limit` deep in one another. -/
def readLoosely? (limit : Nat) (text : String) : Option Value := do
  return cut limit (← ofTokens? none (← tokens? text))

end ServiceContract.Json
