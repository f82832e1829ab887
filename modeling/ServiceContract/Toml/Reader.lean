import ServiceContract.Toml.Scalar
import ServiceContract.Toml.Table
import ServiceContract.Toml.Token

/-!
# Reading TOML

Tokens are put together over a stack of unfinished values, one token a step.
-/

namespace ServiceContract.Toml

/-- What the key that is being read is for. -/
inductive KeyRole where
  /-- A value follows. -/
  | entry
  /-- A header of a table. -/
  | table
  /-- A header of a list of tables. -/
  | item
deriving DecidableEq

/-- An unfinished value, or the key of one. -/
inductive Frame where
  | entry (path : List String)
  | list (done : List Value)
  | table (done : Table)

/-- What may come next. The parts of a key and the characters of a scalar are held as they were
read. -/
inductive Expectation where
  | line
  /-- Behind the first bracket of a header. -/
  | header
  | keyPart (role : KeyRole) (done : List String)
  | keyEnd (role : KeyRole) (done : List String)
  /-- The second bracket behind a header. -/
  | secondBracket (path : List String)
  | value
  | scalar (cs : List Char)
  /-- Behind a date and a single space: a time may follow. -/
  | time (date : List Char)
  /-- An item of a list, or its end. -/
  | item
  /-- A member of a table, or its end. -/
  | member
  /-- What follows a value: a separator, or the end of what it is in. -/
  | separator

structure Position where
  root : Table
  /-- The table that lines add to. -/
  here : List String
  frames : List Frame
  expects : Expectation

namespace Position

/-- Before the first token. -/
def start : Position := ⟨[], [], [], .line⟩

def complete (p : Position) (v : Value) : Option Position :=
  match p.frames with
  | .list done :: rest => some { p with frames := .list (v :: done) :: rest, expects := .separator }
  | .entry path :: .table done :: rest =>
    (done.add path v).map fun done =>
      { p with frames := .table done :: rest, expects := .separator }
  | [.entry path] =>
    (Table.change false (fun _ t => t.add path v) p.here false p.root).map fun root =>
      { p with root := root, frames := [], expects := .separator }
  | _ => none

/-- How deep values may stand in one another. -/
def maxDepth : Nat := 80

/-- Opens a list or a table. -/
def descend (p : Position) (frame : Frame) (expects : Expectation) : Option Position :=
  let isValue : Frame → Bool
    | .entry _ => false
    | _ => true
  if (p.frames.filter isValue).length < maxDepth then
    some { p with frames := frame :: p.frames, expects := expects }
  else none

/-- The innermost list is complete. -/
def closeList (p : Position) : Option Position :=
  match p.frames with
  | .list done :: rest => { p with frames := rest }.complete (.list done.reverse)
  | _ => none

/-- The innermost table is complete. -/
def closeTable (p : Position) : Option Position :=
  match p.frames with
  | .table done :: rest => { p with frames := rest }.complete done.toValue
  | _ => none

def keyPart? : Token → Option String
  | .word cs =>
    if cs.all fun c => c.isAlphanum || c = '_' || c = '-' then some (String.ofList cs) else none
  | .string s false => some s
  | _ => none

/-- Takes up a token where a part of a key is expected. -/
def part (p : Position) (role : KeyRole) (done : List String) (t : Token) : Option Position :=
  (keyPart? t).map fun s => { p with expects := .keyEnd role (done ++ [s]) }

def keyDone (p : Position) (role : KeyRole) (path : List String) (t : Token) : Option Position :=
  match role, t with
  | .entry, .equals => some { p with frames := .entry path :: p.frames, expects := .value }
  | .table, .closeBracket =>
    (p.root.openTable path).map fun root =>
      { p with root := root, here := path, expects := .separator }
  | .item, .closeBracket => some { p with expects := .secondBracket path }
  | _, _ => none

/-- Takes up a token behind a value. -/
def behind (p : Position) (t : Token) : Option Position :=
  match t, p.frames with
  | .blank _, _ => some p
  | .newline, [] => some { p with expects := .line }
  | .newline, _ => some p
  | .comma, .list _ :: _ => some { p with expects := .item }
  | .comma, .table _ :: _ => some { p with expects := .member }
  | .closeBracket, .list _ :: _ => p.closeList
  | .closeBrace, .table _ :: _ => p.closeTable
  | _, _ => none

/-- The word is complete, and a token follows it. -/
def endScalar (p : Position) (cs : List Char) (t : Token) : Option Position :=
  ((scalar? cs).bind p.complete).bind (·.behind t)

def value (p : Position) (t : Token) : Option Position :=
  match t with
  | .openBracket => p.descend (.list []) .item
  | .openBrace => p.descend (.table []) .member
  | .string s _ => p.complete (.text s)
  | .word cs => some { p with expects := .scalar cs }
  | _ => none

/-- Takes up one token. -/
def next (p : Position) (t : Token) : Option Position :=
  match p.expects, t with
  | .line, .blank _ | .line, .newline => some p
  | .line, .openBracket => some { p with expects := .header }
  | .line, t => p.part .entry [] t
  | .header, .openBracket => some { p with expects := .keyPart .item [] }
  | .header, .blank _ => some { p with expects := .keyPart .table [] }
  | .header, t => p.part .table [] t
  | .keyPart _ _, .blank _ | .keyEnd _ _, .blank _ => some p
  | .keyPart role done, t => p.part role done t
  | .keyEnd role done, .dot => some { p with expects := .keyPart role done }
  | .keyEnd role done, t => p.keyDone role done t
  | .secondBracket path, .closeBracket =>
    (p.root.openItem path).map fun root =>
      { p with root := root, here := path, expects := .separator }
  | .secondBracket _, _ => none
  | .value, .blank _ => some p
  | .value, t => p.value t
  | .scalar cs, .word more => some { p with expects := .scalar (cs ++ more) }
  | .scalar cs, .dot => some { p with expects := .scalar (cs ++ ['.']) }
  | .scalar cs, .blank true =>
    if passDate? cs == some [] then some { p with expects := .time cs }
    else p.endScalar cs (.blank true)
  | .scalar cs, t => p.endScalar cs t
  | .time date, .word cs =>
    if cs.head?.any Char.isDigit then some { p with expects := .scalar (date ++ ' ' :: cs) }
    else none
  | .time date, t => p.endScalar date t
  | .item, .blank _ | .item, .newline => some p
  | .item, .closeBracket => p.closeList
  | .item, t => p.value t
  | .member, .blank _ | .member, .newline => some p
  | .member, .closeBrace => p.closeTable
  | .member, t => p.part .entry [] t
  | .separator, t => p.behind t

end Position

/-- Reads a document. Its keys come out in order. -/
def read? (text : String) : Option Value := do
  let last ← ((← tokens? text) ++ [Token.newline]).foldlM Position.next .start
  match last.expects with
  | .line => some last.root.toValue
  | _ => none

end ServiceContract.Toml
