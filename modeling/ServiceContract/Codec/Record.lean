import ServiceContract.Codec.Fault

/-!
# Records and choices

A record is written as a map, or as a list of its fields in declared order. A choice is written as
the bare name of a variant, or as a map with the variant's name as its one key. Of several faults
the one that stands first in the document is reported; what is missing comes last, in declared
order.
-/

namespace ServiceContract.Codec

/-- Reads a value of a type out of a document. -/
abbrev Decoder (α : Type) := Dialect → Value → Except Fault α

/-- A part of a record: its value, or the fault in it and where that fault stands. -/
def Reading (α : Type) := Except (Nat × Fault) α

namespace Reading

/-- Two parts together: of two faults the earlier one counts. -/
def seq {α β : Type} (f : Reading (α → β)) (a : Reading α) : Reading β :=
  match f, a with
  | .ok f, .ok a => .ok (f a)
  | .ok _, .error e => .error e
  | .error e, .ok _ => .error e
  | .error e, .error e' => .error (if e.1 ≤ e'.1 then e else e')

instance : Applicative Reading where
  pure a := .ok a
  seq f a := seq f (a ())

def run {α : Type} : Reading α → Except Fault α
  | .ok a => .ok a
  | .error (_, fault) => .error fault

end Reading

/-- The fields of a kind of record, in declared order; a closed one refuses other keys. -/
structure RecordType where
  title : String
  fields : List String
  closed : Bool := false

/-- What is expected of a list that stands for a record. -/
def RecordType.lengthText (r : RecordType) : String :=
  let n := r.fields.length
  r.title ++ " with " ++ String.ofList (Numeral.digits n) ++
    (if n = 1 then " element" else " elements")

/-- The parts of a record as they stand in a document. -/
inductive Members (β : Type) where
  | named (entries : List (String × β))
  | positional (items : List β)

/-- The places of a key, each with its value. -/
def occurrences {β : Type} (key : String) (entries : List (String × β)) : List (Nat × β) :=
  entries.zipIdx.filterMap fun ((k, v), i) => if k = key then some (i, v) else none

/-- A field that may be missing if it has a fallback. A key that is repeated is a fault, unless its
first value is one already. -/
def field {α β : Type} (r : RecordType) (m : Members β) (key : String) (fallback : Option α)
    (decode : β → Except Fault α) : Reading α :=
  let index := r.fields.idxOf key
  let absent (i : Nat) (fault : Fault) : Reading α := match fallback with
    | some a => .ok a
    | none => .error (i, fault)
  match m with
  | .named entries =>
    match occurrences key entries with
    | [] => absent (entries.length + index) (.missingField key)
    | (i, v) :: more =>
      match decode v, more with
      | .error fault, _ => .error (i, fault)
      | .ok a, [] => .ok a
      | .ok _, (j, _) :: _ => .error (j, .repeatedField key)
  | .positional items =>
    match items[index]? with
    | some v => match decode v with
      | .ok a => .ok a
      | .error fault => .error (index, fault)
    | none => absent index (.wrongLength index r.lengthText)

/-- A field that has to be there. -/
def required {α β : Type} (r : RecordType) (m : Members β) (key : String)
    (decode : β → Except Fault α) : Reading α :=
  field r m key none decode

/-- What belongs to no field: items behind the last one, and in a closed record other keys. -/
def surplus {β : Type} (dialect : Dialect) (r : RecordType) (m : Members β) : Reading Unit :=
  match m with
  | .positional items =>
    let n := r.fields.length
    if items.length ≤ n then .ok ()
    else match dialect with
      | .tree => .error (n, .wrongLength items.length "fewer elements in array")
      | .jsonText => .error (n, .trailingCharacters)
      | .toml => .ok ()
  | .named entries =>
    match r.closed, entries.findIdx? (fun e => !r.fields.contains e.1) with
    | true, some i =>
      .error (i, .unknownField ((entries[i]?.map Prod.fst).getD "") r.fields)
    | _, _ => .ok ()

/-- The record that the readings of its fields make. -/
def build {α β : Type} (dialect : Dialect) (r : RecordType) (m : Members β) (fields : Reading α) :
    Except Fault α :=
  Reading.run ((fun a _ => a) <$> fields <*> surplus dialect r m)

/-- The parts of the record that a value is. A date in TOML has parts too; a float has none. -/
def members (dialect : Dialect) (expected : String) (v : Value) : Except Fault (Members Value) :=
  match v with
  | .map entries =>
    if dialect = .toml && entries = [(Toml.hugeFloatKey, .null)] then .error (.wrongType v expected)
    else .ok (.named entries)
  | .list items => .ok (.positional items)
  | v => .error (.wrongType v expected)

inductive Content (β : Type) where
  /-- The variant was given by its bare name. -/
  | bare
  | given (v : β)

/-- A value as a choice: the name of a variant with its content, and whether other keys follow
it. -/
inductive Selection (β : Type) where
  | variant (name : String) (content : Content β) (alone : Bool)
  | empty
  | other (found : Value)

/-- A value as a choice. A date in TOML is none, nor is a float. -/
def selection (dialect : Dialect) : Value → Selection Value
  | .text name => .variant name .bare true
  | .map [] => .empty
  | .map [(key, .null)] =>
    if dialect = .toml then .other (.map [(key, .null)]) else .variant key (.given .null) true
  | .map ((key, v) :: rest) => .variant key (.given v) rest.isEmpty
  | v => .other v

/-- Takes the variant that was chosen. In a tree the other keys of the map are noticed first, in
text they are noticed behind the content. -/
def choose {α β : Type} (dialect : Dialect) (variants : List String) (s : Selection β)
    (pick : String → Content β → Except Fault α) : Except Fault α :=
  match dialect, s with
  | .tree, .empty => .error .notSingleKey
  | .tree, .variant _ _ false => .error .notSingleKey
  | .tree, .other v => .error (.wrongType v "string or map")
  | .jsonText, .empty => .error .valueExpected
  | .jsonText, .other _ => .error .valueExpected
  | .toml, .empty => .error (.notOneElement false)
  | .toml, .variant _ _ false => .error (.notOneElement true)
  | .toml, .other _ => .error .notStringOrTable
  | _, .variant name content alone => do
    if !variants.contains name then throw (.unknownVariant name variants)
    let a ← pick name content
    if alone then return a else throw .valueExpected

/-- The content of a variant that has none. -/
def unitContent (dialect : Dialect) : Content Value → Except Fault Unit
  | .bare => .ok ()
  | .given v => match dialect, v with
    | .toml, .list [] | .toml, .map [] => .ok ()
    | .toml, .map [(key, .null)] => .error (.notTable (.map [(key, .null)]))
    | .toml, .list _ => .error (.notEmpty "array")
    | .toml, .map _ => .error (.notEmpty "table")
    | .toml, v => .error (.notTable v)
    | _, .null => .ok ()
    | _, v => .error (.wrongType v "unit")

/-- The content of a variant that holds one value. -/
def valueContent {α β : Type} (decode : β → Except Fault α) : Content β → Except Fault α
  | .bare => .error (.bareVariant "newtype variant")
  | .given v => decode v

/-- The content of a variant that is a record of its own. In a tree it is a map. -/
def recordContent (dialect : Dialect) (r : RecordType) : Content Value →
    Except Fault (Members Value)
  | .bare => .error (.bareVariant "struct variant")
  | .given v => match dialect, v with
    | .tree, .map entries => .ok (.named entries)
    | .tree, v => .error (.wrongType v "struct variant")
    | _, v => members dialect r.title v

/-- A choice between bare names. -/
def keyword {α : Type} (variants : List (String × α)) : Decoder α := fun dialect v =>
  choose dialect (variants.map Prod.fst) (selection dialect v) fun name content => do
    unitContent dialect content
    match variants.lookup name with
    | some a => return a
    | none => throw (.unknownVariant name (variants.map Prod.fst))

def text : Decoder String := fun _ v =>
  match v with
  | .text s => .ok s
  | v => .error (.wrongType v "a string")

/-- A truth value. -/
def boolean : Decoder Bool := fun _ v =>
  match v with
  | .bool b => .ok b
  | v => .error (.wrongType v "a boolean")

/-- A double; an integer is rounded to one. -/
def double : Decoder Numeral.Double := fun _ v =>
  match v with
  | .int n => .ok (.ofInt n)
  | .float .notANumber => .error (.wrongType v "f64")
  | .float x => .ok x
  | v => .error (.wrongType v "f64")

/-- A value that may be absent or null. -/
def optional {α : Type} (decode : Decoder α) : Decoder (Option α) := fun dialect v =>
  match v with
  | .null => .ok none
  | v => some <$> decode dialect v

def items {α : Type} (decode : Value → Except Fault α) : List Value → Except Fault (List α)
  | [] => .ok []
  | v :: rest => do return (← decode v) :: (← items decode rest)

def listOf {α : Type} (decode : Decoder α) : Decoder (List α) := fun dialect v =>
  match v with
  | .list vs => items (decode dialect) vs
  | v => .error (.wrongType v "a sequence")

/-- An optional value as a tree: what is absent is null. -/
def encodeOption {α : Type} (encode : α → Value) : Option α → Value
  | none => .null
  | some a => encode a

def encodeList {α : Type} (encode : α → Value) (as : List α) : Value := .list (as.map encode)

end ServiceContract.Codec
