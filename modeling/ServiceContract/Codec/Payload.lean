import ServiceContract.Codec.Record
import ServiceContract.Specification.Declaration

/-!
# The tree form of payloads and of the declared interface

Trees of parameters hold trees of parameters, so their members are decoded along with the tree they
stand in: `TreeNode.decode` goes down the document by structural recursion.
-/

namespace ServiceContract

open Codec

def Marker.names : List (String × Marker) :=
  [("exactly_one", exactlyOne), ("zero_or_one", zeroOrOne), ("zero_or_more", zeroOrMore),
    ("at_least_one", atLeastOne)]

def Marker.decode : Decoder Marker := keyword names

def Marker.encode : Marker → Value
  | exactlyOne => .text "exactly_one"
  | zeroOrOne => .text "zero_or_one"
  | zeroOrMore => .text "zero_or_more"
  | atLeastOne => .text "at_least_one"

def Primitive.names : List (String × Primitive) :=
  [bool, int, long, double, string, raw, void].map fun p => (p.keyword, p)

def Primitive.decode : Decoder Primitive := Codec.keyword names

def Primitive.encode (p : Primitive) : Value := .text p.keyword

namespace Atom

def type : RecordType :=
  { title := "struct AtomicParameter", fields := ["name", "base_type", "card"] }

def decode : Decoder Atom := fun d v => do
  let m ← members d type.title v
  build d type m (mk <$> field type m "name" (some none) (optional text d)
    <*> required type m "base_type" (Primitive.decode d)
    <*> field type m "card" (some none) (optional Marker.decode d))

def encode (x : Atom) : Value :=
  .map [("name", encodeOption .text x.name), ("base_type", x.base.encode),
    ("card", encodeOption Marker.encode x.card)]

end Atom

namespace Reference

def type : RecordType := { title := "struct TypeReference", fields := ["name", "target", "card"] }

def decode : Decoder Reference := fun d v => do
  let m ← members d type.title v
  build d type m (mk <$> field type m "name" (some none) (optional text d)
    <*> required type m "target" (text d)
    <*> field type m "card" (some none) (optional Marker.decode d))

def encode (x : Reference) : Value :=
  .map [("name", encodeOption .text x.name), ("target", .text x.target),
    ("card", encodeOption Marker.encode x.card)]

end Reference

namespace Generic

def type : RecordType := { title := "struct GenericParameter", fields := ["name", "card"] }

def decode : Decoder Generic := fun d v => do
  let m ← members d type.title v
  build d type m (mk <$> field type m "name" (some none) (optional text d)
    <*> field type m "card" (some none) (optional Marker.decode d))

def encode (x : Generic) : Value :=
  .map [("name", encodeOption .text x.name), ("card", encodeOption Marker.encode x.card)]

end Generic

namespace Parameter

def variants : List String := ["atomic", "type_reference", "generic"]

def decode : Decoder Parameter := fun d v =>
  choose d variants (selection d v) fun name content =>
    if name = "atomic" then atomic <$> valueContent (Atom.decode d) content
    else if name = "type_reference" then reference <$> valueContent (Reference.decode d) content
    else generic <$> valueContent (Generic.decode d) content

def encode : Parameter → Value
  | atomic a => .map [("atomic", a.encode)]
  | reference r => .map [("type_reference", r.encode)]
  | generic g => .map [("generic", g.encode)]

end Parameter

namespace AtomList

def type : RecordType :=
  { title := "struct AtomicParameterList", fields := ["name", "atoms", "card"] }

def decode : Decoder AtomList := fun d v => do
  let m ← members d type.title v
  build d type m (mk <$> field type m "name" (some none) (optional text d)
    <*> required type m "atoms" (listOf Atom.decode d)
    <*> field type m "card" (some none) (optional Marker.decode d))

def encode (x : AtomList) : Value :=
  .map [("name", encodeOption .text x.name), ("atoms", encodeList Atom.encode x.atoms),
    ("card", encodeOption Marker.encode x.card)]

end AtomList

namespace ParameterTree

def type : RecordType := { title := "struct ParameterTree", fields := ["name", "nodes", "card"] }

/-- A tree from its members, each beside what it is as a list of nodes. -/
def ofMembers (d : Dialect) (m : Members (Value × Except Fault (List TreeNode))) :
    Except Fault ParameterTree :=
  build d type m (mk <$> field type m "name" (some none) (fun v => optional text d v.1)
    <*> required type m "nodes" Prod.snd
    <*> field type m "card" (some none) (fun v => optional Marker.decode d v.1))

end ParameterTree

namespace TreeNode

def variants : List String := ["node", "tree", "list"]

/-- A node from the variant that was chosen, its content beside what it is as a tree. -/
def ofSelection (d : Dialect) (s : Selection (Value × Except Fault ParameterTree)) :
    Except Fault TreeNode :=
  choose d variants s fun name content =>
    if name = "node" then single <$> valueContent (fun v => Parameter.decode d v.1) content
    else if name = "tree" then
      (fun t => tree t.name t.nodes t.card) <$> valueContent Prod.snd content
    else list <$> valueContent (fun v => AtomList.decode d v.1) content

mutual

def decode (d : Dialect) : Value → Except Fault TreeNode
  | .text name => ofSelection d (.variant name .bare true)
  | .map [] => ofSelection d .empty
  | .map ((key, v) :: rest) =>
    ofSelection d (.variant key (.given (v, decodeTree d v)) rest.isEmpty)
  | .null => ofSelection d (.other .null)
  | .bool b => ofSelection d (.other (.bool b))
  | .int n => ofSelection d (.other (.int n))
  | .float x => ofSelection d (.other (.float x))
  | .list items => ofSelection d (.other (.list items))
termination_by structural v => v

def decodeTree (d : Dialect) : Value → Except Fault ParameterTree
  | .map entries => ParameterTree.ofMembers d (.named (decodeEntries d entries))
  | .list items => ParameterTree.ofMembers d (.positional (decodeItems d items))
  | .text s => .error (.wrongType (.text s) ParameterTree.type.title)
  | .null => .error (.wrongType .null ParameterTree.type.title)
  | .bool b => .error (.wrongType (.bool b) ParameterTree.type.title)
  | .int n => .error (.wrongType (.int n) ParameterTree.type.title)
  | .float x => .error (.wrongType (.float x) ParameterTree.type.title)
termination_by structural v => v

def decodeNodes (d : Dialect) : Value → Except Fault (List TreeNode)
  | .list vs => decodeAll d vs
  | .map entries => .error (.wrongType (.map entries) "a sequence")
  | .text s => .error (.wrongType (.text s) "a sequence")
  | .null => .error (.wrongType .null "a sequence")
  | .bool b => .error (.wrongType (.bool b) "a sequence")
  | .int n => .error (.wrongType (.int n) "a sequence")
  | .float x => .error (.wrongType (.float x) "a sequence")
termination_by structural v => v

def decodeAll (d : Dialect) : List Value → Except Fault (List TreeNode)
  | [] => .ok []
  | v :: rest => match decode d v with
    | .error fault => .error fault
    | .ok node => match decodeAll d rest with
      | .error fault => .error fault
      | .ok nodes => .ok (node :: nodes)
termination_by structural v => v

/-- Every member beside what it is as a list of nodes. -/
def decodeEntries (d : Dialect) :
    List (String × Value) → List (String × (Value × Except Fault (List TreeNode)))
  | [] => []
  | (key, v) :: rest => (key, (v, decodeNodes d v)) :: decodeEntries d rest
termination_by structural v => v

/-- Every item beside what it is as a list of nodes. -/
def decodeItems (d : Dialect) : List Value → List (Value × Except Fault (List TreeNode))
  | [] => []
  | v :: rest => (v, decodeNodes d v) :: decodeItems d rest
termination_by structural v => v

end

mutual

def encode : TreeNode → Value
  | .single p => .map [("node", p.encode)]
  | .tree name nodes card =>
    .map [("tree", .map [("name", encodeOption .text name), ("nodes", .list (encodeAll nodes)),
      ("card", encodeOption Marker.encode card)])]
  | .list atoms => .map [("list", atoms.encode)]
termination_by structural n => n

def encodeAll : List TreeNode → List Value
  | [] => []
  | n :: rest => encode n :: encodeAll rest
termination_by structural n => n

end

end TreeNode

namespace ParameterTree

def decode : Decoder ParameterTree := TreeNode.decodeTree

def encode (x : ParameterTree) : Value :=
  .map [("name", encodeOption .text x.name), ("nodes", .list (TreeNode.encodeAll x.nodes)),
    ("card", encodeOption Marker.encode x.card)]

end ParameterTree

namespace Payload

def variants : List String := ["parameter_tree", "atomic_parameter_list", "single_parameter_node"]

def decode : Decoder Payload := fun d v =>
  choose d variants (selection d v) fun name content =>
    if name = "parameter_tree" then tree <$> valueContent (ParameterTree.decode d) content
    else if name = "atomic_parameter_list" then
      atoms <$> valueContent (AtomList.decode d) content
    else single <$> valueContent (Parameter.decode d) content

def encode : Payload → Value
  | tree t => .map [("parameter_tree", t.encode)]
  | atoms l => .map [("atomic_parameter_list", l.encode)]
  | single p => .map [("single_parameter_node", p.encode)]

def messageType : RecordType := { title := "struct MessageDecl", fields := ["payload"] }

def decodeMessage : Decoder Payload := fun d v => do
  let m ← members d messageType.title v
  build d messageType m (required messageType m "payload" (decode d))

def encodeMessage (p : Payload) : Value := .map [("payload", p.encode)]

end Payload

namespace TypeDeclaration

def type : RecordType := { title := "struct DataTypeDecl", fields := ["name", "structure"] }

def decode : Decoder TypeDeclaration := fun d v => do
  let m ← members d type.title v
  build d type m (mk <$> required type m "name" (text d)
    <*> required type m "structure" (Payload.decode d))

def encode (x : TypeDeclaration) : Value :=
  .map [("name", .text x.name), ("structure", x.content.encode)]

end TypeDeclaration

def Method.names : List (String × Method) :=
  [get, put, post, patch, delete].map fun m => (m.keyword, m)

def Method.decode : Decoder Method := Codec.keyword names

def Method.encode (m : Method) : Value := .text m.keyword

namespace OperationDeclaration

def type : RecordType :=
  { title := "struct OperationDecl",
    fields := ["name", "description", "http_method", "request", "response"] }

def decode : Decoder OperationDeclaration := fun d v => do
  let m ← members d type.title v
  build d type m (mk <$> required type m "name" (text d)
    <*> field type m "description" (some none) (optional text d)
    <*> field type m "http_method" (some none) (optional Method.decode d)
    <*> field type m "request" (some none) (optional Payload.decodeMessage d)
    <*> field type m "response" (some none) (optional Payload.decodeMessage d))

def encode (x : OperationDeclaration) : Value :=
  .map [("name", .text x.name), ("description", encodeOption .text x.description),
    ("http_method", encodeOption Method.encode x.method),
    ("request", encodeOption Payload.encodeMessage x.request),
    ("response", encodeOption Payload.encodeMessage x.response)]

end OperationDeclaration

namespace EndpointDeclaration

def type : RecordType :=
  { title := "struct EndpointDecl", fields := ["name", "description", "operations"] }

def decode : Decoder EndpointDeclaration := fun d v => do
  let m ← members d type.title v
  build d type m (mk <$> required type m "name" (text d)
    <*> field type m "description" (some none) (optional text d)
    <*> field type m "operations" (some []) (listOf OperationDeclaration.decode d))

def encode (x : EndpointDeclaration) : Value :=
  .map [("name", .text x.name), ("description", encodeOption .text x.description),
    ("operations", encodeList OperationDeclaration.encode x.operations)]

end EndpointDeclaration

end ServiceContract
