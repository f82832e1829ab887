import ServiceContract.Codec.Payload
import ServiceContract.Proofs.Codec.Record

/-!
# Decoding payloads again

Every payload is read back from its tree, whatever trees of parameters are nested in it, and so is
every declaration.
-/

namespace ServiceContract

open Codec

theorem Marker.decode_encode (x : Marker) : decode .tree x.encode = .ok x := by
  cases x <;> rfl

theorem Primitive.decode_encode (x : Primitive) : decode .tree x.encode = .ok x := by
  cases x <;> rfl

theorem Method.decode_encode (x : Method) : decode .tree x.encode = .ok x := by
  cases x <;> rfl

theorem Marker.encode_ne_null (x : Marker) : x.encode ≠ .null := by
  cases x <;> nofun

/-! ## Parameters -/

theorem optional_text (o : Option String) :
    optional text .tree (encodeOption .text o) = .ok o :=
  optional_encodeOption (fun _ _ => rfl) nofun

theorem optional_marker (o : Option Marker) :
    optional Marker.decode .tree (encodeOption Marker.encode o) = .ok o :=
  optional_encodeOption (fun x _ => x.decode_encode) fun x _ => x.encode_ne_null

theorem Atom.decode_encode (x : Atom) : decode .tree x.encode = .ok x := by
  refine decode_named rfl ?_
  simp only [Reading.seq_yields, Reading.map_yields]
  exact ⟨_, field_named rfl (optional_text x.name), _, field_named rfl x.base.decode_encode, _,
    field_named rfl (optional_marker x.card), rfl⟩

theorem Reference.decode_encode (x : Reference) : decode .tree x.encode = .ok x := by
  refine decode_named rfl ?_
  simp only [Reading.seq_yields, Reading.map_yields]
  exact ⟨_, field_named rfl (optional_text x.name), _, field_named rfl rfl, _,
    field_named rfl (optional_marker x.card), rfl⟩

theorem Generic.decode_encode (x : Generic) : decode .tree x.encode = .ok x := by
  refine decode_named rfl ?_
  simp only [Reading.seq_yields, Reading.map_yields]
  exact ⟨_, field_named rfl (optional_text x.name), _, field_named rfl (optional_marker x.card),
    rfl⟩

theorem Parameter.decode_encode (x : Parameter) : decode .tree x.encode = .ok x := by
  cases x with
  | atomic a => exact choose_variant (by decide) (map_eq_ok.mpr ⟨a, a.decode_encode, rfl⟩)
  | reference r => exact choose_variant (by decide) (map_eq_ok.mpr ⟨r, r.decode_encode, rfl⟩)
  | generic g => exact choose_variant (by decide) (map_eq_ok.mpr ⟨g, g.decode_encode, rfl⟩)

theorem AtomList.decode_encode (x : AtomList) : decode .tree x.encode = .ok x := by
  refine decode_named rfl ?_
  simp only [Reading.seq_yields, Reading.map_yields]
  exact ⟨_, field_named rfl (optional_text x.name), _,
    field_named rfl (listOf_encodeList fun a _ => a.decode_encode), _,
    field_named rfl (optional_marker x.card), rfl⟩

/-! ## Trees -/

namespace TreeNode

/-- A tree is read back if its nodes are. -/
theorem decodeTree_encode (x : ParameterTree)
    (h : decodeAll .tree (encodeAll x.nodes) = .ok x.nodes) :
    decodeTree .tree x.encode = .ok x := by
  refine build_named rfl ?_
  simp only [Reading.seq_yields, Reading.map_yields]
  exact ⟨_, field_named rfl (optional_text x.name), _, field_named rfl h, _,
    field_named rfl (optional_marker x.card), rfl⟩

variable {v : Value × Except Fault ParameterTree}

theorem ofSelection_node {p : Parameter} (h : Parameter.decode .tree v.1 = .ok p) :
    ofSelection .tree (.variant "node" (.given v) true) = .ok (.single p) := by
  refine choose_variant (by decide) ?_
  rw [if_pos rfl]
  exact map_eq_ok.mpr ⟨p, h, rfl⟩

theorem ofSelection_tree {t : ParameterTree} (h : v.2 = .ok t) :
    ofSelection .tree (.variant "tree" (.given v) true) = .ok (.tree t.name t.nodes t.card) := by
  refine choose_variant (by decide) ?_
  rw [if_neg (by decide), if_pos rfl]
  exact map_eq_ok.mpr ⟨t, h, rfl⟩

theorem ofSelection_list {l : AtomList} (h : AtomList.decode .tree v.1 = .ok l) :
    ofSelection .tree (.variant "list" (.given v) true) = .ok (.list l) := by
  refine choose_variant (by decide) ?_
  rw [if_neg (by decide), if_neg (by decide)]
  exact map_eq_ok.mpr ⟨l, h, rfl⟩

mutual

theorem decode_encode : ∀ n : TreeNode, decode .tree n.encode = .ok n
  | .single p => by
    rw [encode, decode]
    exact ofSelection_node p.decode_encode
  | .tree name nodes card => by
    have htree := decodeTree_encode ⟨name, nodes, card⟩ (decodeAll_encodeAll nodes)
    rw [encode, decode]
    exact ofSelection_tree (t := ⟨name, nodes, card⟩) htree
  | .list atoms => by
    rw [encode, decode]
    exact ofSelection_list atoms.decode_encode
termination_by structural n => n

theorem decodeAll_encodeAll : ∀ ns : List TreeNode, decodeAll .tree (encodeAll ns) = .ok ns
  | [] => rfl
  | n :: rest => by
    rw [encodeAll, decodeAll, decode_encode n, decodeAll_encodeAll rest]
termination_by structural ns => ns

end

end TreeNode

theorem ParameterTree.decode_encode (x : ParameterTree) : decode .tree x.encode = .ok x :=
  TreeNode.decodeTree_encode x (TreeNode.decodeAll_encodeAll x.nodes)

/-! ## Declarations -/

namespace Payload

theorem decode_encode (x : Payload) : decode .tree x.encode = .ok x := by
  cases x with
  | tree t => exact choose_variant (by decide) (map_eq_ok.mpr ⟨t, t.decode_encode, rfl⟩)
  | atoms l =>
      rw [encode, decode, selection_single]
      exact choose_variant (by decide) (map_eq_ok.mpr ⟨l, l.decode_encode, rfl⟩)
  | single p =>
      rw [encode, decode, selection_single]
      exact choose_variant (by decide) (map_eq_ok.mpr ⟨p, p.decode_encode, rfl⟩)

theorem decodeMessage_encodeMessage (x : Payload) :
    decodeMessage .tree (encodeMessage x) = .ok x := by
  refine decode_named rfl ?_
  exact ⟨_, field_named rfl x.decode_encode, rfl⟩

end Payload

theorem TypeDeclaration.decode_encode (x : TypeDeclaration) : decode .tree x.encode = .ok x := by
  refine decode_named rfl ?_
  simp only [Reading.seq_yields, Reading.map_yields]
  exact ⟨_, field_named rfl rfl, _, field_named rfl x.content.decode_encode, rfl⟩

theorem optional_message (o : Option Payload) :
    optional Payload.decodeMessage .tree (encodeOption Payload.encodeMessage o) = .ok o :=
  optional_encodeOption (fun x _ => x.decodeMessage_encodeMessage) nofun

theorem OperationDeclaration.decode_encode (x : OperationDeclaration) :
    decode .tree x.encode = .ok x := by
  have hmethod : optional Method.decode .tree (encodeOption Method.encode x.method) =
      .ok x.method :=
    optional_encodeOption (fun m _ => m.decode_encode) nofun
  refine decode_named rfl ?_
  simp only [Reading.seq_yields, Reading.map_yields]
  exact ⟨_, field_named rfl rfl, _, field_named rfl (optional_text x.description), _,
    field_named rfl hmethod, _, field_named rfl (optional_message x.request), _,
    field_named rfl (optional_message x.response), rfl⟩

theorem EndpointDeclaration.decode_encode (x : EndpointDeclaration) :
    decode .tree x.encode = .ok x := by
  refine decode_named rfl ?_
  simp only [Reading.seq_yields, Reading.map_yields]
  exact ⟨_, field_named rfl rfl, _, field_named rfl (optional_text x.description), _,
    field_named rfl (listOf_encodeList fun o _ => o.decode_encode), rfl⟩

end ServiceContract
