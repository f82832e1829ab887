import Mathlib.Data.List.Basic
import ServiceContract.Interface

/-!
# Outlines of types

What a structure says about the fields of its type, with names of types in place of handles, and
what it asks of the registry, in order. Neither depends on what is registered.
-/

namespace ServiceContract

open TypeGraph

/-! ## Fields by name -/

/-- The type of a field, by name. -/
inductive OutlineType where
  | primitive (p : Primitive)
  | named (name : String)
deriving DecidableEq

/-- A field whose type is given by name. -/
structure Outline where
  name : String
  type : OutlineType
  isList : Bool
  isNullable : Bool
deriving DecidableEq

namespace Outline

/-- A field that occurs as often as a cardinality says. -/
def ofCardinality (name : String) (type : OutlineType) (c : Cardinality) : Outline :=
  ⟨name, type, c = .list, c = .optional⟩

/-- The field in a registry that has types of these names, in this order. -/
def field (names : List String) (o : Outline) : Field :=
  ⟨o.name, match o.type with
    | .primitive p => .primitive p
    | .named n => .named ⟨names.idxOf n⟩, o.isList, o.isNullable⟩

/-- A type that is meant by name is one of these. -/
def Within (names : List String) (o : Outline) : Prop := ∀ n, o.type = .named n → n ∈ names

@[simp] theorem field_ofCardinality_primitive (names : List String) (name : String) (p : Primitive)
    (c : Cardinality) :
    (ofCardinality name (.primitive p) c).field names = .ofCardinality name (.primitive p) c := rfl

@[simp] theorem field_ofCardinality_named (names : List String) (name type : String)
    (c : Cardinality) :
    (ofCardinality name (.named type) c).field names =
      .ofCardinality name (.named ⟨names.idxOf type⟩) c := rfl

theorem within_primitive (names : List String) (name : String) (p : Primitive) (c : Cardinality) :
    (ofCardinality name (.primitive p) c).Within names := by
  intro n hn
  cases hn

theorem within_named {names : List String} {type : String} (h : type ∈ names) (name : String)
    (c : Cardinality) : (ofCardinality name (.named type) c).Within names := by
  intro n hn
  cases hn
  exact h

theorem Within.mono {names more : List String} (hp : names <+: more) {o : Outline}
    (h : o.Within names) : o.Within more :=
  fun n hn => hp.subset (h n hn)

/-- Types that are registered later do not change a field. -/
theorem field_mono {names more : List String} (hp : names <+: more) {o : Outline}
    (h : o.Within names) : o.field more = o.field names := by
  obtain ⟨name, type, isList, isNullable⟩ := o
  cases type with
  | primitive p => rfl
  | named n => simp [field, hp.idxOf_eq_of_mem (h n rfl)]

/-- Outlines that give the same field are the same. -/
theorem field_injective {names : List String} {a b : Outline} (ha : a.Within names)
    (hb : b.Within names) (h : a.field names = b.field names) : a = b := by
  obtain ⟨name, type, isList, isNullable⟩ := a
  obtain ⟨name', type', isList', isNullable'⟩ := b
  simp only [field, Field.mk.injEq] at h
  obtain ⟨rfl, htype, rfl, rfl⟩ := h
  cases type with
  | primitive p =>
      cases type' with
      | primitive q => simpa using htype
      | named n => cases htype
  | named n =>
      cases type' with
      | primitive q => cases htype
      | named n' =>
          simp only [FieldType.named.injEq, Handle.mk.injEq] at htype
          simp [(List.idxOf_inj (ha n rfl)).mp htype]

end Outline

/-! ## Outlines of structures -/

def nestedTypeName (owner : String) (position : Nat) (name : Option String) : String :=
  owner ++ Text.capitalize (childName name position)

def Atom.outline (position : Nat) (atom : Atom) : Outline :=
  .ofCardinality (childName atom.name position) (.primitive atom.base) (.ofMarker atom.card)

/-- The field of a single parameter: a reference means the type of its name, and a generic parameter
is raw. -/
def Parameter.outline (position : Nat) : Parameter → Outline
  | .atomic atom => atom.outline position
  | .reference r =>
    .ofCardinality (childName r.name position) (.named r.target) (.ofMarker r.card)
  | .generic g => .ofCardinality (childName g.name position) (.primitive .raw) (.ofMarker g.card)

def nestedOutline (owner : String) (position : Nat) (name : Option String)
    (card : Option Marker) : Outline :=
  .ofCardinality (childName name position) (.named (nestedTypeName owner position name))
    (.ofMarker card)

def TreeNode.outline (owner : String) (position : Nat) : TreeNode → Outline
  | .single p => p.outline position
  | .tree name _ card => nestedOutline owner position name card
  | .list l => nestedOutline owner position l.name l.card

def atomOutlines (atoms : List Atom) : List Outline :=
  atoms.mapIdx fun i atom => atom.outline (i + 1)

def nodeOutlines (owner : String) (nodes : List TreeNode) : List Outline :=
  nodes.mapIdx fun i node => node.outline owner (i + 1)

/-- A field that occurs exactly once. -/
def Outline.once (o : Outline) : Outline := { o with isList := false, isNullable := false }

/-- The fields of a whole structure. A single parameter keeps its cardinality only where that is not
expressed by a wrapper. -/
def Payload.outlines (owner : String) (placement : Placement) : Payload → List Outline
  | .tree t => nodeOutlines owner t.nodes
  | .atoms l => atomOutlines l.atoms
  | .single p => [match placement with
    | .onField => p.outline 1
    | .onWrapper => (p.outline 1).once]

def Shape.outlines (owner : String) : Shape → List Outline
  | .whole payload => payload.outlines owner .onWrapper
  | .tree t => nodeOutlines owner t.nodes
  | .list l => atomOutlines l.atoms

/-! ## What the registry is asked for -/

/-- What a registered name stands for. -/
inductive Origin where
  | declared (content : Payload)
  | shape (shape : Shape)
  | substitute
  | wrapper (fieldName base : String) (c : Cardinality)
deriving DecidableEq

/-- Whether a name stands for a structure that is spelled out. -/
def Origin.IsStructure : Origin → Prop
  | .declared _ | .shape _ => True
  | .substitute | .wrapper .. => False

/-- A name, and what it is to stand for. -/
structure Registration where
  name : String
  origin : Origin
deriving DecidableEq

def Registration.outlines (e : Registration) : List Outline :=
  match e.origin with
  | .declared content => content.outlines e.name .onField
  | .shape s => s.outlines e.name
  | .substitute => []
  | .wrapper fieldName base c => [.ofCardinality fieldName (.named base) c]

/-- A type is referred to, or a name is to be registered unless it is already. -/
inductive Event where
  | refer (target : String)
  | register (entry : Registration)
deriving DecidableEq

def Event.record? : Event → Option Registration
  | .refer _ => none
  | .register e => some e

def Parameter.events : Parameter → List Event
  | .reference r => [.refer r.target]
  | .atomic _ | .generic _ => []

mutual

/-- A nested structure asks for a type of its own before its children do. -/
def TreeNode.events (owner : String) (position : Nat) : TreeNode → List Event
  | .single p => p.events
  | .tree name nodes card =>
    let nested := nestedTypeName owner position name
    .register ⟨nested, .shape (.tree ⟨name, nodes, card⟩)⟩ :: nodeEvents nested 0 nodes
  | .list l => [.register ⟨nestedTypeName owner position l.name, .shape (.list l)⟩]
termination_by structural node => node

/-- The children of a tree that follow `position` others, in order. -/
def nodeEvents (owner : String) (position : Nat) : List TreeNode → List Event
  | [] => []
  | node :: rest => node.events owner (position + 1) ++ nodeEvents owner (position + 1) rest
termination_by structural nodes => nodes

end

def Payload.events (owner : String) : Payload → List Event
  | .tree t => nodeEvents owner 0 t.nodes
  | .atoms _ => []
  | .single p => p.events

def Shape.events (owner : String) : Shape → List Event
  | .whole payload => payload.events owner
  | .tree t => nodeEvents owner 0 t.nodes
  | .list _ => []

/-! ## Nested names are longer -/

theorem upper_ne_nil (c : Char) : Text.upper c ≠ [] := by
  unfold Text.upper
  simp only
  split
  case h_1 cs hs =>
    have hall : ∀ pair ∈ Text.upperSequences, pair.2 ≠ [] := by decide
    obtain ⟨before, after, heq, _⟩ := List.lookup_eq_some_iff.mp hs
    have hne : cs ≠ [] := hall (c.toNat, cs) (by rw [heq]; simp)
    simpa using hne
  case h_2 => split <;> simp

theorem capitalize_ne_empty {s : String} (h : s ≠ "") : Text.capitalize s ≠ "" := by
  unfold Text.capitalize
  cases hs : s.toList with
  | nil => exact (h (String.toList_eq_nil_iff.mp hs)).elim
  | cons c rest =>
      intro he
      have hnil : Text.upper c ++ rest = [] := by
        simpa using congrArg String.toList he
      exact upper_ne_nil c (List.append_eq_nil_iff.mp hnil).1

theorem childName_ne_empty (name : Option String) (position : Nat) :
    childName name position ≠ "" := by
  unfold childName
  cases hn : name.filter fun n => !Text.isBlank n with
  | none =>
      intro he
      have h := congrArg String.length he
      rw [String.length_append] at h
      have hpos : 0 < "anonymous".length := by decide
      simp at h
  | some n =>
      obtain ⟨_, hblank⟩ := Option.filter_eq_some_iff.mp hn
      rintro rfl
      simp [Text.isBlank] at hblank

/-- The name of a nested type is longer than that of its owner, so no type is nested in itself. -/
theorem length_lt_nestedTypeName (owner : String) (position : Nat) (name : Option String) :
    owner.length < (nestedTypeName owner position name).length := by
  have hne := capitalize_ne_empty (childName_ne_empty name position)
  have hpos : 0 < (Text.capitalize (childName name position)).length := by
    apply Nat.pos_of_ne_zero
    intro hz
    exact hne (String.length_eq_zero_iff.mp hz)
  rw [nestedTypeName, String.length_append]
  omega

/-! ## Names of wrappers -/

/-- The name of the type that holds a base type as often as a cardinality says. -/
def wrappedName (base : String) (c : Cardinality) : String :=
  match wrapperNames c with
  | none => base
  | some (ending, _) => base ++ ending

theorem getLast?_append (s : String) {t : String} {c : Char} (h : t.toList.getLast? = some c) :
    (s ++ t).toList.getLast? = some c := by
  rw [String.toList_append, List.getLast?_append, h]
  rfl

/-- The ending of a wrapper tells its cardinality. -/
theorem getLast?_wrappedName (base : String) {c : Cardinality} (hc : c ≠ .scalar) :
    (wrappedName base c).toList.getLast? = if c = .list then some 't' else some 'l' := by
  cases c with
  | scalar => exact (hc rfl).elim
  | list => exact getLast?_append base (by decide)
  | optional => exact getLast?_append base (by decide)

/-- Wrappers of one name hold the same base type as often. -/
theorem wrappedName_injective {base base' : String} {c c' : Cardinality} (hc : c ≠ .scalar)
    (hc' : c' ≠ .scalar) (h : wrappedName base c = wrappedName base' c') :
    base = base' ∧ c = c' := by
  have hlast := getLast?_wrappedName base hc
  rw [h, getLast?_wrappedName base' hc'] at hlast
  cases c with
  | scalar => exact (hc rfl).elim
  | list =>
      cases c' with
      | scalar => exact (hc' rfl).elim
      | list => exact ⟨(String.append_left_inj "List").mp h, rfl⟩
      | optional => simp at hlast
  | optional =>
      cases c' with
      | scalar => exact (hc' rfl).elim
      | list => simp at hlast
      | optional => exact ⟨(String.append_left_inj "Optional").mp h, rfl⟩

/-- The name of a wrapper is longer than that of its base, so no type is its own wrapper. -/
theorem length_lt_wrappedName (base : String) {c : Cardinality} (hc : c ≠ .scalar) :
    base.length < (wrappedName base c).length := by
  have hlist : "List".length = 4 := by decide
  have hoptional : "Optional".length = 8 := by decide
  cases c with
  | scalar => exact (hc rfl).elim
  | list =>
      rw [show wrappedName base .list = base ++ "List" from rfl, String.length_append]
      omega
  | optional =>
      rw [show wrappedName base .optional = base ++ "Optional" from rfl, String.length_append]
      omega

end ServiceContract
