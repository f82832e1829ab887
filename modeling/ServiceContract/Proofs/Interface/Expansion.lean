import ServiceContract.Proofs.Interface.Plan

/-!
# The expansion of an interface

The types of declarations and endpoints, read off them one after another without remembering which
are there already. A model that can be built has the types of its expansion, each where its name
occurs first.
-/

namespace ServiceContract

open TypeGraph

/-! ## Expansions -/

mutual

/-- The types of the structures nested in a type, parents before children. -/
def TreeNode.nested (owner : String) (position : Nat) : TreeNode → List Registration
  | .single _ => []
  | .tree name nodes card =>
    let type := nestedTypeName owner position name
    ⟨type, .shape (.tree ⟨name, nodes, card⟩)⟩ :: nestedTypes type 0 nodes
  | .list l => [⟨nestedTypeName owner position l.name, .shape (.list l)⟩]
termination_by structural node => node

/-- The types nested in a type by children that follow `position` others. -/
def nestedTypes (owner : String) (position : Nat) : List TreeNode → List Registration
  | [] => []
  | node :: rest => node.nested owner (position + 1) ++ nestedTypes owner (position + 1) rest
termination_by structural nodes => nodes

end

def Payload.nested (owner : String) : Payload → List Registration
  | .tree t => nestedTypes owner 0 t.nodes
  | .atoms _ | .single _ => []

/-- The wrapper that a cardinality makes, if it makes one. -/
def wrapperEntries (base : String) (c : Cardinality) : List Registration :=
  match wrapperNames c with
  | none => []
  | some (ending, fieldName) => [⟨base ++ ending, .wrapper fieldName base c⟩]

/-- The types of a payload: none where it refers to one that is declared. -/
def Payload.expansion (inlineName : String) (p : Payload) : List Registration :=
  match p.reference? with
  | some _ => []
  | none => ⟨inlineName, .shape (.whole p)⟩ :: p.nested inlineName

def Message.expansion (m : Message) : List Registration :=
  match m.payload with
  | some p =>
    p.expansion m.inlineName ++ wrapperEntries (p.baseName m.inlineName) (.ofPayload (some p))
  | none => [⟨m.substituteName, .substitute⟩]

/-- The types that are made besides the declared ones, in order. -/
def synthesized (ts : List TypeDeclaration) (es : List EndpointDeclaration) : List Registration :=
  ts.flatMap (fun d => d.content.nested d.name) ++ (messages es).flatMap (·.expansion)

def expansion (ts : List TypeDeclaration) (es : List EndpointDeclaration) : List Registration :=
  ts.map (·.entry) ++ synthesized ts es

/-- The names of types that a message is about: that of its payload, those nested in it, and that of
its wrapper; or that of its substitute. -/
def Message.typeNames (m : Message) : List String :=
  match m.payload with
  | some p =>
    p.baseName m.inlineName :: (p.nested m.inlineName).map (·.name) ++
      (wrapperEntries (p.baseName m.inlineName) (.ofPayload (some p))).map (·.name)
  | none => [m.substituteName]

/-- The names of types that declarations and endpoints are about, in order. -/
def typeNames (ts : List TypeDeclaration) (es : List EndpointDeclaration) : List String :=
  ts.map (·.name) ++ ts.flatMap (fun d => (d.content.nested d.name).map (·.name)) ++
    (messages es).flatMap (·.typeNames)

/-! ## Plans ask for expansions -/

theorem Parameter.events_entries (p : Parameter) : p.events.filterMap Event.record? = [] := by
  cases p <;> rfl

mutual

theorem TreeNode.events_entries (owner : String) (position : Nat) (node : TreeNode) :
    (node.events owner position).filterMap Event.record? = node.nested owner position := by
  cases node with
  | single p => exact p.events_entries
  | tree name nodes card =>
      have hnodes := nodeEvents_entries (nestedTypeName owner position name) 0 nodes
      simp [TreeNode.events, TreeNode.nested, Event.record?, hnodes]
  | list l => rfl
termination_by structural node

theorem nodeEvents_entries (owner : String) (position : Nat) (nodes : List TreeNode) :
    (nodeEvents owner position nodes).filterMap Event.record? =
      nestedTypes owner position nodes := by
  cases nodes with
  | nil => rfl
  | cons node rest =>
      have hnode := TreeNode.events_entries owner (position + 1) node
      have hrest := nodeEvents_entries owner (position + 1) rest
      simp [nodeEvents, nestedTypes, List.filterMap_append, hnode, hrest]
termination_by structural nodes

end

theorem Payload.events_entries (owner : String) (p : Payload) :
    (p.events owner).filterMap Event.record? = p.nested owner := by
  cases p with
  | tree t => exact nodeEvents_entries owner 0 t.nodes
  | atoms l => rfl
  | single p => exact p.events_entries

theorem wrapperEvents_entries (base : String) (c : Cardinality) :
    (wrapperEvents base c).filterMap Event.record? = wrapperEntries base c := by
  cases c <;> rfl

theorem Message.events_entries (m : Message) : m.events.filterMap Event.record? = m.expansion := by
  unfold Message.events Message.expansion
  cases m.payload with
  | none => rfl
  | some p =>
      simp only [List.filterMap_append, wrapperEvents_entries]
      unfold Payload.baseEvents Payload.expansion
      cases p.reference? with
      | some r => rfl
      | none => simp [Event.record?, p.events_entries]

/-- What the plan registers is the expansion. -/
theorem plan_entries (ts : List TypeDeclaration) (es : List EndpointDeclaration) :
    (plan ts es).filterMap Event.record? = expansion ts es := by
  have hnames : (ts.map fun d => Event.register d.entry).filterMap Event.record? =
      ts.map (·.entry) := by
    rw [List.filterMap_map]
    exact congrFun List.filterMap_eq_map ts
  simp only [plan, declarationEvents, expansion, synthesized, flatMap_events_eq,
    List.filterMap_append, hnames, List.filterMap_flatMap, Payload.events_entries,
    Message.events_entries, List.append_assoc]

theorem register_mem_plan {ts : List TypeDeclaration} {es : List EndpointDeclaration}
    {e : Registration} : .register e ∈ plan ts es ↔ e ∈ expansion ts es := by
  rw [← plan_entries, List.mem_filterMap]
  constructor
  · intro he
    exact ⟨_, he, rfl⟩
  · rintro ⟨event, hevent, he⟩
    cases event with
    | refer t => cases he
    | register e' =>
        cases he
        exact hevent

/-- What a name stands for when the plan has been followed is an entry of the expansion. -/
theorem mem_expansion_of_record? {ts : List TypeDeclaration} {es : List EndpointDeclaration}
    {L : Ledger} (hL : Ledger.run [] (plan ts es) = .ok L) {name : String} {e : Registration}
    (he : L.record? name = some e) : e ∈ expansion ts es := by
  rw [Ledger.run_record? hL, List.nil_append, plan_entries] at he
  exact Ledger.record?_mem he

/-! ## Names in order of first occurrence -/

/-- Following the events registers these names, each where it occurs first. -/
def Registers (events : List Event) (names : List String) : Prop :=
  ∀ (seen : List String) (L L' : Ledger), L.names = seen.eraseDups → L.run events = .ok L' →
    L'.names = (seen ++ names).eraseDups

namespace Registers

theorem nil : Registers [] [] := by
  intro seen L L' hseen h
  cases h
  rw [hseen, List.append_nil]

theorem append {before after : List Event} {names more : List String}
    (hb : Registers before names) (ha : Registers after more) :
    Registers (before ++ after) (names ++ more) := by
  intro seen L L' hseen h
  obtain ⟨L₁, h₁, h₂⟩ := Ledger.run_append_eq_ok.mp h
  rw [ha (seen ++ names) L₁ L' (hb seen L L₁ hseen h₁) h₂, List.append_assoc]

theorem flatMap {α : Type} {events : α → List Event} {names : α → List String} {xs : List α}
    (h : ∀ x ∈ xs, Registers (events x) (names x)) :
    Registers (xs.flatMap events) (xs.flatMap names) := by
  induction xs with
  | nil => exact nil
  | cons x rest ih =>
      obtain ⟨hx, hrest⟩ := List.forall_mem_cons.mp h
      exact append hx (ih hrest)

theorem eraseDups_append_singleton (seen : List String) (name : String) :
    (seen ++ [name]).eraseDups =
      if name ∈ seen then seen.eraseDups else seen.eraseDups ++ [name] := by
  rw [List.eraseDups_append, List.cons_removeAll]
  by_cases hn : name ∈ seen
  · simp [hn, List.removeAll]
  · simp [hn, List.removeAll, List.eraseDups_cons]

/-- A type that is referred to is there already. -/
theorem refer (target : String) : Registers [.refer target] [target] := by
  intro seen L L' hseen h
  obtain ⟨L₁, hstep, hrun⟩ := Ledger.run_cons_eq_ok.mp h
  cases hrun
  obtain ⟨hmem, rfl⟩ := Ledger.step_refer_eq_ok.mp hstep
  have hn : target ∈ seen := by simpa [hseen] using hmem
  rw [eraseDups_append_singleton, if_pos hn, hseen]

theorem register (e : Registration) : Registers [.register e] [e.name] := by
  intro seen L L' hseen h
  obtain ⟨L₁, hstep, hrun⟩ := Ledger.run_cons_eq_ok.mp h
  cases hrun
  rw [eraseDups_append_singleton, ← hseen]
  rcases Ledger.step_register_eq_ok.mp hstep with ⟨old, hold, _, rfl⟩ | ⟨hnew, _, rfl⟩
  · have hn : e.name ∈ seen := by simpa [hseen] using Ledger.record?_mem_names hold
    rw [if_pos hn]
  · have hn : e.name ∉ seen := by simpa [hseen] using Ledger.record?_eq_none.mp hnew
    rw [if_neg hn, Ledger.names_append]
    rfl

/-- References in a structure add nothing to the names that it registers. -/
theorem entries (events : List Event) :
    Registers events ((events.filterMap Event.record?).map (·.name)) := by
  induction events with
  | nil => exact nil
  | cons event rest ih =>
      cases event with
      | register e => exact append (register e) ih
      | refer target =>
          intro seen L L' hseen h
          obtain ⟨L₁, hstep, hrun⟩ := Ledger.run_cons_eq_ok.mp h
          obtain ⟨_, rfl⟩ := Ledger.step_refer_eq_ok.mp hstep
          exact ih seen _ L' hseen hrun

theorem message (m : Message) : Registers m.events m.typeNames := by
  unfold Message.events Message.typeNames
  cases m.payload with
  | none => exact register ⟨m.substituteName, .substitute⟩
  | some p =>
      have hwrapper := entries (wrapperEvents (p.baseName m.inlineName) (.ofPayload (some p)))
      rw [wrapperEvents_entries] at hwrapper
      refine append ?_ hwrapper
      unfold Payload.baseEvents Payload.baseName
      cases hr : p.reference? with
      | none =>
          have hnested := entries (p.events m.inlineName)
          rw [Payload.events_entries] at hnested
          exact append (register ⟨m.inlineName, .shape (.whole p)⟩) hnested
      | some r =>
          have hnone : p.nested m.inlineName = [] := by
            cases p with
            | tree t => cases hr
            | atoms l => cases hr
            | single q => rfl
          rw [hnone]
          exact refer r.target

theorem plan (ts : List TypeDeclaration) (es : List EndpointDeclaration) :
    Registers (plan ts es) (typeNames ts es) := by
  have hnames : Registers (ts.map fun d => .register d.entry) (ts.map (·.name)) := by
    rw [List.map_eq_flatMap, List.map_eq_flatMap]
    exact flatMap fun d _ => register d.entry
  have hnested : Registers (ts.flatMap fun d => d.content.events d.name)
      (ts.flatMap fun d => (d.content.nested d.name).map (·.name)) := by
    refine flatMap fun d _ => ?_
    rw [← Payload.events_entries]
    exact entries _
  rw [ServiceContract.plan, flatMap_events_eq]
  exact append (append hnames hnested) (flatMap fun m _ => message m)

end Registers

/-! ## Models are expansions -/

/-- The registry has the type of an entry under the handle of its name, and the types that its
fields mean are there. -/
def Registry.HasType (r : Registry) (names : List String) (e : Registration) : Prop :=
  r.get? ⟨names.idxOf e.name⟩ = some ⟨e.name, e.outlines.map (·.field names)⟩ ∧
    ∀ o ∈ e.outlines, o.Within names

/-- The types of a model are those of its expansion. A name that occurs more than once has the type
of its first occurrence, and of every structure among its occurrences. -/
structure Model.IsExpansion (m : Model) (ts : List TypeDeclaration)
    (es : List EndpointDeclaration) : Prop where
  names_eq : m.registry.types.map (·.name) = (typeNames ts es).eraseDups
  lookup_eq : ∀ n ∈ typeNames ts es,
    m.registry.lookup n = some ⟨(typeNames ts es).eraseDups.idxOf n⟩
  structures : ∀ e ∈ expansion ts es, e.origin.IsStructure →
    m.registry.HasType (typeNames ts es).eraseDups e
  firsts : ∀ n e, Ledger.record? (expansion ts es) n = some e →
    m.registry.HasType (typeNames ts es).eraseDups e
  endpoints_eq : m.endpoints = es.map (·.resolved (typeNames ts es).eraseDups)

theorem Registry.Mirrors.hasType {r : Registry} {L : Ledger} (hm : r.Mirrors L .nothing)
    {e : Registration} (he : L.record? e.name = some e) : r.HasType L.names e := by
  have hget := hm.get?_eq (Ledger.handle?_of_mem (Ledger.record?_mem_names he))
  rw [he] at hget
  exact ⟨hget, hm.within e (Ledger.record?_mem he)⟩

theorem Model.build_isExpansion {ts : List TypeDeclaration} {es : List EndpointDeclaration}
    {m : Model} (h : Model.build ts es = .ok m) : m.IsExpansion ts es := by
  obtain ⟨L, hL, hm⟩ := Model.build_eq_ok h
  have hnames : L.names = (typeNames ts es).eraseDups := Registers.plan ts es [] [] L rfl hL
  have hentries : ∀ n, L.record? n = Ledger.record? (expansion ts es) n := by
    intro n
    rw [Ledger.run_record? hL, List.nil_append, plan_entries]
  constructor
  · rw [hm.registry.names_eq, hnames]
  · intro n hn
    rw [hm.registry.lookup_eq, ← hnames]
    refine Ledger.handle?_of_mem ?_
    rwa [hnames, List.mem_eraseDups]
  · intro e he hs
    rw [← hnames]
    exact hm.registry.hasType (Ledger.record?_of_structure hL (register_mem_plan.mpr he) hs)
  · intro n e he
    rw [← hentries] at he
    rw [← hnames]
    exact hm.registry.hasType (by rwa [Ledger.record?_name he])
  · rw [hm.endpoints_eq, hnames]

/-- Orders refer to a type that is declared after them, and have a nested address. -/
def orderTypes : List TypeDeclaration :=
  [⟨"Order", .tree ⟨none, [.single (.reference ⟨some "items", "Item", some .zeroOrMore⟩),
      .tree (some "address") [.single (.atomic ⟨none, .string, none⟩)] none], none⟩⟩,
    ⟨"Item", .atoms ⟨none, [⟨some "id", .int, none⟩], none⟩⟩]

/-- All orders are listed, on no request. -/
def orderEndpoints : List EndpointDeclaration :=
  [⟨"orders", none, [⟨"all", none, none, none,
    some (.single (.reference ⟨none, "Order", some .zeroOrMore⟩))⟩]⟩]

def orderModel : Model where
  registry :=
    { types := [
        ⟨"Order", [⟨"items", .named ⟨1⟩, true, false⟩, ⟨"address", .named ⟨2⟩, false, false⟩]⟩,
        ⟨"Item", [⟨"id", .primitive .int, false, false⟩]⟩,
        ⟨"OrderAddress", [⟨"anonymous1", .primitive .string, false, false⟩]⟩,
        ⟨"AllRequestMessage", []⟩,
        ⟨"OrderList", [⟨"entries", .named ⟨0⟩, true, false⟩]⟩]
      index := [("OrderList", ⟨4⟩), ("AllRequestMessage", ⟨3⟩), ("OrderAddress", ⟨2⟩),
        ("Item", ⟨1⟩), ("Order", ⟨0⟩)] }
  endpoints := [⟨"orders", none, [⟨"all", none, .post, [⟨"input", ⟨3⟩⟩], ⟨4⟩⟩]⟩]

theorem Model.build_isExpansion_orders :
    Model.build orderTypes orderEndpoints = .ok orderModel ∧
      orderModel.IsExpansion orderTypes orderEndpoints := by
  have h : Model.build orderTypes orderEndpoints = .ok orderModel := by decide +kernel
  exact ⟨h, Model.build_isExpansion h⟩

end ServiceContract
