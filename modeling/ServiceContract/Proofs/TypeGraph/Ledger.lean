import Mathlib.Data.List.Infix
import Mathlib.Data.List.Nodup
import ServiceContract.Proofs.Outcome
import ServiceContract.Proofs.TypeGraph.Outline

/-!
# The ledger of registered names

The names that events register, with what they stand for. The ledger follows every event, also those
of a structure it has met before: it needs no memory of shapes, because meeting a structure again
changes nothing.
-/

namespace ServiceContract

open TypeGraph

/-- The shape that a name stands for, if it stands for one. -/
def Origin.shape? : Origin → Option Shape
  | .shape s => some s
  | .declared _ | .substitute | .wrapper .. => none

/-- Whether a name may be asked for again: only declarations have to be new, and a shape has to be
the one that the name stands for. -/
def Origin.Accepts : Origin → Origin → Prop
  | .declared _, _ => False
  | .shape s, old => old = .shape s
  | .substitute, _ | .wrapper .., _ => True

instance (new old : Origin) : Decidable (new.Accepts old) := by
  cases new <;> simp only [Origin.Accepts] <;> infer_instance

/-- A structure is only asked for again where it is the one that the name stands for. -/
theorem Registration.eq_of_accepts {new old : Registration} (hname : old.name = new.name)
    (hs : new.origin.IsStructure) (ha : new.origin.Accepts old.origin) : old = new := by
  obtain ⟨name, origin⟩ := new
  obtain ⟨name', origin'⟩ := old
  cases origin with
  | declared content => exact ha.elim
  | shape s => rw [show origin' = .shape s from ha, show name' = name from hname]
  | substitute => exact hs.elim
  | wrapper fieldName base c => exact hs.elim

/-- An event that may be met again without a change. -/
def Event.Repeatable : Event → Prop
  | .refer _ => True
  | .register e => e.origin.Accepts e.origin

/-- What is registered, in order. -/
abbrev Ledger := List Registration

namespace Ledger

def names (L : Ledger) : List String := L.map (·.name)

/-- What a name stands for. -/
def record? (L : Ledger) (name : String) : Option Registration := L.find? fun e => e.name = name

def shape? (L : Ledger) (name : String) : Option Shape :=
  (L.record? name).bind fun e => e.origin.shape?

def handle? (L : Ledger) (name : String) : Option Handle :=
  if name ∈ L.names then some ⟨L.names.idxOf name⟩ else none

/-- One event: a type that is referred to has to be there, and a name is registered unless it may be
asked for again. -/
def step (L : Ledger) : Event → Except ModelError Ledger
  | .refer target => if target ∈ L.names then .ok L else .error (.unresolvedType target)
  | .register e =>
    match L.record? e.name with
    | some old => if e.origin.Accepts old.origin then .ok L else .error (.duplicateType e.name)
    | none => if Text.isBlank e.name then .error .emptyName else .ok (L ++ [e])

/-- Events in order, up to the first that fails. -/
def run (L : Ledger) (events : List Event) : Except ModelError Ledger := events.foldlM step L

/-! ## Looking up names -/

@[simp] theorem names_append (L L' : Ledger) : names (L ++ L') = L.names ++ L'.names :=
  List.map_append

theorem names_mono {L L' : Ledger} (hp : L <+: L') : L.names <+: L'.names := hp.map _

theorem record?_eq_none {L : Ledger} {name : String} : L.record? name = none ↔ name ∉ L.names := by
  simp [record?, names]

theorem record?_name {L : Ledger} {name : String} {e : Registration} (h : L.record? name = some e) :
    e.name = name := by
  simpa using List.find?_some h

theorem record?_mem {L : Ledger} {name : String} {e : Registration}
    (h : L.record? name = some e) : e ∈ L :=
  List.mem_of_find?_eq_some h

theorem record?_mem_names {L : Ledger} {name : String} {e : Registration}
    (h : L.record? name = some e) : name ∈ L.names := by
  rw [← record?_name h]
  exact List.mem_map_of_mem (record?_mem h)

theorem exists_record? {L : Ledger} {name : String} (h : name ∈ L.names) :
    ∃ e, L.record? name = some e := by
  cases he : L.record? name with
  | none => exact (record?_eq_none.mp he h).elim
  | some e => exact ⟨e, rfl⟩

theorem record?_mono {L L' : Ledger} (hp : L <+: L') {name : String} {e : Registration}
    (h : L.record? name = some e) : L'.record? name = some e := by
  obtain ⟨rest, rfl⟩ := hp
  have h' : List.find? (fun e => decide (e.name = name)) L = some e := h
  simp [record?, List.find?_append, h']

/-- A new name stands for its own entry, and every other name for what it did before. -/
theorem record?_append_new {L : Ledger} {e : Registration} (hn : e.name ∉ L.names)
    (name : String) :
    record? (L ++ [e]) name = if name = e.name then some e else L.record? name := by
  by_cases heq : name = e.name
  · have hnone : List.find? (fun x => decide (x.name = e.name)) L = none := record?_eq_none.mpr hn
    simp [record?, List.find?_append, heq, hnone]
  · simp [record?, List.find?_append, heq, Ne.symm heq]

/-- As names are distinct, the entry of a name is the only one. -/
theorem record?_of_mem {L : Ledger} (hd : L.names.Nodup) {e : Registration} (h : e ∈ L) :
    L.record? e.name = some e := by
  obtain ⟨found, hfound⟩ := exists_record? (List.mem_map_of_mem h : e.name ∈ L.names)
  have heq : found = e :=
    List.inj_on_of_nodup_map hd (record?_mem hfound) h (record?_name hfound)
  rw [hfound, heq]

theorem shape?_eq_some {L : Ledger} {name : String} {s : Shape} :
    L.shape? name = some s ↔ L.record? name = some ⟨name, .shape s⟩ := by
  unfold shape?
  cases he : L.record? name with
  | none => simp
  | some e =>
      obtain ⟨n, origin⟩ := e
      have hn : n = name := record?_name he
      cases origin <;> simp [hn, Origin.shape?]

theorem shape?_append_new {L : Ledger} {e : Registration} (hn : e.name ∉ L.names)
    (name : String) :
    shape? (L ++ [e]) name = if name = e.name then e.origin.shape? else L.shape? name := by
  unfold shape?
  rw [record?_append_new hn]
  split <;> rfl

theorem shape?_mono {L L' : Ledger} (hp : L <+: L') {name : String} {s : Shape}
    (h : L.shape? name = some s) : L'.shape? name = some s :=
  shape?_eq_some.mpr (record?_mono hp (shape?_eq_some.mp h))

/-- Names that are registered later do not change what an earlier one stands for. -/
theorem shape?_eq_of_mem {L L' : Ledger} (hp : L <+: L') {name : String} (hn : name ∈ L.names) :
    L'.shape? name = L.shape? name := by
  obtain ⟨e, he⟩ := exists_record? hn
  simp [shape?, he, record?_mono hp he]

theorem handle?_eq_some {L : Ledger} {name : String} {h : Handle} :
    L.handle? name = some h ↔ name ∈ L.names ∧ h = ⟨L.names.idxOf name⟩ := by
  unfold handle?
  split <;> simp_all [eq_comm]

theorem handle?_of_mem {L : Ledger} {name : String} (hn : name ∈ L.names) :
    L.handle? name = some ⟨L.names.idxOf name⟩ := if_pos hn

theorem handle?_of_notMem {L : Ledger} {name : String} (hn : name ∉ L.names) :
    L.handle? name = none := if_neg hn

/-- A new name has the next handle, and every other name the one that it had before. -/
theorem handle?_append_new {L : Ledger} {e : Registration} (hn : e.name ∉ L.names)
    (name : String) :
    handle? (L ++ [e]) name = if name = e.name then some ⟨L.length⟩ else L.handle? name := by
  have hnames : names (L ++ [e]) = L.names ++ [e.name] := names_append L [e]
  by_cases heq : name = e.name
  · have hidx : (names (L ++ [e])).idxOf e.name = L.length := by
      rw [hnames, List.idxOf_append_of_notMem hn]
      simp [names]
    rw [heq, if_pos rfl, handle?_of_mem (by simp [hnames]), hidx]
  · rw [if_neg heq]
    by_cases hmem : name ∈ L.names
    · rw [handle?_of_mem hmem, handle?_of_mem (by simp [hnames, hmem]), hnames,
        (List.prefix_append _ _).idxOf_eq_of_mem hmem]
    · rw [handle?_of_notMem hmem, handle?_of_notMem (by simp [hnames, hmem, heq])]

theorem handle?_mono {L L' : Ledger} (hp : L <+: L') {name : String} {h : Handle}
    (hh : L.handle? name = some h) : L'.handle? name = some h := by
  obtain ⟨hn, rfl⟩ := handle?_eq_some.mp hh
  rw [handle?_of_mem ((names_mono hp).subset hn), (names_mono hp).idxOf_eq_of_mem hn]

/-! ## What one event does -/

theorem step_refer (L : Ledger) (target : String) :
    L.step (.refer target) =
      if target ∈ L.names then .ok L else .error (.unresolvedType target) := rfl

theorem step_register (L : Ledger) (e : Registration) :
    L.step (.register e) =
      match L.record? e.name with
      | some old => if e.origin.Accepts old.origin then .ok L else .error (.duplicateType e.name)
      | none => if Text.isBlank e.name then .error .emptyName else .ok (L ++ [e]) := rfl

theorem step_refer_eq_ok {L L' : Ledger} {target : String} :
    L.step (.refer target) = .ok L' ↔ target ∈ L.names ∧ L' = L := by
  rw [step_refer]
  by_cases ht : target ∈ L.names
  · simp [ht, eq_comm]
  · simp [ht]

theorem step_refer_of_notMem {L : Ledger} {target : String} (ht : target ∉ L.names) :
    L.step (.refer target) = .error (.unresolvedType target) := if_neg ht

/-- A registration that succeeds either finds an entry that accepts it, or is new. -/
theorem step_register_eq_ok {L L' : Ledger} {e : Registration} :
    L.step (.register e) = .ok L' ↔
      (∃ old, L.record? e.name = some old ∧ e.origin.Accepts old.origin ∧ L' = L) ∨
        (L.record? e.name = none ∧ Text.isBlank e.name = false ∧ L' = L ++ [e]) := by
  constructor
  · intro h
    rw [step_register] at h
    split at h
    · next old he =>
        split at h
        · next ha =>
            cases h
            exact .inl ⟨old, he, ha, rfl⟩
        · cases h
    · next he =>
        split at h
        · cases h
        · next hb =>
            cases h
            exact .inr ⟨he, Bool.of_not_eq_true hb, rfl⟩
  · rintro (⟨old, he, ha, rfl⟩ | ⟨he, hb, rfl⟩)
    · rw [step_register, he]
      exact if_pos ha
    · rw [step_register, he, hb]
      rfl

theorem step_extends {L L' : Ledger} {event : Event} (h : L.step event = .ok L') : L <+: L' := by
  cases event with
  | refer target =>
      rw [(step_refer_eq_ok.mp h).2]
  | register e =>
      rcases step_register_eq_ok.mp h with ⟨_, _, _, rfl⟩ | ⟨_, _, rfl⟩
      · exact List.prefix_refl _
      · exact List.prefix_append _ _

/-- An event that changes nothing still changes nothing later. -/
theorem step_keep {L L' : Ledger} {event : Event} (hp : L <+: L') (h : L.step event = .ok L) :
    L'.step event = .ok L' := by
  cases event with
  | refer target =>
      have hmem := (step_refer_eq_ok.mp h).1
      exact step_refer_eq_ok.mpr ⟨(names_mono hp).subset hmem, rfl⟩
  | register e =>
      rcases step_register_eq_ok.mp h with ⟨old, hold, ha, _⟩ | ⟨_, _, heq⟩
      · exact step_register_eq_ok.mpr (.inl ⟨old, record?_mono hp hold, ha, rfl⟩)
      · simp at heq

theorem step_again {L L' : Ledger} {event : Event} (hr : event.Repeatable)
    (h : L.step event = .ok L') : L'.step event = .ok L' := by
  cases event with
  | refer target =>
      obtain ⟨hmem, rfl⟩ := step_refer_eq_ok.mp h
      exact h
  | register e =>
      rcases step_register_eq_ok.mp h with ⟨old, hold, ha, rfl⟩ | ⟨hnew, _, rfl⟩
      · exact h
      · have hself : record? (L ++ [e]) e.name = some e := by
          rw [record?_append_new (record?_eq_none.mp hnew), if_pos rfl]
        exact step_register_eq_ok.mpr (.inl ⟨e, hself, hr, rfl⟩)

/-! ## What events do -/

@[simp] theorem run_nil (L : Ledger) : L.run [] = .ok L := rfl

theorem run_cons (L : Ledger) (event : Event) (rest : List Event) :
    L.run (event :: rest) = L.step event >>= fun L₁ => L₁.run rest := rfl

/-- The first event that fails decides. -/
theorem run_cons_of_error {L : Ledger} {event : Event} {e : ModelError}
    (h : L.step event = .error e) (rest : List Event) : L.run (event :: rest) = .error e := by
  rw [run_cons, h]
  rfl

theorem run_cons_eq_ok {L L' : Ledger} {event : Event} {rest : List Event} :
    L.run (event :: rest) = .ok L' ↔ ∃ L₁, L.step event = .ok L₁ ∧ L₁.run rest = .ok L' := by
  rw [run_cons, bind_eq_ok]

theorem run_append (L : Ledger) (before after : List Event) :
    L.run (before ++ after) = L.run before >>= fun L₁ => L₁.run after :=
  List.foldlM_append

theorem run_append_eq_ok {L L' : Ledger} {before after : List Event} :
    L.run (before ++ after) = .ok L' ↔
      ∃ L₁, L.run before = .ok L₁ ∧ L₁.run after = .ok L' := by
  rw [run_append, bind_eq_ok]

theorem run_extends {L L' : Ledger} {events : List Event} (h : L.run events = .ok L') :
    L <+: L' := by
  induction events generalizing L with
  | nil =>
      cases h
      exact List.prefix_refl _
  | cons event rest ih =>
      obtain ⟨L₁, hstep, hrun⟩ := run_cons_eq_ok.mp h
      exact (step_extends hstep).trans (ih hrun)

/-- Events that change nothing still change nothing later. -/
theorem run_keep {L L' : Ledger} {events : List Event} (hp : L <+: L')
    (h : L.run events = .ok L) : L'.run events = .ok L' := by
  induction events with
  | nil => rfl
  | cons event rest ih =>
      obtain ⟨L₁, hstep, hrun⟩ := run_cons_eq_ok.mp h
      have hsame : L₁ = L :=
        (run_extends hrun).eq_of_length ((run_extends hrun).length_le.antisymm
          (step_extends hstep).length_le)
      subst hsame
      exact run_cons_eq_ok.mpr ⟨L', step_keep hp hstep, ih hrun⟩

/-- Events that were met may be met again without a change. -/
theorem run_again {L L' : Ledger} {events : List Event} (hr : ∀ event ∈ events, event.Repeatable)
    (h : L.run events = .ok L') : L'.run events = .ok L' := by
  induction events generalizing L with
  | nil => rfl
  | cons event rest ih =>
      obtain ⟨hevent, hrest⟩ := List.forall_mem_cons.mp hr
      obtain ⟨L₁, hstep, hrun⟩ := run_cons_eq_ok.mp h
      have hkeep := step_keep (run_extends hrun) (step_again hevent hstep)
      exact run_cons_eq_ok.mpr ⟨L', hkeep, ih hrest hrun⟩

theorem run_register_old {L : Ledger} {e old : Registration} (he : L.record? e.name = some old)
    (ha : e.origin.Accepts old.origin) : L.run [.register e] = .ok L :=
  run_cons_eq_ok.mpr ⟨L, step_register_eq_ok.mpr (.inl ⟨old, he, ha, rfl⟩), rfl⟩

theorem run_register_new {L : Ledger} {e : Registration} (he : L.record? e.name = none)
    (hb : Text.isBlank e.name = false) : L.run [.register e] = .ok (L ++ [e]) :=
  run_cons_eq_ok.mpr ⟨_, step_register_eq_ok.mpr (.inr ⟨he, hb, rfl⟩), rfl⟩

theorem run_register_blank {L : Ledger} {e : Registration} (he : L.record? e.name = none)
    (hb : Text.isBlank e.name = true) (rest : List Event) :
    L.run (.register e :: rest) = .error .emptyName := by
  refine run_cons_of_error ?_ rest
  rw [step_register, he]
  exact if_pos hb

theorem run_register_duplicate {L : Ledger} {e old : Registration}
    (he : L.record? e.name = some old) (ha : ¬ e.origin.Accepts old.origin) (rest : List Event) :
    L.run (.register e :: rest) = .error (.duplicateType e.name) := by
  refine run_cons_of_error ?_ rest
  rw [step_register, he]
  exact if_neg ha

/-- A name stands for the first of its registrations. -/
theorem run_record? {L L' : Ledger} {events : List Event} (h : L.run events = .ok L')
    (name : String) :
    L'.record? name = record? (L ++ events.filterMap Event.record?) name := by
  induction events generalizing L with
  | nil =>
      cases h
      simp
  | cons event rest ih =>
      obtain ⟨L₁, hstep, hrun⟩ := run_cons_eq_ok.mp h
      rw [ih hrun]
      cases event with
      | refer target =>
          rw [(step_refer_eq_ok.mp hstep).2]
          rfl
      | register e =>
          rcases step_register_eq_ok.mp hstep with ⟨old, hold, _, rfl⟩ | ⟨_, _, rfl⟩
          · by_cases heq : name = e.name
            · rw [heq, record?_mono (List.prefix_append _ _) hold,
                record?_mono (List.prefix_append _ _) hold]
            · simp [record?, List.find?_append, Event.record?, Ne.symm heq]
          · simp [Event.record?]

/-- A structure is what its name stands for. -/
theorem record?_of_structure {L L' : Ledger} {events : List Event} (h : L.run events = .ok L')
    {e : Registration} (he : .register e ∈ events) (hs : e.origin.IsStructure) :
    L'.record? e.name = some e := by
  obtain ⟨before, after, rfl⟩ := List.append_of_mem he
  obtain ⟨L₁, -, h₁⟩ := run_append_eq_ok.mp h
  obtain ⟨L₂, hstep, hrun⟩ := run_cons_eq_ok.mp h₁
  refine record?_mono (run_extends hrun) ?_
  rcases step_register_eq_ok.mp hstep with ⟨old, hold, ha, rfl⟩ | ⟨hnew, _, rfl⟩
  · rw [hold]
    exact congrArg some (Registration.eq_of_accepts (record?_name hold) hs ha)
  · rw [record?_append_new (record?_eq_none.mp hnew), if_pos rfl]

end Ledger

/-! ## Structures may be met again -/

theorem Parameter.events_repeatable (p : Parameter) : ∀ event ∈ p.events, event.Repeatable := by
  intro event he
  cases p with
  | reference r =>
      rw [List.mem_singleton.mp he]
      exact trivial
  | atomic a => cases he
  | generic g => cases he

mutual

theorem TreeNode.events_repeatable (owner : String) (position : Nat) (node : TreeNode) :
    ∀ event ∈ node.events owner position, event.Repeatable := by
  intro event he
  cases node with
  | single p => exact p.events_repeatable event he
  | tree name nodes card =>
      rcases List.mem_cons.mp he with rfl | he
      · exact rfl
      · exact nodeEvents_repeatable _ 0 nodes event he
  | list l =>
      rw [List.mem_singleton.mp he]
      exact rfl
termination_by structural node

theorem nodeEvents_repeatable (owner : String) (position : Nat) (nodes : List TreeNode) :
    ∀ event ∈ nodeEvents owner position nodes, event.Repeatable := by
  intro event he
  cases nodes with
  | nil => cases he
  | cons node rest =>
      rcases List.mem_append.mp he with he | he
      · exact TreeNode.events_repeatable owner (position + 1) node event he
      · exact nodeEvents_repeatable owner (position + 1) rest event he
termination_by structural nodes

end

theorem Shape.events_repeatable (owner : String) (s : Shape) :
    ∀ event ∈ s.events owner, event.Repeatable := by
  intro event he
  cases s with
  | whole payload =>
      cases payload with
      | tree t => exact nodeEvents_repeatable owner 0 t.nodes event he
      | atoms l => cases he
      | single p => exact p.events_repeatable event he
  | tree t => exact nodeEvents_repeatable owner 0 t.nodes event he
  | list l => cases he

end ServiceContract
