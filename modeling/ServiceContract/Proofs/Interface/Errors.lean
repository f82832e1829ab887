import ServiceContract.Proofs.Interface.References

/-!
# Errors of building

Building fails at the first event of its plan that the ledger cannot follow. What the error says is
then the case: a declared name is blank, a reference leads nowhere, or a name is asked for by things
that cannot share a type. A handle is never unknown.
-/

namespace ServiceContract

open TypeGraph

/-! ## Events that cannot be followed -/

namespace Ledger

variable {L L' : Ledger} {event : Event} {events : List Event} {e : ModelError}

/-- Why an event cannot be followed. -/
inductive Refuses (L : Ledger) : Event → ModelError → Prop where
  | unresolved {target : String} : target ∉ L.names →
      Refuses L (.refer target) (.unresolvedType target)
  | duplicate {new old : Registration} : old ∈ L → old.name = new.name →
      ¬ new.origin.Accepts old.origin → Refuses L (.register new) (.duplicateType new.name)
  | blank {new : Registration} : Text.isBlank new.name = true → Refuses L (.register new) .emptyName

theorem refuses_of_step (h : L.step event = .error e) : L.Refuses event e := by
  cases event with
  | refer target =>
      rw [step_refer] at h
      split at h
      · cases h
      · next ht =>
          cases h
          exact .unresolved ht
  | register new =>
      rw [step_register] at h
      split at h
      · next old hold =>
          split at h
          · cases h
          · next ha =>
              cases h
              exact .duplicate (record?_mem hold) (record?_name hold) ha
      · split at h
        · next hb =>
            cases h
            exact .blank hb
        · cases h

/-- What is registered was there before or is registered by an event. -/
theorem mem_of_run (h : L.run events = .ok L') {r : Registration} (hr : r ∈ L') :
    r ∈ L ∨ .register r ∈ events := by
  induction events generalizing L with
  | nil =>
      cases h
      exact .inl hr
  | cons event rest ih =>
      obtain ⟨L₁, hstep, hrun⟩ := run_cons_eq_ok.mp h
      rcases ih hrun with hr | hr
      · cases event with
        | refer target =>
            rw [(step_refer_eq_ok.mp hstep).2] at hr
            exact .inl hr
        | register new =>
            rcases step_register_eq_ok.mp hstep with ⟨_, _, _, rfl⟩ | ⟨_, _, rfl⟩
            · exact .inl hr
            · refine (List.mem_append.mp hr).imp_right fun hr => ?_
              rw [List.mem_singleton.mp hr]
              exact List.mem_cons_self
      · exact .inr (List.mem_cons_of_mem event hr)

/-- A run fails at the first event that cannot be followed. -/
theorem exists_refused (h : L.run events = .error e) : ∃ before event after L',
    events = before ++ event :: after ∧ L.run before = .ok L' ∧ L'.Refuses event e := by
  obtain ⟨before, event, after, L', heq, hbefore, hstep⟩ := foldlM_eq_error.mp h
  exact ⟨before, event, after, L', heq, hbefore, refuses_of_step hstep⟩

end Ledger

/-! ## Names of structures -/

theorem isBlank_append (s t : String) :
    Text.isBlank (s ++ t) = (Text.isBlank s && Text.isBlank t) := by
  simp [Text.isBlank, String.toList_append, List.all_append]

/-- A name with an ending that is not blank is not blank. -/
theorem isBlank_append_right (s : String) {t : String} (h : Text.isBlank t = false) :
    Text.isBlank (s ++ t) = false := by
  rw [isBlank_append, h, Bool.and_false]

mutual

/-- The name of a nested type begins with that of its owner, so it is not blank where that is
not. -/
theorem TreeNode.nested_isBlank {owner : String} (ho : Text.isBlank owner = false)
    (position : Nat) (node : TreeNode) :
    ∀ e ∈ node.nested owner position, Text.isBlank e.name = false := by
  intro e he
  have hnested : ∀ name, Text.isBlank (nestedTypeName owner position name) = false := by
    intro name
    rw [nestedTypeName, isBlank_append, ho, Bool.false_and]
  cases node with
  | single p => cases he
  | tree name nodes card =>
      rcases List.mem_cons.mp he with rfl | he
      · exact hnested name
      · exact nestedTypes_isBlank (hnested name) 0 nodes e he
  | list l =>
      rw [List.mem_singleton.mp he]
      exact hnested l.name
termination_by structural node

theorem nestedTypes_isBlank {owner : String} (ho : Text.isBlank owner = false) (position : Nat)
    (nodes : List TreeNode) :
    ∀ e ∈ nestedTypes owner position nodes, Text.isBlank e.name = false := by
  intro e he
  cases nodes with
  | nil => cases he
  | cons node rest =>
      rcases List.mem_append.mp he with he | he
      · exact TreeNode.nested_isBlank ho (position + 1) node e he
      · exact nestedTypes_isBlank ho (position + 1) rest e he
termination_by structural nodes

end

theorem Payload.nested_isBlank {owner : String} (ho : Text.isBlank owner = false) (p : Payload) :
    ∀ e ∈ p.nested owner, Text.isBlank e.name = false := by
  intro e he
  cases p with
  | tree t => exact nestedTypes_isBlank ho 0 t.nodes e he
  | atoms l => cases he
  | single q => cases he

theorem wrapperEntries_isBlank {base : String} {c : Cardinality} :
    ∀ e ∈ wrapperEntries base c, Text.isBlank e.name = false := by
  intro e he
  cases c with
  | scalar => cases he
  | list =>
      rw [List.mem_singleton.mp he]
      exact isBlank_append_right base (by decide)
  | optional =>
      rw [List.mem_singleton.mp he]
      exact isBlank_append_right base (by decide)

/-- The names that building makes for a message are not blank. -/
theorem Message.expansion_isBlank {es : List EndpointDeclaration} {m : Message}
    (hm : m ∈ messages es) : ∀ e ∈ m.expansion, Text.isBlank e.name = false := by
  have hnames : Text.isBlank m.inlineName = false ∧ Text.isBlank m.substituteName = false := by
    obtain ⟨_, _, o, _, hm⟩ := mem_messages.mp hm
    simp only [OperationDeclaration.messages, List.mem_cons, List.not_mem_nil, or_false] at hm
    rcases hm with rfl | rfl
    · exact ⟨isBlank_append_right o.name (by decide),
        isBlank_append_right (Text.capitalize o.name) (by decide)⟩
    · have hvoid : Text.isBlank voidResponseName = false := by decide
      exact ⟨isBlank_append_right (Text.capitalize o.name) (by decide), hvoid⟩
  intro e he
  unfold Message.expansion at he
  cases hp : m.payload with
  | none =>
      rw [hp] at he
      rw [List.mem_singleton.mp he]
      exact hnames.2
  | some p =>
      rw [hp] at he
      rcases List.mem_append.mp he with he | he
      · unfold Payload.expansion at he
        cases hr : p.reference? with
        | some r =>
            rw [hr] at he
            cases he
        | none =>
            rw [hr] at he
            rcases List.mem_cons.mp he with rfl | he
            · exact hnames.1
            · exact p.nested_isBlank hnames.1 e he
      · exact wrapperEntries_isBlank e he

variable {ts : List TypeDeclaration} {es : List EndpointDeclaration} {e : ModelError}

/-- Where no declared name is blank, no name is. -/
theorem synthesized_isBlank (hts : ∀ d ∈ ts, Text.isBlank d.name = false) :
    ∀ e ∈ synthesized ts es, Text.isBlank e.name = false := by
  intro e he
  simp only [synthesized, List.mem_append, List.mem_flatMap] at he
  rcases he with ⟨d, hd, he⟩ | ⟨m, hm, he⟩
  · exact d.content.nested_isBlank (hts d hd) e he
  · exact Message.expansion_isBlank hm e he

/-! ## Plans in two parts -/

/-- What a plan asks for after the declared names. -/
def contentEvents (ts : List TypeDeclaration) (es : List EndpointDeclaration) : List Event :=
  ts.flatMap (fun d => d.content.events d.name) ++ es.flatMap EndpointDeclaration.events

theorem plan_eq (ts : List TypeDeclaration) (es : List EndpointDeclaration) :
    plan ts es = ts.map (fun d => .register d.entry) ++ contentEvents ts es :=
  List.append_assoc _ _ _

theorem contentEvents_entries (ts : List TypeDeclaration) (es : List EndpointDeclaration) :
    (contentEvents ts es).filterMap Event.record? = synthesized ts es := by
  simp only [contentEvents, synthesized, flatMap_events_eq, List.filterMap_append,
    List.filterMap_flatMap, Payload.events_entries, Message.events_entries]

theorem Message.events_repeatable (m : Message) : ∀ event ∈ m.events, event.Repeatable := by
  intro event he
  unfold Message.events at he
  cases hp : m.payload with
  | none =>
      rw [hp] at he
      rw [List.mem_singleton.mp he]
      exact trivial
  | some p =>
      rw [hp] at he
      rcases List.mem_append.mp he with he | he
      · unfold Payload.baseEvents at he
        cases hr : p.reference? with
        | some r =>
            rw [hr] at he
            rw [List.mem_singleton.mp he]
            exact trivial
        | none =>
            rw [hr] at he
            rcases List.mem_cons.mp he with rfl | he
            · exact rfl
            · exact (Shape.whole p).events_repeatable m.inlineName event he
      · unfold wrapperEvents at he
        split at he
        · cases he
        · rw [List.mem_singleton.mp he]
          exact trivial

/-- Only declared names have to be new. -/
theorem contentEvents_repeatable : ∀ event ∈ contentEvents ts es, event.Repeatable := by
  intro event he
  rw [contentEvents, flatMap_events_eq] at he
  rcases List.mem_append.mp he with he | he
  · obtain ⟨d, _, he⟩ := List.mem_flatMap.mp he
    exact (Shape.whole d.content).events_repeatable d.name event he
  · obtain ⟨m, _, he⟩ := List.mem_flatMap.mp he
    exact m.events_repeatable event he

/-! ## What errors say -/

/-- What an error of building says of the declarations. A name that is taken is declared twice, or
it is that of an inline payload or of a nested structure and also that of a declaration, a wrapper,
a substitute or a structure of another shape. -/
def ModelError.IsTrue (ts : List TypeDeclaration) (es : List EndpointDeclaration) :
    ModelError → Prop
  | .unknownHandle _ => False
  | .emptyName => ∃ d ∈ ts, Text.isBlank d.name = true
  | .unresolvedType name => name ∈ references ts es ∧ name ∉ ts.map (·.name)
  | .duplicateType name => 2 ≤ (ts.map (·.name)).count name ∨
    ∃ s, ⟨name, .shape s⟩ ∈ synthesized ts es ∧
      ∃ other ∈ expansion ts es, other.name = name ∧ other.origin ≠ .shape s

/-- A name that cannot be declared is blank or declared before. -/
theorem isTrue_of_declared
    (h : Ledger.run [] (ts.map fun d => .register d.entry) = .error e) : e.IsTrue ts es := by
  obtain ⟨before, event, after, L, heq, hbefore, hrefuses⟩ := Ledger.exists_refused h
  obtain ⟨front, rest, rfl, rfl, hrest⟩ := List.map_eq_append_iff.mp heq
  obtain ⟨d, back, rfl, rfl, -⟩ := List.map_eq_cons_iff.mp hrest
  have hL : L = front.map (·.entry) := Ledger.run_declared hbefore
  cases hrefuses with
  | duplicate hold hname _ =>
      rw [hL] at hold
      obtain ⟨d', hd', rfl⟩ := List.mem_map.mp hold
      have hfront : 0 < (front.map (·.name)).count d.name :=
        List.count_pos_iff.mpr (List.mem_map.mpr ⟨d', hd', hname⟩)
      have hcount : ((front ++ d :: back).map (·.name)).count d.name =
          (front.map (·.name)).count d.name + ((back.map (·.name)).count d.name + 1) := by
        simp [List.count_append]
      refine .inl ?_
      show 2 ≤ ((front ++ d :: back).map (·.name)).count d.name
      omega
  | blank hb => exact ⟨d, by simp, hb⟩

/-- What may be asked for again but is refused is a structure, whose name stands for something
else. -/
theorem Origin.exists_shape_of_rejects {new old : Origin} (hrepeat : new.Accepts new)
    (hrejects : ¬ new.Accepts old) : ∃ s, new = .shape s ∧ old ≠ .shape s := by
  cases new with
  | declared content => exact hrepeat.elim
  | shape s => exact ⟨s, rfl, hrejects⟩
  | substitute => exact (hrejects trivial).elim
  | wrapper fieldName base c => exact (hrejects trivial).elim

/-- Once all names are declared, what cannot be followed is a reference to no declared type, or a
structure whose name stands for something else. -/
theorem isTrue_of_content
    (h : Ledger.run (ts.map (·.entry)) (contentEvents ts es) = .error e) : e.IsTrue ts es := by
  obtain ⟨before, event, after, L, heq, hbefore, hrefuses⟩ := Ledger.exists_refused h
  have hevent : event ∈ contentEvents ts es :=
    heq ▸ List.mem_append_right before List.mem_cons_self
  have hsynthesized : ∀ r, .register r ∈ contentEvents ts es → r ∈ synthesized ts es := by
    intro r hr
    rw [← contentEvents_entries]
    exact List.mem_filterMap.mpr ⟨_, hr, rfl⟩
  cases hrefuses with
  | unresolved htarget =>
      refine ⟨refer_mem_plan.mp ?_, fun hname => htarget ?_⟩
      · rw [plan_eq]
        exact List.mem_append_right _ hevent
      · refine (Ledger.names_mono (Ledger.run_extends hbefore)).subset ?_
        simpa [Ledger.names, TypeDeclaration.entry] using hname
  | @duplicate new old hold hname hrejects =>
      obtain ⟨s, hs, hne⟩ :=
        Origin.exists_shape_of_rejects (contentEvents_repeatable _ hevent) hrejects
      -- what has the name already is declared, or was asked for before
      refine .inr ⟨s, hs ▸ hsynthesized new hevent, old, ?_, hname, hne⟩
      rcases Ledger.mem_of_run hbefore hold with hold | hold
      · exact List.mem_append_left _ hold
      · exact List.mem_append_right _ (hsynthesized old (heq ▸ List.mem_append_left _ hold))
  | @blank new hb =>
      by_contra hnone
      have hts : ∀ d ∈ ts, Text.isBlank d.name = false := fun d hd =>
        Bool.of_not_eq_true fun hblank => hnone ⟨d, hd, hblank⟩
      rw [synthesized_isBlank hts new (hsynthesized new hevent)] at hb
      cases hb

/-- An error of building is true of the declarations. -/
theorem Model.isTrue_of_build (h : Model.build ts es = .error e) : e.IsTrue ts es := by
  rw [Model.build_eq_error, plan_eq, Ledger.run_append] at h
  rcases bind_eq_error.mp h with hnames | ⟨L, hL, hcontent⟩
  · exact isTrue_of_declared hnames
  · obtain rfl : L = ts.map TypeDeclaration.entry := Ledger.run_declared hL
    exact isTrue_of_content hcontent

end ServiceContract
