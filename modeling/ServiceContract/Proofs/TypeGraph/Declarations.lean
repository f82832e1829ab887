import ServiceContract.Proofs.TypeGraph.Structure

/-!
# Declarations follow their events

All names are declared before the first field is added. The declared types are being populated until
it is their turn, and as none of them stands for a shape they enclose nothing.
-/

namespace ServiceContract

open TypeGraph TypeGraph.Build Function

/-- The entry of a declaration. -/
def TypeDeclaration.entry (d : TypeDeclaration) : Registration := ⟨d.name, .declared d.content⟩

/-- Declarations ask for all names before they ask for what their structures do. -/
def declarationEvents (ts : List TypeDeclaration) : List Event :=
  ts.map (fun d => .register d.entry) ++ ts.flatMap fun d => d.content.events d.name

/-- Types of these names are open, without a field so far. -/
def Pending.open (pending : Pending) (names : List String) : Pending :=
  fun n => if n ∈ names then some [] else pending n

namespace Pending

variable {pending : Pending} {name : String} {names : List String}

@[simp] theorem open_nil : pending.open [] = pending := by
  funext n
  simp [Pending.open]

theorem open_cons (pending : Pending) (name : String) (names : List String) :
    pending.open (name :: names) = update (pending.open names) name (some []) := by
  funext n
  by_cases heq : n = name
  · simp [Pending.open, heq]
  · simp [Pending.open, heq]

theorem open_update (pending : Pending) (name : String) (names : List String) :
    Pending.open (update pending name (some [])) names = pending.open (name :: names) := by
  funext n
  by_cases heq : n = name
  · simp [Pending.open, heq]
  · simp [Pending.open, heq]

theorem open_of_notMem (hn : name ∉ names) : pending.open names name = pending name := if_neg hn

end Pending

namespace Ledger

variable {L L' : Ledger} {ts : List TypeDeclaration}

/-- A declaration registers its name, or it fails. -/
theorem step_declared_eq_ok {d : TypeDeclaration} :
    L.step (.register d.entry) = .ok L' ↔
      d.name ∉ L.names ∧ Text.isBlank d.name = false ∧ L' = L ++ [d.entry] := by
  rw [step_register_eq_ok, record?_eq_none]
  constructor
  · rintro (⟨_, _, ha, _⟩ | hnew)
    · exact ha.elim
    · exact hnew
  · exact .inr

/-- The ledger after declarations has their entries, in order. -/
theorem run_declared (h : L.run (ts.map fun d => .register d.entry) = .ok L') :
    L' = L ++ ts.map TypeDeclaration.entry := by
  induction ts generalizing L with
  | nil =>
      cases h
      simp
  | cons d rest ih =>
      obtain ⟨L₁, hstep, hrun⟩ := run_cons_eq_ok.mp h
      obtain ⟨_, _, rfl⟩ := step_declared_eq_ok.mp hstep
      simpa using ih hrun

end Ledger

namespace TypeGraph

variable {g : TypeGraph} {L : Ledger} {pending : Pending}

/-! ## Names -/

theorem declareNames_follows (hm : g.Mirrors L pending) (ts : List TypeDeclaration) :
    (declareNames ts).Follows g L (ts.map fun d => .register d.entry) fun handles g' L' =>
      List.Forall₂ (fun h d => L'.handle? d.name = some h) handles ts ∧
        g'.Mirrors L' (pending.open (ts.map (·.name))) := by
  induction ts generalizing g L pending with
  | nil => exact .pure ⟨.nil, by simpa using hm⟩
  | cons d rest ih =>
      have hinsert := insert_follows hm (e := d.entry) rfl fun _ _ => id
      refine hinsert.bind ?_
      rintro h g₁ L₁ - ⟨-, -, hh, hm₁⟩
      refine (ih hm₁).bind_pure ?_
      rintro handles g₂ L₂ hL₂ ⟨hrest, hm₂⟩
      refine ⟨.cons (Ledger.handle?_mono (Ledger.run_extends hL₂) hh) hrest, ?_⟩
      rw [Pending.open_update] at hm₂
      exact hm₂

/-! ## Fields -/

/-- While the rest of the declarations is open, nothing that is open is a shape. -/
theorem encloses_open {rest : List TypeDeclaration}
    (hrest : ∀ d ∈ rest, L.record? d.name = some d.entry) (owner : String) :
    Encloses (Pending.nothing.open (rest.map (·.name))) L owner := by
  intro n s hs hn
  by_cases hmem : n ∈ rest.map (·.name)
  · obtain ⟨d, hd, rfl⟩ := List.mem_map.mp hmem
    have hentry := Ledger.shape?_eq_some.mp hs
    rw [hrest d hd] at hentry
    cases hentry
  · exact (hn (Pending.open_of_notMem hmem)).elim

/-- Each declaration adds its fields to its own type and completes it. -/
theorem declareFields_follows {handles : List Handle} {ts : List TypeDeclaration}
    (hh : List.Forall₂ (fun h d => L.handle? d.name = some h) handles ts)
    (he : ∀ d ∈ ts, L.record? d.name = some d.entry) (hd : (ts.map (·.name)).Nodup)
    (hm : g.Mirrors L (Pending.nothing.open (ts.map (·.name)))) :
    (declareFields (handles.zip ts)).Follows g L (ts.flatMap fun d => d.content.events d.name)
      fun _ g' L' => g'.Mirrors L' .nothing := by
  induction ts generalizing g L handles with
  | nil =>
      cases hh
      exact .pure (by simpa using hm)
  | cons d rest ih =>
      obtain _ | ⟨hhandle, hhandles⟩ := hh
      simp only [List.map_cons, List.nodup_cons] at hd
      have hos : Pending.nothing.open ((d :: rest).map (·.name)) d.name = some [] := by
        simp [Pending.open]
      have hfields := mapPayload_follows hm hhandle (encloses_open he d.name) hos d.content .onField
      refine hfields.bind ?_
      intro _ g₁ L₁ hL₁ hm₁
      have hp := Ledger.run_extends hL₁
      have he₁ : ∀ x ∈ d :: rest, L₁.record? x.name = some x.entry :=
        fun x hx => Ledger.record?_mono hp (he x hx)
      rw [List.map_cons, Pending.open_cons, update_idem] at hm₁
      have hsettled : g₁.Mirrors L₁ (Pending.nothing.open (rest.map (·.name))) := by
        refine .settle (he₁ d List.mem_cons_self) (Pending.open_of_notMem hd.1) ?_ hm₁
        intro s hs
        cases hs
      exact ih (hhandles.imp fun _ _ hx => Ledger.handle?_mono hp hx)
        (fun x hx => he₁ x (List.mem_cons_of_mem d hx)) hd.2 hsettled

theorem declareAll_follows (ts : List TypeDeclaration) :
    (declareAll ts).Follows .empty [] (declarationEvents ts)
      fun _ g' L' => g'.Mirrors L' .nothing := by
  refine (declareNames_follows mirrors_empty ts).bind ?_
  rintro handles g₁ L₁ hL₁ ⟨hh, hm₁⟩
  have heq : L₁ = ts.map TypeDeclaration.entry := by simpa using Ledger.run_declared hL₁
  have hd : (ts.map (·.name)).Nodup := by
    have hnames := hm₁.registry.distinct
    rw [heq, Ledger.names, List.map_map] at hnames
    exact hnames
  refine declareFields_follows hh ?_ hd hm₁
  intro d hmem
  have hentry : d.entry ∈ L₁ := heq ▸ List.mem_map_of_mem hmem
  exact Ledger.record?_of_mem hm₁.registry.distinct hentry

end TypeGraph

end ServiceContract
