import ServiceContract.Proofs.TypeGraph.Evolution

/-!
# Sessions on one registry

Calls in any order, each of which may fail and leave what it has registered before. Whatever a call
does to the registry is growth, so that the registry stays coherent and keeps what it has.
-/

namespace ServiceContract

open TypeGraph

/-! ## Sessions -/

/-- A call on a registry, or on the builder that writes it. -/
inductive Call where
  | insert (name : String)
  | pushField (h : Handle) (field : Field)
  /-- Another builder takes the registry over. It remembers no shapes. -/
  | handOver
  | typeFor (name : String)
  | wrap (base : Handle) (c : Cardinality)
  | declareAll (declarations : List TypeDeclaration)
  | synthesize (name : String) (payload : Payload)
  | mapPayload (target : Handle) (payload : Payload) (placement : Placement)
  | convert (endpoint : EndpointDeclaration)

namespace Call

/-- A call goes through the builder. -/
def IsBuilding : Call → Prop
  | insert _ | pushField _ _ => False
  | _ => True

/-- The state that a call leaves, whether it succeeds or fails. -/
def after (g : TypeGraph) : Call → TypeGraph
  | insert name => ((TypeGraph.insert name).runFrom g).2
  | pushField h field => ((TypeGraph.pushField h field).runFrom g).2
  | handOver => { g with shapes := [] }
  | typeFor name => ((TypeGraph.typeFor name).runFrom g).2
  | wrap base c => ((TypeGraph.wrap base c).runFrom g).2
  | declareAll declarations => ((TypeGraph.declareAll declarations).runFrom g).2
  | synthesize name payload => ((TypeGraph.synthesize name payload).runFrom g).2
  | mapPayload target payload placement =>
    ((TypeGraph.mapPayload target payload placement).runFrom g).2
  | convert endpoint => ((convertEndpoint endpoint).runFrom g).2

/-- A call of one builder lets the state evolve by fields of one level. -/
theorem after_evolves_oneLevel (g : TypeGraph) {call : Call} (hb : call.IsBuilding)
    (hone : call ≠ .handOver) : Evolves Field.OneLevel g (call.after g) := by
  cases call with
  | insert name => exact hb.elim
  | pushField h field => exact hb.elim
  | handOver => exact (hone rfl).elim
  | typeFor name => exact typeFor_evolves name g
  | wrap base c => exact wrap_evolves base c g
  | declareAll declarations => exact declareAll_evolves declarations g
  | synthesize name payload => exact synthesize_evolves name payload g
  | mapPayload target payload placement => exact mapPayload_evolves target payload placement g
  | convert endpoint => exact convertEndpoint_evolves endpoint g

theorem after_evolves (g : TypeGraph) {call : Call} (hone : call ≠ .handOver) :
    Evolves (fun _ => True) g (call.after g) := by
  by_cases hb : call.IsBuilding
  · exact (after_evolves_oneLevel g hb hone).mono fun _ _ => trivial
  · cases call with
    | insert name => exact Build.Evolves.insert name g
    | pushField h field => exact Build.Evolves.pushField trivial h g
    | _ => exact (hb trivial).elim

/-- A call through the builder lets the registry grow by fields of one level. -/
theorem after_grows_oneLevel (g : TypeGraph) {call : Call} (hb : call.IsBuilding) :
    Registry.Grows Field.OneLevel g.registry (call.after g).registry := by
  by_cases hone : call = .handOver
  · subst hone
    exact .refl
  · exact (after_evolves_oneLevel g hb hone).grows

theorem after_grows (g : TypeGraph) (call : Call) :
    Registry.Grows (fun _ => True) g.registry (call.after g).registry := by
  by_cases hone : call = .handOver
  · subst hone
    exact .refl
  · exact (after_evolves g hone).grows

end Call

/-- The state after calls in order, on a registry that is empty at first. -/
def session (calls : List Call) : TypeGraph := calls.foldl Call.after .empty

theorem session_append (earlier later : List Call) :
    session (earlier ++ later) = later.foldl Call.after (session earlier) := by
  simp [session]

/-- The calls of a session let the registry grow from any state. -/
theorem foldl_after_grows (g : TypeGraph) (calls : List Call) :
    Registry.Grows (fun _ => True) g.registry (calls.foldl Call.after g).registry := by
  induction calls generalizing g with
  | nil => exact .refl
  | cons call rest ih => exact (call.after_grows g).trans (ih _)

theorem foldl_after_grows_oneLevel (g : TypeGraph) {calls : List Call}
    (hb : ∀ call ∈ calls, call.IsBuilding) :
    Registry.Grows Field.OneLevel g.registry (calls.foldl Call.after g).registry := by
  induction calls generalizing g with
  | nil => exact .refl
  | cons call rest ih =>
      obtain ⟨hcall, hrest⟩ := List.forall_mem_cons.mp hb
      exact (Call.after_grows_oneLevel g hcall).trans (ih _ hrest)

theorem session_coherent (calls : List Call) : (session calls).registry.Coherent :=
  (foldl_after_grows .empty calls).coherent Registry.coherent_empty

/-- After any calls the registry is coherent and extends what it was after fewer of them. As long as
only the builder writes it, no field has two levels of cardinality. -/
theorem session_invariant (earlier later : List Call) :
    (session (earlier ++ later)).registry.Coherent ∧
      (session earlier).registry.Extends (session (earlier ++ later)).registry ∧
      ((∀ call ∈ earlier ++ later, call.IsBuilding) →
        (session (earlier ++ later)).registry.AllFields Field.OneLevel) := by
  refine ⟨session_coherent _, ?_, ?_⟩
  · rw [session_append]
    exact (foldl_after_grows _ later).extends
  · intro hb
    refine (foldl_after_grows_oneLevel .empty hb).allFields ?_
    intro t ht
    cases ht

end ServiceContract
