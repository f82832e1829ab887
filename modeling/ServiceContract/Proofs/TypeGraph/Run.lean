import ServiceContract.TypeGraph.Builder

/-!
# Runs of building steps

What the steps that read and write the state answer, and the state they leave.
-/

namespace ServiceContract.TypeGraph

variable {α β : Type}

/-! ## Composition -/

@[simp] theorem runFrom_pure (a : α) (g : TypeGraph) :
    (pure a : Build α).runFrom g = (.ok a, g) := rfl

@[simp] theorem runFrom_throw (e : ModelError) (g : TypeGraph) :
    (throw e : Build α).runFrom g = (.error e, g) := rfl

theorem runFrom_bind (b : Build α) (next : α → Build β) (g : TypeGraph) :
    (b >>= next).runFrom g =
      match b.runFrom g with
      | (.ok a, g') => (next a).runFrom g'
      | (.error e, g') => (.error e, g') := by
  cases hb : b.runFrom g with
  | mk outcome g' =>
      unfold Build.runFrom at hb ⊢
      rw [ExceptT.run_bind, StateT.run_bind, hb]
      cases outcome <;> rfl

/-- Two steps have succeeded where the first has, and the second from the state it left. -/
theorem runFrom_bind_eq_ok {b : Build α} {next : α → Build β} {g g' : TypeGraph} {c : β} :
    (b >>= next).runFrom g = (.ok c, g') ↔
      ∃ a g₁, b.runFrom g = (.ok a, g₁) ∧ (next a).runFrom g₁ = (.ok c, g') := by
  rw [runFrom_bind]
  cases hb : b.runFrom g with
  | mk outcome g₁ =>
      cases outcome with
      | ok a =>
          constructor
          · intro h
            exact ⟨a, g₁, rfl, h⟩
          · rintro ⟨a', g₂, h₁, h₂⟩
            cases h₁
            exact h₂
      | error e =>
          constructor
          · intro h
            cases h
          · rintro ⟨a', g₂, h₁, h₂⟩
            cases h₁

/-- Two steps have failed where the first has, or the second from the state that the first left. -/
theorem runFrom_bind_eq_error {b : Build α} {next : α → Build β} {g g' : TypeGraph}
    {e : ModelError} :
    (b >>= next).runFrom g = (.error e, g') ↔
      b.runFrom g = (.error e, g') ∨
        ∃ a g₁, b.runFrom g = (.ok a, g₁) ∧ (next a).runFrom g₁ = (.error e, g') := by
  rw [runFrom_bind]
  cases hb : b.runFrom g with
  | mk outcome g₁ =>
      cases outcome with
      | ok a =>
          constructor
          · intro h
            exact .inr ⟨a, g₁, rfl, h⟩
          · rintro (h | ⟨a', g₂, h₁, h₂⟩)
            · cases h
            · cases h₁
              exact h₂
      | error e' =>
          constructor
          · intro h
            cases h
            exact .inl rfl
          · rintro (h | ⟨a', g₂, h₁, h₂⟩)
            · cases h
              rfl
            · cases h₁

/-! ## Single steps -/

@[simp] theorem runFrom_get (g : TypeGraph) : (get : Build TypeGraph).runFrom g = (.ok g, g) := rfl

@[simp] theorem runFrom_modify (f : TypeGraph → TypeGraph) (g : TypeGraph) :
    (modify f : Build PUnit).runFrom g = (.ok ⟨⟩, f g) := rfl

@[simp] theorem runFrom_ask (question : Registry → Except ModelError α) (g : TypeGraph) :
    (ask question).runFrom g = (question g.registry, g) := by
  unfold ask
  rw [runFrom_bind, runFrom_get]
  cases h : question g.registry with
  | ok a => simp [h]
  | error e => simp [h]

@[simp] theorem runFrom_insert (name : String) (g : TypeGraph) :
    (insert name).runFrom g =
      match g.registry.insert name with
      | .ok (h, r) => (.ok h, { g with registry := r })
      | .error e => (.error e, g) := by
  unfold insert
  rw [runFrom_bind, runFrom_ask]
  cases h : g.registry.insert name with
  | ok pair => rfl
  | error e => rfl

@[simp] theorem runFrom_pushField (h : Handle) (field : Field) (g : TypeGraph) :
    (pushField h field).runFrom g =
      match g.registry.pushField h field with
      | .ok r => (.ok (), { g with registry := r })
      | .error e => (.error e, g) := by
  unfold pushField
  rw [runFrom_bind, runFrom_ask]
  cases h : g.registry.pushField h field with
  | ok r => simp
  | error e => rfl

theorem runFrom_pushField_eq_ok {h : Handle} {field : Field} {g g' : TypeGraph} :
    (pushField h field).runFrom g = (.ok (), g') ↔
      ∃ r, g.registry.pushField h field = .ok r ∧ g' = { g with registry := r } := by
  rw [runFrom_pushField]
  cases g.registry.pushField h field with
  | ok r => simp [eq_comm]
  | error e => simp

theorem runFrom_typeFor (name : String) (g : TypeGraph) :
    (typeFor name).runFrom g =
      match g.registry.lookup name with
      | some h => (.ok h, g)
      | none => (insert name).runFrom g := by
  unfold typeFor
  rw [runFrom_bind, runFrom_get]
  cases h : g.registry.lookup name with
  | some h => simp [h]
  | none => simp [h]

theorem runFrom_claim (name : String) (shape : Shape) (g : TypeGraph) :
    (claim name shape).runFrom g =
      match g.shapes.lookup name with
      | some existing =>
        if existing = shape then (Claim.reused <$> g.registry.resolve name, g)
        else (.error (.duplicateType name), g)
      | none =>
        if (g.registry.lookup name).isSome then (.error (.duplicateType name), g)
        else match g.registry.insert name with
          | .ok (h, r) => (.ok (.fresh h), ⟨r, (name, shape) :: g.shapes⟩)
          | .error e => (.error e, g) := by
  unfold claim
  rw [runFrom_bind, runFrom_get]
  cases hs : g.shapes.lookup name with
  | some existing =>
      simp only [hs]
      split
      · rw [map_eq_pure_bind, runFrom_bind, runFrom_ask]
        cases g.registry.resolve name <;> rfl
      · rfl
  | none =>
      simp only [hs]
      rw [runFrom_bind, runFrom_get]
      cases hl : g.registry.lookup name with
      | some old =>
          simp only [hl, Option.isSome_some, if_true]
          rfl
      | none =>
          simp only [hl, Option.isSome_none, Bool.false_eq_true, if_false]
          rw [runFrom_bind, runFrom_insert]
          cases g.registry.insert name with
          | ok pair => rfl
          | error e => rfl

/-- The wrapper of a registered base is looked up by its name, and made if it is not there. -/
theorem runFrom_wrap {base : Handle} {c : Cardinality} {ending fieldName baseName : String}
    {g : TypeGraph} (hw : wrapperNames c = some (ending, fieldName))
    (hb : g.registry.nameOf base = .ok baseName) :
    (wrap base c).runFrom g =
      match g.registry.lookup (baseName ++ ending) with
      | some h => (.ok h, g)
      | none => (do
          let wrapper ← insert (baseName ++ ending)
          pushField wrapper (.ofCardinality fieldName (.named base) c)
          return wrapper : Build Handle).runFrom g := by
  unfold wrap
  simp only [hw]
  rw [runFrom_bind, runFrom_ask, hb]
  simp only
  rw [runFrom_bind, runFrom_get]
  cases hl : g.registry.lookup (baseName ++ ending) with
  | some h => simp [hl]
  | none => simp only [hl]

end ServiceContract.TypeGraph
