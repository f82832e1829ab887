/-!
# Outcomes

What a computation that may fail has done where it succeeds, and what has stopped it where it fails.
-/

namespace ServiceContract

variable {ε α β : Type}

theorem bind_eq_ok {x : Except ε α} {f : α → Except ε β} {b : β} :
    x >>= f = .ok b ↔ ∃ a, x = .ok a ∧ f a = .ok b := by
  constructor
  · intro h
    cases x with
    | ok a => exact ⟨a, rfl, h⟩
    | error e => cases h
  · rintro ⟨a, rfl, h⟩
    exact h

/-- Two steps fail where the first does, or the second after it. -/
theorem bind_eq_error {x : Except ε α} {f : α → Except ε β} {e : ε} :
    x >>= f = .error e ↔ x = .error e ∨ ∃ a, x = .ok a ∧ f a = .error e := by
  cases x with
  | ok a => simp [bind, Except.bind]
  | error e' => simp [bind, Except.bind]

theorem map_eq_ok {x : Except ε α} {f : α → β} {b : β} :
    f <$> x = .ok b ↔ ∃ a, x = .ok a ∧ f a = b := by
  cases x with
  | ok a => simp [Functor.map, Except.map]
  | error e => simp [Functor.map, Except.map]

theorem map_eq_error {x : Except ε α} {f : α → β} {e : ε} :
    f <$> x = .error e ↔ x = .error e := by
  cases x with
  | ok a => simp [Functor.map, Except.map]
  | error e' => simp [Functor.map, Except.map]

theorem mapError_eq_ok {δ : Type} {x : Except ε α} {f : ε → δ} {a : α} :
    x.mapError f = .ok a ↔ x = .ok a := by
  cases x with
  | ok b =>
      constructor
      · intro h
        cases h
        rfl
      · intro h
        cases h
        rfl
  | error e =>
      constructor
      · intro h
        cases h
      · intro h
        cases h

theorem exists_of_isOk {x : Except ε α} (h : x.isOk = true) : ∃ a, x = .ok a := by
  cases x with
  | ok a => exact ⟨a, rfl⟩
  | error e => cases h

/-- What is found in the result of a computation is found because it has succeeded. -/
theorem exists_of_toOption_bind {x : Except ε α} {f : α → Option β} {b : β}
    (h : x.toOption.bind f = some b) : ∃ a, x = .ok a ∧ f a = some b := by
  cases x with
  | ok a => exact ⟨a, rfl, h⟩
  | error e => cases h

theorem forM_cons (f : α → Except ε Unit) (a : α) (rest : List α) :
    (a :: rest).forM f = f a >>= fun _ => rest.forM f := rfl

theorem forM_eq_ok {f : α → Except ε Unit} {as : List α} :
    as.forM f = .ok () ↔ ∀ a ∈ as, f a = .ok () := by
  induction as with
  | nil => simp [pure, Except.pure]
  | cons a rest ih =>
      rw [forM_cons, bind_eq_ok, List.forall_mem_cons, ← ih]
      constructor
      · rintro ⟨_, ha, hrest⟩
        exact ⟨ha, hrest⟩
      · rintro ⟨ha, hrest⟩
        exact ⟨(), ha, hrest⟩

/-- An error is that of the first element with one. -/
theorem exists_of_forM_eq_error {f : α → Except ε Unit} {as : List α} {e : ε}
    (h : as.forM f = .error e) : ∃ before a after, as = before ++ a :: after ∧
      (∀ b ∈ before, f b = .ok ()) ∧ f a = .error e := by
  induction as with
  | nil => cases h
  | cons a rest ih =>
      rw [forM_cons] at h
      cases ha : f a with
      | error e' =>
          rw [ha] at h
          exact ⟨[], a, rest, rfl, by simp, ha.trans h⟩
      | ok _ =>
          rw [ha] at h
          obtain ⟨before, b, after, rfl, hbefore, hb⟩ := ih h
          exact ⟨a :: before, b, after, rfl, List.forall_mem_cons.mpr ⟨ha, hbefore⟩, hb⟩

/-- A fold fails exactly with the error of the first element that it cannot take in. -/
theorem foldlM_eq_error {f : β → α → Except ε β} {as : List α} {b : β} {e : ε} :
    as.foldlM f b = .error e ↔ ∃ before a after c, as = before ++ a :: after ∧
      before.foldlM f b = .ok c ∧ f c a = .error e := by
  constructor
  · intro h
    induction as generalizing b with
    | nil => cases h
    | cons a rest ih =>
        rw [List.foldlM_cons] at h
        rcases bind_eq_error.mp h with ha | ⟨c, hc, hrest⟩
        · exact ⟨[], a, rest, b, rfl, rfl, ha⟩
        · obtain ⟨before, x, after, d, rfl, hbefore, hx⟩ := ih hrest
          refine ⟨a :: before, x, after, d, rfl, ?_, hx⟩
          rw [List.foldlM_cons]
          exact bind_eq_ok.mpr ⟨c, hc, hbefore⟩
  · rintro ⟨before, a, after, c, rfl, hbefore, ha⟩
    rw [List.foldlM_append]
    refine bind_eq_error.mpr (.inr ⟨c, hbefore, ?_⟩)
    rw [List.foldlM_cons]
    exact bind_eq_error.mpr (.inl ha)

/-- Elements that are taken one after another give their results, in order. -/
theorem mapM_eq_ok {f : α → Except ε β} {as : List α} {bs : List β} :
    as.mapM f = .ok bs ↔ as.map f = bs.map .ok := by
  induction as generalizing bs with
  | nil => cases bs <;> simp [pure, Except.pure]
  | cons a rest ih =>
      rw [List.mapM_cons]
      constructor
      · intro h
        obtain ⟨b, hb, h⟩ := bind_eq_ok.mp h
        obtain ⟨more, hmore, h⟩ := bind_eq_ok.mp h
        cases h
        rw [List.map_cons, List.map_cons, hb, ih.mp hmore]
      · intro h
        cases bs with
        | nil => cases h
        | cons b more =>
            obtain ⟨hb, hmore⟩ := List.cons.inj h
            exact bind_eq_ok.mpr ⟨b, hb, bind_eq_ok.mpr ⟨more, ih.mpr hmore, rfl⟩⟩

/-- Elements can be taken one after another if each of them can be taken. -/
theorem exists_mapM_eq_ok {f : α → Except ε β} {as : List α} :
    (∃ bs, as.mapM f = .ok bs) ↔ ∀ a ∈ as, ∃ b, f a = .ok b := by
  constructor
  · rintro ⟨bs, h⟩ a ha
    have hmem : f a ∈ as.map f := List.mem_map_of_mem ha
    rw [mapM_eq_ok.mp h] at hmem
    obtain ⟨b, -, hb⟩ := List.mem_map.mp hmem
    exact ⟨b, hb.symm⟩
  · intro h
    induction as with
    | nil => exact ⟨[], rfl⟩
    | cons a rest ih =>
        obtain ⟨ha, hrest⟩ := List.forall_mem_cons.mp h
        obtain ⟨b, hb⟩ := ha
        obtain ⟨more, hmore⟩ := ih hrest
        refine ⟨b :: more, mapM_eq_ok.mpr ?_⟩
        rw [List.map_cons, List.map_cons, hb, mapM_eq_ok.mp hmore]

/-- What stands first among those that something does not hold of. -/
def FirstWithout (P : α → Prop) (as : List α) (a : α) : Prop :=
  ∃ before after, as = before ++ a :: after ∧ (∀ b ∈ before, P b) ∧ ¬ P a

/-- Elements that are taken one after another fail with the error of the first that cannot be
taken. -/
theorem mapM_eq_error {f : α → Except ε β} {as : List α} {e : ε} :
    as.mapM f = .error e ↔
      ∃ a, FirstWithout (fun a => ∃ b, f a = .ok b) as a ∧ f a = .error e := by
  have hfails : ∀ {a}, f a = .error e → ¬ ∃ b, f a = .ok b := by
    rintro a ha ⟨b, hb⟩
    rw [ha] at hb
    cases hb
  induction as with
  | nil =>
      refine iff_of_false nofun ?_
      rintro ⟨a, ⟨before, after, h, -⟩, -⟩
      cases before <;> cases h
  | cons a rest ih =>
      rw [List.mapM_cons, bind_eq_error]
      constructor
      · rintro (ha | ⟨b, hb, h⟩)
        · exact ⟨a, ⟨[], rest, rfl, by simp, hfails ha⟩, ha⟩
        · rcases bind_eq_error.mp h with hrest | ⟨_, _, h⟩
          · obtain ⟨x, ⟨before, after, rfl, hbefore, hx⟩, he⟩ := ih.mp hrest
            have hall := List.forall_mem_cons.mpr ⟨⟨b, hb⟩, hbefore⟩
            exact ⟨x, ⟨a :: before, after, rfl, hall, hx⟩, he⟩
          · cases h
      · rintro ⟨x, ⟨before, after, heq, hbefore, hx⟩, he⟩
        cases before with
        | nil =>
            obtain ⟨rfl, rfl⟩ := List.cons.inj heq
            exact .inl he
        | cons b before =>
            obtain ⟨rfl, rfl⟩ := List.cons.inj heq
            obtain ⟨hb, hbefore⟩ := List.forall_mem_cons.mp hbefore
            obtain ⟨c, hc⟩ := hb
            refine .inr ⟨c, hc, bind_eq_error.mpr (.inl (ih.mpr ?_))⟩
            exact ⟨x, ⟨before, after, rfl, hbefore, hx⟩, he⟩

/-! ## Two computations -/

/-- Two computations fail with the same error, or succeed with results that are related. -/
def SameOutcome (R : α → β → Prop) : Except ε α → Except ε β → Prop
  | .ok a, .ok b => R a b
  | .error e, .error e' => e = e'
  | _, _ => False

theorem SameOutcome.imp {R S : α → β → Prop} {x : Except ε α} {y : Except ε β}
    (h : SameOutcome R x y) (hRS : ∀ a b, R a b → S a b) : SameOutcome S x y := by
  cases x <;> cases y
  case ok.ok a b => exact hRS a b h
  all_goals exact h

/-- What both do first does not tell them apart. -/
theorem SameOutcome.bind {γ : Type} {R : β → γ → Prop} (x : Except ε α) {f : α → Except ε β}
    {g : α → Except ε γ} (h : ∀ a, x = .ok a → SameOutcome R (f a) (g a)) :
    SameOutcome R (x >>= f) (x >>= g) := by
  cases x with
  | ok a => exact h a rfl
  | error e => rfl

end ServiceContract
