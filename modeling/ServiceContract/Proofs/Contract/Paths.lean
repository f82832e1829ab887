import ServiceContract.Proofs.Schema.Operations
import ServiceContract.Proofs.Value.Access

/-!
# Operations in the paths of a contract

Every operation stands under its path and its method, and nothing else does.
-/

namespace ServiceContract.Contract

variable {ps done : Paths} {p q : String} {method other : Method} {v : Value}

/-- What stands under a path and a method. -/
def Paths.find? (ps : Paths) (path : String) (method : Method) : Option Value :=
  (ps.at path).lookup method

theorem mem_operations {endpoints : List Endpoint} {p : Endpoint × Operation} :
    p ∈ operations endpoints ↔ p.1 ∈ endpoints ∧ p.2 ∈ p.1.operations := by
  obtain ⟨e, o⟩ := p
  simp [operations]

/-! ## Adding operations -/

theorem Paths.at_cons (k : String) (methods : List (Method × Value)) (rest : Paths) (q : String) :
    Paths.at ((k, methods) :: rest) q = if q = k then methods else Paths.at rest q := by
  by_cases hq : q = k
  · simp [Paths.at, hq]
  · simp [Paths.at, List.lookup_cons, beq_false_of_ne hq, hq]

theorem Paths.at_add :
    (ps.add p method v).at q = if q = p then ps.at p ++ [(method, v)] else ps.at q := by
  induction ps with
  | nil => exact at_cons p [(method, v)] [] q
  | cons first rest ih =>
      obtain ⟨k, methods⟩ := first
      unfold add
      by_cases hk : k = p
      · subst hk
        simp only [if_true, at_cons]
        split <;> rfl
      · rw [if_neg hk, at_cons, at_cons, at_cons, if_neg (Ne.symm hk), ih]
        by_cases hq : q = k
        · rw [if_pos hq, if_pos hq, if_neg (hq ▸ hk)]
        · rw [if_neg hq, if_neg hq]

theorem Paths.find?_add_self (h : ps.find? p method = none) :
    (ps.add p method v).find? p method = some v := by
  rw [find?, at_add, if_pos rfl, List.lookup_append]
  rw [show (ps.at p).lookup method = none from h]
  simp

/-- What stands in paths stays where it is. -/
theorem Paths.find?_add_of_some {w : Value} (h : ps.find? q other = some w) :
    (ps.add p method v).find? q other = some w := by
  rw [find?, at_add]
  split
  · next hq =>
      subst hq
      rw [List.lookup_append, show (ps.at q).lookup other = some w from h]
      rfl
  · exact h

/-- An operation is added where nothing stands. -/
theorem find?_of_addOperation {r : Registry} {e : Endpoint} {o : Operation}
    (h : addOperation r done e o = .ok ps) : done.find? (path e o) o.method = none := by
  unfold addOperation at h
  dsimp only at h
  split at h
  · cases h
  · next hnone => exact Option.not_isSome_iff_eq_none.mp hnone

/-- Operations that are added are found under their paths and methods, beside what was there. -/
theorem find?_foldlM_addOperation {r : Registry} {os : List (Endpoint × Operation)}
    (h : os.foldlM (fun done (e, o) => addOperation r done e o) done = .ok ps) :
    (∀ q other w, done.find? q other = some w → ps.find? q other = some w) ∧
      ∀ p ∈ os, ∃ v, operation r p.1 p.2 = .ok v ∧
        ps.find? (path p.1 p.2) p.2.method = some v := by
  induction os generalizing done with
  | nil =>
      cases h
      exact ⟨fun _ _ _ hw => hw, by simp⟩
  | cons p rest ih =>
      rw [List.foldlM_cons] at h
      obtain ⟨next, hnext, h⟩ := bind_eq_ok.mp h
      obtain ⟨v, hv, rfl⟩ := addOperation_eq_ok hnext
      obtain ⟨hkept, hadded⟩ := ih h
      refine ⟨fun q other w hw => hkept _ _ _ (Paths.find?_add_of_some hw), ?_⟩
      refine List.forall_mem_cons.mpr ⟨⟨v, hv, ?_⟩, hadded⟩
      exact hkept _ _ _ (Paths.find?_add_self (find?_of_addOperation hnext))

/-- What stands in the paths of operations is an operation. -/
theorem mem_values_foldlM_addOperation {r : Registry} {os : List (Endpoint × Operation)}
    (h : os.foldlM (fun done (e, o) => addOperation r done e o) done = .ok ps) :
    ∀ v ∈ ps.values, v ∈ done.values ∨ ∃ p ∈ os, operation r p.1 p.2 = .ok v := by
  induction os generalizing done with
  | nil =>
      cases h
      exact fun v hv => .inl hv
  | cons p rest ih =>
      rw [List.foldlM_cons] at h
      obtain ⟨next, hnext, h⟩ := bind_eq_ok.mp h
      obtain ⟨w, hw, rfl⟩ := addOperation_eq_ok hnext
      intro v hv
      rcases ih h v hv with hv | ⟨q, hq, hv⟩
      · rcases Paths.mem_values_add.mp hv with rfl | hv
        · exact .inr ⟨p, List.mem_cons_self, hw⟩
        · exact .inl hv
      · exact .inr ⟨q, List.mem_cons_of_mem _ hq, hv⟩

/-! ## Paths as values -/

theorem keyword_injective {a b : Method} (h : a.keyword = b.keyword) : a = b := by
  cases a <;> cases b <;> first | rfl | (revert h; decide)

theorem lookup_map_keyword (methods : List (Method × Value)) (method : Method) :
    (methods.map fun m => (m.1.keyword, m.2)).lookup method.keyword = methods.lookup method := by
  induction methods with
  | nil => rfl
  | cons first rest ih =>
      obtain ⟨m, w⟩ := first
      by_cases hm : method = m
      · simp [hm]
      · have hkeyword : method.keyword ≠ m.keyword := fun h => hm (keyword_injective h)
        simp [List.lookup_cons, beq_false_of_ne hm, beq_false_of_ne hkeyword, ih]

/-- Behind a path and a keyword stands what the path has under it. -/
theorem Paths.at?_toValue_eq (q key : String) (rest : List String) :
    ps.toValue.at? (q :: key :: rest) =
      (((ps.at q).map fun m => (m.1.keyword, m.2)).lookup key).bind (·.at? rest) := by
  induction ps with
  | nil => rfl
  | cons first more ih =>
      obtain ⟨k, methods⟩ := first
      have hcons : Paths.toValue ((k, methods) :: more) =
          .map ((k, .map (methods.map fun m => (m.1.keyword, m.2))) ::
            more.map fun x => (x.1, .map (x.2.map fun m => (m.1.keyword, m.2)))) := rfl
      rw [hcons, Value.at?_map_cons, at_cons]
      by_cases hq : q = k
      · rw [if_pos hq, if_pos hq]
        rfl
      · rw [if_neg hq, if_neg hq]
        exact ih

theorem Paths.at?_toValue (h : ps.find? p method = some v) (rest : List String) :
    ps.toValue.at? (p :: method.keyword :: rest) = v.at? rest := by
  rw [at?_toValue_eq, lookup_map_keyword, show (ps.at p).lookup method = some v from h]
  rfl

end ServiceContract.Contract
