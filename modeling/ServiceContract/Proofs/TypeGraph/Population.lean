import ServiceContract.Proofs.TypeGraph.Simulation

/-!
# Populating types

Structures follow their events, and the types made of them have the outlines of the structures. A
shape that is met again is complete, because the shapes being populated have shorter names than the
types nested in them.
-/

namespace ServiceContract

open TypeGraph TypeGraph.Build Function

/-! ## Cardinality -/

/-- What a cardinality asks for: a wrapper, unless the base type does. -/
def wrapperEvents (base : String) (c : Cardinality) : List Event :=
  match wrapperNames c with
  | none => []
  | some (ending, fieldName) => [.register ⟨base ++ ending, .wrapper fieldName base c⟩]

namespace TypeGraph

variable {g : TypeGraph} {L : Ledger} {pending : Pending} {name owner : String} {h : Handle}

/-- A wrapper is the type that its name has already, or a new one with the field that holds the
base. -/
theorem wrap_follows (hm : g.Mirrors L pending) {base : String} (hh : L.handle? base = some h)
    (c : Cardinality) :
    (wrap h c).Follows g L (wrapperEvents base c)
      fun k g' L' => L'.handle? (wrappedName base c) = some k ∧ g'.Mirrors L' pending := by
  have hbase := hm.registry.nameOf_eq hh
  unfold wrapperEvents wrappedName
  cases hw : wrapperNames c with
  | none =>
      have hrun : wrap h c = Pure.pure h := by
        unfold wrap
        rw [hw]
      rw [hrun]
      exact .pure ⟨hh, hm⟩
  | some names =>
      obtain ⟨ending, fieldName⟩ := names
      let e : Registration := ⟨base ++ ending, .wrapper fieldName base c⟩
      have hrun := runFrom_wrap hw hbase
      rw [hm.registry.lookup_eq] at hrun
      cases he : L.record? e.name with
      | some old =>
          have hk := Ledger.handle?_of_mem (Ledger.record?_mem_names he)
          rw [hk] at hrun
          exact .of_ok (Ledger.run_register_old he trivial) hrun ⟨hk, hm⟩
      | none =>
          have hn : e.name ∉ L.names := Ledger.record?_eq_none.mp he
          rw [show L.handle? (base ++ ending) = none from Ledger.handle?_of_notMem hn] at hrun
          have hinsert := insert_follows hm (e := e) rfl
            (by
              intro old hold
              rw [he] at hold
              cases hold)
          refine .congr hrun (hinsert.bind_nil ?_)
          rintro k g₁ _ - ⟨rfl, hnew, hk, hm₁⟩
          have hbase₁ := Ledger.handle?_mono (List.prefix_append L [e]) hh
          obtain ⟨hmem₁, hidx₁⟩ := Ledger.handle?_eq_some.mp hbase₁
          obtain ⟨g₂, hpush, hm₂⟩ := runFrom_pushField_mirrors hm₁ hk (update_self _ _ _)
            (Outline.within_named hmem₁ fieldName c)
          rw [Outline.field_ofCardinality_named, ← hidx₁] at hpush
          rw [update_idem] at hm₂
          refine .bind_ok hpush (.pure ⟨hk, .settle hnew (hm.pending_eq_none hn) ?_ hm₂⟩)
          intro s hs
          cases hs

/-! ## Shapes -/

/-- A name is claimed for a shape when it stands for it already, or for nothing so far. -/
theorem claim_follows (hm : g.Mirrors L pending) (name : String) (shape : Shape) :
    (claim name shape).Follows g L [.register ⟨name, .shape shape⟩] fun c g' L' =>
      L'.shape? name = some shape ∧
        match c with
        | .reused k => L'.handle? name = some k ∧ g' = g ∧ L' = L
        | .fresh k => L'.handle? name = some k ∧ name ∉ L.names ∧
            g'.Mirrors L' (update pending name (some [])) := by
  let e : Registration := ⟨name, .shape shape⟩
  have hclaim := runFrom_claim name shape g
  rw [hm.shapes_eq, hm.registry.lookup_eq] at hclaim
  cases he : L.record? name with
  | some old =>
      have hk := Ledger.handle?_of_mem (Ledger.record?_mem_names he)
      by_cases ha : e.origin.Accepts old.origin
      · have hold : old = e := Registration.eq_of_accepts (Ledger.record?_name he) trivial ha
        rw [hold] at he
        have hshape : L.shape? name = some shape := Ledger.shape?_eq_some.mpr he
        rw [hshape] at hclaim
        simp only [if_true] at hclaim
        rw [hm.registry.resolve_eq, hk] at hclaim
        exact .of_ok (Ledger.run_register_old (e := e) he rfl) hclaim ⟨hshape, hk, rfl, rfl⟩
      · have herr : (claim name shape).runFrom g = (.error (.duplicateType name), g) := by
          rw [hclaim]
          cases hs : L.shape? name with
          | none => simp [hk]
          | some s =>
              have hne : s ≠ shape := by
                rintro rfl
                have hentry := Ledger.shape?_eq_some.mp hs
                rw [he] at hentry
                rw [Option.some.inj hentry] at ha
                exact ha rfl
              simp [hne]
        refine .of_error (Ledger.run_register_duplicate (e := e) he ha []) ?_
        rw [herr]
  | none =>
      have hn : e.name ∉ L.names := Ledger.record?_eq_none.mp he
      have hshape : L.shape? name = none := by simp [Ledger.shape?, he]
      rw [hshape, show L.handle? name = none from Ledger.handle?_of_notMem hn] at hclaim
      simp only [Option.isSome_none, Bool.false_eq_true, if_false] at hclaim
      cases hb : Text.isBlank e.name with
      | true =>
          refine .of_error (Ledger.run_register_blank (e := e) he hb []) ?_
          rw [insert_eq_error hm (.inr ⟨hn, hb, rfl⟩)] at hclaim
          rw [hclaim]
      | false =>
          obtain ⟨k, r, hinsert, hk, hr⟩ := hm.registry.insert hn hb
          rw [show g.registry.insert name = .ok (k, r) from hinsert] at hclaim
          have hnew : Ledger.shape? (L ++ [e]) name = some shape := by
            rw [Ledger.shape?_append_new hn, if_pos rfl]
            rfl
          refine .of_ok (Ledger.run_register_new (e := e) he hb) hclaim ⟨hnew, hk, hn, ?_⟩
          refine hm.register hn hr ?_
          intro n
          rw [Ledger.shape?_append_new hn, List.lookup_cons, hm.shapes_eq]
          by_cases heq : n = name
          · simp [heq, e, Origin.shape?]
          · simp [heq, e, beq_false_of_ne heq]

/-- The type of a shape is the one that it stands for already, or a new one that is filled. -/
theorem establish_follows (hm : g.Mirrors L pending) (shape : Shape) (fill : Handle → Build Unit)
    (hopen : ∀ s, L.shape? name = some s → pending name = none)
    (hfill : ∀ k g₁ L₁, L.run [.register ⟨name, .shape shape⟩] = .ok L₁ →
      L₁.handle? name = some k → g₁.Mirrors L₁ (update pending name (some [])) →
      (fill k).Follows g₁ L₁ (shape.events name)
        fun _ g' L' => g'.Mirrors L' (update pending name (some (shape.outlines name)))) :
    (establish name shape fill).Follows g L
      (.register ⟨name, .shape shape⟩ :: shape.events name)
      fun k g' L' => L'.handle? name = some k ∧ g'.Mirrors L' pending := by
  refine (claim_follows hm name shape).bind ?_
  rintro c g₁ L₁ hL₁ ⟨hshape, hc⟩
  cases c with
  | reused k =>
      -- the shape is complete, and meeting its parts again changes nothing
      obtain ⟨hk, rfl, rfl⟩ := hc
      have hevents := hm.settled name shape hshape (hopen shape hshape)
      exact .of_ok hevents (runFrom_pure k g₁) ⟨hk, hm⟩
  | fresh k =>
      obtain ⟨hk, hn, hm₁⟩ := hc
      refine (hfill k g₁ L₁ hL₁ hk hm₁).bind_pure ?_
      intro _ g₂ L₂ hL₂ hm₂
      have hp := Ledger.run_extends hL₂
      have hentry := Ledger.shape?_eq_some.mp (Ledger.shape?_mono hp hshape)
      refine ⟨Ledger.handle?_mono hp hk, .settle hentry (hm.pending_eq_none hn) ?_ hm₂⟩
      intro s hs
      cases hs
      exact Ledger.run_again (shape.events_repeatable name) hL₂

end TypeGraph

end ServiceContract
