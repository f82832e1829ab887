import Mathlib.Data.List.Perm.Basic
import ServiceContract.Proofs.TypeGraph.Ledger

/-!
# Ledgers in another order

Ledgers with the same entries in different orders follow the same events. Events that register
structures, or refer to names that are there, may be met in any order.
-/

namespace ServiceContract

/-- Whether an event comes to the same before and after others of its kind: it registers a
structure, or refers to a name that the ledger has. -/
def Event.IsFree (L : Ledger) : Event → Prop
  | .refer target => target ∈ L.names
  | .register e => e.origin.IsStructure

namespace Ledger

variable {L L' M : Ledger}

/-! ## The same entries -/

theorem names_perm (hp : L.Perm L') : L.names.Perm L'.names := hp.map _

/-- What a name stands for does not depend on the order of distinct entries. -/
theorem record?_eq_of_perm (hp : L.Perm L') (hd : L.names.Nodup) (name : String) :
    L'.record? name = L.record? name := by
  cases he : L.record? name with
  | none =>
      have hn : name ∉ L'.names := fun h => record?_eq_none.mp he ((names_perm hp).mem_iff.mpr h)
      exact record?_eq_none.mpr hn
  | some e =>
      have hd' : L'.names.Nodup := (names_perm hp).nodup_iff.mp hd
      rw [← record?_name he]
      exact record?_of_mem hd' (hp.mem_iff.mp (record?_mem he))

theorem step_nodup (hd : L.names.Nodup) {event : Event} (h : L.step event = .ok M) :
    M.names.Nodup := by
  cases event with
  | refer target =>
      obtain ⟨_, rfl⟩ := step_refer_eq_ok.mp h
      exact hd
  | register e =>
      rcases step_register_eq_ok.mp h with ⟨_, _, _, rfl⟩ | ⟨hnew, _, rfl⟩
      · exact hd
      · have hn : e.name ∉ L.names := record?_eq_none.mp hnew
        rw [names_append]
        exact hd.append (List.nodup_singleton _) (List.disjoint_singleton.mpr hn)

/-- One event does the same to both ledgers. -/
theorem step_perm (hp : L.Perm L') (hd : L.names.Nodup) {event : Event}
    (h : L.step event = .ok M) : ∃ M', L'.step event = .ok M' ∧ M.Perm M' := by
  cases event with
  | refer target =>
      obtain ⟨hmem, rfl⟩ := step_refer_eq_ok.mp h
      exact ⟨L', step_refer_eq_ok.mpr ⟨(names_perm hp).mem_iff.mp hmem, rfl⟩, hp⟩
  | register e =>
      have hsame := record?_eq_of_perm hp hd e.name
      rcases step_register_eq_ok.mp h with ⟨old, hold, ha, rfl⟩ | ⟨hnew, hb, rfl⟩
      · exact ⟨L', step_register_eq_ok.mpr (.inl ⟨old, hsame.trans hold, ha, rfl⟩), hp⟩
      · exact ⟨L' ++ [e], step_register_eq_ok.mpr (.inr ⟨hsame.trans hnew, hb, rfl⟩),
          hp.append_right [e]⟩

theorem run_perm (hp : L.Perm L') (hd : L.names.Nodup) {events : List Event}
    (h : L.run events = .ok M) : ∃ M', L'.run events = .ok M' ∧ M.Perm M' := by
  induction events generalizing L L' with
  | nil =>
      cases h
      exact ⟨L', rfl, hp⟩
  | cons event rest ih =>
      obtain ⟨L₁, hstep, hrun⟩ := run_cons_eq_ok.mp h
      obtain ⟨L₁', hstep', hp₁⟩ := step_perm hp hd hstep
      obtain ⟨M', hrun', hp'⟩ := ih hp₁ (step_nodup hd hstep) hrun
      exact ⟨M', run_cons_eq_ok.mpr ⟨L₁', hstep', hrun'⟩, hp'⟩

theorem run_nodup (hd : L.names.Nodup) {events : List Event} (h : L.run events = .ok M) :
    M.names.Nodup := by
  induction events generalizing L with
  | nil =>
      cases h
      exact hd
  | cons event rest ih =>
      obtain ⟨L₁, hstep, hrun⟩ := run_cons_eq_ok.mp h
      exact ih (step_nodup hd hstep) hrun

/-! ## The same events -/

theorem isFree_mono (hp : L <+: L') {event : Event} (h : event.IsFree L) : event.IsFree L' := by
  cases event with
  | refer target => exact (names_mono hp).subset h
  | register e => exact h

/-- A structure is registered again just if it is what its name stands for. -/
theorem step_structure_eq_ok {e : Registration} (hs : e.origin.IsStructure) :
    L.step (.register e) = .ok M ↔
      (L.record? e.name = some e ∧ e.origin.Accepts e.origin ∧ M = L) ∨
        (L.record? e.name = none ∧ Text.isBlank e.name = false ∧ M = L ++ [e]) := by
  rw [step_register_eq_ok]
  constructor
  · rintro (⟨old, hold, ha, rfl⟩ | hnew)
    · have heq : old = e := Registration.eq_of_accepts (record?_name hold) hs ha
      subst heq
      exact .inl ⟨hold, ha, rfl⟩
    · exact .inr hnew
  · rintro (⟨hold, ha, rfl⟩ | hnew)
    · exact .inl ⟨e, hold, ha, rfl⟩
    · exact .inr hnew

/-- Two structures may be registered in either order. -/
theorem step_register_comm {a b : Registration} (ha : a.origin.IsStructure)
    (hb : b.origin.IsStructure) {L₁ L₂ : Ledger} (h₁ : L.step (.register a) = .ok L₁)
    (h₂ : L₁.step (.register b) = .ok L₂) :
    ∃ M₁ M₂, L.step (.register b) = .ok M₁ ∧ M₁.step (.register a) = .ok M₂ ∧ L₂.Perm M₂ := by
  rcases (step_structure_eq_ok ha).mp h₁ with ⟨holda, hrepeat, rfl⟩ | ⟨hnewa, hblank, rfl⟩
  · have hkeep : L₂.step (.register a) = .ok L₂ := step_keep (step_extends h₂) h₁
    exact ⟨L₂, L₂, h₂, hkeep, .refl _⟩
  · have hna : a.name ∉ L.names := record?_eq_none.mp hnewa
    rcases (step_structure_eq_ok hb).mp h₂ with ⟨holdb, hrepeat, rfl⟩ | ⟨hnewb, hblankb, rfl⟩
    · rw [record?_append_new hna] at holdb
      by_cases hname : b.name = a.name
      · rw [if_pos hname] at holdb
        obtain rfl := Option.some.inj holdb
        refine ⟨_, _, h₁, (step_structure_eq_ok ha).mpr (.inl ⟨?_, hrepeat, rfl⟩), .refl _⟩
        rw [record?_append_new hna, if_pos rfl]
      · rw [if_neg hname] at holdb
        exact ⟨L, _, (step_structure_eq_ok hb).mpr (.inl ⟨holdb, hrepeat, rfl⟩), h₁, .refl _⟩
    · rw [record?_append_new hna] at hnewb
      by_cases hname : b.name = a.name
      · rw [if_pos hname] at hnewb
        cases hnewb
      · rw [if_neg hname] at hnewb
        have hnb : b.name ∉ L.names := record?_eq_none.mp hnewb
        have hnewa' : record? (L ++ [b]) a.name = none := by
          rw [record?_append_new hnb, if_neg (Ne.symm hname), hnewa]
        refine ⟨L ++ [b], L ++ [b] ++ [a],
          (step_structure_eq_ok hb).mpr (.inr ⟨hnewb, hblankb, rfl⟩),
          (step_structure_eq_ok ha).mpr (.inr ⟨hnewa', hblank, rfl⟩), ?_⟩
        rw [List.append_assoc, List.append_assoc]
        exact (List.Perm.swap b a []).append_left L

/-- Two free events may be met in either order. -/
theorem step_comm {a b : Event} (ha : a.IsFree L) (hb : b.IsFree L) {L₁ L₂ : Ledger}
    (h₁ : L.step a = .ok L₁) (h₂ : L₁.step b = .ok L₂) :
    ∃ M₁ M₂, L.step b = .ok M₁ ∧ M₁.step a = .ok M₂ ∧ L₂.Perm M₂ := by
  cases a with
  | refer target =>
      obtain ⟨_, rfl⟩ := step_refer_eq_ok.mp h₁
      exact ⟨L₂, L₂, h₂, step_keep (step_extends h₂) h₁, .refl _⟩
  | register e =>
      cases b with
      | refer target =>
          obtain ⟨_, rfl⟩ := step_refer_eq_ok.mp h₂
          exact ⟨L, L₂, step_refer_eq_ok.mpr ⟨hb, rfl⟩, h₁, .refl _⟩
      | register e' => exact step_register_comm ha hb h₁ h₂

/-- Free events may be met in any order, from the same entries in any order. -/
theorem run_reorder {events events' : List Event} (he : events.Perm events')
    (hfree : ∀ event ∈ events, event.IsFree L) (hp : L.Perm L') (hd : L.names.Nodup)
    (h : L.run events = .ok M) : ∃ M', L'.run events' = .ok M' ∧ M.Perm M' := by
  induction he generalizing L L' M with
  | nil => exact run_perm hp hd h
  | cons event _ ih =>
      obtain ⟨L₁, hstep, hrun⟩ := run_cons_eq_ok.mp h
      obtain ⟨L₁', hstep', hp₁⟩ := step_perm hp hd hstep
      have hfree₁ := fun x hx =>
        isFree_mono (step_extends hstep) (hfree x (List.mem_cons_of_mem _ hx))
      obtain ⟨M', hrun', hp'⟩ := ih hfree₁ hp₁ (step_nodup hd hstep) hrun
      exact ⟨M', run_cons_eq_ok.mpr ⟨L₁', hstep', hrun'⟩, hp'⟩
  | swap b a rest =>
      obtain ⟨L₁, h₁, h⟩ := run_cons_eq_ok.mp h
      obtain ⟨L₂, h₂, hrun⟩ := run_cons_eq_ok.mp h
      have ha : a.IsFree L := hfree a (by simp)
      have hb : b.IsFree L := hfree b (by simp)
      obtain ⟨M₁, M₂, hstep₁, hstep₂, hp₂⟩ := step_comm ha hb h₁ h₂
      -- the swapped pair is met first from the same ledger, then from the other one
      obtain ⟨N₁, hN₁, hpN₁⟩ := step_perm hp hd hstep₁
      obtain ⟨N₂, hN₂, hpN₂⟩ := step_perm hpN₁ (step_nodup hd hstep₁) hstep₂
      have hd₂ : L₂.names.Nodup := step_nodup (step_nodup hd h₁) h₂
      obtain ⟨M', hrun', hp'⟩ := run_perm (hp₂.trans hpN₂) hd₂ hrun
      exact ⟨M', run_cons_eq_ok.mpr ⟨N₁, hN₁, run_cons_eq_ok.mpr ⟨N₂, hN₂, hrun'⟩⟩, hp'⟩
  | trans he₁ _ ih₁ ih₂ =>
      obtain ⟨M₁, hrun₁, hp₁⟩ := ih₁ hfree (.refl L) hd h
      have hfree₁ := fun x hx => hfree x (he₁.mem_iff.mpr hx)
      obtain ⟨M₂, hrun₂, hp₂⟩ := ih₂ hfree₁ hp hd hrun₁
      exact ⟨M₂, hrun₂, hp₁.trans hp₂⟩

end Ledger

end ServiceContract
